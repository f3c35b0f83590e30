import ByteMachine.CommandLine.Invocation

/-!
# The command

Reads the program file, runs the program, and writes each line as soon as it is there.
-/

namespace ByteMachine.CommandLine

/-- The reason for a failure of the operating system, which it gives as a number and in words. -/
def systemReason (code : UInt32) (words : String) : ReadError :=
  match code with
  | 20 => .notDirectory
  | 21 => .isDirectory
  | 36 => .nameTooLong
  | _ => .refused (words ++ " (os error " ++ Text.decimal code.toNat ++ ")")

/-- The reason why a file could not be read. -/
def readErrorOf : IO.Error → ReadError
  | .noFileOrDirectory .. => .notFound
  | .inappropriateType _ code words => systemReason code words
  | .invalidArgument _ code words => systemReason code words
  | .permissionDenied _ code words => systemReason code words
  | .resourceExhausted _ code words => systemReason code words
  | .noSuchThing _ code words => systemReason code words
  | .otherError code words => systemReason code words
  | e => .refused (toString e)

/-- The bytes of the file at a path. -/
def readBytes (path : String) : IO ByteArray := do
  let handle ← IO.FS.Handle.mk path .read
  handle.readBinToEnd

/-- The content of the file at a path, or the reason why there is none. -/
def readContent (path : String) : IO (Except ReadError ByteArray) := do
  if path.toList.contains '\x00' then return .error .zeroInName
  try return .ok (← readBytes path)
  catch e => return .error (readErrorOf e)

/-- The name that the command was called by. -/
def callName : IO String := do
  try
    let call ← readBytes "/proc/self/cmdline"
    let name := call.toList.takeWhile (· != 0)
    return (String.fromUTF8? name.toByteArray).getD "ls8"
  catch _ => return "ls8"

/-- Writes what is left to write, and gives the exit code. -/
def finish (outcome : Outcome) : IO UInt32 := do
  IO.print outcome.stdout
  IO.eprint outcome.stderr
  return outcome.exitCode.toUInt32

/-- Adds cycles to a run until it has ended, and writes what comes of each. -/
partial def follow (session : Session) (r : Run) : IO UInt32 := do
  match r.result? with
  | some result =>
    let (exitCode, lastWords) := session.closing result
    finish { exitCode, stdout := "", stderr := lastWords }
  | none =>
    let next := Run.next { r with out := .unlimited, notes := #[] }
    IO.print next.out.text
    IO.eprint (session.shownNotes next)
    follow session next

/-- Runs the command with its arguments, and gives the exit code. -/
def launch (arguments : List String) : IO UInt32 := do
  let keys := [Settings.traceVariable, Settings.warnUnparsableVariable,
    Settings.verbosityVariable]
  let table ← keys.mapM fun key => do return (key, ← IO.getEnv key)
  let invocation : Invocation :=
    { calledAs := ← callName, arguments, environment := fun key => (table.lookup key).join }
  match invocation.path with
  | .error outcome => finish outcome
  | .ok path =>
    match invocation.prepare path (← readContent path) with
    | .error outcome => finish outcome
    | .ok session =>
      IO.eprint session.stderr
      follow session { machine := session.machine }

end ByteMachine.CommandLine

def main (arguments : List String) : IO UInt32 :=
  ByteMachine.CommandLine.launch arguments

import ByteMachine.CommandLine.Arguments
import ByteMachine.Loading
import ByteMachine.Run
import ByteMachine.Settings

/-!
# Invocations of the command

What the command does with its arguments: it loads the program, runs it on a new machine, and
prints what the program prints. An invocation goes through three stages, each of which may be the
last: the arguments are read, the file is read, and the program is run.
-/

namespace ByteMachine.CommandLine

/-- How the command was started: the name it was called by, its arguments and its environment. -/
structure Invocation where
  calledAs : String
  arguments : List String
  environment : String → Option String

/-- What there is to see when the command has ended. -/
structure Outcome where
  exitCode : Nat
  stdout : String
  stderr : String
  deriving DecidableEq

/-- A program that is ready to run, and what has been written to the error stream before. -/
structure Session where
  verbosity : Verbosity
  machine : Machine
  stderr : String

/-- The name that a path ends in, if it ends in a name. -/
def fileName? (path : String) : Option String :=
  match (path.toList.splitOn '/').reverse.filter fun name => name != [] && name != ['.'] with
  | [] => none
  | name :: _ => if name = ['.', '.'] then none else some (String.ofList name)

namespace Invocation

/-- The name of the command in its help. -/
def commandName (i : Invocation) : String :=
  (fileName? i.calledAs).getD "ls8"

def settings (i : Invocation) : Settings :=
  Settings.ofLookup i.environment

def verbosity (i : Invocation) : Verbosity :=
  Settings.verbosity i.environment

/-- The first stage: the path of the program, or the outcome if there is no program to load. -/
def path (i : Invocation) : Except Outcome String :=
  match Request.read i.arguments with
  | .load path => .ok path
  | .help => .error { exitCode := 0, stdout := helpText i.commandName, stderr := "" }
  | .refused reason =>
    .error { exitCode := 2, stdout := "", stderr := reason.message i.commandName }

/-- The messages that are shown on the error stream. -/
def shownLog (i : Invocation) (messages : List Message) : String :=
  String.join (messages.map fun m => (Note.reported m).shown i.verbosity)

/-- The machine for a program. It is traced if the settings ask for it. -/
def machine (i : Invocation) (memory : Memory) : Machine where
  state := { memory }
  tracer := if i.settings.trace then some (.hex .unlimited) else none

/-- The report of an error that ends the command: its wording alone. The line break that can follow
it, and the section behind it on the place where the error arose, are left out. -/
def report (message : String) : String :=
  "Error: " ++ message

/-- The second stage: the program is loaded from the content of its file. -/
def prepare (i : Invocation) (path : String) (content : Except ReadError ByteArray) :
    Except Outcome Session :=
  let loaded := Program.load path i.settings.loaderOptions.warnUnparsable content
  let log := i.shownLog loaded.messages
  match loaded.value with
  | .error e =>
    if e.isMissingSource then
      .error { exitCode := 1, stdout := i.calledAs ++ ": " ++ e.message ++ "\n", stderr := log }
    else .error { exitCode := 1, stdout := "", stderr := log ++ report e.message }
  | .ok program =>
    match Memory.blank.load program.bytes with
    | .error fault =>
      .error { exitCode := 1, stdout := "", stderr := log ++ report fault.message }
    | .ok memory => .ok { verbosity := i.verbosity, machine := i.machine memory, stderr := log }

end Invocation

namespace Session

/-- What a run has written to the error stream. -/
def shownNotes (s : Session) (r : Run) : String :=
  String.join (r.notes.toList.map (Note.shown s.verbosity))

/-- The exit code after a run, and the last words on the error stream. -/
def closing (s : Session) : Except Fault Summary → Nat × String
  | .ok summary => (0, (Note.reported (.finished summary.haltedAt summary.steps)).shown s.verbosity)
  | .error fault => (1, Invocation.report fault.message)

/-- The third stage: the program is run onto an output that takes any text. There is no outcome if
it runs for ever. -/
def outcome? (s : Session) : Option Outcome :=
  let r := s.machine.run .unlimited
  r.result?.map fun result =>
    let (exitCode, lastWords) := s.closing result
    { exitCode, stdout := r.out.text, stderr := s.stderr ++ s.shownNotes r ++ lastWords }

end Session

/-- All stages of an invocation among the given files. There is no outcome if the program runs for
ever. -/
def Invocation.outcome? (i : Invocation) (fs : FileSystem) : Option Outcome :=
  match i.path with
  | .error outcome => some outcome
  | .ok path =>
    match i.prepare path (fs.read path) with
    | .error outcome => some outcome
    | .ok session => session.outcome?

end ByteMachine.CommandLine

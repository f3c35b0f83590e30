import ByteMachine.FileSystem
import ByteMachine.Program

/-!
# Loading programs from files

A file is loaded by reading its content as UTF-8 and parsing the text.
-/

namespace ByteMachine

/-- Why no program could be loaded: there is no text, or the text is no program. -/
inductive LoadError where
  | unreadable (path : String) (reason : ReadError)
  | unusable (reason : ParseError)
  deriving DecidableEq

namespace LoadError

/-- The wording of the error. -/
def message : LoadError → String
  | unreadable path .notFound => path ++ " file not found"
  | unreadable path reason => path ++ " could not be read: " ++ reason.message
  | unusable reason => reason.message

/-- Whether the text itself could not be had, rather than being unusable. -/
def isMissingSource : LoadError → Bool
  | unreadable .. => true
  | unusable _ => false

end LoadError

/-- What can be asked of loading a program. -/
structure LoaderOptions where
  /-- Warn about lines of the program that are skipped. -/
  warnUnparsable : Bool := false
  deriving DecidableEq

namespace Program

/-- The text of a file that has been read. -/
def textOf (content : Except ReadError ByteArray) : Except ReadError String := do
  match String.fromUTF8? (← content) with
  | some text => return text
  | none => throw .notText

/-- What is reported of a program that was loaded from a path. -/
def loadedMessages (path : String) (warnUnparsable : Bool) (p : Program) : List Message :=
  (if warnUnparsable then p.skipped.toList.map (.notLiteral path ·) else []) ++
    [.loaded p.bytes.size path p.skipped.size]

/-- Loads the program whose file was read with the given outcome. -/
def load (path : String) (warnUnparsable : Bool) (content : Except ReadError ByteArray) :
    Logged (Except LoadError Program) :=
  match textOf content with
  | .error reason => .silent (.error (.unreadable path reason))
  | .ok text =>
    match parse text with
    | ⟨messages, .error reason⟩ => ⟨messages, .error (.unusable reason)⟩
    | ⟨messages, .ok p⟩ => ⟨messages ++ loadedMessages path warnUnparsable p, .ok p⟩

end Program

/-- Loads the program in the file at a path. -/
def FileSystem.load (fs : FileSystem) (path : String) (warnUnparsable : Bool) :
    Logged (Except LoadError Program) :=
  Program.load path warnUnparsable (fs.read path)

end ByteMachine

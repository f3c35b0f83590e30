import ByteMachine.Text.Plain
import ByteMachine.Text.Similarity

/-!
# Arguments of the command line

The command takes one argument, the path of a program, and the option `--help`. Whatever else stands
among the arguments is refused with a hint on what may have been meant.
-/

namespace ByteMachine.CommandLine

/-- What may have been meant by an argument that is refused. -/
inductive Hint where
  | none
  /-- The argument itself as a path, which needs `--` in front. -/
  | path
  /-- The option `--help`. -/
  | help
  deriving DecidableEq

/-- Why the arguments are refused. -/
inductive UsageError where
  | missingProgram
  /-- The path is empty. -/
  | emptyProgram
  | unexpected (argument : String) (hint : Hint)
  /-- The option `--help` was given a value. -/
  | helpWithValue (value : String)
  deriving DecidableEq

/-- What the arguments ask for. -/
inductive Request where
  | load (path : String)
  | help
  | refused (reason : UsageError)
  deriving DecidableEq

/-- The kinds of arguments. -/
inductive Argument where
  /-- `--`, behind which all arguments are plain. -/
  | terminator
  /-- `--name` or `--name=value`. -/
  | option (name : List Char) (value : Option (List Char))
  /-- `-` and one or more letters. -/
  | letters (first : Char) (rest : List Char)
  | plain (text : String)
  deriving DecidableEq

namespace Argument

/-- The kind of an argument. A single `-` is plain. -/
def ofString (text : String) : Argument :=
  match text.toList with
  | ['-', '-'] => terminator
  | '-' :: '-' :: rest =>
    option (rest.takeWhile (· != '=')) ((rest.dropWhile (· != '=')).tail?)
  | '-' :: first :: rest => letters first rest
  | _ => plain text

end Argument

namespace Request

/-- The request when all arguments are read, given the path among them if there was one. -/
def ofPath? : Option String → Request
  | none => refused .missingProgram
  | some "" => refused .emptyProgram
  | some path => load path

/-- The request for help. A path before it is checked first. -/
def helpAfter (path? : Option String) : Request :=
  if path? = some "" then refused .emptyProgram else help

/-- Reads plain arguments behind those that gave the path. -/
def ofPlain (path? : Option String) : List String → Request
  | [] => ofPath? path?
  | text :: rest =>
    match path? with
    | none => ofPlain (some text) rest
    | some _ => refused (.unexpected text .none)

/-- What comes of an option that is not known. -/
def ofUnknownOption (name : List Char) : Request :=
  refused (.unexpected ("--" ++ String.ofList name)
    (if Text.areSimilar name "help".toList then .help else .path))

/-- Reads arguments behind those that gave the path. -/
def ofArguments (path? : Option String) : List String → Request
  | [] => ofPath? path?
  | argument :: rest =>
    match Argument.ofString argument with
    | .terminator => ofPlain path? rest
    | .option name value? =>
      if name = "help".toList then
        match value? with
        | none => helpAfter path?
        | some value => refused (.helpWithValue (String.ofList value))
      else ofUnknownOption name
    | .letters first _ =>
      if first = 'h' then helpAfter path?
      else refused (.unexpected (String.ofList ['-', first]) .path)
    | .plain text =>
      match path? with
      | none => ofArguments (some text) rest
      | some _ => refused (.unexpected text .none)

/-- What the arguments ask for. -/
def read (arguments : List String) : Request :=
  ofArguments none arguments

end Request

/-! ### Wording -/

/-- The line that shows the form of the command. -/
def usageLine (name : String) : String :=
  "Usage: " ++ Text.plain name ++ " <PROGRAM>"

/-- The form of the command with the option for help. -/
def usageLineWithHelp (name : String) : String :=
  "Usage: " ++ Text.plain name ++ " --help <PROGRAM>"

/-- The help text. -/
def helpText (name : String) : String :=
  "Run an LS-8 program\n\n" ++ usageLine name ++
    "\n\nArguments:\n  <PROGRAM>  Program file, one binary literal per line" ++
    "\n\nOptions:\n  -h, --help  Print help\n"

/-- A text that was typed, between single quotes. -/
def repeated (text : String) : String :=
  "'" ++ Text.plain text ++ "'"

/-- The tip for a hint, if there is one. -/
def Hint.tip (argument : String) : Hint → String
  | none => ""
  | path => "\n\n  tip: to pass " ++ repeated argument ++ " as a value, use " ++
      repeated ("-- " ++ argument)
  | help => "\n\n  tip: a similar argument exists: '--help'"

/-- The form of the command that goes with a hint. -/
def Hint.usage (name : String) : Hint → String
  | none | path => usageLine name
  | help => usageLineWithHelp name

/-- What is wrong, and how the command is used instead. -/
def UsageError.explanation (name : String) : UsageError → String
  | missingProgram =>
    "the following required arguments were not provided:\n  <PROGRAM>\n\n" ++ usageLine name
  | emptyProgram => "a value is required for '<PROGRAM>' but none was supplied"
  | unexpected argument hint =>
    "unexpected argument " ++ repeated argument ++ " found" ++ hint.tip argument ++ "\n\n" ++
      hint.usage name
  | helpWithValue value =>
    "unexpected value " ++ repeated value ++ " for '--help' found; no more were expected\n\n" ++
      usageLineWithHelp name

/-- The wording of the error, without the styling that a terminal can give it. -/
def UsageError.message (name : String) (e : UsageError) : String :=
  "error: " ++ e.explanation name ++ "\n\nFor more information, try '--help'.\n"

end ByteMachine.CommandLine

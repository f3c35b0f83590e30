/-!
# File system

Files and directories as a tree, and what reading the file at a path gives. A path leads from
directory to directory; it may lead to no file for a number of reasons.
-/

namespace ByteMachine

/-- A file or a directory. -/
inductive Node where
  | file (content : ByteArray)
  | directory (entries : List (String × Node))

/-- The tree of all files, and the directory in which relative paths begin, as the names that lead
there from the root. -/
structure FileSystem where
  root : Node
  working : List String

/-- Why the text of a file could not be had. -/
inductive ReadError where
  | notFound
  | isDirectory
  /-- The path goes on behind a file. -/
  | notDirectory
  /-- The path or one of its names is too long. -/
  | nameTooLong
  /-- The path has a character of code 0. -/
  | zeroInName
  /-- The content is not UTF-8. -/
  | notText
  /-- The operating system gives a reason of its own. -/
  | refused (reason : String)
  deriving DecidableEq

/-- The wording of the reason. -/
def ReadError.message : ReadError → String
  | notFound => "No such file or directory (os error 2)"
  | isDirectory => "Is a directory (os error 21)"
  | notDirectory => "Not a directory (os error 20)"
  | nameTooLong => "File name too long (os error 36)"
  | zeroInName => "file name contained an unexpected NUL byte"
  | notText => "stream did not contain valid UTF-8"
  | refused reason => reason

namespace Node

/-- A directory without entries. -/
def empty : Node := directory []

/-- The entry of a directory, an empty directory if there is none. -/
def entry (name : String) : Node → Node
  | file _ => empty
  | directory entries => (entries.lookup name).getD empty

/-- Puts a node at the end of the names, through directories that are made on the way. -/
def insert (node : Node) : List String → Node → Node
  | [], _ => node
  | name :: names, parent =>
    let child := insert node names (parent.entry name)
    match parent with
    | file _ => directory [(name, child)]
    | directory entries =>
      directory ((name, child) :: entries.filter fun e => e.1 != name)

end Node

namespace FileSystem

/-- The places visited on the way from the root, the last one first. -/
abbrev Trail := List Node

/-- The longest name of a file or directory, in bytes. -/
def nameLimit : Nat := 255

/-- The longest path, in bytes. -/
def pathLimit : Nat := 4095

/-- Goes on from the end of the trail by one name. An empty name and `.` stay where they are, and
`..` goes back, though not out of the root. -/
def enter (name : String) : Trail → Except ReadError Trail
  | [] => .error .notFound
  | .file _ :: _ => .error .notDirectory
  | here@(.directory entries) :: before =>
    if name = "" ∨ name = "." then .ok (here :: before)
    else if name = ".." then .ok (if before.isEmpty then [here] else before)
    else if nameLimit < name.utf8ByteSize then .error .nameTooLong
    else
      match entries.lookup name with
      | some node => .ok (node :: here :: before)
      | none => .error .notFound

/-- Goes on by several names. -/
def walk (trail : Trail) (names : List String) : Except ReadError Trail :=
  names.foldlM (fun trail name => enter name trail) trail

/-- The names in a path. -/
def names (path : String) : List String :=
  (path.toList.splitOn '/').map String.ofList

/-- The trail to the place that a path names. -/
def resolve (fs : FileSystem) (path : String) : Except ReadError Trail := do
  if path.toList.contains '\x00' then throw .zeroInName
  if path = "" then throw .notFound
  if pathLimit < path.utf8ByteSize then throw .nameTooLong
  let start ← if path.toList.head? = some '/' then pure [fs.root] else walk [fs.root] fs.working
  walk start (names path)

/-- The content of the file at a path. -/
def read (fs : FileSystem) (path : String) : Except ReadError ByteArray := do
  match ← fs.resolve path with
  | .file content :: _ => return content
  | .directory _ :: _ => throw .isDirectory
  | [] => throw .notFound

end FileSystem

end ByteMachine

import ByteMachine.Line
import ByteMachine.Log

/-!
# Programs

A program text is read line by line. The lines that hold a byte make up the program; lines that
cannot be read are skipped and remembered; a number above 255 ends the reading.
-/

namespace ByteMachine

/-- The bytes for the first memory cells, and the numbers of the lines that were skipped. Lines are
numbered from 1. -/
structure Program where
  bytes : Array UInt8 := #[]
  skipped : Array Nat := #[]
  deriving DecidableEq

/-- Why a text is no program. -/
inductive ParseError where
  /-- A line holds a number above 255. -/
  | tooWide (line : Nat) (literal : List Char)
  /-- There are more bytes than memory cells. -/
  | tooLarge (size : Nat)
  deriving DecidableEq

/-- The wording of the error. -/
def ParseError.message : ParseError → String
  | tooWide line literal =>
    "line " ++ Text.decimal line ++ ": " ++ String.ofList literal ++ " does not fit in a byte"
  | tooLarge size => tooLargeMessage size

namespace Program

/-- The program with one more byte. -/
def push (p : Program) (b : UInt8) : Program :=
  { p with bytes := p.bytes.push b }

/-- The program with one more line skipped. -/
def skip (p : Program) (number : Nat) : Program :=
  { p with skipped := p.skipped.push number }

/-- The program, if it fits into memory. -/
def checked (p : Program) : Except ParseError Program :=
  if p.bytes.size ≤ 256 then .ok p else .error (.tooLarge p.bytes.size)

/-- Reads the lines from the given number on behind what has been read before. -/
def collect (number : Nat) (p : Program) :
    List (List Char) → Logged (Except ParseError Program)
  | [] => .silent p.checked
  | line :: rest =>
    match Line.read line with
    | .blank => collect (number + 1) p rest
    | .byte b => collect (number + 1) (p.push b) rest
    | .unparsable =>
      (collect (number + 1) (p.skip number) rest).preceded (.skippingLine number line)
    | .tooWide literal => .silent (.error (.tooWide number literal))

/-- Reads a program text. -/
def parse (source : String) : Logged (Except ParseError Program) :=
  collect 1 {} (Text.lines source.toList)

@[simp] theorem collect_nil (number : Nat) (p : Program) :
    collect number p [] = .silent p.checked := rfl

theorem collect_blank {line : List Char} (h : Line.read line = .blank) (number : Nat) (p : Program)
    (rest : List (List Char)) :
    collect number p (line :: rest) = collect (number + 1) p rest := by
  rw [collect, h]

theorem collect_byte {line : List Char} {b : UInt8} (h : Line.read line = .byte b) (number : Nat)
    (p : Program) (rest : List (List Char)) :
    collect number p (line :: rest) = collect (number + 1) (p.push b) rest := by
  rw [collect, h]

theorem collect_unparsable {line : List Char} (h : Line.read line = .unparsable) (number : Nat)
    (p : Program) (rest : List (List Char)) :
    collect number p (line :: rest) =
      (collect (number + 1) (p.skip number) rest).preceded (.skippingLine number line) := by
  rw [collect, h]

theorem collect_tooWide {line literal : List Char} (h : Line.read line = .tooWide literal)
    (number : Nat) (p : Program) (rest : List (List Char)) :
    collect number p (line :: rest) = .silent (.error (.tooWide number literal)) := by
  rw [collect, h]

end Program

end ByteMachine

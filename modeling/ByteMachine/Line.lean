import ByteMachine.Text.Blank
import ByteMachine.Text.Lines

/-!
# Lines of a program text

A line holds at most one byte, written as a binary literal. Everything from the first `#` on is a
comment, and blanks around the literal do not count.
-/

namespace ByteMachine

/-- What a line of a program text says. -/
inductive Line where
  /-- Nothing but blanks and a comment. -/
  | blank
  | byte (value : UInt8)
  /-- A binary literal of a number above 255. -/
  | tooWide (literal : List Char)
  /-- Anything else. -/
  | unparsable
  deriving DecidableEq

/-! ### Binary literals -/

namespace Literal

/-- The value of a binary digit. -/
def digit? : Char → Option Nat
  | '0' => some 0
  | '1' => some 1
  | _ => none

/-- Puts a digit behind the digits of a byte, if the result is still a byte. -/
def extend? (value : UInt8) (c : Char) : Option UInt8 := do
  let extended := 2 * value.toNat + (← digit? c)
  if extended ≤ 255 then some (UInt8.ofNat extended) else none

/-- The byte that binary digits stand for. -/
def byte? (digits : List Char) : Option UInt8 :=
  digits.foldlM extend? 0

/-- Whether a character is a binary digit. -/
def isDigit (c : Char) : Bool :=
  c == '0' || c == '1'

@[simp] theorem byte?_nil : byte? [] = some 0 := rfl

theorem isDigit_iff {c : Char} : isDigit c = true ↔ c = '0' ∨ c = '1' := by
  simp [isDigit]

end Literal

/-! ### Lines -/

namespace Line

/-- What is left of a line without its comment and the blanks around. -/
def code (line : List Char) : List Char :=
  Text.trim (line.takeWhile (· != '#'))

/-- Reads a line whose comment and blanks are gone. -/
def ofCode (code : List Char) : Line :=
  if code = [] then blank
  else if code.all Literal.isDigit then
    match Literal.byte? code with
    | some value => byte value
    | none => tooWide code
  else unparsable

/-- Reads a line. -/
def read (line : List Char) : Line :=
  ofCode (code line)

@[simp] theorem ofCode_nil : ofCode [] = blank := rfl

theorem ofCode_unparsable {code : List Char} (hne : code ≠ [])
    (hd : code.all Literal.isDigit = false) : ofCode code = unparsable := by
  simp [ofCode, hne, hd]

theorem ofCode_byte {code : List Char} {value : UInt8} (hne : code ≠ [])
    (hd : code.all Literal.isDigit = true) (hv : Literal.byte? code = some value) :
    ofCode code = byte value := by
  simp [ofCode, hne, hd, hv]

theorem ofCode_tooWide {code : List Char} (hne : code ≠ [])
    (hd : code.all Literal.isDigit = true) (hv : Literal.byte? code = none) :
    ofCode code = tooWide code := by
  simp [ofCode, hne, hd, hv]

end Line

end ByteMachine

/-!
# Plain text

A message may repeat what somebody typed. Control characters and control sequences are taken out of
it before it is shown, so that nothing repeated can steer the terminal. The sequences are those of
the DEC and ECMA-48 terminals: an escape character opens them, and what ends them depends on the
characters behind it.
-/

namespace ByteMachine.Text

/-- How far a control sequence has come. -/
inductive Sequence where
  /-- There is none. -/
  | none
  /-- An escape character stands there. -/
  | escape
  /-- An escape character with intermediate characters. -/
  | intermediate
  /-- The parameters of a control function, which a letter ends. -/
  | parameters
  /-- The beginning of a device control string. -/
  | header
  /-- A device control string with parameters. -/
  | headerParameters
  /-- A device control string with intermediate characters. -/
  | headerIntermediate
  /-- The content of a device control string or of another string for the device. -/
  | string
  /-- A command for the operating system, which a bell ends. -/
  | command
  deriving DecidableEq

/-- The control characters that lay out a text: tab, line feed, form feed and carriage return. -/
def isLayout (c : Char) : Bool :=
  c == '\t' || c == '\n' || c == '\x0c' || c == '\r'

/-- The characters that a text may show. -/
def isShowable (c : Char) : Bool :=
  isLayout c || (0x20 ≤ c.toNat && c.toNat != 0x7F)

/-- Whether the UTF-8 form of a character holds the byte that terminates a string. -/
def holdsTerminator (c : Char) : Bool :=
  (String.utf8EncodeChar c).contains 0x9C

namespace Sequence

/-- The sequence that a character opens behind an escape character. -/
def opened (c : Char) : Sequence :=
  if c = '[' then parameters
  else if c = ']' then command
  else if c = 'P' then header
  else if c = 'X' ∨ c = '^' ∨ c = '_' then string
  else none

/-- The sequence after one more character of it. A new escape character begins a new sequence, and
the characters of code 18 and 1A break a sequence off. -/
def next (s : Sequence) (c : Char) : Sequence :=
  let n := c.toNat
  if n = 0x1B then escape
  else if n = 0x18 ∨ n = 0x1A then none
  else
    match s with
    | none => none
    | escape =>
      if n < 0x20 ∨ 0x7F ≤ n then escape
      else if n < 0x30 then intermediate
      else opened c
    | intermediate => if 0x30 ≤ n ∧ n < 0x7F then none else intermediate
    | parameters => if 0x40 ≤ n ∧ n < 0x7F then none else parameters
    | header =>
      if n < 0x20 ∨ 0x7F ≤ n then header
      else if n < 0x30 then headerIntermediate
      else if n < 0x40 then headerParameters
      else string
    | headerParameters =>
      if n < 0x20 ∨ 0x7F ≤ n then headerParameters
      else if n < 0x30 then headerIntermediate
      else if n < 0x3C then headerParameters
      else string
    | headerIntermediate => if 0x30 ≤ n ∧ n < 0x7F then string else headerIntermediate
    | string => if holdsTerminator c then none else string
    | command => if n = 0x07 then none else command

/-- Whether a character is shown that stands in the sequence. Some sequences let the layout of the
text through. -/
def lets (s : Sequence) (c : Char) : Bool :=
  match s with
  | none => isShowable c
  | escape | intermediate | parameters => isLayout c
  | header | headerParameters | headerIntermediate | string | command => false

end Sequence

/-- What has been read of a text. A character that a sequence lets through suspends it: what follows
is shown up to the next control character, which takes the sequence up again. -/
structure Screening where
  sequence : Sequence := .none
  suspended : Bool := false
  shown : String := ""

/-- Reads one more character. A character outside ASCII ends a sequence that is suspended. -/
def Screening.next (s : Screening) (c : Char) : Screening :=
  if s.suspended && isShowable c then
    { s with
      sequence := if c.toNat < 0x80 then s.sequence else .none
      shown := s.shown.push c }
  else if s.sequence.lets c then { s with suspended := true, shown := s.shown.push c }
  else { s with sequence := s.sequence.next c, suspended := false }

/-- The text without control characters and control sequences. -/
def plain (text : String) : String :=
  (text.toList.foldl Screening.next {}).shown

end ByteMachine.Text

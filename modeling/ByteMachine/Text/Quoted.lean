import ByteMachine.Text.Numeral
import ByteMachine.Text.Visible

/-!
# Quotations

A text between double quotes, in which every character that could be misread is written out.
-/

namespace ByteMachine.Text

/-- One character of a quotation. A character that is not visible is written as its code point. -/
def escape (c : Char) : String :=
  if c = '"' then "\\\""
  else if c = '\\' then "\\\\"
  else if c = '\n' then "\\n"
  else if c = '\r' then "\\r"
  else if c = '\t' then "\\t"
  else if c = '\x00' then "\\0"
  else if isVisible c then c.toString
  else "\\u\x7b" ++ hex 1 c.toNat ++ "\x7d"

/-- The text in double quotes. -/
def quoted (cs : List Char) : String :=
  cs.foldl (fun text c => text ++ escape c) "\"" ++ "\""

end ByteMachine.Text

/-!
# Lines of a text

A line ends at a line feed, and a carriage return directly before that line feed belongs to the
line end. The last line may lack its line feed; nothing after the last line feed is no line.
-/

namespace ByteMachine.Text

/-- Puts a character in front of the first line, which is begun if there is none. -/
def consLine (c : Char) : List (List Char) → List (List Char)
  | [] => [[c]]
  | l :: ls => (c :: l) :: ls

/-- The lines of a text, without their line ends. -/
def lines : List Char → List (List Char)
  | [] => []
  | c :: cs =>
    if c = '\n' then [] :: lines cs
    else if c = '\r' ∧ cs.head? = some '\n' then lines cs
    else consLine c (lines cs)

@[simp] theorem consLine_nil (c : Char) : consLine c [] = [[c]] := rfl

@[simp] theorem consLine_cons (c : Char) (l : List Char) (ls : List (List Char)) :
    consLine c (l :: ls) = (c :: l) :: ls := rfl

@[simp] theorem lines_nil : lines [] = [] := rfl

@[simp] theorem lines_newline (cs : List Char) : lines ('\n' :: cs) = [] :: lines cs := by
  simp [lines]

@[simp] theorem lines_return_newline (cs : List Char) :
    lines ('\r' :: '\n' :: cs) = [] :: lines cs := by
  simp [lines]

theorem lines_cons {c : Char} {cs : List Char} (hn : c ≠ '\n')
    (hr : ¬(c = '\r' ∧ cs.head? = some '\n')) :
    lines (c :: cs) = consLine c (lines cs) := by
  rw [lines, if_neg hn, if_neg hr]

end ByteMachine.Text

import Mathlib.Tactic.Common
import ByteMachine.Text.Lines

/-!
# The grammar of lines

`Splits` says how a text falls into lines without saying how to find them, and `Text.lines` finds
them: every text falls into lines in exactly one way.
-/

namespace ByteMachine.Text

/-- A text falls into lines: each one has no line feed in it and ends at a line feed, at a carriage
return with a line feed, or, if it is the last one and not empty, at the end of the text. -/
inductive Splits : List Char → List (List Char) → Prop where
  | done : Splits [] []
  | last {line : List Char} (hne : line ≠ []) (hline : '\n' ∉ line) : Splits line [line]
  | feed {line rest : List Char} {ls : List (List Char)} (hline : '\n' ∉ line)
      (hreturn : line.getLast? ≠ some '\r') (hrest : Splits rest ls) :
      Splits (line ++ '\n' :: rest) (line :: ls)
  | returnFeed {line rest : List Char} {ls : List (List Char)} (hline : '\n' ∉ line)
      (hrest : Splits rest ls) : Splits (line ++ '\r' :: '\n' :: rest) (line :: ls)

variable {c : Char} {cs line rest : List Char} {ls : List (List Char)}

/-- A character that is no part of a line end lengthens the first line. -/
theorem Splits.cons (hc : c ≠ '\n') (hend : ¬(c = '\r' ∧ cs.head? = some '\n'))
    (h : Splits cs ls) : Splits (c :: cs) (consLine c ls) := by
  have hmem {line : List Char} (hline : '\n' ∉ line) : '\n' ∉ c :: line := by
    simp [hline, hc.symm]
  cases h with
  | done => exact .last (by simp) (hmem (by simp))
  | last hne hline => exact .last (by simp) (hmem hline)
  | @feed line rest ls hline hreturn hrest =>
    refine .feed (hmem hline) ?_ hrest
    cases line with
    | nil => simpa using hend
    | cons d line => simpa [List.getLast?_cons_cons] using hreturn
  | returnFeed hline hrest => exact .returnFeed (hmem hline) hrest

theorem splits_lines (cs : List Char) : Splits cs (lines cs) := by
  match cs with
  | [] => exact .done
  | c :: cs =>
    by_cases hc : c = '\n'
    · subst hc
      rw [lines_newline]
      exact @Splits.feed [] cs _ (by simp) (by simp) (splits_lines cs)
    · by_cases hend : c = '\r' ∧ cs.head? = some '\n'
      · obtain ⟨rfl, hfeed⟩ := hend
        match cs with
        | d :: cs =>
          obtain rfl : d = '\n' := by simpa using hfeed
          rw [lines_return_newline]
          exact @Splits.returnFeed [] cs _ (by simp) (splits_lines cs)
      · rw [lines_cons hc hend]
        exact (splits_lines cs).cons hc hend

theorem lines_of_no_newline (hne : line ≠ []) (hline : '\n' ∉ line) : lines line = [line] := by
  induction line with
  | nil => exact absurd rfl hne
  | cons c line ih =>
    obtain ⟨hc, hline⟩ := List.ne_and_not_mem_of_not_mem_cons hline
    cases line with
    | nil => rw [lines_cons hc.symm (by simp), lines_nil, consLine_nil]
    | cons d line =>
      have hd : d ≠ '\n' := fun h => hline (h ▸ List.mem_cons_self)
      rw [lines_cons hc.symm (by simp [hd]), ih (by simp) hline, consLine_cons]

theorem lines_feed (hline : '\n' ∉ line) (hreturn : line.getLast? ≠ some '\r') :
    lines (line ++ '\n' :: rest) = line :: lines rest := by
  induction line with
  | nil => exact lines_newline rest
  | cons c line ih =>
    obtain ⟨hc, hline⟩ := List.ne_and_not_mem_of_not_mem_cons hline
    cases line with
    | nil =>
      have hcr : c ≠ '\r' := by simpa using hreturn
      rw [List.singleton_append, lines_cons hc.symm (by simp [hcr]), lines_newline, consLine_cons]
    | cons d line =>
      have hd : d ≠ '\n' := fun h => hline (h ▸ List.mem_cons_self)
      rw [List.cons_append, lines_cons hc.symm (by simp [hd]),
        ih hline (by simpa [List.getLast?_cons_cons] using hreturn), consLine_cons]

theorem lines_returnFeed (hline : '\n' ∉ line) :
    lines (line ++ '\r' :: '\n' :: rest) = line :: lines rest := by
  induction line with
  | nil => exact lines_return_newline rest
  | cons c line ih =>
    obtain ⟨hc, hline⟩ := List.ne_and_not_mem_of_not_mem_cons hline
    have hhead : (line ++ '\r' :: '\n' :: rest).head? ≠ some '\n' := by
      cases line with
      | nil => simp
      | cons d line => simpa using fun h : d = '\n' => hline (h ▸ List.mem_cons_self)
    rw [List.cons_append, lines_cons hc.symm (fun h => hhead h.2), ih hline, consLine_cons]

/-- A text falls into its lines and into no others. -/
theorem splits_iff : Splits cs ls ↔ lines cs = ls := by
  constructor
  · intro h
    induction h with
    | done => exact lines_nil
    | last hne hline => exact lines_of_no_newline hne hline
    | feed hline hreturn hrest ih => rw [lines_feed hline hreturn, ih]
    | returnFeed hline hrest ih => rw [lines_returnFeed hline, ih]
  · rintro rfl
    exact splits_lines cs

/-! ### Texts one after the other -/

/-- No line of the text lacks its line feed. -/
def IsWhole (text : List Char) : Prop := ∀ c ∈ text.getLast?, c = '\n'

instance (text : List Char) : Decidable (IsWhole text) :=
  Option.decidableForallMem _

theorem IsWhole.tail {d : Char} (h : IsWhole (c :: d :: cs)) : IsWhole (d :: cs) := by
  rwa [IsWhole, List.getLast?_cons_cons] at h

theorem lines_ne_nil (h : cs ≠ []) : lines cs ≠ [] := by
  intro hlines
  have hsplits := splits_lines cs
  rw [hlines] at hsplits
  cases hsplits
  exact h rfl

theorem consLine_append (h : ls ≠ []) (c : Char) (ls' : List (List Char)) :
    consLine c (ls ++ ls') = consLine c ls ++ ls' := by
  cases ls with
  | nil => exact absurd rfl h
  | cons l ls => rfl

/-- Behind a text in which no line lacks its line feed, the lines of another text come next. -/
theorem lines_append (h : IsWhole cs) (rest : List Char) :
    lines (cs ++ rest) = lines cs ++ lines rest := by
  induction cs with
  | nil => rfl
  | cons c cs ih =>
    cases cs with
    | nil =>
      obtain rfl : c = '\n' := h c rfl
      rw [List.singleton_append, lines_newline, lines_newline]
      rfl
    | cons d cs =>
      have hnext := ih h.tail
      by_cases hc : c = '\n'
      · rw [hc, List.cons_append, lines_newline, lines_newline, hnext, List.cons_append]
      · by_cases hend : c = '\r' ∧ (d :: cs).head? = some '\n'
        · obtain ⟨rfl, hd⟩ := hend
          obtain rfl : d = '\n' := by simpa using hd
          rwa [List.cons_append, List.cons_append, lines_return_newline, ← lines_newline,
            lines_return_newline, ← lines_newline]
        · rw [List.cons_append, lines_cons hc (by simpa using hend), hnext, lines_cons hc hend,
            consLine_append (lines_ne_nil (by simp))]

end ByteMachine.Text

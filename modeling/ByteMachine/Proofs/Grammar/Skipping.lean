import ByteMachine.Proofs.Grammar.Parsing

/-!
# Skipped lines

The unparsable lines of a text are skipped, as far as they come before any literal above 255. Each
of them is reported when it is come to, and a program remembers the same lines by their numbers.
-/

namespace ByteMachine

namespace Program

variable {number n : Nat} {p q : Program} {line : List Char} {ls : List (List Char)}

/-- The unparsable lines before any literal above 255, each with its number. -/
def skippedLines (number : Nat) : List (List Char) → List (Nat × List Char)
  | [] => []
  | line :: rest =>
    match Line.read line with
    | .unparsable => (number, line) :: skippedLines (number + 1) rest
    | .tooWide _ => []
    | .blank | .byte _ => skippedLines (number + 1) rest

theorem messages_collect (number : Nat) (p : Program) (ls : List (List Char)) :
    (collect number p ls).messages =
      (skippedLines number ls).map fun row => .skippingLine row.1 row.2 := by
  induction ls generalizing number p with
  | nil => rfl
  | cons line ls ih =>
    unfold skippedLines
    cases hk : Line.read line with
    | blank => rw [collect_blank hk, ih]
    | byte b => rw [collect_byte hk, ih]
    | unparsable => rw [collect_unparsable hk, Logged.preceded, ih, List.map_cons]
    | tooWide literal => rw [collect_tooWide hk]; rfl

theorem eq_of_checked (h : p.checked = .ok q) : q = p := by
  unfold checked at h
  split_ifs at h
  exact (Except.ok.inj h).symm

/-- A program remembers the numbers of the lines that were reported. -/
theorem skipped_of_collect (h : (collect number p ls).value = .ok q) :
    q.skipped.toList = p.skipped.toList ++ (skippedLines number ls).map Prod.fst := by
  induction ls generalizing number p with
  | nil => rw [eq_of_checked h, skippedLines, List.map_nil, List.append_nil]
  | cons line ls ih =>
    unfold skippedLines
    cases hk : Line.read line with
    | blank =>
      rw [collect_blank hk] at h
      exact ih h
    | byte b =>
      rw [collect_byte hk] at h
      rw [ih h, push]
    | unparsable =>
      rw [collect_unparsable hk] at h
      rw [ih h, skip, Array.toList_push, List.append_assoc, List.singleton_append, List.map_cons]
    | tooWide literal =>
      rw [collect_tooWide hk] at h
      cases h

theorem skipped_of_parse {source : String} (h : (parse source).value = .ok p) :
    p.skipped.toList = (skippedLines 1 (Text.lines source.toList)).map Prod.fst :=
  skipped_of_collect h

theorem mem_skippedLines_iff : (n, line) ∈ skippedLines number ls ↔
    ∃ i, n = number + i ∧ ls[i]? = some line ∧ Line.read line = .unparsable ∧
      ∀ l ∈ ls.take i, ∀ digits, Line.read l ≠ .tooWide digits := by
  induction ls generalizing number with
  | nil => simp [skippedLines]
  | cons first ls ih =>
    have hfirst : first = line ∧ Line.read line = .unparsable ↔
        first = line ∧ Line.read first = .unparsable :=
      and_congr_right fun h => by rw [h]
    rw [← Nat.or_exists_add_one]
    simp only [skippedLines, List.getElem?_cons_zero, List.getElem?_cons_succ, List.take_zero,
      List.take_succ_cons, List.forall_mem_cons, ← Nat.add_assoc, Nat.add_right_comm number _ 1,
      Option.some.injEq]
    cases hk : Line.read first with
    | blank => simp [ih, hk, hfirst]
    | byte b => simp [ih, hk, hfirst]
    | unparsable => simp [ih, hk, hfirst, @eq_comm _ line first]
    | tooWide literal => simp [hk, hfirst]

theorem pairwise_skippedLines (number : Nat) (ls : List (List Char)) :
    (skippedLines number ls).Pairwise fun row next => row.1 < next.1 := by
  induction ls generalizing number with
  | nil => exact .nil
  | cons line ls ih =>
    unfold skippedLines
    cases Line.read line with
    | blank | byte b => exact ih (number + 1)
    | unparsable =>
      refine List.pairwise_cons.2 ⟨?_, ih (number + 1)⟩
      rintro ⟨n, l⟩ h
      obtain ⟨i, rfl, -⟩ := mem_skippedLines_iff.1 h
      omega
    | tooWide literal => exact .nil

/-- The rows are the unparsable lines that come before any literal above 255, in order and each
with its number. -/
structure AreSkipped (ls : List (List Char)) (rows : List (Nat × List Char)) : Prop where
  ordered : rows.Pairwise fun row next => row.1 < next.1
  mem_iff (n : Nat) (line : List Char) : (n, line) ∈ rows ↔
    ∃ i, n = i + 1 ∧ ls[i]? = some line ∧ Line.Says line .unparsable ∧
      ∀ l ∈ ls.take i, ∀ digits, ¬ Line.Says l (.tooWide digits)

theorem areSkipped_skippedLines (ls : List (List Char)) : AreSkipped ls (skippedLines 1 ls) where
  ordered := pairwise_skippedLines 1 ls
  mem_iff n line := by simp only [mem_skippedLines_iff, Line.says_iff, Nat.add_comm 1, Ne]

theorem mem_skippedLines_of_narrow (hwide : ∀ digits, .tooWide digits ∉ ls.map Line.read) {i : Nat}
    (hi : ls[i]? = some line) (hline : Line.Says line .unparsable) :
    (i + 1, line) ∈ skippedLines 1 ls := by
  refine mem_skippedLines_iff.2 ⟨i, Nat.add_comm i 1, hi, Line.says_iff.1 hline, ?_⟩
  intro l hl digits hread
  exact hwide digits (hread ▸ List.mem_map_of_mem (List.mem_of_mem_take hl))

end Program

end ByteMachine

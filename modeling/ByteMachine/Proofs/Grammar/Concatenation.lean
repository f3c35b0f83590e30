import ByteMachine.Proofs.Grammar.Parsing

/-!
# Texts one after the other

Where a text ends in a line feed, the lines of a text behind it are the lines that come next. So
what the two of them are parsed to together is known from what each is parsed to by itself, whether
that is a program or an error.
-/

namespace ByteMachine

namespace Program

/-- The program followed by another one whose text begins behind so many lines. -/
def append (p : Program) (lines : Nat) (q : Program) : Program where
  bytes := p.bytes ++ q.bytes
  skipped := p.skipped ++ q.skipped.map (· + lines)

/-- The number of bytes of a text that has no literal above 255. -/
def byteCount? : Except ParseError Program → Option Nat
  | .ok p => some p.bytes.size
  | .error (.tooLarge size) => some size
  | .error (.tooWide ..) => none

/-- What two texts come to together, the second one behind so many lines, if they come to these
results by themselves. -/
inductive Joins (lines : Nat) :
    Except ParseError Program → Except ParseError Program → Except ParseError Program → Prop where
  | firstWide (number : Nat) (literal : List Char) (y : Except ParseError Program) :
      Joins lines (.error (.tooWide number literal)) y (.error (.tooWide number literal))
  | secondWide {x : Except ParseError Program}
      (hx : ∀ number literal, x ≠ .error (.tooWide number literal)) (number : Nat)
      (literal : List Char) :
      Joins lines x (.error (.tooWide number literal)) (.error (.tooWide (lines + number) literal))
  | tooLarge {x y : Except ParseError Program} {first second : Nat}
      (hx : byteCount? x = some first) (hy : byteCount? y = some second)
      (h : 256 < first + second) : Joins lines x y (.error (.tooLarge (first + second)))
  | program {p q : Program} (h : p.bytes.size + q.bytes.size ≤ 256) :
      Joins lines (.ok p) (.ok q) (.ok (p.append lines q))

variable {lines : Nat} {p q : Program} {x y z z' : Except ParseError Program}

theorem Joins.unique (h : Joins lines x y z) (h' : Joins lines x y z') : z = z' := by
  cases h with
  | firstWide number literal y =>
    cases h' with
    | firstWide => rfl
    | secondWide hx => exact absurd rfl (hx number literal)
    | tooLarge hx => cases hx
  | secondWide hx number literal =>
    cases h' with
    | firstWide number' literal' => exact absurd rfl (hx number' literal')
    | secondWide => rfl
    | tooLarge hx' hy => cases hy
  | tooLarge hx hy h =>
    cases h' with
    | firstWide => cases hx
    | secondWide => cases hy
    | tooLarge hx' hy' =>
      rw [hx, Option.some.injEq] at hx'
      rw [hy, Option.some.injEq] at hy'
      rw [hx', hy']
    | program h' =>
      cases hx
      cases hy
      exact absurd h' (Nat.not_le.2 h)
  | program h =>
    cases h' with
    | tooLarge hx hy h' =>
      cases hx
      cases hy
      exact absurd h (Nat.not_le.2 h')
    | program => rfl

theorem size_append : (p.append lines q).bytes.size = p.bytes.size + q.bytes.size :=
  Array.size_append

theorem byteCount?_checked (p : Program) : byteCount? p.checked = some p.bytes.size := by
  rw [checked]
  split_ifs <;> rfl

theorem checked_ne_tooWide (p : Program) (number : Nat) (literal : List Char) :
    p.checked ≠ .error (.tooWide number literal) := by
  rw [checked]
  split_ifs <;> simp

theorem joins_checked (lines : Nat) (p q : Program) :
    Joins lines p.checked q.checked (p.append lines q).checked := by
  by_cases h : p.bytes.size + q.bytes.size ≤ 256
  · have hsum := @Joins.program lines p q h
    rwa [checked, if_pos (by omega), checked, if_pos (by omega), checked, size_append, if_pos h]
  · rw [checked.eq_1 (p.append lines q), size_append, if_neg h]
    exact .tooLarge (byteCount?_checked p) (byteCount?_checked q) (Nat.not_le.1 h)

theorem adding_append (kinds kinds' : List Line) :
    adding {} 1 (kinds ++ kinds') =
      (adding {} 1 kinds).append kinds.length (adding {} 1 kinds') := by
  have hshift : kinds'.findIdxs (· = .unparsable) (1 + kinds.length) =
      (kinds'.findIdxs (· = .unparsable) 1).map (· + kinds.length) := by
    rw [List.findIdxs_start (s := 1 + kinds.length), List.findIdxs_start (s := 1), List.map_map]
    simp only [Function.comp_def, Nat.add_assoc]
  simp [append, adding, List.findIdxs_append, hshift]

theorem joins_collect (ls ls' : List (List Char)) :
    Joins ls.length (collect 1 {} ls).value (collect 1 {} ls').value
      (collect 1 {} (ls ++ ls')).value := by
  rcases exists_first_wide ls with hwide | ⟨before, line, digits, after, rfl, hline, hfirst⟩
  · rcases exists_first_wide ls' with hwide' | ⟨before, line, digits, after, rfl, hline, hfirst⟩
    · have hboth : ∀ digits, .tooWide digits ∉ (ls ++ ls').map Line.read := by
        intro digits h
        rw [List.map_append, List.mem_append] at h
        exact h.elim (hwide digits) (hwide' digits)
      rw [collect_of_narrow hwide, collect_of_narrow hwide', collect_of_narrow hboth,
        List.map_append, adding_append, List.length_map]
      exact joins_checked _ _ _
    · have hboth : ∀ digits, .tooWide digits ∉ (ls ++ before).map Line.read := by
        intro digits h
        rw [List.map_append, List.mem_append] at h
        exact h.elim (hwide digits) (hfirst digits)
      rw [collect_of_narrow hwide, collect_of_wide hline hfirst, ← List.append_assoc,
        collect_of_wide hline hboth, List.length_append, Nat.add_assoc]
      exact .secondWide (checked_ne_tooWide _) _ _
  · rw [List.append_assoc, List.cons_append, collect_of_wide hline hfirst,
      collect_of_wide hline hfirst]
    exact .firstWide _ _ _

/-- Behind a text in which no line lacks its line feed, another text can be parsed by itself. -/
theorem parse_append_iff (first second : String) (h : Text.IsWhole first.toList)
    (result : Except ParseError Program) :
    (parse (first ++ second)).value = result ↔
      Joins (Text.lines first.toList).length (parse first).value (parse second).value result := by
  have hjoins := joins_collect (Text.lines first.toList) (Text.lines second.toList)
  rw [← Text.lines_append h, ← String.toList_append] at hjoins
  constructor
  · rintro rfl
    exact hjoins
  · exact hjoins.unique

/-- Of two skipped lines the second one is counted behind the lines of the first text. -/
theorem parse_append_of_skipped_lines :
    let first := "1\nfirst\r\n"
    let second := "second # line\n10"
    Text.IsWhole first.toList ∧
      (parse (first ++ second)).value = .ok { bytes := #[1, 2], skipped := #[2, 3] } := by
  intro first second
  let p : Program := { bytes := #[1], skipped := #[2] }
  let q : Program := { bytes := #[2], skipped := #[1] }
  have hwhole : Text.IsWhole first.toList := by decide
  have hfirst : (parse first).value = .ok p := by decide +kernel
  have hsecond : (parse second).value = .ok q := by decide +kernel
  have hlines : (Text.lines first.toList).length = 2 := by decide +kernel
  have hjoined : p.append 2 q = { bytes := #[1, 2], skipped := #[2, 3] } := by
    decide +kernel
  refine ⟨hwhole, (parse_append_iff first second hwhole _).2 ?_⟩
  rw [hfirst, hsecond, hlines, ← hjoined]
  exact .program (by decide)

end Program

end ByteMachine

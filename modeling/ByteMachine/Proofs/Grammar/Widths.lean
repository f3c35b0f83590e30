import ByteMachine.Proofs.Grammar.Parsing

/-!
# The width of a literal

A literal may have any number of zeros in front. The digits that are left without them start with a
1, so how many they are tells between which powers of two the number lies: a literal is a byte
exactly if they are at most eight.
-/

namespace ByteMachine

namespace Literal

/-- The digits without the zeros in front. -/
def significant (digits : List Char) : List Char :=
  digits.dropWhile (· == '0')

variable {digits : List Char}

theorem value_significant (digits : List Char) : value (significant digits) = value digits := by
  induction digits with
  | nil => rfl
  | cons c digits ih =>
    by_cases hc : c = '0'
    · subst hc
      rw [significant, List.dropWhile_cons_of_pos rfl, ← significant, ih]
      exact (value_replicate_append 1 digits).symm
    · rw [significant, List.dropWhile_cons_of_neg (by simpa using hc)]

theorem significant_eq (hd : ∀ c ∈ digits, c = '0' ∨ c = '1') :
    significant digits = [] ∨ ∃ rest, significant digits = '1' :: rest := by
  cases h : significant digits with
  | nil => exact .inl rfl
  | cons c rest =>
    have hmem : c ∈ digits := by
      apply (List.dropWhile_sublist (· == '0')).mem
      rw [← significant, h]
      exact List.mem_cons_self
    have hnot := List.head?_dropWhile_not (· == '0') digits
    rw [← significant, h] at hnot
    obtain rfl : c = '1' := (hd c hmem).resolve_left (by simpa using hnot)
    exact .inr ⟨rest, rfl⟩

theorem value_lt_two_pow_length (digits : List Char) : value digits < 2 ^ digits.length := by
  have hbit : ∀ d ∈ digits.reverse.map bit, d < 2 := by
    intro d hd
    obtain ⟨c, -, rfl⟩ := List.mem_map.1 hd
    unfold bit
    split_ifs <;> decide
  simpa [value] using Nat.ofDigits_lt_base_pow_length one_lt_two hbit

/-- How many digits are significant tells how large the number is. -/
theorem value_lt_two_pow_iff (hd : ∀ c ∈ digits, c = '0' ∨ c = '1') (n : ℕ) :
    value digits < 2 ^ n ↔ (significant digits).length ≤ n := by
  rw [← value_significant]
  rcases significant_eq hd with h | ⟨rest, h⟩
  · simp [h]
  · have hrest := value_lt_two_pow_length rest
    have hvalue : value ('1' :: rest) = 2 ^ rest.length + value rest := by
      simp [value_cons, bit]
    rw [h, hvalue, List.length_cons]
    constructor
    · intro hlt
      have hpow : 2 ^ rest.length < 2 ^ n := Nat.lt_of_le_of_lt (Nat.le_add_right _ _) hlt
      exact (Nat.pow_lt_pow_iff_right one_lt_two).1 hpow
    · intro hle
      calc 2 ^ rest.length + value rest < 2 ^ rest.length + 2 ^ rest.length := by gcongr
        _ = 2 ^ (rest.length + 1) := by ring
        _ ≤ 2 ^ n := Nat.pow_le_pow_right Nat.two_pos hle

/-! ### Reading a byte -/

theorem byte?_eq_some_iff (hd : ∀ c ∈ digits, c = '0' ∨ c = '1') {b : UInt8} :
    byte? digits = some b ↔ value digits = b.toNat := by
  rw [byte?_eq (Line.all_isDigit_iff.2 hd)]
  split_ifs with hv
  · rw [Option.some_inj, ← UInt8.toNat_inj, UInt8.toNat_ofNat_of_lt' (Nat.lt_succ_of_le hv)]
  · have hb := b.toNat_lt
    exact iff_of_false nofun (by omega)

theorem isSome_byte?_iff (hd : ∀ c ∈ digits, c = '0' ∨ c = '1') :
    (byte? digits).isSome ↔ value digits ≤ 255 := by
  rw [byte?_eq (Line.all_isDigit_iff.2 hd)]
  split_ifs with hv <;> simp [hv]

theorem byte?_replicate_append (hd : ∀ c ∈ digits, c = '0' ∨ c = '1') (zeros : ℕ) :
    byte? (List.replicate zeros '0' ++ digits) = byte? digits := by
  have hall : ∀ c ∈ List.replicate zeros '0' ++ digits, c = '0' ∨ c = '1' :=
    List.forall_mem_append.2 ⟨fun c hc => .inl (List.eq_of_mem_replicate hc), hd⟩
  rw [byte?_eq (Line.all_isDigit_iff.2 hall), byte?_eq (Line.all_isDigit_iff.2 hd),
    value_replicate_append]

/-- A literal that is a line of its own is read as its byte, or as too wide if it is none. -/
theorem read_eq (hne : digits ≠ []) (hd : ∀ c ∈ digits, c = '0' ∨ c = '1') :
    Line.read digits = (byte? digits).elim (.tooWide digits) .byte := by
  have hstrips : Line.Strips ([] ++ digits ++ [] ++ []) digits :=
    Line.strips_of_digits (by simp) (by simp) hd (by simp)
  rw [List.nil_append, List.append_nil, List.append_nil] at hstrips
  have hall := Line.all_isDigit_iff.2 hd
  rw [Line.read, Line.strips_iff.1 hstrips]
  cases hb : byte? digits with
  | none => exact Line.ofCode_tooWide hne hall hb
  | some b => exact Line.ofCode_byte hne hall hb

/-- A literal is a byte exactly if at most eight digits are left without the zeros in front, which
is exactly if its value is at most 255, and then it is that value. More zeros in front change
nothing. Of two literals that are bytes, one behind the other, the first is moved up by the digits
of the second, and together they are the sum if it is at most 255 and no byte otherwise. -/
theorem width_and_value (hne : digits ≠ []) (hd : ∀ c ∈ digits, c = '0' ∨ c = '1') :
    Line.read digits = (byte? digits).elim (.tooWide digits) .byte ∧
    ((byte? digits).isSome ↔ (significant digits).length ≤ 8) ∧
    ((byte? digits).isSome ↔ value digits ≤ 255) ∧
    (∀ b, byte? digits = some b → b.toNat = value digits) ∧
    (∀ zeros, byte? (List.replicate zeros '0' ++ digits) = byte? digits) ∧
    ∀ more t u, (∀ c ∈ more, c = '0' ∨ c = '1') → byte? digits = some t → byte? more = some u →
      ((byte? (digits ++ more)).isSome ↔ t.toNat * 2 ^ more.length + u.toNat ≤ 255) ∧
      ∀ b, byte? (digits ++ more) = some b → b.toNat = t.toNat * 2 ^ more.length + u.toNat := by
  have hwidth : value digits ≤ 255 ↔ (significant digits).length ≤ 8 := by
    rw [← value_lt_two_pow_iff hd]
    exact Nat.lt_succ_iff.symm
  refine ⟨read_eq hne hd, (isSome_byte?_iff hd).trans hwidth, isSome_byte?_iff hd,
    fun b hb => ((byte?_eq_some_iff hd).1 hb).symm, byte?_replicate_append hd, ?_⟩
  intro more t u hmore ht hu
  have hboth := List.forall_mem_append.2 ⟨hd, hmore⟩
  have hvalue : value (digits ++ more) = t.toNat * 2 ^ more.length + u.toNat := by
    rw [value_append, (byte?_eq_some_iff hd).1 ht, (byte?_eq_some_iff hmore).1 hu]
  rw [isSome_byte?_iff hboth, hvalue]
  refine ⟨Iff.rfl, fun b hb => ?_⟩
  rw [← hvalue, (byte?_eq_some_iff hboth).1 hb]

theorem width_and_value_of_nine_digits :
    let digits := List.replicate 5 '0' ++ List.replicate 4 '1'
    digits ≠ [] ∧ (∀ c ∈ digits, c = '0' ∨ c = '1') ∧ Line.read digits = .byte 15 ∧
      (byte? (digits ++ ['0', '0', '0', '1'])).isSome ∧
      ¬(byte? (digits ++ ['0', '0', '0', '0', '1'])).isSome := by
  have hne : List.replicate 5 '0' ++ List.replicate 4 '1' ≠ [] := by decide
  have hd : ∀ c ∈ List.replicate 5 '0' ++ List.replicate 4 '1', c = '0' ∨ c = '1' :=
    Line.all_isDigit_iff.1 rfl
  obtain ⟨hread, -, -, -, -, happend⟩ := width_and_value hne hd
  have hfour := happend ['0', '0', '0', '1'] 15 1 (Line.all_isDigit_iff.1 rfl) rfl rfl
  have hfive := happend ['0', '0', '0', '0', '1'] 15 1 (Line.all_isDigit_iff.1 rfl) rfl rfl
  exact ⟨hne, hd, hread, hfour.1.2 (by decide), mt hfive.1.1 (by decide)⟩

end Literal

end ByteMachine

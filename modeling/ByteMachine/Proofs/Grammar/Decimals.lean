import ByteMachine.Proofs.Grammar.Lines
import ByteMachine.Text.Numeral

/-!
# Lines of decimal numbers

A number is printed in decimal, on a line of its own. No digit is a line feed, so the lines can be
told apart again, and each of them is read back as the number that it was printed for. A text of
such lines and the sequence of its numbers are therefore as good as each other.
-/

namespace ByteMachine.Text

variable {c : Char} {n : Nat} {ns : List Nat}

/-! ### Digits -/

theorem isDigit_of_mem_decimal (h : c ∈ (decimal n).toList) : c.isDigit = true := by
  simp only [toList_decimal, digits, List.leftpad, List.mem_append, List.mem_replicate] at h
  rcases h with ⟨-, rfl⟩ | h
  · rfl
  · exact Nat.isDigit_of_mem_toDigits (by decide) (by decide) h

theorem newline_not_mem_decimal (n : Nat) : '\n' ∉ (decimal n).toList := by
  intro h
  exact absurd (isDigit_of_mem_decimal h) (by decide)

/-- There is nothing to fill up in front of a decimal number. -/
theorem toList_decimal_eq_toDigits (n : Nat) : (decimal n).toList = Nat.toDigits 10 n := by
  have hpad : 1 - (Nat.toDigits 10 n).length = 0 := Nat.sub_eq_zero_of_le Nat.length_toDigits_pos
  rw [toList_decimal, digits, List.leftpad, hpad, List.replicate_zero, List.nil_append]

/-- The first digit of a number is that of its tenth, unless it is the only one. -/
theorem head?_toDigits_of_le (h : 10 ≤ n) :
    (Nat.toDigits 10 n).head? = (Nat.toDigits 10 (n / 10)).head? := by
  rw [Nat.toDigits_of_base_le (by decide) h, List.head?_append,
    List.head?_eq_some_head Nat.toDigits_ne_nil, Option.some_or]

theorem head?_toDigits_ne_zero (h : n ≠ 0) : (Nat.toDigits 10 n).head? ≠ some '0' := by
  induction n using Nat.strongRecOn with
  | ind n ih =>
    by_cases hten : 10 ≤ n
    · rw [head?_toDigits_of_le hten]
      apply ih _ (Nat.div_lt_self (Nat.pos_of_ne_zero h) (by decide))
      exact Nat.ne_of_gt (Nat.div_pos hten (by decide))
    · rw [Nat.toDigits_of_lt_base (Nat.not_le.1 hten)]
      simpa using h

/-! ### Numbers -/

/-- Reads a decimal number: one digit or more, and nothing else. -/
def number? (line : List Char) : Option Nat :=
  if line ≠ [] ∧ line.all Char.isDigit then some (Nat.ofDigitChars 10 line 0) else none

theorem number?_decimal (n : Nat) : number? (decimal n).toList = some n := by
  have hdigits : (decimal n).toList.all Char.isDigit = true :=
    List.all_eq_true.2 fun c hc => isDigit_of_mem_decimal hc
  rw [toList_decimal_eq_toDigits] at hdigits ⊢
  rw [number?, if_pos ⟨Nat.toDigits_ne_nil, hdigits⟩, Nat.ofDigitChars_ten_toDigits]

/-- A decimal number of one to three digits, without a sign and without a zero in front that it does
not need. -/
structure IsShortDecimal (line : List Char) : Prop where
  digits : ∀ c ∈ line, c.isDigit = true
  length_pos : 0 < line.length
  length_le : line.length ≤ 3
  head_ne : line ≠ ['0'] → line.head? ≠ some '0'

theorem isShortDecimal_decimal (h : n < 1000) : IsShortDecimal (decimal n).toList where
  digits _ := isDigit_of_mem_decimal
  length_pos := by
    rw [toList_decimal_eq_toDigits]
    exact Nat.length_toDigits_pos
  length_le := by
    rw [toList_decimal_eq_toDigits]
    exact (Nat.length_toDigits_le_iff (by decide) (by decide)).2 h
  head_ne hne := by
    rw [toList_decimal_eq_toDigits] at hne ⊢
    apply head?_toDigits_ne_zero
    rintro rfl
    exact hne (Nat.toDigits_zero 10)

/-! ### Lines -/

/-- The numbers, each on a line of its own. -/
def decimalLines (ns : List Nat) : String :=
  String.join (ns.map fun n => decimal n ++ "\n")

@[simp] theorem decimalLines_nil : decimalLines [] = "" := rfl

theorem decimalLines_singleton (n : Nat) : decimalLines [n] = decimal n ++ "\n" := by
  rw [decimalLines, List.map_singleton, String.join_cons, String.join_nil, String.append_empty]

theorem decimalLines_append (first second : List Nat) :
    decimalLines (first ++ second) = decimalLines first ++ decimalLines second := by
  rw [decimalLines, List.map_append, String.join_append]
  rfl

theorem toList_decimalLines_cons (n : Nat) (ns : List Nat) :
    (decimalLines (n :: ns)).toList = (decimal n).toList ++ '\n' :: (decimalLines ns).toList := by
  rw [decimalLines, List.map_cons, String.join_cons, String.toList_append, String.toList_append,
    List.append_assoc]
  rfl

theorem lines_decimalLines (ns : List Nat) :
    lines (decimalLines ns).toList = ns.map fun n => (decimal n).toList := by
  induction ns with
  | nil => exact lines_nil
  | cons n ns ih =>
    have hreturn : (decimal n).toList.getLast? ≠ some '\r' := by
      intro h
      exact absurd (isDigit_of_mem_decimal (List.mem_of_getLast? h)) (by decide)
    rw [toList_decimalLines_cons, lines_feed (newline_not_mem_decimal n) hreturn, ih, List.map_cons]

theorem count_newline_decimalLines (ns : List Nat) :
    (decimalLines ns).toList.count '\n' = ns.length := by
  induction ns with
  | nil => rfl
  | cons n ns ih =>
    rw [toList_decimalLines_cons, List.count_append, List.count_cons_self, ih,
      List.count_eq_zero.2 (newline_not_mem_decimal n), Nat.zero_add, List.length_cons]

theorem decimalLines_ends (ns : List Nat) :
    decimalLines ns = "" ∨ ∃ front, decimalLines ns = front ++ "\n" := by
  rcases ns.eq_nil_or_concat with rfl | ⟨earlier, n, rfl⟩
  · exact .inl rfl
  · right
    refine ⟨decimalLines earlier ++ decimal n, ?_⟩
    rw [List.concat_eq_append, decimalLines_append, decimalLines_singleton, String.append_assoc]

/-- Lines of numbers are read back as the numbers. -/
theorem map_number?_lines_decimalLines (ns : List Nat) :
    (lines (decimalLines ns).toList).map number? = ns.map some := by
  simp only [lines_decimalLines, List.map_map, Function.comp_def, number?_decimal]

theorem decimalLines_injective : Function.Injective decimalLines := by
  intro ns ns' h
  have hread := congrArg (fun text : String => (lines text.toList).map number?) h
  simp only [map_number?_lines_decimalLines] at hread
  exact (List.map_inj_right fun _ _ => Option.some.inj).1 hread

end ByteMachine.Text

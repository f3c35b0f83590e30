import Mathlib.Data.Nat.Digits.Defs
import ByteMachine.Line

/-!
# The value of a literal

A binary literal stands for a number of any size. Reading it digit by digit into a byte gives that
number as long as it is at most 255, and nothing otherwise: no digit that follows brings back a
number that has once become too large.
-/

namespace ByteMachine.Literal

/-- The number that a digit stands for. -/
def bit (c : Char) : Nat :=
  if c = '1' then 1 else 0

/-- The number that binary digits stand for, the last one being the lowest. -/
def value (digits : List Char) : Nat :=
  Nat.ofDigits 2 (digits.reverse.map bit)

variable {c : Char} {digits : List Char}

@[simp] theorem value_nil : value [] = 0 := rfl

theorem value_append (first second : List Char) :
    value (first ++ second) = value first * 2 ^ second.length + value second := by
  simp only [value, List.reverse_append, List.map_append, Nat.ofDigits_append, List.length_map,
    List.length_reverse]
  ring

theorem value_cons (c : Char) (digits : List Char) :
    value (c :: digits) = bit c * 2 ^ digits.length + value digits := by
  rw [← List.singleton_append, value_append]
  simp [value]

/-- Zeros in front do not count. -/
theorem value_replicate_append (zeros : Nat) (digits : List Char) :
    value (List.replicate zeros '0' ++ digits) = value digits := by
  induction zeros with
  | zero => rfl
  | succ zeros ih =>
    rw [List.replicate_succ, List.cons_append, value_cons, ih]
    simp [bit]

theorem extend?_of_isDigit (hc : isDigit c = true) (v : UInt8) :
    extend? v c =
      if 2 * v.toNat + bit c ≤ 255 then some (.ofNat (2 * v.toNat + bit c)) else none := by
  rcases isDigit_iff.1 hc with rfl | rfl <;> rfl

/-- The digits that are still to come move the number so far up by their places. -/
theorem foldlM_extend? (hd : digits.all isDigit = true) (v : UInt8) :
    digits.foldlM extend? v =
      if v.toNat * 2 ^ digits.length + value digits ≤ 255
      then some (.ofNat (v.toNat * 2 ^ digits.length + value digits)) else none := by
  induction digits generalizing v with
  | nil =>
    have hv : v.toNat ≤ 255 := Nat.le_of_lt_succ v.toNat_lt
    simp [hv]
  | cons c digits ih =>
    obtain ⟨hc, hd⟩ : isDigit c = true ∧ digits.all isDigit = true := by simpa using hd
    have hshift : v.toNat * 2 ^ (c :: digits).length + value (c :: digits) =
        (2 * v.toNat + bit c) * 2 ^ digits.length + value digits := by
      rw [value_cons, List.length_cons]
      ring
    rw [List.foldlM_cons, extend?_of_isDigit hc, hshift]
    by_cases hv : 2 * v.toNat + bit c ≤ 255
    · have hv' : (UInt8.ofNat (2 * v.toNat + bit c)).toNat = 2 * v.toNat + bit c :=
        UInt8.toNat_ofNat_of_lt' (Nat.lt_succ_of_le hv)
      rw [if_pos hv, Option.bind_eq_bind, Option.bind_some, ih hd, hv']
    · have hlarge : 2 * v.toNat + bit c ≤ (2 * v.toNat + bit c) * 2 ^ digits.length :=
        Nat.le_mul_of_pos_right _ (Nat.two_pow_pos _)
      rw [if_neg hv, if_neg (by omega)]
      rfl

/-- A literal is a byte exactly if its value is at most 255, and then it is that value. -/
theorem byte?_eq (hd : digits.all isDigit = true) :
    byte? digits = if value digits ≤ 255 then some (.ofNat (value digits)) else none := by
  rw [byte?, foldlM_extend? hd]
  simp

end ByteMachine.Literal

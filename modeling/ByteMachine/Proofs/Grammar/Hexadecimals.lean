import Mathlib.Tactic.Common
import ByteMachine.Text.Numeral

/-!
# Hexadecimal numbers

A number that is printed in upper case hexadecimal is read back, whatever it was filled up to. So a
width for two digits loses nothing of a number that needs three.
-/

namespace ByteMachine.Text

/-- The value of a hexadecimal digit in upper case. -/
def hexValue? (c : Char) : Option Nat :=
  if '0' ≤ c ∧ c ≤ '9' then some (c.toNat - '0'.toNat)
  else if 'A' ≤ c ∧ c ≤ 'F' then some (10 + (c.toNat - 'A'.toNat))
  else none

/-- The number with one more digit. -/
def extendHex? (n : Nat) (c : Char) : Option Nat :=
  (hexValue? c).map (16 * n + ·)

/-- Reads a hexadecimal number: one upper case digit or more, and nothing else. -/
def hexNumber? (cs : List Char) : Option Nat :=
  if cs = [] then none else cs.foldlM extendHex? 0

/-- Reads a hexadecimal number of a byte. -/
def hexByte? (cs : List Char) : Option UInt8 :=
  (hexNumber? cs).bind fun n => if n < 256 then some (.ofNat n) else none

theorem hexValue?_digitChar {d : Nat} (hd : d < 16) :
    hexValue? (Nat.digitChar d).toUpper = some d := by
  revert d
  decide

theorem foldlM_extendHex?_zeros (width : Nat) :
    (List.replicate width '0').foldlM extendHex? 0 = some 0 := by
  induction width with
  | zero => rfl
  | succ width ih => exact ih

theorem foldlM_extendHex?_toDigits (n : Nat) :
    ((Nat.toDigits 16 n).map Char.toUpper).foldlM extendHex? 0 = some n := by
  induction n using Nat.strongRecOn with
  | ind n ih =>
    rw [Nat.toDigits_eq_if (by decide)]
    split_ifs with hn
    · simp [extendHex?, hexValue?_digitChar hn]
    · have hdigit : hexValue? (Nat.digitChar (n % 16)).toUpper = some (n % 16) :=
        hexValue?_digitChar (Nat.mod_lt n (by decide))
      rw [List.map_append, List.foldlM_append, ih (n / 16) (by omega)]
      simp [extendHex?, hdigit, Nat.div_add_mod]

/-- A number is read back from its hexadecimal form, however many zeros are in front of it. -/
theorem hexNumber?_upperHex (width n : Nat) : hexNumber? (upperHex width n).toList = some n := by
  have hne : (upperHex width n).toList ≠ [] := by
    simp [toList_upperHex, digits, List.leftpad, Nat.toDigits_ne_nil]
  rw [hexNumber?, if_neg hne, toList_upperHex, digits, List.leftpad, List.map_append,
    List.map_replicate, List.foldlM_append]
  change (List.foldlM extendHex? 0 (List.replicate _ '0')).bind _ = _
  rw [foldlM_extendHex?_zeros, Option.bind_some, foldlM_extendHex?_toDigits]

theorem hexByte?_upperHex (width : Nat) (b : UInt8) :
    hexByte? (upperHex width b.toNat).toList = some b := by
  rw [hexByte?, hexNumber?_upperHex, Option.bind_some, if_pos b.toNat_lt, UInt8.ofNat_toNat]

theorem mapM_hexByte?_upperHex (width : Nat) (bs : List UInt8) :
    (bs.map fun b => (upperHex width b.toNat).toList).mapM hexByte? = some bs := by
  induction bs with
  | nil => rfl
  | cons b bs ih => simp [hexByte?_upperHex, ih]

end ByteMachine.Text

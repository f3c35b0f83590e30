/-!
# Numerals

Numbers in the notations of messages and traces. The padded forms have at least the stated number
of digits, and more if the number needs them.
-/

namespace ByteMachine.Text

/-- The digits of a number, filled up with zeros on the left. -/
def digits (base width n : Nat) : List Char :=
  (Nat.toDigits base n).leftpad width '0'

/-- Decimal without padding. -/
def decimal (n : Nat) : String :=
  String.ofList (digits 10 1 n)

/-- Lower case hexadecimal. -/
def hex (width n : Nat) : String :=
  String.ofList (digits 16 width n)

/-- Upper case hexadecimal. -/
def upperHex (width n : Nat) : String :=
  String.ofList ((digits 16 width n).map Char.toUpper)

/-- Binary. -/
def binary (width n : Nat) : String :=
  String.ofList (digits 2 width n)

/-- An address in a message: two or more hexadecimal digits after `0x`. -/
def address (n : Nat) : String :=
  "0x" ++ hex 2 n

/-- A byte in a message: its eight binary digits after `0b`. -/
def bits (b : UInt8) : String :=
  "0b" ++ binary 8 b.toNat

@[simp] theorem length_digits (base width n : Nat) :
    (digits base width n).length = max width (Nat.toDigits base n).length := by
  simp [digits, List.leftpad]
  omega

theorem toList_decimal (n : Nat) : (decimal n).toList = digits 10 1 n := by
  simp [decimal]

theorem toList_upperHex (width n : Nat) :
    (upperHex width n).toList = (digits 16 width n).map Char.toUpper := by
  simp [upperHex]

/-! ### The digits of a number -/

theorem exists_digitChar_of_mem_toDigits {base n : Nat} {c : Char} (hbase : 1 < base)
    (h : c ∈ Nat.toDigits base n) : ∃ d < base, c = Nat.digitChar d := by
  induction n using Nat.strongRecOn with
  | ind n ih =>
    rw [Nat.toDigits_eq_if hbase] at h
    split at h
    case isTrue hn => exact ⟨n, hn, List.mem_singleton.1 h⟩
    case isFalse hn =>
      rw [List.mem_append, List.mem_singleton] at h
      rcases h with h | h
      · exact ih (n / base) (Nat.div_lt_self (by omega) hbase) h
      · exact ⟨n % base, Nat.mod_lt n (by omega), h⟩

/-- A number that needs no third digit has exactly two. -/
theorem digits_two_of_lt {base n : Nat} (hbase : 1 < base) (hn : n < base * base) :
    digits base 2 n = [Nat.digitChar (n / base), Nat.digitChar (n % base)] := by
  rw [digits, Nat.toDigits_eq_if hbase]
  split
  case isTrue hlt => simp [List.leftpad, Nat.div_eq_of_lt hlt, Nat.mod_eq_of_lt hlt]
  case isFalse hge =>
    have hdiv : n / base < base := Nat.div_lt_of_lt_mul hn
    simp [List.leftpad, Nat.toDigits_of_lt_base hdiv]

end ByteMachine.Text

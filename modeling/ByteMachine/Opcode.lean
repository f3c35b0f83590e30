/-!
# Opcodes

The six operations of the machine, the byte that stands for each in memory, and the number of
operand bytes that follow it there. A byte that stands for none of them stops the machine.
-/

namespace ByteMachine

/-- The operations. -/
inductive Opcode where
  /-- Store a byte in a register. -/
  | ldi
  /-- Print a register. -/
  | prn
  /-- Compare two registers. -/
  | cmp
  /-- Jump. -/
  | jmp
  /-- Jump if the last comparison found equal values. -/
  | jeq
  /-- Jump unless the last comparison found equal values. -/
  | jne
  deriving DecidableEq

namespace Opcode

/-- The byte that stands for the operation in memory. -/
def byte : Opcode → UInt8
  | ldi => 0b10000010
  | prn => 0b01000111
  | cmp => 0b10100111
  | jmp => 0b01010100
  | jeq => 0b01010101
  | jne => 0b01010110

/-- The operation that a byte stands for. -/
def ofByte? : UInt8 → Option Opcode
  | 0b10000010 => some ldi
  | 0b01000111 => some prn
  | 0b10100111 => some cmp
  | 0b01010100 => some jmp
  | 0b01010101 => some jeq
  | 0b01010110 => some jne
  | _ => none

/-- The number of operand bytes. -/
def operandCount : Opcode → Nat
  | ldi | cmp => 2
  | prn | jmp | jeq | jne => 1

/-- The number of bytes that the operation takes in memory with its operands. -/
def length (op : Opcode) : Nat :=
  1 + op.operandCount

def mnemonic : Opcode → String
  | ldi => "LDI"
  | prn => "PRN"
  | cmp => "CMP"
  | jmp => "JMP"
  | jeq => "JEQ"
  | jne => "JNE"

@[simp] theorem ofByte?_byte (op : Opcode) : ofByte? op.byte = some op := by
  cases op <;> rfl

theorem byte_of_ofByte? {b : UInt8} {op : Opcode} (h : ofByte? b = some op) : op.byte = b := by
  unfold ofByte? at h
  split at h <;> cases h <;> rfl

theorem ofByte?_eq_none_iff {b : UInt8} : ofByte? b = none ↔ ∀ op : Opcode, op.byte ≠ b := by
  constructor
  · intro h op hop
    rw [← hop, ofByte?_byte] at h
    cases h
  · intro h
    cases hop : ofByte? b with
    | none => rfl
    | some op => exact absurd (byte_of_ofByte? hop) (h op)

theorem byte_injective {a b : Opcode} (h : a.byte = b.byte) : a = b := by
  have := congrArg ofByte? h
  simpa using this

end Opcode

end ByteMachine

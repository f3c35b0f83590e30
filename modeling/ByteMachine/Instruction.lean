import ByteMachine.Opcode
import ByteMachine.Fault

/-!
# Instructions

An instruction is an operation with its operand bytes. In memory it is the byte of the operation
followed by the operands, and it is read back from the cells at the program counter.
-/

namespace ByteMachine

/-- The instructions with their operands, in the order in which they stand in memory. -/
inductive Instruction where
  | ldi (register value : UInt8)
  | prn (register : UInt8)
  | cmp (left right : UInt8)
  | jmp (register : UInt8)
  | jeq (register : UInt8)
  | jne (register : UInt8)
  deriving DecidableEq

namespace Instruction

def opcode : Instruction → Opcode
  | ldi .. => .ldi
  | prn _ => .prn
  | cmp .. => .cmp
  | jmp _ => .jmp
  | jeq _ => .jeq
  | jne _ => .jne

def operands : Instruction → List UInt8
  | ldi r v => [r, v]
  | cmp a b => [a, b]
  | prn r | jmp r | jeq r | jne r => [r]

/-- The number of memory cells that the instruction takes. -/
def length (i : Instruction) : Nat :=
  i.opcode.length

/-- The bytes of the instruction in memory. -/
def encode (i : Instruction) : List UInt8 :=
  i.opcode.byte :: i.operands

/-- Completes an operation with its operands, which are numbered from 1. -/
def complete (operand : Nat → Except Fault UInt8) : Opcode → Except Fault Instruction
  | .ldi => do return ldi (← operand 1) (← operand 2)
  | .prn => do return prn (← operand 1)
  | .cmp => do return cmp (← operand 1) (← operand 2)
  | .jmp => do return jmp (← operand 1)
  | .jeq => do return jeq (← operand 1)
  | .jne => do return jne (← operand 1)

@[simp] theorem length_operands (i : Instruction) : i.operands.length = i.opcode.operandCount := by
  cases i <;> rfl

@[simp] theorem length_encode (i : Instruction) : i.encode.length = i.length := by
  cases i <;> rfl

end Instruction

/-- What the cells at the program counter hold: an instruction, or a byte that stops the machine. -/
inductive Decoded where
  | instruction (i : Instruction)
  | halt (byte : UInt8)
  deriving DecidableEq

namespace Decoded

def operands : Decoded → List UInt8
  | instruction i => i.operands
  | halt _ => []

/-- An operand by its place from 0, and 0 if there is none in that place. -/
def operand (d : Decoded) (place : Nat) : UInt8 :=
  d.operands[place]?.getD 0

end Decoded

/-- Reads what stands at `pc`. Only the cell at `pc` and the cells of the operands are looked at,
and the operands only if the first cell holds an opcode. -/
def decode (cell : Nat → Option UInt8) (pc : Nat) : Except Fault Decoded :=
  match cell pc with
  | none => .error (.pcOutOfRange pc)
  | some byte =>
    match Opcode.ofByte? byte with
    | none => .ok (.halt byte)
    | some op =>
      .instruction <$> Instruction.complete (fun k =>
        match cell (pc + k) with
        | some b => .ok b
        | none => .error (.fetchOutOfRange pc)) op

theorem decode_of_none {cell : Nat → Option UInt8} {pc : Nat} (h : cell pc = none) :
    decode cell pc = .error (.pcOutOfRange pc) := by
  rw [decode, h]

theorem decode_of_ofByte?_none {cell : Nat → Option UInt8} {pc : Nat} {b : UInt8}
    (h : cell pc = some b) (hb : Opcode.ofByte? b = none) : decode cell pc = .ok (.halt b) := by
  simp [decode, h, hb]

end ByteMachine

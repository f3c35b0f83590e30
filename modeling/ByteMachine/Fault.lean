import ByteMachine.Text.Numeral

/-!
# Faults

What can go wrong when a machine is loaded, inspected or run. A byte that is no opcode is no fault:
it stops the machine.
-/

namespace ByteMachine

/-- The causes of failure. -/
inductive Fault where
  /-- There is no register of this number. -/
  | registerOutOfRange (index : UInt8)
  /-- There is no memory cell at this address. -/
  | addressOutOfRange (address : Nat)
  /-- The program counter points at no memory cell. -/
  | pcOutOfRange (pc : Nat)
  /-- The operands of the instruction at `pc` reach past the last memory cell. -/
  | fetchOutOfRange (pc : Nat)
  /-- There are more bytes than memory cells. -/
  | programTooLarge (size : Nat)
  /-- The output did not take a whole line. -/
  | outputRefused
  deriving DecidableEq

/-- How a writer words that it took only a part of a text. -/
def refusal : String := "failed to write whole buffer"

/-- How a load of too many bytes is worded. -/
def tooLargeMessage (size : Nat) : String :=
  "program of " ++ Text.decimal size ++ " bytes does not fit in 256 bytes of memory"

/-- The wording of a fault. -/
def Fault.message : Fault → String
  | registerOutOfRange index =>
    "register index " ++ Text.decimal index.toNat ++ " out of range (registers: 8)"
  | addressOutOfRange address => "memory address " ++ Text.address address ++ " out of range"
  | pcOutOfRange pc => "program counter " ++ Text.decimal pc ++ " past end of memory"
  | fetchOutOfRange pc => "instruction at " ++ Text.address pc ++ " runs past end of memory"
  | programTooLarge size => tooLargeMessage size
  | outputRefused => "failed to write output: " ++ refusal

end ByteMachine

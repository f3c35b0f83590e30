import ByteMachine.Flags
import ByteMachine.Instruction
import ByteMachine.Memory
import ByteMachine.Sink

/-!
# Execution

The state of a machine, and what one cycle does to it: the instruction at the program counter is
decoded and executed. A cycle that fails leaves the state as it was.
-/

namespace ByteMachine

/-- The program counter, the registers, the flags and the memory. -/
structure State where
  pc : Nat := 0
  registers : Registers := Registers.blank
  flags : Flags := .clear
  memory : Memory := Memory.blank
  deriving DecidableEq

/-- How a cycle ended. -/
inductive Status where
  /-- An instruction was executed. -/
  | running
  /-- The program counter stands at a byte that is no opcode. -/
  | halted
  | faulted (fault : Fault)
  deriving DecidableEq

theorem Status.ne_running_of_halted {status : Status} (h : status = .halted) :
    status ≠ .running := by
  rw [h]
  simp

theorem Status.ne_running_of_faulted {status : Status} {fault : Fault}
    (h : status = .faulted fault) : status ≠ .running := by
  rw [h]
  simp

/-- A cycle: how it ended, and the state and the output after it. -/
structure Cycle where
  status : Status
  state : State
  out : Sink

namespace State

/-- What the machine finds at an address. -/
def decodeAt (s : State) (pc : Nat) : Except Fault Decoded :=
  decode (fun address => s.memory[address]?) pc

/-- What the machine finds at the program counter. -/
def fetch (s : State) : Except Fault Decoded :=
  s.decodeAt s.pc

/-- Goes on to the instruction that the register points at. -/
def jump (s : State) (register : UInt8) : Except Fault State := do
  let target ← s.registers.read register
  return { s with pc := target.toNat }

/-- Executes an instruction: the state after it, and the text that it prints. -/
def execute (s : State) (i : Instruction) : Except Fault (State × String) :=
  let next := s.pc + i.length
  match i with
  | .ldi r v => do
    let registers ← s.registers.write r v
    return ({ s with pc := next, registers }, "")
  | .prn r => do
    let value ← s.registers.read r
    return ({ s with pc := next }, Text.decimal value.toNat ++ "\n")
  | .cmp a b => do
    let left ← s.registers.read a
    let right ← s.registers.read b
    return ({ s with pc := next, flags := .ofOrdering (compare left right) }, "")
  | .jmp r => do return (← s.jump r, "")
  | .jeq r => do
    if s.flags.isEqual then return (← s.jump r, "")
    else return ({ s with pc := next }, "")
  | .jne r => do
    if s.flags.isEqual then return ({ s with pc := next }, "")
    else return (← s.jump r, "")

/-- One cycle. An instruction whose text the output does not take whole is not completed. -/
def step (s : State) (out : Sink) : Cycle :=
  match s.fetch with
  | .error fault => ⟨.faulted fault, s, out⟩
  | .ok (.halt _) => ⟨.halted, s, out⟩
  | .ok (.instruction i) =>
    match s.execute i with
    | .error fault => ⟨.faulted fault, s, out⟩
    | .ok (next, text) =>
      if out.fits text then ⟨.running, next, out.write text⟩
      else ⟨.faulted .outputRefused, s, out.write text⟩

theorem step_of_fetch_error {s : State} {fault : Fault} (h : s.fetch = .error fault) (out : Sink) :
    s.step out = ⟨.faulted fault, s, out⟩ := by
  rw [step, h]

theorem step_of_halt {s : State} {byte : UInt8} (h : s.fetch = .ok (.halt byte)) (out : Sink) :
    s.step out = ⟨.halted, s, out⟩ := by
  rw [step, h]

theorem step_of_execute_error {s : State} {i : Instruction} {fault : Fault}
    (h : s.fetch = .ok (.instruction i)) (he : s.execute i = .error fault) (out : Sink) :
    s.step out = ⟨.faulted fault, s, out⟩ := by
  simp [step, h, he]

theorem step_of_execute {s next : State} {i : Instruction} {text : String}
    (h : s.fetch = .ok (.instruction i)) (he : s.execute i = .ok (next, text)) (out : Sink) :
    s.step out = if out.fits text then ⟨.running, next, out.write text⟩
      else ⟨.faulted .outputRefused, s, out.write text⟩ := by
  simp [step, h, he]

end State

end ByteMachine

import ByteMachine.Proofs.Execution.StepBound
import ByteMachine.Proofs.Grammar.Parsing
import ByteMachine.Proofs.Operations.EndOfMemory

/-!
# Padding

A program that is short enough leaves the last three cells 0, and 0 is no opcode. So no instruction
begins in these cells, and wherever the jumps of the program lead, the program counter stays in the
memory and each instruction has its operands there.
-/

namespace ByteMachine

theorem Opcode.byte_ne_zero (op : Opcode) : op.byte ≠ 0 := by
  cases op <;> decide

/-- The faults that come of executing an instruction. -/
inductive Fault.OfExecution : Fault → Prop where
  | registerOutOfRange {r : UInt8} (h : 8 ≤ r.toNat) : OfExecution (.registerOutOfRange r)
  | outputRefused : OfExecution .outputRefused

/-! ### Padded memories -/

/-- The last three cells are 0. -/
def Memory.Padded (m : Memory) : Prop :=
  ∀ (a : Nat) (h : a < 256), 253 ≤ a → m[a] = 0

namespace Memory

variable {m m' : Memory} {bytes : Array UInt8} {address : Nat} {value : UInt8}

theorem padded_blank : blank.Padded :=
  fun _ h _ => getElem_blank h

theorem Padded.load (h : m.Padded) (hsize : bytes.size ≤ 253) (hload : m.load bytes = .ok m') :
    m'.Padded := by
  obtain ⟨-, rfl⟩ := load_eq_ok.1 hload
  intro a ha hpadding
  have hnone : bytes[a]? = none := Array.getElem?_eq_none (Nat.le_trans hsize hpadding)
  rw [getElem_overwrite, hnone, Option.getD_none]
  exact h a ha hpadding

theorem Padded.write (h : m.Padded) (hvalue : address < 253 ∨ value = 0)
    (hwrite : m.write address value = .ok m') : m'.Padded := by
  obtain ⟨haddress, rfl⟩ := write_eq_ok.1 hwrite
  intro a ha hpadding
  rw [Vector.getElem_set]
  split_ifs with heq
  · exact hvalue.resolve_left (by omega)
  · exact h a ha hpadding

end Memory

/-! ### Padded states -/

/-- The program counter stands in a padded memory. -/
structure State.Padded (s : State) : Prop where
  pc_le : s.pc ≤ 255
  memory : s.memory.Padded

namespace State.Padded

variable {s t : State} {i : Instruction} {text : String} {op : Opcode} {fault : Fault}

theorem initial : State.Padded {} :=
  ⟨by decide, Memory.padded_blank⟩

/-- No instruction begins in the padding. -/
theorem pc_lt_of_opcode (h : s.Padded) (hop : s.memory[s.pc]? = some op.byte) : s.pc < 253 := by
  obtain ⟨hpc, hcell⟩ := Vector.getElem?_eq_some_iff.1 hop
  by_contra hlt
  rw [h.memory s.pc hpc (Nat.not_lt.1 hlt)] at hcell
  exact op.byte_ne_zero hcell.symm

theorem executes (h : s.Padded) (hf : s.fetch = .ok (.instruction i)) (he : s.Executes i t text) :
    t.Padded := by
  constructor
  · rcases he.pc_eq with ⟨-, ht⟩ | ⟨r, hr, -, ht⟩
    · -- what begins before the padding and has at most three cells ends in the memory
      have hlt := h.pc_lt_of_opcode (fetch_eq_instruction_iff.1 hf).1
      rcases i.length_eq with hlength | hlength <;> omega
    · rw [ht]
      exact Nat.le_of_lt_succ (UInt8.toNat_lt _)
  · rw [he.memory_eq]
    exact h.memory

theorem ofExecution_of_fails (h : s.Padded) (hfault : s.Fails fault) : fault.OfExecution := by
  cases hfault with
  | noCell hcell => exact absurd hcell (Nat.not_le.2 (Nat.lt_succ_of_le h.pc_le))
  | @noOperand op hop hcell =>
    have hlt := h.pc_lt_of_opcode hop
    have hcount := op.operandCount_le
    omega
  | noRegister hf hr => exact .registerOutOfRange (by simpa using List.find?_some hr)
  | refused hf => exact .outputRefused

end State.Padded

/-! ### Operations that keep the padding -/

/-- The operations that put nothing but 0 into the last three cells. -/
def Operation.KeepsPadding : Operation → Prop
  | .load bytes => bytes.size ≤ 253
  | .writeCell address value => address < 253 ∨ value = 0
  | _ => True

namespace Machine

variable {m : Machine} {op : Operation} {fault : Fault} {out : Sink} {n : Nat}

theorem padded_advance (h : m.state.Padded) (out : Sink) (n : Nat) :
    (Run.advance n (m.start out)).machine.state.Padded :=
  Run.advance_preserves (P := State.Padded) (r := m.start out) (fun hf he h => h.executes hf he) h n

theorem padded_perform (hop : op.KeepsPadding) (h : m.state.Padded) :
    (m.perform op).2.state.Padded := by
  cases op with
  | renew => exact .initial
  | readCell address | readRegister index | decodeAt pc | attach tracer => exact h
  | setPc pc => exact ⟨Nat.le_of_lt_succ (UInt8.toNat_lt pc), h.memory⟩
  | advance n out =>
    rw [machine_perform_advance]
    exact padded_advance h out n
  | run out =>
    rw [machine_perform_run, run_eq_advance]
    exact padded_advance h out (patience out)
  | load bytes =>
    apply update_preserves h
    intro s hs
    obtain ⟨memory, hload, hs⟩ := bind_eq_ok.1 hs
    cases hs
    exact ⟨h.pc_le, h.memory.load hop hload⟩
  | writeCell address value =>
    apply update_preserves h
    intro s hs
    obtain ⟨memory, hwrite, hs⟩ := bind_eq_ok.1 hs
    cases hs
    exact ⟨h.pc_le, h.memory.write hop hwrite⟩
  | writeRegister index value =>
    apply update_preserves h
    intro s hs
    obtain ⟨registers, -, hs⟩ := bind_eq_ok.1 hs
    cases hs
    exact ⟨h.pc_le, h.memory⟩

theorem padded_performAll {history : List Operation} (h : m.state.Padded)
    (hhistory : ∀ op ∈ history, op.KeepsPadding) : (m.performAll history).state.Padded :=
  performAll_preserves (P := fun m => m.state.Padded) padded_perform h hhistory

/-- The program counter stands in the memory, and cycles and runs fail only in the execution of an
instruction. -/
structure StaysInMemory (m : Machine) : Prop where
  pc_le : m.state.pc ≤ 255
  step_fault : ∀ out fault, (m.step out).status = .faulted fault → fault.OfExecution
  run_fault : ∀ out fault, (m.run out).result? = some (.error fault) → fault.OfExecution

theorem staysInMemory_of_padded (h : m.state.Padded) : m.StaysInMemory where
  pc_le := h.pc_le
  step_fault _ _ hfault := h.ofExecution_of_fails (State.fails_of_step hfault)
  run_fault out _ hfault := by
    obtain ⟨k, hk⟩ := fails_of_result? hfault
    exact (padded_advance h out k).ofExecution_of_fails hk

end Machine

/-! ### Short programs -/

/-- The bytes can be loaded into a new machine, and the machine stays in its memory then, whatever
is done with it that keeps the padding. -/
structure Guarded (bytes : Array UInt8) : Prop where
  loaded : (Machine.initial.perform (.load bytes)).1 = .done
  stays : ∀ further : List Operation, (∀ op ∈ further, op.KeepsPadding) →
    (Machine.after (.load bytes :: further)).StaysInMemory

theorem guarded_of_size_le {bytes : Array UInt8} (h : bytes.size ≤ 253) : Guarded bytes := by
  constructor
  · rw [Machine.perform_load _ (by omega)]
  · intro further hfurther
    exact Machine.staysInMemory_of_padded
      (Machine.padded_performAll .initial (List.forall_mem_cons.2 ⟨h, hfurther⟩))

/-- A program that jumps to its last byte, the opcode of an instruction with two operands. -/
def Program.overrunning : Array UInt8 :=
  #[0b10000010, 0, 253, 0b01010100, 0] ++ Array.replicate 248 0 ++ #[0b10000010]

theorem Machine.run_overrunning :
    ((after [.load Program.overrunning]).run .unlimited).result? =
      some (.error (.pcOutOfRange 256)) := by
  have hfault : (Run.advance 4 ((after [.load Program.overrunning]).start .unlimited)).status =
      .faulted (.pcOutOfRange 256) := by decide +kernel
  rw [run_eq_of_ended (Status.ne_running_of_faulted hfault)]
  exact Run.result?_of_faulted hfault

/-- Every program of at most 253 bytes is guarded by the padding, in particular every text with at
most as many lines that hold a byte. With one byte more a run can leave the memory. -/
theorem Machine.padding_guards :
    (∀ bytes : Array UInt8, bytes.size ≤ 253 → Guarded bytes) ∧
    (∀ source p, (Program.parse source).value = .ok p → (Program.byteLines source).length ≤ 253 →
      Guarded p.bytes) ∧
    ∃ bytes : Array UInt8, bytes.size = 254 ∧
      ((after [.load bytes]).run .unlimited).result? = some (.error (.pcOutOfRange 256)) := by
  refine ⟨fun bytes => guarded_of_size_le, fun source p hparse hlength => ?_,
    Program.overrunning, by simp [Program.overrunning], run_overrunning⟩
  apply guarded_of_size_le
  rwa [← Array.length_toList, (Program.bytes_of_parse hparse).1]

end ByteMachine

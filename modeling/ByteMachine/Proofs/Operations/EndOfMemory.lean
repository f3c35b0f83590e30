import ByteMachine.Proofs.Execution.Addresses
import ByteMachine.Proofs.Operations.History

/-!
# The end of the memory

The program counter never stands further than at the end of the memory. It comes there by an
instruction in the last cells only, and there it stays until it is set or the machine is replaced:
every cycle fails, and leaves nothing behind. So there are few faults that a cycle can have.
-/

namespace ByteMachine

/-- The operations from outside that put the program counter somewhere. -/
def Operation.SetsPc : Operation → Prop
  | .renew | .setPc _ => True
  | _ => False

/-- An instruction was completed that does not jump and takes up the last two or three cells. -/
def Event.Overruns : Event → Prop
  | .completed s i => s.fetch = .ok (.instruction i) ∧ s.jumpRegister i = none ∧
      (i.length = 2 ∧ s.pc = 254 ∨ i.length = 3 ∧ s.pc = 253)
  | .performed _ => False

/-- Something was done from outside that leaves the program counter where it is. -/
def Event.KeepsPc : Event → Prop
  | .performed op => ¬ op.SetsPc
  | .completed .. => False

/-- The faults that a cycle can have. -/
inductive Fault.OfCycle : Fault → Prop where
  | pcOutOfRange : OfCycle (.pcOutOfRange 256)
  | fetchOutOfRange {pc : Nat} (h : pc = 254 ∨ pc = 255) : OfCycle (.fetchOutOfRange pc)
  | registerOutOfRange {r : UInt8} (h : 8 ≤ r.toNat) : OfCycle (.registerOutOfRange r)
  | outputRefused : OfCycle .outputRefused

/-! ### Up to the end -/

/-- The program counter stands at most at the end of the memory. If it does, then the last event but
for some that keep it there was the one that led there. -/
structure State.EndsAfter (s : State) (events : List Event) : Prop where
  pc_le : s.pc ≤ 256
  overrun : s.pc = 256 → ∃ earlier e later, events = earlier ++ e :: later ∧ e.Overruns ∧
    ∀ e' ∈ later, e'.KeepsPc

namespace State.EndsAfter

variable {s t : State} {i : Instruction} {text : String} {events : List Event} {op : Operation}

theorem of_lt (h : s.pc < 256) : s.EndsAfter events :=
  ⟨Nat.le_of_lt h, fun heq => absurd heq (Nat.ne_of_lt h)⟩

/-- Operations that do not set the program counter only add to what happened since. -/
theorem performed (h : s.EndsAfter events) (hop : ¬ op.SetsPc) (ht : t.pc = s.pc) :
    t.EndsAfter (events ++ [.performed op]) := by
  constructor
  · rw [ht]
    exact h.pc_le
  · intro hend
    -- the event that led to the end is still the same one, and the operation comes after it
    obtain ⟨earlier, e, later, rfl, he, hlater⟩ := h.overrun (ht ▸ hend)
    refine ⟨earlier, e, later ++ [.performed op], by simp, he, ?_⟩
    rw [List.forall_mem_append, List.forall_mem_singleton]
    exact ⟨hlater, hop⟩

theorem completed (hf : s.fetch = .ok (.instruction i)) (he : s.Executes i t text) :
    t.EndsAfter (events ++ [.completed s i]) :=
  ⟨pc_le_of_executes hf he, fun hend =>
    ⟨events, _, [], rfl, ⟨hf, he.length_of_pc_eq hend⟩, by simp⟩⟩

end State.EndsAfter

theorem Machine.pc_perform {m : Machine} {op : Operation} (hpc : ¬ op.SetsPc)
    (hop : ¬ op.MakesCycles) : (m.perform op).2.state.pc = m.state.pc := by
  cases op with
  | renew | setPc pc => exact absurd trivial hpc
  | advance n out | run out => exact absurd trivial hop
  | readCell address | readRegister index | decodeAt pc | attach tracer => rfl
  | load bytes | writeCell address value | writeRegister index value =>
    apply update_preserves (P := fun s => s.pc = m.state.pc) rfl
    intro s hs
    obtain ⟨_, -, hs⟩ := bind_eq_ok.1 hs
    cases hs
    rfl

theorem Chronicle.endsAfter (history : List Operation) :
    (ofHistory history).machine.state.EndsAfter (ofHistory history).events := by
  apply Chronicle.induction (P := State.EndsAfter)
  · exact .of_lt (by decide)
  · intro m op events hrenew hop _ h
    by_cases hpc : op.SetsPc
    · cases op with
      | renew => exact absurd rfl hrenew
      | setPc pc => exact .of_lt (UInt8.toNat_lt pc)
      | load bytes | readCell address | writeCell address value | readRegister index
      | writeRegister index value | decodeAt pc | attach tracer | advance n out | run out =>
        exact hpc.elim
    · exact h.performed hpc (Machine.pc_perform hpc hop)
  · intro s t i text events hf he _
    exact .completed hf he

/-! ### At the end -/

/-- At the end of the memory cycles and runs fail, and leave nothing behind. -/
structure Machine.AtEnd (m : Machine) : Prop where
  pc_eq : m.state.pc = 256
  step_eq : ∀ out, m.step out = ⟨.faulted (.pcOutOfRange 256), m, out, []⟩
  run_eq : ∀ out, m.run out = { machine := m, out, status := .faulted (.pcOutOfRange 256) }
  result?_run : ∀ out, (m.run out).result? = some (.error (.pcOutOfRange 256))

namespace Machine

variable {m : Machine} {op : Operation} {fault : Fault} {out : Sink} {n : Nat}

theorem step_of_pc_eq (h : m.state.pc = 256) (out : Sink) :
    m.step out = ⟨.faulted (.pcOutOfRange 256), m, out, []⟩ := by
  have hf : m.state.fetch = .error (.pcOutOfRange 256) :=
    h ▸ State.fetch_of_le (Nat.le_of_eq h.symm)
  have htracer : m.nextTracer = m.tracer := by rw [nextTracer, hf]
  have hnotes : m.notes = [] := by rw [notes, hf]
  rw [step, State.step_of_fetch_error hf, htracer, hnotes]

theorem advance_of_pc_eq (h : m.state.pc = 256) (hn : 0 < n) (out : Sink) :
    Run.advance n (m.start out) =
      { machine := m, out, status := .faulted (.pcOutOfRange 256) } := by
  have hnext : (m.start out).next =
      { machine := m, out, status := .faulted (.pcOutOfRange 256) } := by
    simp [Run.next, step_of_pc_eq h, start]
  rw [Run.advance_eq_next (m.status_start out) (by rw [hnext]; simp) hn, hnext]

theorem atEnd_of_pc_eq (h : m.state.pc = 256) : m.AtEnd := by
  have hrun (out : Sink) := advance_of_pc_eq h (patience_pos out) out
  refine ⟨h, step_of_pc_eq h, hrun, fun out => ?_⟩
  rw [run_eq_advance, hrun]
  rfl

theorem pc_perform_of_pc_eq (h : m.state.pc = 256) (hpc : ¬ op.SetsPc) :
    (m.perform op).2.state.pc = 256 := by
  by_cases hop : op.MakesCycles
  · obtain ⟨n, out, hperform⟩ := exists_advance_of_makesCycles m hop
    rw [hperform]
    rcases Nat.eq_zero_or_pos n with rfl | hn
    · exact h
    · rwa [advance_of_pc_eq h hn]
  · rw [pc_perform hpc hop, h]

/-- The program counter stays at the end until it is set. -/
theorem atEnd_performAll {further : List Operation} (h : m.state.pc = 256)
    (hfurther : ∀ op ∈ further, ¬ op.SetsPc) : (m.performAll further).AtEnd :=
  atEnd_of_pc_eq (performAll_preserves (P := fun m' => m'.state.pc = 256)
    (fun hop h => pc_perform_of_pc_eq h hop) h hfurther)

end Machine

/-! ### Faults of cycles and runs -/

theorem Fault.ofCycle_of_fails {s : State} {fault : Fault} (hpc : s.pc ≤ 256)
    (h : s.Fails fault) : fault.OfCycle := by
  cases h with
  | noCell h =>
    rw [Nat.le_antisymm hpc h]
    exact .pcOutOfRange
  | @noOperand op hop h =>
    have hlt : s.pc < 256 := (Vector.getElem?_eq_some_iff.1 hop).1
    have hcount := op.operandCount_le
    exact .fetchOutOfRange (by omega)
  | noRegister hf hr => exact .registerOutOfRange (by simpa using List.find?_some hr)
  | refused hf => exact .outputRefused

namespace Machine

variable {m : Machine} {fault : Fault} {out : Sink} {n : Nat}

theorem pc_advance_le (h : m.state.pc ≤ 256) (out : Sink) (n : Nat) :
    (Run.advance n (m.start out)).state.pc ≤ 256 :=
  Run.advance_preserves (P := fun s => s.pc ≤ 256) (r := m.start out)
    (fun hf he _ => State.pc_le_of_executes hf he) h n

/-- A run fails in a state that it has come to. -/
theorem fails_of_result? (h : (Run.advance n (m.start out)).result? = some (.error fault)) :
    ∃ k, (Run.advance k (m.start out)).state.Fails fault := by
  obtain ⟨k, -, -, -, hfault, -⟩ :=
    Run.exists_faulted_cycle (m.status_start out) (result?_eq_error h)
  exact ⟨k, State.fails_of_step hfault⟩

end Machine

namespace Chronicle

/-- Where the program counter of the machine can stand, how it comes to the end of the memory and
what happens there, which faults there are, and that addresses of 64 bits are wide enough. -/
structure StaysWithin (c : Chronicle) : Prop where
  pc_le : c.machine.state.pc ≤ 256
  overrun : c.machine.state.pc = 256 → ∃ earlier e later, c.events = earlier ++ e :: later ∧
    e.Overruns ∧ ∀ e' ∈ later, e'.KeepsPc
  atEnd : c.machine.state.pc = 256 → ∀ further : List Operation,
    (∀ op ∈ further, ¬ op.SetsPc) → (c.machine.performAll further).AtEnd
  step_fault : ∀ out fault, (c.machine.step out).status = .faulted fault → fault.OfCycle
  run_fault : ∀ out fault, (c.machine.run out).result? = some (.error fault) → fault.OfCycle
  words_decode : ∀ pc : UInt64,
    (Words.decode (fun address => c.machine.state.memory[address]?) pc).run =
      some (c.machine.state.decodeAt pc.toNat)
  words_step : ∀ out, Words.step c.machine.state out = some (c.machine.state.step out)
  words_traceLine : Words.traceLine c.machine.state = some c.machine.state.traceLine

theorem staysWithin {c : Chronicle} (h : c.machine.state.EndsAfter c.events) : c.StaysWithin where
  pc_le := h.pc_le
  overrun := h.overrun
  atEnd hpc _ hfurther := Machine.atEnd_performAll hpc hfurther
  step_fault _ _ hfault := Fault.ofCycle_of_fails h.pc_le (State.fails_of_step hfault)
  run_fault out _ hfault := by
    obtain ⟨k, hk⟩ := Machine.fails_of_result? hfault
    exact Fault.ofCycle_of_fails (Machine.pc_advance_le h.pc_le out k) hk
  words_decode := Words.decode_eq c.machine.state.memory
  words_step := Words.step_eq h.pc_le
  words_traceLine := Words.traceLine_eq h.pc_le

end Chronicle

/-- After every history the program counter stands at most at the end of the memory, where only an
instruction in the last cells has led and where every cycle and every run fails without a trace
until the program counter is set. A history may break a run off after any number of cycles, so this
holds in the midst of a run as well. -/
theorem Machine.program_counter_stays_within (history : List Operation) :
    let c := Chronicle.ofHistory history
    c.machine = after history ∧ c.StaysWithin :=
  ⟨Chronicle.machine_ofHistory history, Chronicle.staysWithin (Chronicle.endsAfter history)⟩

end ByteMachine

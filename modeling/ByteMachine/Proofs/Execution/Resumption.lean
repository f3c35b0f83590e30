import ByteMachine.Proofs.Execution.Faults
import ByteMachine.Proofs.Execution.StepBound

/-!
# Resuming a run

A run makes cycle after cycle until one of them does not complete an instruction, and ends as this
cycle does. Where the cycles before it are made one by one, it makes no difference after how many of
them the rest is left to a run. A machine that has halted halts again at once.
-/

namespace ByteMachine

namespace Machine

/-- From the machine and the output `k` cycles, each of which completes an instruction, lead to
another machine and output. -/
inductive Continues (m : Machine) (out : Sink) : Nat → Machine → Sink → Prop where
  | refl : Continues m out 0 m out
  | snoc {k : Nat} {m' : Machine} {out' : Sink} (h : Continues m out k m' out')
      (hs : (m'.step out').status = .running) :
      Continues m out (k + 1) (m'.step out').machine (m'.step out').out

variable {m m' m₁ m₂ : Machine} {out out' out₁ out₂ : Sink} {j k : Nat} {b : UInt8} {fault : Fault}

/-! ### Cycles one by one -/

/-- These are the cycles of a run that goes on. -/
theorem continues_iff : m.Continues out k m' out' ↔
    let r := Run.advance k (m.start out)
    r.status = .running ∧ r.machine = m' ∧ r.out = out' := by
  constructor
  · intro h
    induction h with
    | refl => exact ⟨rfl, rfl, rfl⟩
    | snoc _ hs ih =>
      obtain ⟨hk, rfl, rfl⟩ := ih
      rw [Run.advance_succ_eq_next hk]
      exact ⟨hs, rfl, rfl⟩
  · rintro ⟨hk, rfl, rfl⟩
    induction k with
    | zero => exact .refl
    | succ k ih =>
      have hbefore := Run.running_of_le hk (Nat.le_succ k)
      rw [Run.advance_succ_eq_next hbefore] at hk ⊢
      exact .snoc (ih hbefore) hk

theorem Continues.unique (h₁ : m.Continues out k m₁ out₁) (h₂ : m.Continues out k m₂ out₂) :
    m₁ = m₂ ∧ out₁ = out₂ := by
  obtain ⟨-, rfl, rfl⟩ := continues_iff.1 h₁
  obtain ⟨-, rfl, rfl⟩ := continues_iff.1 h₂
  exact ⟨rfl, rfl⟩

/-- Cycles that come after others lead on from where those have led. -/
theorem Continues.rest (h₁ : m.Continues out j m₁ out₁) (h₂ : m.Continues out (j + k) m₂ out₂) :
    m₁.Continues out₁ k m₂ out₂ := by
  induction k generalizing m₂ out₂ with
  | zero =>
    obtain ⟨rfl, rfl⟩ := h₁.unique h₂
    exact .refl
  | succ k ih =>
    cases h₂ with
    | snoc h hs => exact .snoc (ih h) hs

/-- All cycles that complete instructions come before the first one that does not. -/
theorem Continues.split (h : m.Continues out k m' out') (hend : (m'.step out').status ≠ .running)
    (h₁ : m.Continues out j m₁ out₁) : j ≤ k ∧ m₁.Continues out₁ (k - j) m' out' := by
  have hjk : j ≤ k := by
    obtain ⟨hk, rfl, rfl⟩ := continues_iff.1 h
    obtain ⟨hj, -, -⟩ := continues_iff.1 h₁
    by_contra hlt
    have hnext := Run.running_of_le hj (Nat.succ_le_of_lt (Nat.not_le.1 hlt))
    rw [Run.advance_succ_eq_next hk] at hnext
    exact hend hnext
  refine ⟨hjk, h₁.rest ?_⟩
  rwa [Nat.add_sub_cancel' hjk]

/-! ### Runs -/

theorem run_of_continues (h : m.Continues out k m' out')
    (hend : (m'.step out').status ≠ .running) :
    (m.run out).status = (m'.step out').status ∧ (m.run out).completed = k ∧
      (m.run out).machine.state = m'.state ∧ (m.run out).out = (m'.step out').out := by
  obtain ⟨hk, rfl, rfl⟩ := continues_iff.1 h
  have hnext := Run.advance_succ_eq_next hk
  have hstatus : (Run.advance (k + 1) (m.start out)).status ≠ .running := by
    rw [hnext]
    exact hend
  rw [run_eq_of_ended hstatus, hnext]
  refine ⟨rfl, ?_, Run.state_next_of_ended hend, rfl⟩
  rw [Run.completed_next_of_ended hend, Run.completed_start_of_running hk]

theorem exists_continues (h : (m.run out).status ≠ .running) :
    ∃ k m' out', m.Continues out k m' out' ∧ (m'.step out').status = (m.run out).status := by
  rw [run_eq_advance] at h ⊢
  obtain ⟨k, -, hk, hlast⟩ := Run.exists_last_cycle (m.status_start out) h
  refine ⟨k, _, _, continues_iff.2 ⟨hk, rfl, rfl⟩, ?_⟩
  rw [hlast]
  rfl

end Machine

/-- The run has halted in a state and with an output, at a byte that is no opcode, and its summary
says where, and that `k` instructions were completed. -/
structure Run.HaltsAt (r : Run) (k : Nat) (b : UInt8) (s : State) (out : Sink) : Prop where
  state_eq : r.machine.state = s
  out_eq : r.out = out
  read_eq : s.memory.read s.pc = .ok b
  byte_ne : ∀ op : Opcode, op.byte ≠ b
  result_eq : ∃ steps : UInt64, steps.toNat = k ∧ r.result? = some (.ok ⟨steps, s.pc, b⟩)

/-- The run has failed in a state and with an output, after `k` completed instructions. -/
structure Run.FailsAt (r : Run) (k : Nat) (fault : Fault) (s : State) (out : Sink) : Prop where
  state_eq : r.machine.state = s
  out_eq : r.out = out
  completed_eq : r.completed = k
  result_eq : r.result? = some (.error fault)

namespace Machine

variable {m m' m₁ : Machine} {out out' out₁ : Sink} {j k : Nat} {b : UInt8} {fault : Fault}

theorem lt_of_halts (h : m.Continues out k m' out') (hhalt : (m'.step out').status = .halted) :
    k < 2 ^ 51 := by
  obtain ⟨hk, rfl, rfl⟩ := continues_iff.1 h
  apply last_cycle_lt_of_halted hk
  rw [Run.advance_succ_eq_next hk]
  exact hhalt

theorem haltsAt_run (h : m.Continues out k m' out') (hf : m'.state.fetch = .ok (.halt b)) :
    (m.run out).HaltsAt k b m'.state out' := by
  have hstep := State.step_of_halt hf out'
  have hhalt : (m'.step out').status = .halted := congrArg Cycle.status hstep
  obtain ⟨hstatus, hcompleted, hstate, hout⟩ :=
    run_of_continues h (Status.ne_running_of_halted hhalt)
  have hread := State.read_of_halt hf
  have hsteps : (UInt64.ofNat k).toNat = k := by
    have hlt := lt_of_halts h hhalt
    rw [UInt64.toNat_ofNat']
    exact Nat.mod_eq_of_lt (by omega)
  have hresult := Run.result?_of_halted (hstatus.trans hhalt) (hstate ▸ hread)
  rw [hcompleted, hstate] at hresult
  exact {
    state_eq := hstate
    out_eq := hout.trans (congrArg Cycle.out hstep)
    read_eq := hread
    byte_ne := Opcode.ofByte?_eq_none_iff.1 (decode_eq_halt_iff.1 hf).2
    result_eq := ⟨_, hsteps, hresult⟩ }

theorem failsAt_run (h : m.Continues out k m' out')
    (hfault : (m'.step out').status = .faulted fault) :
    (m.run out).FailsAt k fault m'.state (m'.step out').out := by
  obtain ⟨hstatus, hcompleted, hstate, hout⟩ :=
    run_of_continues h (Status.ne_running_of_faulted hfault)
  exact ⟨hstate, hout, hcompleted, Run.result?_of_faulted (hstatus.trans hfault)⟩

/-- What the result of a run says of the first cycle that does not complete an instruction. -/
theorem exists_continues_of_result {result : Except Fault Summary}
    (h : (m.run out).result? = some result) :
    ∃ k m' out', m.Continues out k m' out' ∧ (m'.step out').status =
      match result with
      | .ok _ => .halted
      | .error fault => .faulted fault := by
  have hend : (m.run out).status ≠ .running := by
    intro hrunning
    rw [Run.result?_of_running hrunning] at h
    cases h
  obtain ⟨k, m', out', hcontinues, hstatus⟩ := exists_continues hend
  refine ⟨k, m', out', hcontinues, ?_⟩
  cases hs : (m'.step out').status with
  | running => exact absurd (hstatus.symm.trans hs) hend
  | halted =>
    obtain ⟨b, hf, -⟩ := State.step_halted hs
    obtain ⟨steps, -, hresult⟩ := (haltsAt_run hcontinues hf).result_eq
    rw [h] at hresult
    cases hresult
    rfl
  | faulted fault =>
    have hresult := (failsAt_run hcontinues hs).result_eq
    rw [h] at hresult
    cases hresult
    rfl

/-- A run has a result exactly if some cycle does not complete an instruction, and the result is
that of the first such cycle, whether the run makes all cycles before it or is taken up after some
of them. A machine that has halted halts again at once, onto every output. -/
theorem run_resumes (m : Machine) (out : Sink) :
    ((∃ summary, (m.run out).result? = some (.ok summary)) ↔
      ∃ k m' out', m.Continues out k m' out' ∧ (m'.step out').status = .halted) ∧
    (∀ fault, (m.run out).result? = some (.error fault) ↔
      ∃ k m' out', m.Continues out k m' out' ∧ (m'.step out').status = .faulted fault) ∧
    (∀ k m' out', m.Continues out k m' out' → (m'.step out').status = .halted →
      ∃ b, (∀ j m₁ out₁, m.Continues out j m₁ out₁ →
          j ≤ k ∧ (m₁.run out₁).HaltsAt (k - j) b m'.state out') ∧
        ∀ out₂, ((m.run out).machine.run out₂).HaltsAt 0 b m'.state out₂) ∧
    ∀ k m' out' fault, m.Continues out k m' out' → (m'.step out').status = .faulted fault →
      ∀ j m₁ out₁, m.Continues out j m₁ out₁ →
        j ≤ k ∧ (m₁.run out₁).FailsAt (k - j) fault m'.state (m'.step out').out := by
  refine ⟨⟨?_, ?_⟩, fun fault => ⟨?_, ?_⟩, ?_, ?_⟩
  · rintro ⟨summary, h⟩
    exact exists_continues_of_result h
  · rintro ⟨k, m', out', h, hhalt⟩
    obtain ⟨b, hf, -⟩ := State.step_halted hhalt
    obtain ⟨steps, -, hresult⟩ := (haltsAt_run h hf).result_eq
    exact ⟨_, hresult⟩
  · exact exists_continues_of_result
  · rintro ⟨k, m', out', h, hfault⟩
    exact (failsAt_run h hfault).result_eq
  · intro k m' out' h hhalt
    obtain ⟨b, hf, -⟩ := State.step_halted hhalt
    have hstate := (haltsAt_run h hf).state_eq
    refine ⟨b, ?_, ?_⟩
    · intro j m₁ out₁ h₁
      obtain ⟨hjk, hrest⟩ := h.split (Status.ne_running_of_halted hhalt) h₁
      exact ⟨hjk, haltsAt_run hrest hf⟩
    · intro out₂
      rw [← hstate] at hf ⊢
      exact haltsAt_run .refl hf
  · intro k m' out' fault h hfault j m₁ out₁ h₁
    obtain ⟨hjk, hrest⟩ := h.split (Status.ne_running_of_faulted hfault) h₁
    exact ⟨hjk, failsAt_run hrest hfault⟩

end Machine

end ByteMachine

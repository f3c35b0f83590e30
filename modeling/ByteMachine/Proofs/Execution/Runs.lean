import ByteMachine.Run
import ByteMachine.Proofs.Execution.Rules

/-!
# Runs cycle by cycle

A run of `n` cycles splits at every cycle, and nothing is added to a run that has ended. So what a
run has come to is known from its last cycle, and what every rule of execution preserves holds after
any number of cycles.
-/

namespace ByteMachine

/-- A run of the machine before its first cycle. -/
def Machine.start (m : Machine) (out : Sink) : Run := { machine := m, out }

@[simp] theorem Machine.machine_start (m : Machine) (out : Sink) :
    (m.start out).machine = m := rfl

@[simp] theorem Machine.out_start (m : Machine) (out : Sink) : (m.start out).out = out := rfl

@[simp] theorem Machine.status_start (m : Machine) (out : Sink) :
    (m.start out).status = .running := rfl

@[simp] theorem Machine.completed_start (m : Machine) (out : Sink) :
    (m.start out).completed = 0 := rfl

theorem Machine.run_eq_advance (m : Machine) (out : Sink) :
    m.run out = Run.advance (patience out) (m.start out) := rfl

namespace Run

/-- The state of the machine that runs. -/
def state (r : Run) : State := r.machine.state

/-- What the output has taken. -/
def text (r : Run) : String := r.out.text

variable {r : Run} {k n : Nat}

/-! ### One cycle -/

theorem state_next : r.next.state = (r.state.step r.out).state := rfl

theorem status_next : r.next.status = (r.state.step r.out).status := rfl

theorem out_next : r.next.out = (r.state.step r.out).out := rfl

theorem notes_next : r.next.notes.toList = r.notes.toList ++ r.machine.notes := by
  simp [next]

theorem completed_next_of_running (h : r.next.status = .running) :
    r.next.completed = r.completed + 1 :=
  if_pos h

theorem completed_next_of_ended (h : r.next.status ≠ .running) :
    r.next.completed = r.completed :=
  if_neg h

/-- Two outputs that both take the text of a cycle make no other difference to it. -/
theorem next_of_fits {out : Sink} (h : out.fits r.state.printed = true)
    (hr : r.out.fits r.state.printed = true) :
    ({ r with out } : Run).next = { r.next with out := out.write r.state.printed } := by
  have hstep : r.machine.state.step out =
      { r.machine.state.step r.out with out := out.write r.state.printed } := by
    rw [State.step_eq _ out, State.step_eq _ r.out]
    simp only [state] at h hr ⊢
    rw [if_pos h, if_pos hr]
  simp only [next, Machine.step, hstep]
  rfl

theorem status_next_of_refused (h : r.out.fits r.state.printed = false) :
    r.next.status = .faulted .outputRefused := by
  rw [status_next, State.step_eq, if_neg (by simp [h])]

theorem state_next_of_ended (h : r.next.status ≠ .running) : r.next.state = r.state :=
  State.state_of_not_running h

/-! ### Splitting a run -/

theorem advance_add (k n : Nat) (r : Run) : advance (k + n) r = advance n (advance k r) := by
  induction k generalizing r with
  | zero => rw [Nat.zero_add, advance_zero]
  | succ k ih =>
    by_cases hr : r.status = .running
    · rw [Nat.succ_add, advance_succ_of_running hr, advance_succ_of_running hr, ih]
    · rw [advance_of_ended hr, advance_of_ended hr, advance_of_ended hr]

/-- The last cycle of a run that goes on. -/
theorem advance_succ_eq_next (h : (advance n r).status = .running) :
    advance (n + 1) r = (advance n r).next := by
  rw [advance_add, advance_succ_of_running h, advance_zero]

theorem advance_eq_of_ended (h : (advance k r).status ≠ .running) (hkn : k ≤ n) :
    advance n r = advance k r := by
  obtain ⟨d, rfl⟩ := Nat.exists_eq_add_of_le hkn
  rw [advance_add, advance_of_ended h]

/-- A run whose first cycle does not complete an instruction has ended after it. -/
theorem advance_eq_next (hr : r.status = .running) (hnext : r.next.status ≠ .running)
    (hn : 0 < n) : advance n r = r.next := by
  obtain ⟨n, rfl⟩ := Nat.exists_eq_succ_of_ne_zero (Nat.ne_of_gt hn)
  rw [Nat.succ_eq_add_one, advance_succ_of_running hr, advance_of_ended hnext]

theorem running_of_le (h : (advance n r).status = .running) (hkn : k ≤ n) :
    (advance k r).status = .running := by
  by_contra hk
  rw [advance_eq_of_ended hk hkn] at h
  exact hk h

/-- A run that has ended has done so in some cycle, and has gone on until then. -/
theorem exists_last_cycle (hr : r.status = .running) (h : (advance n r).status ≠ .running) :
    ∃ k < n, (advance k r).status = .running ∧ advance n r = (advance k r).next := by
  induction n with
  | zero => exact absurd hr h
  | succ n ih =>
    by_cases hn : (advance n r).status = .running
    · exact ⟨n, Nat.lt_succ_self n, hn, advance_succ_eq_next hn⟩
    · obtain ⟨k, hkn, hk, hlast⟩ := ih hn
      rw [advance_eq_of_ended hn (Nat.le_succ n)]
      exact ⟨k, Nat.lt_succ_of_lt hkn, hk, hlast⟩

/-- As long as a run goes on, each of its cycles completes an instruction. -/
theorem completed_of_running (h : (advance n r).status = .running) :
    (advance n r).completed = r.completed + n := by
  induction n with
  | zero => rfl
  | succ n ih =>
    have hn := running_of_le h (Nat.le_succ n)
    rw [advance_succ_eq_next hn] at h ⊢
    rw [completed_next_of_running h, ih hn, Nat.add_assoc]

theorem completed_start_of_running {m : Machine} {out : Sink}
    (h : (advance n (m.start out)).status = .running) :
    (advance n (m.start out)).completed = n := by
  rw [completed_of_running h, Machine.completed_start, Nat.zero_add]

/-! ### Results -/

theorem result?_of_running (h : r.status = .running) : r.result? = none := by
  simp [result?, h]

theorem result?_of_halted {b : UInt8} (h : r.status = .halted)
    (hread : r.machine.state.memory.read r.machine.state.pc = .ok b) :
    r.result? = some (.ok ⟨.ofNat r.completed, r.machine.state.pc, b⟩) := by
  simp [result?, h, hread]

theorem result?_of_faulted {fault : Fault} (h : r.status = .faulted fault) :
    r.result? = some (.error fault) := by
  simp [result?, h]

/-! ### Determinism -/

/-- What decides how a run goes on: the state, and the room that is left in the output. -/
def core (r : Run) : State × Option Nat := (r.state, r.out.room)

theorem next_congr {q : Run} (h : r.core = q.core) :
    r.next.core = q.next.core ∧ r.next.status = q.next.status := by
  obtain ⟨hs, hroom⟩ := Prod.mk.inj h
  have hfits : r.out.fits r.state.printed = q.out.fits r.state.printed := by
    simp only [Sink.fits, hroom]
  simp only [core, state_next, out_next, status_next]
  rw [← hs, State.step_eq r.state r.out, State.step_eq r.state q.out, hfits]
  split_ifs <;> simp [hroom]

/-- Two runs that go on from the same core go on alike. -/
theorem advance_congr {q : Run} (h : r.core = q.core) (hs : r.status = q.status) (n : Nat) :
    (advance n r).status = (advance n q).status := by
  induction n generalizing r q with
  | zero => exact hs
  | succ n ih =>
    by_cases hr : r.status = .running
    · rw [advance_succ_of_running hr, advance_succ_of_running (hs ▸ hr)]
      exact ih (next_congr h).1 (next_congr h).2
    · rw [advance_of_ended hr, advance_of_ended (hs ▸ hr), hs]

/-- A run that ends never comes back to a core while it goes on. -/
theorem core_ne_of_lt (hend : (advance n r).status ≠ .running)
    {j k : Nat} (hk : (advance k r).status = .running) (hjk : j < k) :
    (advance j r).core ≠ (advance k r).core := by
  intro hcore
  have hr : r.status = .running := running_of_le hk (Nat.zero_le k)
  have hj := running_of_le hk (Nat.le_of_lt hjk)
  obtain ⟨e, -, he, hlast⟩ := exists_last_cycle hr hend
  rw [hlast, ← advance_succ_eq_next he] at hend
  have hke : k ≤ e := by
    by_contra hek
    exact hend (running_of_le hk (Nat.not_le.1 hek))
  -- the cycles that lead from `k` to the end lead from `j` to an earlier end
  have hshift := advance_congr hcore (hj.trans hk.symm) (e + 1 - k)
  rw [← advance_add, ← advance_add, show k + (e + 1 - k) = e + 1 by omega] at hshift
  rw [running_of_le he (show j + (e + 1 - k) ≤ e by omega)] at hshift
  exact hend hshift.symm

/-! ### Invariants -/

/-- What every cycle preserves holds after any number of cycles. -/
theorem advance_induction {P : Run → Prop} (h : P r)
    (hnext : ∀ q : Run, q.status = .running → P q → P q.next) (n : Nat) : P (advance n r) := by
  induction n with
  | zero => exact h
  | succ n ih =>
    by_cases hn : (advance n r).status = .running
    · rw [advance_succ_eq_next hn]
      exact hnext _ hn ih
    · rw [advance_eq_of_ended hn (Nat.le_succ n)]
      exact ih

/-- What every rule of execution preserves holds after any number of cycles. -/
theorem advance_preserves {P : State → Prop}
    (hP : ∀ {s t : State} {i : Instruction} {text : String},
      s.fetch = .ok (.instruction i) → s.Executes i t text → P s → P t)
    (h : P r.state) (n : Nat) : P (advance n r).state := by
  apply advance_induction (P := fun q => P q.state) h
  intro q _ hq
  rw [state_next]
  by_cases hs : (q.state.step q.out).status = .running
  · obtain ⟨i, text, hf, he, -, -⟩ := State.executes_of_running hs
    exact hP hf he hq
  · rw [State.state_of_not_running hs]
    exact hq

/-- Running a program never changes the memory. -/
theorem memory_advance (n : Nat) (r : Run) : (advance n r).state.memory = r.state.memory :=
  advance_preserves (P := fun s => s.memory = r.state.memory)
    (fun _ he hs => he.memory_eq.trans hs) rfl n

end Run

end ByteMachine

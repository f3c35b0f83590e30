import ByteMachine.Operation
import ByteMachine.Proofs.Execution.Faults

/-!
# Failed operations

An operation that fails changes nothing. It is as if it had not been tried, except that a tracer may
have been shown the state, and that an output which refused a line has a part of it. So what made a
cycle fail makes every later cycle fail too, until the state is changed from outside.
-/

namespace ByteMachine

/-- The operations that make cycles. -/
def Operation.MakesCycles : Operation → Prop
  | .advance .. | .run _ => True
  | _ => False

/-! ### Operations without cycles -/

/-- When an operation that makes no cycles fails on a state, and with which fault. -/
inductive State.Refuses (s : State) : Operation → Fault → Prop where
  | load {bytes : Array UInt8} (h : 256 < bytes.size) :
      Refuses s (.load bytes) (.programTooLarge bytes.size)
  | readCell {address : Nat} (h : 256 ≤ address) :
      Refuses s (.readCell address) (.addressOutOfRange address)
  | writeCell {address : Nat} (h : 256 ≤ address) (value : UInt8) :
      Refuses s (.writeCell address value) (.addressOutOfRange address)
  | readRegister {index : UInt8} (h : 8 ≤ index.toNat) :
      Refuses s (.readRegister index) (.registerOutOfRange index)
  | writeRegister {index : UInt8} (h : 8 ≤ index.toNat) (value : UInt8) :
      Refuses s (.writeRegister index value) (.registerOutOfRange index)
  | decodeAt {pc : Nat} {fault : Fault} (h : s.decodeAt pc = .error fault) :
      Refuses s (.decodeAt pc) fault

namespace Memory

variable {m m' : Memory} {address : Nat} {value b : UInt8} {bytes : Array UInt8} {fault : Fault}

theorem read_eq_error :
    m.read address = .error fault ↔ 256 ≤ address ∧ fault = .addressOutOfRange address := by
  by_cases h : address < 256
  · simp [read_of_lt m h, Nat.not_le.2 h]
  · simp [read_of_le m (Nat.not_lt.1 h), Nat.not_lt.1 h, eq_comm]

theorem write_eq_ok :
    m.write address value = .ok m' ↔ ∃ h : address < 256, m.set address value h = m' := by
  by_cases h : address < 256
  · simp [write_of_lt m h, h]
  · simp [write_of_le m (Nat.not_lt.1 h), h]

theorem write_eq_error :
    m.write address value = .error fault ↔ 256 ≤ address ∧ fault = .addressOutOfRange address := by
  by_cases h : address < 256
  · simp [write_of_lt m h, Nat.not_le.2 h]
  · simp [write_of_le m (Nat.not_lt.1 h), Nat.not_lt.1 h, eq_comm]

theorem load_eq_ok : m.load bytes = .ok m' ↔ bytes.size ≤ 256 ∧ m.overwrite bytes = m' := by
  by_cases h : bytes.size ≤ 256
  · simp [load_of_le m h, h]
  · simp [load_of_lt m (Nat.not_le.1 h), h]

theorem load_eq_error :
    m.load bytes = .error fault ↔ 256 < bytes.size ∧ fault = .programTooLarge bytes.size := by
  by_cases h : bytes.size ≤ 256
  · simp [load_of_le m h, Nat.not_lt.2 h]
  · simp [load_of_lt m (Nat.not_le.1 h), Nat.not_le.1 h, eq_comm]

end Memory

namespace Machine

variable {m : Machine} {op : Operation} {fault : Fault} {out : Sink} {n : Nat}

theorem answer_eq_failed {α : Type} {reply : α → Reply} (hreply : ∀ a f, reply a ≠ .failed f)
    {result : Except Fault α} :
    perform.answer reply result = .failed fault ↔ result = .error fault := by
  cases result with
  | error f => simp [perform.answer]
  | ok a => simp [perform.answer, hreply]

theorem update_eq_failed {result : Except Fault State} :
    (m.update result).1 = .failed fault ↔ result = .error fault := by
  cases result with
  | error f => simp [update]
  | ok state => simp [update]

theorem update_of_failed {result : Except Fault State}
    (h : (m.update result).1 = .failed fault) : (m.update result).2 = m := by
  rw [update_eq_failed.1 h]
  rfl

/-- What holds of the old state and of the one that replaces it holds after an update. -/
theorem update_preserves {P : State → Prop} {result : Except Fault State} (h : P m.state)
    (hresult : ∀ s, result = .ok s → P s) : P (m.update result).2.state := by
  cases result with
  | error f => exact h
  | ok s => exact hresult s rfl

theorem perform_eq_failed_iff : (m.perform op).1 = .failed fault ↔ m.state.Refuses op fault := by
  constructor
  · intro h
    cases op with
    | renew | setPc pc | attach tracer => simp [perform] at h
    | advance count out | run out => simp [perform, perform.ended] at h
    | load bytes =>
      simp only [perform, update_eq_failed, bind_eq_error, Memory.load_eq_error, pure_eq_ok,
        reduceCtorEq, and_false, exists_false, or_false] at h
      obtain ⟨hsize, rfl⟩ := h
      exact .load hsize
    | readCell address =>
      rw [perform, answer_eq_failed (by simp), Memory.read_eq_error] at h
      obtain ⟨haddress, rfl⟩ := h
      exact .readCell haddress
    | writeCell address value =>
      simp only [perform, update_eq_failed, bind_eq_error, Memory.write_eq_error, pure_eq_ok,
        reduceCtorEq, and_false, exists_false, or_false] at h
      obtain ⟨haddress, rfl⟩ := h
      exact .writeCell haddress value
    | readRegister index =>
      rw [perform, answer_eq_failed (by simp), Registers.read_eq_error] at h
      obtain ⟨hindex, rfl⟩ := h
      exact .readRegister hindex
    | writeRegister index value =>
      simp only [perform, update_eq_failed, bind_eq_error, Registers.write_eq_error, pure_eq_ok,
        reduceCtorEq, and_false, exists_false, or_false] at h
      obtain ⟨hindex, rfl⟩ := h
      exact .writeRegister hindex value
    | decodeAt pc =>
      rw [perform, answer_eq_failed (by simp)] at h
      exact .decodeAt h
  · intro h
    cases h with
    | load h =>
      rw [perform, update_eq_failed, Memory.load_of_lt _ h, error_bind]
    | readCell h => rw [perform, answer_eq_failed (by simp), Memory.read_of_le _ h]
    | writeCell h value =>
      rw [perform, update_eq_failed, Memory.write_of_le _ h, error_bind]
    | readRegister h => rw [perform, answer_eq_failed (by simp), Registers.read_of_le _ h]
    | writeRegister h value =>
      rw [perform, update_eq_failed, Registers.write_of_le _ h, error_bind]
    | decodeAt h => rw [perform, answer_eq_failed (by simp), h]

theorem perform_of_failed (h : (m.perform op).1 = .failed fault) : (m.perform op).2 = m := by
  cases op with
  | renew | setPc pc | attach tracer => simp [perform] at h
  | advance count out | run out => simp [perform, perform.ended] at h
  | readCell address | readRegister index | decodeAt pc => rfl
  | load bytes | writeCell address value | writeRegister index value => exact update_of_failed h

/-! ### Cycles and runs -/

/-- What a cycle that fails leaves of a machine and an output. The state is as it was. The tracer is
too, but it may have been shown the state. The output is as it was, unless it refused a line and has
a part of it now. -/
structure Aftermath (m : Machine) (out : Sink) (fault : Fault) (m' : Machine) (out' : Sink) :
    Prop where
  state : m'.state = m.state
  tracer : m'.tracer = m.tracer ∨ m'.tracer = m.tracer.map (·.observe m.state)
  out_eq : fault ≠ .outputRefused → out' = out
  refused : fault = .outputRefused → ∃ (r : UInt8) (hr : r.toNat < 8) (taken missing : String),
    m.state.fetch = .ok (.instruction (.prn r)) ∧
      Text.decimal m.state.registers[r.toNat].toNat ++ "\n" = taken ++ missing ∧ missing ≠ "" ∧
      out'.text = out.text ++ taken

theorem nextTracer_eq (m : Machine) :
    m.nextTracer = m.tracer ∨ m.nextTracer = m.tracer.map (·.observe m.state) := by
  unfold nextTracer
  cases m.state.fetch with
  | error fault => exact .inl rfl
  | ok d => exact .inr rfl

theorem aftermath_step (h : (m.step out).status = .faulted fault) :
    m.Aftermath out fault (m.step out).machine (m.step out).out := by
  rcases State.step_faulted h with ⟨hne, hstep⟩ | ⟨rfl, r, hr, hf, hfits, hstep⟩
  · constructor
    · rw [state_step, hstep]
    · exact m.nextTracer_eq
    · intro _
      rw [out_step, hstep]
    · intro heq
      exact absurd heq hne
  · obtain ⟨missing, hmissing, hline⟩ := Sink.kept_of_not_fits hfits
    constructor
    · rw [state_step, hstep]
    · exact m.nextTracer_eq
    · intro hne
      exact absurd rfl hne
    · intro _
      refine ⟨r, hr, _, missing, hf, hline, hmissing, ?_⟩
      rw [out_step, hstep, Sink.text_write]

theorem aftermath_advance (h : (Run.advance n (m.start out)).status = .faulted fault) :
    ∃ k < n, (∀ j ≤ k, (Run.advance j (m.start out)).status = .running) ∧
      (Run.advance n (m.start out)).completed = k ∧
        let r := Run.advance k (m.start out)
        let last := Run.advance n (m.start out)
        r.machine.Aftermath r.out fault last.machine last.out := by
  obtain ⟨k, hkn, hk, hlast, hfault, hcompleted⟩ :=
    Run.exists_faulted_cycle (m.status_start out) h
  refine ⟨k, hkn, fun j hj => Run.running_of_le hk hj, ?_, ?_⟩
  · rw [hcompleted, completed_start, Nat.zero_add]
  · rw [hlast]
    exact aftermath_step hfault

/-- A run fails in its last cycle only: where it halts there is a byte to report. -/
theorem result?_eq_error (h : (Run.advance n (m.start out)).result? = some (.error fault)) :
    (Run.advance n (m.start out)).status = .faulted fault := by
  cases hs : (Run.advance n (m.start out)).status with
  | running =>
    rw [Run.result?_of_running hs] at h
    cases h
  | faulted f =>
    rw [Run.result?_of_faulted hs] at h
    cases h
    rfl
  | halted =>
    exfalso
    obtain ⟨k, -, -, hlast⟩ := Run.exists_last_cycle (m.status_start out)
      (Status.ne_running_of_halted hs)
    rw [hlast] at hs h
    obtain ⟨byte, hf, hstep⟩ := State.step_halted hs
    have hstate : (Run.advance k (m.start out)).next.machine.state =
        (Run.advance k (m.start out)).machine.state := congrArg Cycle.state hstep
    have hread := State.read_of_halt hf
    rw [← hstate] at hread
    rw [Run.result?_of_halted hs hread] at h
    cases h

end Machine

/-! ### Operations that make cycles -/

namespace Machine

theorem machine_ended (r : Run) : (perform.ended r).2 = r.machine := rfl

theorem machine_perform_advance (m : Machine) (n : Nat) (out : Sink) :
    (m.perform (.advance n out)).2 = (Run.advance n (m.start out)).machine := by
  rw [perform, machine_ended]
  rfl

theorem machine_perform_run (m : Machine) (out : Sink) :
    (m.perform (.run out)).2 = (m.run out).machine := by
  rw [perform, machine_ended]

/-- An operation that makes cycles makes some number of them. -/
theorem exists_advance_of_makesCycles {op : Operation} (m : Machine) (hop : op.MakesCycles) :
    ∃ n out, (m.perform op).2 = (Run.advance n (m.start out)).machine := by
  cases op with
  | advance n out => exact ⟨n, out, machine_perform_advance m n out⟩
  | run out => exact ⟨patience out, out, machine_perform_run m out⟩
  | renew | load bytes | setPc pc | readCell address | writeCell address value | readRegister index
  | writeRegister index value | decodeAt pc | attach tracer => exact hop.elim

/-- The machine after further operations. -/
def performAll (m : Machine) (history : List Operation) : Machine :=
  history.foldl (fun m op => (m.perform op).2) m

@[simp] theorem performAll_nil (m : Machine) : m.performAll [] = m := rfl

@[simp] theorem performAll_cons (m : Machine) (op : Operation) (history : List Operation) :
    m.performAll (op :: history) = (m.perform op).2.performAll history := rfl

/-- What operations of some kind preserve is preserved by many of them. -/
theorem performAll_preserves {P : Machine → Prop} {Q : Operation → Prop} {m : Machine}
    {history : List Operation} (hP : ∀ {m op}, Q op → P m → P (m.perform op).2) (h : P m)
    (hhistory : ∀ op ∈ history, Q op) : P (m.performAll history) := by
  induction history generalizing m with
  | nil => exact h
  | cons op history ih =>
    rw [List.forall_mem_cons] at hhistory
    exact ih (hP hhistory.1 h) hhistory.2

end Machine

/-! ### Trying again -/

/-- A state on which every cycle fails alike. -/
def State.Stuck (s : State) (fault : Fault) : Prop :=
  ∀ out, s.step out = ⟨.faulted fault, s, out⟩

namespace Machine

variable {m : Machine} {op : Operation} {fault : Fault} {out : Sink} {n : Nat}

theorem stuck_of_faulted (h : (m.step out).status = .faulted fault)
    (hne : fault ≠ .outputRefused) : m.state.Stuck fault := by
  rcases State.step_faulted h with ⟨-, hstep⟩ | ⟨heq, -⟩
  · exact hstep
  · exact absurd heq hne

theorem step_of_stuck (h : m.state.Stuck fault) (out : Sink) :
    (m.step out).status = .faulted fault ∧ (m.step out).machine.state = m.state ∧
      (m.step out).out = out := by
  rw [status_step, state_step, out_step, h out]
  exact ⟨rfl, rfl, rfl⟩

theorem advance_of_stuck (h : m.state.Stuck fault) (hn : 0 < n) (out : Sink) :
    let r := Run.advance n (m.start out)
    r.result? = some (.error fault) ∧ r.completed = 0 ∧ r.machine.state = m.state ∧
      r.out = out := by
  obtain ⟨hstatus, hstate, hout⟩ := step_of_stuck h out
  have hfault : (m.start out).next.status = .faulted fault := hstatus
  have hend := Status.ne_running_of_faulted hfault
  rw [Run.advance_eq_next (m.status_start out) hend hn]
  refine ⟨?_, ?_, hstate, hout⟩
  · exact Run.result?_of_faulted hfault
  · exact Run.completed_next_of_ended hend

theorem patience_pos (out : Sink) : 0 < patience out :=
  Nat.mul_pos (Nat.succ_pos _) (Nat.pow_pos Nat.two_pos)

theorem state_perform_of_stuck (h : m.state.Stuck fault) (hop : op.MakesCycles) :
    (m.perform op).2.state = m.state := by
  obtain ⟨n, out, hperform⟩ := exists_advance_of_makesCycles m hop
  rw [hperform]
  rcases Nat.eq_zero_or_pos n with rfl | hn
  · rfl
  · exact (advance_of_stuck h hn out).2.2.1

theorem state_performAll_of_stuck {history : List Operation} (h : m.state.Stuck fault)
    (hhistory : ∀ op ∈ history, op.MakesCycles) : (m.performAll history).state = m.state := by
  apply performAll_preserves (P := fun m' => m'.state = m.state) _ rfl hhistory
  intro m' op hop hm'
  rw [state_perform_of_stuck (hm' ▸ h) hop, hm']

/-- An operation that fails leaves the machine as it was. A run that fails after `k` completed
instructions has come to where they lead. And where a cycle fails, though the output refused
nothing, all further cycles and runs onto any outputs fail alike and change nothing. -/
theorem failures_change_nothing (m : Machine) :
    (∀ op fault, (m.perform op).1 = .failed fault ↔ m.state.Refuses op fault) ∧
    (∀ op fault, (m.perform op).1 = .failed fault → (m.perform op).2 = m) ∧
    (∀ out fault, (m.step out).status = .faulted fault →
      m.Aftermath out fault (m.step out).machine (m.step out).out) ∧
    (∀ out fault, (m.run out).result? = some (.error fault) →
      ∃ k, (∀ j ≤ k, (Run.advance j (m.start out)).status = .running) ∧
        (m.run out).completed = k ∧
          let r := Run.advance k (m.start out)
          r.machine.Aftermath r.out fault (m.run out).machine (m.run out).out) ∧
    ∀ out fault, (m.step out).status = .faulted fault → fault ≠ .outputRefused →
      ∀ history : List Operation, (∀ op ∈ history, op.MakesCycles) →
        let m' := (m.step out).machine.performAll history
        m'.state = m.state ∧ ∀ out',
          ((m'.step out').status = .faulted fault ∧ (m'.step out').machine.state = m.state ∧
            (m'.step out').out = out') ∧
          (m'.run out').result? = some (.error fault) ∧ (m'.run out').completed = 0 ∧
            (m'.run out').machine.state = m.state ∧ (m'.run out').out = out' := by
  refine ⟨fun op fault => perform_eq_failed_iff, fun op fault => perform_of_failed,
    fun out fault => aftermath_step, ?_, ?_⟩
  · intro out fault h
    obtain ⟨k, -, hk⟩ := aftermath_advance (result?_eq_error h)
    exact ⟨k, hk⟩
  · intro out fault h hne history hhistory m'
    have hstuck := stuck_of_faulted h hne
    have hstep := (step_of_stuck hstuck out).2.1
    have hstate : m'.state = m.state :=
      (state_performAll_of_stuck (hstep ▸ hstuck) hhistory).trans hstep
    rw [← hstate] at hstuck ⊢
    exact ⟨rfl, fun out' => ⟨step_of_stuck hstuck out',
      advance_of_stuck hstuck (patience_pos out') out'⟩⟩

end Machine

end ByteMachine

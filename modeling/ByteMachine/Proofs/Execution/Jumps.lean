import ByteMachine.Proofs.Execution.Counter
import ByteMachine.Proofs.Execution.Events

/-!
# Cycles between jumps

As long as no jump is taken, every completed instruction moves the program counter on by two cells
or more, and never beyond the end of the memory. So there are at most 128 instructions before the
first jump and after each one, and a run that goes on for longer goes on by jumps.
-/

namespace ByteMachine

/-- Whether an instruction was completed that jumped. -/
def Event.jumps : Event → Bool
  | .completed s i => (s.jumpRegister i).isSome
  | .performed _ => false

/-- A completed instruction moves the program counter on by two cells or more, if a jump is given a
whole memory on top. -/
theorem State.Executes.pc_add_two_le {s t : State} {i : Instruction} {text : String}
    (hf : s.fetch = .ok (.instruction i)) (he : s.Executes i t text) :
    s.pc + 2 ≤ t.pc + 256 * if (Event.completed s i).jumps then 1 else 0 := by
  have hlength : 2 ≤ i.length := by
    rcases i.length_eq with h | h
    · exact Nat.le_of_eq h.symm
    · exact Nat.le_of_succ_le (Nat.le_of_eq h.symm)
  rcases he.pc_eq with ⟨-, ht⟩ | ⟨r, hr, hj, -⟩
  · rw [ht]
    exact Nat.le_add_right_of_le (Nat.add_le_add_left hlength s.pc)
  · have hjumps : (Event.completed s i).jumps = true := by rw [Event.jumps, hj, Option.isSome_some]
    rw [if_pos hjumps]
    -- the jump itself has found its place in the memory
    exact Nat.le_add_left_of_le (Nat.le_trans (Nat.add_le_add_left hlength s.pc)
      (pc_add_length_le hf))

namespace Run

variable {r : Run} {n : Nat}

/-- The program counter has been moved on by two for each instruction, but for what the jumps have
taken back. -/
theorem two_mul_length_events_le (r : Run) (n : Nat) :
    2 * (events n r).length ≤
      (advance n r).state.pc + 256 * (events n r).countP Event.jumps := by
  apply events_induction
    (P := fun s events => 2 * events.length ≤ s.pc + 256 * events.countP Event.jumps) (l := []) _
    (Nat.zero_le _)
  intro s t i text events hf he ih
  have hstep := State.Executes.pc_add_two_le hf he
  rw [List.length_append, List.length_singleton, List.countP_append, List.countP_singleton]
  omega

theorem pc_advance_of_events_ne_nil (h : events n r ≠ []) : (advance n r).state.pc ≤ 256 := by
  have hpc : events n r = [] ∨ (advance n r).state.pc ≤ 256 := by
    apply events_induction (P := fun s events => events = [] ∨ s.pc ≤ 256) (l := []) _ (.inl rfl)
    intro s t i text events hf he _
    exact .inr (State.pc_le_of_executes hf he)
  exact hpc.resolve_left h

theorem length_events_le (r : Run) (n : Nat) :
    (events n r).length ≤ 128 * ((events n r).countP Event.jumps + 1) := by
  by_cases h : events n r = []
  · rw [h]
    exact Nat.zero_le _
  · have hpc := pc_advance_of_events_ne_nil h
    have hcount := two_mul_length_events_le r n
    omega

end Run

/-- A run completes at most 128 instructions for each jump that it takes, and 128 more. So a run
that takes no jump has ended after 129 cycles. -/
theorem Machine.jumps_bound_cycles (m : Machine) (out : Sink) :
    (∀ n, let r := Run.advance n (m.start out)
      let events := Run.events n (m.start out)
      (r.status = .running → r.completed = n) ∧ events.length = r.completed ∧
        r.completed ≤ 128 * (events.countP Event.jumps + 1)) ∧
    ((∀ e ∈ Run.events 129 (m.start out), ¬ e.jumps) →
      (Run.advance 129 (m.start out)).status ≠ .running) := by
  have hlength (n : Nat) :
      (Run.events n (m.start out)).length = (Run.advance n (m.start out)).completed := by
    rw [Run.completed_advance, completed_start, Nat.zero_add]
  constructor
  · intro n
    refine ⟨Run.completed_start_of_running, hlength n, ?_⟩
    rw [← hlength]
    exact Run.length_events_le _ n
  · intro hjumps h
    have hle := Run.length_events_le (m.start out) 129
    rw [List.countP_eq_zero.2 hjumps, hlength, Run.completed_start_of_running h] at hle
    exact absurd hle (by decide)

end ByteMachine

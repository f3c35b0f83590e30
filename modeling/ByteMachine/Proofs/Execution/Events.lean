import ByteMachine.Operation
import ByteMachine.Proofs.Execution.Runs

/-!
# Events

What happens to a machine. The events of a run are the instructions that it completes, each one
together with the state in which it was found. A cycle that halts or fails is no event, so what each
completed instruction adds to is known from the events, and what it preserves is preserved by the
run.
-/

namespace ByteMachine

/-- What can happen to a machine. -/
inductive Event where
  /-- An operation from outside has succeeded. -/
  | performed (op : Operation)
  /-- An instruction was completed that was found in a state. -/
  | completed (before : State) (i : Instruction)

namespace Run

/-- The instruction that the next cycle completes, as an event. -/
def event? (r : Run) : Option Event :=
  match r.state.fetch, r.next.status with
  | .ok (.instruction i), .running => some (.completed r.state i)
  | _, _ => none

/-- The events of up to `n` cycles. -/
def events : Nat → Run → List Event
  | 0, _ => []
  | n + 1, r =>
    match r.status with
    | .running => r.event?.toList ++ events n r.next
    | _ => []

variable {r : Run} {n : Nat}

theorem event?_of_ended (h : r.next.status ≠ .running) : r.event? = none := by
  unfold event?
  split
  · rename_i hrunning
    exact absurd hrunning h
  · rfl

theorem event?_of_fetch {i : Instruction} (hf : r.state.fetch = .ok (.instruction i))
    (h : r.next.status = .running) : r.event? = some (.completed r.state i) := by
  simp only [event?, hf, h]

theorem events_succ_of_running (h : r.status = .running) (n : Nat) :
    events (n + 1) r = r.event?.toList ++ events n r.next := by
  simp [events, h]

theorem events_of_ended (h : r.status ≠ .running) (n : Nat) : events n r = [] := by
  cases n with
  | zero => rfl
  | succ n => unfold events; split <;> simp_all

/-- What every cycle preserves, with the instruction that it completes as a new event, holds after
any number of cycles with their events. -/
theorem advance_events_induction {P : Run → List Event → Prop}
    (hcompleted : ∀ {q : Run} {i : Instruction} {text : String} {events : List Event},
      q.state.fetch = .ok (.instruction i) → q.state.Executes i q.next.state text →
        q.next.status = .running → q.next.out = q.out.write text → P q events →
          P q.next (events ++ [.completed q.state i]))
    (hended : ∀ {q : Run} {events : List Event}, q.next.status ≠ .running → P q events →
      P q.next events)
    {l : List Event} (h : P r l) (n : Nat) : P (advance n r) (l ++ events n r) := by
  induction n generalizing r l with
  | zero => simpa [events] using h
  | succ n ih =>
    by_cases hr : r.status = .running
    · rw [advance_succ_of_running hr, events_succ_of_running hr]
      by_cases hnext : r.next.status = .running
      · obtain ⟨i, text, hf, he, -, hout⟩ := State.executes_of_running hnext
        rw [event?_of_fetch hf hnext, Option.toList_some, ← List.append_assoc]
        exact ih (hcompleted hf he hnext hout h)
      · rw [event?_of_ended hnext, Option.toList_none, List.nil_append]
        exact ih (hended hnext h)
    · rw [advance_of_ended hr, events_of_ended hr, List.append_nil]
      exact h

/-- What every completed instruction preserves is preserved by a run. -/
theorem events_induction {P : State → List Event → Prop}
    (hcompleted : ∀ {s t : State} {i : Instruction} {text : String} {events : List Event},
      s.fetch = .ok (.instruction i) → s.Executes i t text → P s events →
        P t (events ++ [.completed s i]))
    {l : List Event} {r : Run} (h : P r.state l) (n : Nat) :
    P (advance n r).state (l ++ events n r) := by
  apply advance_events_induction (P := fun q events => P q.state events) _ _ h
  · intro q i text events hf he _ _ hq
    exact hcompleted hf he hq
  · intro q events hnext hq
    rw [state_next_of_ended hnext]
    exact hq

/-- A run has counted its events. -/
theorem completed_advance (n : Nat) (r : Run) :
    (advance n r).completed = r.completed + (events n r).length := by
  apply advance_events_induction
    (P := fun q events => q.completed = r.completed + events.length) (l := []) _ _ rfl
  · intro q i text events _ _ hnext _ hq
    rw [completed_next_of_running hnext, hq, List.length_append, List.length_singleton,
      Nat.add_assoc]
  · intro q events hnext hq
    rw [completed_next_of_ended hnext, hq]

end Run

end ByteMachine

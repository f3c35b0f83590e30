import Mathlib.Data.List.Induction
import ByteMachine.Proofs.Execution.Events
import ByteMachine.Proofs.Operations.Failures

/-!
# Histories

A machine comes about by the operations of its history. Beside the machine a chronicle keeps what
has happened to it since it was new: the operations from outside that succeeded, and each
instruction that was completed, together with the state in which it was found. What holds at the
start and is preserved by these events holds after every history.

A run can be broken off after any number of cycles, so the machines in the midst of a run are
machines with a history too.
-/

namespace ByteMachine

namespace Event

variable {α : Type} (value? : Event → Option α)

/-- The value of the last event that has one. -/
def last? (events : List Event) : Option α :=
  events.reverse.findSome? value?

@[simp] theorem last?_nil : last? value? [] = none := rfl

@[simp] theorem last?_concat (events : List Event) (e : Event) :
    last? value? (events ++ [e]) = (value? e).or (last? value? events) := by
  rw [last?, List.reverse_concat, List.findSome?_cons]
  cases value? e <;> rfl

theorem last?_eq_none {events : List Event} :
    last? value? events = none ↔ ∀ e ∈ events, value? e = none := by
  simp [last?]

end Event

/-! ### Chronicles -/

/-- The events of an operation on a machine. -/
def Operation.events (m : Machine) : Operation → List Event
  | .advance n out => Run.events n (m.start out)
  | .run out => Run.events (Machine.patience out) (m.start out)
  | op =>
    match (m.perform op).1 with
    | .failed _ => []
    | _ => [.performed op]

/-- A machine, and what has happened to it since it was new. -/
structure Chronicle where
  machine : Machine := .initial
  events : List Event := []

namespace Chronicle

/-- A new machine has no past. -/
def perform (c : Chronicle) (op : Operation) : Chronicle where
  machine := (c.machine.perform op).2
  events :=
    match op with
    | .renew => []
    | op => c.events ++ op.events c.machine

/-- The chronicle of a history. -/
def ofHistory (history : List Operation) : Chronicle :=
  history.foldl perform {}

theorem ofHistory_concat (history : List Operation) (op : Operation) :
    ofHistory (history ++ [op]) = (ofHistory history).perform op := by
  simp [ofHistory]

theorem machine_perform (c : Chronicle) (op : Operation) :
    (c.perform op).machine = (c.machine.perform op).2 := rfl

theorem events_perform_advance (c : Chronicle) (n : Nat) (out : Sink) :
    (c.perform (.advance n out)).events = c.events ++ Run.events n (c.machine.start out) := by
  rw [perform, Operation.events]
  simp

theorem events_perform_run (c : Chronicle) (out : Sink) :
    (c.perform (.run out)).events =
      c.events ++ Run.events (Machine.patience out) (c.machine.start out) := by
  rw [perform, Operation.events]
  simp

theorem events_perform_of_not_makesCycles {c : Chronicle} {op : Operation}
    (hop : ¬ op.MakesCycles) (hrenew : op ≠ .renew) :
    (c.perform op).events = c.events ++
      match (c.machine.perform op).1 with
      | .failed _ => []
      | _ => [.performed op] := by
  cases op with
  | renew => exact absurd rfl hrenew
  | advance n out | run out => exact absurd trivial hop
  | load bytes | setPc pc | readCell address | writeCell address value | readRegister index
  | writeRegister index value | decodeAt pc | attach tracer => rfl

theorem machine_ofHistory (history : List Operation) :
    (ofHistory history).machine = Machine.after history := by
  induction history using List.reverseRecOn with
  | nil => rfl
  | append_singleton history op ih =>
    rw [ofHistory_concat, machine_perform, ih]
    simp [Machine.after]

end Chronicle

/-! ### What every event preserves -/

section Invariants

variable {P : State → List Event → Prop}

/-- What holds of a new machine, and what every operation from outside that succeeds and every
completed instruction preserves, holds after every history. -/
theorem Chronicle.induction (hnew : P {} [])
    (hperformed : ∀ {m : Machine} {op : Operation} {events : List Event}, op ≠ .renew →
      ¬ op.MakesCycles → (∀ fault, (m.perform op).1 ≠ .failed fault) → P m.state events →
        P (m.perform op).2.state (events ++ [.performed op]))
    (hcompleted : ∀ {s t : State} {i : Instruction} {text : String} {events : List Event},
      s.fetch = .ok (.instruction i) → s.Executes i t text → P s events →
        P t (events ++ [.completed s i]))
    (history : List Operation) :
    P (ofHistory history).machine.state (ofHistory history).events := by
  induction history using List.reverseRecOn with
  | nil => exact hnew
  | append_singleton history op ih =>
    have hcycles (n : Nat) (out : Sink) :
        P (Run.advance n ((ofHistory history).machine.start out)).machine.state
          ((ofHistory history).events ++ Run.events n ((ofHistory history).machine.start out)) :=
      Run.events_induction hcompleted (r := (ofHistory history).machine.start out) ih n
    rw [ofHistory_concat, machine_perform]
    by_cases hop : op.MakesCycles
    · cases op with
      | advance n out =>
        rw [Machine.machine_perform_advance, events_perform_advance]
        exact hcycles n out
      | run out =>
        rw [Machine.machine_perform_run, Machine.run_eq_advance, events_perform_run]
        exact hcycles (Machine.patience out) out
      | renew | load bytes | setPc pc | readCell address | writeCell address value
      | readRegister index | writeRegister index value | decodeAt pc | attach tracer =>
        exact hop.elim
    · by_cases hrenew : op = .renew
      · subst hrenew
        exact hnew
      · rw [events_perform_of_not_makesCycles hop hrenew]
        cases hreply : ((ofHistory history).machine.perform op).1 with
        | failed fault =>
          rw [Machine.perform_of_failed hreply, List.append_nil]
          exact ih
        | done | byte b | decoded d | ran r =>
          exact hperformed hrenew hop (fun fault => by rw [hreply]; simp) ih

end Invariants

end ByteMachine

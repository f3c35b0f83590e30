import ByteMachine.Machine

/-!
# Runs

A run is a machine on its way: cycles are added to it until one of them halts or fails. A machine
has only so many different states, so a run that has not ended after as many cycles as
`Machine.patience` allows will never end.
-/

namespace ByteMachine

/-- The cycles made so far: the machine and the output after them, how many instructions were
completed, how the last cycle ended, and what there was to see. -/
structure Run where
  machine : Machine
  out : Sink := .unlimited
  completed : Nat := 0
  status : Status := .running
  notes : Array Note := #[]

/-- What is known of a run that halted: the number of completed instructions, the address at which
the machine halted, and the byte there. -/
structure Summary where
  steps : UInt64
  haltedAt : Nat
  haltByte : UInt8
  deriving DecidableEq

namespace Run

/-- Adds one cycle. -/
def next (r : Run) : Run :=
  let cycle := r.machine.step r.out
  { machine := cycle.machine
    out := cycle.out
    completed := if cycle.status = .running then r.completed + 1 else r.completed
    status := cycle.status
    notes := r.notes ++ cycle.notes }

/-- Adds up to `n` cycles, and none after one that halts or fails. -/
def advance : Nat → Run → Run
  | 0, r => r
  | n + 1, r =>
    match r.status with
    | .running => advance n r.next
    | _ => r

/-- How the last cycle ended, if there was one. -/
def last? (r : Run) : Option Status :=
  if r.status = .running ∧ r.completed = 0 then none else some r.status

/-- The result of a run that has ended. -/
def result? (r : Run) : Option (Except Fault Summary) :=
  match r.status with
  | .running => none
  | .faulted fault => some (.error fault)
  | .halted =>
    let haltedAt := r.machine.state.pc
    some do
      let haltByte ← r.machine.state.memory.read haltedAt
      return { steps := UInt64.ofNat r.completed, haltedAt, haltByte }

@[simp] theorem advance_zero (r : Run) : advance 0 r = r := rfl

theorem advance_succ_of_running {r : Run} (h : r.status = .running) (n : Nat) :
    advance (n + 1) r = advance n r.next := by
  simp [advance, h]

theorem advance_of_ended {r : Run} (h : r.status ≠ .running) (n : Nat) : advance n r = r := by
  cases n with
  | zero => rfl
  | succ n => unfold advance; split <;> simp_all

end Run

namespace Machine

/-- The number of cycles after which a run onto the output has ended if it ever ends. Without an
end to the output that is more than the machine has states to go through, and otherwise it is as
many for each character that the output still takes. -/
def patience (out : Sink) : Nat :=
  (out.room.getD 0 + 1) * Nat.pow 2 60

/-- Runs the machine from where it stands until a cycle halts or fails. -/
def run (m : Machine) (out : Sink) : Run :=
  Run.advance (patience out) { machine := m, out }

end Machine

end ByteMachine

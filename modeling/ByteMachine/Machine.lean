import ByteMachine.Tracer

/-!
# Machines

A machine is a state that may be watched by a tracer. The cycles of the machine are those of the
state; the tracer and the log only look on.
-/

namespace ByteMachine

/-- A state, and the tracer that watches it if there is one. -/
structure Machine where
  state : State := {}
  tracer : Option Tracer := none
  deriving DecidableEq

/-- One cycle of a machine: how it ended, the machine and the output after it, and what there was
to see. -/
structure Machine.Step where
  status : Status
  machine : Machine
  out : Sink
  notes : List Note

/-- What the machine reports before it executes what it found. -/
def Decoded.message (pc : Nat) : Decoded → Message
  | halt byte => .halting byte pc
  | d@(instruction i) => .executing pc i.opcode (d.operand 0) (d.operand 1)

namespace Machine

/-- A machine at address 0 with blank registers and memory, and without a tracer. -/
def initial : Machine := {}

/-- The tracer after a cycle. It sees each state in which something can be decoded. -/
def nextTracer (m : Machine) : Option Tracer :=
  match m.state.fetch with
  | .error _ => m.tracer
  | .ok _ => m.tracer.map (·.observe m.state)

/-- What there is to see of a cycle: first the trace, then the report of the machine. -/
def notes (m : Machine) : List Note :=
  match m.state.fetch with
  | .error _ => []
  | .ok d =>
    (m.tracer.elim [] fun t => t.notes m.state) ++ [.reported (d.message m.state.pc)]

/-- One cycle. -/
def step (m : Machine) (out : Sink) : Step :=
  let cycle := m.state.step out
  { status := cycle.status
    machine := { state := cycle.state, tracer := m.nextTracer }
    out := cycle.out
    notes := m.notes }

@[simp] theorem status_step (m : Machine) (out : Sink) :
    (m.step out).status = (m.state.step out).status := rfl

@[simp] theorem state_step (m : Machine) (out : Sink) :
    (m.step out).machine.state = (m.state.step out).state := rfl

@[simp] theorem out_step (m : Machine) (out : Sink) :
    (m.step out).out = (m.state.step out).out := rfl

@[simp] theorem tracer_step (m : Machine) (out : Sink) :
    (m.step out).machine.tracer = m.nextTracer := rfl

@[simp] theorem notes_step (m : Machine) (out : Sink) : (m.step out).notes = m.notes := rfl

end Machine

end ByteMachine

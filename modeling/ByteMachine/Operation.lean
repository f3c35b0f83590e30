import ByteMachine.Run

/-!
# Operations on a machine

All that can be done to a machine from outside, and the reply that each operation gives. A sequence
of operations is a history, and the machines there are to speak of are those with a history.
-/

namespace ByteMachine

/-- The operations. -/
inductive Operation where
  /-- Puts a new machine in place of the old one. -/
  | renew
  | load (bytes : Array UInt8)
  | setPc (pc : UInt8)
  | readCell (address : Nat)
  | writeCell (address : Nat) (value : UInt8)
  | readRegister (index : UInt8)
  | writeRegister (index value : UInt8)
  | decodeAt (pc : Nat)
  | attach (tracer : Tracer)
  /-- Adds up to `count` cycles. -/
  | advance (count : Nat) (out : Sink)
  /-- Runs the machine to its end. -/
  | run (out : Sink)

/-- The replies. -/
inductive Reply where
  | done
  | byte (b : UInt8)
  | decoded (d : Decoded)
  | ran (r : Run)
  | failed (fault : Fault)

namespace Machine

/-- Replaces the state if there was no fault. -/
def update (m : Machine) : Except Fault State → Reply × Machine
  | .ok state => (.done, { m with state })
  | .error fault => (.failed fault, m)

/-- Performs an operation: the reply to it, and the machine after it. -/
def perform (m : Machine) : Operation → Reply × Machine
  | .renew => (.done, initial)
  | .load bytes =>
    m.update do return { m.state with memory := ← m.state.memory.load bytes }
  | .setPc pc => (.done, { m with state := { m.state with pc := pc.toNat } })
  | .readCell address => (answer Reply.byte (m.state.memory.read address), m)
  | .writeCell address value =>
    m.update do return { m.state with memory := ← m.state.memory.write address value }
  | .readRegister index => (answer Reply.byte (m.state.registers.read index), m)
  | .writeRegister index value =>
    m.update do return { m.state with registers := ← m.state.registers.write index value }
  | .decodeAt pc => (answer Reply.decoded (m.state.decodeAt pc), m)
  | .attach tracer => (.done, { m with tracer := some tracer })
  | .advance count out => ended (Run.advance count { machine := m, out })
  | .run out => ended (m.run out)
where
  answer {α : Type} (reply : α → Reply) : Except Fault α → Reply
    | .ok value => reply value
    | .error fault => .failed fault
  ended (r : Run) : Reply × Machine := (.ran r, r.machine)

theorem perform_load (m : Machine) {bytes : Array UInt8} (h : bytes.size ≤ 256) :
    m.perform (.load bytes) =
      (.done, { m with state := { m.state with memory := m.state.memory.overwrite bytes } }) := by
  rw [perform, Memory.load_of_le _ h]
  rfl

/-- The machine after a history. -/
def after (history : List Operation) : Machine :=
  history.foldl (fun m op => (m.perform op).2) initial

end Machine

end ByteMachine

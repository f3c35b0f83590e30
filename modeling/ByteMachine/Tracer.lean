import ByteMachine.Log
import ByteMachine.State

/-!
# Tracers

A tracer is shown the state of a machine before each instruction, and writes a line about it to a
sink of its own.
-/

namespace ByteMachine

namespace State

/-- The state as a line of hexadecimal numbers: the program counter, the three cells from there
on, where a cell past the end counts as 0, and the registers. -/
def traceLine (s : State) : String :=
  let cell (offset : Nat) := Text.upperHex 2 (s.memory[s.pc + offset]?.getD 0).toNat
  let registers := s.registers.toList.map fun r => Text.upperHex 2 r.toNat
  "TRACE: " ++ Text.upperHex 2 s.pc ++ " | " ++ cell 0 ++ " " ++ cell 1 ++ " " ++ cell 2 ++ " | " ++
    " ".intercalate registers

/-- The state as a short record: the program counter, the flags and the registers. -/
def recordLine (s : State) : String :=
  let registers := s.registers.toList.map fun r => Text.hex 2 r.toNat
  Text.decimal s.pc ++ " " ++ Text.decimal s.flags.bits.toNat ++ " " ++ String.join registers

end State

/-- A tracer: which lines it writes, and where to. -/
inductive Tracer where
  /-- Writes trace lines, and reports each line that the sink does not take whole. -/
  | hex (sink : Sink)
  /-- Writes short records, and keeps silent about those that the sink does not take. -/
  | record (sink : Sink)
  deriving DecidableEq

/-- What an observer of a machine gets to see, in order. -/
inductive Note where
  /-- A tracer wrote a text. -/
  | traced (text : String)
  /-- The machine reported something. -/
  | reported (message : Message)
  deriving DecidableEq

namespace Note

def message? : Note → Option Message
  | traced _ => none
  | reported message => some message

/-- The note as it appears where the traces and the log are shown together. -/
def shown (v : Verbosity) : Note → String
  | traced text => text
  | reported message => if v.admits message.level then message.line else ""

end Note

namespace Tracer

def sink : Tracer → Sink
  | hex sink | record sink => sink

/-- The line about a state, with its line end. -/
def line : Tracer → State → String
  | hex _, s => s.traceLine ++ "\n"
  | record _, s => s.recordLine ++ "\n"

/-- The tracer after it was shown a state. -/
def observe (t : Tracer) (s : State) : Tracer :=
  match t with
  | hex sink => hex (sink.write (t.line s))
  | record sink => record (sink.write (t.line s))

/-- What comes of showing the tracer a state. -/
def notes (t : Tracer) (s : State) : List Note :=
  .traced (t.sink.kept (t.line s)) ::
    match t with
    | hex sink => if sink.fits (t.line s) then [] else [.reported .traceRefused]
    | record _ => []

end Tracer

end ByteMachine

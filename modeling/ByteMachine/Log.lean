import ByteMachine.Opcode
import ByteMachine.Text.Numeral
import ByteMachine.Text.Quoted
import ByteMachine.Fault

/-!
# The log

The messages that loading and running a program give rise to, each with its level and the part of
the program that it comes from. A verbosity says which of them are shown.
-/

namespace ByteMachine

/-- The levels of messages, the gravest first. -/
inductive Level where
  | error
  | warn
  | info
  | debug
  | trace
  deriving DecidableEq

namespace Level

/-- The place among the levels, from 1 for the gravest. -/
def rank : Level → Nat
  | error => 1
  | warn => 2
  | info => 3
  | debug => 4
  | trace => 5

def name : Level → String
  | error => "ERROR"
  | warn => "WARN"
  | info => "INFO"
  | debug => "DEBUG"
  | trace => "TRACE"

end Level

/-- How much of the log is shown: nothing, or all down to a level. -/
inductive Verbosity where
  | off
  | upTo (level : Level)
  deriving DecidableEq

namespace Verbosity

/-- Whether messages of the level are shown. -/
def admits : Verbosity → Level → Bool
  | off, _ => false
  | upTo limit, level => level.rank ≤ limit.rank

/-- The verbosity of the given name, in letters of either case. -/
def ofName? (name : String) : Option Verbosity :=
  match String.ofList (name.toList.map Char.toLower) with
  | "off" => some off
  | "error" => some (upTo .error)
  | "warn" => some (upTo .warn)
  | "info" => some (upTo .info)
  | "debug" => some (upTo .debug)
  | "trace" => some (upTo .trace)
  | _ => none

def name : Verbosity → String
  | off => "OFF"
  | upTo level => level.name

theorem admits_trace (level : Level) : (upTo .trace).admits level = true := by
  cases level <;> rfl

end Verbosity

/-- The messages. -/
inductive Message where
  /-- A line of a program text that is neither blank nor a binary literal. -/
  | skippingLine (number : Nat) (line : List Char)
  /-- Such a line, in a program that was loaded from a file. -/
  | notLiteral (path : String) (number : Nat)
  /-- A program was loaded. -/
  | loaded (size : Nat) (path : String) (skipped : Nat)
  /-- The machine stops at a byte that is no opcode. -/
  | halting (byte : UInt8) (pc : Nat)
  /-- The machine is about to execute an instruction; an operand that it lacks counts as 0. -/
  | executing (pc : Nat) (op : Opcode) (first second : UInt8)
  /-- A trace line was not taken whole. -/
  | traceRefused
  /-- A program has run to its end. -/
  | finished (haltedAt : Nat) (steps : UInt64)
  deriving DecidableEq

namespace Message

def level : Message → Level
  | skippingLine .. => .debug
  | notLiteral .. => .warn
  | loaded .. => .info
  | halting .. => .debug
  | executing .. => .trace
  | traceRefused => .warn
  | finished .. => .debug

/-- The part of the program that a message comes from. -/
def origin : Message → String
  | skippingLine .. | notLiteral .. | loaded .. => "ls8::loader"
  | halting .. | executing .. => "ls8::computer"
  | traceRefused => "ls8::computer::trace"
  | finished .. => "ls8"

/-- The wording of a message. -/
def text : Message → String
  | skippingLine number line =>
    "skipping line " ++ Text.decimal number ++ ": " ++ Text.quoted line
  | notLiteral path number =>
    path ++ ":" ++ Text.decimal number ++ ": not a binary literal, skipped"
  | loaded size path skipped =>
    "loaded " ++ Text.decimal size ++ " bytes from " ++ path ++ " (" ++ Text.decimal skipped ++
      " lines skipped)"
  | halting byte pc => "halt on byte " ++ Text.bits byte ++ " at " ++ Text.address pc
  | executing pc op first second =>
    Text.address pc ++ ": " ++ op.mnemonic ++ " " ++ Text.decimal first.toNat ++ " " ++
      Text.decimal second.toNat
  | traceRefused => "trace output failed: " ++ refusal
  | finished haltedAt steps =>
    "halted at " ++ Text.address haltedAt ++ " after " ++ Text.decimal steps.toNat ++
      " instructions"

/-- The line of a message in the log: its level in five columns, its origin and its wording. The
time of the message, which a log can put in front, is left out. -/
def line (m : Message) : String :=
  m.level.name.pushn ' ' (5 - m.level.name.length) ++ " [" ++ m.origin ++ "] " ++ m.text ++ "\n"

end Message

/-- A result with the messages that arose on the way, in order. -/
structure Logged (α : Type) where
  messages : List Message
  value : α

namespace Logged

/-- A result without messages. -/
def silent {α : Type} (value : α) : Logged α := ⟨[], value⟩

/-- The result with a message in front of the others. -/
def preceded {α : Type} (m : Message) (r : Logged α) : Logged α :=
  ⟨m :: r.messages, r.value⟩

end Logged

end ByteMachine

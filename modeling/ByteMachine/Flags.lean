/-!
# Flags

What the last comparison found.
-/

namespace ByteMachine

/-- The outcome of the last comparison, `clear` before the first one. -/
inductive Flags where
  | clear
  | less
  | greater
  | equal
  deriving DecidableEq

namespace Flags

/-- The flags after a comparison. -/
def ofOrdering : Ordering → Flags
  | .lt => less
  | .gt => greater
  | .eq => equal

/-- The flags as one byte, `00000LGE`. -/
def bits : Flags → UInt8
  | clear => 0b000
  | less => 0b100
  | greater => 0b010
  | equal => 0b001

def isLess (f : Flags) : Bool := f == less

def isGreater (f : Flags) : Bool := f == greater

def isEqual (f : Flags) : Bool := f == equal

theorem bits_injective {f g : Flags} (h : f.bits = g.bits) : f = g := by
  cases f <;> cases g <;> first | rfl | exact absurd h (by decide)

end Flags

end ByteMachine

import ByteMachine.Fault

/-!
# Memory and registers

256 memory cells and 8 registers, each holding one byte. Reading or writing beyond them is a fault.
-/

namespace ByteMachine

/-- The memory cells. -/
abbrev Memory := Vector UInt8 256

/-- The registers. -/
abbrev Registers := Vector UInt8 8

namespace Memory

/-- A memory whose cells are all 0. -/
def blank : Memory := Vector.replicate 256 0

def read (m : Memory) (address : Nat) : Except Fault UInt8 :=
  match m[address]? with
  | some b => .ok b
  | none => .error (.addressOutOfRange address)

def write (m : Memory) (address : Nat) (value : UInt8) : Except Fault Memory :=
  if h : address < 256 then .ok (m.set address value h)
  else .error (.addressOutOfRange address)

/-- The memory with its first cells replaced by the bytes. -/
def overwrite (m : Memory) (bytes : Array UInt8) : Memory :=
  Vector.ofFn fun i => bytes[i.val]?.getD m[i]

/-- Puts the bytes into the first cells and leaves the other cells as they are. -/
def load (m : Memory) (bytes : Array UInt8) : Except Fault Memory :=
  if bytes.size ≤ 256 then .ok (m.overwrite bytes)
  else .error (.programTooLarge bytes.size)

theorem read_of_lt (m : Memory) {a : Nat} (h : a < 256) : m.read a = .ok m[a] := by
  simp [read, h]

theorem read_of_le (m : Memory) {a : Nat} (h : 256 ≤ a) :
    m.read a = .error (.addressOutOfRange a) := by
  simp [read, Vector.getElem?_eq_none h]

theorem write_of_lt (m : Memory) {a : Nat} (h : a < 256) (v : UInt8) :
    m.write a v = .ok (m.set a v h) := by
  simp [write, h]

theorem write_of_le (m : Memory) {a : Nat} (h : 256 ≤ a) (v : UInt8) :
    m.write a v = .error (.addressOutOfRange a) := by
  simp [write, Nat.not_lt.2 h]

theorem load_of_le (m : Memory) {bytes : Array UInt8} (h : bytes.size ≤ 256) :
    m.load bytes = .ok (m.overwrite bytes) := by
  simp [load, h]

theorem load_of_lt (m : Memory) {bytes : Array UInt8} (h : 256 < bytes.size) :
    m.load bytes = .error (.programTooLarge bytes.size) := by
  simp [load, Nat.not_le.2 h]

@[simp] theorem getElem_blank {i : Nat} (h : i < 256) : blank[i] = 0 := by
  simp [blank]

theorem getElem_overwrite (m : Memory) (bytes : Array UInt8) (i : Nat) (h : i < 256) :
    (m.overwrite bytes)[i] = bytes[i]?.getD m[i] := by
  simp [overwrite]

theorem toList_overwrite (m : Memory) {bytes : Array UInt8} (h : bytes.size ≤ 256) :
    (m.overwrite bytes).toList = bytes.toList ++ m.toList.drop bytes.size := by
  apply List.ext_getElem
  · simp only [Vector.length_toList, List.length_append, Array.length_toList, List.length_drop]
    omega
  · intro i hi _
    rw [Vector.length_toList] at hi
    rw [Vector.getElem_toList, getElem_overwrite, List.getElem_append]
    split
    · rename_i hlt
      rw [Array.length_toList] at hlt
      rw [Array.getElem?_eq_getElem hlt, Option.getD_some, Array.getElem_toList]
    · rename_i hge
      rw [Array.length_toList, Nat.not_lt] at hge
      rw [Array.getElem?_eq_none hge, Option.getD_none, List.getElem_drop, Vector.getElem_toList]
      simp only [Array.length_toList, Nat.add_sub_cancel' hge]

end Memory

namespace Registers

/-- Registers that are all 0. -/
def blank : Registers := Vector.replicate 8 0

def read (rs : Registers) (index : UInt8) : Except Fault UInt8 :=
  match rs[index.toNat]? with
  | some b => .ok b
  | none => .error (.registerOutOfRange index)

def write (rs : Registers) (index value : UInt8) : Except Fault Registers :=
  if h : index.toNat < 8 then .ok (rs.set index.toNat value h)
  else .error (.registerOutOfRange index)

theorem read_of_lt (rs : Registers) {r : UInt8} (h : r.toNat < 8) :
    rs.read r = .ok rs[r.toNat] := by
  simp [read, h]

theorem read_of_le (rs : Registers) {r : UInt8} (h : 8 ≤ r.toNat) :
    rs.read r = .error (.registerOutOfRange r) := by
  simp [read, Vector.getElem?_eq_none h]

theorem write_of_lt (rs : Registers) {r : UInt8} (h : r.toNat < 8) (v : UInt8) :
    rs.write r v = .ok (rs.set r.toNat v h) := by
  simp [write, h]

theorem write_of_le (rs : Registers) {r : UInt8} (h : 8 ≤ r.toNat) (v : UInt8) :
    rs.write r v = .error (.registerOutOfRange r) := by
  simp [write, Nat.not_lt.2 h]

@[simp] theorem getElem_blank {i : Nat} (h : i < 8) : blank[i] = 0 := by
  simp [blank]

end Registers

end ByteMachine

import ByteMachine.Proofs.Execution.Findings
import ByteMachine.Proofs.Grammar.Hexadecimals

/-!
# Reading trace lines

A trace line can be taken apart again, at its bars and at its spaces, and its numbers can be read.
So it says exactly what its row holds, and states that share a line share the program counter, the
registers and the three cells that the line shows.
-/

namespace ByteMachine

/-! ### Rows and lines -/

namespace Row

variable {row : Row}

/-- The words of a trace line, in the sections that its bars divide it into. -/
def sections (row : Row) : List (List (List Char)) :=
  let byte (b : UInt8) := (Text.upperHex 2 b.toNat).toList
  [["TRACE:".toList, (Text.upperHex 2 row.pc).toList],
    [byte row.first, byte row.second, byte row.third], row.registers.map byte]

/-- Splits a line at its bars, which have spaces around them, and each section at its spaces. -/
def split (line : String) : List (List (List Char)) :=
  (line.toList.splitOn ' ').splitOn ['|']

/-- Reads a trace line. -/
def read? (line : String) : Option Row :=
  match split line with
  | [[name, pc], [first, second, third], registers] => do
    guard (name = "TRACE:".toList)
    return {
      pc := ← Text.hexNumber? pc
      first := ← Text.hexByte? first
      second := ← Text.hexByte? second
      third := ← Text.hexByte? third
      registers := ← registers.mapM Text.hexByte? }
  | _ => none

theorem toList_line (h : row.registers ≠ []) :
    row.line.toList = [' '].intercalate ([['|']].intercalate row.sections) := by
  unfold line sections
  cases hr : row.registers with
  | nil => exact absurd hr h
  | cons r rs =>
    simp [List.intercalate_cons_cons, String.toList_intercalate, Function.comp_def]

theorem separator_notMem_upperHex {c : Char} (hc : c = ' ' ∨ c = '|') (n : Nat) :
    c ∉ (Text.upperHex 2 n).toList := by
  intro h
  have hother := Text.forall_mem_upperHex (P := fun c => ¬(c = ' ' ∨ c = '|')) (by decide) 2 n c h
  exact hother hc

theorem split_line (h : row.registers ≠ []) : split row.line = row.sections := by
  have hspace (n : Nat) : ' ' ∉ (Text.upperHex 2 n).toList :=
    separator_notMem_upperHex (.inl rfl) n
  have hbar (n : Nat) : ['|'] ≠ (Text.upperHex 2 n).toList := by
    intro heq
    exact separator_notMem_upperHex (.inr rfl) n (heq ▸ List.mem_singleton_self '|')
  have hwords : ∀ word ∈ [['|']].intercalate row.sections, ' ' ∉ word := by
    simp [sections, List.intercalate_cons_cons, hspace]
  have hsections : ∀ words ∈ row.sections, ['|'] ∉ words := by
    simp [sections, hbar, fun n => (hbar n).symm]
  have hne : [['|']].intercalate row.sections ≠ [] := by
    simp [sections, List.intercalate_cons_cons]
  rw [split, toList_line h, List.splitOn_intercalate _ hwords hne,
    List.splitOn_intercalate _ hsections (by simp [sections])]

/-- A trace line is read as the row that it was written for. -/
theorem read?_line (h : row.registers ≠ []) : read? row.line = some row := by
  simp [-List.mapM_map, read?, split_line h, sections, Text.hexNumber?_upperHex,
    Text.hexByte?_upperHex, Text.mapM_hexByte?_upperHex]

end Row

/-! ### What a trace line shows -/

namespace State

/-- The cell so many places from the program counter on, which is 0 past the end of memory. -/
def window (s : State) (offset : Nat) : UInt8 :=
  if h : s.pc + offset < 256 then s.memory[s.pc + offset] else 0

theorem row_eq (s : State) : s.row =
    { pc := s.pc, first := s.window 0, second := s.window 1, third := s.window 2,
      registers := s.registers.toList } := by
  have hcell (offset : Nat) : s.memory[s.pc + offset]?.getD 0 = s.window offset := by
    unfold window
    split_ifs with h
    · rw [Vector.getElem?_eq_getElem h, Option.getD_some]
    · rw [Vector.getElem?_eq_none (Nat.not_lt.1 h), Option.getD_none]
  have hfirst : s.memory[s.pc]?.getD 0 = s.window 0 := hcell 0
  rw [row, hfirst, hcell 1, hcell 2]

theorem read?_traceLine (s : State) : Row.read? s.traceLine = some s.row := by
  rw [traceLine_eq]
  apply Row.read?_line
  simp [row]

theorem row_eq_iff {s t : State} : s.row = t.row ↔
    s.pc = t.pc ∧ s.registers = t.registers ∧ ∀ offset < 3, s.window offset = t.window offset := by
  rw [row_eq, row_eq, Row.mk.injEq, Vector.toList_inj]
  constructor
  · rintro ⟨hpc, hfirst, hsecond, hthird, hregisters⟩
    refine ⟨hpc, hregisters, fun offset hoffset => ?_⟩
    match offset, hoffset with
    | 0, _ => exact hfirst
    | 1, _ => exact hsecond
    | 2, _ => exact hthird
  · rintro ⟨hpc, hregisters, hwindow⟩
    exact ⟨hpc, hwindow 0 (by decide), hwindow 1 (by decide), hwindow 2 (by decide), hregisters⟩

/-- Two states have the same trace line exactly if they have the same program counter, the same
registers and the same three cells, and these are what is read in the line. The program counter may
be anywhere, at the end of memory and past it too. -/
theorem traceLine_shows :
    (∀ s t : State, s.traceLine = t.traceLine ↔
      s.pc = t.pc ∧ s.registers = t.registers ∧ ∀ offset < 3, s.window offset = t.window offset) ∧
    ∀ s : State, Row.read? s.traceLine = some
      { pc := s.pc, first := s.window 0, second := s.window 1, third := s.window 2,
        registers := s.registers.toList } := by
  constructor
  · intro s t
    rw [← row_eq_iff]
    constructor
    · intro h
      have hread := congrArg Row.read? h
      rwa [read?_traceLine, read?_traceLine, Option.some.injEq] at hread
    · intro h
      rw [traceLine_eq, traceLine_eq, h]
  · intro s
    rw [← row_eq]
    exact s.read?_traceLine

/-- The last cell has none after it to show, and behind it the program counter has three digits. -/
example : (({ pc := 255 } : State).traceLine, ({ pc := 256 } : State).traceLine) =
    ("TRACE: FF | 00 00 00 | 00 00 00 00 00 00 00 00",
      "TRACE: 100 | 00 00 00 | 00 00 00 00 00 00 00 00") := by
  decide +kernel

end State

end ByteMachine

import ByteMachine.Proofs.Execution.Observation
import ByteMachine.Proofs.Execution.Resumption

/-!
# Findings

Wherever the machine finds something to execute or to halt at, a tracer writes a line about it and
the machine reports it. The line shows three cells, whatever stands in the first one, and the report
names what was decoded. Both are made from the same finding, so they say the same.
-/

namespace ByteMachine

/-! ### Rows of a trace -/

/-- What a trace line shows: the program counter, the three cells from there on, and the
registers. -/
structure Row where
  pc : Nat
  first : UInt8
  second : UInt8
  third : UInt8
  registers : List UInt8

namespace Row

variable {row : Row}

/-- The row as a line of hexadecimal numbers. -/
def line (row : Row) : String :=
  "TRACE: " ++ Text.upperHex 2 row.pc ++ " | " ++ Text.upperHex 2 row.first.toNat ++ " " ++
    Text.upperHex 2 row.second.toNat ++ " " ++ Text.upperHex 2 row.third.toNat ++ " | " ++
    " ".intercalate (row.registers.map fun r => Text.upperHex 2 r.toNat)

/-- A message of the given level and wording tells what the row shows: the instruction whose opcode
stands in the first cell, with its operands from the next cells and 0 for an operand that it lacks,
or that the first cell holds no opcode. -/
inductive Tells (row : Row) : Level → String → Prop where
  | instruction (op : Opcode) (h : op.byte = row.first) :
      row.Tells .trace (Text.address row.pc ++ ": " ++ op.mnemonic ++ " " ++
        Text.decimal row.second.toNat ++ " " ++
        Text.decimal (if op = .ldi ∨ op = .cmp then row.third else 0).toNat)
  | halt (h : ∀ op : Opcode, op.byte ≠ row.first) :
      row.Tells .debug ("halt on byte " ++ Text.bits row.first ++ " at " ++ Text.address row.pc)

/-- A message of the machine that tells what a row shows. -/
def ToldBy (row : Row) (m : Message) : Prop :=
  m.origin = "ls8::computer" ∧ row.Tells m.level m.text

end Row

namespace State

/-- The row about a state. A cell past the end counts as 0. -/
def row (s : State) : Row where
  pc := s.pc
  first := s.memory[s.pc]?.getD 0
  second := s.memory[s.pc + 1]?.getD 0
  third := s.memory[s.pc + 2]?.getD 0
  registers := s.registers.toList

theorem traceLine_eq (s : State) : s.traceLine = s.row.line := rfl

end State

/-! ### One finding -/

/-- A state, and what the machine finds there. -/
structure Finding where
  state : State
  decoded : Decoded
  fetch_eq : state.fetch = .ok decoded

namespace Finding

/-- The row that a tracer writes about it. -/
def row (f : Finding) : Row := f.state.row

/-- What the machine reports of it. -/
def message (f : Finding) : Message := f.decoded.message f.state.pc

/-- What there is to see of it where all trace lines are taken whole. -/
def notes (f : Finding) : List Note :=
  [.traced (f.row.line ++ "\n"), .reported f.message]

theorem newline_notMem_line (f : Finding) : '\n' ∉ f.row.line.toList := by
  intro hmem
  rw [row, ← State.traceLine_eq] at hmem
  exact f.state.forall_mem_traceLine (P := (· ≠ '\n')) (by decide) (by simp) _ hmem rfl

theorem origin_message (f : Finding) : f.message.origin = "ls8::computer" := by
  obtain ⟨s, d, h⟩ := f
  cases d <;> rfl

/-- The report says the same as the trace line. -/
theorem toldBy_message (f : Finding) : f.row.ToldBy f.message := by
  refine ⟨f.origin_message, ?_⟩
  obtain ⟨s, d, h⟩ := f
  cases d with
  | halt b =>
    obtain ⟨hcell, hb⟩ := decode_eq_halt_iff.1 h
    have hfirst : s.row.first = b := congrArg (Option.getD · 0) hcell
    have hrow : s.row.Tells .debug _ := .halt (hfirst ▸ Opcode.ofByte?_eq_none_iff.1 hb)
    rwa [hfirst] at hrow
  | instruction i =>
    have hcells := State.fetch_eq_instruction_iff.1 h
    have hfirst : s.row.first = i.opcode.byte := congrArg (Option.getD · 0) hcells.1
    have hrow : s.row.Tells .trace _ := .instruction i.opcode hfirst.symm
    -- the operands are the cells behind the opcode, as many as it has
    have hsecond : s.row.second = (Decoded.instruction i).operand 0 := by
      cases i <;> exact congrArg (Option.getD · 0) hcells.2.1
    have hthird : (if i.opcode = .ldi ∨ i.opcode = .cmp then s.row.third else 0) =
        (Decoded.instruction i).operand 1 := by
      cases i with
      | ldi | cmp => exact congrArg (Option.getD · 0) hcells.2.2.1
      | prn | jmp | jeq | jne => rfl
    rwa [hsecond, hthird] at hrow

theorem filterMap_message?_notes (findings : List Finding) :
    (findings.flatMap notes).filterMap Note.message? = findings.map message := by
  induction findings with
  | nil => rfl
  | cons f findings ih =>
    rw [List.flatMap_cons, List.filterMap_append, ih]
    rfl

theorem forall₂_toldBy (findings : List Finding) :
    List.Forall₂ Row.ToldBy (findings.map row) (findings.map message) := by
  rw [List.forall₂_map_left_iff, List.forall₂_map_right_iff, List.forall₂_same]
  exact fun f _ => f.toldBy_message

end Finding

/-! ### The findings of a run -/

namespace State

variable {s : State}

/-- What the machine finds in a state, if it is anything. -/
def finding? (s : State) : Option Finding :=
  match h : s.fetch with
  | .ok d => some ⟨s, d, h⟩
  | .error _ => none

theorem finding?_of_fetch {d : Decoded} (h : s.fetch = .ok d) : s.finding? = some ⟨s, d, h⟩ := by
  unfold finding?
  split
  · rename_i d' h'
    obtain rfl : d' = d := Except.ok.inj (h'.symm.trans h)
    rfl
  · rename_i h'
    cases h'.symm.trans h

theorem finding?_of_fetch_error {fault : Fault} (h : s.fetch = .error fault) :
    s.finding? = none := by
  unfold finding?
  split
  · rename_i h'
    cases h'.symm.trans h
  · rfl

/-- A tracer is shown the row of what is found. -/
theorem shown_eq (s : State) : s.shown = s.finding?.elim "" fun f => f.row.line ++ "\n" := by
  cases hf : s.fetch with
  | error fault => rw [shown, hf, finding?_of_fetch_error hf, Option.elim_none]
  | ok d =>
    rw [shown_of_fetch hf, finding?_of_fetch hf, traceLine_eq]
    rfl

end State

/-- Where all trace lines are taken whole, there is nothing else to see than what is found. -/
theorem Machine.notes_eq {m : Machine} {sink : Sink} (h : m.tracer = some (.hex sink))
    (hroom : sink.room = none) : m.notes = m.state.finding?.elim [] Finding.notes := by
  cases hf : m.state.fetch with
  | error fault => rw [notes, hf, State.finding?_of_fetch_error hf, Option.elim_none]
  | ok d =>
    have hfits := Sink.fits_of_room hroom
    rw [State.finding?_of_fetch hf, Option.elim_some]
    simp only [notes, hf, h, Option.elim_some, Tracer.notes, Tracer.sink, hfits, if_true,
      Sink.kept_of_fits (hfits _)]
    rfl

namespace Run

variable {r : Run} {sink : Sink} {n : Nat}

/-- What the first `n` cycles find. -/
def findings (r : Run) (n : Nat) : List Finding :=
  (List.range n).filterMap fun k => (next^[k] r).state.finding?

@[simp] theorem findings_zero (r : Run) : r.findings 0 = [] := rfl

theorem findings_succ (r : Run) (n : Nat) :
    r.findings (n + 1) = r.findings n ++ (next^[n] r).state.finding?.toList := by
  rw [findings, List.range_succ, List.filterMap_append]
  cases h : (next^[n] r).state.finding? <;> simp [findings, h]

/-- The lines that a tracer is shown are the rows of what is found. -/
theorem shown_course (r : Run) (n : Nat) :
    r.course.shown n = String.join ((r.findings n).map fun f => f.row.line ++ "\n") := by
  induction n with
  | zero => rfl
  | succ n ih =>
    rw [Course.shown, ih, findings_succ, List.map_append, String.join_append, ← state_iterate,
      State.shown_eq]
    cases (next^[n] r).state.finding? <;> simp

theorem notes_iterate (h : r.machine.tracer = some (.hex sink)) (hroom : sink.room = none)
    (n : Nat) :
    (next^[n] r).notes.toList = r.notes.toList ++ (r.findings n).flatMap Finding.notes := by
  induction n with
  | zero => simp
  | succ n ih =>
    have hnotes := Machine.notes_eq (tracer_iterate h n) (by simp [hroom])
    rw [Function.iterate_succ_apply', notes_next, ih, findings_succ, List.flatMap_append, hnotes,
      List.append_assoc, state]
    cases (next^[n] r).machine.state.finding? <;> simp

theorem advance_eq_iterate_of_running (h : (advance n r).status = .running) :
    advance n r = next^[n] r := by
  induction n with
  | zero => rfl
  | succ n ih =>
    have hn := running_of_le h (Nat.le_succ n)
    rw [advance_succ_eq_next hn, ih hn, Function.iterate_succ_apply']

/-- As long as a run goes on, each of its cycles finds an instruction. -/
theorem findings_of_running (h : (advance n r).status = .running) :
    (r.findings n).length = n ∧ ∀ f ∈ r.findings n, f.message.level = .trace := by
  induction n with
  | zero => simp
  | succ n ih =>
    have hn := running_of_le h (Nat.le_succ n)
    obtain ⟨hlength, hall⟩ := ih hn
    rw [advance_succ_eq_next hn, advance_eq_iterate_of_running hn] at h
    obtain ⟨i, -, hf, -⟩ := State.executes_of_running h
    have hlast : (next^[n] r).state.finding? = _ := State.finding?_of_fetch hf
    rw [findings_succ, hlast, Option.toList_some, List.length_append, hlength,
      List.forall_mem_append]
    exact ⟨rfl, hall, List.forall_mem_singleton.2 rfl⟩

end Run

/-- A run that halts has found an instruction in each of its cycles but the last, and as many as its
summary says. -/
theorem Machine.findings_of_halted {m : Machine} {out : Sink} {summary : Summary}
    (h : (m.run out).result? = some (.ok summary)) :
    let findings := (m.start out).findings (summary.steps.toNat + 1)
    m.run out = Run.next^[summary.steps.toNat + 1] (m.start out) ∧
    findings.length = summary.steps.toNat + 1 ∧
    findings.countP (·.message.level = .trace) = summary.steps.toNat := by
  obtain ⟨k, m', out', hcontinues, hhalt⟩ := exists_continues_of_result h
  obtain ⟨b, hf, -⟩ := State.step_halted hhalt
  obtain ⟨steps, hsteps, hresult⟩ := (haltsAt_run hcontinues hf).result_eq
  rw [h] at hresult
  cases hresult
  obtain ⟨hk, rfl, rfl⟩ := continues_iff.1 hcontinues
  -- the run is `k` cycles that go on, and one more that finds the byte to halt at
  have hnext := Run.advance_succ_eq_next hk
  have hend : (Run.advance (k + 1) (m.start out)).status ≠ .running := by
    rw [hnext]
    exact Status.ne_running_of_halted hhalt
  have hiterate := Run.advance_eq_iterate_of_running hk
  obtain ⟨hlength, hall⟩ := Run.findings_of_running hk
  rw [hiterate] at hf hnext
  have hlast : (Run.next^[k] (m.start out)).state.finding? = _ := State.finding?_of_fetch hf
  rw [hsteps, Run.findings_succ, hlast]
  refine ⟨?_, ?_, ?_⟩
  · rw [run_eq_of_ended hend, hnext, Function.iterate_succ_apply']
  · rw [List.length_append, hlength]
    rfl
  · have hcount : ((m.start out).findings k).countP (·.message.level = .trace) = k := by
      rw [List.countP_eq_length.2 (by simpa using hall), hlength]
    rw [List.countP_append, hcount]
    rfl

/-! ### Both channels -/

theorem Run.traced_iterate {r : Run} {sink : Sink} (h : r.machine.tracer = some (.hex sink))
    (hroom : sink.room = none) (n : Nat) :
    (next^[n] r).traced =
      sink.text ++ String.join ((r.findings n).map fun f => f.row.line ++ "\n") := by
  rw [traced, tracer_iterate h, Option.elim_some, shown_course, Tracer.sink, Sink.text_write,
    Sink.kept_of_fits (Sink.fits_of_room hroom _)]

namespace Observer

variable {o : Observer} {r : Run} {sink : Sink}

section Attentive

variable (ho : o.verbosity = .upTo .trace) (h : r.machine.tracer = some (.hex sink))
  (hroom : sink.room = none)

include ho h hroom

/-- Where all trace lines are taken whole, the whole log is what the machine reports of what it
finds. -/
theorem log_iterate (n : Nat) :
    o.log (Run.next^[n] r) = o.log r ++ (r.findings n).map Finding.message := by
  simp only [log, Run.notes_iterate h hroom, ho, Verbosity.admits_trace, List.filter_true,
    List.filterMap_append, Finding.filterMap_message?_notes]

/-- A cycle is reported if it finds something, however it ends. -/
theorem log_iterate_succ (n : Nat) :
    o.log (Run.next^[n + 1] r) = o.log (Run.next^[n] r) ++
      (Run.next^[n] r).state.finding?.toList.map Finding.message := by
  rw [log_iterate ho h hroom, log_iterate ho h hroom, Run.findings_succ, List.map_append,
    List.append_assoc]

/-- What the tracer has written and what the log shows can be told off against each other, line by
line. -/
theorem exists_rows (hlog : o.log r = []) (n : Nat) : ∃ rows : List Row,
    (Run.next^[n] r).traced =
      sink.text ++ String.join (rows.map fun row => row.line ++ "\n") ∧
    (∀ row ∈ rows, '\n' ∉ row.line.toList) ∧
    List.Forall₂ Row.ToldBy rows (o.log (Run.next^[n] r)) := by
  refine ⟨(r.findings n).map Finding.row, ?_, ?_, ?_⟩
  · rw [Run.traced_iterate h hroom, List.map_map]
    rfl
  · rw [List.forall_mem_map]
    exact fun f _ => f.newline_notMem_line
  · rw [log_iterate ho h hroom, hlog, List.nil_append]
    exact Finding.forall₂_toldBy _

end Attentive

end Observer

end ByteMachine

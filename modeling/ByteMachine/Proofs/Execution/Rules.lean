import Mathlib.Tactic.Common
import ByteMachine.State

/-!
# Rules of execution

Execution told by rules. The machine finds an instruction where the cells hold its encoding, and it
completes the instruction by one of five rules: a load, a print, a comparison, a jump that is taken,
and a jump that is passed over. What every rule preserves is preserved by every cycle.
-/

namespace ByteMachine

/-! ### Results that may be faults -/

section Results

variable {α β : Type} {x : Except Fault α} {b : β}

@[simp] theorem pure_eq_ok (a : α) : (pure a : Except Fault α) = .ok a := rfl

@[simp] theorem isOk_ok (a : α) : (.ok a : Except Fault α).isOk = true := rfl

@[simp] theorem isOk_error (fault : Fault) : (.error fault : Except Fault α).isOk = false := rfl

@[simp] theorem error_bind (fault : Fault) (f : α → Except Fault β) :
    (.error fault >>= f) = .error fault := rfl

@[simp] theorem ok_bind (a : α) (f : α → Except Fault β) : (.ok a >>= f) = f a := rfl

theorem bind_eq_ok {f : α → Except Fault β} : (x >>= f) = .ok b ↔ ∃ a, x = .ok a ∧ f a = .ok b := by
  cases x with
  | error fault => simp
  | ok a => simp

theorem bind_eq_error {f : α → Except Fault β} {fault : Fault} :
    (x >>= f) = .error fault ↔ x = .error fault ∨ ∃ a, x = .ok a ∧ f a = .error fault := by
  cases x with
  | error fault => simp
  | ok a => simp

theorem map_eq_ok {f : α → β} : (f <$> x) = .ok b ↔ ∃ a, x = .ok a ∧ f a = b := by
  cases x with
  | error fault => simp [Functor.map, Except.map]
  | ok a => simp [Functor.map, Except.map]

theorem map_eq_error {f : α → β} {fault : Fault} :
    (f <$> x) = .error fault ↔ x = .error fault := by
  cases x with
  | error fault => simp [Functor.map, Except.map]
  | ok a => simp [Functor.map, Except.map]

end Results

namespace Registers

theorem read_eq_ok {rs : Registers} {r v : UInt8} :
    rs.read r = .ok v ↔ ∃ h : r.toNat < 8, rs[r.toNat] = v := by
  by_cases h : r.toNat < 8
  · simp [read_of_lt rs h, h]
  · simp [read_of_le rs (Nat.not_lt.1 h), h]

theorem read_eq_error {rs : Registers} {r : UInt8} {fault : Fault} :
    rs.read r = .error fault ↔ 8 ≤ r.toNat ∧ fault = .registerOutOfRange r := by
  by_cases h : r.toNat < 8
  · simp [read_of_lt rs h, Nat.not_le.2 h]
  · simp [read_of_le rs (Nat.not_lt.1 h), Nat.not_lt.1 h, eq_comm]

theorem write_eq_ok {rs rs' : Registers} {r v : UInt8} :
    rs.write r v = .ok rs' ↔ ∃ h : r.toNat < 8, rs.set r.toNat v h = rs' := by
  by_cases h : r.toNat < 8
  · simp [write_of_lt rs h, h]
  · simp [write_of_le rs (Nat.not_lt.1 h), h]

theorem write_eq_error {rs : Registers} {r v : UInt8} {fault : Fault} :
    rs.write r v = .error fault ↔ 8 ≤ r.toNat ∧ fault = .registerOutOfRange r := by
  by_cases h : r.toNat < 8
  · simp [write_of_lt rs h, Nat.not_le.2 h]
  · simp [write_of_le rs (Nat.not_lt.1 h), Nat.not_lt.1 h, eq_comm]

end Registers

/-! ### Instructions in memory -/

/-- The cells from an address on hold the bytes. -/
def Holds (cell : Nat → Option UInt8) (address : Nat) : List UInt8 → Prop
  | [] => True
  | b :: bs => cell address = some b ∧ Holds cell (address + 1) bs

section Cells

variable {cell : Nat → Option UInt8} {a pc : Nat}

@[simp] theorem holds_nil : Holds cell a [] := trivial

@[simp] theorem holds_cons {b : UInt8} {bs : List UInt8} :
    Holds cell a (b :: bs) ↔ cell a = some b ∧ Holds cell (a + 1) bs := Iff.rfl

instance decidableHolds (cell : Nat → Option UInt8) :
    (address : Nat) → (bytes : List UInt8) → Decidable (Holds cell address bytes)
  | _, [] => .isTrue trivial
  | address, _ :: bs =>
    have := decidableHolds cell (address + 1) bs
    decidable_of_iff' _ holds_cons

theorem holds_append {first second : List UInt8} :
    Holds cell a (first ++ second) ↔ Holds cell a first ∧ Holds cell (a + first.length) second := by
  induction first generalizing a with
  | nil => simp
  | cons b first ih =>
    rw [List.cons_append, holds_cons, holds_cons, ih, and_assoc, List.length_cons, Nat.add_assoc,
      Nat.add_comm 1]

theorem decode_of_holds {i : Instruction} (h : Holds cell pc i.encode) :
    decode cell pc = .ok (.instruction i) := by
  obtain ⟨hop, hargs⟩ := h
  rw [decode, hop]
  simp only [Opcode.ofByte?_byte, map_eq_ok, Decoded.instruction.injEq, exists_eq_right]
  cases i <;> simp only [Instruction.operands, holds_cons] at hargs <;>
    simp [Instruction.opcode, Instruction.complete, hargs]

theorem operand_eq_ok (pc k : Nat) {b : UInt8} : (match cell (pc + k) with
    | some b => Except.ok b
    | none => .error (Fault.fetchOutOfRange pc)) = .ok b ↔ cell (pc + k) = some b := by
  cases cell (pc + k) <;> simp

theorem holds_of_decode {i : Instruction} (h : decode cell pc = .ok (.instruction i)) :
    Holds cell pc i.encode := by
  cases hop : cell pc with
  | none => simp [decode, hop] at h
  | some byte =>
    cases hof : Opcode.ofByte? byte with
    | none => simp [decode, hop, hof] at h
    | some op =>
      obtain rfl := Opcode.byte_of_ofByte? hof
      simp only [decode, hop, hof, map_eq_ok, Decoded.instruction.injEq, exists_eq_right] at h
      cases op <;> simp only [Instruction.complete, bind_eq_ok, pure_eq_ok, Except.ok.injEq] at h
      case ldi | cmp =>
        obtain ⟨x, hx, y, hy, rfl⟩ := h
        exact ⟨hop, (operand_eq_ok pc 1).1 hx, (operand_eq_ok pc 2).1 hy, trivial⟩
      case prn | jmp | jeq | jne =>
        obtain ⟨x, hx, rfl⟩ := h
        exact ⟨hop, (operand_eq_ok pc 1).1 hx, trivial⟩

/-- The machine finds an instruction exactly where the cells hold its encoding. -/
theorem decode_eq_instruction_iff {i : Instruction} :
    decode cell pc = .ok (.instruction i) ↔ Holds cell pc i.encode :=
  ⟨holds_of_decode, decode_of_holds⟩

end Cells

/-! ### Completed instructions -/

namespace State

/-- The register that the next instruction jumps through, if it is a jump and the flags let it. -/
def jumpRegister (s : State) : Instruction → Option UInt8
  | .jmp r => some r
  | .jeq r => if s.flags.isEqual then some r else none
  | .jne r => if s.flags.isEqual then none else some r
  | _ => none

/-- The rules by which an instruction takes a state to the next one and prints a text. -/
inductive Executes (s : State) : Instruction → State → String → Prop where
  | load {r v : UInt8} (hr : r.toNat < 8) :
      Executes s (.ldi r v) { s with pc := s.pc + 3, registers := s.registers.set r.toNat v hr } ""
  | print {r : UInt8} (hr : r.toNat < 8) :
      Executes s (.prn r) { s with pc := s.pc + 2 }
        (Text.decimal s.registers[r.toNat].toNat ++ "\n")
  | compare {a b : UInt8} (ha : a.toNat < 8) (hb : b.toNat < 8) :
      Executes s (.cmp a b)
        { s with
          pc := s.pc + 3
          flags := .ofOrdering (Ord.compare s.registers[a.toNat] s.registers[b.toNat]) } ""
  | jump {i : Instruction} {r : UInt8} (hj : s.jumpRegister i = some r) (hr : r.toNat < 8) :
      Executes s i { s with pc := s.registers[r.toNat].toNat } ""
  | pass {i : Instruction} (hi : i.opcode = .jeq ∨ i.opcode = .jne)
      (hj : s.jumpRegister i = none) : Executes s i { s with pc := s.pc + 2 } ""

variable {s t : State} {i : Instruction} {text : String} {out : Sink}

theorem fetch_eq_instruction_iff :
    s.fetch = .ok (.instruction i) ↔ Holds (fun a => s.memory[a]?) s.pc i.encode :=
  decode_eq_instruction_iff

theorem jump_eq_ok {r : UInt8} :
    s.jump r = .ok t ↔ ∃ h : r.toNat < 8, { s with pc := s.registers[r.toNat].toNat } = t := by
  simp only [jump, bind_eq_ok, Registers.read_eq_ok, pure_eq_ok, Except.ok.injEq]
  constructor
  · rintro ⟨v, ⟨hr, rfl⟩, ht⟩
    exact ⟨hr, ht⟩
  · rintro ⟨hr, ht⟩
    exact ⟨_, ⟨hr, rfl⟩, ht⟩

theorem Executes.of_execute (h : s.execute i = .ok (t, text)) : Executes s i t text := by
  cases i with
  | ldi r v =>
    simp only [execute, bind_eq_ok, Registers.write_eq_ok, pure_eq_ok, Except.ok.injEq,
      Prod.mk.injEq] at h
    obtain ⟨rs, ⟨hr, rfl⟩, rfl, rfl⟩ := h
    exact .load hr
  | prn r =>
    simp only [execute, bind_eq_ok, Registers.read_eq_ok, pure_eq_ok, Except.ok.injEq,
      Prod.mk.injEq] at h
    obtain ⟨v, ⟨hr, rfl⟩, rfl, rfl⟩ := h
    exact .print hr
  | cmp a b =>
    simp only [execute, bind_eq_ok, Registers.read_eq_ok, pure_eq_ok, Except.ok.injEq,
      Prod.mk.injEq] at h
    obtain ⟨x, ⟨ha, rfl⟩, y, ⟨hb, rfl⟩, rfl, rfl⟩ := h
    exact .compare ha hb
  | jmp r =>
    simp only [execute, bind_eq_ok, jump_eq_ok, pure_eq_ok, Except.ok.injEq, Prod.mk.injEq] at h
    obtain ⟨t, ⟨hr, rfl⟩, rfl, rfl⟩ := h
    exact .jump rfl hr
  | jeq r =>
    by_cases hf : s.flags.isEqual
    · simp only [execute, if_pos hf, bind_eq_ok, jump_eq_ok, pure_eq_ok, Except.ok.injEq,
        Prod.mk.injEq] at h
      obtain ⟨t, ⟨hr, rfl⟩, rfl, rfl⟩ := h
      exact .jump (by simp [jumpRegister, hf]) hr
    · simp only [execute, if_neg hf, pure_eq_ok, Except.ok.injEq, Prod.mk.injEq] at h
      obtain ⟨rfl, rfl⟩ := h
      exact .pass (.inl rfl) (by simp [jumpRegister, hf])
  | jne r =>
    by_cases hf : s.flags.isEqual
    · simp only [execute, if_pos hf, pure_eq_ok, Except.ok.injEq, Prod.mk.injEq] at h
      obtain ⟨rfl, rfl⟩ := h
      exact .pass (.inr rfl) (by simp [jumpRegister, hf])
    · simp only [execute, if_neg hf, bind_eq_ok, jump_eq_ok, pure_eq_ok, Except.ok.injEq,
        Prod.mk.injEq] at h
      obtain ⟨t, ⟨hr, rfl⟩, rfl, rfl⟩ := h
      exact .jump (by simp [jumpRegister, hf]) hr

theorem execute_of_jumpRegister {r : UInt8} (hj : s.jumpRegister i = some r) (hr : r.toNat < 8) :
    s.execute i = .ok ({ s with pc := s.registers[r.toNat].toNat }, "") := by
  have hjump : s.jump r = .ok { s with pc := s.registers[r.toNat].toNat } :=
    jump_eq_ok.2 ⟨hr, rfl⟩
  cases i with
  | ldi r' v | prn r' | cmp a b => simp [jumpRegister] at hj
  | jmp r' =>
    cases hj
    simp [execute, hjump]
  | jeq r' | jne r' =>
    simp only [jumpRegister] at hj
    split_ifs at hj with hf
    cases hj
    simp [execute, hf, hjump]

theorem execute_of_jumpRegister_none (hi : i.opcode = .jeq ∨ i.opcode = .jne)
    (hj : s.jumpRegister i = none) : s.execute i = .ok ({ s with pc := s.pc + 2 }, "") := by
  cases i with
  | ldi r v | prn r | cmp a b | jmp r => simp [Instruction.opcode] at hi
  | jeq r | jne r =>
    simp only [jumpRegister] at hj
    split_ifs at hj with hf
    simp only [execute, hf]
    rfl

/-- The rules are those by which the machine executes instructions. -/
theorem execute_eq_ok_iff : s.execute i = .ok (t, text) ↔ s.Executes i t text := by
  constructor
  · exact Executes.of_execute
  · intro h
    cases h with
    | load hr =>
      simp only [execute, Registers.write_of_lt _ hr]
      rfl
    | print hr =>
      simp only [execute, Registers.read_of_lt _ hr]
      rfl
    | compare ha hb =>
      simp only [execute, Registers.read_of_lt _ ha, Registers.read_of_lt _ hb]
      rfl
    | jump hj hr => exact execute_of_jumpRegister hj hr
    | pass hi hj => exact execute_of_jumpRegister_none hi hj

/-! ### What the rules preserve -/

theorem Executes.memory_eq (h : Executes s i t text) : t.memory = s.memory := by
  cases h <;> rfl

/-- A register changes only by a load of its new value. -/
theorem Executes.register_eq (h : Executes s i t text) (k : Nat) (hk : k < 8) :
    t.registers[k] = s.registers[k] ∨ i = .ldi (.ofNat k) t.registers[k] := by
  cases h with
  | @load r v hr =>
    by_cases hrk : r.toNat = k
    · subst hrk
      right
      simp
    · left
      simp [hrk]
  | print hr | compare ha hb | jump hj hr | pass hi hj => exact .inl rfl

/-- The flags change only by a comparison. -/
theorem Executes.flags_eq (h : Executes s i t text) :
    (∃ (a b : UInt8) (ha : a.toNat < 8) (hb : b.toNat < 8), i = .cmp a b ∧
      t.flags = .ofOrdering (Ord.compare s.registers[a.toNat] s.registers[b.toNat])) ∨
      (∀ a b, i ≠ .cmp a b) ∧ t.flags = s.flags := by
  cases h with
  | compare ha hb => exact .inl ⟨_, _, ha, hb, rfl, rfl⟩
  | load hr | print hr => exact .inr ⟨by simp, rfl⟩
  | jump hj hr =>
    refine .inr ⟨?_, rfl⟩
    rintro a b rfl
    simp [jumpRegister] at hj
  | pass hi hj =>
    refine .inr ⟨?_, rfl⟩
    rintro a b rfl
    simp [Instruction.opcode] at hi

/-- Only a print prints, and what it prints is one line. -/
theorem Executes.text_eq (h : Executes s i t text) :
    text = "" ∨ ∃ (r : UInt8) (hr : r.toNat < 8),
      i = .prn r ∧ text = Text.decimal s.registers[r.toNat].toNat ++ "\n" := by
  cases h with
  | print hr => exact .inr ⟨_, hr, rfl, rfl⟩
  | load hr | compare ha hb | jump hj hr | pass hi hj => exact .inl rfl

theorem pc_lt_of_fetch (h : s.fetch = .ok (.instruction i)) : s.pc < 256 := by
  obtain ⟨hcell, -⟩ := fetch_eq_instruction_iff.1 h
  by_contra hpc
  simp [Vector.getElem?_eq_none (Nat.not_lt.1 hpc)] at hcell

/-! ### Cycles -/

/-- A cycle ends the run and changes nothing, or it completes an instruction unless the output
refuses the text. -/
theorem step_cases (s : State) :
    (∃ status, status ≠ .running ∧ ∀ out, s.step out = ⟨status, s, out⟩) ∨
      ∃ i t text, s.fetch = .ok (.instruction i) ∧ s.Executes i t text ∧
        ∀ out, s.step out = if out.fits text then ⟨.running, t, out.write text⟩
          else ⟨.faulted .outputRefused, s, out.write text⟩ := by
  cases hf : s.fetch with
  | error fault => exact .inl ⟨_, by simp, step_of_fetch_error hf⟩
  | ok d =>
    cases d with
    | halt byte => exact .inl ⟨_, by simp, step_of_halt hf⟩
    | instruction i =>
      cases he : s.execute i with
      | error fault => exact .inl ⟨_, by simp, step_of_execute_error hf he⟩
      | ok result => exact .inr ⟨i, _, _, rfl, .of_execute he, step_of_execute hf he⟩

/-- A cycle that goes on has completed an instruction, and the output has taken its text whole. -/
theorem executes_of_running (h : (s.step out).status = .running) :
    ∃ i text, s.fetch = .ok (.instruction i) ∧ s.Executes i (s.step out).state text ∧
      out.fits text = true ∧ (s.step out).out = out.write text := by
  rcases s.step_cases with ⟨status, hne, hstep⟩ | ⟨i, t, text, hf, he, hstep⟩
  · rw [hstep] at h
    exact absurd h hne
  · rw [hstep] at h ⊢
    split_ifs at h ⊢ with hfits
    exact ⟨i, text, hf, he, hfits, rfl⟩

theorem state_of_not_running (h : (s.step out).status ≠ .running) : (s.step out).state = s := by
  rcases s.step_cases with ⟨status, -, hstep⟩ | ⟨i, t, text, -, -, hstep⟩
  · rw [hstep]
  · rw [hstep] at h ⊢
    split_ifs at h ⊢ with hfits
    · exact absurd rfl h
    · rfl

theorem memory_step (s : State) (out : Sink) : (s.step out).state.memory = s.memory := by
  by_cases h : (s.step out).status = .running
  · obtain ⟨i, text, -, he, -, -⟩ := executes_of_running h
    exact he.memory_eq
  · rw [state_of_not_running h]

/-! ### Cycles and their output -/

/-- The text that the next cycle prints if the output takes it. -/
def printed (s : State) : String :=
  (s.step .unlimited).out.text

/-- All that the output decides of a cycle is whether it takes the text. -/
theorem step_eq (s : State) (out : Sink) :
    s.step out = if out.fits s.printed then { s.step .unlimited with out := out.write s.printed }
      else ⟨.faulted .outputRefused, s, out.write s.printed⟩ := by
  rcases s.step_cases with ⟨status, -, hstep⟩ | ⟨i, t, text, -, -, hstep⟩
  · simp [printed, hstep]
  · have hprinted : s.printed = text := by simp [printed, hstep]
    rw [hprinted, hstep, hstep]
    simp

theorem out_step (s : State) (out : Sink) : (s.step out).out = out.write s.printed := by
  rw [step_eq]
  split_ifs <;> rfl

theorem printed_of_running (h : (s.step .unlimited).status = .running) :
    ∃ i, s.fetch = .ok (.instruction i) ∧
      s.Executes i (s.step .unlimited).state s.printed := by
  obtain ⟨i, text, hf, he, -, hout⟩ := executes_of_running h
  have hprinted : s.printed = text := by simp [printed, hout]
  exact ⟨i, hf, hprinted ▸ he⟩

theorem printed_of_not_running (h : (s.step .unlimited).status ≠ .running) : s.printed = "" := by
  rcases s.step_cases with ⟨status, -, hstep⟩ | ⟨i, t, text, -, -, hstep⟩
  · simp [printed, hstep]
  · simp [hstep] at h

/-- A cycle prints nothing, or the value of a register on a line of its own. -/
theorem printed_cases (s : State) :
    s.printed = "" ∨ ∃ r v, s.fetch = .ok (.instruction (.prn r)) ∧
      s.registers[r.toNat]? = some v ∧ s.printed = Text.decimal v.toNat ++ "\n" := by
  by_cases h : (s.step .unlimited).status = .running
  · obtain ⟨i, hf, he⟩ := printed_of_running h
    refine he.text_eq.imp_right ?_
    rintro ⟨r, hr, rfl, hline⟩
    exact ⟨r, _, hf, Vector.getElem?_eq_getElem hr, hline⟩
  · exact .inl (printed_of_not_running h)

end State

end ByteMachine

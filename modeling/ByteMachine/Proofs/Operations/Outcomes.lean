import ByteMachine.Proofs.Operations.EndOfMemory

/-!
# Outcomes of a cycle

How a cycle ends is told by the bytes at the program counter. There has to be a cell, it has to hold
an opcode, there have to be cells for the operands, and the registers that the instruction looks up
have to exist. Only then is the instruction completed, unless it is a print whose line the output
refuses. `State.Outcome` says so by the bytes alone, and a cycle ends as it says and in no other
way.
-/

namespace ByteMachine

namespace State

variable {s t : State} {i : Instruction} {r : UInt8} {op : Opcode} {text : String} {fault : Fault}
variable {out : Sink} {status : Status} {pc : Nat}

/-! ### The registers of an instruction -/

theorem lookedUp_of_jumpRegister (hj : s.jumpRegister i = some r) : s.lookedUp i = [r] := by
  cases i with
  | ldi r' v | prn r' | cmp a b => simp [jumpRegister] at hj
  | jmp r' | jeq r' | jne r' => rw [lookedUp, hj, Option.toList_some]

theorem lookedUp_of_passed (hi : i.opcode = .jeq ∨ i.opcode = .jne)
    (hj : s.jumpRegister i = none) : s.lookedUp i = [] := by
  cases i with
  | ldi r' v | prn r' | cmp a b | jmp r' => simp [Instruction.opcode] at hi
  | jeq r' | jne r' => rw [lookedUp, hj, Option.toList_none]

theorem Executes.lookedUp_lt (h : s.Executes i t text) : ∀ r ∈ s.lookedUp i, r.toNat < 8 := by
  cases h with
  | load hr | print hr => simpa [lookedUp] using hr
  | compare ha hb => simpa [lookedUp] using ⟨ha, hb⟩
  | jump hj hr => simpa [lookedUp_of_jumpRegister hj] using hr
  | pass hi hj => simp [lookedUp_of_passed hi hj]

/-- An instruction fails to execute exactly at the first register that it looks up and that does not
exist. -/
theorem execute_eq_error_iff : s.execute i = .error fault ↔
    ∃ r, (s.lookedUp i).find? (8 ≤ ·.toNat) = some r ∧ fault = .registerOutOfRange r := by
  constructor
  · exact execute_eq_error
  · rintro ⟨r, hr, rfl⟩
    cases he : s.execute i with
    | error f =>
      obtain ⟨q, hq, rfl⟩ := execute_eq_error he
      rw [hr] at hq
      cases hq
      rfl
    | ok result =>
      have hlt := (Executes.of_execute he).lookedUp_lt r (List.mem_of_find?_eq_some hr)
      have hge : 8 ≤ r.toNat := by simpa using List.find?_some hr
      omega

theorem exists_execute_eq_ok (h : ∀ r ∈ s.lookedUp i, r.toNat < 8) :
    ∃ t text, s.execute i = .ok (t, text) := by
  cases he : s.execute i with
  | error f =>
    obtain ⟨r, hr, -⟩ := execute_eq_error he
    have hlt := h r (List.mem_of_find?_eq_some hr)
    have hge : 8 ≤ r.toNat := by simpa using List.find?_some hr
    omega
  | ok result => exact ⟨result.1, result.2, rfl⟩

/-! ### The cells of an instruction -/

theorem fetch_of_noOpcode {b : UInt8} (hb : s.memory[s.pc]? = some b)
    (h : ∀ op : Opcode, op.byte ≠ b) : s.fetch = .ok (.halt b) :=
  decode_of_ofByte?_none hb (Opcode.ofByte?_eq_none_iff.2 h)

/-- An opcode is found with its operands, or the operands reach past the last cell. -/
theorem fetch_of_opcode (hop : s.memory[s.pc]? = some op.byte) :
    (∃ i, i.opcode = op ∧ s.fetch = .ok (.instruction i)) ∧ s.pc + op.operandCount < 256 ∨
      s.fetch = .error (.fetchOutOfRange s.pc) ∧ 256 ≤ s.pc + op.operandCount := by
  cases hf : s.fetch with
  | error f =>
    right
    rcases decode_eq_error hf with ⟨hcell, -⟩ | ⟨rfl, op', k, hop', -, hk, hcell⟩
    · rw [hop] at hcell
      cases hcell
    · obtain rfl := Opcode.byte_injective (Option.some.inj (hop.symm.trans hop'))
      have hle : 256 ≤ s.pc + k := Vector.getElem?_eq_none_iff.1 hcell
      exact ⟨rfl, by omega⟩
  | ok d =>
    left
    cases d with
    | halt b =>
      obtain ⟨hb, hnone⟩ := decode_eq_halt_iff.1 hf
      have hbyte : op.byte = b := Option.some.inj (hop.symm.trans hb)
      exact absurd hbyte (Opcode.ofByte?_eq_none_iff.1 hnone op)
    | instruction i =>
      have hcell := (fetch_eq_instruction_iff.1 hf).1
      obtain rfl := Opcode.byte_injective (Option.some.inj (hop.symm.trans hcell))
      have hle := pc_add_length_le hf
      rw [Instruction.length, Opcode.length] at hle
      exact ⟨⟨i, rfl, rfl⟩, by omega⟩

/-! ### Outcomes -/

/-- How the next cycle onto an output can end, and where the program counter then stands. -/
inductive Outcome (s : State) (out : Sink) : Status → Nat → Prop where
  /-- There is no cell at the program counter. -/
  | noCell (h : s.pc = 256) : Outcome s out (.faulted (.pcOutOfRange 256)) s.pc
  /-- The cell there holds a byte that is none of the opcodes. -/
  | noOpcode {b : UInt8} (hb : s.memory[s.pc]? = some b) (h : ∀ op : Opcode, op.byte ≠ b) :
      Outcome s out .halted s.pc
  /-- The operands of the opcode reach past the last cell. -/
  | noOperand {op : Opcode} (hop : s.memory[s.pc]? = some op.byte)
      (h : 255 < s.pc + op.operandCount) : Outcome s out (.faulted (.fetchOutOfRange s.pc)) s.pc
  /-- Of the registers that the instruction looks up, this is the first one that does not exist. -/
  | noRegister {i : Instruction} {r : UInt8} (hi : Holds (fun a => s.memory[a]?) s.pc i.encode)
      (hr : (s.lookedUp i).find? (8 ≤ ·.toNat) = some r) :
      Outcome s out (.faulted (.registerOutOfRange r)) s.pc
  /-- The output does not take the line of a print. -/
  | refused {r : UInt8} (hr : r.toNat < 8)
      (hi : Holds (fun a => s.memory[a]?) s.pc (Instruction.prn r).encode)
      (h : out.fits (Text.decimal s.registers[r.toNat].toNat ++ "\n") = false) :
      Outcome s out (.faulted .outputRefused) s.pc
  /-- The instruction is completed and does not jump. -/
  | completed {i : Instruction} (hi : Holds (fun a => s.memory[a]?) s.pc i.encode)
      (hj : s.jumpRegister i = none) (hregisters : ∀ r ∈ s.lookedUp i, r.toNat < 8)
      (hfits : ∀ (r : UInt8) (hr : r.toNat < 8), i = .prn r →
        out.fits (Text.decimal s.registers[r.toNat].toNat ++ "\n") = true) :
      Outcome s out .running (s.pc + i.length)
  /-- The instruction jumps through a register. -/
  | jumped {i : Instruction} {r : UInt8} (hi : Holds (fun a => s.memory[a]?) s.pc i.encode)
      (hj : s.jumpRegister i = some r) (hr : r.toNat < 8) :
      Outcome s out .running s.registers[r.toNat].toNat

theorem outcome_of_execute (hf : s.fetch = .ok (.instruction i)) (he : s.Executes i t text)
    (hfits : out.fits text = true) : s.Outcome out .running t.pc := by
  have hi := fetch_eq_instruction_iff.1 hf
  rcases he.pc_eq with ⟨hj, hpc⟩ | ⟨r, hr, hj, hpc⟩
  · rw [hpc]
    apply Outcome.completed hi hj he.lookedUp_lt
    rintro r hr rfl
    cases he with
    | print _ => exact hfits
    | jump hjump _ => cases hjump
    | pass hprn _ => simp [Instruction.opcode] at hprn
  · rw [hpc]
    exact .jumped hi hj hr

/-- A cycle has one of the outcomes. -/
theorem outcome_step (hpc : s.pc ≤ 256) (out : Sink) :
    s.Outcome out (s.step out).status (s.step out).state.pc := by
  cases hf : s.fetch with
  | error f =>
    rw [step_of_fetch_error hf]
    rcases decode_eq_error hf with ⟨hcell, rfl⟩ | ⟨rfl, op, k, hop, -, hk, hcell⟩
    · have hend : s.pc = 256 := Nat.le_antisymm hpc (Vector.getElem?_eq_none_iff.1 hcell)
      simpa [hend] using @Outcome.noCell s out hend
    · have hle : 256 ≤ s.pc + k := Vector.getElem?_eq_none_iff.1 hcell
      exact .noOperand hop (by omega)
  | ok d =>
    cases d with
    | halt b =>
      rw [step_of_halt hf]
      obtain ⟨hb, hnone⟩ := decode_eq_halt_iff.1 hf
      exact .noOpcode hb (Opcode.ofByte?_eq_none_iff.1 hnone)
    | instruction i =>
      cases he : s.execute i with
      | error f =>
        rw [step_of_execute_error hf he]
        obtain ⟨r, hr, rfl⟩ := execute_eq_error he
        exact .noRegister (fetch_eq_instruction_iff.1 hf) hr
      | ok result =>
        obtain ⟨t, text⟩ := result
        have hrule := Executes.of_execute he
        rw [step_of_execute hf he]
        split_ifs with hfits
        · exact outcome_of_execute hf hrule hfits
        · rcases hrule.text_eq with rfl | ⟨r, hr, rfl, rfl⟩
          · exact absurd out.fits_empty hfits
          · exact .refused hr (fetch_eq_instruction_iff.1 hf) (Bool.eq_false_iff.2 hfits)

/-- An outcome leaves no choice: the bytes at the program counter decide how the cycle ends. -/
theorem Outcome.step_eq (h : s.Outcome out status pc) :
    (s.step out).status = status ∧ (s.step out).state.pc = pc := by
  cases h with
  | noCell h =>
    rw [step_of_fetch_error (fetch_of_le (Nat.le_of_eq h.symm))]
    exact ⟨by rw [h], rfl⟩
  | noOpcode hb h =>
    rw [step_of_halt (fetch_of_noOpcode hb h)]
    exact ⟨rfl, rfl⟩
  | noOperand hop h =>
    rcases fetch_of_opcode hop with ⟨-, hlt⟩ | ⟨hf, -⟩
    · omega
    · rw [step_of_fetch_error hf]
      exact ⟨rfl, rfl⟩
  | noRegister hi hr =>
    have he := execute_eq_error_iff.2 ⟨_, hr, rfl⟩
    rw [step_of_execute_error (fetch_eq_instruction_iff.2 hi) he]
    exact ⟨rfl, rfl⟩
  | refused hr hi h =>
    have he := execute_eq_ok_iff.2 (Executes.print (s := s) hr)
    rw [step_of_execute (fetch_eq_instruction_iff.2 hi) he, h]
    exact ⟨rfl, rfl⟩
  | @completed i hi hj hregisters hfits =>
    obtain ⟨t, text, he⟩ := exists_execute_eq_ok hregisters
    have hrule := Executes.of_execute he
    have htext : out.fits text = true := by
      rcases hrule.text_eq with rfl | ⟨r, hr, rfl, rfl⟩
      · exact out.fits_empty
      · exact hfits r hr rfl
    rw [step_of_execute (fetch_eq_instruction_iff.2 hi) he, if_pos htext]
    rcases hrule.pc_eq with ⟨-, hpc⟩ | ⟨r, hr, hjump, -⟩
    · exact ⟨rfl, hpc⟩
    · rw [hj] at hjump
      cases hjump
  | jumped hi hj hr =>
    rw [step_of_execute (fetch_eq_instruction_iff.2 hi) (execute_of_jumpRegister hj hr),
      if_pos out.fits_empty]
    exact ⟨rfl, rfl⟩

end State

/-- After every history the next cycle ends as the bytes at the program counter tell, and leaves the
program counter where they tell. A history may break a run off after any number of cycles, so this
holds in the midst of a run as well. -/
theorem Machine.outcome_iff (history : List Operation) (out : Sink) (status : Status) (pc : Nat) :
    let m := after history
    (m.step out).status = status ∧ (m.step out).machine.state.pc = pc ↔
      m.state.Outcome out status pc := by
  intro m
  have hpc : m.state.pc ≤ 256 := by
    have hle := (Chronicle.endsAfter history).pc_le
    rwa [Chronicle.machine_ofHistory] at hle
  constructor
  · rintro ⟨rfl, rfl⟩
    exact State.outcome_step hpc out
  · exact State.Outcome.step_eq

/-- A branch that is passed over does not look its register up, so the register need not exist. -/
example : (({ memory := Memory.blank.overwrite #[85, 200] } : State).step .unlimited).status =
    .running := by
  decide +kernel

end ByteMachine

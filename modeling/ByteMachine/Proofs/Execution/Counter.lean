import ByteMachine.Proofs.Execution.Faults

/-!
# Where the program counter goes

An instruction leads to the address behind it, or to the value of a register if it jumps. Only the
address behind an instruction can lie outside the memory, and then it is the first one that does.
From there on no cycle succeeds. What makes a cycle fail is told by where the program counter stands
and by what is found there.
-/

namespace ByteMachine

theorem Opcode.operandCount_le (op : Opcode) : op.operandCount ≤ 2 := by
  cases op <;> decide

theorem Instruction.length_eq (i : Instruction) : i.length = 2 ∨ i.length = 3 := by
  cases i with
  | prn r | jmp r | jeq r | jne r => exact .inl rfl
  | ldi r v | cmp a b => exact .inr rfl

theorem Holds.add_length_le {m : Memory} {a : Nat} {bytes : List UInt8}
    (h : Holds (fun a => m[a]?) a bytes) (hne : bytes ≠ []) : a + bytes.length ≤ 256 := by
  induction bytes generalizing a with
  | nil => exact absurd rfl hne
  | cons b bytes ih =>
    obtain ⟨hcell, hrest⟩ := h
    have ha : a < 256 := (Vector.getElem?_eq_some_iff.1 hcell).1
    by_cases hbytes : bytes = []
    · subst hbytes
      exact ha
    · have hle := ih hrest hbytes
      rw [List.length_cons]
      omega

namespace State

variable {s t : State} {i : Instruction} {text : String} {out : Sink} {fault : Fault}

/-! ### Completed instructions -/

/-- The cells of an instruction that is found lie in the memory. -/
theorem pc_add_length_le (h : s.fetch = .ok (.instruction i)) : s.pc + i.length ≤ 256 := by
  rw [← Instruction.length_encode]
  exact (fetch_eq_instruction_iff.1 h).add_length_le (by simp [Instruction.encode])

/-- An instruction leads to the address behind it, or to the value of a register if it jumps. -/
theorem Executes.pc_eq (h : s.Executes i t text) :
    s.jumpRegister i = none ∧ t.pc = s.pc + i.length ∨
      ∃ (r : UInt8) (hr : r.toNat < 8), s.jumpRegister i = some r ∧
        t.pc = s.registers[r.toNat].toNat := by
  cases h with
  | load hr | print hr | compare ha hb => exact .inl ⟨rfl, rfl⟩
  | jump hj hr => exact .inr ⟨_, hr, hj, rfl⟩
  | pass hi hj =>
    refine .inl ⟨hj, ?_⟩
    rcases hi with hi | hi <;> rw [Instruction.length, hi] <;> rfl

theorem pc_le_of_executes (hf : s.fetch = .ok (.instruction i)) (he : s.Executes i t text) :
    t.pc ≤ 256 := by
  rcases he.pc_eq with ⟨-, ht⟩ | ⟨r, hr, -, ht⟩
  · rw [ht]
    exact pc_add_length_le hf
  · rw [ht]
    exact Nat.le_of_lt (UInt8.toNat_lt _)

/-- The end of the memory is reached from an instruction in the last cells that does not jump. -/
theorem Executes.length_of_pc_eq (h : s.Executes i t text) (ht : t.pc = 256) :
    s.jumpRegister i = none ∧ (i.length = 2 ∧ s.pc = 254 ∨ i.length = 3 ∧ s.pc = 253) := by
  rcases h.pc_eq with ⟨hj, hnext⟩ | ⟨r, hr, -, hnext⟩
  · refine ⟨hj, ?_⟩
    rcases i.length_eq with hlength | hlength <;> omega
  · have hlt := UInt8.toNat_lt s.registers[r.toNat]
    omega

/-! ### Failed cycles -/

theorem fetch_of_le (h : 256 ≤ s.pc) : s.fetch = .error (.pcOutOfRange s.pc) :=
  decode_of_none (Vector.getElem?_eq_none h)

/-- What makes a cycle fail in a state, and the fault that it then fails with. -/
inductive Fails (s : State) : Fault → Prop where
  | noCell (h : 256 ≤ s.pc) : Fails s (.pcOutOfRange s.pc)
  | noOperand {op : Opcode} (hop : s.memory[s.pc]? = some op.byte)
      (h : 256 ≤ s.pc + op.operandCount) : Fails s (.fetchOutOfRange s.pc)
  | noRegister {i : Instruction} {r : UInt8} (hf : s.fetch = .ok (.instruction i))
      (hr : (s.lookedUp i).find? (8 ≤ ·.toNat) = some r) : Fails s (.registerOutOfRange r)
  | refused {r : UInt8} (hf : s.fetch = .ok (.instruction (.prn r))) : Fails s .outputRefused

theorem fails_of_fetch_error (h : s.fetch = .error fault) : s.Fails fault := by
  rcases decode_eq_error h with ⟨hcell, rfl⟩ | ⟨rfl, op, k, hop, -, hk, hcell⟩
  · exact .noCell (Vector.getElem?_eq_none_iff.1 hcell)
  · have hle : 256 ≤ s.pc + k := Vector.getElem?_eq_none_iff.1 hcell
    exact .noOperand hop (by omega)

/-- A cycle fails for one of these reasons. -/
theorem fails_of_step (h : (s.step out).status = .faulted fault) : s.Fails fault := by
  rcases step_faulted h with ⟨hne, hstep⟩ | ⟨rfl, r, -, hf, -, -⟩
  · cases hf : s.fetch with
    | error f =>
      rw [step_of_fetch_error hf] at h
      cases h
      exact fails_of_fetch_error hf
    | ok d =>
      cases d with
      | halt byte => simp [step_of_halt hf] at h
      | instruction i =>
        cases he : s.execute i with
        | error f =>
          rw [step_of_execute_error hf he] at h
          cases h
          obtain ⟨r, hr, rfl⟩ := execute_eq_error he
          exact .noRegister hf hr
        | ok result =>
          -- an output that takes any text tells that the output is not to blame
          have hfree := hstep .unlimited
          rw [step_of_execute hf he, Sink.fits_unlimited, if_pos rfl] at hfree
          cases hfree
  · exact .refused hf

end State

end ByteMachine

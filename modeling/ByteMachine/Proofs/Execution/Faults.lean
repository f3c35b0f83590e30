import ByteMachine.Proofs.Execution.Runs

/-!
# Faults

When a cycle fails, and what a failed cycle leaves behind. The state is as it was before the cycle.
The output is as it was too, unless the fault is that the output refused a line, of which it then
has a part that ends before the line end.
-/

namespace ByteMachine

/-! ### Lines that are not taken whole -/

namespace Sink

variable {out : Sink} {text : String}

theorem kept_of_not_fits (h : out.fits text = false) :
    ∃ rest, rest ≠ "" ∧ text = out.kept text ++ rest := by
  obtain ⟨room, taken⟩ := out
  cases room with
  | none => simp [fits] at h
  | some r =>
    rw [fits, decide_eq_false_iff_not, Nat.not_le, ← String.length_toList] at h
    refine ⟨String.ofList (text.toList.drop r), ?_, ?_⟩
    · rw [Ne, String.ofList_eq_empty_iff, List.drop_eq_nil_iff]
      exact Nat.not_le.2 h
    · rw [kept, ← String.ofList_append, List.take_append_drop, String.ofList_toList]

end Sink

/-! ### Decoding and executing -/

section Decoding

variable {cell : Nat → Option UInt8} {pc : Nat} {fault : Fault}

theorem Instruction.complete_eq_error {operand : Nat → Except Fault UInt8} {op : Opcode}
    (h : complete operand op = .error fault) :
    ∃ k, 1 ≤ k ∧ k ≤ op.operandCount ∧ operand k = .error fault := by
  cases op with
  | ldi | cmp =>
    simp only [complete, bind_eq_error, pure_eq_ok, reduceCtorEq, and_false, exists_false,
      or_false] at h
    rcases h with h | ⟨b, -, h⟩
    · exact ⟨1, by decide, by decide, h⟩
    · exact ⟨2, by decide, by decide, h⟩
  | prn | jmp | jeq | jne =>
    simp only [complete, bind_eq_error, pure_eq_ok, reduceCtorEq, and_false, exists_false,
      or_false] at h
    exact ⟨1, by decide, by decide, h⟩

/-- Decoding fails where there is no cell, or where an operand has no cell. -/
theorem decode_eq_error (h : decode cell pc = .error fault) :
    cell pc = none ∧ fault = .pcOutOfRange pc ∨
      fault = .fetchOutOfRange pc ∧ ∃ op k, cell pc = some (Opcode.byte op) ∧
        1 ≤ k ∧ k ≤ op.operandCount ∧ cell (pc + k) = none := by
  cases hop : cell pc with
  | none =>
    rw [decode_of_none hop] at h
    exact .inl ⟨rfl, (Except.error.inj h).symm⟩
  | some byte =>
    cases hof : Opcode.ofByte? byte with
    | none => simp [decode_of_ofByte?_none hop hof] at h
    | some op =>
      obtain rfl := Opcode.byte_of_ofByte? hof
      simp only [decode, hop, hof, map_eq_error] at h
      obtain ⟨k, hk, hcount, hoperand⟩ := Instruction.complete_eq_error h
      cases hcell : cell (pc + k) with
      | some b => simp [hcell] at hoperand
      | none =>
        rw [hcell] at hoperand
        exact .inr ⟨(Except.error.inj hoperand).symm, op, k, rfl, hk, hcount, hcell⟩

/-- Decoding finds a byte that stops the machine where there is one that is no opcode. -/
theorem decode_eq_halt_iff {byte : UInt8} :
    decode cell pc = .ok (.halt byte) ↔ cell pc = some byte ∧ Opcode.ofByte? byte = none := by
  constructor
  · intro h
    cases hop : cell pc with
    | none => simp [decode_of_none hop] at h
    | some b =>
      cases hof : Opcode.ofByte? b with
      | none =>
        rw [decode_of_ofByte?_none hop hof] at h
        obtain rfl : b = byte := by simpa using h
        exact ⟨rfl, hof⟩
      | some op => simp [decode, hop, hof, map_eq_ok] at h
  · rintro ⟨hop, hof⟩
    exact decode_of_ofByte?_none hop hof

end Decoding

namespace State

variable {s : State} {i : Instruction} {fault : Fault} {out : Sink}

/-- The registers that an instruction looks up, in this order. A jump that is passed over looks up
none. -/
def lookedUp (s : State) : Instruction → List UInt8
  | .ldi r _ | .prn r => [r]
  | .cmp a b => [a, b]
  | i@(.jmp _) | i@(.jeq _) | i@(.jne _) => (s.jumpRegister i).toList

theorem jump_eq_error {r : UInt8} :
    s.jump r = .error fault ↔ 8 ≤ r.toNat ∧ fault = .registerOutOfRange r := by
  simp [jump, bind_eq_error, Registers.read_eq_error]

/-- Executing fails at the first register that is looked up and does not exist. -/
theorem execute_eq_error (h : s.execute i = .error fault) :
    ∃ r, (s.lookedUp i).find? (8 ≤ ·.toNat) = some r ∧ fault = .registerOutOfRange r := by
  have single {r : UInt8} (h : 8 ≤ r.toNat ∧ fault = .registerOutOfRange r) :
      ∃ q, [r].find? (8 ≤ ·.toNat) = some q ∧ fault = .registerOutOfRange q :=
    ⟨r, by simp [h.1], h.2⟩
  cases i with
  | ldi r v =>
    simp only [execute, bind_eq_error, Registers.write_eq_error, pure_eq_ok, reduceCtorEq,
      and_false, exists_false, or_false] at h
    exact single h
  | prn r =>
    simp only [execute, bind_eq_error, Registers.read_eq_error, pure_eq_ok, reduceCtorEq, and_false,
      exists_false, or_false] at h
    exact single h
  | cmp a b =>
    simp only [execute, bind_eq_error, Registers.read_eq_error, Registers.read_eq_ok, pure_eq_ok,
      reduceCtorEq, and_false, exists_false, or_false] at h
    rcases h with ⟨ha, hfault⟩ | ⟨x, ⟨ha, -⟩, hb, hfault⟩
    · exact ⟨a, by simp [lookedUp, ha], hfault⟩
    · exact ⟨b, by simp [lookedUp, Nat.not_le.2 ha, hb], hfault⟩
  | jmp r =>
    simp only [execute, bind_eq_error, jump_eq_error, pure_eq_ok, reduceCtorEq, and_false,
      exists_false, or_false] at h
    exact single h
  | jeq r =>
    by_cases hf : s.flags.isEqual
    · simp only [execute, if_pos hf, bind_eq_error, jump_eq_error, pure_eq_ok, reduceCtorEq,
        and_false, exists_false, or_false] at h
      simpa only [lookedUp, jumpRegister, if_pos hf, Option.toList_some] using single h
    · simp [execute, hf] at h
  | jne r =>
    by_cases hf : s.flags.isEqual
    · simp [execute, hf] at h
    · simp only [execute, if_neg hf, bind_eq_error, jump_eq_error, pure_eq_ok, reduceCtorEq,
        and_false, exists_false, or_false] at h
      simpa only [lookedUp, jumpRegister, if_neg hf, Option.toList_some] using single h

/-! ### Cycles -/

/-- A cycle fails as it would onto every output, or because the output refuses the line of a
print. In either case the state stays as it was. -/
theorem step_faulted (h : (s.step out).status = .faulted fault) :
    (fault ≠ .outputRefused ∧ ∀ out', s.step out' = ⟨.faulted fault, s, out'⟩) ∨
      fault = .outputRefused ∧ ∃ (r : UInt8) (hr : r.toNat < 8),
        s.fetch = .ok (.instruction (.prn r)) ∧
          let line := Text.decimal s.registers[r.toNat].toNat ++ "\n"
          out.fits line = false ∧ s.step out = ⟨.faulted .outputRefused, s, out.write line⟩ := by
  cases hf : s.fetch with
  | error f =>
    have hstep := step_of_fetch_error hf
    obtain rfl : f = fault := by simpa [hstep] using h
    left
    refine ⟨?_, hstep⟩
    rcases decode_eq_error hf with ⟨-, rfl⟩ | ⟨rfl, -⟩ <;> simp
  | ok d =>
    cases d with
    | halt byte => simp [step_of_halt hf] at h
    | instruction i =>
      cases he : s.execute i with
      | error f =>
        have hstep := step_of_execute_error hf he
        obtain rfl : f = fault := by simpa [hstep] using h
        obtain ⟨r, -, rfl⟩ := execute_eq_error he
        exact .inl ⟨by simp, hstep⟩
      | ok result =>
        obtain ⟨t, text⟩ := result
        have hstep := step_of_execute hf he out
        rw [hstep] at h
        split_ifs at h with hfits
        right
        rcases (Executes.of_execute he).text_eq with rfl | ⟨r, hr, rfl, rfl⟩
        · exact absurd (out.fits_empty) hfits
        · rw [if_neg hfits] at hstep
          exact ⟨(Status.faulted.inj h).symm, r, hr, rfl, Bool.eq_false_iff.2 hfits, hstep⟩

theorem read_of_halt {byte : UInt8} (h : s.fetch = .ok (.halt byte)) :
    s.memory.read s.pc = .ok byte := by
  have hcell : s.memory[s.pc]? = some byte := (decode_eq_halt_iff.1 h).1
  rw [Memory.read, hcell]

/-- A cycle halts where there is a byte that is no opcode. -/
theorem step_halted (h : (s.step out).status = .halted) :
    ∃ byte, s.fetch = .ok (.halt byte) ∧ s.step out = ⟨.halted, s, out⟩ := by
  cases hf : s.fetch with
  | error f => simp [step_of_fetch_error hf] at h
  | ok d =>
    cases d with
    | halt byte => exact ⟨byte, rfl, step_of_halt hf out⟩
    | instruction i =>
      cases he : s.execute i with
      | error f => simp [step_of_execute_error hf he] at h
      | ok result =>
        rw [step_of_execute hf he] at h
        split_ifs at h

end State

/-! ### Runs -/

namespace Run

variable {r : Run} {n : Nat} {fault : Fault}

/-- A run that fails does so in its last cycle, and has completed an instruction in each cycle
before. -/
theorem exists_faulted_cycle (hr : r.status = .running)
    (h : (advance n r).status = .faulted fault) :
    ∃ k < n, (advance k r).status = .running ∧ advance n r = (advance k r).next ∧
      ((advance k r).state.step (advance k r).out).status = .faulted fault ∧
      (advance n r).completed = r.completed + k := by
  obtain ⟨k, hkn, hk, hlast⟩ := exists_last_cycle hr (Status.ne_running_of_faulted h)
  rw [hlast] at h
  refine ⟨k, hkn, hk, hlast, h, ?_⟩
  rw [hlast, completed_next_of_ended (Status.ne_running_of_faulted h), completed_of_running hk]

end Run

end ByteMachine

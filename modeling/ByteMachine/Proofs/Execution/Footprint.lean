import ByteMachine.Proofs.Execution.Faults

/-!
# The footprint of a run

A run looks at the cells that it decodes and at the registers that its instructions read, and of the
flags it only asks whether the last comparison found equal values. What a register held before the
run matters only if it is read before the run has loaded it. Machines that agree in all this go
through the same cycles, whatever else they hold.
-/

namespace ByteMachine

/-! ### What a cycle looks at -/

/-- The addresses that decoding looks at: the one of the opcode, and those of its operands if it is
one. There need not be a cell at each of them. -/
def decodedAddresses (cell : Nat → Option UInt8) (pc : Nat) : List Nat :=
  List.range' pc (((cell pc).bind Opcode.ofByte?).elim 1 Opcode.length)

/-- The register that an instruction loads. -/
def Instruction.loaded? : Instruction → Option UInt8
  | ldi r _ => some r
  | _ => none

namespace State

/-- The registers that an instruction reads, in this order: those that it looks up, up to the first
one that does not exist. A load looks up its register only to write it. -/
def readBy (s : State) : Instruction → List UInt8
  | .ldi .. => []
  | i => (s.lookedUp i).takeWhile (·.toNat < 8)

/-- The addresses that the next cycle decodes. -/
def addresses (s : State) : List Nat :=
  decodedAddresses (fun a => s.memory[a]?) s.pc

/-- The registers that the next cycle reads. -/
def reads (s : State) : List UInt8 :=
  match s.fetch with
  | .ok (.instruction i) => s.readBy i
  | _ => []

/-- The registers that the next cycle loads. -/
def loads (s : State) : List UInt8 :=
  match s.fetch with
  | .ok (.instruction i) => i.loaded?.toList
  | _ => []

end State

namespace Run

/-- The addresses that the first `n` cycles decode. -/
def footprint : Nat → Run → List Nat
  | 0, _ => []
  | n + 1, r =>
    match r.status with
    | .running => r.state.addresses ++ footprint n r.next
    | _ => []

/-- The registers that the first `n` cycles read before they have been loaded, some having been
loaded already. -/
def inputs : Nat → List UInt8 → Run → List UInt8
  | 0, _, _ => []
  | n + 1, loaded, r =>
    match r.status with
    | .running =>
      r.state.reads.filter (· ∉ loaded) ++ inputs n (r.state.loads ++ loaded) r.next
    | _ => []

variable {r : Run}

theorem footprint_succ (hr : r.status = .running) (n : Nat) :
    footprint (n + 1) r = r.state.addresses ++ footprint n r.next := by
  rw [footprint, hr]

theorem inputs_succ (hr : r.status = .running) (n : Nat) (loaded : List UInt8) :
    inputs (n + 1) loaded r =
      r.state.reads.filter (· ∉ loaded) ++ inputs n (r.state.loads ++ loaded) r.next := by
  rw [inputs, hr]

end Run

/-! ### Decoding -/

section Decoding

variable {cell cell' : Nat → Option UInt8} {pc : Nat} {op : Opcode}

theorem decodedAddresses_of_opcode (h : cell pc = some op.byte) :
    decodedAddresses cell pc = List.range' pc op.length := by
  simp [decodedAddresses, h]

theorem pc_mem_decodedAddresses (cell : Nat → Option UInt8) (pc : Nat) :
    pc ∈ decodedAddresses cell pc := by
  rw [decodedAddresses, List.mem_range'_1]
  cases (cell pc).bind Opcode.ofByte? with
  | none => simp
  | some op => simp [Opcode.length, Nat.add_comm 1]

theorem Instruction.complete_congr {operand operand' : Nat → Except Fault UInt8}
    (h : ∀ k, 1 ≤ k → k ≤ op.operandCount → operand k = operand' k) :
    complete operand op = complete operand' op := by
  have h₁ : operand 1 = operand' 1 := h 1 (Nat.le_refl 1) (by cases op <;> decide)
  cases op with
  | ldi | cmp =>
    have h₂ : operand 2 = operand' 2 := h 2 (by decide) (by decide)
    simp only [complete, h₁, h₂]
  | prn | jmp | jeq | jne => simp only [complete, h₁]

/-- Decoding looks at nothing but the addresses that it is said to look at. -/
theorem decode_congr (h : ∀ a ∈ decodedAddresses cell pc, cell a = cell' a) :
    decode cell pc = decode cell' pc := by
  have hpc : cell pc = cell' pc := h pc (pc_mem_decodedAddresses cell pc)
  cases hop : cell pc with
  | none => rw [decode_of_none hop, decode_of_none (hpc ▸ hop)]
  | some byte =>
    cases hof : Opcode.ofByte? byte with
    | none => rw [decode_of_ofByte?_none hop hof, decode_of_ofByte?_none (hpc ▸ hop) hof]
    | some op =>
      obtain rfl := Opcode.byte_of_ofByte? hof
      rw [decodedAddresses_of_opcode hop] at h
      simp only [decode, hop, ← hpc, hof]
      congr 1
      apply Instruction.complete_congr
      intro k hk hcount
      have hmem : pc + k ∈ List.range' pc op.length := by
        rw [List.mem_range'_1, Opcode.length]
        omega
      rw [h _ hmem]

end Decoding

/-! ### Executing -/

namespace State

/-- Two states agree in the program counter, in whether the last comparison found equal values, in
the cells at some addresses, and in some registers. -/
structure AgreesOn (cells : List Nat) (registers : List UInt8) (s t : State) : Prop where
  pc : s.pc = t.pc
  isEqual : s.flags.isEqual = t.flags.isEqual
  cell : ∀ a ∈ cells, s.memory[a]? = t.memory[a]?
  register : ∀ r ∈ registers, s.registers[r.toNat]? = t.registers[r.toNat]?

/-- The same fault, or the same text and states that agree. -/
inductive ResultsAgree (cells : List Nat) (registers : List UInt8) :
    Except Fault (State × String) → Except Fault (State × String) → Prop where
  | fault (fault : Fault) : ResultsAgree cells registers (.error fault) (.error fault)
  | next {s t : State} {text : String} (h : s.AgreesOn cells registers t) :
      ResultsAgree cells registers (.ok (s, text)) (.ok (t, text))

variable {s t : State} {cells cells' : List Nat} {registers registers' : List UInt8}
  {i : Instruction} {r : UInt8}

namespace AgreesOn

theorem mono (h : s.AgreesOn cells registers t) (hcells : cells' ⊆ cells)
    (hregisters : registers' ⊆ registers) : s.AgreesOn cells' registers' t :=
  ⟨h.pc, h.isEqual, fun a ha => h.cell a (hcells ha), fun r hr => h.register r (hregisters hr)⟩

theorem fetch_eq (h : s.AgreesOn cells registers t) (hcells : s.addresses ⊆ cells) :
    s.fetch = t.fetch := by
  rw [fetch, fetch, decodeAt, decodeAt, ← h.pc]
  exact decode_congr fun a ha => h.cell a (hcells ha)

/-- A register that does not exist is the same everywhere. -/
theorem read_eq (h : s.AgreesOn cells registers t) (hr : r.toNat < 8 → r ∈ registers) :
    s.registers.read r = t.registers.read r := by
  by_cases hlt : r.toNat < 8
  · rw [Registers.read, Registers.read, h.register r (hr hlt)]
  · rw [Registers.read_of_le _ (Nat.not_lt.1 hlt), Registers.read_of_le _ (Nat.not_lt.1 hlt)]

theorem jump_agrees (h : s.AgreesOn cells registers t) (hr : r.toNat < 8 → r ∈ registers) :
    ResultsAgree cells registers (do return (← s.jump r, "")) (do return (← t.jump r, "")) := by
  rw [jump, jump, h.read_eq hr]
  cases t.registers.read r with
  | error fault => exact .fault fault
  | ok target =>
    apply ResultsAgree.next
    exact ⟨rfl, h.isEqual, h.cell, h.register⟩

theorem pass_agrees (h : s.AgreesOn cells registers t) (length : Nat) (text : String) :
    ResultsAgree cells registers (.ok ({ s with pc := s.pc + length }, text))
      (.ok ({ t with pc := t.pc + length }, text)) :=
  .next ⟨by rw [h.pc], h.isEqual, h.cell, h.register⟩

/-- An instruction does the same to states that agree on what it reads, and they then agree on what
it has loaded too. -/
theorem execute_agrees (h : s.AgreesOn cells registers t) (hreads : s.readBy i ⊆ registers) :
    ResultsAgree cells (i.loaded?.toList ++ registers) (s.execute i) (t.execute i) := by
  -- an instruction that reads a single register reads it if it exists
  have single {r : UInt8} (hr : [r].takeWhile (·.toNat < 8) ⊆ registers) (hlt : r.toNat < 8) :
      r ∈ registers := hr (by simp [hlt])
  cases i with
  | ldi r v =>
    by_cases hr : r.toNat < 8
    · simp only [execute, Registers.write_of_lt _ hr, ok_bind, pure_eq_ok]
      refine .next ⟨by simp [h.pc], h.isEqual, h.cell, ?_⟩
      intro q hq
      simp only [Instruction.loaded?, Option.toList_some, List.singleton_append,
        List.mem_cons] at hq
      simp only [Vector.getElem?_set]
      split_ifs with hqr
      · rfl
      · exact h.register q (hq.resolve_left fun heq => hqr (by rw [heq]))
    · simp only [execute, Registers.write_of_le _ (Nat.not_lt.1 hr), error_bind]
      exact .fault _
  | prn r =>
    simp only [execute, h.read_eq (single hreads)]
    cases t.registers.read r with
    | error fault => exact .fault fault
    | ok v => exact h.pass_agrees 2 _
  | cmp a b =>
    have ha : a.toNat < 8 → a ∈ registers := fun ha => hreads (by simp [readBy, lookedUp, ha])
    simp only [execute, h.read_eq ha]
    cases hx : t.registers.read a with
    | error fault => exact .fault fault
    | ok x =>
      obtain ⟨hlt, -⟩ := Registers.read_eq_ok.1 hx
      have hb : b.toNat < 8 → b ∈ registers :=
        fun hb => hreads (by simp [readBy, lookedUp, hlt, hb])
      simp only [ok_bind, h.read_eq hb]
      cases t.registers.read b with
      | error fault => exact .fault fault
      | ok y =>
        apply ResultsAgree.next
        exact ⟨by rw [h.pc], rfl, h.cell, h.register⟩
  | jmp r => exact h.jump_agrees (single hreads)
  | jeq r =>
    simp only [execute, ← h.isEqual]
    cases heq : s.flags.isEqual with
    | true =>
      simp only [readBy, lookedUp, jumpRegister, if_pos heq, Option.toList_some] at hreads
      exact h.jump_agrees (single hreads)
    | false => exact h.pass_agrees 2 ""
  | jne r =>
    simp only [execute, ← h.isEqual]
    cases heq : s.flags.isEqual with
    | true => exact h.pass_agrees 2 ""
    | false =>
      simp only [readBy, lookedUp, jumpRegister, heq] at hreads
      exact h.jump_agrees (single hreads)

/-- A cycle ends alike in states that agree on what it looks at. If it goes on, they then agree on
what it has loaded too. -/
theorem step_agrees (h : s.AgreesOn cells registers t) (hcells : s.addresses ⊆ cells)
    (hreads : s.reads ⊆ registers) (out : Sink) :
    (s.step out).status = (t.step out).status ∧ (s.step out).out = (t.step out).out ∧
      (s.step out).state.AgreesOn cells registers (t.step out).state ∧
      ((s.step out).status = .running →
        (s.step out).state.AgreesOn cells (s.loads ++ registers) (t.step out).state) := by
  have hfetch := h.fetch_eq hcells
  cases hf : s.fetch with
  | error fault =>
    rw [step_of_fetch_error hf, step_of_fetch_error (hfetch ▸ hf)]
    exact ⟨rfl, rfl, h, by simp⟩
  | ok d =>
    cases d with
    | halt byte =>
      rw [step_of_halt hf, step_of_halt (hfetch ▸ hf)]
      exact ⟨rfl, rfl, h, by simp⟩
    | instruction i =>
      have hf' : t.fetch = .ok (.instruction i) := hfetch ▸ hf
      simp only [reads, hf] at hreads
      simp only [loads, hf]
      have hagree := h.execute_agrees hreads
      generalize hx : s.execute i = x at hagree
      generalize hy : t.execute i = y at hagree
      cases hagree with
      | fault fault =>
        rw [step_of_execute_error hf hx, step_of_execute_error hf' hy]
        exact ⟨rfl, rfl, h, by simp⟩
      | next hnext =>
        rw [step_of_execute hf hx, step_of_execute hf' hy]
        split_ifs with hfits
        · exact ⟨rfl, rfl, hnext.mono (List.Subset.refl _) (List.subset_append_right _ _),
            fun _ => hnext⟩
        · exact ⟨rfl, rfl, h, by simp⟩

end AgreesOn

end State

/-! ### Runs -/

namespace Run

/-- Two runs have come to the same, as far as the footprint tells: the last cycle ended alike, the
same was put out and completed, and the states agree in the program counter and in whether the last
comparison found equal values. -/
structure Resembles (r q : Run) : Prop where
  status : r.status = q.status
  out : r.out = q.out
  completed : r.completed = q.completed
  pc : r.state.pc = q.state.pc
  isEqual : r.state.flags.isEqual = q.state.flags.isEqual

variable {r q : Run} {k n : Nat} {loaded : List UInt8}

/-- The registers that a cycle reads have been loaded before or are among the inputs. -/
theorem reads_subset (hr : r.status = .running) :
    r.state.reads ⊆ inputs (n + 1) loaded r ++ loaded := by
  intro k hk
  rw [inputs_succ hr, List.mem_append, List.mem_append, List.mem_filter]
  by_cases hloaded : k ∈ loaded
  · exact .inr hloaded
  · exact .inl (.inl ⟨hk, by simpa using hloaded⟩)

/-- The inputs of the cycles after the first one are among the inputs, or the first one has loaded
them. -/
theorem inputs_next_subset (hr : r.status = .running) :
    inputs n (r.state.loads ++ loaded) r.next ++ (r.state.loads ++ loaded) ⊆
      r.state.loads ++ (inputs (n + 1) loaded r ++ loaded) := by
  intro k hk
  rw [inputs_succ hr]
  simp only [List.mem_append] at hk ⊢
  tauto

theorem Resembles.next {cells : List Nat} {registers : List UInt8} (h : r.Resembles q)
    (hagree : r.state.AgreesOn cells registers q.state) (hcells : r.state.addresses ⊆ cells)
    (hreads : r.state.reads ⊆ registers) : r.next.Resembles q.next := by
  obtain ⟨hstatus, hout, hstate, -⟩ := hagree.step_agrees hcells hreads r.out
  rw [h.out] at hstatus hout hstate
  have hnext : r.next.status = q.next.status := by rw [status_next, status_next, h.out, hstatus]
  refine ⟨hnext, ?_, ?_, ?_, ?_⟩
  · rw [out_next, out_next, h.out, hout]
  · by_cases hr : r.next.status = .running
    · rw [completed_next_of_running hr, completed_next_of_running (hnext ▸ hr), h.completed]
    · rw [completed_next_of_ended hr, completed_next_of_ended (hnext ▸ hr), h.completed]
  · rw [state_next, state_next, h.out, hstate.pc]
  · rw [state_next, state_next, h.out, hstate.isEqual]

/-- Runs that agree on the footprint and the inputs of the first one go through the same cycles. -/
theorem resembles_advance (loaded : List UInt8) (h : r.Resembles q)
    (hagree : r.state.AgreesOn (footprint n r) (inputs n loaded r ++ loaded) q.state)
    (hkn : k ≤ n) : (advance k r).Resembles (advance k q) := by
  -- the cycles that are left have a smaller footprint, but more has been loaded before them
  induction k generalizing r q n loaded with
  | zero => exact h
  | succ k ih =>
    obtain ⟨n, rfl⟩ : ∃ m, n = m + 1 := Nat.exists_eq_succ_of_ne_zero (by omega)
    by_cases hr : r.status = .running
    · rw [advance_succ_of_running hr, advance_succ_of_running (h.status ▸ hr)]
      rw [footprint_succ hr] at hagree
      have hcells : r.state.addresses ⊆ r.state.addresses ++ footprint n r.next :=
        List.subset_append_left _ _
      have hnext := h.next hagree hcells (reads_subset hr)
      by_cases hrunning : r.next.status = .running
      · obtain ⟨-, -, -, hloaded⟩ := hagree.step_agrees hcells (reads_subset hr) r.out
        refine ih (r.state.loads ++ loaded) hnext ?_ (Nat.le_of_succ_le_succ hkn)
        rw [state_next, state_next, ← h.out]
        exact (hloaded hrunning).mono (List.subset_append_right _ _) (inputs_next_subset hr)
      · rw [advance_of_ended hrunning, advance_of_ended (hnext.status ▸ hrunning)]
        exact hnext
    · rw [advance_of_ended hr, advance_of_ended (h.status ▸ hr)]
      exact h

end Run

namespace Machine

/-- A machine that agrees with another one on the cells that the other one decodes in so many
cycles, and on the registers that it reads before it has loaded them, goes through the same cycles:
with the same results, the same output, and the same course of the program counter and of what
decides the branches. -/
theorem depends_on_footprint (m m' : Machine) (n : Nat) (out : Sink)
    (h : m.state.AgreesOn (Run.footprint n (m.start out)) (Run.inputs n [] (m.start out))
      m'.state) :
    ∀ k ≤ n, (Run.advance k (m.start out)).Resembles (Run.advance k (m'.start out)) := by
  intro k hkn
  have hstart : (m.start out).Resembles (m'.start out) := ⟨rfl, rfl, rfl, h.pc, h.isEqual⟩
  refine Run.resembles_advance [] hstart ?_ hkn
  rw [List.append_nil]
  exact h

theorem depends_on_footprint_of_branch :
    let m : Machine := { state := {
      registers := #v[0, 1, 9, 0, 0, 0, 0, 0]
      memory := Memory.blank.overwrite #[130, 0, 5, 167, 0, 1, 86, 2, 0, 71, 0, 0] } }
    let m' : Machine := { state := {
      registers := #v[77, 1, 9, 3, 0, 0, 0, 255]
      flags := .less
      memory := Memory.blank.overwrite #[130, 0, 5, 167, 0, 1, 86, 2, 71, 71, 0, 0, 86, 2] } }
    m.state.AgreesOn (Run.footprint 5 (m.start .unlimited)) (Run.inputs 5 [] (m.start .unlimited))
        m'.state ∧
      (Run.advance 5 (m'.start .unlimited)).status = .halted ∧
      (Run.advance 5 (m'.start .unlimited)).text = "5\n" := by
  intro m m'
  have h : m.state.AgreesOn (Run.footprint 5 (m.start .unlimited))
      (Run.inputs 5 [] (m.start .unlimited)) m'.state :=
    ⟨rfl, rfl, by decide +kernel, by decide +kernel⟩
  have hlast := depends_on_footprint m m' 5 .unlimited h 5 (Nat.le_refl 5)
  have hhalted : (Run.advance 5 (m.start .unlimited)).status = .halted := by decide +kernel
  have hprinted : (Run.advance 5 (m.start .unlimited)).out.text = "5\n" := by decide +kernel
  refine ⟨h, hlast.status ▸ hhalted, ?_⟩
  rw [Run.text, ← hlast.out, hprinted]

end Machine

end ByteMachine

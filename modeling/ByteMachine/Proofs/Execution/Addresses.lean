import ByteMachine.Machine
import ByteMachine.Proofs.Execution.Counter

/-!
# Addresses of 64 bits

Decoding, executing and tracing add small numbers to an address. Here they do so with addresses of
64 bits and with a sum that breaks the computation off where it takes more bits. Decoding then gives
at every address of 64 bits what it gives with natural numbers, and so do executing and tracing
wherever the program counter can stand. So no sum ever takes more than 64 bits.
-/

namespace ByteMachine.Words

/-- The sum of two addresses, if 64 bits are enough for it. -/
def sum? (a b : UInt64) : Option UInt64 :=
  if a.toNat + b.toNat < UInt64.size then some (a + b) else none

/-- What a computation with addresses of 64 bits gives, if no sum breaks it off. -/
abbrev Computed := ExceptT Fault Option

/-! ### Decoding -/

/-- The operand in a place, numbered from 1. -/
def operand (cell : Nat → Option UInt8) (pc : UInt64) (place : Nat) : Computed UInt8 := do
  let address ← sum? pc (.ofNat place)
  match cell address.toNat with
  | some b => return b
  | none => throw (.fetchOutOfRange pc.toNat)

/-- `Instruction.complete` with operands that are computed. -/
def complete (operand : Nat → Computed UInt8) : Opcode → Computed Instruction
  | .ldi => do return .ldi (← operand 1) (← operand 2)
  | .prn => do return .prn (← operand 1)
  | .cmp => do return .cmp (← operand 1) (← operand 2)
  | .jmp => do return .jmp (← operand 1)
  | .jeq => do return .jeq (← operand 1)
  | .jne => do return .jne (← operand 1)

/-- `ByteMachine.decode` with addresses of 64 bits. -/
def decode (cell : Nat → Option UInt8) (pc : UInt64) : Computed Decoded :=
  match cell pc.toNat with
  | none => throw (.pcOutOfRange pc.toNat)
  | some byte =>
    match Opcode.ofByte? byte with
    | none => return .halt byte
    | some op => do return .instruction (← complete (operand cell pc) op)

/-! ### Executing and tracing -/

/-- `State.execute` with the address behind the instruction given. -/
def execute (s : State) (next : UInt64) (i : Instruction) : Except Fault (State × String) :=
  (s.execute i).map fun (t, text) =>
    ({ t with pc := if (s.jumpRegister i).isSome then t.pc else next.toNat }, text)

/-- `State.step` with addresses of 64 bits. The address behind an instruction is computed before
the instruction is executed, whether or not it jumps. -/
def step (s : State) (out : Sink) : Option Cycle := do
  let pc := UInt64.ofNat s.pc
  match ← (decode (fun a => s.memory[a]?) pc).run with
  | .error fault => return ⟨.faulted fault, s, out⟩
  | .ok (.halt _) => return ⟨.halted, s, out⟩
  | .ok (.instruction i) =>
    let next ← sum? pc (.ofNat i.length)
    match execute s next i with
    | .error fault => return ⟨.faulted fault, s, out⟩
    | .ok (t, text) =>
      if out.fits text then return ⟨.running, t, out.write text⟩
      else return ⟨.faulted .outputRefused, s, out.write text⟩

/-- A cell that a trace line shows. -/
def shownCell (m : Memory) (pc : UInt64) (offset : Nat) : Option String := do
  let address ← sum? pc (.ofNat offset)
  return Text.upperHex 2 (m[address.toNat]?.getD 0).toNat

/-- `State.traceLine` with addresses of 64 bits. -/
def traceLine (s : State) : Option String := do
  let pc := UInt64.ofNat s.pc
  let first ← shownCell s.memory pc 0
  let second ← shownCell s.memory pc 1
  let third ← shownCell s.memory pc 2
  let registers := s.registers.toList.map fun r => Text.upperHex 2 r.toNat
  return "TRACE: " ++ Text.upperHex 2 pc.toNat ++ " | " ++ first ++ " " ++ second ++ " " ++ third ++
    " | " ++ " ".intercalate registers

/-! ### Sums -/

theorem toNat_ofNat_of_le {n : Nat} (h : n ≤ 256) : (UInt64.ofNat n).toNat = n := by
  rw [UInt64.toNat_ofNat', Nat.mod_eq_of_lt (by omega)]

/-- A small number can be added to every address up to the end of the memory. -/
theorem sum?_small {pc : UInt64} {k : Nat} (hpc : pc.toNat ≤ 256) (hk : k ≤ 3) :
    ∃ a, sum? pc (.ofNat k) = some a ∧ a.toNat = pc.toNat + k := by
  have hsmall : (UInt64.ofNat k).toNat = k := toNat_ofNat_of_le (by omega)
  have hlt : pc.toNat + (UInt64.ofNat k).toNat < UInt64.size := by
    rw [UInt64.size]
    omega
  refine ⟨_, if_pos hlt, ?_⟩
  rw [UInt64.toNat_add, Nat.mod_eq_of_lt hlt, hsmall]

/-! ### The same results -/

theorem operand_eq (cell : Nat → Option UInt8) {pc : UInt64} {k : Nat} (hpc : pc.toNat < 256)
    (hk : k ≤ 3) :
    (operand cell pc k).run = some (match cell (pc.toNat + k) with
      | some b => .ok b
      | none => .error (.fetchOutOfRange pc.toNat)) := by
  obtain ⟨a, hsum, ha⟩ := sum?_small (Nat.le_of_lt hpc) hk
  rw [operand, hsum, ← ha]
  change (match cell a.toNat with
    | some b => pure b
    | none => throw (.fetchOutOfRange pc.toNat) : Computed UInt8).run = _
  cases cell a.toNat <;> rfl

theorem complete_eq {computed : Nat → Computed UInt8} {operand : Nat → Except Fault UInt8}
    (h : ∀ k, k ≤ 3 → (computed k).run = some (operand k)) (op : Opcode) :
    (complete computed op).run = some (Instruction.complete operand op) := by
  have h₁ := h 1 (by decide)
  have h₂ := h 2 (by decide)
  cases op with
  | ldi | cmp =>
    simp only [complete, Instruction.complete, ExceptT.run_bind, h₁, h₂]
    cases operand 1 with
    | error fault => rfl
    | ok a => cases operand 2 <;> rfl
  | prn | jmp | jeq | jne =>
    simp only [complete, Instruction.complete, ExceptT.run_bind, h₁]
    cases operand 1 <;> rfl

/-- Decoding at an address of 64 bits is never broken off. -/
theorem decode_eq (m : Memory) (pc : UInt64) :
    (decode (fun a => m[a]?) pc).run = some (ByteMachine.decode (fun a => m[a]?) pc.toNat) := by
  cases hcell : m[pc.toNat]? with
  | none =>
    simp only [decode, ByteMachine.decode, hcell]
    rfl
  | some byte =>
    have hpc : pc.toNat < 256 := (Vector.getElem?_eq_some_iff.1 hcell).1
    cases hop : Opcode.ofByte? byte with
    | none =>
      simp only [decode, ByteMachine.decode, hcell, hop]
      rfl
    | some op =>
      have hcomplete := complete_eq (fun k hk => operand_eq (fun a => m[a]?) hpc hk) op
      simp only [decode, ByteMachine.decode, hcell, hop, ExceptT.run_bind, hcomplete]
      cases Instruction.complete _ op <;> rfl

section Steps

variable {s : State}

theorem execute_eq {next : UInt64} {i : Instruction} (h : next.toNat = s.pc + i.length) :
    execute s next i = s.execute i := by
  unfold execute
  cases he : s.execute i with
  | error fault => rfl
  | ok result =>
    obtain ⟨t, text⟩ := result
    rcases (State.Executes.of_execute he).pc_eq with ⟨hj, ht⟩ | ⟨r, hr, hj, -⟩
    · simp [Except.map, hj, h, ← ht]
    · simp [Except.map, hj]

/-- A cycle is never broken off where the program counter can stand. -/
theorem step_eq (h : s.pc ≤ 256) (out : Sink) : step s out = some (s.step out) := by
  have hpc := toNat_ofNat_of_le h
  have hdecode : (decode (fun a => s.memory[a]?) (.ofNat s.pc)).run = some s.fetch := by
    rw [decode_eq, hpc]
    rfl
  unfold step State.step
  simp only [hdecode]
  cases hf : s.fetch with
  | error fault => rfl
  | ok d =>
    cases d with
    | halt byte => rfl
    | instruction i =>
      have hlength : i.length ≤ 3 := by rcases i.length_eq with hi | hi <;> omega
      obtain ⟨next, hsum, hnext⟩ := sum?_small (hpc ▸ h) hlength
      rw [hpc] at hnext
      simp only [Option.bind_eq_bind, Option.bind_some, hsum, execute_eq hnext]
      cases s.execute i with
      | error fault => rfl
      | ok result => by_cases hfits : out.fits result.2 <;> simp [hfits]

theorem shownCell_eq (m : Memory) {pc : UInt64} {k : Nat} (hpc : pc.toNat ≤ 256) (hk : k ≤ 3) :
    shownCell m pc k = some (Text.upperHex 2 (m[pc.toNat + k]?.getD 0).toNat) := by
  obtain ⟨a, hsum, ha⟩ := sum?_small hpc hk
  rw [shownCell, hsum, ← ha]
  rfl

/-- A trace line is never broken off where the program counter can stand. -/
theorem traceLine_eq (h : s.pc ≤ 256) : traceLine s = some s.traceLine := by
  have hpc := toNat_ofNat_of_le h
  have hcell {k : Nat} (hk : k ≤ 3) := shownCell_eq s.memory (hpc ▸ h) hk
  rw [traceLine, hcell (by decide : 0 ≤ 3), hcell (by decide : 1 ≤ 3),
    hcell (by decide : 2 ≤ 3), hpc]
  rfl

end Steps

end ByteMachine.Words

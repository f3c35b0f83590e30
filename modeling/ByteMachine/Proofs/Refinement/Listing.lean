import ByteMachine.Proofs.Execution.Rules

/-!
# Listings

A listing is a program as a person writes it: instructions one after another, of which the first one
stands at a given address. A machine of its own executes it by counting instructions instead of
bytes. It knows addresses only as the targets of jumps, and a jump to an address at which no
instruction begins leads it astray.
-/

namespace ByteMachine

namespace Instruction

/-- The operands that name registers. -/
def registers : Instruction → List UInt8
  | ldi r _ | prn r | jmp r | jeq r | jne r => [r]
  | cmp a b => [a, b]

def isJump : Instruction → Bool
  | jmp _ | jeq _ | jne _ => true
  | ldi .. | prn _ | cmp .. => false

theorem length_pos (i : Instruction) : 0 < i.length := by
  rw [length, Opcode.length]
  exact Nat.add_pos_left Nat.one_pos _

end Instruction

/-- Instructions one after another from an address on. -/
structure Listing where
  start : Nat
  instructions : List Instruction

namespace Listing

/-- Which instruction of a listing is the next one, and what it finds. -/
structure Config where
  index : Nat
  registers : Registers
  flags : Flags

/-- The number of instructions. -/
def size (l : Listing) : Nat := l.instructions.length

/-- The address of an instruction, and the address behind the last one. -/
def address (l : Listing) (index : Nat) : Nat :=
  l.start + ((l.instructions.take index).flatMap Instruction.encode).length

/-- The index of the instruction at an address. The address behind the last one has an index too. -/
def index? (l : Listing) (address : Nat) : Option Nat :=
  (List.range (l.size + 1)).find? (l.address · = address)

/-- Goes on to the instruction at the address in the register, if there is one. -/
def jump (l : Listing) (c : Config) (register : UInt8) : Except Fault (Option Config × String) := do
  let target ← c.registers.read register
  return ((l.index? target.toNat).map fun index => { c with index }, "")

/-- Executes an instruction: the configuration after it, unless a jump leads astray, and the text
that it prints. -/
def execute (l : Listing) (c : Config) (i : Instruction) : Except Fault (Option Config × String) :=
  let index := c.index + 1
  match i with
  | .ldi r v => do
    let registers ← c.registers.write r v
    return (some { c with index, registers }, "")
  | .prn r => do
    let value ← c.registers.read r
    return (some { c with index }, Text.decimal value.toNat ++ "\n")
  | .cmp a b => do
    let left ← c.registers.read a
    let right ← c.registers.read b
    return (some { c with index, flags := .ofOrdering (compare left right) }, "")
  | .jmp r => l.jump c r
  | .jeq r => do
    if c.flags.isEqual then l.jump c r
    else return (some { c with index }, "")
  | .jne r => do
    if c.flags.isEqual then return (some { c with index }, "")
    else l.jump c r

/-- The first steps over a listing: the configuration and the text they have come to, and how the
last one ended, which is nothing if it led astray. -/
structure Walk where
  config : Config
  text : String := ""
  status : Option Status := some .running

/-- Adds one step. Behind the last instruction it halts. -/
def next (l : Listing) (w : Walk) : Walk :=
  match l.instructions[w.config.index]? with
  | none => { w with status := some .halted }
  | some i =>
    match l.execute w.config i with
    | .error fault => { w with status := some (.faulted fault) }
    | .ok (none, _) => { w with status := none }
    | .ok (some config, text) => { config, text := w.text ++ text, status := some .running }

/-- The first `n` steps from a configuration, and none after one that does not go on. -/
def walk (l : Listing) (c : Config) : Nat → Walk
  | 0 => { config := c }
  | n + 1 =>
    let w := l.walk c n
    if w.status = some .running then l.next w else w

variable {l : Listing} {i : Instruction} {c d : Config} {j k n : Nat}

/-! ### Addresses -/

@[simp] theorem address_zero : l.address 0 = l.start := by
  simp [address]

theorem address_succ (h : l.instructions[j]? = some i) :
    l.address (j + 1) = l.address j + i.length := by
  simp only [address, List.take_add_one, h, Option.toList_some, List.flatMap_append,
    List.length_append, List.flatMap_singleton, Instruction.length_encode]
  omega

/-- The code of a listing has the encoding of each instruction at its address. -/
theorem holds_of_code {cell : Nat → Option UInt8}
    (h : Holds cell l.start (l.instructions.flatMap Instruction.encode))
    (hi : l.instructions[j]? = some i) : Holds cell (l.address j) i.encode := by
  obtain ⟨hj, rfl⟩ := List.getElem?_eq_some_iff.1 hi
  have hsplit : l.instructions.flatMap Instruction.encode =
      (l.instructions.take j).flatMap Instruction.encode ++
        (l.instructions[j].encode ++
          (l.instructions.drop (j + 1)).flatMap Instruction.encode) := by
    rw [← List.flatMap_cons, ← List.drop_eq_getElem_cons hj, ← List.flatMap_append,
      List.take_append_drop]
  rw [hsplit, holds_append, holds_append] at h
  exact h.2.1

theorem address_lt (hjk : j < k) (hk : k ≤ l.size) : l.address j < l.address k := by
  induction hjk with
  | refl =>
    rw [address_succ (List.getElem?_eq_getElem hk)]
    exact Nat.lt_add_of_pos_right (Instruction.length_pos _)
  | @step k hjk ih =>
    have hlt : l.address j < l.address k := ih (Nat.le_of_succ_le hk)
    rw [address_succ (List.getElem?_eq_getElem hk)]
    exact Nat.lt_add_right _ hlt

/-- No two instructions share an address. -/
theorem address_injective (hj : j ≤ l.size) (hk : k ≤ l.size) (h : l.address j = l.address k) :
    j = k := by
  rcases Nat.lt_trichotomy j k with hjk | rfl | hkj
  · exact absurd h (Nat.ne_of_lt (address_lt hjk hk))
  · rfl
  · exact absurd h.symm (Nat.ne_of_lt (address_lt hkj hj))

/-- The index of an address is the only one with that address. -/
theorem index?_eq_some_iff {a : Nat} : l.index? a = some j ↔ j ≤ l.size ∧ l.address j = a := by
  rw [index?, List.find?_range_eq_some]
  constructor
  · rintro ⟨ha, hj, -⟩
    exact ⟨Nat.le_of_lt_succ (List.mem_range.1 hj), by simpa using ha⟩
  · rintro ⟨hj, rfl⟩
    refine ⟨by simp, List.mem_range.2 (Nat.lt_succ_of_le hj), ?_⟩
    intro k hkj
    have hne : l.address k ≠ l.address j := by
      intro h
      exact Nat.ne_of_lt hkj (address_injective (Nat.le_trans (Nat.le_of_lt hkj) hj) hj h)
    simpa using hne

/-! ### Steps -/

theorem jump_eq_error {r : UInt8} {fault : Fault} (h : l.jump c r = .error fault) :
    8 ≤ r.toNat ∧ fault = .registerOutOfRange r := by
  simpa only [jump, bind_eq_error, Registers.read_eq_error, pure_eq_ok, reduceCtorEq, and_false,
    exists_false, or_false] using h

/-- The only fault is to name a register that does not exist. -/
theorem execute_eq_error {fault : Fault} (h : l.execute c i = .error fault) :
    ∃ r ∈ i.registers, 8 ≤ r.toNat ∧ fault = .registerOutOfRange r := by
  cases i with
  | ldi r v =>
    simp only [execute, bind_eq_error, Registers.write_eq_error, pure_eq_ok, reduceCtorEq,
      and_false, exists_false, or_false] at h
    exact ⟨r, List.mem_singleton.2 rfl, h⟩
  | prn r =>
    simp only [execute, bind_eq_error, Registers.read_eq_error, pure_eq_ok, reduceCtorEq, and_false,
      exists_false, or_false] at h
    exact ⟨r, List.mem_singleton.2 rfl, h⟩
  | cmp a b =>
    simp only [execute, bind_eq_error, Registers.read_eq_error, pure_eq_ok, reduceCtorEq, and_false,
      exists_false, or_false] at h
    rcases h with h | ⟨x, -, h⟩
    · exact ⟨a, by simp [Instruction.registers], h⟩
    · exact ⟨b, by simp [Instruction.registers], h⟩
  | jmp r => exact ⟨r, List.mem_singleton.2 rfl, jump_eq_error h⟩
  | jeq r =>
    cases hf : c.flags.isEqual with
    | true => exact ⟨r, List.mem_singleton.2 rfl, jump_eq_error (by simpa [execute, hf] using h)⟩
    | false => simp [execute, hf] at h
  | jne r =>
    cases hf : c.flags.isEqual with
    | true => simp [execute, hf] at h
    | false => exact ⟨r, List.mem_singleton.2 rfl, jump_eq_error (by simpa [execute, hf] using h)⟩

theorem execute_of_not_jump (hi : i.isJump = false) {o : Option Config} {text : String}
    (h : l.execute c i = .ok (o, text)) : ∃ d, o = some d ∧ d.index = c.index + 1 := by
  cases i with
  | ldi r v =>
    simp only [execute, bind_eq_ok, pure_eq_ok, Except.ok.injEq, Prod.mk.injEq] at h
    obtain ⟨_, -, rfl, -⟩ := h
    exact ⟨_, rfl, rfl⟩
  | prn r =>
    simp only [execute, bind_eq_ok, pure_eq_ok, Except.ok.injEq, Prod.mk.injEq] at h
    obtain ⟨_, -, rfl, -⟩ := h
    exact ⟨_, rfl, rfl⟩
  | cmp a b =>
    simp only [execute, bind_eq_ok, pure_eq_ok, Except.ok.injEq, Prod.mk.injEq] at h
    obtain ⟨_, -, _, -, rfl, -⟩ := h
    exact ⟨_, rfl, rfl⟩
  | jmp r | jeq r | jne r => cases hi

/-- What a step can do. -/
inductive Steps (l : Listing) (w : Walk) : Walk → Prop where
  | halt (hw : l.size ≤ w.config.index) : Steps l w { w with status := some .halted }
  | fault {i : Instruction} {r : UInt8} (hi : l.instructions[w.config.index]? = some i)
      (hr : r ∈ i.registers) (hlarge : 8 ≤ r.toNat) :
      Steps l w { w with status := some (.faulted (.registerOutOfRange r)) }
  | astray {i : Instruction} (hi : l.instructions[w.config.index]? = some i)
      (hjump : i.isJump = true) : Steps l w { w with status := none }
  | go {i : Instruction} {d : Config} (text : String)
      (hi : l.instructions[w.config.index]? = some i)
      (hd : i.isJump = true ∨ d.index = w.config.index + 1) :
      Steps l w { config := d, text := w.text ++ text }

theorem steps_next (l : Listing) (w : Walk) : l.Steps w (l.next w) := by
  rw [next]
  cases hi : l.instructions[w.config.index]? with
  | none => exact .halt (List.getElem?_eq_none_iff.1 hi)
  | some i =>
    cases hx : l.execute w.config i with
    | error fault =>
      obtain ⟨r, hr, hlarge, rfl⟩ := execute_eq_error hx
      simpa only [hx] using .fault hi hr hlarge
    | ok result =>
      obtain ⟨o, text⟩ := result
      cases hjump : i.isJump with
      | true =>
        cases o with
        | none => simpa only [hx] using .astray hi hjump
        | some d => simpa only [hx] using .go text hi (.inl hjump)
      | false =>
        obtain ⟨d, rfl, hd⟩ := execute_of_not_jump hjump hx
        simpa only [hx] using .go text hi (.inr hd)

/-! ### Walks -/

theorem walk_succ_of_running (h : (l.walk c n).status = some .running) :
    l.walk c (n + 1) = l.next (l.walk c n) :=
  if_pos h

theorem walk_succ_of_ended (h : (l.walk c n).status ≠ some .running) :
    l.walk c (n + 1) = l.walk c n :=
  if_neg h

theorem walk_fault {fault : Fault} (h : (l.walk c n).status = some (.faulted fault)) :
    ∃ r, 8 ≤ r.toNat ∧ fault = .registerOutOfRange r := by
  induction n with
  | zero => cases h
  | succ n ih =>
    by_cases hw : (l.walk c n).status = some .running
    · rw [walk_succ_of_running hw] at h
      have hstep := l.steps_next (l.walk c n)
      generalize l.next (l.walk c n) = w at h hstep
      cases hstep with
      | fault hi hr hlarge =>
        cases h
        exact ⟨_, hlarge, rfl⟩
      | halt | astray | go => cases h
    · rw [walk_succ_of_ended hw] at h
      exact ih h

section Straight

variable (hjump : ∀ i ∈ l.instructions, i.isJump = false)
include hjump

/-- Without jumps the walk goes from one instruction to the next and never astray. -/
theorem walk_straight (n : Nat) : (l.walk c n).status ≠ none ∧
    ((l.walk c n).status = some .running → (l.walk c n).config.index = c.index + n) := by
  induction n with
  | zero => exact ⟨by simp [walk], fun _ => rfl⟩
  | succ n ih =>
    obtain ⟨hstray, hindex⟩ := ih
    by_cases hw : (l.walk c n).status = some .running
    · rw [walk_succ_of_running hw]
      have hstep := l.steps_next (l.walk c n)
      generalize l.next (l.walk c n) = w at hstep
      cases hstep with
      | halt | fault => exact ⟨by simp, by simp⟩
      | astray hi hi' => simp [hjump _ (List.mem_of_getElem? hi)] at hi'
      | go text hi hd =>
        rw [hjump _ (List.mem_of_getElem? hi), hindex hw] at hd
        exact ⟨by simp, fun _ => hd.resolve_left (by simp)⟩
    · rw [walk_succ_of_ended hw]
      exact ⟨hstray, fun h => absurd h hw⟩

variable (hregisters : ∀ i ∈ l.instructions, ∀ r ∈ i.registers, r.toNat < 8)
include hregisters

theorem walk_running (hn : c.index + n ≤ l.size) : (l.walk c n).status = some .running := by
  induction n with
  | zero => rfl
  | succ n ih =>
    have hw := ih (Nat.le_of_succ_le hn)
    have hindex := (walk_straight hjump n).2 hw
    rw [walk_succ_of_running hw]
    have hstep := l.steps_next (l.walk c n)
    generalize l.next (l.walk c n) = w at hstep
    cases hstep with
    | halt hend => omega
    | fault hi hr hlarge =>
      exact absurd (hregisters _ (List.mem_of_getElem? hi) _ hr) (Nat.not_lt.2 hlarge)
    | astray hi hi' => simp [hjump _ (List.mem_of_getElem? hi)] at hi'
    | go => rfl

/-- Without jumps and without registers that do not exist, the walk ends behind the last
instruction. -/
theorem walk_end (hc : c.index = 0) : (l.walk c (l.size + 1)).status = some .halted ∧
    (l.walk c (l.size + 1)).config.index = l.size := by
  have hw := walk_running hjump hregisters (show c.index + l.size ≤ l.size by omega)
  have hindex := (walk_straight hjump l.size).2 hw
  rw [hc, Nat.zero_add] at hindex
  have hnone : l.instructions[(l.walk c l.size).config.index]? = none :=
    List.getElem?_eq_none_iff.2 (Nat.le_of_eq hindex.symm)
  rw [walk_succ_of_running hw, next, hnone]
  exact ⟨rfl, hindex⟩

end Straight

end Listing

end ByteMachine

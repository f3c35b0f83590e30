import ByteMachine.Proofs.Execution.Faults
import ByteMachine.Proofs.Refinement.Listing

/-!
# Assembling and decoding

A listing is assembled by writing the encodings of its instructions into memory, one after another.
Decoding goes the other way: it is repeated from address to address, each time behind the
instruction found before. The one undoes the other, although instructions differ in length.
-/

namespace ByteMachine

/-! ### Bytes in memory -/

/-- Writes the bytes into the cells from an address on. -/
def Memory.writeAll (m : Memory) (address : Nat) : List UInt8 → Except Fault Memory
  | [] => .ok m
  | b :: bs => do (← m.write address b).writeAll (address + 1) bs

section Bytes

variable {m : Memory} {a : Nat} {bytes : List UInt8}

theorem holds_getElem?_iff {cells : List UInt8} :
    Holds (fun k => cells[k]?) a bytes ↔ bytes <+: cells.drop a := by
  induction bytes generalizing a with
  | nil => simp
  | cons b bytes ih =>
    rw [holds_cons, ih]
    by_cases ha : a < cells.length
    · rw [List.drop_eq_getElem_cons ha, List.cons_prefix_cons, List.getElem?_eq_getElem ha,
        Option.some.injEq, eq_comm]
    · rw [Nat.not_lt] at ha
      simp [List.getElem?_eq_none ha, List.drop_eq_nil_of_le ha]

theorem Memory.holds_iff : Holds (fun k => m[k]?) a bytes ↔ bytes <+: m.toList.drop a := by
  simp only [← holds_getElem?_iff, Vector.getElem?_toList]

/-- Bytes for which there are cells are written into them, and into no others. -/
theorem Memory.exists_writeAll (h : a + bytes.length ≤ 256) : ∃ m', m.writeAll a bytes = .ok m' ∧
    Holds (fun k => m'[k]?) a bytes ∧
      ∀ k, k < a ∨ a + bytes.length ≤ k → m'[k]? = m[k]? := by
  induction bytes generalizing m a with
  | nil => exact ⟨m, rfl, holds_nil, fun _ _ => rfl⟩
  | cons b bytes ih =>
    rw [List.length_cons] at h
    have ha : a < 256 := by omega
    obtain ⟨m', hm', hholds, hothers⟩ := @ih (m.set a b ha) (a + 1) (by omega)
    refine ⟨m', ?_, ⟨?_, hholds⟩, fun k hk => ?_⟩
    · rw [writeAll, write_of_lt m ha, ok_bind, hm']
    · change m'[a]? = some b
      rw [hothers a (.inl (Nat.lt_succ_self a)), Vector.getElem?_set_self]
    · rw [List.length_cons] at hk
      have hne : a ≠ k := by omega
      rw [hothers k (by omega), Vector.getElem?_set_ne ha hne]

end Bytes

/-! ### Decoding again and again -/

/-- The first `n` instructions that are found from an address on, each one behind the one before and
together with its address. -/
def sweep (cell : Nat → Option UInt8) : Nat → Nat → List (Nat × Instruction)
  | 0, _ => []
  | n + 1, pc =>
    match decode cell pc with
    | .ok (.instruction i) => (pc, i) :: sweep cell n (pc + i.length)
    | _ => []

namespace Listing

/-- The instructions with their addresses. -/
def entries (l : Listing) : List (Nat × Instruction) :=
  l.instructions.mapIdx fun j i => (l.address j, i)

variable {cell : Nat → Option UInt8} {l : Listing} {is js : List Instruction} {a n pc : Nat}

theorem map_snd_entries (l : Listing) : l.entries.map Prod.snd = l.instructions := by
  apply List.ext_getElem
  · simp [entries]
  · simp [entries]

theorem entries_cons (a : Nat) (i : Instruction) (is : List Instruction) :
    (⟨a, i :: is⟩ : Listing).entries = (a, i) :: (⟨a + i.length, is⟩ : Listing).entries := by
  have haddress (j : Nat) :
      (⟨a, i :: is⟩ : Listing).address (j + 1) = (⟨a + i.length, is⟩ : Listing).address j := by
    simp [address, Nat.add_assoc]
  simp only [entries, List.mapIdx_cons, address_zero, haddress]

/-- Where the cells hold the encodings of some instructions, decoding finds these instructions
before anything else. -/
theorem sweep_of_holds (h : Holds cell a (is.flatMap Instruction.encode)) (n : Nat) :
    sweep cell (is.length + n) a = (⟨a, is⟩ : Listing).entries ++
      sweep cell n (a + (is.flatMap Instruction.encode).length) := by
  induction is generalizing a with
  | nil => simp [entries]
  | cons i is ih =>
    rw [List.flatMap_cons, holds_append, Instruction.length_encode] at h
    obtain ⟨hi, hrest⟩ := h
    rw [List.length_cons, Nat.succ_add, sweep, decode_of_holds hi, entries_cons, List.flatMap_cons,
      List.length_append, Instruction.length_encode, ← Nat.add_assoc, List.cons_append, ← ih hrest]

theorem sweep_of_none (h : cell pc = none) (n : Nat) : sweep cell n pc = [] := by
  cases n with
  | zero => rfl
  | succ n => rw [sweep, decode_of_none h]

/-- Instructions with the same encoding are the same. -/
theorem flatMap_encode_injective
    (h : is.flatMap Instruction.encode = js.flatMap Instruction.encode) : is = js := by
  let bytes := is.flatMap Instruction.encode
  -- nothing is decoded behind the last byte, so a sweep that is long enough for both finds no more
  -- than the instructions of each
  have hsweep {ks : List Instruction} (hks : ks.flatMap Instruction.encode = bytes) (n : Nat) :
      sweep (fun k => bytes[k]?) (ks.length + n) 0 = (⟨0, ks⟩ : Listing).entries := by
    have hholds : Holds (fun k => bytes[k]?) 0 (ks.flatMap Instruction.encode) := by
      rw [holds_getElem?_iff, hks]
      exact List.prefix_refl bytes
    have hend : bytes[0 + (ks.flatMap Instruction.encode).length]? = none := by
      rw [hks, Nat.zero_add]
      exact List.getElem?_eq_none (Nat.le_refl _)
    rw [sweep_of_holds hholds, sweep_of_none hend, List.append_nil]
  have hentries : (⟨0, is⟩ : Listing).entries = (⟨0, js⟩ : Listing).entries := by
    rw [← hsweep rfl js.length, ← hsweep h.symm is.length, Nat.add_comm]
  have hmap := congrArg (List.map Prod.snd) hentries
  rwa [map_snd_entries, map_snd_entries] at hmap

/-! ### There and back -/

/-- The instructions of a listing for which there are cells can be written into every memory. Each
one is then decoded at its address, and decoding again and again comes to these addresses and no
others before it comes behind the last instruction, so the encoding determines the instructions.
Conversely, an instruction is decoded exactly where its opcode and its operands lie in memory, and a
byte that stops the machine exactly where there is one that is no opcode. -/
theorem assembled_and_decoded :
    (∀ (l : Listing) (s : State), l.address l.size ≤ 256 →
      ∃ m, s.memory.writeAll l.start (l.instructions.flatMap Instruction.encode) = .ok m ∧
        (∀ k, k < l.start ∨ l.address l.size ≤ k → m[k]? = s.memory[k]?) ∧
        (∀ j i, l.instructions[j]? = some i →
          State.decodeAt { s with memory := m } (l.address j) = .ok (.instruction i)) ∧
        ∀ n, sweep (fun k => m[k]?) (l.size + n) l.start =
          l.entries ++ sweep (fun k => m[k]?) n (l.address l.size)) ∧
    (∀ is js : List Instruction,
      is.flatMap Instruction.encode = js.flatMap Instruction.encode → is = js) ∧
    ∀ (s : State) (pc : Nat),
      (∀ i, s.decodeAt pc = .ok (.instruction i) ↔
        pc + i.length ≤ 256 ∧ i.opcode.byte :: i.operands <+: s.memory.toList.drop pc) ∧
      ∀ b, s.decodeAt pc = .ok (.halt b) ↔
        s.memory[pc]? = some b ∧ ∀ op : Opcode, op.byte ≠ b := by
  refine ⟨fun l s hl => ?_, fun is js => flatMap_encode_injective, fun s pc => ⟨?_, ?_⟩⟩
  · rw [address, size, List.take_length] at hl ⊢
    obtain ⟨m, hm, hholds, hothers⟩ := Memory.exists_writeAll (m := s.memory) hl
    refine ⟨m, hm, hothers, fun j i hi => ?_, sweep_of_holds hholds⟩
    exact decode_of_holds (holds_of_code hholds hi)
  · intro i
    rw [State.decodeAt, decode_eq_instruction_iff, Memory.holds_iff]
    refine ⟨fun h => ⟨?_, h⟩, fun h => h.2⟩
    have hle := h.length_le
    have hpos := i.length_pos
    rw [List.length_drop, Vector.length_toList, Instruction.length_encode] at hle
    omega
  · intro b
    rw [State.decodeAt, decode_eq_halt_iff, Opcode.ofByte?_eq_none_iff]

theorem assembled_and_decoded_of_last_cells :
    let l : Listing := ⟨251, [.prn 7, .ldi 1 2]⟩
    let s : State := { memory := Vector.replicate 256 71 }
    l.address l.size ≤ 256 ∧ ∃ m, s.memory.writeAll 251 [71, 7, 130, 1, 2] = .ok m ∧
      m[250]? = some 71 ∧
        State.decodeAt { s with memory := m } 253 = .ok (.instruction (.ldi 1 2)) ∧
        sweep (fun k => m[k]?) 2 251 = [(251, .prn 7), (253, .ldi 1 2)] := by
  intro l s
  have hl : l.address l.size ≤ 256 := by decide
  obtain ⟨m, hm, hothers, hdecoded, hsweep⟩ := assembled_and_decoded.1 l s hl
  refine ⟨hl, m, hm, ?_, hdecoded 1 _ rfl, (hsweep 0).trans (List.append_nil _)⟩
  exact (hothers 250 (.inl (by decide))).trans (by decide +kernel)

end Listing

end ByteMachine

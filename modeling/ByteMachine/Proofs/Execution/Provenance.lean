import Mathlib.Data.Fintype.BigOperators
import ByteMachine.Proofs.Execution.Counter
import ByteMachine.Proofs.Execution.Course

/-!
# Where the values of registers come from

A register keeps its value until a load for it is executed, and the value of a load is a byte of the
memory, which never changes. So each register only ever holds one of a few bytes that are known
before the run: its value at the start, and one byte for each place where a load for it stands. No
other numbers are printed, and no other addresses are jumped to.
-/

namespace ByteMachine

/-! ### Provided values -/

namespace Machine

/-- The machine after some cycles, each one onto an output of its own. An output that the cycles
share is the case in which each of them is given what the one before has left. -/
def afterCycles (m : Machine) (outs : ℕ → Sink) : ℕ → Machine
  | 0 => m
  | n + 1 => ((m.afterCycles outs n).step (outs n)).machine

/-- The values that a register can hold after some cycles: the one that it holds at the start, and
the last byte of each load for it that was executed in one of the cycles. -/
inductive Provides (m : Machine) (outs : ℕ → Sink) (n : ℕ) (r : UInt8) : UInt8 → Prop where
  | start {v : UInt8} (hv : m.state.registers[r.toNat]? = some v) : Provides m outs n r v
  | load {k p : ℕ} {v : UInt8} (hk : k < n) (hpc : (m.afterCycles outs k).state.pc = p)
      (hrunning : ((m.afterCycles outs k).step (outs k)).status = .running) (hp : p ≤ 253)
      (hopcode : m.state.memory[p]? = some Opcode.ldi.byte)
      (hregister : m.state.memory[p + 1]? = some r)
      (hvalue : m.state.memory[p + 2]? = some v) : Provides m outs n r v

variable {m : Machine} {outs : ℕ → Sink} {n : ℕ} {r v : UInt8}

theorem memory_afterCycles (m : Machine) (outs : ℕ → Sink) (n : ℕ) :
    (m.afterCycles outs n).state.memory = m.state.memory := by
  induction n with
  | zero => rfl
  | succ n ih => rw [afterCycles, state_step, State.memory_step, ih]

theorem Provides.succ (h : m.Provides outs n r v) : m.Provides outs (n + 1) r v := by
  cases h with
  | start hv => exact .start hv
  | load hk hpc hrunning hp hopcode hregister hvalue =>
    exact .load (Nat.lt_succ_of_lt hk) hpc hrunning hp hopcode hregister hvalue

/-- A load that is executed provides its register with the last of its bytes. -/
theorem provides_of_load (hf : (m.afterCycles outs n).state.fetch = .ok (.instruction (.ldi r v)))
    (hrunning : ((m.afterCycles outs n).step (outs n)).status = .running) :
    m.Provides outs (n + 1) r v := by
  have hend : (m.afterCycles outs n).state.pc + 3 ≤ 256 := State.pc_add_length_le hf
  obtain ⟨hopcode, hregister, hvalue, -⟩ := State.fetch_eq_instruction_iff.1 hf
  rw [memory_afterCycles] at hopcode hregister hvalue
  exact .load (Nat.lt_succ_self n) rfl hrunning (by omega) hopcode hregister hvalue

/-- A register holds a value that the cycles before have provided it with. -/
theorem provides_of_register (h : (m.afterCycles outs n).state.registers[r.toNat]? = some v) :
    m.Provides outs n r v := by
  induction n generalizing v with
  | zero => exact .start h
  | succ n ih =>
    rw [afterCycles, state_step] at h
    by_cases hrunning : ((m.afterCycles outs n).state.step (outs n)).status = .running
    · obtain ⟨i, text, hf, he, -, -⟩ := State.executes_of_running hrunning
      obtain ⟨hr, rfl⟩ := Vector.getElem?_eq_some_iff.1 h
      rcases he.register_eq r.toNat hr with hkept | hload
      · rw [hkept]
        exact (ih (Vector.getElem?_eq_getElem hr)).succ
      · rw [UInt8.ofNat_toNat] at hload
        exact provides_of_load (hload ▸ hf) hrunning
    · rw [State.state_of_not_running hrunning] at h
      exact (ih h).succ

/-- What is printed is a value that the printed register was provided with. -/
theorem provides_of_printed (m : Machine) (outs : ℕ → Sink) (n : ℕ) :
    let s := (m.afterCycles outs n).state
    s.printed = "" ∨ ∃ r v, s.fetch = .ok (.instruction (.prn r)) ∧ m.Provides outs n r v ∧
      s.printed = Text.decimal v.toNat ++ "\n" := by
  refine (State.printed_cases _).imp_right ?_
  rintro ⟨r, v, hf, hv, hline⟩
  exact ⟨r, v, hf, provides_of_register hv, hline⟩

/-- An instruction leads to the address behind it, or it jumps to a value that its register was
provided with. -/
theorem provides_of_executes {t : State} {i : Instruction} {text : String}
    (he : (m.afterCycles outs n).state.Executes i t text) :
    let s := (m.afterCycles outs n).state
    s.jumpRegister i = none ∧ t.pc = s.pc + i.length ∨
      ∃ r v, s.jumpRegister i = some r ∧ m.Provides outs n r v ∧ t.pc = v.toNat := by
  refine he.pc_eq.imp_right ?_
  rintro ⟨r, hr, hj, ht⟩
  exact ⟨r, _, hj, provides_of_register (Vector.getElem?_eq_getElem hr), ht⟩

/-- After any cycles, whatever their outputs take, each register holds a value that it was provided
with. If the next cycle puts anything out, that is such a value of the register that it prints. If
it completes an instruction, then it leads to the address behind the instruction or jumps to such a
value of the register that it jumps through, and otherwise it stays where it is. -/
theorem values_are_provided (m : Machine) (outs : ℕ → Sink) (n : ℕ) :
    let s := (m.afterCycles outs n).state
    let cycle := (m.afterCycles outs n).step (outs n)
    (∀ r v, s.registers[r.toNat]? = some v → m.Provides outs n r v) ∧
    (cycle.out = outs n ∨ ∃ r v, s.fetch = .ok (.instruction (.prn r)) ∧ m.Provides outs n r v ∧
      cycle.out = (outs n).write (Text.decimal v.toNat ++ "\n")) ∧
    (cycle.status = .running ∧
        (∃ i, s.fetch = .ok (.instruction i) ∧
          (s.jumpRegister i = none ∧ cycle.machine.state.pc = s.pc + i.length ∨
            ∃ r v, s.jumpRegister i = some r ∧ m.Provides outs n r v ∧
              cycle.machine.state.pc = v.toNat)) ∨
      cycle.status ≠ .running ∧ cycle.machine.state.pc = s.pc) := by
  intro s cycle
  have hout : cycle.out = (outs n).write s.printed := State.out_step s (outs n)
  refine ⟨fun r v => provides_of_register, ?_, ?_⟩
  · rcases m.provides_of_printed outs n with hsilent | ⟨r, v, hf, hv, hline⟩
    · rw [hout, hsilent, Sink.write_empty]
      exact .inl rfl
    · rw [hout, hline]
      exact .inr ⟨r, v, hf, hv, rfl⟩
  · by_cases hrunning : cycle.status = .running
    · obtain ⟨i, text, hf, he, -, -⟩ := State.executes_of_running hrunning
      exact .inl ⟨hrunning, i, hf, provides_of_executes he⟩
    · exact .inr ⟨hrunning, congrArg State.pc (State.state_of_not_running hrunning)⟩

end Machine

/-- The cycles of a run share the output of the run. -/
theorem Run.machine_iterate (r : Run) (n : ℕ) :
    (next^[n] r).machine = r.machine.afterCycles (fun k => (next^[k] r).out) n := by
  induction n with
  | zero => rfl
  | succ n ih =>
    rw [Function.iterate_succ_apply', Machine.afterCycles, ← ih]
    rfl

theorem Run.exists_afterCycles (r : Run) (n : ℕ) :
    ∃ outs k, (advance n r).state = (r.machine.afterCycles outs k).state := by
  obtain ⟨k, -, hk⟩ := advance_eq_iterate n r
  refine ⟨fun j => (next^[j] r).out, k, ?_⟩
  rw [hk r rfl, ← machine_iterate]
  rfl

/-! ### The places of loads -/

/-- The addresses at which a load for the register stands. -/
def Memory.loadSites (m : Memory) (k : Nat) : Finset Nat :=
  {a ∈ Finset.range 254 | m[a]? = some Opcode.ldi.byte ∧ m[a + 1]? = some (.ofNat k)}

/-- The bytes that a register can come to hold. -/
def State.candidates (s : State) (k : Fin 8) : Finset UInt8 :=
  insert s.registers[k] ((s.memory.loadSites k).image fun a => s.memory[a + 2]?.getD 0)

theorem Registers.toNat_ofNat (k : Fin 8) : (UInt8.ofNat k).toNat = k :=
  UInt8.toNat_ofNat_of_lt' (k.isLt.trans (by decide))

theorem Registers.getElem?_toNat_ofNat (rs : Registers) (k : Fin 8) :
    rs[(UInt8.ofNat k).toNat]? = some rs[k] := by
  rw [toNat_ofNat]
  exact Vector.getElem?_eq_getElem k.isLt

theorem Machine.Provides.mem_candidates {m : Machine} {outs : ℕ → Sink} {n : ℕ} {v : UInt8}
    {k : Fin 8} (h : m.Provides outs n (.ofNat k) v) : v ∈ m.state.candidates k := by
  rw [State.candidates, Finset.mem_insert, Finset.mem_image]
  cases h with
  | start hv =>
    rw [Registers.getElem?_toNat_ofNat] at hv
    exact .inl (Option.some.inj hv).symm
  | @load _ p _ _ _ _ hp hopcode hregister hvalue =>
    have hsite : p ∈ m.state.memory.loadSites k :=
      Finset.mem_filter.2 ⟨Finset.mem_range.2 (Nat.lt_succ_of_le hp), hopcode, hregister⟩
    exact .inr ⟨p, hsite, by rw [hvalue, Option.getD_some]⟩

theorem Run.register_mem_candidates (r : Run) (n : Nat) (k : Fin 8) :
    (advance n r).state.registers[k] ∈ r.state.candidates k := by
  obtain ⟨outs, j, hstate⟩ := exists_afterCycles r n
  rw [hstate]
  exact (Machine.provides_of_register (Registers.getElem?_toNat_ofNat _ k)).mem_candidates

theorem State.card_candidates_le (s : State) (k : Fin 8) :
    (s.candidates k).card ≤ (s.memory.loadSites k).card + 1 :=
  (Finset.card_insert_le _ _).trans (Nat.succ_le_succ Finset.card_image_le)

/-- Loads for different registers stand at different places. -/
theorem Memory.sum_card_loadSites_le (m : Memory) :
    ∑ k : Fin 8, (m.loadSites k).card ≤ 254 := by
  have hdisjoint : ((Finset.univ : Finset (Fin 8)) : Set (Fin 8)).PairwiseDisjoint
      fun k : Fin 8 => m.loadSites k := by
    intro j _ k _ hjk
    rw [Function.onFun, Finset.disjoint_left]
    intro a hj hk
    obtain ⟨-, -, hj⟩ := Finset.mem_filter.1 hj
    obtain ⟨-, -, hk⟩ := Finset.mem_filter.1 hk
    have hbytes : UInt8.ofNat j = UInt8.ofNat k := Option.some.inj (hj.symm.trans hk)
    have hnats := congrArg UInt8.toNat hbytes
    rw [Registers.toNat_ofNat, Registers.toNat_ofNat] at hnats
    exact hjk (Fin.ext hnats)
  rw [← Finset.card_biUnion hdisjoint]
  calc (Finset.univ.biUnion fun k : Fin 8 => m.loadSites k).card
      ≤ (Finset.range 254).card :=
        Finset.card_le_card (Finset.biUnion_subset.2 fun _ _ => Finset.filter_subset _ _)
    _ = 254 := Finset.card_range 254

end ByteMachine

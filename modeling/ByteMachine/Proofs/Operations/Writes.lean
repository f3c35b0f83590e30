import ByteMachine.Proofs.Operations.EndOfMemory

/-!
# The last write

Each part of a machine is what was last written there. A cell holds the byte that the last load or
write from outside put into it, and no instruction ever writes one. A register holds the byte that
it was last given, from outside or by an instruction. The program counter is where it was last set,
or where the last completed instruction led. What nothing has written yet is 0.
-/

namespace ByteMachine

/-! ### What events write -/

namespace Event

/-- The byte that an event puts into the cell at an address. -/
def stored? (address : Nat) : Event → Option UInt8
  | performed (.load bytes) => bytes[address]?
  | performed (.writeCell a value) => if a = address then some value else none
  | _ => none

/-- The byte that an event puts into a register. -/
def assigned? (index : Nat) : Event → Option UInt8
  | performed (.writeRegister r value) => if r.toNat = index then some value else none
  | completed _ (.ldi r value) => if r.toNat = index then some value else none
  | _ => none

/-- The address to which an event takes the program counter. -/
def placed? : Event → Option Nat
  | performed (.setPc pc) => some pc.toNat
  | completed s i =>
    match s.execute i with
    | .ok (t, _) => some t.pc
    | .error _ => none
  | _ => none

/-- An event takes a state to another one in which it has written what it writes, and in which the
other cells and registers, and the program counter if it is not written, are as they were. -/
structure Writes (e : Event) (s t : State) : Prop where
  cell : ∀ (a : Nat) (h : a < 256), t.memory[a] = (e.stored? a).getD s.memory[a]
  register : ∀ (k : Nat) (h : k < 8), t.registers[k] = (e.assigned? k).getD s.registers[k]
  pc : t.pc = e.placed?.getD s.pc

variable {s t : State} {i : Instruction} {text : String}

theorem assigned?_of_not_load (hi : ∀ r v, i ≠ .ldi r v) (k : Nat) :
    (completed s i).assigned? k = none := by
  cases i with
  | ldi r v => exact absurd rfl (hi r v)
  | prn r | cmp a b | jmp r | jeq r | jne r => rfl

/-- A completed instruction leads the program counter somewhere, gives a register a byte if it is a
load, and writes nothing else but the flags. -/
theorem writes_completed (he : s.Executes i t text) : (completed s i).Writes s t where
  cell a h := by simp only [he.memory_eq, stored?, Option.getD_none]
  register k h := by
    cases he with
    | @load r v hr =>
      by_cases hrk : r.toNat = k
      · subst hrk
        simp [assigned?]
      · simp [assigned?, hrk]
    | print hr | compare ha hb => rfl
    | jump hj hr =>
      rw [assigned?_of_not_load]
      · rfl
      · rintro r v rfl
        simp [State.jumpRegister] at hj
    | pass hi hj =>
      rw [assigned?_of_not_load]
      · rfl
      · rintro r v rfl
        simp [Instruction.opcode] at hi
  pc := by simp only [placed?, State.execute_eq_ok_iff.2 he, Option.getD_some]

end Event

namespace Machine

variable {m : Machine} {op : Operation}

theorem exists_of_update {result : Except Fault State}
    (h : ∀ fault, (m.update result).1 ≠ .failed fault) :
    ∃ s, result = .ok s ∧ (m.update result).2.state = s := by
  cases result with
  | error fault => exact absurd rfl (h fault)
  | ok s => exact ⟨s, rfl, rfl⟩

/-- An operation from outside that succeeds writes what it is to write and nothing else. -/
theorem writes_performed (hrenew : op ≠ .renew) (hop : ¬ op.MakesCycles)
    (hok : ∀ fault, (m.perform op).1 ≠ .failed fault) :
    (Event.performed op).Writes m.state (m.perform op).2.state := by
  cases op with
  | renew => exact absurd rfl hrenew
  | advance n out | run out => exact absurd trivial hop
  | setPc pc | readCell address | readRegister index | decodeAt pc | attach tracer =>
    exact ⟨fun _ _ => rfl, fun _ _ => rfl, rfl⟩
  | load bytes =>
    obtain ⟨s, hs, hstate⟩ := exists_of_update hok
    obtain ⟨memory, hload, hs⟩ := bind_eq_ok.1 hs
    obtain ⟨-, rfl⟩ := Memory.load_eq_ok.1 hload
    cases hs
    rw [perform, hstate]
    exact ⟨fun a h => Memory.getElem_overwrite _ bytes a h, fun _ _ => rfl, rfl⟩
  | writeCell address value =>
    obtain ⟨s, hs, hstate⟩ := exists_of_update hok
    obtain ⟨memory, hwrite, hs⟩ := bind_eq_ok.1 hs
    obtain ⟨haddress, rfl⟩ := Memory.write_eq_ok.1 hwrite
    cases hs
    rw [perform, hstate]
    refine ⟨fun a h => ?_, fun _ _ => rfl, rfl⟩
    simp only [Vector.getElem_set, Event.stored?]
    split_ifs <;> rfl
  | writeRegister index value =>
    obtain ⟨s, hs, hstate⟩ := exists_of_update hok
    obtain ⟨registers, hwrite, hs⟩ := bind_eq_ok.1 hs
    obtain ⟨hindex, rfl⟩ := Registers.write_eq_ok.1 hwrite
    cases hs
    rw [perform, hstate]
    refine ⟨fun _ _ => rfl, fun k h => ?_, rfl⟩
    simp only [Vector.getElem_set, Event.assigned?]
    split_ifs <;> rfl

end Machine

/-! ### Histories -/

/-- Each part of the state is what the last of the events that write it has left there. -/
structure State.LastWritten (s : State) (events : List Event) : Prop where
  cell : ∀ (a : Nat) (h : a < 256),
    s.memory[a] = (Event.last? (Event.stored? a) events).getD 0
  register : ∀ (k : Nat) (h : k < 8),
    s.registers[k] = (Event.last? (Event.assigned? k) events).getD 0
  pc : s.pc = (Event.last? Event.placed? events).getD 0

namespace State.LastWritten

variable {s t : State} {e : Event} {events : List Event}

theorem initial : State.LastWritten {} [] :=
  ⟨fun _ h => Memory.getElem_blank h, fun _ h => Registers.getElem_blank h, rfl⟩

theorem concat (h : s.LastWritten events) (he : e.Writes s t) : t.LastWritten (events ++ [e]) where
  cell a ha := by rw [he.cell a ha, h.cell a ha, Event.last?_concat, Option.getD_or]
  register k hk := by rw [he.register k hk, h.register k hk, Event.last?_concat, Option.getD_or]
  pc := by rw [he.pc, h.pc, Event.last?_concat, Option.getD_or]

end State.LastWritten

namespace Chronicle

theorem lastWritten (history : List Operation) :
    (ofHistory history).machine.state.LastWritten (ofHistory history).events := by
  apply Chronicle.induction (P := State.LastWritten)
  · exact .initial
  · intro m op events hrenew hop hok h
    exact h.concat (Machine.writes_performed hrenew hop hok)
  · intro s t i text events _ he h
    exact h.concat (Event.writes_completed he)

theorem perform_of_failed {c : Chronicle} {op : Operation} {fault : Fault}
    (h : (c.machine.perform op).1 = .failed fault) : c.perform op = c := by
  have hmachine : (c.perform op).machine = c.machine := Machine.perform_of_failed h
  have hevents : (c.perform op).events = c.events := by
    cases op with
    | renew | setPc pc | attach tracer => simp [Machine.perform] at h
    | advance n out | run out => simp [Machine.perform, Machine.perform.ended] at h
    | load bytes | readCell address | writeCell address value | readRegister index
    | writeRegister index value | decodeAt pc =>
      rw [events_perform_of_not_makesCycles id (by simp), h, List.append_nil]
  exact congr (congrArg mk hmachine) hevents

/-- The last write of each part of the machine counts, and what is no write of a part leaves it
alone. -/
structure LastWriteCounts (c : Chronicle) : Prop where
  lastWritten : c.machine.state.LastWritten c.events
  /-- Behind the bytes of a load the cells stay as they were. -/
  load : ∀ {bytes : Array UInt8}, bytes.size ≤ 256 →
    (c.machine.perform (.load bytes)).1 = .done ∧
      (c.machine.perform (.load bytes)).2.state.memory.toList =
        bytes.toList ++ c.machine.state.memory.toList.drop bytes.size
  memory_step : ∀ out, (c.machine.step out).machine.state.memory = c.machine.state.memory
  memory_cycles : ∀ {op : Operation}, op.MakesCycles →
    (c.machine.perform op).2.state.memory = c.machine.state.memory
  pc_step : ∀ out, (c.machine.step out).machine.state.pc ≠ c.machine.state.pc →
    (c.machine.step out).status = .running
  pc_outside : ∀ {op : Operation}, ¬ op.MakesCycles → ¬ op.SetsPc →
    (c.machine.perform op).2.state.pc = c.machine.state.pc
  failed : ∀ {op : Operation} {fault : Fault}, (c.machine.perform op).1 = .failed fault →
    c.perform op = c

theorem lastWriteCounts {c : Chronicle} (h : c.machine.state.LastWritten c.events) :
    c.LastWriteCounts where
  lastWritten := h
  load hsize := by
    rw [Machine.perform_load _ hsize]
    exact ⟨rfl, Memory.toList_overwrite _ hsize⟩
  memory_step := State.memory_step c.machine.state
  memory_cycles hop := by
    obtain ⟨n, out, hperform⟩ := Machine.exists_advance_of_makesCycles c.machine hop
    rw [hperform]
    exact Run.memory_advance n (c.machine.start out)
  pc_step out := by
    intro hpc
    by_contra hended
    apply hpc
    rw [Machine.state_step, State.state_of_not_running hended]
  pc_outside hop hpc := Machine.pc_perform hpc hop
  failed := perform_of_failed

end Chronicle

/-- After every history each cell, each register and the program counter are what the last
successful operation or completed instruction that writes them has left there, and 0 if there was
none. No instruction writes a cell, and only a completed instruction or an operation that sets it
moves the program counter. A history may break a run off after any number of cycles, so this holds
in the midst of a run as well. -/
theorem Machine.last_write_counts (history : List Operation) :
    let c := Chronicle.ofHistory history
    c.machine = after history ∧ c.LastWriteCounts :=
  ⟨Chronicle.machine_ofHistory history, Chronicle.lastWriteCounts (Chronicle.lastWritten history)⟩

end ByteMachine

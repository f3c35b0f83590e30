import ByteMachine.Proofs.Operations.History

/-!
# Comparisons and branches

The flags tell how the last completed comparison came out. Nothing else touches them: neither what
is done from outside nor any other instruction, and not a comparison that fails. So whether a branch
is taken was decided by the last comparison.
-/

namespace ByteMachine

/-! ### Flags of an ordering -/

namespace Flags

theorem bits_mem (f : Flags) : f.bits ∈ [0, 0b001, 0b010, 0b100] := by
  cases f <;> decide

theorem bits_eq_zero_iff {f : Flags} : f.bits = 0 ↔ f = clear := by
  cases f <;> decide

variable {x y : UInt8}

theorem isLess_ofOrdering : (ofOrdering (compare x y)).isLess = true ↔ x < y := by
  rw [← Std.compare_eq_lt]
  cases compare x y <;> decide

theorem isGreater_ofOrdering : (ofOrdering (compare x y)).isGreater = true ↔ y < x := by
  rw [← Std.compare_eq_gt]
  cases compare x y <;> decide

theorem isEqual_ofOrdering : (ofOrdering (compare x y)).isEqual = true ↔ x = y := by
  rw [← Std.compare_eq_iff_eq (a := x) (b := y)]
  cases compare x y <;> decide

end Flags

/-! ### Completed comparisons -/

/-- The values that a comparison found in its operands. -/
def Event.compared? : Event → Option (UInt8 × UInt8)
  | .completed s (.cmp a b) =>
    match s.registers.read a, s.registers.read b with
    | .ok x, .ok y => some (x, y)
    | _, _ => none
  | _ => none

namespace Event

theorem compared?_cmp {s : State} {a b : UInt8} (ha : a.toNat < 8) (hb : b.toNat < 8) :
    compared? (.completed s (.cmp a b)) = some (s.registers[a.toNat], s.registers[b.toNat]) := by
  simp [compared?, Registers.read_of_lt _ ha, Registers.read_of_lt _ hb]

theorem compared?_eq_none {s : State} {i : Instruction} (h : ∀ a b, i ≠ .cmp a b) :
    compared? (.completed s i) = none := by
  cases i with
  | cmp a b => exact absurd rfl (h a b)
  | ldi r v | prn r | jmp r | jeq r | jne r => rfl

end Event

/-- The flags after a comparison of the values, and before any comparison. -/
def Flags.ofCompared : Option (UInt8 × UInt8) → Flags
  | some (x, y) => .ofOrdering (compare x y)
  | none => .clear

/-- The flags come from the last of the completed comparisons, and each of these had operands. -/
structure State.Remembers (s : State) (events : List Event) : Prop where
  flags : s.flags = .ofCompared (Event.last? Event.compared? events)
  operands : ∀ {before : State} {a b : UInt8}, .completed before (.cmp a b) ∈ events →
    a.toNat < 8 ∧ b.toNat < 8

namespace State.Remembers

variable {s t : State} {events : List Event} {e : Event} {i : Instruction} {text : String}

theorem initial : State.Remembers {} [] :=
  ⟨rfl, by simp⟩

/-- Only completed comparisons matter. -/
theorem concat (h : s.Remembers events) (he : ∀ before a b, e ≠ .completed before (.cmp a b))
    (ht : t.flags = s.flags) : t.Remembers (events ++ [e]) := by
  have hnone : e.compared? = none := by
    cases e with
    | performed op => rfl
    | completed before i => exact Event.compared?_eq_none fun a b hi => he before a b (by rw [hi])
  constructor
  · rw [ht, h.flags, Event.last?_concat, hnone, Option.none_or]
  · intro before a b hmem
    rw [List.mem_append, List.mem_singleton] at hmem
    rcases hmem with hmem | rfl
    · exact h.operands hmem
    · exact absurd rfl (he before a b)

theorem completed (h : s.Remembers events) (he : s.Executes i t text) :
    t.Remembers (events ++ [.completed s i]) := by
  rcases he.flags_eq with ⟨a, b, ha, hb, rfl, hflags⟩ | ⟨hi, hflags⟩
  · constructor
    · rw [hflags, Event.last?_concat, Event.compared?_cmp ha hb, Option.some_or, Flags.ofCompared]
    · intro before a' b' hmem
      rw [List.mem_append, List.mem_singleton] at hmem
      rcases hmem with hmem | heq
      · exact h.operands hmem
      · cases heq
        exact ⟨ha, hb⟩
  · refine h.concat ?_ hflags
    rintro before a b heq
    cases heq
    exact hi a b rfl

end State.Remembers

/-- No operation from outside touches the flags of the machine that there is. -/
theorem Machine.flags_perform {m : Machine} {op : Operation} (hrenew : op ≠ .renew)
    (hop : ¬ op.MakesCycles) : (m.perform op).2.state.flags = m.state.flags := by
  cases op with
  | renew => exact absurd rfl hrenew
  | advance n out | run out => exact absurd trivial hop
  | setPc pc | readCell address | readRegister index | decodeAt pc | attach tracer => rfl
  | load bytes | writeCell address value | writeRegister index value =>
    apply update_preserves (P := fun s => s.flags = m.state.flags) rfl
    intro s hs
    obtain ⟨_, -, hs⟩ := bind_eq_ok.1 hs
    cases hs
    rfl

/-- Whatever the history, the flags come from the last completed comparison. -/
theorem Chronicle.remembers (history : List Operation) :
    (ofHistory history).machine.state.Remembers (ofHistory history).events := by
  apply Chronicle.induction (P := State.Remembers)
  · exact State.Remembers.initial
  · intro m op events hrenew hop _ h
    exact h.concat (by simp) (Machine.flags_perform hrenew hop)
  · intro s t i text events _ he h
    exact h.completed he

/-! ### Branches -/

namespace State

variable {s : State} {r : UInt8}

theorem step_jeq (hf : s.fetch = .ok (.instruction (.jeq r))) (hr : r.toNat < 8) (out : Sink) :
    s.step out = ⟨.running,
      { s with pc := if s.flags.isEqual then s.registers[r.toNat].toNat else s.pc + 2 }, out⟩ := by
  by_cases heq : s.flags.isEqual
  · have hj : s.jumpRegister (.jeq r) = some r := if_pos heq
    simp [step_of_execute hf (execute_of_jumpRegister hj hr), heq]
  · have hj : s.jumpRegister (.jeq r) = none := if_neg heq
    simp [step_of_execute hf (execute_of_jumpRegister_none (.inl rfl) hj), heq]

theorem step_jne (hf : s.fetch = .ok (.instruction (.jne r))) (hr : r.toNat < 8) (out : Sink) :
    s.step out = ⟨.running,
      { s with pc := if s.flags.isEqual then s.pc + 2 else s.registers[r.toNat].toNat }, out⟩ := by
  by_cases heq : s.flags.isEqual
  · have hj : s.jumpRegister (.jne r) = none := if_pos heq
    simp [step_of_execute hf (execute_of_jumpRegister_none (.inr rfl) hj), heq]
  · have hj : s.jumpRegister (.jne r) = some r := if_neg heq
    simp [step_of_execute hf (execute_of_jumpRegister hj hr), heq]

end State

namespace Chronicle

/-- The values of the last completed comparison. -/
def lastCompared? (c : Chronicle) : Option (UInt8 × UInt8) :=
  Event.last? Event.compared? c.events

/-- Whether the last completed comparison found its operands equal. -/
def comparedEqual (c : Chronicle) : Bool :=
  c.lastCompared?.any fun (x, y) => x == y

variable {c : Chronicle} {r : UInt8}

/-- The flags and the branches of the machine follow the last comparison of its past. -/
structure FollowsComparisons (c : Chronicle) : Prop where
  /-- A completed comparison has found a value in each of its operands. -/
  operands : ∀ {before : State} {a b : UInt8}, .completed before (.cmp a b) ∈ c.events →
    a.toNat < 8 ∧ b.toNat < 8
  bits_mem : c.machine.state.flags.bits ∈ [0, 0b001, 0b010, 0b100]
  bits_eq_zero_iff : c.machine.state.flags.bits = 0 ↔
    ∀ before a b, .completed before (.cmp a b) ∉ c.events
  lastCompared?_eq_none_iff : c.lastCompared? = none ↔
    ∀ before a b, .completed before (.cmp a b) ∉ c.events
  ordering : ∀ {x y : UInt8}, c.lastCompared? = some (x, y) →
    let flags := c.machine.state.flags
    (flags.isLess = true ↔ x < y) ∧ (flags.isGreater = true ↔ y < x) ∧
      (flags.isEqual = true ↔ x = y)
  jeq : ∀ {r : UInt8} (hr : r.toNat < 8), c.machine.state.fetch = .ok (.instruction (.jeq r)) →
    ∀ out, let s := c.machine.state
      let cycle := c.machine.step out
      cycle.status = .running ∧ cycle.machine.state = { s with
        pc := if c.comparedEqual then s.registers[r.toNat].toNat else s.pc + 2 }
  jne : ∀ {r : UInt8} (hr : r.toNat < 8), c.machine.state.fetch = .ok (.instruction (.jne r)) →
    ∀ out, let s := c.machine.state
      let cycle := c.machine.step out
      cycle.status = .running ∧ cycle.machine.state = { s with
        pc := if c.comparedEqual then s.pc + 2 else s.registers[r.toNat].toNat }

theorem lastCompared?_eq_none (h : c.machine.state.Remembers c.events) :
    c.lastCompared? = none ↔ ∀ before a b, .completed before (.cmp a b) ∉ c.events := by
  rw [lastCompared?, Event.last?_eq_none]
  constructor
  · intro hnone before a b hmem
    obtain ⟨ha, hb⟩ := h.operands hmem
    have hcompared := hnone _ hmem
    rw [Event.compared?_cmp ha hb] at hcompared
    cases hcompared
  · intro hno e he
    cases e with
    | performed op => rfl
    | completed before i =>
      apply Event.compared?_eq_none
      rintro a b rfl
      exact hno before a b he

theorem flags_eq_clear_iff (h : c.machine.state.Remembers c.events) :
    c.machine.state.flags = .clear ↔ c.lastCompared? = none := by
  rw [h.flags, ← lastCompared?]
  cases c.lastCompared? with
  | none => exact ⟨fun _ => rfl, fun _ => rfl⟩
  | some values =>
    obtain ⟨x, y⟩ := values
    rw [Flags.ofCompared]
    cases compare x y <;> simp [Flags.ofOrdering]

theorem isEqual_eq_comparedEqual (h : c.machine.state.Remembers c.events) :
    c.machine.state.flags.isEqual = c.comparedEqual := by
  rw [h.flags, comparedEqual, ← lastCompared?]
  cases c.lastCompared? with
  | none => rfl
  | some values =>
    obtain ⟨x, y⟩ := values
    rw [Bool.eq_iff_iff, Flags.ofCompared, Flags.isEqual_ofOrdering, Option.any_some, beq_iff_eq]

theorem followsComparisons (h : c.machine.state.Remembers c.events) : c.FollowsComparisons where
  operands := h.operands
  bits_mem := Flags.bits_mem _
  bits_eq_zero_iff := by
    rw [Flags.bits_eq_zero_iff, flags_eq_clear_iff h, lastCompared?_eq_none h]
  lastCompared?_eq_none_iff := lastCompared?_eq_none h
  ordering := by
    intro x y hlast flags
    have hflags : flags = .ofOrdering (compare x y) := by
      rw [← Flags.ofCompared, ← hlast]
      exact h.flags
    rw [hflags]
    exact ⟨Flags.isLess_ofOrdering, Flags.isGreater_ofOrdering, Flags.isEqual_ofOrdering⟩
  jeq := by
    intro r hr hf out s cycle
    rw [Machine.status_step, Machine.state_step, State.step_jeq hf hr, isEqual_eq_comparedEqual h]
    exact ⟨rfl, rfl⟩
  jne := by
    intro r hr hf out s cycle
    rw [Machine.status_step, Machine.state_step, State.step_jne hf hr, isEqual_eq_comparedEqual h]
    exact ⟨rfl, rfl⟩

end Chronicle

/-- After every history the flags tell the ordering of the values that the last completed comparison
found in its operands, or that there was none. So a branch is taken or passed over as that
comparison came out. A history may break a run off after any number of cycles, so this holds in the
midst of a run as well. -/
theorem Machine.branches_follow_comparisons (history : List Operation) :
    let c := Chronicle.ofHistory history
    c.machine = after history ∧ c.FollowsComparisons :=
  ⟨Chronicle.machine_ofHistory history, Chronicle.followsComparisons (Chronicle.remembers history)⟩

end ByteMachine

import ByteMachine.Proofs.Execution.Output
import ByteMachine.Proofs.Refinement.Listing

/-!
# Machines that execute a listing

A machine whose memory holds the instructions of a listing goes through it step by step: where the
walk over the listing has come to an index, the machine has come to the address of that index, and
all else is the same. This lasts until a jump leads the walk astray.
-/

namespace ByteMachine

namespace Listing

/-- The memory holds the instructions, and behind them a byte that is no opcode. -/
structure StandsIn (l : Listing) (memory : Memory) : Prop where
  code : Holds (fun a => memory[a]?) l.start (l.instructions.flatMap Instruction.encode)
  stop : ∃ b, memory[l.address l.size]? = some b ∧ Opcode.ofByte? b = none

/-- The state of a machine that has come to the configuration. -/
def place (l : Listing) (memory : Memory) (c : Config) : State where
  pc := l.address c.index
  registers := c.registers
  flags := c.flags
  memory := memory

variable {l : Listing} {memory : Memory} {i : Instruction} {c d : Config} {j n : Nat}

/-! ### Fetching -/

theorem StandsIn.fetch_eq (h : l.StandsIn memory) (hi : l.instructions[c.index]? = some i) :
    (l.place memory c).fetch = .ok (.instruction i) :=
  State.fetch_eq_instruction_iff.2 (holds_of_code h.code hi)

theorem StandsIn.fetch_end (h : l.StandsIn memory) (hc : c.index = l.size) :
    ∃ b, (l.place memory c).fetch = .ok (.halt b) := by
  obtain ⟨b, hcell, hb⟩ := h.stop
  refine ⟨b, decode_of_ofByte?_none ?_ hb⟩
  rw [← hc] at hcell
  exact hcell

/-! ### Executing -/

/-- The machine has the same result as the listing, or any result if the listing goes astray. -/
inductive Agrees (l : Listing) (memory : Memory) :
    Except Fault (Option Config × String) → Except Fault (State × String) → Prop where
  | fault (fault : Fault) : Agrees l memory (.error fault) (.error fault)
  | next {d : Config} (hd : d.index ≤ l.size) (text : String) :
      Agrees l memory (.ok (some d, text)) (.ok (l.place memory d, text))
  | astray (text : String) (result : Except Fault (State × String)) :
      Agrees l memory (.ok (none, text)) result

theorem agrees_jump (r : UInt8) :
    l.Agrees memory (l.jump c r) (do return (← (l.place memory c).jump r, "")) := by
  cases hr : c.registers.read r with
  | error fault => simpa [jump, State.jump, place, hr] using .fault fault
  | ok v =>
    cases hv : l.index? v.toNat with
    | none => simpa [jump, hr, hv] using .astray "" _
    | some j =>
      obtain ⟨hj, haddress⟩ := index?_eq_some_iff.1 hv
      simpa [jump, State.jump, place, hr, hv, haddress] using
        (.next (d := { c with index := j }) hj "" : l.Agrees memory _ _)

theorem agrees_execute (hi : l.instructions[c.index]? = some i) :
    l.Agrees memory (l.execute c i) ((l.place memory c).execute i) := by
  have hnext : l.address c.index + i.length = l.address (c.index + 1) := (address_succ hi).symm
  have hle : c.index + 1 ≤ l.size := (List.getElem?_eq_some_iff.1 hi).1
  have agrees_pass : l.Agrees memory (.ok (some { c with index := c.index + 1 }, ""))
      (.ok ({ l.place memory c with pc := l.address (c.index + 1) }, "")) := .next hle ""
  cases i with
  | ldi r v =>
    cases hw : c.registers.write r v with
    | error fault => simpa [execute, State.execute, place, hw] using .fault fault
    | ok registers =>
      simpa [execute, State.execute, place, hw, hnext] using
        (.next (d := { c with index := c.index + 1, registers }) hle "" : l.Agrees memory _ _)
  | prn r =>
    cases hr : c.registers.read r with
    | error fault => simpa [execute, State.execute, place, hr] using .fault fault
    | ok v =>
      simpa [execute, State.execute, place, hr, hnext] using
        (.next (d := { c with index := c.index + 1 }) hle _ : l.Agrees memory _ _)
  | cmp a b =>
    cases ha : c.registers.read a with
    | error fault => simpa [execute, State.execute, place, ha] using .fault fault
    | ok x =>
      cases hb : c.registers.read b with
      | error fault => simpa [execute, State.execute, place, ha, hb] using .fault fault
      | ok y =>
        simpa [execute, State.execute, place, ha, hb, hnext] using
          (.next (d := { c with index := c.index + 1, flags := .ofOrdering (compare x y) }) hle "" :
            l.Agrees memory _ _)
  | jmp r => exact agrees_jump r
  | jeq r =>
    cases hf : c.flags.isEqual with
    | true => simpa [execute, State.execute, place, hf] using agrees_jump r
    | false => simpa [execute, State.execute, place, hf, hnext] using agrees_pass
  | jne r =>
    cases hf : c.flags.isEqual with
    | true => simpa [execute, State.execute, place, hf, hnext] using agrees_pass
    | false => simpa [execute, State.execute, place, hf] using agrees_jump r

/-! ### Runs -/

variable {r : Run} {w : Walk}

/-- A run onto an output without end has come to where the walk has come to. -/
structure Mirrors (l : Listing) (memory : Memory) (r : Run) (w : Walk) : Prop where
  status : w.status = some r.status
  state : r.state = l.place memory w.config
  text : r.text = w.text
  room : r.out.room = none
  index : w.config.index ≤ l.size

theorem Mirrors.of_step {status : Status} {s : State} {out : Sink}
    (hstep : r.state.step r.out = ⟨status, s, out⟩) (hstatus : w.status = some status)
    (hs : s = l.place memory w.config) (htext : out.text = w.text) (hroom : out.room = none)
    (hindex : w.config.index ≤ l.size) : l.Mirrors memory r.next w where
  status := by rw [Run.status_next, hstep, hstatus]
  state := by rw [Run.state_next, hstep, hs]
  text := by rw [Run.text, Run.out_next, hstep, htext]
  room := by rw [Run.out_next, hstep, hroom]
  index := hindex

theorem Mirrors.next (hl : l.StandsIn memory) (h : l.Mirrors memory r w)
    (hstray : (l.next w).status ≠ none) : l.Mirrors memory r.next (l.next w) := by
  rw [Listing.next] at hstray ⊢
  cases hi : l.instructions[w.config.index]? with
  | none =>
    obtain ⟨b, hfetch⟩ :=
      hl.fetch_end (Nat.le_antisymm h.index (List.getElem?_eq_none_iff.1 hi))
    rw [← h.state] at hfetch
    exact .of_step (State.step_of_halt hfetch r.out) rfl h.state h.text h.room h.index
  | some i =>
    have hfetch := hl.fetch_eq hi
    have hagrees : l.Agrees memory _ _ := agrees_execute hi
    rw [← h.state] at hfetch hagrees
    simp only [hi] at hstray ⊢
    -- the result over the listing decides which result the machine has
    revert hagrees hstray
    generalize hx : l.execute w.config i = x
    generalize hy : r.state.execute i = y
    intro hagrees hstray
    cases hagrees with
    | fault fault =>
      exact .of_step (State.step_of_execute_error hfetch hy r.out) rfl h.state h.text h.room h.index
    | @next d hd text =>
      have hfits : r.out.fits text = true := Sink.fits_of_room h.room text
      have hstep := State.step_of_execute hfetch hy r.out
      rw [if_pos hfits] at hstep
      refine .of_step hstep rfl rfl ?_ ?_ hd
      · rw [Sink.text_write, Sink.kept_of_fits hfits, ← h.text]
        rfl
      · rw [Sink.room_write, h.room, Option.map_none]
    | astray text result => exact absurd rfl hstray

theorem mirrors_walk (hl : l.StandsIn memory) {m : Machine} (hc : c.index ≤ l.size)
    (hm : m.state = l.place memory c) (hstray : (l.walk c n).status ≠ none) :
    l.Mirrors memory (m.freely n) (l.walk c n) := by
  induction n with
  | zero => exact ⟨rfl, hm, rfl, rfl, hc⟩
  | succ n ih =>
    by_cases hw : (l.walk c n).status = some .running
    · rw [walk_succ_of_running hw] at hstray ⊢
      have hmirrors := ih (by simp [hw])
      have hrunning : (m.freely n).status = .running := by
        simpa [hw] using hmirrors.status.symm
      rw [Machine.freely_succ_of_running hrunning]
      exact hmirrors.next hl hstray
    · rw [walk_succ_of_ended hw] at hstray ⊢
      have hmirrors := ih hstray
      have hended : (m.freely n).status ≠ .running := by
        rwa [hmirrors.status, Option.some.injEq] at hw
      rw [Machine.freely_succ_of_ended hended]
      exact hmirrors

/-- Without jumps and without registers that do not exist, the machine executes each instruction
once and halts behind the last one. -/
theorem freely_of_straight (hl : l.StandsIn memory) {m : Machine} (hc : c.index = 0)
    (hm : m.state = l.place memory c) (hjump : ∀ i ∈ l.instructions, i.isJump = false)
    (hregisters : ∀ i ∈ l.instructions, ∀ r ∈ i.registers, r.toNat < 8) :
    (m.freely (l.size + 1)).status = .halted ∧ (m.freely (l.size + 1)).completed = l.size ∧
      (m.freely (l.size + 1)).state.pc = l.address l.size := by
  have hmirrors (n : Nat) : l.Mirrors memory (m.freely n) (l.walk c n) :=
    mirrors_walk hl (by simp [hc]) hm (walk_straight hjump n).1
  obtain ⟨hhalted, hindex⟩ := walk_end hjump hregisters hc
  have hstatus : (m.freely (l.size + 1)).status = .halted := by
    simpa [hhalted] using (hmirrors (l.size + 1)).status.symm
  have hrunning : (m.freely l.size).status = .running := by
    have hwalk := walk_running hjump hregisters (show c.index + l.size ≤ l.size by simp [hc])
    simpa [hwalk] using (hmirrors l.size).status.symm
  have hcompleted : (m.freely l.size).completed = 0 + l.size := Run.completed_of_running hrunning
  refine ⟨hstatus, ?_, ?_⟩
  · rw [Machine.freely_succ_of_running hrunning] at hstatus ⊢
    rw [Run.completed_next_of_ended (by simp [hstatus]), hcompleted, Nat.zero_add]
  · rw [(hmirrors (l.size + 1)).state, place, hindex]

/-- A machine that stands at the start of a listing in its memory proceeds in lockstep with the walk
over the listing, as long as no jump leads the walk astray. Without jumps nothing does, and then the
machine halts behind the last instruction unless a register does not exist. -/
theorem lockstep (l : Listing) (m : Machine) (hl : l.StandsIn m.state.memory)
    (hpc : m.state.pc = l.start) :
    let w := l.walk ⟨0, m.state.registers, m.state.flags⟩
    (∀ n, (w n).status ≠ none →
      (w n).status = some (m.freely n).status ∧ (w n).text = (m.freely n).text ∧
        (m.freely n).state = l.place m.state.memory (w n).config) ∧
      (∀ n fault, (w n).status = some (.faulted fault) →
        ∃ r, 8 ≤ r.toNat ∧ fault = .registerOutOfRange r) ∧
      ((∀ i ∈ l.instructions, i.isJump = false) →
        (∀ n, (w n).status ≠ none) ∧ (m.freely (l.size + 1)).status ≠ .running ∧
          ((∀ i ∈ l.instructions, ∀ r ∈ i.registers, r.toNat < 8) →
            (m.freely (l.size + 1)).status = .halted ∧
              (m.freely (l.size + 1)).completed = l.size ∧
              (m.freely (l.size + 1)).state.pc = l.address l.size)) := by
  intro w
  have hm : m.state = l.place m.state.memory ⟨0, m.state.registers, m.state.flags⟩ := by
    rw [place, address_zero, ← hpc]
  have hmirrors (n : Nat) (hstray : (w n).status ≠ none) :
      l.Mirrors m.state.memory (m.freely n) (w n) :=
    mirrors_walk hl (Nat.zero_le _) hm hstray
  refine ⟨?_, ?_, ?_⟩
  · intro n hstray
    exact ⟨(hmirrors n hstray).status, (hmirrors n hstray).text.symm, (hmirrors n hstray).state⟩
  · intro n fault hfault
    exact walk_fault hfault
  · intro hjump
    have hstray (n : Nat) : (w n).status ≠ none := (walk_straight hjump n).1
    have hend := hmirrors (l.size + 1) (hstray _)
    refine ⟨hstray, ?_, freely_of_straight hl rfl hm hjump⟩
    intro hrunning
    have hindex : (w (l.size + 1)).config.index = 0 + (l.size + 1) :=
      (walk_straight hjump _).2 (hend.status.trans (congrArg some hrunning))
    have hle := hend.index
    omega

theorem lockstep_of_jump_to_print :
    let l : Listing := ⟨0, [.ldi 0 5, .jmp 0, .prn 0]⟩
    let m : Machine := { state := { memory := Memory.blank.overwrite #[130, 0, 5, 84, 0, 71, 0] } }
    l.StandsIn m.state.memory ∧ m.state.pc = l.start ∧ (m.freely 4).status = .halted ∧
      (m.freely 4).text = "5\n" := by
  intro l m
  have hl : l.StandsIn m.state.memory := ⟨by decide +kernel, 0, by decide +kernel, by decide⟩
  obtain ⟨hstatus, htext, -⟩ := (lockstep l m hl rfl).1 4 (by decide)
  have hhalted : (l.walk ⟨0, m.state.registers, m.state.flags⟩ 4).status = some .halted := by decide
  have hprinted : (l.walk ⟨0, m.state.registers, m.state.flags⟩ 4).text = "5\n" := by decide
  refine ⟨hl, rfl, ?_, ?_⟩
  · simpa [hhalted] using hstatus.symm
  · rw [← htext, hprinted]

end Listing

end ByteMachine

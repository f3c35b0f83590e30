import Mathlib.Algebra.BigOperators.Fin
import Mathlib.Algebra.Order.BigOperators.Ring.Finset
import Mathlib.Tactic.Ring
import ByteMachine.Proofs.Execution.Output
import ByteMachine.Proofs.Execution.Provenance

/-!
# How long a run can take

A run that ends never comes back to a state with the same room left in its output. The states it
can go through are few: the memory stays, the program counter points into it, and a register holds
one of its candidates. There are at most 254 loads, and the number of register files is greatest
where the loads are spread evenly over the registers. This leaves fewer than `2 ^ 51` states, so
every run that ends does so within the patience of `Machine.run`, and the 64 bits of the step
counter are more than enough.
-/

namespace ByteMachine

/-! ### Products of numbers with a given sum -/

/-- One step from the means of two halves to the mean of the whole. -/
theorem mul_le_pow_of_halves {n K P Q S T : ℕ} (hP : K * P ≤ S ^ n) (hQ : K * Q ≤ T ^ n) :
    4 ^ n * K ^ 2 * (P * Q) ≤ (S + T) ^ (2 * n) := by
  calc 4 ^ n * K ^ 2 * (P * Q) = 4 ^ n * (K * P * (K * Q)) := by ring
    _ ≤ 4 ^ n * (S ^ n * T ^ n) := by gcongr
    _ = (4 * S * T) ^ n := by ring
    _ ≤ ((S + T) ^ 2) ^ n := by
      gcongr
      exact four_mul_le_sq_add S T
    _ = (S + T) ^ (2 * n) := (pow_mul _ 2 n).symm

theorem prod_eight_le (f : Fin 8 → ℕ) : 8 ^ 8 * ∏ k, f k ≤ (∑ k, f k) ^ 8 := by
  have single (a : ℕ) : 1 * a ≤ a ^ 1 := by simp
  have pair (a b : ℕ) := mul_le_pow_of_halves (single a) (single b)
  have quad (a b c d : ℕ) := mul_le_pow_of_halves (pair a b) (pair c d)
  have h := mul_le_pow_of_halves (quad (f 0) (f 1) (f 2) (f 3)) (quad (f 4) (f 5) (f 6) (f 7))
  have hsum : f 0 + f 1 + (f 2 + f 3) + (f 4 + f 5 + (f 6 + f 7)) = ∑ k, f k := by
    rw [Fin.sum_univ_eight]
    ring
  have hprod : f 0 * f 1 * (f 2 * f 3) * (f 4 * f 5 * (f 6 * f 7)) = ∏ k, f k := by
    rw [Fin.prod_univ_eight]
    ring
  rw [hsum, hprod] at h
  exact h

/-! ### The states of a run -/

namespace State

/-- What of a state can change during a run. -/
def point (s : State) : ℕ × UInt8 × (Fin 8 → UInt8) :=
  (s.pc, s.flags.bits, s.registers.get)

theorem eq_of_point {s t : State} (hm : s.memory = t.memory) (h : s.point = t.point) : s = t := by
  obtain ⟨pc, registers, flags, memory⟩ := s
  obtain ⟨pc', registers', flags', memory'⟩ := t
  simp only [point, Prod.mk.injEq] at h
  obtain ⟨rfl, hflags, hregisters⟩ := h
  obtain rfl := Flags.bits_injective hflags
  obtain rfl : registers = registers' := Vector.ext fun k hk => congrFun hregisters ⟨k, hk⟩
  subst hm
  rfl

/-- The points of the states from which a run can go on. -/
def points (s : State) : Finset (ℕ × UInt8 × (Fin 8 → UInt8)) :=
  Finset.range 256 ×ˢ {0b000, 0b100, 0b010, 0b001} ×ˢ Fintype.piFinset s.candidates

theorem card_points_lt (s : State) : s.points.card < 2 ^ 51 := by
  have hcandidates : ∏ k, (s.candidates k).card ≤ ∏ k : Fin 8, ((s.memory.loadSites k).card + 1) :=
    Finset.prod_le_prod (fun _ _ => Nat.zero_le _) fun k _ => s.card_candidates_le k
  have hsum : ∑ k : Fin 8, ((s.memory.loadSites k).card + 1) ≤ 262 := by
    rw [Finset.sum_add_distrib, Finset.sum_const, Finset.card_univ, Fintype.card_fin, smul_eq_mul]
    have hsites := s.memory.sum_card_loadSites_le
    omega
  have hprod : 8 ^ 8 * ∏ k, (s.candidates k).card ≤ 262 ^ 8 :=
    calc 8 ^ 8 * ∏ k, (s.candidates k).card
        ≤ 8 ^ 8 * ∏ k : Fin 8, ((s.memory.loadSites k).card + 1) :=
          Nat.mul_le_mul_left _ hcandidates
      _ ≤ (∑ k : Fin 8, ((s.memory.loadSites k).card + 1)) ^ 8 := prod_eight_le _
      _ ≤ 262 ^ 8 := Nat.pow_le_pow_left hsum 8
  have hflags : ({0b000, 0b100, 0b010, 0b001} : Finset UInt8).card = 4 := rfl
  rw [points, Finset.card_product, Finset.card_product, Fintype.card_piFinset, Finset.card_range,
    hflags]
  omega

end State

/-- The rooms that an output can come to have. -/
def Sink.rooms (out : Sink) : Finset (Option ℕ) :=
  match out.room with
  | none => {none}
  | some r => (Finset.range (r + 1)).image some

theorem Sink.card_rooms_le (out : Sink) : out.rooms.card ≤ out.room.getD 0 + 1 := by
  unfold rooms
  cases out.room with
  | none => rfl
  | some r => exact Finset.card_image_le.trans (Finset.card_range (r + 1)).le

theorem Sink.room_write_mem {out : Sink} {room : Option ℕ} (h : room ∈ out.rooms) (d : ℕ) :
    room.map (· - d) ∈ out.rooms := by
  unfold rooms at h ⊢
  cases hroom : out.room with
  | none =>
    rw [hroom] at h
    obtain rfl := Finset.mem_singleton.1 h
    exact Finset.mem_singleton_self none
  | some r =>
    rw [hroom] at h
    obtain ⟨r', hr', rfl⟩ := Finset.mem_image.1 h
    have hlt := Finset.mem_range.1 hr'
    exact Finset.mem_image.2 ⟨r' - d, Finset.mem_range.2 (by omega), rfl⟩

namespace Run

variable {r : Run} {n : ℕ}

theorem point_mem_points (h : (advance (n + 1) r).status = .running) :
    (advance n r).state.point ∈ r.state.points := by
  have hn := running_of_le h (Nat.le_succ n)
  rw [advance_succ_eq_next hn, status_next] at h
  obtain ⟨i, text, hf, -, -, -⟩ := State.executes_of_running h
  simp only [State.point, State.points, Finset.mem_product, Finset.mem_range, Fintype.mem_piFinset]
  refine ⟨State.pc_lt_of_fetch hf, ?_, fun k => r.register_mem_candidates n k⟩
  cases (advance n r).state.flags <;> decide

theorem room_mem_rooms (r : Run) (n : ℕ) : (advance n r).out.room ∈ r.out.rooms := by
  apply advance_induction (P := fun q => q.out.room ∈ r.out.rooms)
  · unfold Sink.rooms
    cases hroom : r.out.room with
    | none => simp
    | some r => simp
  · intro q _ hq
    rw [out_next, State.out_step, Sink.room_write]
    exact Sink.room_write_mem hq _

/-- A run that ends completes no more instructions than there are points with a room. -/
theorem last_cycle_lt (hend : (advance n r).status ≠ .running) {k : ℕ}
    (hk : (advance k r).status = .running) : k < 2 ^ 51 * (r.out.room.getD 0 + 1) := by
  have hinj : Set.InjOn (fun j => ((advance j r).state.point, (advance j r).out.room))
      (Finset.range k : Set ℕ) := by
    intro a ha b hb hab
    simp only [Finset.coe_range, Set.mem_Iio] at ha hb
    obtain ⟨hpoint, hroom⟩ := Prod.mk.inj hab
    have hmemory : (advance a r).state.memory = (advance b r).state.memory := by
      rw [memory_advance, memory_advance]
    have hcore : (advance a r).core = (advance b r).core :=
      Prod.ext (State.eq_of_point hmemory hpoint) hroom
    rcases Nat.lt_trichotomy a b with hlt | heq | hgt
    · exact absurd hcore (core_ne_of_lt hend (running_of_le hk hb.le) hlt)
    · exact heq
    · exact absurd hcore.symm (core_ne_of_lt hend (running_of_le hk ha.le) hgt)
  have hmem : ∀ j ∈ Finset.range k,
      ((advance j r).state.point, (advance j r).out.room) ∈ r.state.points ×ˢ r.out.rooms := by
    intro j hj
    rw [Finset.mem_product]
    exact ⟨point_mem_points (running_of_le hk (Finset.mem_range.1 hj)), r.room_mem_rooms j⟩
  calc k = (Finset.range k).card := (Finset.card_range k).symm
    _ ≤ (r.state.points ×ˢ r.out.rooms).card := Finset.card_le_card_of_injOn _ hmem hinj
    _ = r.state.points.card * r.out.rooms.card := Finset.card_product _ _
    _ ≤ r.state.points.card * (r.out.room.getD 0 + 1) := Nat.mul_le_mul_left _ r.out.card_rooms_le
    _ < 2 ^ 51 * (r.out.room.getD 0 + 1) :=
      Nat.mul_lt_mul_of_pos_right r.state.card_points_lt (Nat.succ_pos _)

end Run

/-- What the summary of a run says of its last cycle. -/
theorem Run.halted_of_result {r : Run} {summary : Summary}
    (h : r.result? = some (.ok summary)) :
    r.status = .halted ∧ summary.steps = .ofNat r.completed := by
  unfold Run.result? at h
  cases hs : r.status with
  | running => simp [hs] at h
  | faulted fault => simp [hs] at h
  | halted =>
    simp only [hs, Option.some.injEq, bind_eq_ok, pure_eq_ok, Except.ok.injEq] at h
    obtain ⟨haltByte, -, rfl⟩ := h
    exact ⟨rfl, rfl⟩

namespace Machine

variable {m : Machine} {out : Sink} {n : ℕ}

/-- The patience of a run outlasts every run that ends. -/
theorem run_eq_of_ended (hend : (Run.advance n (m.start out)).status ≠ .running) :
    m.run out = Run.advance n (m.start out) := by
  obtain ⟨k, hkn, hk, hlast⟩ := Run.exists_last_cycle (m.status_start out) hend
  have hpatient : k + 1 ≤ patience out := by
    have hlt := Run.last_cycle_lt hend hk
    rw [out_start] at hlt
    rw [patience, Nat.pow_eq]
    omega
  rw [hlast, ← Run.advance_succ_eq_next hk] at hend
  rw [run_eq_advance, Run.advance_eq_of_ended hend hpatient, hlast, Run.advance_succ_eq_next hk]

theorem last_cycle_lt_of_halted {k : ℕ} (hk : (Run.advance k (m.start out)).status = .running)
    (hhalt : (Run.advance (k + 1) (m.start out)).status = .halted) : k < 2 ^ 51 := by
  have hfits := fits_of_not_refused (m := m) (n := k) (by rw [hk]; simp)
  have hfits' := fits_of_not_refused (m := m) (n := k + 1) (by rw [hhalt]; simp)
  rw [advance_of_fits hfits] at hk
  rw [advance_of_fits hfits'] at hhalt
  have hend : (m.freely (k + 1)).status ≠ .running := fun hrun => by
    rw [hrun] at hhalt
    exact absurd hhalt (by simp)
  exact Run.last_cycle_lt hend hk

/-- A run whose output takes any text has ended within `2 ^ 60` cycles or never ends. `Machine.run`
is the run to the end if there is one, and where it halts after `k` completed instructions, `k` is
below `2 ^ 60` and is the number in its summary. -/
theorem steps_exact (m : Machine) :
    ((m.freely (2 ^ 60)).status ≠ .running ∨ ∀ n, (m.freely n).status = .running) ∧
    ∀ out : Sink,
      (∀ n, (Run.advance n (m.start out)).status ≠ .running →
        m.run out = Run.advance n (m.start out)) ∧
      ∀ summary, (m.run out).result? = some (.ok summary) →
        ∃ k < 2 ^ 60, (∀ j ≤ k, (Run.advance j (m.start out)).status = .running) ∧
          (Run.advance (k + 1) (m.start out)).status = .halted ∧
          m.run out = Run.advance (k + 1) (m.start out) ∧
          summary.steps.toNat = k := by
  refine ⟨?_, fun out => ⟨fun n => run_eq_of_ended, fun summary hresult => ?_⟩⟩
  · by_contra hends
    rw [not_or, not_not, not_forall] at hends
    obtain ⟨hrunning, n, hn⟩ := hends
    exact absurd (Run.last_cycle_lt hn hrunning) (by simp)
  · obtain ⟨hhalt, hsteps⟩ := Run.halted_of_result hresult
    have hend : (Run.advance (patience out) (m.start out)).status ≠ .running := by
      rw [← run_eq_advance, hhalt]
      simp
    obtain ⟨k, -, hk, hlast⟩ := Run.exists_last_cycle (m.status_start out) hend
    rw [← run_eq_advance, ← Run.advance_succ_eq_next hk] at hlast
    rw [hlast] at hhalt hsteps
    have hlt : k < 2 ^ 51 := last_cycle_lt_of_halted hk hhalt
    have hcompleted : (Run.advance (k + 1) (m.start out)).completed = k := by
      rw [Run.advance_succ_eq_next hk] at hhalt ⊢
      rw [Run.completed_next_of_ended (by rw [hhalt]; simp), Run.completed_of_running hk,
        completed_start, Nat.zero_add]
    refine ⟨k, by omega, fun j hj => Run.running_of_le hk hj, hhalt, hlast, ?_⟩
    rw [hsteps, hcompleted, UInt64.toNat_ofNat']
    exact Nat.mod_eq_of_lt (by omega)

end Machine

end ByteMachine

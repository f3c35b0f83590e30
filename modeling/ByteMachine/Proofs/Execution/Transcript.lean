import ByteMachine.Proofs.Execution.Counter
import ByteMachine.Proofs.Execution.Traces

/-!
# Transcripts

A tracer of trace lines whose sink takes any text writes down a run: one line for each cycle in
which something is decoded, about the state that the cycle begins in. All these lines are of one
length, because nothing is decoded at the one address that needs a third digit.
-/

namespace ByteMachine

/-! ### The length of a trace line -/

namespace Text

/-- An upper case hexadecimal digit. -/
def hexDigit (d : Nat) : Char := (Nat.digitChar d).toUpper

theorem upperHex_two {n : Nat} (hn : n < 256) :
    upperHex 2 n = String.ofList [hexDigit (n / 16), hexDigit (n % 16)] := by
  rw [upperHex, digits_two_of_lt (by decide) hn]
  rfl

theorem length_upperHex_two {n : Nat} (hn : n < 256) : (upperHex 2 n).length = 2 := by
  rw [upperHex_two hn, String.length_ofList]
  rfl

theorem length_intercalate (separator : String) {texts : List String} {width : Nat}
    (hne : texts ≠ []) (hall : ∀ text ∈ texts, text.length = width) :
    (separator.intercalate texts).length + separator.length =
      texts.length * (separator.length + width) := by
  induction texts with
  | nil => exact absurd rfl hne
  | cons text texts ih =>
    obtain ⟨htext, htexts⟩ := List.forall_mem_cons.1 hall
    cases texts with
    | nil => simp [htext, Nat.add_comm]
    | cons next rest =>
      rw [String.intercalate_cons_cons, String.length_append, String.length_append, htext,
        List.length_cons, Nat.succ_mul, ← ih (by simp) htexts]
      omega

end Text

namespace State

variable {s : State} {out : Sink}

/-- Beside the program counter, all in a trace line has the same length in each state. -/
theorem length_traceLine (s : State) :
    s.traceLine.length = 44 + (Text.upperHex 2 s.pc).length := by
  have hbyte (b : UInt8) : (Text.upperHex 2 b.toNat).length = 2 :=
    Text.length_upperHex_two b.toNat_lt
  have hregisters (texts : List String) (htexts : texts.length = 8)
      (hall : ∀ text ∈ texts, text.length = 2) : (" ".intercalate texts).length = 23 := by
    have hlength := Text.length_intercalate " " (List.ne_nil_of_length_pos (by omega)) hall
    rw [htexts] at hlength
    exact Nat.succ.inj hlength
  have hname : "TRACE: ".length = 7 := rfl
  have hbar : " | ".length = 3 := rfl
  have hspace : " ".length = 1 := rfl
  delta traceLine
  simp only [String.length_append, hbyte, hname, hbar, hspace]
  rw [hregisters _ (by simp) (by simp [hbyte])]
  omega

theorem length_traceLine_of_lt (h : s.pc < 256) : s.traceLine.length = 46 := by
  rw [length_traceLine, Text.length_upperHex_two h]

theorem traceLine_eq_of_lt (h : s.pc < 256) : ∃ rest, s.traceLine = "TRACE: " ++
    String.ofList [Text.hexDigit (s.pc / 16), Text.hexDigit (s.pc % 16)] ++ " | " ++ rest := by
  rw [← Text.upperHex_two h]
  delta traceLine
  simp only [String.append_assoc]
  exact ⟨_, rfl⟩

/-! ### What is decoded in a cycle -/

theorem pc_lt_of_isOk_fetch (h : s.fetch.isOk) : s.pc < 256 := by
  by_contra hle
  simp [fetch_of_le (Nat.not_lt.1 hle)] at h

end State

/-- How many instructions were decoded without being completed when a run has come to this. -/
def Status.uncompleted : Status → Nat
  | .halted | .faulted (.registerOutOfRange _) | .faulted .outputRefused => 1
  | .running | .faulted _ => 0

/-- What is decoded in a cycle is completed, or it is what the run ends at. -/
theorem State.decoded_step (s : State) (out : Sink) :
    (if s.fetch.isOk then 1 else 0) =
      (if (s.step out).status = .running then 1 else 0) + (s.step out).status.uncompleted := by
  cases hf : s.fetch with
  | error fault =>
    rw [step_of_fetch_error hf]
    rcases decode_eq_error hf with ⟨-, rfl⟩ | ⟨rfl, -⟩ <;> rfl
  | ok d =>
    cases d with
    | halt byte =>
      rw [step_of_halt hf]
      rfl
    | instruction i =>
      cases he : s.execute i with
      | error fault =>
        obtain ⟨r, -, rfl⟩ := execute_eq_error he
        rw [step_of_execute_error hf he]
        rfl
      | ok result =>
        rw [step_of_execute hf he]
        by_cases hfits : out.fits result.2 = true
        · rw [if_pos hfits]
          rfl
        · rw [if_neg hfits]
          rfl

/-! ### What is decoded in a run -/

namespace Run

variable {r : Run} {s : State} {sink : Sink} {n : Nat}

/-- The state in which the next cycle decodes something, if there is such a cycle. -/
def decoding? (r : Run) : Option State :=
  if r.status = .running ∧ r.state.fetch.isOk then some r.state else none

/-- The states in which up to `n` cycles decode something, in order. -/
def decoded (r : Run) (n : Nat) : List State :=
  (List.range n).filterMap fun k => (advance k r).decoding?

theorem decoding?_of_ended (h : r.status ≠ .running) : r.decoding? = none :=
  if_neg fun hr => h hr.1

theorem decoding?_of_running (h : r.status = .running) :
    r.decoding? = if r.state.fetch.isOk then some r.state else none := by
  simp only [decoding?, h, true_and]

theorem decoded_succ (r : Run) (n : Nat) :
    r.decoded (n + 1) = r.decoded n ++ (advance n r).decoding?.toList := by
  rw [decoded, List.range_succ, List.filterMap_append]
  cases h : (advance n r).decoding? <;> simp [decoded, h]

theorem fetch_of_mem_decoded (h : s ∈ r.decoded n) : s.fetch.isOk := by
  obtain ⟨k, -, hk⟩ := List.mem_filterMap.1 h
  rw [decoding?, Option.ite_none_right_eq_some] at hk
  obtain ⟨⟨-, hf⟩, hs⟩ := hk
  exact Option.some.inj hs ▸ hf

theorem join_decoding? (h : r.status = .running) :
    String.join (r.decoding?.toList.map State.shown) = r.state.shown := by
  rw [decoding?_of_running h]
  cases hf : r.state.fetch with
  | error fault => simp [State.shown, hf]
  | ok d => simp

theorem completed_next_add (r : Run) :
    r.next.completed + r.next.status.uncompleted =
      r.completed + if r.state.fetch.isOk then 1 else 0 := by
  rw [r.state.decoded_step r.out, ← status_next]
  by_cases h : r.next.status = .running
  · rw [completed_next_of_running h, if_pos h, Nat.add_assoc]
  · rw [completed_next_of_ended h, if_neg h, Nat.zero_add]

/-- Of what was decoded, all but what a run ends at has been completed. -/
theorem length_decoded (hr : r.status = .running) (n : Nat) :
    r.completed + (r.decoded n).length =
      (advance n r).completed + (advance n r).status.uncompleted := by
  induction n with
  | zero =>
    rw [advance_zero, hr]
    rfl
  | succ n ih =>
    rw [decoded_succ, List.length_append, ← Nat.add_assoc, ih]
    by_cases hn : (advance n r).status = .running
    · rw [advance_succ_eq_next hn, completed_next_add, decoding?_of_running hn, hn]
      split_ifs <;> rfl
    · rw [advance_eq_of_ended hn (Nat.le_succ n), decoding?_of_ended hn]
      rfl

/-- A tracer has been shown the lines of the states in which something was decoded. -/
theorem tracer_advance (h : r.machine.tracer = some (.hex sink)) (n : Nat) :
    (advance n r).machine.tracer =
      some (.hex (sink.write (String.join ((r.decoded n).map State.shown)))) := by
  induction n with
  | zero => simpa [decoded] using h
  | succ n ih =>
    rw [decoded_succ, List.map_append, String.join_append, Sink.write_append]
    by_cases hn : (advance n r).status = .running
    · rw [advance_succ_eq_next hn, join_decoding? hn]
      exact Machine.nextTracer_of_hex ih
    · rw [advance_eq_of_ended hn (Nat.le_succ n), decoding?_of_ended hn, ih]
      simp

theorem map_shown_decoded (r : Run) (n : Nat) :
    (r.decoded n).map State.shown = (r.decoded n).map fun s => s.traceLine ++ "\n" := by
  apply List.map_congr_left
  intro s hs
  cases hf : s.fetch with
  | error fault =>
    have hok := fetch_of_mem_decoded hs
    simp [hf] at hok
  | ok d => exact State.shown_of_fetch hf

end Run

/-- A tracer whose sink takes any text stays with the machine and writes a line for each cycle of a
run in which something is decoded: one for each completed instruction, and one more for what the run
ends at if that could be decoded. Each line has 46 characters, two of which are the program
counter. Only where nothing is decoded would a line be longer. -/
theorem Machine.transcript (s : State) (before : String) (out : Sink) (n : Nat) :
    let start := Machine.start { state := s, tracer := some (.hex { text := before }) } out
    let r := Run.advance n start
    r.machine.tracer = some (.hex
      { text := before ++ String.join ((start.decoded n).map fun t => t.traceLine ++ "\n") }) ∧
    (start.decoded n).length = r.completed + r.status.uncompleted ∧
    (∀ t ∈ start.decoded n, t.fetch.isOk ∧ t.pc < 256 ∧ t.traceLine.length = 46 ∧
      ∃ rest, t.traceLine = "TRACE: " ++
        String.ofList [Text.hexDigit (t.pc / 16), Text.hexDigit (t.pc % 16)] ++ " | " ++ rest) ∧
    ∀ t : State, t.pc ≤ 256 → 46 < t.traceLine.length →
      t.pc = 256 ∧ t.fetch = .error (.pcOutOfRange 256) := by
  intro start r
  have htracer : r.machine.tracer = _ := Run.tracer_advance (r := start) rfl n
  have hlength := Run.length_decoded (r := start) rfl n
  rw [Machine.completed_start, Nat.zero_add] at hlength
  rw [Run.map_shown_decoded] at htracer
  refine ⟨htracer, hlength, fun t ht => ?_, fun t hle hlong => ?_⟩
  · have hf := Run.fetch_of_mem_decoded ht
    have hpc := State.pc_lt_of_isOk_fetch hf
    exact ⟨hf, hpc, State.length_traceLine_of_lt hpc, State.traceLine_eq_of_lt hpc⟩
  · have hpc : t.pc = 256 := by
      by_contra hne
      rw [State.length_traceLine_of_lt (by omega)] at hlong
      exact absurd hlong (by decide)
    exact ⟨hpc, hpc ▸ State.fetch_of_le (Nat.le_of_eq hpc.symm)⟩

/-- A load, a print and a byte that stops the machine are traced in three lines. -/
theorem Machine.transcript_of_print :
    let s : State := { memory := Memory.blank.overwrite #[130, 0, 8, 71, 0] }
    let start := Machine.start { state := s, tracer := some (.hex {}) } .unlimited
    (Run.advance 3 start).machine.tracer = some (.hex { text :=
      "TRACE: 00 | 82 00 08 | 00 00 00 00 00 00 00 00\n" ++
      "TRACE: 03 | 47 00 00 | 08 00 00 00 00 00 00 00\n" ++
      "TRACE: 05 | 00 00 00 | 08 00 00 00 00 00 00 00\n" }) ∧
    (start.decoded 3).length = 3 ∧ s ∈ start.decoded 3 ∧ s.traceLine.length = 46 ∧
    ({ pc := 256 } : State).fetch = .error (.pcOutOfRange 256) := by
  intro s start
  obtain ⟨htracer, hlength, hlines, hlonger⟩ := transcript s "" .unlimited 3
  have htext : "" ++ String.join ((start.decoded 3).map fun t => t.traceLine ++ "\n") =
      "TRACE: 00 | 82 00 08 | 00 00 00 00 00 00 00 00\n" ++
      "TRACE: 03 | 47 00 00 | 08 00 00 00 00 00 00 00\n" ++
      "TRACE: 05 | 00 00 00 | 08 00 00 00 00 00 00 00\n" := by decide +kernel
  have hended : (Run.advance 3 start).completed + (Run.advance 3 start).status.uncompleted = 3 := by
    decide +kernel
  have hmem : s ∈ start.decoded 3 :=
    List.mem_filterMap.2 ⟨0, by decide, if_pos ⟨rfl, by decide +kernel⟩⟩
  have hlong : 46 < ({ pc := 256 } : State).traceLine.length := by
    rw [State.length_traceLine]
    decide +kernel
  refine ⟨?_, hlength.trans hended, hmem, (hlines s hmem).2.2.1,
    (hlonger _ (Nat.le_refl 256) hlong).2⟩
  rw [htracer, htext]

end ByteMachine

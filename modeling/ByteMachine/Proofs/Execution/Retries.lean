import Mathlib.Data.List.DropRight
import ByteMachine.Proofs.Execution.Course
import ByteMachine.Proofs.Execution.Faults
import ByteMachine.Proofs.Execution.StepBound

/-!
# Retrying a run

A run that was stopped because the output refused a line can be taken up again on a fresh output.
The print that was refused is then made anew, and nothing before it is. So of all attempts together
the complete lines are those of a run that was never stopped, and so is the end they come to.
-/

namespace ByteMachine

/-! ### Complete lines -/

namespace Text

/-- The text up to its last line end. -/
def completeLines (text : String) : String :=
  String.ofList (text.toList.rdropWhile (· ≠ '\n'))

theorem completeLines_append_newline (text : String) :
    completeLines (text ++ "\n") = text ++ "\n" := by
  rw [completeLines, String.toList_append, show "\n".toList = ['\n'] from rfl,
    List.rdropWhile_concat_neg _ _ _ (by simp), ← String.ofList_toList (s := text ++ "\n"),
    String.toList_append]
  rfl

theorem completeLines_append {rest : String} (h : '\n' ∉ rest.toList) (text : String) :
    completeLines (text ++ rest) = completeLines text := by
  have hrest : ∀ c ∈ rest.toList.reverse, decide (c ≠ '\n') = true := by
    intro c hc
    rw [List.mem_reverse] at hc
    exact decide_eq_true fun hnewline => h (hnewline ▸ hc)
  rw [completeLines, completeLines, String.toList_append, List.rdropWhile, List.rdropWhile,
    List.reverse_append, List.dropWhile_append_of_pos hrest]

/-- A line of which the end is missing has no line end. -/
theorem newline_not_mem_of_append_eq {taken rest : String} {n : Nat}
    (h : decimal n ++ "\n" = taken ++ rest) (hrest : rest ≠ "") : '\n' ∉ taken.toList := by
  obtain hnil | ⟨missing, last, hlast⟩ := rest.toList.eq_nil_or_concat
  · exact absurd (String.toList_eq_nil_iff.1 hnil) hrest
  · have hlists := congrArg String.toList h
    rw [String.toList_append, String.toList_append, hlast, List.concat_eq_append,
      ← List.append_assoc] at hlists
    obtain ⟨hdigits, -⟩ := List.append_inj' hlists rfl
    intro hnewline
    apply newline_not_mem_decimal n
    rw [hdigits]
    exact List.mem_append_left _ hnewline

end Text

namespace Machine

variable {m m' : Machine} {out : Sink} {n k : Nat}

/-- What a run prints are complete lines. -/
theorem completeLines_freely (m : Machine) (n : Nat) :
    Text.completeLines (m.freely n).text = (m.freely n).text := by
  induction n with
  | zero => rfl
  | succ n ih =>
    by_cases hn : (m.freely n).status = .running
    · rw [text_freely_succ hn]
      rcases (m.freely n).state.printed_cases with hsilent | ⟨r, v, -, -, hline⟩
      · rw [hsilent, String.append_empty, ih]
      · rw [hline, ← String.append_assoc, Text.completeLines_append_newline]
    · rw [freely_succ_of_ended hn, ih]

/-! ### One attempt -/

/-- A run that the output has stopped has come to the print that was refused, and its complete lines
are those printed before. -/
theorem run_of_refused (htext : out.text = "") (h : (m.run out).status = .faulted .outputRefused) :
    ∃ k, (m.freely k).status = .running ∧ (m.run out).machine.state = (m.freely k).state ∧
      (m.run out).completed = k ∧ Text.completeLines (m.run out).text = (m.freely k).text := by
  rw [run_eq_advance] at h ⊢
  obtain ⟨k, -, hk, hlast, hfault, hcompleted⟩ :=
    Run.exists_faulted_cycle (m.status_start out) h
  have hfits : out.fits (m.freely k).text = true := fits_of_not_refused (by simp [hk])
  have hfree := advance_of_fits hfits
  obtain ⟨hne, -⟩ | ⟨-, r, hr, -, hrefused, hstep⟩ := State.step_faulted hfault
  · exact absurd rfl hne
  obtain ⟨rest, hrest, hline⟩ := Sink.kept_of_not_fits hrefused
  refine ⟨k, ?_, ?_, ?_, ?_⟩
  · rw [← hk, hfree]
  · rw [hlast]
    exact (congrArg Cycle.state hstep).trans (by rw [hfree]; rfl)
  · rw [hcompleted, completed_start, Nat.zero_add]
  · have hbefore : (Run.advance k (m.start out)).out.text = (m.freely k).text := by
      rw [hfree, Sink.text_write, htext, String.empty_append,
        Sink.kept_of_fits hfits]
    rw [hlast, Run.text, Run.out_next, hstep, Sink.text_write, hbefore,
      Text.completeLines_append (Text.newline_not_mem_of_append_eq hline hrest),
      completeLines_freely]

/-- A run that the output has not stopped is the run onto an output that takes all. -/
theorem run_of_not_refused (htext : out.text = "") (hend : (m.freely n).status ≠ .running)
    (h : (m.run out).status ≠ .faulted .outputRefused) :
    (m.run out).status = (m.run .unlimited).status ∧
      (m.run out).machine = (m.run .unlimited).machine ∧
      (m.run out).completed = (m.run .unlimited).completed ∧
      (m.run out).text = (m.run .unlimited).text := by
  rw [run_eq_advance] at h
  have hfits := fits_of_not_refused h
  have hfree : m.run out = { m.freely (patience out) with
      out := out.write (m.freely (patience out)).text } := advance_of_fits hfits
  have hwhole : m.freely (patience out) = m.run .unlimited := by
    have hpatience : patience .unlimited ≤ patience out := by
      simp only [patience, Sink.room_unlimited, Option.getD_none]
      exact Nat.mul_le_mul_right _ (Nat.succ_le_succ (Nat.zero_le _))
    have hrun : (m.freely (patience .unlimited)).status ≠ .running := by
      have hrun := run_eq_of_ended hend
      rw [run_eq_advance] at hrun
      rw [freely, hrun]
      exact hend
    exact Run.advance_eq_of_ended hrun hpatience
  rw [hwhole] at hfree hfits
  rw [hfree]
  refine ⟨rfl, rfl, rfl, ?_⟩
  rw [Run.text, Sink.text_write, htext, String.empty_append, Sink.kept_of_fits hfits]

/-- A run that is taken up again where an earlier one was stopped completes it. -/
theorem run_resume (hk : (m.freely k).status = .running) (hm : m'.state = (m.freely k).state)
    (hend : (m.freely n).status ≠ .running) :
    (∃ j, (m'.freely j).status ≠ .running) ∧
      (m.run .unlimited).course = (m'.run .unlimited).course.behind (m.freely k).text k := by
  have hkn : k ≤ n := by
    by_contra hnk
    exact hend (Run.running_of_le hk (Nat.le_of_not_le hnk))
  obtain ⟨j, rfl⟩ := Nat.exists_eq_add_of_le hkn
  have hroom : Sink.unlimited.room = (m.freely k).out.room := (m.room_freely k).symm
  have hresume := Run.course_resume (r := m.start .unlimited) hk hm .unlimited hroom rfl j
  rw [completed_start, Nat.zero_add] at hresume
  have hended : (m'.freely j).status ≠ .running := by
    have hstatus := congrArg Course.status hresume
    intro hrunning
    exact hend (hstatus.trans hrunning)
  refine ⟨⟨j, hended⟩, ?_⟩
  rw [run_eq_of_ended hend, run_eq_of_ended hended]
  exact hresume

end Machine

/-! ### All attempts -/

/-- The attempts to run a machine: those that were stopped because the output refused a line, and
the last one. -/
structure Attempts where
  refused : List Run
  last : Run

namespace Attempts

/-- The complete lines of the attempts that were stopped, and what the last one has printed. -/
def text (a : Attempts) : String :=
  String.join (a.refused.map fun r => Text.completeLines r.text) ++ a.last.text

/-- The number of instructions that were completed in all attempts together. -/
def completed (a : Attempts) : Nat :=
  (a.refused.map Run.completed).sum + a.last.completed

/-- The attempts with one before them that was stopped. -/
def cons (r : Run) (a : Attempts) : Attempts := ⟨r :: a.refused, a.last⟩

variable (r : Run) (a : Attempts)

theorem text_single : text ⟨[], r⟩ = r.text := String.empty_append

theorem completed_single : completed ⟨[], r⟩ = r.completed := Nat.zero_add _

theorem text_cons : (a.cons r).text = Text.completeLines r.text ++ a.text := by
  simp [text, cons, String.append_assoc]

theorem completed_cons : (a.cons r).completed = r.completed + a.completed := by
  simp [completed, cons, Nat.add_assoc]

end Attempts

namespace Machine

/-- Runs a machine onto fresh outputs that take so many bytes each, one after the other, until one
of them does not stop it. If all of them do, it is run at last onto an output that takes all. -/
def attempts (m : Machine) : List Nat → Attempts
  | [] => ⟨[], m.run .unlimited⟩
  | limit :: limits =>
    let r := m.run (.limited limit)
    if r.status = .faulted .outputRefused then (r.machine.attempts limits).cons r else ⟨[], r⟩

variable {m : Machine} {limit : Nat}

theorem attempts_nil (m : Machine) : m.attempts [] = ⟨[], m.run .unlimited⟩ := by
  rw [attempts]

theorem attempts_of_refused (h : (m.run (.limited limit)).status = .faulted .outputRefused)
    (limits : List Nat) :
    m.attempts (limit :: limits) =
      ((m.run (.limited limit)).machine.attempts limits).cons (m.run (.limited limit)) := by
  rw [attempts, if_pos h]

theorem attempts_of_not_refused (h : (m.run (.limited limit)).status ≠ .faulted .outputRefused)
    (limits : List Nat) : m.attempts (limit :: limits) = ⟨[], m.run (.limited limit)⟩ := by
  rw [attempts, if_neg h]

end Machine

/-- How a run has ended: with a fault, or at an address where a certain byte stands. -/
def Run.ending? (r : Run) : Option (Except Fault (Nat × UInt8)) :=
  r.result?.map fun result => result.map fun summary => (summary.haltedAt, summary.haltByte)

theorem Run.ending?_congr {r q : Run} (hstatus : r.status = q.status) (hstate : r.state = q.state) :
    r.ending? = q.ending? := by
  simp only [state] at hstate
  unfold ending? result?
  rw [← hstatus, ← hstate]
  cases r.status with
  | running | faulted fault => rfl
  | halted =>
    cases hread : r.machine.state.memory.read r.machine.state.pc with
    | error fault => simp [hread]
    | ok b => simp [hread, Except.map]

/-- What the attempts have come to is what a run has come to. -/
structure Attempts.Amounts (a : Attempts) (r : Run) : Prop where
  text : a.text = r.text
  completed : a.completed = r.completed
  status : a.last.status = r.status
  state : a.last.state = r.state

theorem Attempts.Amounts.single {r q : Run} (hstatus : r.status = q.status)
    (hmachine : r.machine = q.machine) (hcompleted : r.completed = q.completed)
    (htext : r.text = q.text) : Amounts ⟨[], r⟩ q where
  text := (text_single r).trans htext
  completed := (completed_single r).trans hcompleted
  status := hstatus
  state := congrArg Machine.state hmachine

/-- An attempt that was stopped, and further attempts that amount to the rest of a run. -/
theorem Attempts.Amounts.cons {a : Attempts} {r q whole : Run} (h : a.Amounts q)
    (hcourse : whole.course = q.course.behind (Text.completeLines r.text) r.completed) :
    (a.cons r).Amounts whole := by
  obtain ⟨hstatus, hstate, htext, hcompleted⟩ := Run.eq_of_course_eq_behind hcourse
  constructor
  · rw [text_cons, h.text, htext]
  · rw [completed_cons, h.completed, hcompleted]
  · exact h.status.trans hstatus.symm
  · exact h.state.trans hstate.symm

theorem Machine.attempts_amounts (m : Machine) (limits : List Nat)
    (h : ∃ n, (m.freely n).status ≠ .running) : (m.attempts limits).Amounts (m.run .unlimited) := by
  induction limits generalizing m with
  | nil =>
    rw [attempts_nil]
    exact .single rfl rfl rfl rfl
  | cons limit limits ih =>
    obtain ⟨n, hn⟩ := h
    by_cases hrefused : (m.run (.limited limit)).status = .faulted .outputRefused
    · obtain ⟨k, hk, hstate, hcompleted, hlines⟩ :=
        run_of_refused (Sink.text_limited limit) hrefused
      obtain ⟨hend, hcourse⟩ := run_resume hk hstate hn
      rw [attempts_of_refused hrefused]
      rw [← hlines, ← hcompleted] at hcourse
      exact (ih _ hend).cons hcourse
    · obtain ⟨hstatus, hmachine, hcompleted, htext⟩ :=
        run_of_not_refused (Sink.text_limited limit) hn hrefused
      rw [attempts_of_not_refused hrefused]
      exact .single hstatus hmachine hcompleted htext

/-- All attempts together print the lines of the run that is never stopped, complete as many
instructions, and come to the same end. -/
theorem Machine.attempts_eq_run (m : Machine) (limits : List Nat)
    (h : ∃ n, (m.freely n).status ≠ .running) :
    let whole := m.run .unlimited
    let a := m.attempts limits
    a.text = whole.text ∧ a.completed = whole.completed ∧ a.last.status = whole.status ∧
      a.last.state = whole.state ∧ a.last.ending? = whole.ending? := by
  intro whole a
  obtain ⟨htext, hcompleted, hstatus, hstate⟩ := attempts_amounts m limits h
  exact ⟨htext, hcompleted, hstatus, hstate, Run.ending?_congr hstatus hstate⟩

/-- Twelve is printed twice, first onto an output that breaks off within the first line, then onto
one that breaks off before the end of the second. -/
theorem Machine.attempts_of_two_lines :
    let m : Machine := { state := { memory := Memory.blank.overwrite #[130, 0, 12, 71, 0, 71, 0] } }
    (m.freely 4).status = .halted ∧ (m.attempts [1, 5]).text = "12\n12\n" ∧
      (m.attempts [1, 5]).completed = 3 ∧ (m.attempts [1, 5]).last.state = (m.freely 4).state := by
  intro m
  have hhalted : (m.freely 4).status = .halted := by decide +kernel
  have hend : (m.freely 4).status ≠ .running := by simp [hhalted]
  obtain ⟨htext, hcompleted, -, hstate, -⟩ := attempts_eq_run m [1, 5] ⟨4, hend⟩
  have hwhole : m.run .unlimited = m.freely 4 := run_eq_of_ended hend
  rw [hwhole] at htext hcompleted hstate
  refine ⟨hhalted, htext.trans ?_, hcompleted.trans ?_, hstate⟩ <;> decide +kernel

end ByteMachine

import Mathlib.Logic.Function.Iterate
import ByteMachine.Proofs.Execution.Runs

/-!
# The course of a run

What a run does, without what there is to see of it. The course of a run evolves by itself: neither
the tracer nor the notes of the machine have a part in it. What was put out and counted before has
no part in it either, so a run that is taken up again goes on as if it had never stopped.
-/

namespace ByteMachine

/-- How the last cycle of a run ended, the state and the output after it, and how many instructions
were completed. -/
structure Course where
  status : Status
  state : State
  out : Sink
  completed : Nat

/-- The output as it is when a text was put out before. -/
def Sink.behind (text : String) (out : Sink) : Sink :=
  { out with text := text ++ out.text }

section Behind

variable (text : String) (out : Sink) (line : String)

theorem Sink.fits_behind : (out.behind text).fits line = out.fits line := rfl

theorem Sink.write_behind : (out.behind text).write line = (out.write line).behind text := by
  simp only [behind, write, mk.injEq, String.append_assoc, true_and]
  rfl

theorem State.step_behind (s : State) :
    s.step (out.behind text) = { s.step out with out := (s.step out).out.behind text } := by
  rw [step_eq s (out.behind text), step_eq s out, Sink.fits_behind, Sink.write_behind]
  split_ifs <;> rfl

end Behind

namespace Course

/-- Adds one cycle. -/
def next (c : Course) : Course :=
  let cycle := c.state.step c.out
  { status := cycle.status
    state := cycle.state
    out := cycle.out
    completed := if cycle.status = .running then c.completed + 1 else c.completed }

/-- Adds up to `n` cycles, and none after one that halts or fails. -/
def advance : Nat → Course → Course
  | 0, c => c
  | n + 1, c =>
    match c.status with
    | .running => advance n c.next
    | _ => c

/-- The course as it is when a text was put out and some instructions were completed before. -/
def behind (text : String) (completed : Nat) (c : Course) : Course :=
  { c with out := c.out.behind text, completed := completed + c.completed }

theorem advance_succ_of_running {c : Course} (h : c.status = .running) (n : Nat) :
    advance (n + 1) c = advance n c.next := by
  simp [advance, h]

theorem advance_of_ended {c : Course} (h : c.status ≠ .running) (n : Nat) : advance n c = c := by
  cases n with
  | zero => rfl
  | succ n => unfold advance; split <;> simp_all

theorem next_behind (text : String) (completed : Nat) (c : Course) :
    (c.behind text completed).next = c.next.behind text completed := by
  simp only [next, behind, State.step_behind, mk.injEq, true_and]
  split_ifs <;> rfl

theorem advance_behind (text : String) (completed n : Nat) (c : Course) :
    advance n (c.behind text completed) = (advance n c).behind text completed := by
  induction n generalizing c with
  | zero => rfl
  | succ n ih =>
    by_cases hc : c.status = .running
    · rw [advance_succ_of_running hc, advance_succ_of_running (c := c.behind text completed) hc,
        next_behind, ih]
    · rw [advance_of_ended hc, advance_of_ended (c := c.behind text completed) hc]

end Course

namespace Run

/-- The run without what there is to see of it. -/
def course (r : Run) : Course := ⟨r.status, r.state, r.out, r.completed⟩

variable {r q : Run}

theorem course_next (r : Run) : r.next.course = r.course.next := rfl

theorem course_advance (n : Nat) (r : Run) :
    (advance n r).course = Course.advance n r.course := by
  induction n generalizing r with
  | zero => rfl
  | succ n ih =>
    by_cases hr : r.status = .running
    · rw [advance_succ_of_running hr, Course.advance_succ_of_running (c := r.course) hr, ih,
        course_next]
    · rw [advance_of_ended hr, Course.advance_of_ended (c := r.course) hr]

theorem course_iterate (n : Nat) (r : Run) : (next^[n] r).course = Course.next^[n] r.course :=
  Function.Semiconj.iterate_right course_next n r

theorem result?_congr (h : r.course = q.course) : r.result? = q.result? := by
  obtain ⟨hstatus, hstate, -, hcompleted⟩ := Course.mk.inj h
  simp only [state] at hstate
  simp only [result?, hstatus, hstate, hcompleted]

theorem eq_of_course_eq_behind {text : String} {completed : Nat}
    (h : r.course = q.course.behind text completed) :
    r.status = q.status ∧ r.state = q.state ∧ r.text = text ++ q.text ∧
      r.completed = completed + q.completed := by
  obtain ⟨hstatus, hstate, hout, hcompleted⟩ := Course.mk.inj h
  exact ⟨hstatus, hstate, congrArg Sink.text hout, hcompleted⟩

/-- A run is a number of cycles, and the course decides how many. -/
theorem advance_eq_iterate (n : Nat) (r : Run) :
    ∃ k ≤ n, ∀ q : Run, q.course = r.course → advance n q = next^[k] q := by
  induction n generalizing r with
  | zero => exact ⟨0, Nat.le_refl 0, fun q _ => rfl⟩
  | succ n ih =>
    by_cases hr : r.status = .running
    · obtain ⟨k, hkn, hk⟩ := ih r.next
      refine ⟨k + 1, Nat.succ_le_succ hkn, fun q hq => ?_⟩
      have hstatus : q.status = .running := (congrArg Course.status hq).trans hr
      rw [advance_succ_of_running hstatus, Function.iterate_succ_apply]
      apply hk
      rw [course_next, course_next, hq]
    · refine ⟨0, Nat.zero_le _, fun q hq => ?_⟩
      have hstatus : q.status ≠ .running := fun h => hr ((congrArg Course.status hq).symm.trans h)
      rw [advance_of_ended hstatus, Function.iterate_zero_apply]

end Run

theorem Machine.course_start_congr {m m' : Machine} (h : m.state = m'.state) (out : Sink) :
    (m.start out).course = (m'.start out).course := by
  simp only [Run.course, Run.state, Machine.machine_start, h]
  rfl

theorem Machine.course_run_congr {m m' : Machine} (h : m.state = m'.state) (out : Sink) :
    (m.run out).course = (m'.run out).course := by
  rw [run_eq_advance, run_eq_advance, Run.course_advance, Run.course_advance,
    course_start_congr h out]

/-- A run that is taken up again from the state it had come to goes on as it would have anyway. -/
theorem Run.course_resume {r : Run} {m : Machine} {k : Nat}
    (hr : (advance k r).status = .running) (hm : m.state = (advance k r).state) (out : Sink)
    (hroom : out.room = (advance k r).out.room) (htext : out.text = "") (n : Nat) :
    (advance (k + n) r).course =
      (advance n (m.start out)).course.behind (advance k r).text (r.completed + k) := by
  have hstart : (advance k r).course =
      (m.start out).course.behind (advance k r).text (r.completed + k) := by
    obtain ⟨room, text⟩ := out
    simp only at hroom htext
    subst htext
    simp only [course, Course.behind, Sink.behind, state, text, hr, ← completed_of_running hr]
    simp [hroom, hm, state, Machine.start]
  rw [advance_add, course_advance n, course_advance n, hstart, Course.advance_behind]

end ByteMachine

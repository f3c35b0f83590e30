import ByteMachine.Proofs.Execution.Traces

/-!
# Observation

Whoever looks on, a machine does the same: neither the tracer nor the log has a part in the course
of a run. A tracer of trace lines that can write only so many bytes keeps as many of the first bytes
of its lines, and from the first line on that does not fit every line is reported in the log.
-/

namespace ByteMachine

/-- One who looks on while a machine runs, through a tracer and through the log. -/
structure Observer where
  tracer : Option Tracer
  verbosity : Verbosity

namespace Observer

/-- A machine in the state, watched by the observer. -/
def machine (o : Observer) (s : State) : Machine := { state := s, tracer := o.tracer }

/-- The messages of a run that the observer is shown. -/
def log (o : Observer) (r : Run) : List Message :=
  (r.notes.toList.filterMap Note.message?).filter (o.verbosity.admits ·.level)

/-- How often the observer is told that a trace line was not taken whole. -/
def warnings (o : Observer) (r : Run) : Nat := (o.log r).count .traceRefused

/-- An observer with a tracer of trace lines. -/
def reading (sink : Sink) (verbosity : Verbosity) : Observer := ⟨some (.hex sink), verbosity⟩

end Observer

/-- What the tracer of a run has written. -/
def Run.traced (r : Run) : String := r.machine.tracer.elim "" fun t => t.sink.text

/-! ### The course of a run -/

section Course

variable (o o' : Observer) (s : State) (out : Sink)

theorem Observer.course_start :
    ((o.machine s).start out).course = ((o'.machine s).start out).course :=
  Machine.course_start_congr rfl out

theorem Observer.course_iterate (n : Nat) :
    (Run.next^[n] ((o.machine s).start out)).course =
      (Run.next^[n] ((o'.machine s).start out)).course := by
  rw [Run.course_iterate, Run.course_iterate, course_start o o']

theorem Observer.course_advance (n : Nat) :
    (Run.advance n ((o.machine s).start out)).course =
      (Run.advance n ((o'.machine s).start out)).course := by
  rw [Run.course_advance, Run.course_advance, course_start o o']

end Course

/-! ### Reports of lines that are not taken whole -/

theorem Sink.fits_write {line : String} (h : line ≠ "") (out : Sink) (text : String) :
    (out.write text).fits line = out.fits (text ++ line) := by
  have hpos : 0 < line.length := by
    rw [Nat.pos_iff_ne_zero, Ne, String.length_eq_zero_iff]
    exact h
  obtain ⟨room, taken⟩ := out
  cases room with
  | none => rfl
  | some r =>
    rw [Bool.eq_iff_iff]
    simp only [fits, write, Option.map_some, String.length_append, decide_eq_true_eq]
    omega

theorem count_message (message : Message) (shown : Message → Bool) (notes : List Note) :
    ((notes.filterMap Note.message?).filter shown).count message =
      if shown message then notes.count (.reported message) else 0 := by
  induction notes with
  | nil => simp
  | cons note notes ih =>
    cases note with
    | traced text => simpa [List.filterMap_cons, Note.message?] using ih
    | reported m =>
      simp only [List.filterMap_cons, Note.message?, List.filter_cons]
      by_cases hm : m = message
      · subst hm
        split_ifs with hshown
        · simp [ih, hshown]
        · simp [ih, hshown]
      · split_ifs with h₁ h₂ h₂ <;> simp [ih, h₂, hm]

namespace Machine

variable {m : Machine} {sink : Sink}

theorem message_ne_traceRefused (d : Decoded) (pc : Nat) : d.message pc ≠ .traceRefused := by
  cases d <;> simp [Decoded.message]

/-- A tracer that is shown a line reports it once if its sink does not take it whole. -/
theorem count_notes_of_hex (h : m.tracer = some (.hex sink)) :
    m.notes.count (.reported .traceRefused) =
      if m.state.fetch.isOk ∧ sink.fits m.state.shown = false then 1 else 0 := by
  unfold notes State.shown
  cases hf : m.state.fetch with
  | error fault => simp
  | ok d =>
    have hmessage : Note.reported (d.message m.state.pc) ≠ .reported .traceRefused := by
      simpa using message_ne_traceRefused d m.state.pc
    cases hfits : sink.fits (m.state.traceLine ++ "\n") <;>
      simp [h, Tracer.notes, Tracer.sink, Tracer.line, hfits, hmessage]

end Machine

namespace Course

/-- The lines go beyond a limit from the line on that first does. -/
theorem limit_lt_shown_iff {c : Course} {limit n : Nat} :
    limit < (c.shown (n + 1)).utf8ByteSize ↔
      ∃ j ≤ n, (c.shown j).utf8ByteSize ≤ limit ∧ limit < (c.shown (j + 1)).utf8ByteSize := by
  constructor
  · intro h
    induction n with
    | zero => exact ⟨0, Nat.le_refl 0, Nat.zero_le limit, h⟩
    | succ n ih =>
      by_cases hn : limit < (c.shown (n + 1)).utf8ByteSize
      · obtain ⟨j, hjn, hj⟩ := ih hn
        exact ⟨j, Nat.le_succ_of_le hjn, hj⟩
      · exact ⟨n + 1, Nat.le_refl _, Nat.not_lt.1 hn, h⟩
  · rintro ⟨j, hjn, -, hj⟩
    exact Nat.lt_of_lt_of_le hj (c.utf8ByteSize_shown_le (Nat.succ_le_succ hjn))

end Course

namespace Observer

variable {s : State} {out sink : Sink} {v : Verbosity} {n : Nat}

theorem traced_reading (s : State) (out sink : Sink) (v : Verbosity) (n : Nat) :
    (Run.next^[n] (((reading sink v).machine s).start out)).traced =
      (sink.write ((((reading sink v).machine s).start out).course.shown n)).text := by
  have htracer : (((reading sink v).machine s).start out).machine.tracer = some (.hex sink) := rfl
  rw [Run.traced, Run.tracer_iterate htracer]
  rfl

theorem warnings_eq (o : Observer) (r : Run) :
    o.warnings r = if o.verbosity.admits .warn then
      r.notes.toList.count (.reported .traceRefused) else 0 :=
  count_message .traceRefused (o.verbosity.admits ·.level) r.notes.toList

/-- The observer of a tracer of trace lines is told once of each line that the sink does not take
whole. -/
theorem warnings_next {o : Observer} {r : Run} (h : r.machine.tracer = some (.hex sink)) :
    o.warnings r.next = o.warnings r +
      if o.verbosity.admits .warn ∧ r.state.fetch.isOk ∧ sink.fits r.state.shown = false then 1
      else 0 := by
  rw [warnings_eq, warnings_eq, Run.notes_next, List.count_append, Machine.count_notes_of_hex h]
  cases o.verbosity.admits .warn <;> simp [Run.state]

theorem warnings_iterate (s : State) (out : Sink) (limit : Nat) (v : Verbosity) (n : Nat) :
    let o := reading (.limited limit) v
    let r := (o.machine s).start out
    o.warnings (Run.next^[n + 1] r) = o.warnings (Run.next^[n] r) +
      if v.admits .warn ∧ (Run.next^[n] r).state.fetch.isOk ∧
        limit < (r.course.shown (n + 1)).utf8ByteSize then 1 else 0 := by
  intro o r
  have htracer : r.machine.tracer = some (.hex (.limited limit)) := rfl
  rw [Function.iterate_succ_apply', warnings_next (Run.tracer_iterate htracer n), Course.shown,
    ← Run.state_iterate]
  congr 1
  refine if_congr (and_congr_right fun _ => and_congr_right fun hok => ?_) rfl rfl
  rw [Sink.fits_write (State.shown_ne_empty hok), ← Bool.not_eq_true, Sink.fits_limited, Nat.not_le]
  exact Text.isAscii_append.2 ⟨Course.isAscii_shown _ n, State.isAscii_shown _⟩

/-- Whoever looks on, the same cycles are made with the same results, the same output and the same
states. A tracer that can write `limit` bytes keeps the first `limit` bytes of what it could write
without an end, and from the first line on that does not fit each line is reported once, if
warnings are shown. -/
theorem observation_exact (s : State) (out : Sink) :
    (∀ o o' : Observer,
      (∀ n, (Run.next^[n] ((o.machine s).start out)).course =
        (Run.next^[n] ((o'.machine s).start out)).course) ∧
      (∀ n, (Run.advance n ((o.machine s).start out)).course =
        (Run.advance n ((o'.machine s).start out)).course) ∧
      ((o.machine s).run out).course = ((o'.machine s).run out).course ∧
      ((o.machine s).run out).result? = ((o'.machine s).run out).result?) ∧
    (∀ n, ∃ k ≤ n, ∀ o : Observer,
      Run.advance n ((o.machine s).start out) = Run.next^[k] ((o.machine s).start out)) ∧
    (∃ k, ∀ o : Observer, (o.machine s).run out = Run.next^[k] ((o.machine s).start out)) ∧
    ∀ (limit : Nat) (v : Verbosity),
      let free (n : Nat) := Run.next^[n] (((reading .unlimited v).machine s).start out)
      let o := reading (.limited limit) v
      let bounded (n : Nat) := Run.next^[n] ((o.machine s).start out)
      (∀ n, (bounded n).traced.utf8ByteSize = min limit (free n).traced.utf8ByteSize ∧
        ∃ rest, (free n).traced = (bounded n).traced ++ rest) ∧
      o.warnings (bounded 0) = 0 ∧
      ∀ n, o.warnings (bounded (n + 1)) = o.warnings (bounded n) +
        if v.admits .warn ∧ (free n).state.fetch.isOk ∧
          ∃ j ≤ n, (free j).traced.utf8ByteSize ≤ limit ∧
            limit < (free (j + 1)).traced.utf8ByteSize then 1 else 0 := by
  let start (o : Observer) := (o.machine s).start out
  have hstart (o o' : Observer) : (start o).course = (start o').course := course_start o o' s out
  refine ⟨fun o o' => ⟨course_iterate o o' s out, course_advance o o' s out, ?_, ?_⟩, ?_, ?_, ?_⟩
  · exact course_advance o o' s out _
  · exact Run.result?_congr (course_advance o o' s out _)
  · intro n
    obtain ⟨k, hkn, hk⟩ := Run.advance_eq_iterate n (start ⟨none, .off⟩)
    exact ⟨k, hkn, fun o => hk _ (hstart o _)⟩
  · obtain ⟨k, -, hk⟩ := Run.advance_eq_iterate (Machine.patience out) (start ⟨none, .off⟩)
    exact ⟨k, fun o => hk _ (hstart o _)⟩
  · intro limit v free o bounded
    have hfree (n : Nat) : (free n).traced = (start o).course.shown n := by
      rw [traced_reading, hstart o (reading .unlimited v)]
      exact String.empty_append
    have hbounded (n : Nat) :
        (bounded n).traced = ((Sink.limited limit).write ((start o).course.shown n)).text :=
      traced_reading s out _ v n
    have hstate (n : Nat) : (bounded n).state = (free n).state :=
      congrArg Course.state (course_iterate o _ s out n)
    refine ⟨fun n => ?_, ?_, fun n => ?_⟩
    · rw [hfree, hbounded]
      exact Sink.text_write_limited (Course.isAscii_shown _ n) limit
    · rfl
    · simp only [hfree, ← hstate, ← Course.limit_lt_shown_iff]
      exact warnings_iterate s out limit v n

end Observer

end ByteMachine

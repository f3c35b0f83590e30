import ByteMachine.Proofs.CommandLine.Stages
import ByteMachine.Proofs.Execution.Output
import ByteMachine.Proofs.Grammar.Skipping

/-!
# The environment of the command

The switches in the environment bear on what the command writes to the error stream, and on nothing
else. Where none of them is set, neither loading a program nor running it writes anything there.
-/

namespace ByteMachine

/-! ### Messages that are not shown -/

section Messages

variable {number : Nat} {p : Program} {ls : List (List Char)} {text : String} {message : Message}

/-- Parsing reports the lines that it skips, and nothing else. -/
theorem Program.eq_skippingLine_of_mem_collect (h : message ∈ (collect number p ls).messages) :
    ∃ skipped line, message = .skippingLine skipped line := by
  rw [messages_collect] at h
  obtain ⟨row, -, hrow⟩ := List.mem_map.1 h
  exact ⟨row.1, row.2, hrow.symm⟩

/-- A note that is shown only if it is asked for: a message that is less than a warning. -/
def Note.Minor : Note → Prop
  | .traced _ => False
  | .reported message => 3 ≤ message.level.rank

theorem Program.minor_of_mem_parse (h : message ∈ (parse text).messages) :
    (Note.reported message).Minor := by
  obtain ⟨skipped, line, rfl⟩ := eq_skippingLine_of_mem_collect h
  exact Nat.le_succ 3

theorem Note.shown_of_minor {note : Note} (h : note.Minor) :
    note.shown Settings.defaultVerbosity = "" := by
  cases note with
  | traced text => exact h.elim
  | reported message =>
    have hrank : ¬ message.level.rank ≤ Level.rank .warn := Nat.not_le.2 h
    simp [shown, Settings.defaultVerbosity, Verbosity.admits, hrank]

/-- Without a tracer a machine reports what it decodes, and nothing else. -/
theorem Machine.minor_of_mem_notes {m : Machine} {note : Note} (hm : m.tracer = none)
    (h : note ∈ m.notes) : note.Minor := by
  unfold notes at h
  cases hf : m.state.fetch with
  | error fault => simp [hf] at h
  | ok d =>
    simp only [hf, hm, Option.elim_none, List.nil_append, List.mem_singleton] at h
    rw [h]
    cases d with
    | halt byte => exact Nat.le_succ 3
    | instruction i => exact Nat.le_add_right 3 2

theorem Run.minor_of_mem_notes {m : Machine} {note : Note} {n : Nat} {out : Sink}
    (hm : m.tracer = none) (h : note ∈ (advance n (m.start out)).notes.toList) : note.Minor := by
  have hnotes : (advance n (m.start out)).machine.tracer = none ∧
      ∀ note ∈ (advance n (m.start out)).notes.toList, note.Minor := by
    -- the notes of a cycle are minor only as long as no tracer has come in
    apply advance_induction
      (P := fun r => r.machine.tracer = none ∧ ∀ note ∈ r.notes.toList, note.Minor)
    · exact ⟨hm, by simp [Machine.start]⟩
    · rintro r - ⟨htracer, hminor⟩
      constructor
      · rw [next, Machine.tracer_step, Machine.nextTracer, htracer]
        cases r.machine.state.fetch <;> rfl
      · rw [notes_next, List.forall_mem_append]
        exact ⟨hminor, fun note hnote => Machine.minor_of_mem_notes htracer hnote⟩
  exact hnotes.2 note h

theorem join_shown_of_minor {notes : List Note} (h : ∀ note ∈ notes, note.Minor) :
    String.join (notes.map (Note.shown Settings.defaultVerbosity)) = "" := by
  induction notes with
  | nil => rfl
  | cons note notes ih =>
    rw [List.forall_mem_cons] at h
    rw [List.map_cons, String.join_cons, Note.shown_of_minor h.1, ih h.2, String.append_empty]

end Messages

namespace CommandLine

namespace Invocation

variable {i j : Invocation} {path text : String} {content : Except ReadError ByteArray}
  {p : Program}

/-! ### Quiet environments -/

/-- None of the switches is set. -/
structure Quiet (i : Invocation) : Prop where
  trace : i.environment Settings.traceVariable = none
  warnUnparsable : i.environment Settings.warnUnparsableVariable = none
  verbosity : i.environment Settings.verbosityVariable = none

namespace Quiet

theorem settings_eq (h : i.Quiet) : i.settings = {} := by
  rw [settings, Settings.ofLookup, h.trace, h.warnUnparsable]
  rfl

theorem verbosity_eq (h : i.Quiet) : i.verbosity = Settings.defaultVerbosity := by
  rw [Invocation.verbosity, Settings.verbosity, h.verbosity]
  rfl

theorem shownLog_eq (h : i.Quiet) {messages : List Message}
    (hmessages : ∀ message ∈ messages, (Note.reported message).Minor) :
    i.shownLog messages = "" := by
  have hnotes : ∀ note ∈ messages.map Note.reported, note.Minor := by
    simpa only [List.forall_mem_map] using hmessages
  have hjoin := join_shown_of_minor hnotes
  rw [List.map_map] at hjoin
  rw [shownLog, h.verbosity_eq]
  exact hjoin

theorem parsingLog_eq (h : i.Quiet) (text : String) :
    i.shownLog (Program.parse text).messages = "" :=
  h.shownLog_eq fun _ => Program.minor_of_mem_parse

theorem stderr_session (h : i.Quiet) : (i.session path text p).stderr = "" := by
  apply h.shownLog_eq
  intro message hmessage
  rw [h.settings_eq, List.mem_append] at hmessage
  rcases hmessage with hmessage | hmessage
  · exact Program.minor_of_mem_parse hmessage
  · simp only [Program.loadedMessages, List.nil_append, List.mem_singleton, Bool.false_eq_true,
      if_false] at hmessage
    rw [hmessage]
    exact Nat.le_refl 3

/-- The machine has no tracer, so nothing is shown of its run. -/
theorem log_session (h : i.Quiet) : (i.session path text p).log = "" := by
  have htracer : (i.session path text p).machine.tracer = none := by
    rw [session, machine, h.settings_eq]
    rfl
  have hverbosity : (i.session path text p).verbosity = Settings.defaultVerbosity :=
    h.verbosity_eq
  have hnotes : ∀ note ∈ ((i.session path text p).machine.run .unlimited).notes.toList,
      note.Minor := by
    rw [Machine.run_eq_advance]
    exact fun note => Run.minor_of_mem_notes htracer
  rw [Session.log, h.stderr_session, Session.shownNotes, hverbosity, join_shown_of_minor hnotes,
    String.append_empty]

end Quiet

/-! ### Two environments -/

/-- What a caller gets if the second stage is the last, and otherwise the state in which the machine
begins. -/
def prepared : Except Outcome Session → Except (Nat × String) State
  | .error o => .error o.result
  | .ok s => .ok s.machine.state

theorem prepared_congr (hcalled : i.calledAs = j.calledAs) :
    prepared (i.prepare path content) = prepared (j.prepare path content) := by
  cases htext : Program.textOf content with
  | error reason => rw [prepare_of_noText htext, prepare_of_noText htext, hcalled]
  | ok text =>
    cases hparse : (Program.parse text).value with
    | error e =>
      rw [prepare_of_noProgram htext hparse, prepare_of_noProgram htext hparse]
      rfl
    | ok p =>
      rw [prepare_of_program htext hparse, prepare_of_program htext hparse]
      rfl

theorem result_close_congr {x y : Except Outcome Session} (h : prepared x = prepared y) :
    (close x).map Outcome.result = (close y).map Outcome.result := by
  cases x with
  | error o =>
    cases y with
    | error o' => exact congrArg some (Except.error.inj h)
    | ok s' => cases h
  | ok s =>
    cases y with
    | error o' => cases h
    | ok s' => exact Session.result_congr (Except.ok.inj h)

/-- The name by which the command was called, its arguments and the files decide whether it ends,
and then its exit code and its output. They also decide what has been printed after any number of
cycles, whether or not the program ends. -/
theorem environment_only_reports (calledAs : String) (arguments : List String)
    (environment environment' : String → Option String) :
    let i : Invocation := { calledAs, arguments, environment }
    let j : Invocation := { calledAs, arguments, environment := environment' }
    (∀ fs, (i.outcome? fs).map Outcome.result = (j.outcome? fs).map Outcome.result) ∧
    ∀ path content s s', i.prepare path content = .ok s → j.prepare path content = .ok s' →
      ∀ n, (s.machine.freely n).course = (s'.machine.freely n).course := by
  intro i j
  have hpath : i.path = j.path := rfl
  have hprepared (path : String) (content : Except ReadError ByteArray) :
      prepared (i.prepare path content) = prepared (j.prepare path content) := prepared_congr rfl
  constructor
  · intro fs
    cases hi : i.path with
    | error o => rw [outcome?_of_path_error hi, outcome?_of_path_error (hpath ▸ hi)]
    | ok path =>
      rw [outcome?_of_path hi, outcome?_of_path (hpath ▸ hi)]
      exact result_close_congr (hprepared path _)
  · intro path content s s' hi hj n
    have h := hprepared path content
    rw [hi, hj] at h
    rw [Machine.freely, Machine.freely, Run.course_advance, Run.course_advance,
      Machine.course_start_congr (Except.ok.inj h)]

end Invocation

end CommandLine

end ByteMachine

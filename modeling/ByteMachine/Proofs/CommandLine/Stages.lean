import ByteMachine.CommandLine.Invocation
import ByteMachine.Operation
import ByteMachine.Proofs.Execution.Course
import ByteMachine.Proofs.Grammar.Parsing

/-!
# The stages of the command

What each stage of the command comes to. A file gives no text, or a text that is no program, or a
program, which is then run. What the machine does then is decided by the program alone.
-/

namespace ByteMachine

/-! ### Loading -/

namespace Program

variable {path : String} {warn : Bool} {content : Except ReadError ByteArray} {reason : ReadError}
  {text : String} {e : ParseError} {p : Program}

theorem load_of_noText (h : textOf content = .error reason) :
    load path warn content = .silent (.error (.unreadable path reason)) := by
  rw [load, h]

theorem load_of_noProgram (htext : textOf content = .ok text)
    (hparse : (parse text).value = .error e) :
    load path warn content = ⟨(parse text).messages, .error (.unusable e)⟩ := by
  cases hparsed : parse text with
  | mk messages value =>
    rw [hparsed] at hparse
    cases hparse
    simp only [load, htext, hparsed]

theorem load_of_program (htext : textOf content = .ok text) (hparse : (parse text).value = .ok p) :
    load path warn content =
      ⟨(parse text).messages ++ loadedMessages path warn p, .ok p⟩ := by
  cases hparsed : parse text with
  | mk messages value =>
    rw [hparsed] at hparse
    cases hparse
    simp only [load, htext, hparsed]

/-- A new machine with the program in its memory. -/
def machine (p : Program) : Machine := .after [.load p.bytes]

theorem state_machine (h : p.bytes.size ≤ 256) :
    p.machine.state = { memory := Memory.blank.overwrite p.bytes } := by
  rw [machine, Machine.after, List.foldl_cons, Machine.perform_load _ h]
  rfl

end Program

namespace CommandLine

/-! ### Arguments -/

theorem Argument.ofString_of_head? {text : String} (h : text.toList.head? ≠ some '-') :
    ofString text = .plain text := by
  unfold ofString
  split
  case h_1 heq | h_2 heq | h_3 heq => simp [heq] at h
  case h_4 => rfl

/-- A path as the only argument is the path of the program. -/
theorem Request.read_singleton {path : String} (hne : path ≠ "")
    (hdash : path.toList.head? ≠ some '-') : read [path] = .load path := by
  simp only [read, ofArguments, Argument.ofString_of_head? hdash]
  unfold ofPath?
  split
  case h_1 heq => simp at heq
  case h_2 heq => exact absurd (Option.some.inj heq) hne
  case h_3 heq => rw [Option.some.inj heq]

/-! ### The second stage -/

namespace Invocation

variable {i : Invocation} {path : String} {content : Except ReadError ByteArray}
  {reason : ReadError} {text : String} {e : ParseError} {p : Program}

/-- The report that the file gives no text. -/
def complaint (calledAs path : String) (reason : ReadError) : String :=
  calledAs ++ ": " ++ (LoadError.unreadable path reason).message ++ "\n"

theorem prepare_of_noText (h : Program.textOf content = .error reason) :
    i.prepare path content =
      .error { exitCode := 1, stdout := complaint i.calledAs path reason, stderr := "" } := by
  simp only [prepare, Program.load_of_noText h]
  rfl

theorem prepare_of_noProgram (htext : Program.textOf content = .ok text)
    (hparse : (Program.parse text).value = .error e) :
    i.prepare path content = .error
      { exitCode := 1
        stdout := ""
        stderr := i.shownLog (Program.parse text).messages ++ report e.message } := by
  simp only [prepare, Program.load_of_noProgram htext hparse]
  rfl

/-- The session in which a program is run. -/
def session (i : Invocation) (path text : String) (p : Program) : Session where
  verbosity := i.verbosity
  machine := i.machine (Memory.blank.overwrite p.bytes)
  stderr := i.shownLog ((Program.parse text).messages ++
    Program.loadedMessages path i.settings.warnUnparsable p)

theorem prepare_of_program (htext : Program.textOf content = .ok text)
    (hparse : (Program.parse text).value = .ok p) :
    i.prepare path content = .ok (i.session path text p) := by
  simp only [prepare, Program.load_of_program htext hparse,
    Memory.load_of_le _ (Program.bytes_of_parse hparse).2]
  rfl

theorem state_session (hparse : (Program.parse text).value = .ok p) :
    (i.session path text p).machine.state = p.machine.state := by
  rw [Program.state_machine (Program.bytes_of_parse hparse).2]
  rfl

end Invocation

/-! ### The third stage -/

/-- What a caller of the command gets: the exit code and the output. -/
def Outcome.result (o : Outcome) : Nat × String := (o.exitCode, o.stdout)

namespace Session

variable {s s' : Session} {m : Machine}

/-- What is written to the error stream until the run has ended. -/
def log (s : Session) : String := s.stderr ++ s.shownNotes (s.machine.run .unlimited)

/-- What a session comes to depends on the state that its machine begins in. -/
theorem outcome?_eq (h : s.machine.state = m.state) :
    s.outcome? = (m.run .unlimited).result?.map fun result =>
      { exitCode := (s.closing result).1
        stdout := (m.run .unlimited).text
        stderr := s.log ++ (s.closing result).2 } := by
  have hcourse := Machine.course_run_congr h .unlimited
  have htext : (s.machine.run .unlimited).out.text = (m.run .unlimited).text :=
    congrArg (fun c => c.out.text) hcourse
  simp only [outcome?, Run.result?_congr hcourse, htext]
  rfl

/-- The exit code tells whether the run halted. -/
theorem exitCode_closing (s : Session) (result : Except Fault Summary) :
    (s.closing result).1 = if result.isOk then 0 else 1 := by
  cases result <;> rfl

theorem result_congr (h : s.machine.state = s'.machine.state) :
    s.outcome?.map Outcome.result = s'.outcome?.map Outcome.result := by
  rw [outcome?_eq h, outcome?_eq (s := s') rfl, Option.map_map, Option.map_map]
  congr 1
  funext result
  simp only [Function.comp_apply, Outcome.result, exitCode_closing]

end Session

/-! ### All stages -/

namespace Invocation

variable {i : Invocation} {path : String} {fs : FileSystem} {o : Outcome}

/-- What comes of the second stage. -/
def close : Except Outcome Session → Option Outcome
  | .error o => some o
  | .ok s => s.outcome?

@[simp] theorem close_error (o : Outcome) : close (.error o) = some o := rfl

@[simp] theorem close_ok (s : Session) : close (.ok s) = s.outcome? := rfl

theorem outcome?_of_path_error (h : i.path = .error o) : i.outcome? fs = some o := by
  rw [outcome?, h]

theorem outcome?_of_path (h : i.path = .ok path) :
    i.outcome? fs = close (i.prepare path (fs.read path)) := by
  rw [outcome?, h]
  rfl

end Invocation

end CommandLine

end ByteMachine

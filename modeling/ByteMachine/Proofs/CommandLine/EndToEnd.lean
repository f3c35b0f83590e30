import ByteMachine.Proofs.CommandLine.Environment
import ByteMachine.Proofs.Execution.StepBound

/-!
# From a path to an outcome

With the path of a file as its only argument the command ends in one of four ways: the file gives no
text, the text is no program, the program halts, or it fails. A failure is reported where it belongs
and leaves nothing behind of a later stage.
-/

namespace ByteMachine

/-! ### Runs that do not end -/

theorem Run.status_of_result?_none {r : Run} (h : r.result? = none) : r.status = .running := by
  cases hs : r.status with
  | running => rfl
  | halted | faulted fault => simp [result?, hs] at h

theorem Machine.running_of_result?_none {m : Machine} {out : Sink}
    (h : (m.run out).result? = none) (n : Nat) :
    (Run.advance n (m.start out)).status = .running := by
  by_contra hend
  have hrun := run_eq_of_ended hend
  rw [← hrun] at hend
  exact hend (Run.status_of_result?_none h)

namespace CommandLine.Invocation

variable {i : Invocation} {fs : FileSystem} {path text : String} {reason : ReadError}
  {e : ParseError} {p : Program} {summary : Summary} {fault : Fault}

/-! ### The ways to end -/

/-- The command ends with the exit code and the output, and with the last words on the error stream.
In a quiet environment nothing else is written there. -/
def EndsWith (i : Invocation) (fs : FileSystem) (exitCode : Nat) (stdout last : String) : Prop :=
  ∃ log, i.outcome? fs = some { exitCode, stdout, stderr := log ++ last } ∧ (i.Quiet → log = "")

theorem endsWith_of_noProgram (hpath : i.path = .ok path)
    (htext : Program.textOf (fs.read path) = .ok text)
    (hparse : (Program.parse text).value = .error e) : i.EndsWith fs 1 "" (report e.message) := by
  refine ⟨i.shownLog (Program.parse text).messages, ?_, fun h => h.parsingLog_eq text⟩
  rw [outcome?_of_path hpath, prepare_of_noProgram htext hparse, close_error]

/-- A program is run on a new machine. -/
theorem outcome?_of_program (hpath : i.path = .ok path)
    (htext : Program.textOf (fs.read path) = .ok text)
    (hparse : (Program.parse text).value = .ok p) :
    let s := i.session path text p
    i.outcome? fs = (p.machine.run .unlimited).result?.map fun result =>
      { exitCode := (s.closing result).1
        stdout := (p.machine.run .unlimited).text
        stderr := s.log ++ (s.closing result).2 } := by
  rw [outcome?_of_path hpath, prepare_of_program htext hparse, close_ok]
  exact Session.outcome?_eq (m := p.machine) (state_session hparse)

theorem endsWith_of_halted (hpath : i.path = .ok path)
    (htext : Program.textOf (fs.read path) = .ok text)
    (hparse : (Program.parse text).value = .ok p)
    (hresult : (p.machine.run .unlimited).result? = some (.ok summary)) :
    i.EndsWith fs 0 (p.machine.run .unlimited).text "" := by
  let s := i.session path text p
  refine ⟨s.log ++ (s.closing (.ok summary)).2, ?_, fun h => ?_⟩
  · rw [outcome?_of_program hpath htext hparse, hresult, String.append_empty]
    rfl
  · have hclosing : (s.closing (.ok summary)).2 = "" := by
      change (Note.reported _).shown i.verbosity = ""
      rw [h.verbosity_eq]
      exact Note.shown_of_minor (Nat.le_succ 3)
    rw [h.log_session, hclosing]
    rfl

theorem endsWith_of_failed (hpath : i.path = .ok path)
    (htext : Program.textOf (fs.read path) = .ok text)
    (hparse : (Program.parse text).value = .ok p)
    (hresult : (p.machine.run .unlimited).result? = some (.error fault)) :
    i.EndsWith fs 1 (p.machine.run .unlimited).text (report fault.message) := by
  refine ⟨(i.session path text p).log, ?_, fun h => h.log_session⟩
  rw [outcome?_of_program hpath htext hparse, hresult]
  rfl

/-! ### From the path on -/

/-- What the command comes to with a path. -/
structure Follows (i : Invocation) (fs : FileSystem) (path : String) : Prop where
  /-- Without a text there is no session, for whatever reason, and so nothing is run or traced. -/
  noText : ∀ {content reason}, Program.textOf content = .error reason →
    let o : Outcome :=
      { exitCode := 1, stdout := complaint i.calledAs path reason, stderr := "" }
    i.prepare path content = .error o ∧ (fs.read path = content → i.outcome? fs = some o)
  noProgram : ∀ {text e}, Program.textOf (fs.read path) = .ok text →
    (Program.parse text).value = .error e → i.EndsWith fs 1 "" (report e.message)
  loaded : ∀ {text p}, Program.textOf (fs.read path) = .ok text →
    (Program.parse text).value = .ok p → (Machine.initial.perform (.load p.bytes)).1 = .done
  halted : ∀ {text p summary}, Program.textOf (fs.read path) = .ok text →
    (Program.parse text).value = .ok p →
      (p.machine.run .unlimited).result? = some (.ok summary) →
        i.EndsWith fs 0 (p.machine.run .unlimited).text ""
  failed : ∀ {text p fault}, Program.textOf (fs.read path) = .ok text →
    (Program.parse text).value = .ok p →
      (p.machine.run .unlimited).result? = some (.error fault) →
        i.EndsWith fs 1 (p.machine.run .unlimited).text (report fault.message)
  endless : ∀ {text p}, Program.textOf (fs.read path) = .ok text →
    (Program.parse text).value = .ok p → (p.machine.run .unlimited).result? = none →
      i.outcome? fs = none ∧ ∀ n, (p.machine.freely n).status = .running
  halted_of_exitCode : ∀ {o}, i.outcome? fs = some o → o.exitCode = 0 →
    ∃ text p summary, Program.textOf (fs.read path) = .ok text ∧
      (Program.parse text).value = .ok p ∧
        (p.machine.run .unlimited).result? = some (.ok summary)

theorem EndsWith.exitCode_eq {exitCode : Nat} {stdout last : String} {o : Outcome}
    (h : i.EndsWith fs exitCode stdout last) (ho : i.outcome? fs = some o) :
    o.exitCode = exitCode := by
  obtain ⟨log, hlog, -⟩ := h
  rw [hlog] at ho
  cases ho
  rfl

theorem halted_of_exitCode {o : Outcome} (hpath : i.path = .ok path)
    (ho : i.outcome? fs = some o) (hzero : o.exitCode = 0) :
    ∃ text p summary, Program.textOf (fs.read path) = .ok text ∧
      (Program.parse text).value = .ok p ∧
        (p.machine.run .unlimited).result? = some (.ok summary) := by
  -- stage by stage, every other way to end has the exit code 1
  cases htext : Program.textOf (fs.read path) with
  | error reason =>
    rw [outcome?_of_path hpath, prepare_of_noText htext] at ho
    cases ho
    cases hzero
  | ok text =>
    cases hparse : (Program.parse text).value with
    | error e =>
      rw [(endsWith_of_noProgram hpath htext hparse).exitCode_eq ho] at hzero
      cases hzero
    | ok p =>
      cases hresult : (p.machine.run .unlimited).result? with
      | none =>
        rw [outcome?_of_program hpath htext hparse, hresult] at ho
        cases ho
      | some result =>
        cases result with
        | error fault =>
          rw [(endsWith_of_failed hpath htext hparse hresult).exitCode_eq ho] at hzero
          cases hzero
        | ok summary => exact ⟨text, p, summary, rfl, hparse, hresult⟩

theorem follows_path (hpath : i.path = .ok path) : i.Follows fs path where
  noText htext := by
    refine ⟨prepare_of_noText htext, fun hread => ?_⟩
    rw [outcome?_of_path hpath, hread, prepare_of_noText htext, close_error]
  noProgram := endsWith_of_noProgram hpath
  loaded _ hparse := by
    rw [Machine.perform_load _ (Program.bytes_of_parse hparse).2]
  halted := endsWith_of_halted hpath
  failed := endsWith_of_failed hpath
  endless htext hparse hresult := by
    refine ⟨?_, Machine.running_of_result?_none hresult⟩
    rw [outcome?_of_program hpath htext hparse, hresult]
    rfl
  halted_of_exitCode := halted_of_exitCode hpath

/-- With a path as its only argument, one that does not look like an option, the command goes from
the file to its outcome. -/
theorem end_to_end (i : Invocation) (fs : FileSystem) {path : String}
    (harguments : i.arguments = [path]) (hne : path ≠ "")
    (hdash : path.toList.head? ≠ some '-') : i.Follows fs path := by
  apply follows_path
  rw [Invocation.path, harguments, Request.read_singleton hne hdash]

theorem end_to_end_of_print :
    let i : Invocation :=
      { calledAs := "ls8", arguments := ["print"], environment := fun _ => none }
    let text := "01000111 # PRN\n00000000\n00000001 # HLT\n"
    let fs : FileSystem :=
      { root := .directory [("print", .file text.toByteArray)], working := [] }
    i.outcome? fs = some { exitCode := 0, stdout := "0\n", stderr := "" } := by
  intro i text fs
  let p : Program := { bytes := #[0b01000111, 0, 1] }
  have htext : Program.textOf (fs.read "print") = .ok text := by decide +kernel
  have hparse : (Program.parse text).value = .ok p := by decide +kernel
  have hhalt : (p.machine.freely 2).status = .halted := by decide +kernel
  have hrun : p.machine.run .unlimited = p.machine.freely 2 :=
    Machine.run_eq_of_ended (n := 2) (by rw [← Machine.freely, hhalt]; simp)
  have hresult : (p.machine.run .unlimited).result? = some (.ok ⟨1, 2, 1⟩) := by
    rw [hrun]
    decide +kernel
  have hprinted : (p.machine.run .unlimited).text = "0\n" := by
    rw [hrun]
    decide +kernel
  obtain ⟨log, ho, hlog⟩ :=
    (end_to_end i fs rfl (by decide) (by decide)).halted htext hparse hresult
  rw [ho, hprinted, hlog ⟨rfl, rfl, rfl⟩]
  rfl

end CommandLine.Invocation

end ByteMachine

import ByteMachine.Proofs.CommandLine.EndToEnd
import ByteMachine.Proofs.Execution.Findings

/-!
# Traces and the log

The trace of a program and the log of the machine tell of the same cycles. Where the command shows
both, each trace line is followed by the message that says the same, and a program that halts has
completed as many instructions as the log tells of.
-/

namespace ByteMachine

/-! ### The log of loading -/

section Loading

variable {path text : String} {warn : Bool} {p : Program} {message : Message}

theorem Program.origin_of_mem_loading
    (h : message ∈ (parse text).messages ++ loadedMessages path warn p) :
    message.origin = "ls8::loader" := by
  rw [List.mem_append, loadedMessages, List.mem_append, List.mem_singleton] at h
  rcases h with h | h | rfl
  · obtain ⟨skipped, line, rfl⟩ := eq_skippingLine_of_mem_collect h
    rfl
  · split_ifs at h
    · obtain ⟨skipped, -, rfl⟩ := List.mem_map.1 h
      rfl
    · cases h
  · rfl

theorem Message.level_ne_trace_of_origin (h : message.origin = "ls8::loader") :
    message.level ≠ .trace := by
  cases message with
  | skippingLine | notLiteral | loaded => simp [level]
  | halting | executing | traceRefused | finished => simp [origin] at h

end Loading

/-! ### The error stream of a run that halts -/

/-- Where everything is shown, each trace line is followed by the message of the machine. -/
theorem Finding.join_shown_notes (findings : List Finding) :
    String.join ((findings.flatMap notes).map (Note.shown (.upTo .trace))) =
      String.join (List.zipWith (fun row m => row.line ++ "\n" ++ m.line)
        (findings.map row) (findings.map message)) := by
  induction findings with
  | nil => rfl
  | cons f findings ih =>
    rw [List.flatMap_cons, List.map_append, String.join_append, ih, List.map_cons, List.map_cons,
      List.zipWith_cons_cons, String.join_cons]
    simp [notes, Note.shown, Verbosity.admits_trace]

namespace CommandLine

/-- A run that halts while everything is shown shows what it finds, which is one instruction for
each step of its summary, and a byte to halt at. -/
theorem Session.exists_findings {s : Session} {summary : Summary}
    (hverbosity : s.verbosity = .upTo .trace) (htracer : s.machine.tracer = some (.hex .unlimited))
    (h : (s.machine.run .unlimited).result? = some (.ok summary)) :
    ∃ findings : List Finding,
      s.shownNotes (s.machine.run .unlimited) =
        String.join (List.zipWith (fun row m => row.line ++ "\n" ++ m.line)
          (findings.map Finding.row) (findings.map Finding.message)) ∧
      findings.countP (·.message.level = .trace) = summary.steps.toNat ∧
      findings.length = summary.steps.toNat + 1 := by
  obtain ⟨hrun, hlength, hcount⟩ := Machine.findings_of_halted h
  have hnotes := Run.notes_iterate (r := s.machine.start .unlimited) htracer rfl
    (summary.steps.toNat + 1)
  refine ⟨_, ?_, hcount, hlength⟩
  rw [shownNotes, hverbosity, hrun, hnotes, ← Finding.join_shown_notes]
  rfl

namespace Invocation

variable {i : Invocation} {fs : FileSystem} {path : String} {o : Outcome}

theorem shownLog_of_trace (h : i.verbosity = .upTo .trace) (messages : List Message) :
    i.shownLog messages = String.join (messages.map Message.line) := by
  simp only [shownLog, h, Note.shown, Verbosity.admits_trace, if_true]

/-- What a program that halts leaves on the error stream: the log of loading it, one line of the
trace and one of the log for each finding of its run, and the last words. -/
theorem stderr_of_halted (hpath : i.path = .ok path) (ho : i.outcome? fs = some o)
    (hzero : o.exitCode = 0) (htrace : i.settings.trace = true)
    (hverbosity : i.verbosity = .upTo .trace) :
    ∃ (loading : List Message) (findings : List Finding) (haltedAt : Nat) (steps : UInt64),
      o.stderr = String.join (loading.map Message.line) ++
        String.join (List.zipWith (fun row m => row.line ++ "\n" ++ m.line)
          (findings.map Finding.row) (findings.map Finding.message)) ++
        (Message.finished haltedAt steps).line ∧
      (∀ m ∈ loading, m.origin = "ls8::loader") ∧
      findings.countP (·.message.level = .trace) = steps.toNat ∧
      findings.length = steps.toNat + 1 := by
  obtain ⟨text, p, summary, htext, hparse, hresult⟩ := halted_of_exitCode hpath ho hzero
  let s := i.session path text p
  have hstate : s.machine.state = p.machine.state := state_session hparse
  have hhalt : (s.machine.run .unlimited).result? = some (.ok summary) :=
    (Run.result?_congr (Machine.course_run_congr hstate .unlimited)).trans hresult
  obtain ⟨findings, hshown, hcount, hlength⟩ :=
    Session.exists_findings (s := s) hverbosity (if_pos htrace) hhalt
  rw [outcome?_of_program hpath htext hparse, hresult] at ho
  cases ho
  refine ⟨(Program.parse text).messages ++ Program.loadedMessages path i.settings.warnUnparsable p,
    findings, summary.haltedAt, summary.steps, ?_, fun m => Program.origin_of_mem_loading, hcount,
    hlength⟩
  have hlast : (s.closing (.ok summary)).2 =
      (Message.finished summary.haltedAt summary.steps).line := by
    change (Note.reported _).shown i.verbosity = _
    rw [hverbosity]
    rfl
  change s.stderr ++ s.shownNotes _ ++ (s.closing (.ok summary)).2 = _
  rw [hlast, hshown, ← shownLog_of_trace hverbosity]
  rfl

end Invocation

end CommandLine

/-! ### The machine and the command -/

/-- The two channels agree. Whatever state a machine is in and whatever its output takes, a cycle
adds one message to the log if something is decoded in it, and none otherwise; after any number of
cycles the messages are as many as the trace lines, and each one tells what its line shows. If the
command shows both and the program halts, then the instructions that it has counted are those that
the log tells of, and there is one more trace line. -/
theorem trace_and_log_agree :
    (∀ (s : State) (out : Sink) (before : String),
      let o := Observer.reading { text := before } (.upTo .trace)
      let r (n : Nat) := Run.next^[n] ((o.machine s).start out)
      (∀ n, o.log (r (n + 1)) = o.log (r n) ++
        match (r n).state.fetch with
        | .error _ => []
        | .ok (.halt b) => [.halting b (r n).state.pc]
        | .ok (.instruction i) =>
          [.executing (r n).state.pc i.opcode (i.operands[0]?.getD 0) (i.operands[1]?.getD 0)]) ∧
      ∀ n, ∃ rows : List Row,
        (r n).traced = before ++ String.join (rows.map fun row => row.line ++ "\n") ∧
        (∀ row ∈ rows, '\n' ∉ row.line.toList) ∧
        List.Forall₂ Row.ToldBy rows (o.log (r n))) ∧
    ∀ (i : CommandLine.Invocation) (fs : FileSystem) (path : String) (o : CommandLine.Outcome),
      i.path = .ok path → i.outcome? fs = some o → o.exitCode = 0 →
      i.settings.trace = true → i.verbosity = .upTo .trace →
      ∃ (loading messages : List Message) (rows : List Row) (haltedAt : Nat) (steps : UInt64),
        let log := loading ++ messages ++ [.finished haltedAt steps]
        o.stderr = String.join (loading.map Message.line) ++
          String.join (List.zipWith (fun row m => row.line ++ "\n" ++ m.line) rows messages) ++
          (Message.finished haltedAt steps).line ∧
        (∀ m ∈ loading, m.origin = "ls8::loader") ∧
        List.Forall₂ Row.ToldBy rows messages ∧
        log.countP (·.level = .trace) = steps.toNat ∧
        rows.length = steps.toNat + 1 := by
  constructor
  · intro s out before o r
    have htracer : ((o.machine s).start out).machine.tracer = some (.hex { text := before }) := rfl
    refine ⟨fun n => ?_, Observer.exists_rows rfl htracer rfl rfl⟩
    have hnext : o.log (r (n + 1)) =
        o.log (r n) ++ (r n).state.finding?.toList.map Finding.message :=
      Observer.log_iterate_succ rfl htracer rfl n
    rw [hnext]
    congr 1
    cases hf : (r n).state.fetch with
    | error fault => rw [State.finding?_of_fetch_error hf, Option.toList_none, List.map_nil]
    | ok d =>
      rw [State.finding?_of_fetch hf]
      cases d <;> rfl
  · intro i fs path o hpath ho hzero htrace hverbosity
    obtain ⟨loading, findings, haltedAt, steps, hstderr, hloading, hcount, hlength⟩ :=
      CommandLine.Invocation.stderr_of_halted hpath ho hzero htrace hverbosity
    refine ⟨loading, findings.map Finding.message, findings.map Finding.row, haltedAt, steps,
      hstderr, hloading, Finding.forall₂_toldBy findings, ?_, ?_⟩
    · have hnone : loading.countP (·.level = .trace) = 0 := by
        rw [List.countP_eq_zero]
        intro m hm
        simpa using Message.level_ne_trace_of_origin (hloading m hm)
      rw [List.countP_append, List.countP_append, List.countP_map, hnone, Nat.zero_add]
      exact hcount
    · rw [List.length_map, hlength]

/-- A load into a register that there is not is reported although it fails, and both channels tell
of a program that loads and halts. -/
theorem trace_and_log_agree_of_load :
    let s : State := { memory := Memory.blank.overwrite #[130, 8, 1] }
    let o := Observer.reading {} (.upTo .trace)
    let failed := Run.next^[1] ((o.machine s).start .unlimited)
    failed.status = .faulted (.registerOutOfRange 8) ∧
    o.log failed = [.executing 0 .ldi 8 1] ∧
    let environment (key : String) := [("LS8_TRACE", "on"), ("RUST_LOG", "trace")].lookup key
    let i : CommandLine.Invocation := { calledAs := "ls8", arguments := ["load"], environment }
    let text := "10000010\n00000000\n00001000\n"
    let fs : FileSystem :=
      { root := .directory [("load", .file text.toByteArray)], working := [] }
    ∃ (ended : CommandLine.Outcome) (loading messages : List Message) (rows : List Row)
        (haltedAt : Nat) (steps : UInt64),
      i.outcome? fs = some ended ∧ ended.exitCode = 0 ∧
      ended.stderr = String.join (loading.map Message.line) ++
        String.join (List.zipWith (fun row m => row.line ++ "\n" ++ m.line) rows messages) ++
        (Message.finished haltedAt steps).line ∧
      List.Forall₂ Row.ToldBy rows messages ∧ rows.length = steps.toNat + 1 := by
  intro s o failed
  obtain ⟨hmachine, hcommand⟩ := trace_and_log_agree
  refine ⟨by decide +kernel, ?_, ?_⟩
  · have hlog := (hmachine s .unlimited "").1 0
    exact hlog.trans (by decide +kernel)
  · intro environment i text fs
    let p : Program := { bytes := #[130, 0, 8] }
    have htext : Program.textOf (fs.read "load") = .ok text := by decide +kernel
    have hparse : (Program.parse text).value = .ok p := by decide +kernel
    have hhalt : (p.machine.freely 2).status = .halted := by decide +kernel
    have hrun : p.machine.run .unlimited = p.machine.freely 2 :=
      Machine.run_eq_of_ended (n := 2) (by rw [← Machine.freely, hhalt]; simp)
    have hresult : (p.machine.run .unlimited).result? = some (.ok ⟨1, 3, 0⟩) := by
      rw [hrun]
      decide +kernel
    have hpath : i.path = .ok "load" := by decide +kernel
    obtain ⟨log, hended, -⟩ :=
      CommandLine.Invocation.endsWith_of_halted hpath htext hparse hresult
    obtain ⟨loading, messages, rows, haltedAt, steps, hstderr, -, htold, -, hlength⟩ :=
      hcommand i fs "load" _ hpath hended rfl (by decide +kernel) (by decide +kernel)
    exact ⟨_, loading, messages, rows, haltedAt, steps, hended, rfl, hstderr, htold, hlength⟩

end ByteMachine

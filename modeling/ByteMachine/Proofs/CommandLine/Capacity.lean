import ByteMachine.Proofs.CommandLine.Stages
import ByteMachine.Proofs.Grammar.Layouts

/-!
# Capacity

Whether a program fits into memory is asked twice, by the parser and by the machine. Both draw the
line at the same size and the parser asks first, so what it lets through is never refused by the
machine.
-/

namespace ByteMachine

namespace Program

variable {path source : String} {warn : Bool} {content : Except ReadError ByteArray} {p : Program}

/-- The parser and the machine agree on what fits. -/
theorem isOk_load_bytes (p : Program) (m : Memory) : (m.load p.bytes).isOk = p.checked.isOk := by
  rcases Nat.lt_or_ge 256 p.bytes.size with hsize | hsize
  · rw [Memory.load_of_lt m hsize, checked, if_neg (Nat.not_le.2 hsize)]
    rfl
  · rw [Memory.load_of_le m hsize, checked, if_pos hsize]
    rfl

/-- Every machine takes a program that was parsed, and only its memory changes. -/
theorem exists_perform_load (h : (parse source).value = .ok p) (m : Machine) :
    ∃ memory : Memory,
      m.perform (.load p.bytes) = (.done, { m with state := { m.state with memory } }) ∧
      memory.toList = p.bytes.toList ++ m.state.memory.toList.drop p.bytes.size :=
  have hsize := (bytes_of_parse h).2
  ⟨_, m.perform_load hsize, Memory.toList_overwrite _ hsize⟩

/-- What is loaded from a file was parsed from its text. -/
theorem exists_text_of_load (h : (load path warn content).value = .ok p) :
    ∃ text, textOf content = .ok text ∧ (parse text).value = .ok p := by
  cases htext : textOf content with
  | error reason => simp [load_of_noText htext, Logged.silent] at h
  | ok text =>
    cases hparse : (parse text).value with
    | error e => simp [load_of_noProgram htext hparse] at h
    | ok q =>
      rw [load_of_program htext hparse] at h
      exact ⟨text, rfl, by rw [hparse, Except.ok.inj h]⟩

end Program

namespace CommandLine.Invocation

variable {i : Invocation} {path : String} {content : Except ReadError ByteArray} {p : Program}

/-- A program that was loaded gets into the memory of a session. -/
theorem exists_session_of_load
    (h : (Program.load path i.settings.warnUnparsable content).value = .ok p) :
    ∃ session, i.prepare path content = .ok session := by
  obtain ⟨text, htext, hparse⟩ := Program.exists_text_of_load h
  exact ⟨_, prepare_of_program htext hparse⟩

end CommandLine.Invocation

/-- Parsing undoes every layout of bytes that fit into memory, and counts those that do not. What is
parsed is taken by every machine, so the command never fails at putting it into memory. -/
theorem Program.layouts_and_capacity :
    (∀ (bytes : List UInt8) (source : String), Layout bytes source.toList →
      (parse source).value =
        if bytes.length ≤ 256 then .ok { bytes := bytes.toArray, skipped := #[] }
        else .error (.tooLarge bytes.length)) ∧
    (∀ (p : Program) (m : Memory), (m.load p.bytes).isOk = p.checked.isOk) ∧
    (∀ (source : String) (p : Program), (parse source).value = .ok p → ∀ m : Machine,
      ∃ memory : Memory,
        m.perform (.load p.bytes) = (.done, { m with state := { m.state with memory } }) ∧
        memory.toList = p.bytes.toList ++ m.state.memory.toList.drop p.bytes.size) ∧
    ∀ (i : CommandLine.Invocation) (path : String) (content : Except ReadError ByteArray)
      (p : Program), (load path i.settings.warnUnparsable content).value = .ok p →
      ∃ session, i.prepare path content = .ok session :=
  ⟨fun _ _ => Layout.parse_eq, isOk_load_bytes, fun _ _ => exists_perform_load,
    fun _ _ _ _ => CommandLine.Invocation.exists_session_of_load⟩

/-- Two bytes with blanks, zeros and a comment, both line ends, and lines without a byte. -/
theorem Program.layouts_and_capacity_of_two_bytes :
    let source := "\t 0001 # one\r\n# nothing\n\u3000\r\n11111111"
    Layout [1, 255] source.toList ∧
      (parse source).value = .ok { bytes := #[1, 255], skipped := #[] } ∧
      ∃ memory : Memory, Machine.initial.perform (.load #[1, 255]) =
          (.done, { Machine.initial with state := { Machine.initial.state with memory } }) ∧
        memory.toList = [1, 255] ++ List.replicate 254 0 := by
  have hgap {text : List Char}
      (h : (text.all fun c => Text.isBlank c && c != '\n') = true) : Line.IsGap text := by
    simpa [Line.IsGap] using h
  have hnone : Line.IsGap [] := hgap rfl
  have hone : Line.Layout (some 1) "\t 0001 # one".toList :=
    @Line.Layout.byte "\t ".toList " ".toList "# one".toList 1 3 (hgap (by decide))
      (hgap (by decide)) (Line.isComment_cons (by decide))
  have hnothing : Line.Layout none "# nothing".toList :=
    .blank hnone (Line.isComment_cons (by decide))
  have hspace : Line.Layout none "\u3000".toList :=
    @Line.Layout.blank "\u3000".toList [] (hgap (by decide)) Line.isComment_nil
  have hlast : Line.Layout (some 255) "11111111".toList :=
    .byte 255 0 hnone hnone Line.isComment_nil
  have hlayout := Layout.returnFeed hone (.feed hnothing (.returnFeed hspace (.last hlast)))
  obtain ⟨hparse, -, hload, -⟩ := Program.layouts_and_capacity
  have hparsed := hparse _ "\t 0001 # one\r\n# nothing\n\u3000\r\n11111111" hlayout
  exact ⟨hlayout, hparsed, hload _ _ hparsed Machine.initial⟩

end ByteMachine

import ByteMachine.Proofs.CommandLine.Sources
import ByteMachine.Proofs.Grammar.Skipping

/-!
# What loading reports

Loading a program reports each line that it skips, at once and with its text. Only when it has come
to a program does it report anything else: the same lines once more, if that is asked for, and the
size of the program. So all that is said of skipped lines agrees.
-/

namespace ByteMachine

/-- What a log of the verbosity shows: the messages with their levels and wordings. -/
def Logged.entries {α : Type} (r : Logged α) (v : Verbosity) : List (Level × String) :=
  (r.messages.filter (v.admits ·.level)).map fun m => (m.level, m.text)

theorem Logged.entries_trace {α : Type} (r : Logged α) :
    r.entries (.upTo .trace) = r.messages.map fun m => (m.level, m.text) := by
  simp only [entries, Verbosity.admits_trace, List.filter_true]

namespace Program

/-- The entry for a line that is skipped, which quotes the line. -/
def skippingEntry (row : Nat × List Char) : Level × String :=
  (.debug, "skipping line " ++ Text.decimal row.1 ++ ": " ++ Text.quoted row.2)

/-- The entry for a line that was skipped on the way to a program. -/
def warningEntry (path : String) (number : Nat) : Level × String :=
  (.warn, path ++ ":" ++ Text.decimal number ++ ": not a binary literal, skipped")

/-- The entry for a program that was loaded. -/
def loadedEntry (path : String) (size skipped : Nat) : Level × String :=
  (.info, "loaded " ++ Text.decimal size ++ " bytes from " ++ path ++ " (" ++
    Text.decimal skipped ++ " lines skipped)")

/-- The log of loading a text that has these lines, and what comes of it. -/
inductive Reports (path : String) (options : LoaderOptions) (ls : List (List Char)) :
    Except LoadError Program → List (Level × String) → Prop where
  | tooWide {rows : List (Nat × List Char)} (hrows : AreSkipped ls rows) (number : Nat)
      (literal : List Char) :
      Reports path options ls (.error (.unusable (.tooWide number literal)))
        (rows.map skippingEntry)
  | tooLarge {rows : List (Nat × List Char)} (hrows : AreSkipped ls rows)
      (hall : ∀ i line, ls[i]? = some line → Line.Says line .unparsable → (i + 1, line) ∈ rows)
      (size : Nat) :
      Reports path options ls (.error (.unusable (.tooLarge size))) (rows.map skippingEntry)
  | program {rows : List (Nat × List Char)} {p : Program} (hrows : AreSkipped ls rows)
      (hskipped : rows.map Prod.fst = p.skipped.toList) :
      Reports path options ls (.ok p)
        (rows.map skippingEntry ++
          (if options.warnUnparsable then (rows.map Prod.fst).map (warningEntry path) else []) ++
          [loadedEntry path p.bytes.size rows.length])

theorem entries_skipping (number : Nat) (p : Program) (ls : List (List Char)) :
    ((collect number p ls).messages.map fun m => (m.level, m.text)) =
      (skippedLines number ls).map skippingEntry := by
  rw [messages_collect, List.map_map]
  rfl

theorem entries_loaded (path : String) (options : LoaderOptions) (p : Program) :
    ((loadedMessages path options.warnUnparsable p).map fun m => (m.level, m.text)) =
      (if options.warnUnparsable then p.skipped.toList.map (warningEntry path) else []) ++
        [loadedEntry path p.bytes.size p.skipped.size] := by
  unfold loadedMessages
  split_ifs
  · rw [List.map_append, List.map_map]
    rfl
  · rfl

end Program

/-- What is logged of loading a text, with nothing left out. Whatever is said of skipped lines, at
once, as warnings and as their number, is said of the same lines. -/
theorem FileSystem.load_reports {fs : FileSystem} {path text : String} {ls : List (List Char)}
    (htext : fs.HasText path text) (hls : Text.Splits text.toList ls) (options : LoaderOptions) :
    let loaded := fs.load path options.warnUnparsable
    Program.Reports path options ls loaded.value (loaded.entries (.upTo .trace)) := by
  intro loaded
  have htextOf := hasText_iff.1 htext
  obtain rfl := Text.splits_iff.1 hls
  have hrows := Program.areSkipped_skippedLines (Text.lines text.toList)
  have hparsing : (Program.parse text).messages.map (fun m => (m.level, m.text)) =
      (Program.skippedLines 1 (Text.lines text.toList)).map Program.skippingEntry :=
    Program.entries_skipping 1 {} _
  rw [Logged.entries_trace]
  cases hparse : (Program.parse text).value with
  | error e =>
    have hloaded : loaded = _ := Program.load_of_noProgram htextOf hparse
    rw [hloaded, hparsing]
    cases e with
    | tooWide number literal => exact .tooWide hrows number literal
    | tooLarge size =>
      have hmakes : Program.Makes _ (Program.parse text).value := Program.makes_collect _
      rw [hparse] at hmakes
      cases hmakes with
      | tooLarge hwide hsize =>
        exact .tooLarge hrows (fun i line => Program.mem_skippedLines_of_narrow hwide) _
  | ok p =>
    have hloaded : loaded = _ := Program.load_of_program htextOf hparse
    have hskipped := Program.skipped_of_parse hparse
    have hsize := congrArg List.length hskipped
    rw [Array.length_toList, List.length_map] at hsize
    rw [hloaded, List.map_append, hparsing, Program.entries_loaded, hskipped, hsize,
      ← List.append_assoc]
    exact .program hrows hskipped.symm

/-- A line that is skipped is quoted at once, named once more if that is asked for, and counted. -/
theorem FileSystem.load_reports_of_skipped_line :
    let fs : FileSystem :=
      { root := .directory [("a", .file "\t\"\r\n1\n".toByteArray)], working := [] }
    let p : Program := { bytes := #[1], skipped := #[1] }
    fs.HasText "a" "\t\"\r\n1\n" ∧
    Program.Reports "a" ⟨true⟩ [['\t', '"'], ['1']] (.ok p)
      [(.debug, "skipping line 1: \"\\t\\\"\""), (.warn, "a:1: not a binary literal, skipped"),
        (.info, "loaded 1 bytes from a (1 lines skipped)")] := by
  intro fs p
  have htext : fs.HasText "a" "\t\"\r\n1\n" := by
    refine ⟨"\t\"\r\n1\n".toByteArray, by decide +kernel, Text.encodes_iff.2 (by decide)⟩
  have hls : Text.Splits "\t\"\r\n1\n".toList [['\t', '"'], ['1']] :=
    Text.splits_iff.2 (by decide)
  have hvalue : (fs.load "a" true).value = .ok p := by decide +kernel
  have hentries : (fs.load "a" true).entries (.upTo .trace) =
      [(.debug, "skipping line 1: \"\\t\\\"\""), (.warn, "a:1: not a binary literal, skipped"),
        (.info, "loaded 1 bytes from a (1 lines skipped)")] := by
    decide +kernel
  refine ⟨htext, ?_⟩
  rw [← hvalue, ← hentries]
  exact load_reports htext hls ⟨true⟩

end ByteMachine

import ByteMachine.Proofs.CommandLine.Stages
import ByteMachine.Proofs.Grammar.Encoding

/-!
# The text of a file

Loading a file is parsing the text that its bytes stand for, whatever is asked of loading. A file
whose bytes stand for no text is not parsed at all, so what its other lines say does not matter.
-/

namespace ByteMachine

namespace Program

variable {path text : String} {warn : Bool} {content : Except ReadError ByteArray}
  {bytes : ByteArray} {e : LoadError}

theorem textOf_ok_eq_ok_iff : textOf (.ok bytes) = .ok text ↔
    Text.Encodes bytes.data.toList text.toList := by
  rw [← Text.fromUTF8?_eq_some_iff]
  simp only [textOf, bind, Except.bind]
  cases String.fromUTF8? bytes with
  | none => simp [throw, throwThe, MonadExceptOf.throw]
  | some text' => simp [pure, Except.pure]

theorem textOf_ok_eq_error (h : ∀ text : String, ¬ Text.Encodes bytes.data.toList text.toList) :
    textOf (.ok bytes) = .error .notText := by
  simp only [textOf, bind, Except.bind]
  cases hread : String.fromUTF8? bytes with
  | none => rfl
  | some text => exact absurd (Text.fromUTF8?_eq_some_iff.1 hread) (h text)

/-- A text is parsed as it is. -/
theorem value_load_of_text (h : textOf content = .ok text) :
    (load path warn content).value = (parse text).value.mapError .unusable := by
  cases hparse : (parse text).value with
  | error e => rw [load_of_noProgram h hparse, Except.mapError]
  | ok p => rw [load_of_program h hparse, Except.mapError]

/-- The options bear on what is reported and not on what comes of loading. -/
theorem value_load_congr (path : String) (warn warn' : Bool)
    (content : Except ReadError ByteArray) :
    (load path warn content).value = (load path warn' content).value := by
  cases htext : textOf content with
  | error reason => rw [load_of_noText htext, load_of_noText htext]
  | ok text => rw [value_load_of_text htext, value_load_of_text htext]

/-- The source of a program is missing exactly if there is no text. -/
theorem isMissingSource_iff (h : (load path warn content).value = .error e) :
    e.isMissingSource = true ↔ ∀ text, textOf content ≠ .ok text := by
  cases htext : textOf content with
  | error reason =>
    rw [load_of_noText htext] at h
    cases h
    simp [LoadError.isMissingSource]
  | ok text =>
    rw [value_load_of_text htext] at h
    cases hparse : (parse text).value with
    | error reason =>
      rw [hparse] at h
      cases h
      simp [LoadError.isMissingSource]
    | ok p =>
      rw [hparse] at h
      cases h

end Program

namespace FileSystem

variable {fs : FileSystem} {path text : String}

/-- The path leads to a file whose bytes stand for the text. -/
def HasText (fs : FileSystem) (path text : String) : Prop :=
  ∃ content, fs.read path = .ok content ∧ Text.Encodes content.data.toList text.toList

theorem hasText_iff : fs.HasText path text ↔ Program.textOf (fs.read path) = .ok text := by
  unfold HasText
  cases fs.read path with
  | error reason => simp [Program.textOf, bind, Except.bind]
  | ok content => simp [Program.textOf_ok_eq_ok_iff]

/-- A file is loaded by parsing its text, and the options make no difference to what comes of it. A
file that is not UTF-8, at whatever place, is unreadable, and then nothing is reported. The source
is missing exactly if there is no text, so it is not missing if the text is no program. -/
theorem loads_text (fs : FileSystem) (path : String) (options : LoaderOptions) :
    let loaded := fs.load path options.warnUnparsable
    (∀ content, fs.read path = .ok content →
      let bytes := content.data.toList
      (∀ text : String, Text.Encodes bytes text.toList →
        loaded.value = (Program.parse text).value.mapError .unusable) ∧
      (Text.IsMalformed bytes → loaded = .silent (.error (.unreadable path .notText))) ∧
      (Text.IsMalformed bytes ↔ ∀ text : String, ¬ Text.Encodes bytes text.toList)) ∧
    (∀ options' : LoaderOptions, (fs.load path options'.warnUnparsable).value = loaded.value) ∧
    ∀ e, loaded.value = .error e →
      (e.isMissingSource = true ↔ ∀ text, ¬ fs.HasText path text) ∧
      ∀ reason, e = .unusable reason → e.isMissingSource = false := by
  intro loaded
  refine ⟨?_, fun options' => Program.value_load_congr path _ _ _, ?_⟩
  · intro content hread bytes
    have hmalformed :
        Text.IsMalformed bytes ↔ ∀ text : String, ¬ Text.Encodes bytes text.toList := by
      rw [Text.isMalformed_iff]
      constructor
      · exact fun h text => h text.toList
      · intro h cs
        have hcs := h (.ofList cs)
        rwa [String.toList_ofList] at hcs
    refine ⟨fun text htext => ?_, fun hbad => ?_, hmalformed⟩
    · exact Program.value_load_of_text (hasText_iff.1 ⟨content, hread, htext⟩)
    · apply Program.load_of_noText
      rw [hread]
      exact Program.textOf_ok_eq_error (hmalformed.1 hbad)
  · intro e he
    refine ⟨?_, fun reason hreason => hreason ▸ rfl⟩
    simp only [hasText_iff]
    exact Program.isMissingSource_iff he

/-- Of two files that begin with a literal above 255 only the one is parsed that does not have a
surrogate in a comment further on. -/
theorem loads_text_of_surrogate :
    let wide : ByteArray := "100000000\n#".toByteArray
    let broken : ByteArray := wide ++ ⟨#[0xED, 0xA0, 0x80]⟩
    let fs : FileSystem :=
      { root := .directory [("wide", .file wide), ("broken", .file broken)], working := [] }
    Text.IsMalformed broken.data.toList ∧
    (fs.load "wide" true).value = .error (.unusable (.tooWide 1 "100000000".toList)) ∧
    (fs.load "broken" true).value = .error (.unreadable "broken" .notText) ∧
    ∀ text, ¬ fs.HasText "broken" text := by
  intro wide broken fs
  have hwide : Text.Encodes wide.data.toList "100000000\n#".toList :=
    Text.encodes_iff.2 (by decide)
  have hnone : ∀ form n, Text.Form form n → ¬ form <+: [0xED, 0xA0, 0x80] := by
    intro form n hform hprefix
    cases hform with
    | one ha | two ha hb | four ha hb hc hd hshort hlast =>
      obtain ⟨rfl, -⟩ := List.cons_prefix_cons.1 hprefix
      exact absurd ha (by decide)
    | three ha hb hc hshort hsurrogate =>
      obtain ⟨rfl, htail⟩ := List.cons_prefix_cons.1 hprefix
      obtain ⟨rfl, -⟩ := List.cons_prefix_cons.1 htail
      exact absurd (hsurrogate rfl) (by decide)
  have hbroken : Text.IsMalformed broken.data.toList :=
    ⟨wide.data.toList, [0xED, 0xA0, 0x80], _, by decide, hwide, by decide, hnone⟩
  obtain ⟨hload, -⟩ := loads_text fs "wide" ⟨true⟩
  obtain ⟨hload', -, hmissing⟩ := loads_text fs "broken" ⟨true⟩
  have hparsed := (hload wide (by decide +kernel)).1 _ hwide
  have hrefused := (hload' broken (by decide +kernel)).2.1 hbroken
  refine ⟨hbroken, ?_, ?_, ?_⟩
  · rw [hparsed]
    decide +kernel
  · rw [hrefused]
    rfl
  · exact (hmissing _ (by rw [hrefused]; rfl)).1.1 rfl

end FileSystem

end ByteMachine

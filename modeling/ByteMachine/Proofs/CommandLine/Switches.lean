import Mathlib.Data.List.Forall2
import ByteMachine.Proofs.Grammar.Encoding
import ByteMachine.Proofs.Grammar.Stripping
import ByteMachine.Settings

/-!
# Switches

Each switch is set by one variable and by nothing else. A value turns it on if it is one of four
words, apart from blanks around the word and the case of the letters from A to Z. All that a value
has beyond that turns it off: a blank inside, a letter that only looks like one of these, or any
other character.
-/

namespace ByteMachine

namespace Text

/-! ### Letters of either case -/

/-- The second character is the small letter of the first one if that is a capital from A to Z, and
otherwise it is the first one itself. -/
inductive Lowers (c : Char) : Char → Prop where
  | capital {d : Char} (hc : 'A' ≤ c ∧ c ≤ 'Z') (hd : d.toNat = c.toNat + 32) : Lowers c d
  | other (hc : ¬('A' ≤ c ∧ c ≤ 'Z')) : Lowers c c

variable {c d : Char} {cs ds : List Char}

theorem isCapital_iff : 'A' ≤ c ∧ c ≤ 'Z' ↔ 0x41 ≤ c.toNat ∧ c.toNat ≤ 0x5A :=
  Iff.rfl

theorem toNat_toLower (hc : 'A' ≤ c ∧ c ≤ 'Z') : c.toLower.toNat = c.toNat + 32 := by
  have hrange : c.val.toNat ≤ 0x5A := (isCapital_iff.1 hc).2
  have hsum : (c.val + ('a'.val - 'A'.val)).toNat = c.val.toNat + 32 := by
    rw [UInt32.toNat_add, show ('a'.val - 'A'.val).toNat = 32 from rfl]
    omega
  unfold Char.toLower
  split
  case isTrue => exact hsum
  case isFalse h => exact absurd hc h

theorem toLower_eq_self (hc : ¬('A' ≤ c ∧ c ≤ 'Z')) : c.toLower = c :=
  dif_neg hc

theorem lowers_iff : Lowers c d ↔ c.toLower = d := by
  constructor
  · rintro (⟨hc, hd⟩ | hc)
    · exact Char.toNat_inj.1 ((toNat_toLower hc).trans hd.symm)
    · exact toLower_eq_self hc
  · rintro rfl
    by_cases hc : 'A' ≤ c ∧ c ≤ 'Z'
    · exact .capital hc (toNat_toLower hc)
    · rw [toLower_eq_self hc]
      exact .other hc

theorem forall₂_lowers_iff : List.Forall₂ Lowers cs ds ↔ cs.map Char.toLower = ds := by
  have hlowers : Lowers = fun c d => c.toLower = d := by
    funext c d
    exact propext lowers_iff
  rw [hlowers, ← List.forall₂_map_left_iff (R := Eq), List.forall₂_eq_eq_eq]

theorem isBlank_toLower (c : Char) : isBlank c.toLower = isBlank c := by
  by_cases hc : 'A' ≤ c ∧ c ≤ 'Z'
  · have hsmall := toNat_toLower hc
    rw [isCapital_iff] at hc
    have hletter {c : Char} (h : 0x41 ≤ c.toNat ∧ c.toNat ≤ 0x7A) : isBlank c = false := by
      simp only [isBlank, Bool.or_eq_false_iff, Bool.and_eq_false_iff, decide_eq_false_iff_not,
        beq_eq_false_iff_ne]
      omega
    rw [hletter (by omega), hletter (by omega)]
  · rw [toLower_eq_self hc]

/-! ### Blanks around a text -/

variable {before after : List Char}

theorem trim_map_toLower (cs : List Char) :
    trim (cs.map Char.toLower) = (trim cs).map Char.toLower := by
  have hblank : isBlank ∘ Char.toLower = isBlank := funext isBlank_toLower
  simp only [trim, trimStart, trimEnd, ← List.map_reverse, List.dropWhile_map, hblank]

/-- The texts differ only in the blanks around them and in the case of their letters from A to Z. -/
inductive Resembles : List Char → List Char → Prop where
  | intro {before before' core core' after after' : List Char}
      (hbefore : ∀ c ∈ before, isBlank c = true) (hbefore' : ∀ c ∈ before', isBlank c = true)
      (hcore : List.Forall₂ (fun c d => ∃ small, Lowers c small ∧ Lowers d small) core core')
      (hafter : ∀ c ∈ after, isBlank c = true) (hafter' : ∀ c ∈ after', isBlank c = true) :
      Resembles (before ++ core ++ after) (before' ++ core' ++ after')

theorem resembles_iff :
    Resembles cs ds ↔ (trim cs).map Char.toLower = (trim ds).map Char.toLower := by
  have hcore {core core' : List Char} :
      List.Forall₂ (fun c d => ∃ small, Lowers c small ∧ Lowers d small) core core' ↔
        core.map Char.toLower = core'.map Char.toLower := by
    have hsame : (fun c d => ∃ small, Lowers c small ∧ Lowers d small) =
        fun c d => c.toLower = d.toLower := by
      funext c d
      simp only [lowers_iff, exists_eq_left']
      exact propext eq_comm
    rw [hsame, ← List.forall₂_eq_eq_eq, List.forall₂_map_left_iff, List.forall₂_map_right_iff]
  constructor
  · rintro ⟨hbefore, hbefore', hsame, hafter, hafter'⟩
    rw [trim_append_blanks hbefore hafter, trim_append_blanks hbefore' hafter',
      ← trim_map_toLower, hcore.1 hsame, trim_map_toLower]
  · intro h
    obtain ⟨before, after, hcs, hbefore, hafter⟩ := exists_trim cs
    obtain ⟨before', after', hds, hbefore', hafter'⟩ := exists_trim ds
    rw [hcs, hds]
    exact .intro hbefore hbefore' (hcore.2 h) hafter hafter'

end Text

namespace Settings

variable {lookup lookup' : String → Option String} {key value value' word : String}
  {left more right cs : List Char} {c : Char} {flag : Settings → Bool}

/-! ### Values that turn a switch on -/

/-- The words that turn a switch on. -/
def words : List String := ["1", "true", "yes", "on"]

/-- The text is one of the words, in letters of either case and with blanks around. -/
inductive Affirms : List Char → Prop where
  | intro {before core after : List Char} {word : String}
      (hbefore : ∀ c ∈ before, Text.isBlank c = true) (hword : word ∈ words)
      (hcore : List.Forall₂ Text.Lowers core word.toList)
      (hafter : ∀ c ∈ after, Text.isBlank c = true) : Affirms (before ++ core ++ after)

theorem isBlank_of_mem_word (hword : word ∈ words) (hc : c ∈ word.toList) :
    Text.isBlank c = false := by
  have hwords : ∀ word ∈ words, word.toList.all (fun c => !Text.isBlank c) = true := by
    decide +kernel
  have hblank := List.all_eq_true.1 (hwords word hword) c hc
  rwa [Bool.not_eq_true'] at hblank

theorem isAscii_of_mem_word (hword : word ∈ words) (hc : c ∈ word.toList) : c.toNat < 128 := by
  have hwords : ∀ word ∈ words, word.toList.all (·.toNat < 128) = true := by decide +kernel
  exact of_decide_eq_true (List.all_eq_true.1 (hwords word hword) c hc)

/-- No word is left of another one if some of its letters are taken away. -/
theorem length_eq_of_sublist_words {word word' : String} (hword : word ∈ words)
    (hword' : word' ∈ words) (h : word.toList.Sublist word'.toList) :
    word.toList.length = word'.toList.length := by
  have hwords : ∀ word ∈ words, ∀ word' ∈ words, word.toList.Sublist word'.toList →
      word.toList.length = word'.toList.length := by decide +kernel
  exact hwords word hword word' hword' h

theorem isBlank_of_mem_core {core : List Char} (hword : word ∈ words)
    (hcore : List.Forall₂ Text.Lowers core word.toList) (hc : c ∈ core) :
    Text.isBlank c = false := by
  rw [← Text.isBlank_toLower]
  apply isBlank_of_mem_word hword
  rw [← Text.forall₂_lowers_iff.1 hcore]
  exact List.mem_map_of_mem hc

/-- A value turns a switch on exactly if it is one of the words but for blanks and case. -/
theorem isOn_iff : isOn value = true ↔ Affirms value.toList := by
  have hmem : isOn value = true ↔
      String.ofList ((Text.trim value.toList).map Char.toLower) ∈ words := by
    simp [isOn, words]
  rw [hmem]
  constructor
  · intro h
    obtain ⟨before, after, hvalue, hbefore, hafter⟩ := Text.exists_trim value.toList
    rw [hvalue]
    exact .intro hbefore h (Text.forall₂_lowers_iff.2 String.toList_ofList.symm) hafter
  · intro h
    generalize value.toList = cs at h
    obtain ⟨hbefore, hword, hcore, hafter⟩ := h
    rw [Text.trim_append hbefore hafter
      (fun c hc => isBlank_of_mem_core hword hcore (List.mem_of_mem_head? hc))
      (fun c hc => isBlank_of_mem_core hword hcore (List.mem_of_getLast? hc)),
      Text.forall₂_lowers_iff.1 hcore, String.ofList_toList]
    exact hword

theorem isOn_congr (h : Text.Resembles value.toList value'.toList) : isOn value = isOn value' := by
  rw [isOn, isOn, Text.resembles_iff.1 h]

/-! ### Values that turn a switch off -/

/-- What a text may have that no word has, with any blanks around and in letters of either case. -/
inductive Denies : List Char → Prop where
  | inner {left right : List Char} {c : Char} (hc : Text.isBlank c = true)
      (hleft : ∃ d ∈ left, Text.isBlank d = false) (hright : ∃ d ∈ right, Text.isBlank d = false) :
      Denies (left ++ c :: right)
  | foreign {cs : List Char} {c : Char} (hmem : c ∈ cs) (hblank : Text.isBlank c = false)
      (hc : 128 ≤ c.toNat) : Denies cs
  | further {left more right : List Char} (haffirms : Affirms (left ++ right))
      (hmore : ∃ c ∈ more, Text.isBlank c = false) : Denies (left ++ more ++ right)

/-- What is left of a text without its blanks, in small letters. -/
def bare (cs : List Char) : List Char :=
  (cs.filter fun c => !Text.isBlank c).map Char.toLower

theorem bare_append (left right : List Char) :
    bare (left ++ right) = bare left ++ bare right := by
  rw [bare, List.filter_append, List.map_append, bare, bare]

theorem Affirms.exists_bare_eq (h : Affirms cs) : ∃ word ∈ words, bare cs = word.toList := by
  obtain @⟨before, core, after, word, hbefore, hword, hcore, hafter⟩ := h
  have hnone {cs : List Char} (hcs : ∀ c ∈ cs, Text.isBlank c = true) : bare cs = [] := by
    rw [bare, List.filter_eq_nil_iff.2 (by simpa using hcs), List.map_nil]
  have hall : bare core = core.map Char.toLower := by
    have hkept : ∀ c ∈ core, (!Text.isBlank c) = true := by
      simpa using fun c hc => isBlank_of_mem_core hword hcore hc
    rw [bare, List.filter_eq_self.2 hkept]
  refine ⟨word, hword, ?_⟩
  rw [bare_append, bare_append, hnone hbefore, hnone hafter, hall,
    Text.forall₂_lowers_iff.1 hcore, List.nil_append, List.append_nil]

/-- What stands between two characters of a word that are no blanks is none either. -/
theorem Affirms.isBlank_of_inner (h : Affirms (left ++ c :: right))
    (hleft : ∃ d ∈ left, Text.isBlank d = false) (hright : ∃ d ∈ right, Text.isBlank d = false) :
    Text.isBlank c = false := by
  generalize hall : left ++ c :: right = cs at h
  obtain @⟨before, core, after, word, hbefore, hword, hcore, hafter⟩ := h
  obtain ⟨a, ha, hablank⟩ := hleft
  obtain ⟨b, hb, hbblank⟩ := hright
  have hnot_before : a ∉ before := fun h => by simp [hbefore a h] at hablank
  have hnot_after : b ∉ after := fun h => by simp [hafter b h] at hbblank
  -- neither of the two stands outside the word, so all that is between them is inside
  rcases List.append_eq_append_iff.1 hall with ⟨inside, hinside, hrest⟩ | ⟨inside, hinside, hrest⟩
  · rcases List.cons_eq_append_iff.1 hrest with ⟨rfl, hrest⟩ | ⟨inside, rfl, rfl⟩
    · rw [List.nil_append] at hrest
      rw [← hrest] at hnot_after
      exact absurd (List.mem_cons_of_mem c hb) hnot_after
    · rcases List.append_eq_append_iff.1 hinside with ⟨outside, rfl, hcore'⟩ | ⟨outside, hcs, -⟩
      · apply isBlank_of_mem_core hword hcore
        rw [hcore']
        exact List.mem_append_right _ List.mem_cons_self
      · rw [hcs] at hnot_before
        exact absurd (List.mem_append_left _ ha) hnot_before
  · rw [hrest] at hnot_after
    exact absurd (List.mem_append_right _ (List.mem_cons_of_mem c hb)) hnot_after

theorem Denies.not_affirms (h : Denies cs) : ¬ Affirms cs := by
  intro haffirms
  cases h with
  | inner hc hleft hright =>
    rw [haffirms.isBlank_of_inner hleft hright] at hc
    cases hc
  | @foreign cs c hmem hblank hc =>
    obtain ⟨word, hword, hbare⟩ := haffirms.exists_bare_eq
    have hlower : c.toLower = c := by
      apply Text.toLower_eq_self
      rw [Text.isCapital_iff]
      omega
    have hletter : c ∈ word.toList := by
      rw [← hbare, bare, List.mem_map]
      exact ⟨c, List.mem_filter.2 ⟨hmem, by simp [hblank]⟩, hlower⟩
    exact Nat.not_lt.2 hc (isAscii_of_mem_word hword hletter)
  | @further left more right hshort hmore =>
    obtain ⟨word, hword, hbare⟩ := haffirms.exists_bare_eq
    obtain ⟨short, hshort, hfewer⟩ := hshort.exists_bare_eq
    obtain ⟨c, hmem, hc⟩ := hmore
    have hmem' : c.toLower ∈ bare more :=
      List.mem_map_of_mem (List.mem_filter.2 ⟨hmem, by simp [hc]⟩)
    rw [bare_append] at hfewer
    rw [bare_append, bare_append] at hbare
    have hsublist : short.toList.Sublist word.toList := by
      rw [← hfewer, ← hbare]
      exact (List.sublist_append_left _ _).append_right _
    have hlength := length_eq_of_sublist_words hshort hword hsublist
    have hpos : 0 < (bare more).length := List.length_pos_of_mem hmem'
    rw [← hfewer, ← hbare] at hlength
    simp only [List.length_append] at hlength
    omega

/-! ### The settings -/

/-- The variable that bears on a switch. -/
inductive Sets : String → (Settings → Bool) → Prop where
  | trace : Sets "LS8_TRACE" Settings.trace
  | warnUnparsable : Sets "LS8_WARN_UNPARSABLE" Settings.warnUnparsable
  | loader : Sets "LS8_WARN_UNPARSABLE" fun s => s.loaderOptions.warnUnparsable

theorem Sets.flag_ofLookup (h : Sets key flag) (lookup : String → Option String) :
    flag (ofLookup lookup) = (lookup key).any isOn := by
  cases h <;> rfl

theorem Sets.flag_iff (h : Sets key flag) : flag (ofLookup lookup) = true ↔
    ∃ value, lookup key = some value ∧ Affirms value.toList := by
  rw [h.flag_ofLookup, Option.any_eq_true]
  simp only [isOn_iff]

theorem Sets.flag_eq_false_iff (h : Sets key flag) : flag (ofLookup lookup) = false ↔
    ∀ value, lookup key = some value → ¬ Affirms value.toList := by
  rw [← Bool.not_eq_true, h.flag_iff]
  simp only [not_exists, not_and]

/-- Both tables have a value for the variable, the same but for the blanks around it and the case of
its letters, or neither table has any. -/
def AlikeAt (key : String) (lookup lookup' : String → Option String) : Prop :=
  Option.Rel (fun value value' => Text.Resembles value.toList value'.toList) (lookup key)
    (lookup' key)

theorem Sets.flag_congr (h : Sets key flag) (hvalues : AlikeAt key lookup lookup') :
    flag (ofLookup lookup) = flag (ofLookup lookup') := by
  rw [h.flag_ofLookup, h.flag_ofLookup]
  unfold AlikeAt at hvalues
  generalize lookup key = value at hvalues ⊢
  generalize lookup' key = value' at hvalues ⊢
  cases hvalues with
  | none => rfl
  | some hvalue => rw [Option.any_some, Option.any_some, isOn_congr hvalue]

theorem ofLookup_congr
    (h : ∀ key flag, Sets key flag → flag (ofLookup lookup) = flag (ofLookup lookup')) :
    ofLookup lookup = ofLookup lookup' := by
  have htrace := h _ _ .trace
  have hwarn := h _ _ .warnUnparsable
  simp only [ofLookup] at htrace hwarn ⊢
  rw [htrace, hwarn]

theorem ofLookup_eq_default_iff : ofLookup lookup = {} ↔
    ∀ key flag, Sets key flag → ∀ value, lookup key = some value → ¬ Affirms value.toList := by
  have hnone : ofLookup (fun _ => none) = {} := rfl
  constructor
  · intro h key flag hflag
    rw [← hflag.flag_eq_false_iff, h, ← hnone, hflag.flag_ofLookup, Option.any_none]
  · intro h
    rw [← hnone]
    apply ofLookup_congr
    intro key flag hflag
    rw [hflag.flag_eq_false_iff.2 (h key flag hflag), hflag.flag_ofLookup, Option.any_none]

/-- The table has the values of the environment that stand for a text, and no others. -/
def Reads (environment : String → Option ByteArray) (lookup : String → Option String) : Prop :=
  ∀ key text, lookup key = some text ↔
    ∃ bytes, environment key = some bytes ∧ Text.Encodes bytes.data.toList text.toList

theorem reads_iff {environment : String → Option ByteArray} :
    Reads environment lookup ↔ lookup = fun key => (environment key).bind String.fromUTF8? := by
  simp only [Reads, ← Text.fromUTF8?_eq_some_iff, ← Option.bind_eq_some_iff, ← Option.ext_iff,
    funext_iff]

/-- Each switch is on exactly if its own variable says so in one of the words. Blanks around the
word and the case of its letters do not matter, and any other difference from it does. The settings
in an environment are those in a table of its values, without those that are not UTF-8. -/
theorem follow_variables (lookup lookup' : String → Option String) :
    (∀ key flag, Sets key flag →
      (flag (ofLookup lookup) = true ↔ ∃ value, lookup key = some value ∧ Affirms value.toList) ∧
      (∀ value, lookup key = some value → Denies value.toList → flag (ofLookup lookup) = false) ∧
      (lookup key = lookup' key → flag (ofLookup lookup) = flag (ofLookup lookup'))) ∧
    ((∀ key flag, Sets key flag → AlikeAt key lookup lookup') →
      ofLookup lookup = ofLookup lookup') ∧
    (ofLookup lookup = {} ↔ ∀ key flag, Sets key flag →
      ∀ value, lookup key = some value → ¬ Affirms value.toList) ∧
    ∀ environment, ∃ read, Reads environment read ∧ ofEnvironment environment = ofLookup read := by
  refine ⟨?_, ?_, ofLookup_eq_default_iff, fun environment => ⟨_, reads_iff.2 rfl, rfl⟩⟩
  · intro key flag hflag
    refine ⟨hflag.flag_iff, ?_, ?_⟩
    · intro value hvalue hdenies
      rw [hflag.flag_eq_false_iff, hvalue]
      rintro _ ⟨⟩
      exact hdenies.not_affirms
    · intro hsame
      rw [hflag.flag_ofLookup, hflag.flag_ofLookup, hsame]
  · intro hvalues
    exact ofLookup_congr fun key flag hflag => hflag.flag_congr (hvalues key flag hflag)

/-- Blanks of any kind around a word leave it what it is, and a long `s` in it does not. -/
theorem follow_variables_of_long_letter :
    let lookup (key : String) : Option String :=
      if key = "LS8_TRACE" then some "\u3000TrUe\u0085" else
      if key = "LS8_WARN_UNPARSABLE" then some "ye\u017F" else none
    let lookup' (key : String) : Option String :=
      if key = "LS8_TRACE" then some "true" else
      if key = "LS8_WARN_UNPARSABLE" then some "YE\u017F\n" else some key
    (ofLookup lookup).trace = true ∧ (ofLookup lookup).warnUnparsable = false ∧
      ofLookup lookup = ofLookup lookup' := by
  intro lookup lookup'
  obtain ⟨hflags, hcongr, -⟩ := follow_variables lookup lookup'
  refine ⟨?_, ?_, ?_⟩
  · obtain ⟨hiff, -⟩ := hflags _ _ .trace
    refine hiff.2 ⟨_, rfl, ?_⟩
    have h : Affirms (['\u3000'] ++ ['T', 'r', 'U', 'e'] ++ ['\u0085']) :=
      @Affirms.intro _ _ _ "true" (List.forall_mem_singleton.2 rfl) (by decide)
        (Text.forall₂_lowers_iff.2 (by decide)) (List.forall_mem_singleton.2 rfl)
    exact h
  · obtain ⟨-, hdenies, -⟩ := hflags _ _ .warnUnparsable
    exact hdenies "ye\u017F" rfl (@Denies.foreign _ '\u017F' (by decide) (by decide) (by decide))
  · apply hcongr
    rintro _ _ (_ | _ | _)
    all_goals exact .some (Text.resembles_iff.2 (by decide))

end Settings

end ByteMachine

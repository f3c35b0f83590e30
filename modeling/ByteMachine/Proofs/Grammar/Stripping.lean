import Mathlib.Data.List.DropRight
import ByteMachine.Line

/-!
# The code of a line

`Strips` says what is left of a line without its comment and the blanks around, without saying how
to take them away. Every line has exactly one code.
-/

namespace ByteMachine

/-! ### Blanks at the ends of a text -/

namespace Text

variable {before core after cs : List Char} {c : Char}

theorem trim_append (hbefore : ∀ c ∈ before, isBlank c = true)
    (hafter : ∀ c ∈ after, isBlank c = true) (hfirst : ∀ c ∈ core.head?, isBlank c = false)
    (hlast : ∀ c ∈ core.getLast?, isBlank c = false) : trim (before ++ core ++ after) = core := by
  have hstart : trimStart (before ++ core ++ after) = trimStart (core ++ after) := by
    rw [List.append_assoc, trimStart, List.dropWhile_append_of_pos hbefore, trimStart]
  have hend (cs : List Char) : trimEnd (cs ++ after) = trimEnd cs := by
    rw [trimEnd, List.reverse_append, List.dropWhile_append_of_pos (by simpa using hafter), trimEnd]
  rw [trim, hstart]
  cases core with
  | nil =>
    have hblank : trimStart after = [] := List.dropWhile_eq_nil_iff.2 hafter
    rw [List.nil_append, hblank, trimEnd_nil]
  | cons c core =>
    have hc : isBlank c = false := hfirst c rfl
    rw [trimStart, List.cons_append, List.dropWhile_cons_of_neg (by simp [hc]), ← List.cons_append,
      hend]
    apply List.rdropWhile_eq_self_iff.2
    intro hne
    simp [hlast _ (List.getLast?_eq_getLast_of_ne_nil hne)]

theorem exists_trim (cs : List Char) : ∃ before after, cs = before ++ trim cs ++ after ∧
    (∀ c ∈ before, isBlank c = true) ∧ ∀ c ∈ after, isBlank c = true := by
  refine ⟨cs.takeWhile isBlank, (trimStart cs).rtakeWhile isBlank, ?_,
    fun c hc => List.mem_takeWhile_imp hc, fun c hc => List.mem_rtakeWhile_imp hc⟩
  have hend : trim cs ++ (trimStart cs).rtakeWhile isBlank = trimStart cs :=
    List.rdropWhile_append_rtakeWhile
  rw [List.append_assoc, hend, trimStart, List.takeWhile_append_dropWhile]

theorem isBlank_head?_trim (hc : c ∈ (trim cs).head?) : isBlank c = false := by
  have hprefix : trim cs <+: trimStart cs := List.rdropWhile_prefix _ _
  have hstart : (trimStart cs).head? = some c := by
    obtain ⟨after, hafter⟩ := hprefix
    rw [← hafter, List.head?_append, hc, Option.some_or]
  have hnot := List.head?_dropWhile_not isBlank cs
  rw [← trimStart, hstart] at hnot
  exact hnot

theorem isBlank_getLast?_trim (hc : c ∈ (trim cs).getLast?) : isBlank c = false := by
  obtain ⟨hne, rfl⟩ := List.mem_getLast?_eq_getLast hc
  have hnot := List.rdropWhile_last_not isBlank (trimStart cs) hne
  exact Bool.eq_false_iff.2 hnot

/-- Blanks around a text do not count, whatever blanks it has at its own ends. -/
theorem trim_append_blanks (hbefore : ∀ c ∈ before, isBlank c = true)
    (hafter : ∀ c ∈ after, isBlank c = true) (cs : List Char) :
    trim (before ++ cs ++ after) = trim cs := by
  obtain ⟨start, finish, hcs, hstart, hfinish⟩ := exists_trim cs
  have hall : before ++ cs ++ after = (before ++ start) ++ trim cs ++ (finish ++ after) := by
    conv_lhs => rw [hcs]
    simp only [List.append_assoc]
  rw [hall]
  exact trim_append (List.forall_mem_append.2 ⟨hbefore, hstart⟩)
    (List.forall_mem_append.2 ⟨hfinish, hafter⟩) (fun _ => isBlank_head?_trim)
    (fun _ => isBlank_getLast?_trim)

end Text

/-! ### Code and comment -/

namespace Line

/-- The code of a line: what stands between the blanks at its start and those before its first `#`,
or before its end if it has none. -/
inductive Strips : List Char → List Char → Prop where
  | intro {before code after comment : List Char} (hbefore : ∀ c ∈ before, Text.isBlank c = true)
      (hafter : ∀ c ∈ after, Text.isBlank c = true) (hcode : '#' ∉ code)
      (hfirst : ∀ c ∈ code.head?, Text.isBlank c = false)
      (hlast : ∀ c ∈ code.getLast?, Text.isBlank c = false)
      (hcomment : ∀ c ∈ comment.head?, c = '#') : Strips (before ++ code ++ after ++ comment) code

variable {line : List Char}

theorem takeWhile_comment {text comment : List Char} (htext : '#' ∉ text)
    (hcomment : ∀ c ∈ comment.head?, c = '#') :
    (text ++ comment).takeWhile (· != '#') = text := by
  have hkept : ∀ c ∈ text, (c != '#') = true := by
    intro c hc
    simpa using fun h : c = '#' => htext (h ▸ hc)
  rw [List.takeWhile_append_of_pos hkept]
  cases comment with
  | nil => rw [List.takeWhile_nil, List.append_nil]
  | cons c comment =>
    obtain rfl : c = '#' := hcomment c rfl
    simp

theorem strips_code (line : List Char) : Strips line (code line) := by
  obtain ⟨before, after, htext, hbefore, hafter⟩ :=
    Text.exists_trim (line.takeWhile (· != '#'))
  have hcomment : ∀ c ∈ (line.dropWhile (· != '#')).head?, c = '#' := by
    intro c hc
    have hnot := List.head?_dropWhile_not (· != '#') line
    rw [hc] at hnot
    simpa using hnot
  have hhash : '#' ∉ code line := by
    intro hmem
    have htaken : '#' ∈ line.takeWhile (· != '#') := by
      rw [htext]
      exact List.mem_append_left _ (List.mem_append_right _ hmem)
    simpa using List.mem_takeWhile_imp htaken
  have hline : before ++ code line ++ after ++ line.dropWhile (· != '#') = line := by
    rw [code, ← htext, List.takeWhile_append_dropWhile]
  have hstrips := Strips.intro hbefore hafter hhash (fun _ => Text.isBlank_head?_trim)
    (fun _ => Text.isBlank_getLast?_trim) hcomment
  rwa [hline] at hstrips

/-- Binary digits with blanks around them and a comment are the code of the line. -/
theorem strips_of_digits {before digits after comment : List Char}
    (hbefore : ∀ c ∈ before, Text.isBlank c = true) (hafter : ∀ c ∈ after, Text.isBlank c = true)
    (hd : ∀ c ∈ digits, c = '0' ∨ c = '1') (hcomment : ∀ c ∈ comment.head?, c = '#') :
    Strips (before ++ digits ++ after ++ comment) digits := by
  have hdigit {c : Char} (hc : c ∈ digits) : Text.isBlank c = false := by
    rcases hd c hc with rfl | rfl
    · exact Text.isBlank_zero
    · exact Text.isBlank_one
  have hhash : '#' ∉ digits := fun h => absurd (hd _ h) (by decide)
  exact .intro hbefore hafter hhash (fun c hc => hdigit (List.mem_of_head? hc))
    (fun c hc => hdigit (List.mem_of_getLast? hc)) hcomment

/-- A line has its code and no other. -/
theorem strips_iff {text : List Char} : Strips line text ↔ code line = text := by
  constructor
  · rintro ⟨hbefore, hafter, hcode, hfirst, hlast, hcomment⟩
    have not_hash {cs : List Char} (hcs : ∀ c ∈ cs, Text.isBlank c = true) : '#' ∉ cs :=
      fun h => absurd (hcs _ h) (by decide)
    rw [code, takeWhile_comment (by simp [not_hash hbefore, not_hash hafter, hcode]) hcomment,
      Text.trim_append hbefore hafter hfirst hlast]
  · rintro rfl
    exact strips_code line

end Line

end ByteMachine

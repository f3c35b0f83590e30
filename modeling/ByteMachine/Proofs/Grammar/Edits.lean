import Mathlib.Logic.Relation
import ByteMachine.Proofs.Grammar.Layouts

/-!
# Edits of the layout

A program text may be given another layout, by blanks at the ends of a line and before a comment, by
comments, and by other line ends. Such edits change the text but not what it is parsed to: neither
the bytes, nor which lines are skipped, nor what is said of a literal above 255.
-/

namespace ByteMachine

/-! ### Edits of a line -/

namespace Line

/-- One edit of a line: blanks are put at its start, at its end or before a `#`, or a comment is put
at its end. -/
inductive Edit : List Char → List Char → Prop where
  | start {gap : List Char} (line : List Char) (hgap : IsGap gap) : Edit line (gap ++ line)
  | finish {gap : List Char} (line : List Char) (hgap : IsGap gap) : Edit line (line ++ gap)
  | beforeComment {gap : List Char} (code comment : List Char) (hgap : IsGap gap) :
      Edit (code ++ '#' :: comment) (code ++ gap ++ '#' :: comment)
  | comment {text : List Char} (line : List Char) (htext : '\n' ∉ text) :
      Edit line (line ++ '#' :: text)

variable {line line' gap : List Char}

theorem Edit.newline_notMem (h : Edit line line') (hline : '\n' ∉ line) : '\n' ∉ line' := by
  cases h with
  | start line hgap | finish line hgap => simp [hline, hgap.newline_notMem]
  | beforeComment code comment hgap => simpa [hgap.newline_notMem] using hline
  | comment line htext => simp [hline, htext]

theorem code_append_comment (line text : List Char) : code (line ++ '#' :: text) = code line := by
  have htaken : (line ++ '#' :: text).takeWhile (· != '#') = line.takeWhile (· != '#') := by
    induction line with
    | nil => rfl
    | cons c line ih =>
      by_cases hc : c = '#'
      · simp [hc]
      · simp [hc, ih]
  rw [code, htaken, code]

theorem code_append_of_isGap (hgap : IsGap gap) (line : List Char) :
    code (gap ++ line) = code line := by
  have hkept : ∀ c ∈ gap, (c != '#') = true := by
    intro c hc
    rw [bne_iff_ne]
    rintro rfl
    exact absurd (hgap.isBlank _ hc) (by decide)
  rw [code, List.takeWhile_append_of_pos hkept, Text.trim, Text.trimStart,
    List.dropWhile_append_of_pos hgap.isBlank, code, Text.trim, Text.trimStart]

/-- An edit of a line leaves its code as it is, and so what is read in it. -/
theorem Edit.read_eq (h : Edit line line') : read line = read line' := by
  have hcode : code line = code line' := by
    cases h with
    | start line hgap => rw [code_append_of_isGap hgap]
    | finish line hgap => rw [code_append_blanks line hgap.isBlank]
    | beforeComment code comment hgap =>
      rw [code_append_comment, code_append_comment, code_append_blanks code hgap.isBlank]
    | comment line htext => rw [code_append_comment]
  rw [read, hcode, read]

end Line

/-! ### Edits of a text -/

namespace Text

/-- The text has ended, or a line ends here. -/
def AtLineEnd (text : List Char) : Prop :=
  text = [] ∨ (∃ rest, text = '\n' :: rest) ∨ ∃ rest, text = '\r' :: '\n' :: rest

/-- The text with a carriage return before each line feed. -/
def withReturns (text : List Char) : List Char :=
  text.flatMap fun c => if c = '\n' then ['\r', '\n'] else [c]

theorem withReturns_append (first second : List Char) :
    withReturns (first ++ second) = withReturns first ++ withReturns second :=
  List.flatMap_append

theorem withReturns_of_notMem {line : List Char} (h : '\n' ∉ line) : withReturns line = line := by
  induction line with
  | nil => rfl
  | cons c line ih =>
    obtain ⟨hc, hline⟩ := List.ne_and_not_mem_of_not_mem_cons h
    rw [← List.singleton_append, withReturns_append, ih hline]
    simp [withReturns, hc.symm]

end Text

namespace Program

/-- One edit of a text: a line is edited, each line feed is given a carriage return, or a line feed
is put at the end. -/
inductive Edit : List Char → List Char → Prop where
  | line {before line line' after : List Char} (hbefore : Text.IsWhole before)
      (hline : '\n' ∉ line) (hafter : Text.AtLineEnd after) (h : Line.Edit line line') :
      Edit (before ++ line ++ after) (before ++ line' ++ after)
  | returns (text : List Char) : Edit text (Text.withReturns text)
  | feed (text : List Char) : Edit text (text ++ ['\n'])

/-- Two texts that are parsed to the same result, whatever has been read before. -/
def Alike (text text' : List Char) : Prop :=
  ∀ number p,
    (collect number p (Text.lines text)).value = (collect number p (Text.lines text')).value

variable {line line' before text text' : List Char} {ls ls' rest rest' : List (List Char)}

/-! ### Lines that are read alike -/

theorem collect_cons_congr (hline : Line.read line = Line.read line')
    (hrest : ∀ number p, (collect number p rest).value = (collect number p rest').value)
    (number : Nat) (p : Program) :
    (collect number p (line :: rest)).value = (collect number p (line' :: rest')).value := by
  cases hk : Line.read line' with
  | blank => rw [collect_blank (hline.trans hk), collect_blank hk, hrest]
  | byte b => rw [collect_byte (hline.trans hk), collect_byte hk, hrest]
  | unparsable =>
    rw [collect_unparsable (hline.trans hk), collect_unparsable hk]
    exact hrest _ _
  | tooWide literal => rw [collect_tooWide (hline.trans hk), collect_tooWide hk]

theorem collect_congr (h : ls.map Line.read = ls'.map Line.read) (number : Nat) (p : Program) :
    (collect number p ls).value = (collect number p ls').value := by
  induction ls generalizing ls' number p with
  | nil =>
    obtain rfl := List.map_eq_nil_iff.1 h.symm
    rfl
  | cons line ls ih =>
    obtain ⟨line', ls', rfl, hline, hls⟩ := List.map_eq_cons_iff.1 h.symm
    exact collect_cons_congr hline.symm (fun _ _ => ih hls.symm _ _) number p

theorem collect_append_congr
    (h : ∀ number p, (collect number p rest).value = (collect number p rest').value)
    (ls : List (List Char)) (number : Nat) (p : Program) :
    (collect number p (ls ++ rest)).value = (collect number p (ls ++ rest')).value := by
  induction ls generalizing number p with
  | nil => exact h number p
  | cons line ls ih => exact collect_cons_congr rfl ih number p

/-- A last line without a line feed may be empty and then is none, but this makes no difference. -/
theorem collect_lines_last (hline : '\n' ∉ line) (number : Nat) (p : Program) :
    collect number p (Text.lines line) = collect number p [line] := by
  by_cases hne : line = []
  · rw [hne, Text.lines_nil, collect_blank rfl, collect_nil, collect_nil]
  · rw [Text.lines_of_no_newline hne hline]

/-! ### Texts that are parsed alike -/

theorem Alike.append (h : Alike text text') (hbefore : Text.IsWhole before) :
    Alike (before ++ text) (before ++ text') := by
  intro number p
  rw [Text.lines_append hbefore, Text.lines_append hbefore]
  exact collect_append_congr h _ number p

theorem alike_of_read_eq (hline : '\n' ∉ line) (hline' : '\n' ∉ line')
    (hread : Line.read line = Line.read line') {after : List Char} (hafter : Text.AtLineEnd after) :
    Alike (line ++ after) (line' ++ after) := by
  intro number p
  rcases hafter with rfl | ⟨rest, rfl⟩ | ⟨rest, rfl⟩
  · rw [List.append_nil, List.append_nil, collect_lines_last hline, collect_lines_last hline']
    exact collect_cons_congr hread (fun _ _ => rfl) number p
  · apply collect_congr
    rw [Line.map_read_lines_feed hline, Line.map_read_lines_feed hline', hread]
  · rw [Text.lines_returnFeed hline, Text.lines_returnFeed hline']
    exact collect_cons_congr hread (fun _ _ => rfl) number p

/-- A line feed that is given a carriage return ends the same line. -/
theorem map_read_lines_withReturns (text : List Char) :
    (Text.lines (Text.withReturns text)).map Line.read = (Text.lines text).map Line.read := by
  have hsplits := Text.splits_lines text
  generalize Text.lines text = ls at hsplits ⊢
  induction hsplits with
  | done => rfl
  | last hne hline => rw [Text.withReturns_of_notMem hline, Text.lines_of_no_newline hne hline]
  | @feed line rest ls hline hreturn hrest ih =>
    have htext : Text.withReturns (line ++ '\n' :: rest) =
        line ++ '\r' :: '\n' :: Text.withReturns rest := by
      rw [Text.withReturns_append, Text.withReturns_of_notMem hline]
      rfl
    rw [htext, Text.lines_returnFeed hline, List.map_cons, ih, List.map_cons]
  | @returnFeed line rest ls hline hrest ih =>
    have hreturned : '\n' ∉ line ++ ['\r'] := by simp [hline]
    have htext : Text.withReturns (line ++ '\r' :: '\n' :: rest) =
        (line ++ ['\r']) ++ '\r' :: '\n' :: Text.withReturns rest := by
      rw [Text.withReturns_append, Text.withReturns_of_notMem hline, List.append_assoc]
      rfl
    rw [htext, Text.lines_returnFeed hreturned, List.map_cons, ih, List.map_cons,
      Line.read_append_return]

/-- A line feed at the end ends the last line, or it adds a line that is blank. -/
theorem alike_append_newline (text : List Char) : Alike text (text ++ ['\n']) := by
  intro number p
  have hsplits := Text.splits_lines text
  generalize Text.lines text = ls at hsplits ⊢
  induction hsplits generalizing number p with
  | done => rw [List.nil_append, Text.lines_newline, Text.lines_nil, collect_blank rfl,
      collect_nil, collect_nil]
  | last hne hline =>
    apply collect_congr
    rw [Line.map_read_lines_feed hline]
    rfl
  | feed hline hreturn hrest ih =>
    rw [List.append_assoc, List.cons_append, Text.lines_feed hline hreturn]
    exact collect_cons_congr rfl ih number p
  | returnFeed hline hrest ih =>
    rw [List.append_assoc, List.cons_append, List.cons_append, Text.lines_returnFeed hline]
    exact collect_cons_congr rfl ih number p

theorem Edit.alike (h : Edit text text') : Alike text text' := by
  cases h with
  | line hbefore hline hafter h =>
    rw [List.append_assoc, List.append_assoc]
    exact (alike_of_read_eq hline (h.newline_notMem hline) h.read_eq hafter).append hbefore
  | returns => exact fun number p => collect_congr (map_read_lines_withReturns text).symm number p
  | feed => exact alike_append_newline text

theorem alike_of_edits (h : Relation.ReflTransGen Edit text text') : Alike text text' := by
  induction h with
  | refl => exact fun _ _ => rfl
  | tail _ hedit ih => exact fun number p => (ih number p).trans (hedit.alike number p)

/-- However often the layout of a text is edited, the text is parsed to the same result. -/
theorem parse_of_edits {source edited : String}
    (h : Relation.ReflTransGen Edit source.toList edited.toList) :
    (parse edited).value = (parse source).value :=
  (alike_of_edits h 1 {}).symm

theorem parse_of_edits_of_two_lines :
    Relation.ReflTransGen Edit "10#a\nx".toList "10\u2028#a\r\nx#b\r\n".toList ∧
      (parse "10\u2028#a\r\nx#b\r\n").value = .ok { bytes := #[2], skipped := #[2] } := by
  have hgap : Line.IsGap ['\u2028'] := by simp [Line.IsGap, Text.isBlank]
  have hblank : Edit "10#a\nx".toList "10\u2028#a\nx".toList := by
    simpa using @Edit.line [] _ _ ['\n', 'x'] (by decide) (by decide) (.inr (.inl ⟨_, rfl⟩))
      (.beforeComment ['1', '0'] ['a'] hgap)
  have hcomment : Edit "10\u2028#a\nx".toList "10\u2028#a\nx#b".toList := by
    simpa using @Edit.line ['1', '0', '\u2028', '#', 'a', '\n'] ['x'] _ [] (by decide) (by decide)
      (.inl rfl) (@Line.Edit.comment ['b'] _ (by decide))
  have hfeed : Edit "10\u2028#a\nx#b".toList "10\u2028#a\nx#b\n".toList := by
    simpa using Edit.feed "10\u2028#a\nx#b".toList
  have hreturns : Edit "10\u2028#a\nx#b\n".toList "10\u2028#a\r\nx#b\r\n".toList := by
    simpa [Text.withReturns] using Edit.returns "10\u2028#a\nx#b\n".toList
  have hedits := (((Relation.ReflTransGen.single hblank).tail hcomment).tail hfeed).tail hreturns
  refine ⟨hedits, (parse_of_edits hedits).trans ?_⟩
  decide +kernel

end Program

end ByteMachine

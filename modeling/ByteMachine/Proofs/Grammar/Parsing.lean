import Mathlib.Data.List.Forall2
import Mathlib.Data.List.Sort
import ByteMachine.Program
import ByteMachine.Proofs.Grammar.Lines
import ByteMachine.Proofs.Grammar.Literals
import ByteMachine.Proofs.Grammar.Stripping

/-!
# The grammar of programs

The grammar says of a text into which lines it falls, what each line says, and what the lines make
up. A program text is parsed to exactly the result that the grammar gives it: the first literal
above 255 decides before all else, and then the number of bytes.
-/

namespace ByteMachine

/-! ### Lines -/

namespace Line

/-- What a line says: nothing, the value of a literal, or nothing that can be read. -/
inductive Says (line : List Char) : Line → Prop where
  | blank (h : Strips line []) : Says line .blank
  | byte {digits : List Char} (h : Strips line digits) (hne : digits ≠ [])
      (hd : ∀ c ∈ digits, c = '0' ∨ c = '1') (hv : Literal.value digits ≤ 255) :
      Says line (.byte (.ofNat (Literal.value digits)))
  | tooWide {digits : List Char} (h : Strips line digits) (hne : digits ≠ [])
      (hd : ∀ c ∈ digits, c = '0' ∨ c = '1') (hv : 255 < Literal.value digits) :
      Says line (.tooWide digits)
  | unparsable {code : List Char} (h : Strips line code) {c : Char} (hc : c ∈ code)
      (hd : ¬(c = '0' ∨ c = '1')) : Says line .unparsable

/-- The byte that a line adds to the program. -/
def byte? : Line → Option UInt8
  | .byte value => some value
  | _ => none

variable {line : List Char} {kind : Line}

theorem all_isDigit_iff {code : List Char} :
    code.all Literal.isDigit = true ↔ ∀ c ∈ code, c = '0' ∨ c = '1' := by
  simp only [List.all_eq_true, Literal.isDigit_iff]

theorem says_read (line : List Char) : Says line (read line) := by
  have h := strips_code line
  by_cases hne : code line = []
  · rw [read, hne]
    exact .blank (hne ▸ h)
  · by_cases hd : (code line).all Literal.isDigit = true
    · have hdigits := all_isDigit_iff.1 hd
      have hbyte := Literal.byte?_eq hd
      split_ifs at hbyte with hv
      · rw [read, ofCode_byte hne hd hbyte]
        exact .byte h hne hdigits hv
      · rw [read, ofCode_tooWide hne hd hbyte]
        exact .tooWide h hne hdigits (Nat.not_le.1 hv)
    · rw [read, ofCode_unparsable hne (Bool.eq_false_iff.2 hd)]
      obtain ⟨c, hc, hcd⟩ : ∃ c ∈ code line, ¬(c = '0' ∨ c = '1') := by
        simpa only [all_isDigit_iff, not_forall, exists_prop] using hd
      exact .unparsable h hc hcd

/-- A line says what is read in it and nothing else. -/
theorem says_iff : Says line kind ↔ read line = kind := by
  constructor
  · intro h
    cases h with
    | blank h => rw [read, strips_iff.1 h, ofCode_nil]
    | byte h hne hd hv =>
      have hall := all_isDigit_iff.2 hd
      rw [read, strips_iff.1 h, ofCode_byte hne hall (by rw [Literal.byte?_eq hall, if_pos hv])]
    | tooWide h hne hd hv =>
      have hall := all_isDigit_iff.2 hd
      rw [read, strips_iff.1 h, ofCode_tooWide hne hall
        (by rw [Literal.byte?_eq hall, if_neg (Nat.not_le.2 hv)])]
    | unparsable h hc hd =>
      have hall : ¬_ := fun hall => hd (all_isDigit_iff.1 hall _ hc)
      rw [read, strips_iff.1 h,
        ofCode_unparsable (List.ne_nil_of_mem hc) (Bool.eq_false_iff.2 hall)]
  · rintro rfl
    exact says_read line

theorem forall₂_says_iff {ls : List (List Char)} {kinds : List Line} :
    List.Forall₂ Says ls kinds ↔ ls.map read = kinds := by
  have hread : Says = fun line kind => read line = kind := by
    funext line kind
    exact propext says_iff
  rw [hread, ← List.forall₂_map_left_iff (R := Eq), List.forall₂_eq_eq_eq]

end Line

/-! ### Programs -/

namespace Program

/-- What the lines of a text make up. -/
inductive Makes (kinds : List Line) : Except ParseError Program → Prop where
  | tooWide {before after : List Line} {literal : List Char}
      (hkinds : kinds = before ++ .tooWide literal :: after)
      (hfirst : ∀ digits, .tooWide digits ∉ before) :
      Makes kinds (.error (.tooWide (before.length + 1) literal))
  | tooLarge (hwide : ∀ digits, .tooWide digits ∉ kinds)
      (hsize : 256 < (kinds.filterMap Line.byte?).length) :
      Makes kinds (.error (.tooLarge (kinds.filterMap Line.byte?).length))
  | program {p : Program} (hwide : ∀ digits, .tooWide digits ∉ kinds)
      (hsize : (kinds.filterMap Line.byte?).length ≤ 256)
      (hbytes : p.bytes.toList = kinds.filterMap Line.byte?)
      (hsorted : p.skipped.toList.Pairwise (· < ·))
      (hskipped : ∀ n, n ∈ p.skipped.toList ↔ ∃ i, kinds[i]? = some .unparsable ∧ n = i + 1) :
      Makes kinds (.ok p)

/-- The program with what the lines from a number on add to it. -/
def adding (p : Program) (number : Nat) (kinds : List Line) : Program where
  bytes := p.bytes ++ kinds.filterMap Line.byte?
  skipped := p.skipped ++ kinds.findIdxs (· = .unparsable) number

variable {p : Program} {number : Nat}

@[simp] theorem adding_nil : p.adding number [] = p := by
  simp [adding]

theorem adding_blank (kinds : List Line) :
    p.adding number (.blank :: kinds) = p.adding (number + 1) kinds := by
  simp [adding, List.filterMap_cons, Line.byte?]

theorem adding_byte (b : UInt8) (kinds : List Line) :
    p.adding number (.byte b :: kinds) = (p.push b).adding (number + 1) kinds := by
  simp [adding, push, Line.byte?]

theorem adding_unparsable (kinds : List Line) :
    p.adding number (.unparsable :: kinds) = (p.skip number).adding (number + 1) kinds := by
  simp [adding, skip, List.filterMap_cons, Line.byte?]

theorem toList_bytes_adding (number : Nat) (kinds : List Line) :
    (adding {} number kinds).bytes.toList = kinds.filterMap Line.byte? := by
  simp [adding]

theorem toList_skipped_adding (number : Nat) (kinds : List Line) :
    (adding {} number kinds).skipped.toList = kinds.findIdxs (· = .unparsable) number := by
  simp [adding]

/-- Lines before the first literal above 255 only add to the program. -/
theorem collect_append {ls : List (List Char)}
    (hwide : ∀ digits, .tooWide digits ∉ ls.map Line.read) (number : Nat) (p : Program)
    (rest : List (List Char)) :
    (collect number p (ls ++ rest)).value =
      (collect (number + ls.length) (p.adding number (ls.map Line.read)) rest).value := by
  induction ls generalizing number p with
  | nil => simp
  | cons line ls ih =>
    have hrest : ∀ digits, .tooWide digits ∉ ls.map Line.read :=
      fun digits h => hwide digits (List.mem_cons_of_mem _ h)
    have hnumber : number + (line :: ls).length = number + 1 + ls.length := by
      simp only [List.length_cons]
      omega
    rw [List.cons_append, hnumber, List.map_cons]
    cases hk : Line.read line with
    | blank => rw [collect_blank hk, ih hrest, adding_blank]
    | byte b => rw [collect_byte hk, ih hrest, adding_byte]
    | unparsable => rw [collect_unparsable hk, Logged.preceded, ih hrest, adding_unparsable]
    | tooWide digits =>
      refine absurd ?_ (hwide digits)
      rw [List.map_cons, hk]
      exact List.mem_cons_self

theorem exists_first_wide (ls : List (List Char)) :
    (∀ digits, .tooWide digits ∉ ls.map Line.read) ∨
      ∃ before line digits after, ls = before ++ line :: after ∧
        Line.read line = .tooWide digits ∧ ∀ digits, .tooWide digits ∉ before.map Line.read := by
  induction ls with
  | nil => exact .inl (by simp)
  | cons line ls ih =>
    by_cases hline : ∃ digits, Line.read line = .tooWide digits
    · obtain ⟨digits, hdigits⟩ := hline
      exact .inr ⟨[], line, digits, ls, rfl, hdigits, by simp⟩
    · have hmem {ls : List (List Char)} (h : ∀ digits, .tooWide digits ∉ ls.map Line.read) :
          ∀ digits, .tooWide digits ∉ (line :: ls).map Line.read := by
        intro digits hd
        rcases List.mem_cons.1 hd with hd | hd
        · exact hline ⟨digits, hd.symm⟩
        · exact h digits hd
      rcases ih with hnone | ⟨before, wide, digits, after, rfl, hwide, hbefore⟩
      · exact .inl (hmem hnone)
      · exact .inr ⟨line :: before, wide, digits, after, rfl, hwide, hmem hbefore⟩

/-- Without a literal above 255, all that can be wrong is the number of bytes. -/
theorem collect_of_narrow {ls : List (List Char)}
    (hwide : ∀ digits, .tooWide digits ∉ ls.map Line.read) :
    (collect 1 {} ls).value = (adding {} 1 (ls.map Line.read)).checked := by
  rw [← List.append_nil ls, collect_append hwide, List.append_nil]
  rfl

theorem collect_of_wide {before after : List (List Char)} {line digits : List Char}
    (hline : Line.read line = .tooWide digits)
    (hfirst : ∀ digits, .tooWide digits ∉ before.map Line.read) :
    (collect 1 {} (before ++ line :: after)).value =
      .error (.tooWide (before.length + 1) digits) := by
  rw [collect_append hfirst, collect_tooWide hline, Nat.add_comm]
  rfl

theorem mem_findIdxs_unparsable {kinds : List Line} {n : Nat} :
    n ∈ kinds.findIdxs (· = .unparsable) 1 ↔ ∃ i, kinds[i]? = some .unparsable ∧ n = i + 1 := by
  rw [List.mem_findIdxs_iff_getElem_sub_pos]
  constructor
  · rintro ⟨hn, hi, hk⟩
    exact ⟨n - 1, by simpa [List.getElem?_eq_some_iff, hi] using hk, by omega⟩
  · rintro ⟨i, hi, rfl⟩
    obtain ⟨hlt, hk⟩ := List.getElem?_eq_some_iff.1 hi
    exact ⟨by omega, by simpa using hlt, by simpa using hk⟩

variable {ls : List (List Char)} {result : Except ParseError Program}

theorem makes_collect (ls : List (List Char)) :
    Makes (ls.map Line.read) (collect 1 {} ls).value := by
  rcases exists_first_wide ls with hwide | ⟨before, line, digits, after, rfl, hline, hfirst⟩
  · have hbytes := toList_bytes_adding 1 (ls.map Line.read)
    rw [collect_of_narrow hwide, checked, ← Array.length_toList, hbytes]
    split_ifs with hsize
    · refine .program hwide hsize hbytes ?_ ?_
      · rw [toList_skipped_adding]
        exact List.pairwise_findIdxs
      · intro n
        rw [toList_skipped_adding]
        exact mem_findIdxs_unparsable
    · exact .tooLarge hwide (Nat.not_le.1 hsize)
  · rw [collect_of_wide hline hfirst, List.map_append, List.map_cons, hline,
      ← List.length_map Line.read]
    exact .tooWide rfl hfirst

theorem collect_of_makes (h : Makes (ls.map Line.read) result) :
    (collect 1 {} ls).value = result := by
  have hbytes := toList_bytes_adding 1 (ls.map Line.read)
  cases h with
  | tooWide hkinds hfirst =>
    obtain ⟨before, rest, rfl, rfl, hrest⟩ := List.map_eq_append_iff.1 hkinds
    obtain ⟨line, after, rfl, hline, -⟩ := List.map_eq_cons_iff.1 hrest
    rw [collect_of_wide hline hfirst, List.length_map]
  | tooLarge hwide hsize =>
    rw [collect_of_narrow hwide, checked, ← Array.length_toList, hbytes,
      if_neg (Nat.not_le.2 hsize)]
  | @program p hwide hsize hp hsorted hskipped =>
    rw [collect_of_narrow hwide, checked, ← Array.length_toList, hbytes, if_pos hsize]
    have hnumbers : (adding {} 1 (ls.map Line.read)).skipped = p.skipped := by
      rw [← Array.toList_inj, toList_skipped_adding]
      apply List.pairwise_findIdxs.eq_of_mem_iff hsorted
      intro n
      rw [mem_findIdxs_unparsable, hskipped]
    have hvalues : (adding {} 1 (ls.map Line.read)).bytes = p.bytes := by
      rw [← Array.toList_inj, hbytes, hp]
    rw [show adding {} 1 (ls.map Line.read) = p from congr (congrArg mk hvalues) hnumbers]

/-- The bytes that the lines of a text hold. -/
def byteLines (source : String) : List UInt8 :=
  ((Text.lines source.toList).map Line.read).filterMap Line.byte?

theorem bytes_of_parse {source : String} (h : (parse source).value = .ok p) :
    p.bytes.toList = byteLines source ∧ p.bytes.size ≤ 256 := by
  have hmakes : Makes _ (parse source).value := makes_collect (Text.lines source.toList)
  rw [h] at hmakes
  cases hmakes with
  | program hwide hsize hbytes hsorted hskipped =>
    rw [← Array.length_toList, hbytes]
    exact ⟨rfl, hsize⟩

/-- A program text is parsed to the result that the grammar gives it. -/
theorem parse_iff (source : String) (result : Except ParseError Program) :
    (parse source).value = result ↔
      ∃ ls kinds, Text.Splits source.toList ls ∧ List.Forall₂ Line.Says ls kinds ∧
        Makes kinds result := by
  constructor
  · rintro rfl
    exact ⟨_, _, Text.splits_iff.2 rfl, Line.forall₂_says_iff.2 rfl, makes_collect _⟩
  · rintro ⟨ls, kinds, hls, hkinds, hmakes⟩
    obtain rfl := Text.splits_iff.1 hls
    obtain rfl := Line.forall₂_says_iff.1 hkinds
    exact collect_of_makes hmakes

end Program

end ByteMachine

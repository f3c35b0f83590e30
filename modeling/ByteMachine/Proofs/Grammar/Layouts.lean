import Mathlib.Data.List.ReduceOption
import ByteMachine.Proofs.Grammar.Parsing

/-!
# Layouts of programs

Bytes can be written down as a program text in many ways: with blanks around the literals and zeros
in front of them, with comments, and with lines that hold no byte at all. Parsing takes all of that
away again, and what is left are the bytes.
-/

namespace ByteMachine

/-! ### Literals -/

namespace Literal

theorem bit_digitChar {d : Nat} (hd : d < 2) : bit (Nat.digitChar d) = d := by
  match d, hd with
  | 0, _ | 1, _ => rfl

theorem value_toDigits (n : Nat) : value (Nat.toDigits 2 n) = n := by
  induction n using Nat.strongRecOn with
  | ind n ih =>
    rw [Nat.toDigits_eq_if (by decide)]
    split_ifs with hn
    · rw [value_cons, bit_digitChar hn]
      simp
    · rw [value_append, ih (n / 2) (by omega), value_cons, bit_digitChar (Nat.mod_lt n (by decide))]
      simp only [List.length_singleton, List.length_nil, value_nil]
      omega

theorem eq_zero_or_one_of_mem_toDigits {n : Nat} {c : Char} (h : c ∈ Nat.toDigits 2 n) :
    c = '0' ∨ c = '1' := by
  obtain ⟨d, hd, rfl⟩ := Text.exists_digitChar_of_mem_toDigits (by decide) h
  match d, hd with
  | 0, _ => exact .inl rfl
  | 1, _ => exact .inr rfl

/-- The digits of a byte, with more zeros in front of them than are needed. -/
def written (zeros : Nat) (b : UInt8) : List Char :=
  List.replicate zeros '0' ++ Nat.toDigits 2 b.toNat

variable {zeros : Nat} {b : UInt8} {c : Char}

theorem value_written (zeros : Nat) (b : UInt8) : value (written zeros b) = b.toNat := by
  rw [written, value_replicate_append, value_toDigits]

theorem written_ne_nil : written zeros b ≠ [] := by
  simp [written]

theorem eq_zero_or_one_of_mem_written (h : c ∈ written zeros b) : c = '0' ∨ c = '1' := by
  rw [written, List.mem_append, List.mem_replicate] at h
  rcases h with ⟨-, rfl⟩ | h
  · exact .inl rfl
  · exact eq_zero_or_one_of_mem_toDigits h

theorem notMem_written (h : ¬(c = '0' ∨ c = '1')) : c ∉ written zeros b :=
  mt eq_zero_or_one_of_mem_written h

end Literal

/-! ### Lines -/

namespace Line

/-- Blanks that do not end a line. -/
def IsGap (text : List Char) : Prop := ∀ c ∈ text, Text.isBlank c = true ∧ c ≠ '\n'

/-- Nothing, or a comment up to the end of a line. -/
def IsComment (text : List Char) : Prop := (∀ c ∈ text.head?, c = '#') ∧ '\n' ∉ text

/-- The ways to write a line that holds a byte, or that holds none. -/
inductive Layout : Option UInt8 → List Char → Prop where
  | blank {gap comment : List Char} (hgap : IsGap gap) (hcomment : IsComment comment) :
      Layout none (gap ++ comment)
  | byte {before after comment : List Char} (b : UInt8) (zeros : Nat) (hbefore : IsGap before)
      (hafter : IsGap after) (hcomment : IsComment comment) :
      Layout (some b) (before ++ Literal.written zeros b ++ after ++ comment)

/-- The line that holds a byte, or that holds none. -/
def holding : Option UInt8 → Line
  | none => .blank
  | some b => .byte b

variable {text line : List Char} {value : Option UInt8} {c : Char}

theorem IsGap.isBlank (h : IsGap text) : ∀ c ∈ text, Text.isBlank c = true :=
  fun c hc => (h c hc).1

theorem IsGap.newline_notMem (h : IsGap text) : '\n' ∉ text :=
  fun hmem => (h '\n' hmem).2 rfl

theorem isComment_nil : IsComment [] := by
  simp [IsComment]

theorem isComment_cons (h : '\n' ∉ text) : IsComment ('#' :: text) := by
  simp [IsComment, h]

theorem Layout.newline_notMem (h : Layout value line) : '\n' ∉ line := by
  cases h with
  | blank hgap hcomment => simp [hgap.newline_notMem, hcomment.2]
  | byte b zeros hbefore hafter hcomment =>
    have hdigits : '\n' ∉ Literal.written zeros b := Literal.notMem_written (by decide)
    simp [hbefore.newline_notMem, hdigits, hafter.newline_notMem, hcomment.2]

/-- Digits, blanks around them and a comment have the digits as their code. -/
theorem strips_written {before after comment : List Char} (b : UInt8) (zeros : Nat)
    (hbefore : IsGap before) (hafter : IsGap after) (hcomment : IsComment comment) :
    Strips (before ++ Literal.written zeros b ++ after ++ comment) (Literal.written zeros b) :=
  strips_of_digits hbefore.isBlank hafter.isBlank (fun _ => Literal.eq_zero_or_one_of_mem_written)
    hcomment.1

/-- A line is read as what it was written for. -/
theorem Layout.says (h : Layout value line) : Says line (holding value) := by
  cases h with
  | @blank gap comment hgap hcomment =>
    have hstrips : Strips (gap ++ [] ++ [] ++ comment) [] :=
      .intro hgap.isBlank (by simp) (by simp) (by simp) (by simp) hcomment.1
    exact .blank (by simpa using hstrips)
  | byte b zeros hbefore hafter hcomment =>
    have hvalue : Literal.value (Literal.written zeros b) = b.toNat := Literal.value_written zeros b
    have hsays := Says.byte (strips_written b zeros hbefore hafter hcomment) Literal.written_ne_nil
      (fun c => Literal.eq_zero_or_one_of_mem_written)
      (hvalue ▸ Nat.le_of_lt_succ b.toNat_lt)
    rwa [hvalue, UInt8.ofNat_toNat] at hsays

theorem Layout.read_eq (h : Layout value line) : read line = holding value :=
  says_iff.1 h.says

theorem Layout.eq_none (h : Layout value []) : value = none := by
  cases value with
  | none => rfl
  | some b => exact absurd h.read_eq (by simp [read, code, holding])

/-- Blanks at the end of a line do not count. -/
theorem Strips.append_blanks {code gap : List Char} (h : Strips line code)
    (hgap : ∀ c ∈ gap, Text.isBlank c = true) : Strips (line ++ gap) code := by
  cases h with
  | @intro before code after comment hbefore hafter hcode hfirst hlast hcomment =>
    cases comment with
    | nil =>
      have hafter' : ∀ c ∈ after ++ gap, Text.isBlank c = true :=
        List.forall_mem_append.2 ⟨hafter, hgap⟩
      have hstrips : Strips (before ++ code ++ (after ++ gap) ++ []) code :=
        .intro hbefore hafter' hcode hfirst hlast (by simp)
      simpa using hstrips
    | cons d comment =>
      have hcomment' : ∀ c ∈ (d :: comment ++ gap).head?, c = '#' := by simpa using hcomment
      simpa using Strips.intro hbefore hafter hcode hfirst hlast hcomment'

theorem code_append_blanks {gap : List Char} (line : List Char)
    (hgap : ∀ c ∈ gap, Text.isBlank c = true) : code (line ++ gap) = code line :=
  strips_iff.1 ((strips_code line).append_blanks hgap)

theorem read_append_return (line : List Char) : read (line ++ ['\r']) = read line := by
  have hgap : ∀ c ∈ ['\r'], Text.isBlank c = true := List.forall_mem_singleton.2 (by decide)
  rw [read, code_append_blanks line hgap, read]

/-- A line is read alike whether or not a carriage return stands before its line feed. -/
theorem map_read_lines_feed (hline : '\n' ∉ line) (rest : List Char) :
    (Text.lines (line ++ '\n' :: rest)).map read = read line :: (Text.lines rest).map read := by
  by_cases hreturn : line.getLast? = some '\r'
  · obtain ⟨init, rfl⟩ := List.getLast?_eq_some_iff.1 hreturn
    have hinit : '\n' ∉ init := fun hmem => hline (List.mem_append_left _ hmem)
    rw [List.append_assoc, List.singleton_append, Text.lines_returnFeed hinit, List.map_cons,
      read_append_return]
  · rw [Text.lines_feed hline hreturn, List.map_cons]

end Line

/-! ### Programs -/

namespace Program

/-- The ways to write bytes down as a text. The last line may lack its line end. -/
inductive Layout : List UInt8 → List Char → Prop where
  | last {value : Option UInt8} {line : List Char} (hline : Line.Layout value line) :
      Layout value.toList line
  | feed {value : Option UInt8} {line rest : List Char} {bytes : List UInt8}
      (hline : Line.Layout value line) (hrest : Layout bytes rest) :
      Layout (value.toList ++ bytes) (line ++ '\n' :: rest)
  | returnFeed {value : Option UInt8} {line rest : List Char} {bytes : List UInt8}
      (hline : Line.Layout value line) (hrest : Layout bytes rest) :
      Layout (value.toList ++ bytes) (line ++ '\r' :: '\n' :: rest)

variable {bytes : List UInt8} {text : List Char}

theorem reduceOption_cons (value : Option UInt8) (values : List (Option UInt8)) :
    (value :: values).reduceOption = value.toList ++ values.reduceOption := by
  cases value with
  | none => exact List.reduceOption_cons_of_none values
  | some b => exact List.reduceOption_cons_of_some b values

/-- The lines of a text hold the bytes that it was written for, and nothing else. -/
theorem Layout.exists_holding (h : Layout bytes text) : ∃ values : List (Option UInt8),
    (Text.lines text).map Line.read = values.map Line.holding ∧ values.reduceOption = bytes := by
  induction h with
  | @last value line hline =>
    by_cases hne : line = []
    · subst hne
      obtain rfl := hline.eq_none
      exact ⟨[], rfl, rfl⟩
    · refine ⟨[value], ?_, by rw [reduceOption_cons, List.reduceOption_nil, List.append_nil]⟩
      rw [Text.lines_of_no_newline hne hline.newline_notMem, List.map_singleton, hline.read_eq,
        List.map_singleton]
  | @feed value line rest bytes hline hrest ih =>
    obtain ⟨values, hread, rfl⟩ := ih
    refine ⟨value :: values, ?_, reduceOption_cons value values⟩
    rw [Line.map_read_lines_feed hline.newline_notMem, hline.read_eq, hread, List.map_cons]
  | @returnFeed value line rest bytes hline hrest ih =>
    obtain ⟨values, hread, rfl⟩ := ih
    refine ⟨value :: values, ?_, reduceOption_cons value values⟩
    rw [Text.lines_returnFeed hline.newline_notMem, List.map_cons, hline.read_eq, hread,
      List.map_cons]

theorem filterMap_byte?_map_holding (values : List (Option UInt8)) :
    (values.map Line.holding).filterMap Line.byte? = values.reduceOption := by
  rw [List.filterMap_map, List.reduceOption]
  congr 1
  funext value
  cases value <;> rfl

theorem eq_of_mem_map_holding {kind : Line} {values : List (Option UInt8)}
    (h : kind ∈ values.map Line.holding) : kind = .blank ∨ ∃ b, kind = .byte b := by
  obtain ⟨value, -, rfl⟩ := List.mem_map.1 h
  cases value with
  | none => exact .inl rfl
  | some b => exact .inr ⟨b, rfl⟩

/-- Lines that hold a byte or nothing make up a program if there are not too many bytes. -/
theorem makes_holding (values : List (Option UInt8)) :
    Makes (values.map Line.holding)
      (if values.reduceOption.length ≤ 256
        then .ok { bytes := values.reduceOption.toArray, skipped := #[] }
        else .error (.tooLarge values.reduceOption.length)) := by
  have hbytes := filterMap_byte?_map_holding values
  have hwide : ∀ digits, .tooWide digits ∉ values.map Line.holding := by
    intro digits h
    simpa using eq_of_mem_map_holding h
  have hunparsable : .unparsable ∉ values.map Line.holding := by
    intro h
    simpa using eq_of_mem_map_holding h
  split_ifs with hsize
  · refine .program hwide (hbytes ▸ hsize) hbytes.symm .nil ?_
    intro n
    constructor
    · simp
    · rintro ⟨i, hi, -⟩
      exact absurd (List.mem_of_getElem? hi) hunparsable
  · rw [← hbytes] at hsize ⊢
    exact .tooLarge hwide (Nat.not_le.1 hsize)

/-- A text is parsed to the bytes that it was written for, unless there are too many of them. -/
theorem Layout.parse_eq {source : String} (h : Layout bytes source.toList) :
    (parse source).value =
      if bytes.length ≤ 256 then .ok { bytes := bytes.toArray, skipped := #[] }
      else .error (.tooLarge bytes.length) := by
  obtain ⟨values, hread, rfl⟩ := h.exists_holding
  exact collect_of_makes (hread ▸ makes_holding values)

end Program

end ByteMachine

import Mathlib.Tactic.Common

/-!
# UTF-8

`Encodes` says which bytes stand for a text, character by character and without reading them. Bytes
are read as a text exactly if they stand for it. Bytes that stand for no text have a place up to
which they do and where no character begins, whatever comes behind that place.
-/

namespace ByteMachine.Text

/-! ### The form of a character -/

/-- A byte behind the first one of a character. -/
abbrev IsTail (b : UInt8) : Prop := 0x80 ≤ b.toNat ∧ b.toNat ≤ 0xBF

/-- The bytes of the character with a code point. The first byte tells how many there are. No form
is longer than its code point needs, and no form is that of a surrogate. -/
inductive Form : List UInt8 → Nat → Prop where
  | one {a : UInt8} (ha : a.toNat ≤ 0x7F) : Form [a] a.toNat
  | two {a b : UInt8} (ha : 0xC2 ≤ a.toNat ∧ a.toNat ≤ 0xDF) (hb : IsTail b) :
      Form [a, b] (64 * (a.toNat - 0xC0) + (b.toNat - 0x80))
  | three {a b c : UInt8} (ha : 0xE0 ≤ a.toNat ∧ a.toNat ≤ 0xEF) (hb : IsTail b) (hc : IsTail c)
      (hshort : a.toNat = 0xE0 → 0xA0 ≤ b.toNat) (hsurrogate : a.toNat = 0xED → b.toNat ≤ 0x9F) :
      Form [a, b, c] (4096 * (a.toNat - 0xE0) + 64 * (b.toNat - 0x80) + (c.toNat - 0x80))
  | four {a b c d : UInt8} (ha : 0xF0 ≤ a.toNat ∧ a.toNat ≤ 0xF4) (hb : IsTail b) (hc : IsTail c)
      (hd : IsTail d) (hshort : a.toNat = 0xF0 → 0x90 ≤ b.toNat)
      (hlast : a.toNat = 0xF4 → b.toNat ≤ 0x8F) :
      Form [a, b, c, d] (262144 * (a.toNat - 0xF0) + 4096 * (b.toNat - 0x80) +
        64 * (c.toNat - 0x80) + (d.toNat - 0x80))

variable {form form' bytes before rest : List UInt8} {cs cs' : List Char} {c : Char} {n n' : Nat}

theorem Form.isValidChar (h : Form form n) : n.isValidChar := by
  cases h with
  | one ha | two ha hb | three ha hb hc hshort hsurrogate | four ha hb hc hd hshort hlast => omega

theorem Form.exists_char (h : Form form n) : ∃ c : Char, c.toNat = n :=
  ⟨Char.ofNatAux n h.isValidChar, rfl⟩

theorem Form.ne_nil (h : Form form n) : form ≠ [] := by
  cases h <;> simp

/-- The number of bytes behind the first byte of a form. -/
def tailCount (a : UInt8) : Nat :=
  if a.toNat < 0x80 then 0 else if a.toNat < 0xE0 then 1 else if a.toNat < 0xF0 then 2 else 3

theorem Form.length_eq {a : UInt8} {tail : List UInt8} (h : Form (a :: tail) n) :
    tail.length = tailCount a := by
  unfold tailCount
  cases h with
  | one ha => rw [if_pos (by omega), List.length_nil]
  | two ha hb => rw [if_neg (by omega), if_pos (by omega), List.length_singleton]
  | three ha hb hc hshort hsurrogate =>
    rw [if_neg (by omega), if_neg (by omega), if_pos (by omega)]
    rfl
  | four ha hb hc hd hshort hlast =>
    rw [if_neg (by omega), if_neg (by omega), if_neg (by omega)]
    rfl

theorem form_utf8EncodeChar (c : Char) : Form (String.utf8EncodeChar c) c.toNat := by
  have hbyte {k : Nat} (h : k < 256) : (UInt8.ofNat k).toNat = k := UInt8.toNat_ofNat_of_lt' h
  have hvalid : c.toNat.isValidChar := c.valid
  have hv : c.val.toNat = c.toNat := rfl
  simp only [String.utf8EncodeChar, hv]
  generalize c.toNat = v at hvalid ⊢
  have htail (k : Nat) : (UInt8.ofNat (k % 64 + 128)).toNat = k % 64 + 128 := hbyte (by omega)
  have hlast := htail v
  have hmiddle := htail (v / 64)
  split_ifs with hone htwo hthree
  case pos =>
    have ha := @hbyte v (by omega)
    have hform := @Form.one (.ofNat v) (by omega)
    rwa [ha] at hform
  case pos =>
    have ha := @hbyte (v / 64 % 32 + 192) (by omega)
    have hform := @Form.two (.ofNat (v / 64 % 32 + 192)) (.ofNat (v % 64 + 128)) (by omega)
      (by omega)
    convert hform using 1
    omega
  case pos =>
    have ha := @hbyte (v / 4096 % 16 + 224) (by omega)
    have hform := @Form.three (.ofNat (v / 4096 % 16 + 224)) (.ofNat (v / 64 % 64 + 128))
      (.ofNat (v % 64 + 128)) (by omega) (by omega) (by omega) (by omega) (by omega)
    convert hform using 1
    omega
  case neg =>
    have ha := @hbyte (v / 262144 % 8 + 240) (by omega)
    have hb := htail (v / 4096)
    have hform := @Form.four (.ofNat (v / 262144 % 8 + 240)) (.ofNat (v / 4096 % 64 + 128))
      (.ofNat (v / 64 % 64 + 128)) (.ofNat (v % 64 + 128)) (by omega) (by omega) (by omega)
      (by omega) (by omega) (by omega)
    convert hform using 1
    omega

/-- Each character has one form, the one that it is written in. -/
theorem form_iff : Form form c.toNat ↔ String.utf8EncodeChar c = form := by
  constructor
  · intro h
    have hbyte (a : UInt8) {k : Nat} (h : k = a.toNat) : UInt8.ofNat k = a := by
      rw [h, UInt8.ofNat_toNat]
    have hv : c.val.toNat = c.toNat := rfl
    simp only [String.utf8EncodeChar, hv]
    generalize c.toNat = v at h
    cases h with
    | @one a ha => rw [if_pos ha, hbyte a rfl]
    | @two a b ha hb =>
      rw [if_neg (by omega), if_pos (by omega), hbyte a (by omega), hbyte b (by omega)]
    | @three a b c ha hb hc hshort hsurrogate =>
      rw [if_neg (by omega), if_neg (by omega), if_pos (by omega), hbyte a (by omega),
        hbyte b (by omega), hbyte c (by omega)]
    | @four a b c d ha hb hc hd hshort hlast =>
      rw [if_neg (by omega), if_neg (by omega), if_neg (by omega), hbyte a (by omega),
        hbyte b (by omega), hbyte c (by omega), hbyte d (by omega)]
  · rintro rfl
    exact form_utf8EncodeChar c

/-! ### The bytes of a text -/

/-- The bytes stand for the text: they are the forms of its characters, one after the other. -/
inductive Encodes : List UInt8 → List Char → Prop where
  | nil : Encodes [] []
  | cons {form bytes : List UInt8} {c : Char} {cs : List Char} (hform : Form form c.toNat)
      (hrest : Encodes bytes cs) : Encodes (form ++ bytes) (c :: cs)

theorem encodes_iff : Encodes bytes cs ↔ cs.flatMap String.utf8EncodeChar = bytes := by
  constructor
  · intro h
    induction h with
    | nil => rfl
    | cons hform hrest ih => rw [List.flatMap_cons, form_iff.1 hform, ih]
  · rintro rfl
    induction cs with
    | nil => exact .nil
    | cons c cs ih => exact .cons (form_utf8EncodeChar c) ih

/-- Bytes are read as a text exactly if they stand for it. -/
theorem fromUTF8?_eq_some_iff {content : ByteArray} {text : String} :
    String.fromUTF8? content = some text ↔ Encodes content.data.toList text.toList := by
  have hbytes : text.toByteArray.data.toList = text.toList.flatMap String.utf8EncodeChar := by
    rw [← String.utf8Encode_toList, List.utf8Encode, List.toList_data_toByteArray]
  rw [encodes_iff, ← hbytes, Array.toList_inj, ← ByteArray.ext_iff]
  unfold String.fromUTF8?
  constructor
  · intro h
    split at h
    · rw [← Option.some.inj h]
      rfl
    · cases h
  · rintro rfl
    exact dif_pos text.isValidUTF8

/-! ### Bytes that stand for no text -/

/-- Up to some place the bytes stand for a text, and no character begins there. -/
def IsMalformed (bytes : List UInt8) : Prop :=
  ∃ before rest cs, bytes = before ++ rest ∧ Encodes before cs ∧ rest ≠ [] ∧
    ∀ form n, Form form n → ¬ form <+: rest

/-- At one place there begins one character at most. -/
theorem Form.eq_of_prefix (h : Form form n) (h' : Form form' n') (hform : form <+: bytes)
    (hform' : form' <+: bytes) : form = form' := by
  cases form with
  | nil => exact absurd rfl h.ne_nil
  | cons a tail =>
    cases form' with
    | nil => exact absurd rfl h'.ne_nil
    | cons a' tail' =>
      cases bytes with
      | nil => simp at hform
      | cons b bytes =>
        obtain ⟨rfl, htail⟩ := List.cons_prefix_cons.1 hform
        obtain ⟨rfl, htail'⟩ := List.cons_prefix_cons.1 hform'
        have hlength : tail.length = tail'.length := h.length_eq.trans h'.length_eq.symm
        have hbegins := List.prefix_of_prefix_length_le htail htail' (Nat.le_of_eq hlength)
        rw [hbegins.eq_of_length hlength]

theorem Encodes.of_append (h : Encodes before cs) (hboth : Encodes (before ++ rest) cs') :
    ∃ cs, Encodes rest cs := by
  induction h generalizing cs' with
  | nil => exact ⟨cs', hboth⟩
  | @cons form bytes c cs hform hrest ih =>
    rw [List.append_assoc] at hboth
    generalize hall : form ++ (bytes ++ rest) = all at hboth
    cases hboth with
    | nil => exact absurd (List.append_eq_nil_iff.1 hall).1 hform.ne_nil
    | @cons form' bytes' c' cs' hform' hrest' =>
      have hbegins : form <+: form' ++ bytes' := hall ▸ List.prefix_append form _
      obtain rfl := hform.eq_of_prefix hform' hbegins (List.prefix_append form' bytes')
      rw [← List.append_cancel_left hall] at hrest'
      exact ih hrest'

theorem encodes_or_isMalformed (bytes : List UInt8) :
    (∃ cs, Encodes bytes cs) ∨ IsMalformed bytes := by
  by_cases hstart : ∃ form n, Form form n ∧ form <+: bytes
  · obtain ⟨form, n, hform, rest, rfl⟩ := hstart
    obtain ⟨c, rfl⟩ := hform.exists_char
    have hlength : rest.length < (form ++ rest).length := by
      rw [List.length_append]
      exact Nat.lt_add_of_pos_left (List.length_pos_iff.2 hform.ne_nil)
    rcases encodes_or_isMalformed rest with ⟨cs, hcs⟩ | ⟨before, after, cs, rfl, hbefore, hafter⟩
    · exact .inl ⟨c :: cs, .cons hform hcs⟩
    · rw [← List.append_assoc]
      exact .inr ⟨form ++ before, after, c :: cs, rfl, .cons hform hbefore, hafter⟩
  · by_cases hnil : bytes = []
    · exact .inl ⟨[], hnil ▸ .nil⟩
    · simp only [not_exists, not_and] at hstart
      exact .inr ⟨[], bytes, [], rfl, .nil, hnil, hstart⟩
termination_by bytes.length

theorem isMalformed_iff : IsMalformed bytes ↔ ∀ cs, ¬ Encodes bytes cs := by
  constructor
  · rintro ⟨before, rest, cs, rfl, hbefore, hne, hnone⟩ cs' hboth
    obtain ⟨cs'', hrest⟩ := hbefore.of_append hboth
    cases hrest with
    | nil => exact hne rfl
    | cons hform hrest => exact hnone _ _ hform (List.prefix_append _ _)
  · intro h
    exact (encodes_or_isMalformed bytes).resolve_left fun ⟨cs, hcs⟩ => h cs hcs

end ByteMachine.Text

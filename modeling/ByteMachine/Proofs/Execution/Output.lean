import ByteMachine.Proofs.Execution.Runs
import ByteMachine.Proofs.Grammar.Decimals

/-!
# Runs onto a limited output

A run does the same onto every output as long as the output takes what it prints. An output that
takes only so many bytes stops it at the print that first goes beyond them: the bytes that fit are
kept, and the machine stays as it was before that print.
-/

namespace ByteMachine

/-! ### Characters and bytes -/

namespace Text

/-- Each character of the text is one byte. -/
def IsAscii (text : String) : Prop := ∀ c ∈ text.toList, c.utf8Size = 1

instance (text : String) : Decidable (IsAscii text) :=
  List.decidableBAll _ _

@[simp] theorem isAscii_empty : IsAscii "" := by decide

@[simp] theorem isAscii_append {first second : String} :
    IsAscii (first ++ second) ↔ IsAscii first ∧ IsAscii second := by
  simp only [IsAscii, String.toList_append, List.mem_append, or_imp, forall_and]

theorem utf8ByteSize_eq_length {text : String} (h : IsAscii text) :
    text.utf8ByteSize = text.length := by
  induction text using String.push_induction with
  | empty => rfl
  | push text c ih =>
    rw [IsAscii, String.toList_push] at h
    rw [String.utf8ByteSize_push, String.length_push,
      ih fun d hd => h d (List.mem_append_left _ hd),
      h c (List.mem_append_right _ (List.mem_singleton_self c))]

@[simp] theorem isAscii_decimal (n : Nat) : IsAscii (decimal n) := by
  intro c hc
  have hle : c.toNat ≤ 57 := (Char.isDigit_iff_toNat.1 (isDigit_of_mem_decimal hc)).2
  exact Char.utf8Size_eq_one_iff.2 (UInt32.le_iff_toNat_le.2 (Nat.le_trans hle (by decide)))

end Text

namespace Sink

variable {text : String} {limit : Nat}

theorem fits_limited (h : Text.IsAscii text) :
    (limited limit).fits text = true ↔ text.utf8ByteSize ≤ limit := by
  simp [fits_iff, Text.utf8ByteSize_eq_length h]

/-- A limited output keeps as many of the first bytes of a text as it takes. -/
theorem text_write_limited (h : Text.IsAscii text) (limit : Nat) :
    ((limited limit).write text).text.utf8ByteSize = min limit text.utf8ByteSize ∧
      ∃ rest, text = ((limited limit).write text).text ++ rest := by
  have htext : ((limited limit).write text).text = String.ofList (text.toList.take limit) := by
    simp [kept, limited]
  rw [htext]
  constructor
  · have hkept : Text.IsAscii (String.ofList (text.toList.take limit)) := by
      intro c hc
      rw [String.toList_ofList] at hc
      exact h c (List.mem_of_mem_take hc)
    rw [Text.utf8ByteSize_eq_length hkept, Text.utf8ByteSize_eq_length h]
    simp [← String.length_toList]
  · refine ⟨String.ofList (text.toList.drop limit), ?_⟩
    rw [← String.ofList_append, List.take_append_drop, String.ofList_toList]

end Sink

theorem State.isAscii_printed (s : State) : Text.IsAscii s.printed := by
  rcases s.printed_cases with hsilent | ⟨r, v, -, -, hline⟩
  · rw [hsilent]
    exact Text.isAscii_empty
  · rw [hline, Text.isAscii_append]
    exact ⟨Text.isAscii_decimal _, by decide⟩

/-! ### What a run prints -/

namespace Machine

variable {m : Machine} {out : Sink} {n : Nat}

/-- The first cycles of a run whose output takes any text. -/
def freely (m : Machine) (n : Nat) : Run := Run.advance n (m.start .unlimited)

/-- The first cycles of a run whose output takes so many bytes in all. -/
def within (m : Machine) (limit n : Nat) : Run := Run.advance n (m.start (.limited limit))

theorem freely_succ_of_running (hn : (m.freely n).status = .running) :
    m.freely (n + 1) = (m.freely n).next :=
  Run.advance_succ_eq_next hn

theorem freely_succ_of_ended (hn : (m.freely n).status ≠ .running) :
    m.freely (n + 1) = m.freely n :=
  Run.advance_eq_of_ended hn (Nat.le_succ n)

theorem room_freely (m : Machine) (n : Nat) : (m.freely n).out.room = none := by
  apply Run.advance_induction (P := fun q => q.out.room = none) rfl
  intro q _ hq
  rw [Run.out_next, State.out_step, Sink.room_write, hq, Option.map_none]

theorem fits_freely (m : Machine) (n : Nat) (text : String) :
    (m.freely n).out.fits text = true :=
  Sink.fits_of_room (room_freely m n) text

theorem text_freely_succ (hn : (m.freely n).status = .running) :
    (m.freely (n + 1)).text = (m.freely n).text ++ (m.freely n).state.printed := by
  rw [freely_succ_of_running hn, Run.text, Run.out_next, State.out_step, Sink.text_write,
    Sink.kept_of_fits (m.fits_freely n _)]
  rfl

theorem isAscii_text (m : Machine) (n : Nat) : Text.IsAscii (m.freely n).text := by
  induction n with
  | zero => exact Text.isAscii_empty
  | succ n ih =>
    by_cases hn : (m.freely n).status = .running
    · rw [text_freely_succ hn, Text.isAscii_append]
      exact ⟨ih, State.isAscii_printed _⟩
    · rw [freely_succ_of_ended hn]
      exact ih

/-- A run only adds to what it has printed. -/
theorem text_freely_prefix {k : Nat} (hkn : k ≤ n) :
    ∃ rest, (m.freely n).text = (m.freely k).text ++ rest := by
  induction hkn with
  | refl => exact ⟨"", by simp⟩
  | @step n hkn ih =>
    obtain ⟨rest, hrest⟩ := ih
    by_cases hn : (m.freely n).status = .running
    · exact ⟨rest ++ (m.freely n).state.printed, by
        rw [text_freely_succ hn, hrest, String.append_assoc]⟩
    · exact ⟨rest, by rw [freely_succ_of_ended hn, hrest]⟩

/-! ### Other outputs -/

/-- As long as the output takes what is printed, nothing but the output is different. -/
theorem advance_of_fits (h : out.fits (m.freely n).text = true) :
    Run.advance n (m.start out) = { m.freely n with out := out.write (m.freely n).text } := by
  induction n with
  | zero => simp [freely, Run.text, start]
  | succ n ih =>
    by_cases hn : (m.freely n).status = .running
    · rw [text_freely_succ hn, Sink.fits_append, Bool.and_eq_true] at h
      obtain ⟨hfits, hprinted⟩ := h
      specialize ih hfits
      have hrun : (Run.advance n (m.start out)).status = .running := by rw [ih]; exact hn
      rw [Run.advance_succ_eq_next hrun, ih, text_freely_succ hn, Sink.write_append,
        freely_succ_of_running hn]
      exact Run.next_of_fits hprinted (m.fits_freely n _)
    · have hended : (Run.advance n (m.start out)).status ≠ .running := by
        rw [freely_succ_of_ended hn] at h
        rw [ih h]
        exact hn
      rw [freely_succ_of_ended hn] at h ⊢
      rw [Run.advance_eq_of_ended hended (Nat.le_succ n), ih h]

/-- Where what is printed goes beyond what the output takes, the run ends with the state before. -/
theorem advance_of_refused (hfits : out.fits (m.freely n).text = true)
    (h : out.fits (m.freely (n + 1)).text = false) :
    (m.freely n).status = .running ∧
      (Run.advance (n + 1) (m.start out)).status = .faulted .outputRefused ∧
      (Run.advance (n + 1) (m.start out)).state = (m.freely n).state ∧
      (Run.advance (n + 1) (m.start out)).completed = n ∧
      (Run.advance (n + 1) (m.start out)).out = out.write (m.freely (n + 1)).text := by
  have hn : (m.freely n).status = .running := by
    by_contra hn
    rw [freely_succ_of_ended hn, hfits] at h
    exact absurd h (by decide)
  have hrun := advance_of_fits hfits
  rw [text_freely_succ hn, Sink.fits_append, hfits, Bool.true_and] at h
  have hnext : Run.advance (n + 1) (m.start out) =
      ({ m.freely n with out := out.write (m.freely n).text } : Run).next := by
    rw [Run.advance_succ_eq_next (by rw [hrun]; exact hn), hrun]
  have hstatus := Run.status_next_of_refused
    (r := { m.freely n with out := out.write (m.freely n).text }) h
  have hended := hstatus.trans_ne (show Status.faulted .outputRefused ≠ .running by simp)
  rw [hnext]
  refine ⟨hn, hstatus, Run.state_next_of_ended hended, ?_, ?_⟩
  · rw [Run.completed_next_of_ended hended]
    exact Run.completed_start_of_running hn
  · rw [Run.out_next, State.out_step, text_freely_succ hn, Sink.write_append]
    rfl

theorem exists_refusal (h : out.fits (m.freely n).text = false) :
    ∃ k < n, out.fits (m.freely k).text = true ∧ out.fits (m.freely (k + 1)).text = false := by
  induction n with
  | zero => simp [freely, Run.text] at h
  | succ n ih =>
    cases hn : out.fits (m.freely n).text with
    | true => exact ⟨n, Nat.lt_succ_self n, hn, h⟩
    | false =>
      obtain ⟨k, hkn, hk⟩ := ih hn
      exact ⟨k, Nat.lt_succ_of_lt hkn, hk⟩

/-- A run that the output does not stop is not touched by it. -/
theorem fits_of_not_refused
    (h : (Run.advance n (m.start out)).status ≠ .faulted .outputRefused) :
    out.fits (m.freely n).text = true := by
  by_contra hfits
  obtain ⟨k, hkn, hk, hrefused⟩ := exists_refusal (Bool.eq_false_iff.2 hfits)
  obtain ⟨-, hstatus, -⟩ := advance_of_refused hk hrefused
  apply h
  rw [Run.advance_eq_of_ended (Status.ne_running_of_faulted hstatus) (Nat.succ_le_of_lt hkn),
    hstatus]

end Machine

/-! ### Limits -/

/-- Two runs that differ in nothing but the room that is left in their outputs. -/
structure Run.Matches (r q : Run) : Prop where
  status : r.status = q.status
  machine : r.machine = q.machine
  completed : r.completed = q.completed
  notes : r.notes = q.notes
  text : r.text = q.text

namespace Machine

variable {m : Machine} {limit n : Nat}

theorem fits_limited :
    (Sink.limited limit).fits (m.freely n).text = true ↔
      (m.freely n).text.utf8ByteSize ≤ limit :=
  Sink.fits_limited (m.isAscii_text n)

theorem within_matches (h : (m.freely n).text.utf8ByteSize ≤ limit) :
    (m.within limit n).Matches (m.freely n) := by
  have hfits := fits_limited.2 h
  have hrun := advance_of_fits hfits
  unfold within
  rw [hrun]
  refine ⟨rfl, rfl, rfl, rfl, ?_⟩
  rw [Run.text, Sink.text_write, Sink.kept_of_fits hfits, Sink.text_limited, String.empty_append]

theorem utf8ByteSize_text_le {k : Nat} (hkn : k ≤ n) :
    (m.freely k).text.utf8ByteSize ≤ (m.freely n).text.utf8ByteSize := by
  obtain ⟨rest, hrest⟩ := text_freely_prefix (m := m) hkn
  rw [hrest, String.utf8ByteSize_append]
  exact Nat.le_add_right _ _

/-- The print at which a text goes beyond the limit. -/
theorem fetch_of_refused (hfits : (m.freely n).text.utf8ByteSize ≤ limit)
    (h : limit < (m.freely (n + 1)).text.utf8ByteSize) :
    ∃ r, (m.freely n).state.fetch = .ok (.instruction (.prn r)) := by
  by_cases hn : (m.freely n).status = .running
  · rw [text_freely_succ hn, String.utf8ByteSize_append] at h
    rcases (m.freely n).state.printed_cases with hsilent | ⟨r, v, hf, -, -⟩
    · rw [hsilent] at h
      exact absurd h (Nat.not_lt.2 hfits)
    · exact ⟨r, hf⟩
  · rw [freely_succ_of_ended hn] at h
    exact absurd h (Nat.not_lt.2 hfits)

/-- An output that takes `limit` bytes changes nothing if no more is printed. Otherwise it stops the
machine at the print that first goes beyond it, with the first `limit` bytes taken and the state as
it was before that print. -/
theorem within_limit (m : Machine) (limit n : Nat) :
    ((m.freely n).text.utf8ByteSize ≤ limit →
      ∀ k ≤ n, (m.within limit k).Matches (m.freely k)) ∧
    (limit < (m.freely n).text.utf8ByteSize →
      ∃ k < n, (∀ j ≤ k, (m.within limit j).Matches (m.freely j)) ∧
        (∃ r, (m.freely k).state.fetch = .ok (.instruction (.prn r))) ∧
        (m.freely k).text.utf8ByteSize ≤ limit ∧
        limit < (m.freely (k + 1)).text.utf8ByteSize ∧
        m.within limit n = m.within limit (k + 1) ∧
        (m.within limit n).status = .faulted .outputRefused ∧
        (m.within limit n).completed = k ∧
        (m.within limit n).state = (m.freely k).state ∧
        (m.within limit n).text.utf8ByteSize = limit ∧
        ∃ rest, (m.freely n).text = (m.within limit n).text ++ rest) := by
  constructor
  · intro h k hkn
    exact within_matches (Nat.le_trans (utf8ByteSize_text_le hkn) h)
  · intro h
    have hlong : (Sink.limited limit).fits (m.freely n).text = false :=
      Bool.eq_false_iff.2 fun hfits => Nat.not_lt.2 (fits_limited.1 hfits) h
    obtain ⟨k, hkn, hfits, hrefused⟩ := exists_refusal hlong
    obtain ⟨-, hstatus, hstate, hcompleted, hout⟩ := advance_of_refused hfits hrefused
    have hover : limit < (m.freely (k + 1)).text.utf8ByteSize := by
      rw [← Nat.not_le, ← fits_limited, hrefused]
      decide
    have hlast : m.within limit n = m.within limit (k + 1) :=
      Run.advance_eq_of_ended (by rw [hstatus]; simp) hkn
    have htext : (m.within limit (k + 1)).text =
        ((Sink.limited limit).write (m.freely (k + 1)).text).text := congrArg Sink.text hout
    obtain ⟨hsize, rest, hrest⟩ := Sink.text_write_limited (m.isAscii_text (k + 1)) limit
    rw [Nat.min_eq_left (Nat.le_of_lt hover)] at hsize
    obtain ⟨later, hlater⟩ := text_freely_prefix (m := m) (Nat.succ_le_of_lt hkn)
    refine ⟨k, hkn, fun j hjk => ?_, fetch_of_refused (fits_limited.1 hfits) hover,
      fits_limited.1 hfits, hover, hlast, ?_⟩
    · exact within_matches (Nat.le_trans (utf8ByteSize_text_le hjk) (fits_limited.1 hfits))
    · rw [hlast, htext]
      refine ⟨hstatus, hcompleted, hstate, hsize, rest ++ later, ?_⟩
      rw [hlater, ← String.append_assoc, ← hrest]

end Machine

end ByteMachine

/-!
# Sinks

A sink takes text, all of it or only so many characters in all. Of a text that does not fit it keeps
the part that does. What is written to a sink here is ASCII, so a character is a byte.
-/

namespace ByteMachine

/-- The text taken so far, and the number of characters for which there is still room, `none` if
there is room for any number. -/
structure Sink where
  room : Option Nat := none
  text : String := ""
  deriving DecidableEq

namespace Sink

/-- An empty sink that takes any text. -/
def unlimited : Sink := {}

/-- An empty sink that takes `limit` characters in all. -/
def limited (limit : Nat) : Sink := { room := some limit }

/-- Whether there is room for the whole text. -/
def fits (s : Sink) (text : String) : Bool :=
  match s.room with
  | none => true
  | some r => text.length ≤ r

/-- The part of the text for which there is room. -/
def kept (s : Sink) (text : String) : String :=
  match s.room with
  | none => text
  | some r => String.ofList (text.toList.take r)

/-- Takes the part of the text for which there is room. -/
def write (s : Sink) (text : String) : Sink where
  room := s.room.map (· - text.length)
  text := s.text ++ s.kept text

@[simp] theorem fits_unlimited (text : String) : unlimited.fits text = true := rfl

@[simp] theorem kept_unlimited (text : String) : unlimited.kept text = text := rfl

@[simp] theorem text_unlimited : unlimited.text = "" := rfl

@[simp] theorem room_unlimited : unlimited.room = none := rfl

@[simp] theorem room_limited (limit : Nat) : (limited limit).room = some limit := rfl

@[simp] theorem text_limited (limit : Nat) : (limited limit).text = "" := rfl

@[simp] theorem text_write (s : Sink) (text : String) :
    (s.write text).text = s.text ++ s.kept text := rfl

@[simp] theorem room_write (s : Sink) (text : String) :
    (s.write text).room = s.room.map (· - text.length) := rfl

theorem fits_iff {s : Sink} {text : String} :
    s.fits text = true ↔ ∀ r, s.room = some r → text.length ≤ r := by
  obtain ⟨room, taken⟩ := s
  cases room <;> simp [fits]

theorem fits_of_room {s : Sink} (h : s.room = none) (text : String) : s.fits text = true := by
  rw [fits, h]

theorem kept_of_fits {s : Sink} {text : String} (h : s.fits text = true) : s.kept text = text := by
  obtain ⟨room, taken⟩ := s
  cases room with
  | none => rfl
  | some r =>
    simp only [fits, decide_eq_true_eq, ← String.length_toList] at h
    simp [kept, List.take_of_length_le h]

@[simp] theorem fits_empty (s : Sink) : s.fits "" = true := by
  simp [fits_iff]

@[simp] theorem write_empty (s : Sink) : s.write "" = s := by
  obtain ⟨room, taken⟩ := s
  cases room <;> simp [write, kept]

/-- Two texts one after the other fit if the first one does and the second one fits behind it. -/
theorem fits_append (s : Sink) (first second : String) :
    s.fits (first ++ second) = (s.fits first && (s.write first).fits second) := by
  obtain ⟨room, taken⟩ := s
  cases room with
  | none => rfl
  | some r =>
    rw [Bool.eq_iff_iff]
    simp only [fits, write, Option.map_some, String.length_append, Bool.and_eq_true,
      decide_eq_true_eq]
    omega

theorem write_append (s : Sink) (first second : String) :
    s.write (first ++ second) = (s.write first).write second := by
  obtain ⟨room, taken⟩ := s
  cases room with
  | none => simp [write, kept, String.append_assoc]
  | some r =>
    simp only [write, kept, Option.map_some, String.length_append, mk.injEq, Option.some.injEq]
    refine ⟨by omega, ?_⟩
    rw [← String.toList_inj]
    simp [List.take_append, String.length_toList]

end Sink

end ByteMachine

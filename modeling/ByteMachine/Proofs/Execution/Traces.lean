import ByteMachine.Proofs.Execution.Course
import ByteMachine.Proofs.Execution.Output

/-!
# Trace lines

What a tracer of trace lines has written after a number of cycles. It was shown one line for each
cycle in which something was decoded, and the lines depend on the states alone. So its sink has
taken of them what it could, whatever else is different.
-/

namespace ByteMachine

/-! ### The characters of a line -/

namespace Text

variable {P : Char → Prop}

theorem forall_mem_upperHex (h : ∀ k < 16, P (Nat.digitChar k).toUpper) (width n : Nat) :
    ∀ c ∈ (upperHex width n).toList, P c := by
  intro c hc
  rw [toList_upperHex, List.mem_map] at hc
  obtain ⟨d, hd, rfl⟩ := hc
  rw [digits, List.leftpad, List.mem_append, List.mem_replicate] at hd
  rcases hd with ⟨-, rfl⟩ | hd
  · exact h 0 (by decide)
  · obtain ⟨k, hk, rfl⟩ := exists_digitChar_of_mem_toDigits (by decide) hd
    exact h k hk

theorem forall_mem_intercalate {separator : String} (h : ∀ c ∈ separator.toList, P c)
    {texts : List String} (htexts : ∀ text ∈ texts, ∀ c ∈ text.toList, P c) :
    ∀ c ∈ (separator.intercalate texts).toList, P c := by
  induction texts with
  | nil => simp
  | cons text texts ih =>
    rw [List.forall_mem_cons] at htexts
    cases texts with
    | nil => simpa using htexts.1
    | cons next rest =>
      rw [String.intercalate_cons_cons, String.toList_append, List.forall_mem_append,
        String.toList_append, List.forall_mem_append]
      exact ⟨⟨htexts.1, h⟩, ih htexts.2⟩

end Text

/-- A trace line is made of hexadecimal digits and of the characters of its name and its
separators. -/
theorem State.forall_mem_traceLine {P : Char → Prop}
    (hdigit : ∀ k < 16, P (Nat.digitChar k).toUpper)
    (hother : ∀ c ∈ "TRACE: | ".toList, P c) (s : State) : ∀ c ∈ s.traceLine.toList, P c := by
  have hhex (n : Nat) : ∀ c ∈ (Text.upperHex 2 n).toList, P c :=
    Text.forall_mem_upperHex hdigit 2 n
  have hpart {text : String} (h : text.toList ⊆ "TRACE: | ".toList) : ∀ c ∈ text.toList, P c :=
    fun c hc => hother c (h hc)
  have hspace : ∀ c ∈ " ".toList, P c := hpart (by decide)
  have hregisters : ∀ c ∈
      (" ".intercalate (s.registers.toList.map fun r => Text.upperHex 2 r.toNat)).toList, P c := by
    apply Text.forall_mem_intercalate hspace
    intro text htext
    obtain ⟨r, -, rfl⟩ := List.mem_map.1 htext
    exact hhex _
  have hname : ∀ c ∈ "TRACE: ".toList, P c := hpart (by decide)
  have hbar : ∀ c ∈ " | ".toList, P c := hpart (by decide)
  delta traceLine
  simp only [String.toList_append, List.forall_mem_append]
  exact ⟨⟨⟨⟨⟨⟨⟨⟨⟨hname, hhex _⟩, hbar⟩, hhex _⟩, hspace⟩, hhex _⟩, hspace⟩, hhex _⟩, hbar⟩,
    hregisters⟩

/-! ### Lines that are shown -/

namespace State

/-- The line that a tracer is shown in the next cycle, if something is decoded there. -/
def shown (s : State) : String :=
  match s.fetch with
  | .ok _ => s.traceLine ++ "\n"
  | .error _ => ""

theorem shown_of_fetch {s : State} {d : Decoded} (h : s.fetch = .ok d) :
    s.shown = s.traceLine ++ "\n" := by
  rw [shown, h]

theorem shown_ne_empty {s : State} (h : s.fetch.isOk) : s.shown ≠ "" := by
  cases hf : s.fetch with
  | error fault => simp [hf] at h
  | ok d => simp [shown_of_fetch hf]

theorem isAscii_traceLine (s : State) : Text.IsAscii s.traceLine :=
  have hother : Text.IsAscii "TRACE: | " := by decide
  s.forall_mem_traceLine (by decide) hother

theorem isAscii_shown (s : State) : Text.IsAscii s.shown := by
  unfold shown
  cases s.fetch with
  | error fault => exact Text.isAscii_empty
  | ok d => exact Text.isAscii_append.2 ⟨s.isAscii_traceLine, by decide⟩

end State

namespace Course

/-- The lines that a tracer is shown in so many cycles. -/
def shown (c : Course) : Nat → String
  | 0 => ""
  | n + 1 => c.shown n ++ (next^[n] c).state.shown

theorem isAscii_shown (c : Course) (n : Nat) : Text.IsAscii (c.shown n) := by
  induction n with
  | zero => exact Text.isAscii_empty
  | succ n ih => exact Text.isAscii_append.2 ⟨ih, State.isAscii_shown _⟩

theorem utf8ByteSize_shown_le (c : Course) {k n : Nat} (hkn : k ≤ n) :
    (c.shown k).utf8ByteSize ≤ (c.shown n).utf8ByteSize := by
  induction hkn with
  | refl => exact Nat.le_refl _
  | step hkn ih =>
    rw [shown, String.utf8ByteSize_append]
    exact Nat.le_add_right_of_le ih

end Course

/-! ### Tracers of trace lines -/

theorem Machine.nextTracer_of_hex {m : Machine} {sink : Sink} (h : m.tracer = some (.hex sink)) :
    m.nextTracer = some (.hex (sink.write m.state.shown)) := by
  unfold nextTracer State.shown
  cases m.state.fetch with
  | error fault => rw [h, Sink.write_empty]
  | ok d => rw [h]; rfl

namespace Run

variable {r : Run} {sink : Sink}

theorem state_iterate (r : Run) (n : Nat) : (next^[n] r).state = (Course.next^[n] r.course).state :=
  congrArg Course.state (course_iterate n r)

/-- A tracer of trace lines has taken of the lines that it was shown what its sink could take. -/
theorem tracer_iterate (h : r.machine.tracer = some (.hex sink)) (n : Nat) :
    (next^[n] r).machine.tracer = some (.hex (sink.write (r.course.shown n))) := by
  induction n with
  | zero => rw [Course.shown, Sink.write_empty, Function.iterate_zero_apply, h]
  | succ n ih =>
    rw [Function.iterate_succ_apply', Course.shown, Sink.write_append, ← state_iterate]
    exact Machine.nextTracer_of_hex ih

end Run

end ByteMachine

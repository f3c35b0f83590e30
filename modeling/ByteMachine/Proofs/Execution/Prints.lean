import ByteMachine.Proofs.Execution.Events
import ByteMachine.Proofs.Execution.Output

/-!
# What a run has printed

Each completed print adds a line with the value of its register, and nothing else adds to the text
of a run. So the text lists the values that the registers held when they were printed, in this
order, and the values can be read back from it.
-/

namespace ByteMachine

namespace Event

/-- Whether a print was completed. -/
def prints : Event → Bool
  | .completed _ (.prn _) => true
  | _ => false

/-- What the register of a completed print held. -/
def printed? : Event → Option UInt8
  | .completed s (.prn r) => s.registers[r.toNat]?
  | _ => none

end Event

/-- The values that the first cycles of a run have printed onto an output that takes any text. -/
def Machine.printed (m : Machine) (n : Nat) : List UInt8 :=
  (Run.events n (m.start .unlimited)).filterMap Event.printed?

/-- A text that lists values, each on a line of its own, and from which they can be read. -/
structure Text.Lists (text : String) (values : List UInt8) : Prop where
  text_eq : text = String.join (values.map fun v => decimal v.toNat ++ "\n")
  numbers : (lines text.toList).map number? = values.map fun v => some v.toNat
  short : ∀ line ∈ lines text.toList, IsShortDecimal line
  newlines : text.toList.count '\n' = values.length
  ends : text = "" ∨ ∃ front, text = front ++ "\n"

theorem Text.lists_decimalLines (values : List UInt8) :
    Lists (decimalLines (values.map UInt8.toNat)) values where
  text_eq := by
    rw [decimalLines, List.map_map]
    rfl
  numbers := by
    rw [map_number?_lines_decimalLines, List.map_map]
    rfl
  short := by
    intro line hline
    rw [lines_decimalLines, List.map_map] at hline
    obtain ⟨v, -, rfl⟩ := List.mem_map.1 hline
    exact isShortDecimal_decimal (Nat.lt_of_lt_of_le v.toNat_lt (by decide))
  newlines := by rw [count_newline_decimalLines, List.length_map]
  ends := decimalLines_ends _

/-! ### Completed instructions -/

namespace State.Executes

variable {s t : State} {i : Instruction} {text : String}

theorem text_of_prn {r : UInt8} (h : s.Executes (.prn r) t text) :
    ∃ hr : r.toNat < 8, text = Text.decimal s.registers[r.toNat].toNat ++ "\n" := by
  cases h with
  | print hr => exact ⟨hr, rfl⟩
  | jump hj hr => cases hj
  | pass hi hj => simp [Instruction.opcode] at hi

theorem text_eq_decimalLines (h : s.Executes i t text) :
    text = Text.decimalLines ((Event.completed s i).printed?.toList.map UInt8.toNat) := by
  cases i with
  | prn r =>
    obtain ⟨hr, rfl⟩ := h.text_of_prn
    rw [Event.printed?, Vector.getElem?_eq_getElem hr, Option.toList_some, List.map_singleton,
      Text.decimalLines_singleton]
  | ldi r v | cmp a b | jmp r | jeq r | jne r =>
    rcases h.text_eq with rfl | ⟨r, -, hprn, -⟩
    · rfl
    · cases hprn

/-- The register of a completed print exists. -/
theorem isSome_printed? (h : s.Executes i t text) :
    (Event.completed s i).printed?.isSome = (Event.completed s i).prints := by
  cases i with
  | prn r =>
    obtain ⟨hr, -⟩ := h.text_of_prn
    rw [Event.printed?, Vector.getElem?_eq_getElem hr]
    rfl
  | ldi r v | cmp a b | jmp r | jeq r | jne r => rfl

end State.Executes

/-! ### Runs -/

namespace Run

variable {r : Run}

/-- Onto an output that takes any text a cycle prints nothing unless it completes a print. -/
theorem out_next_of_ended (hroom : r.out.room = none) (h : r.next.status ≠ .running) :
    r.next.out = r.out := by
  have hfits : r.out.fits r.state.printed = true := Sink.fits_of_room hroom _
  have hs : (r.state.step .unlimited).status ≠ .running := by
    rw [status_next, State.step_eq, if_pos hfits] at h
    exact h
  rw [out_next, State.out_step, State.printed_of_not_running hs, Sink.write_empty]

/-- The text of a run grows by the lines of its events. -/
theorem text_advance (hroom : r.out.room = none) (n : Nat) : (advance n r).text =
    r.text ++ Text.decimalLines (((events n r).filterMap Event.printed?).map UInt8.toNat) := by
  suffices h : (advance n r).out.room = none ∧ (advance n r).text =
      r.text ++ Text.decimalLines (((events n r).filterMap Event.printed?).map UInt8.toNat) from h.2
  apply advance_events_induction (P := fun q events => q.out.room = none ∧ q.text =
    r.text ++ Text.decimalLines ((events.filterMap Event.printed?).map UInt8.toNat)) (l := [])
  · rintro q i text events - he - hout ⟨hq, ih⟩
    have hfits : q.out.fits text = true := Sink.fits_of_room hq text
    have hline : [Event.completed q.state i].filterMap Event.printed? =
        (Event.completed q.state i).printed?.toList := by
      rw [List.filterMap_cons]
      cases (Event.completed q.state i).printed? <;> rfl
    constructor
    · rw [hout, Sink.room_write, hq, Option.map_none]
    · rw [Run.text, hout, Sink.text_write, Sink.kept_of_fits hfits, List.filterMap_append, hline,
        List.map_append, Text.decimalLines_append, ← he.text_eq_decimalLines, ← String.append_assoc,
        ← ih]
      rfl
  · rintro q events hnext ⟨hq, ih⟩
    rw [Run.text, out_next_of_ended hq hnext]
    exact ⟨hq, ih⟩
  · rw [List.filterMap_nil, List.map_nil, Text.decimalLines_nil, String.append_empty]
    exact ⟨hroom, rfl⟩

/-- Each completed print has printed a value. -/
theorem length_printed (r : Run) (n : Nat) :
    ((events n r).filterMap Event.printed?).length = (events n r).countP Event.prints := by
  apply events_induction (P := fun _ events =>
    (events.filterMap Event.printed?).length = events.countP Event.prints) (l := []) _ rfl
  intro s t i text events _ he ih
  rw [List.length_filterMap_eq_countP] at ih ⊢
  rw [List.countP_append, List.countP_append, List.countP_singleton, List.countP_singleton, ih,
    he.isSome_printed?]

end Run

namespace Machine

theorem text_freely (m : Machine) (n : Nat) :
    (m.freely n).text = Text.decimalLines ((m.printed n).map UInt8.toNat) := by
  rw [freely, Run.text_advance (m.out_start _ ▸ rfl), printed]
  exact String.empty_append

/-- The text of a run lists the values that its completed prints have found in their registers, and
nothing else. So two runs print the same text exactly if they print the same values. -/
theorem text_lists_printed (m : Machine) (n : Nat) :
    Text.Lists (m.freely n).text (m.printed n) ∧
      (m.printed n).length = (Run.events n (m.start .unlimited)).countP Event.prints ∧
      ∀ (m' : Machine) (n' : Nat),
        (m'.freely n').text = (m.freely n).text ↔ m'.printed n' = m.printed n := by
  refine ⟨?_, Run.length_printed _ n, ?_⟩
  · rw [text_freely]
    exact Text.lists_decimalLines _
  · intro m' n'
    rw [text_freely, text_freely]
    constructor
    · intro h
      exact (List.map_inj_right fun _ _ => UInt8.toNat_inj.1).1 (Text.decimalLines_injective h)
    · intro h
      rw [h]

end Machine

end ByteMachine

import Watchpost.EventLines

set_option autoImplicit false

/-! # What lines hold

A line is no text at all, or blank, or it holds an event, or it is malformed. `EventLines.item?` is
given for each of the four, so that later proofs need not open it. Blank lines are passed over, so
that reading depends on the other lines alone: `EventLines.written` has them, with lines taken as
what stands between line feeds. -/

namespace Watchpost.EventLines

/-! ## Four kinds of lines -/

/-- Whether a line is a text of blanks alone. -/
def isBlank (line : List UInt8) : Bool :=
  (text? line).any fun s => (Text.trimmed s).isEmpty

/-- The event that a line holds: its text, without blanks at both ends, is one. -/
def event? (line : List UInt8) : Option Event :=
  (text? line).bind fun s => Event.ofText? (Text.trimmed s)

/-- The empty text is no event. -/
theorem ofText?_empty : Event.ofText? "" = none := by
  decide +kernel

theorem text?_of_not_isText {line : List UInt8} (h : isText line = false) : text? line = none := by
  simpa [isText] using h

theorem isText_of_isBlank {line : List UInt8} (h : isBlank line = true) : isText line = true := by
  obtain ⟨s, hs, -⟩ := (Option.any_eq_true _ _).1 h
  simp [isText, hs]

theorem event?_of_not_isText {line : List UInt8} (h : isText line = false) :
    event? line = none := by
  rw [event?, text?_of_not_isText h]
  rfl

theorem item?_of_not_isText {line : List UInt8} (h : isText line = false) (number : Nat) :
    item? number line = some (.error .unreadable) := by
  simp only [item?, text?_of_not_isText h]

theorem item?_of_isBlank {line : List UInt8} (h : isBlank line = true) (number : Nat) :
    item? number line = none := by
  obtain ⟨s, hs, hempty⟩ := (Option.any_eq_true _ _).1 h
  simp only [item?, hs, if_pos hempty]

theorem item?_of_event {line : List UInt8} {e : Event} (h : event? line = some e) (number : Nat) :
    item? number line = some (.ok e) := by
  obtain ⟨s, hs, he⟩ := Option.bind_eq_some_iff.1 h
  -- A blank line would have the empty text.
  have hfull : ¬ (Text.trimmed s).isEmpty = true := by
    intro hempty
    rw [String.isEmpty_iff.1 hempty, ofText?_empty] at he
    exact absurd he (by simp)
  simp only [item?, hs, if_neg hfull, he]

theorem item?_of_malformed {line : List UInt8} (htext : isText line = true)
    (hblank : isBlank line = false) (h : event? line = none) (number : Nat) :
    item? number line = some (.error (.malformed number)) := by
  obtain ⟨s, hs⟩ := Option.isSome_iff_exists.1 htext
  have hfull : ¬ (Text.trimmed s).isEmpty = true := by
    simpa [isBlank, hs] using hblank
  have hnone : Event.ofText? (Text.trimmed s) = none := by
    simpa [event?, hs] using h
  simp only [item?, hs, if_neg hfull, hnone]

/-! ## Lines between line feeds -/

/-- The lines of bytes are what stands between line feeds, but for nothing after the last one. -/
theorem splitOn_eq_split (bs : List UInt8) :
    bs.splitOn 10 = split bs ∨ bs.splitOn 10 = split bs ++ [[]] := by
  induction bs with
  | nil => exact Or.inr rfl
  | cons b bs ih =>
    rw [List.splitOn_cons_eq_if_modifyHead, split]
    by_cases hb : b = 10
    · rw [if_pos (beq_iff_eq.2 hb), if_pos hb]
      exact ih.imp (congrArg _) (congrArg _)
    · rw [if_neg (fun he => hb (beq_iff_eq.1 he)), if_neg hb]
      -- `split` has no line to extend only where nothing follows; there `splitOn` has an empty one.
      cases hsplit : split bs with
      | nil =>
        rw [hsplit] at ih
        rcases ih with ih | ih
        · exact absurd ih (List.splitOn_ne_nil 10 bs)
        · rw [ih]
          exact Or.inl rfl
      | cons line lines =>
        rw [hsplit] at ih
        rcases ih with ih | ih
        · rw [ih]
          exact Or.inl rfl
        · rw [ih]
          exact Or.inr rfl

/-- The lines of bytes that are not blank. -/
def written (bytes : ByteArray) : List (List UInt8) :=
  (bytes.toList.splitOn 10).filter fun line => !isBlank line

theorem isBlank_nil : isBlank [] = true := by
  decide +kernel

theorem written_eq_filter_split (bytes : ByteArray) :
    written bytes = (split bytes.toList).filter fun line => !isBlank line := by
  rcases splitOn_eq_split bytes.toList with h | h
  · rw [written, h]
  · rw [written, h, List.filter_append]
    simp [isBlank_nil]

end Watchpost.EventLines

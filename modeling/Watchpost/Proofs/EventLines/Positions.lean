import Watchpost.Proofs.EventLines
import Watchpost.Proofs.Text.Encoding

set_option autoImplicit false

/-! # Where the events of a text are

A text has lines, and a line that holds more than blanks is an event or is malformed. `filledLines`
has these lines with their numbers, read off the text and not off its bytes, and `next_after` says
that looking for events again and again gives them one by one, and nothing once there are no
more. -/

namespace Watchpost.EventLines

/-! ## Lines of a text -/

/-- The lines of a text: each ends at a line feed, with a carriage return before it or without. The
    last one ends with the text. -/
def linesOf : List Char → List (List Char)
  | [] => [[]]
  | '\n' :: cs => [] :: linesOf cs
  | '\r' :: '\n' :: cs => [] :: linesOf cs
  | c :: cs => (linesOf cs).modifyHead (c :: ·)

/-- The lines that hold more than blanks, without the blanks at both ends. Each has its number:
    the first of all lines has the number `first`, and lines that are left out are counted too. -/
def filledFrom (first : Nat) (lines : List (List Char)) : List (String × Nat) :=
  let texts := lines.map fun cs => Text.trimmed (String.ofList cs)
  (texts.zipIdx first).filter fun line => !line.1.isEmpty

/-- The lines of a text that hold more than blanks, with their numbers: the first line is line 1. -/
def filledLines (s : String) : List (String × Nat) :=
  filledFrom 1 (linesOf s.toList)

/-- What there is to say of a line: its event, or its number if it is none. -/
def report : String × Nat → Item
  | (line, number) =>
    match Event.ofText? line with
    | some e => .ok e
    | none => .error (.malformed number)

/-! ## Lines between line feeds -/

/-- A line as it stands between line feeds: a carriage return may still be at its end. -/
def IsLineOf (line piece : List Char) : Prop :=
  piece = line ∨ piece = line ++ ['\r']

theorem IsLineOf.cons {line piece : List Char} (h : IsLineOf line piece) (c : Char) :
    IsLineOf (c :: line) (c :: piece) := by
  rcases h with rfl | rfl
  · exact .inl rfl
  · exact .inr rfl

theorem forall₂_modifyHead {lines pieces : List (List Char)}
    (h : List.Forall₂ IsLineOf lines pieces) (c : Char) :
    List.Forall₂ IsLineOf (lines.modifyHead (c :: ·)) (pieces.modifyHead (c :: ·)) := by
  cases h with
  | nil => exact .nil
  | cons hline hrest => exact .cons (hline.cons c) hrest

theorem forall₂_linesOf (cs : List Char) :
    List.Forall₂ IsLineOf (linesOf cs) (cs.splitOn '\n') := by
  fun_induction linesOf cs with
  | case1 => exact .cons (.inl rfl) .nil
  | case2 cs ih =>
    rw [List.splitOn_cons_eq_if_modifyHead]
    exact .cons (.inl rfl) ih
  | case3 cs ih =>
    rw [List.splitOn_cons_eq_if_modifyHead, List.splitOn_cons_eq_if_modifyHead]
    exact .cons (.inr rfl) ih
  | case4 c cs hfeed _ ih =>
    rw [List.splitOn_cons_eq_if_modifyHead, if_neg (by simpa using hfeed)]
    exact forall₂_modifyHead ih c

/-- A blank at the end of a text goes when the text is trimmed. -/
theorem trim_append_of_isBlank {c : Char} (h : Text.isBlank c = true) (cs : List Char) :
    Text.trim (cs ++ [c]) = Text.trim cs := by
  have hend (xs : List Char) : Text.trimEnd (xs ++ [c]) = Text.trimEnd xs := by
    rw [Text.trimEnd, Text.dropEndWhile, List.reverse_append, List.reverse_singleton,
      List.singleton_append, List.dropWhile_cons_of_pos h]
    rfl
  rw [Text.trim, Text.trim, Text.trimStart, List.dropWhile_append]
  split
  case isTrue hnone =>
    rw [List.isEmpty_iff] at hnone
    rw [Text.trimStart, hnone, List.dropWhile_cons_of_pos h]
    rfl
  case isFalse =>
    rw [hend]
    rfl

/-- A carriage return at the end of a line is a blank. -/
theorem IsLineOf.trim_eq {line piece : List Char} (h : IsLineOf line piece) :
    Text.trim piece = Text.trim line := by
  rcases h with rfl | rfl
  · rfl
  · exact trim_append_of_isBlank (by decide) line

/-! ## What lines hold -/

theorem text?_bytes (s : String) : text? (Text.bytes s) = some s :=
  Text.fromUTF8?_bytes s

theorem item?_bytes (number : Nat) (s : String) :
    item? number (Text.bytes s)
      = if (Text.trimmed s).isEmpty then none else some (report (Text.trimmed s, number)) := by
  simp only [item?, text?_bytes, report]
  cases Event.ofText? (Text.trimmed s) <;> rfl

/-- The lines of a text are all counted. -/
theorem readWith_bytes (number : Nat) (s : String) :
    readWith number (Text.bytes s) = number + 1 := by
  rw [readWith, isText, text?_bytes, Option.isSome_some, if_pos rfl]

/-- Lines give one report each, but for the blank ones. -/
theorem itemsFrom_eq {lines pieces : List (List Char)} (h : List.Forall₂ IsLineOf lines pieces)
    (number : Nat) :
    itemsFrom number (pieces.map fun cs => Text.bytes (String.ofList cs))
      = (filledFrom (number + 1) lines).map report := by
  induction h generalizing number with
  | nil => rfl
  | @cons line piece lines pieces hline hrest ih =>
    have htrimmed : Text.trimmed (String.ofList piece) = Text.trimmed (String.ofList line) := by
      simp only [Text.trimmed, String.toList_ofList, hline.trim_eq]
    rw [List.map_cons, itemsFrom, item?_bytes, readWith_bytes, htrimmed, ih (number + 1)]
    simp only [filledFrom, List.map_cons, List.zipIdx_cons]
    by_cases hempty : (Text.trimmed (String.ofList line)).isEmpty = true
    · rw [if_pos hempty, List.filter_cons_of_neg (by simpa using hempty)]
      rfl
    · rw [if_neg hempty, List.filter_cons_of_pos (by simpa using hempty)]
      rfl

/-- A blank line at the end changes nothing. -/
theorem itemsFrom_append_nil (number : Nat) (lines : List (List UInt8)) :
    itemsFrom number (lines ++ [[]]) = itemsFrom number lines := by
  induction lines generalizing number with
  | nil =>
    show (item? (number + 1) []).toList ++ [] = []
    rw [item?_of_isBlank isBlank_nil]
    rfl
  | cons line lines ih =>
    show _ ++ itemsFrom (readWith number line) (lines ++ [[]])
      = _ ++ itemsFrom (readWith number line) lines
    rw [ih]

/-- The bytes of a text give what its filled lines have to report. -/
theorem items_ofBytes (s : String) :
    (ofBytes s.toUTF8).items = (filledLines s).map report := by
  have hsplit : itemsFrom 0 (split (Text.bytes s)) = itemsFrom 0 ((Text.bytes s).splitOn 10) := by
    rcases splitOn_eq_split (Text.bytes s) with h | h
    · rw [h]
    · rw [h, itemsFrom_append_nil]
  show itemsFrom 0 (split (Text.bytes s)) = _
  rw [hsplit, Text.splitOn_bytes, itemsFrom_eq (forall₂_linesOf s.toList)]
  rfl

/-! ## Looking again and again -/

/-- What is left of the input after looking for an event some number of times. -/
def after : Nat → EventLines → EventLines
  | 0, ls => ls
  | looks + 1, ls => after looks ls.next.2

theorem nextFrom_eq (number : Nat) (lines : List (List UInt8)) :
    (nextFrom number lines).1 = (itemsFrom number lines).head? ∧
      (nextFrom number lines).2.items = (itemsFrom number lines).tail := by
  induction lines generalizing number with
  | nil => exact ⟨rfl, rfl⟩
  | cons line lines ih =>
    rw [nextFrom, itemsFrom]
    cases hitem : item? (number + 1) line with
    | none => exact ih (readWith number line)
    | some item => exact ⟨rfl, rfl⟩

theorem next_fst (ls : EventLines) : ls.next.1 = ls.items.head? :=
  (nextFrom_eq ls.read ls.rest).1

theorem items_next (ls : EventLines) : ls.next.2.items = ls.items.tail :=
  (nextFrom_eq ls.read ls.rest).2

theorem items_after (looks : Nat) (ls : EventLines) :
    (ls.after looks).items = ls.items.drop looks := by
  induction looks generalizing ls with
  | zero => rfl
  | succ looks ih => rw [after, ih, items_next, List.drop_tail]

/-- **Looking for events in a text gives its filled lines one by one.** However the lines of the
    text end and whichever of them are blank, the look after `looks` others gives the event in
    the filled line with that index, or the number of that line if no event is in it. Once there are
    no more filled lines, every look gives nothing. -/
theorem next_after (s : String) (looks : Nat) :
    ((ofBytes s.toUTF8).after looks).next.1 = ((filledLines s).map report)[looks]? := by
  rw [next_fst, items_after, items_ofBytes, List.head?_drop]

example : filledLines "a\r\n \n\n b" = [("a", 1), ("b", 4)] := by decide +kernel

end Watchpost.EventLines

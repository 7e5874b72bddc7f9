import Watchpost.Proofs.Json.Escape
import Watchpost.Proofs.Number.Layout

set_option autoImplicit false

/-! # Compact texts determine values

No two JSON values have the same compact text, `compact_injective`. The first character of a text
tells the kind of its value. From there on a text shows by itself where it ends: a literal at its
closing quote, an array or an object at its bracket, and a number at the first character that none
is written with. So whatever follows two texts, the values can be read off both,
`chars_append_inj`. -/

namespace Watchpost

open Text (IsNumeric signedDecimal)

/-! ## Texts of numbers -/

/-- A text that does not go on with a character of a number. -/
def Text.EndsNumber (rest : List Char) : Prop :=
  ∀ c ∈ rest.head?, ¬ IsNumeric c

/-- A number ends at the first character that none is written with. -/
theorem Text.numeric_append_inj {xs ys rest rest' : List Char} (hxs : ∀ c ∈ xs, IsNumeric c)
    (hys : ∀ c ∈ ys, IsNumeric c) (hrest : EndsNumber rest) (hrest' : EndsNumber rest')
    (h : xs ++ rest = ys ++ rest') : xs = ys ∧ rest = rest' := by
  -- What one of the numbers has more than the other starts what follows the other.
  rcases List.append_eq_append_iff.1 h with ⟨more, rfl, rfl⟩ | ⟨more, rfl, rfl⟩
  · cases more with
    | nil => simp
    | cons c more => exact absurd (hys c (by simp)) (hrest c rfl)
  · cases more with
    | nil => simp
    | cons c more => exact absurd (hxs c (by simp)) (hrest' c rfl)

namespace Json.Number

/-- A double keeps its point or has an exponent, and an integer has neither. -/
theorem integer_ne_double (n : Int) (x : Binary64) : signedDecimal n ≠ Layout.json.format x := by
  intro h
  have hmark := Layout.mem_format_of_keepsPoint (show Layout.json.keepsPoint = true from rfl) x
  rw [← h] at hmark
  rcases hmark with hpoint | hexponent
  · exact absurd (Text.of_mem_signedDecimal hpoint) (by decide)
  · exact absurd (Text.of_mem_signedDecimal hexponent) (by decide)

/-- **Two numbers with one text are the same number.** -/
theorem text_injective {m n : Number} (h : m.text = n.text) : m = n := by
  cases m with
  | integer m hm =>
    cases n with
    | integer n hn =>
      obtain rfl := Text.signedDecimal_injective h
      rfl
    | double y hy => exact absurd h (integer_ne_double m y)
  | double x hx =>
    cases n with
    | integer n hn => exact absurd h.symm (integer_ne_double n x)
    | double y hy =>
      obtain rfl := Layout.json.format_injective hx hy h
      rfl

theorem numeric_text (n : Number) : ∀ c ∈ n.text, IsNumeric c := by
  intro c hc
  cases n with
  | integer n hn =>
    rcases Text.of_mem_signedDecimal hc with hdigit | rfl
    · exact .inl hdigit
    · exact .inr (by simp)
  | double x hx =>
    exact Layout.json.numeric_format hx c hc

/-- A number starts with a digit or with a minus sign. -/
theorem exists_text_eq_cons (n : Number) :
    ∃ c rest, n.text = c :: rest ∧ (c.isDigit = true ∨ c = '-') := by
  cases n with
  | integer n hn =>
    cases htext : signedDecimal n with
    | nil => cases n with
      | ofNat n => exact absurd htext (Text.decimal_ne_nil n)
      | negSucc n => cases htext
    | cons c rest =>
      exact ⟨c, rest, htext, Text.of_mem_signedDecimal (htext ▸ List.mem_cons_self)⟩
  | double x hx => exact Layout.json.exists_format_eq_cons hx

end Json.Number

namespace Json

/-! ## Kinds of values -/

/-- What the first character of a text tells about its value. -/
inductive Kind where
  | null
  | bool (b : Bool)
  | number
  | string
  | array
  | object
deriving DecidableEq

/-- The kind of a value. -/
def kind : Json → Kind
  | .null => .null
  | .bool b => .bool b
  | .number _ => .number
  | .string _ => .string
  | .array _ => .array
  | .object _ => .object

/-- The kind of value whose text starts with a character. -/
def kindOf (c : Char) : Option Kind :=
  if c.isDigit = true ∨ c = '-' then some .number
  else match c with
    | 'n' => some .null
    | 't' => some (.bool true)
    | 'f' => some (.bool false)
    | '"' => some .string
    | '[' => some .array
    | '{' => some .object
    | _ => none

theorem exists_chars_eq_cons (j : Json) :
    ∃ c rest, j.chars = c :: rest ∧ kindOf c = some j.kind := by
  cases j with
  | null => exact ⟨'n', _, rfl, rfl⟩
  | bool b => cases b with
    | true => exact ⟨'t', _, rfl, rfl⟩
    | false => exact ⟨'f', _, rfl, rfl⟩
  | number n =>
    obtain ⟨c, rest, htext, hc⟩ := n.exists_text_eq_cons
    refine ⟨c, rest, ?_, ?_⟩
    · rw [chars, htext]
    · unfold kindOf
      rw [if_pos hc, kind]
  | string s => exact ⟨'"', _, rfl, rfl⟩
  | array items => exact ⟨'[', _, rfl, rfl⟩
  | object members => exact ⟨'{', _, rfl, rfl⟩

theorem kind_eq_of_append_eq {a b : Json} {rest rest' : List Char}
    (h : a.chars ++ rest = b.chars ++ rest') : a.kind = b.kind := by
  obtain ⟨c, cs, ha, hc⟩ := a.exists_chars_eq_cons
  obtain ⟨c', cs', hb, hc'⟩ := b.exists_chars_eq_cons
  rw [ha, hb, List.cons_append, List.cons_append, List.cons.injEq] at h
  rw [h.1, hc', Option.some.injEq] at hc
  exact hc.symm

/-- No text starts with a character that only stands behind values. -/
theorem chars_append_ne {c : Char} (hc : kindOf c = none) (j : Json) (rest tail : List Char) :
    j.chars ++ rest ≠ c :: tail := by
  intro h
  obtain ⟨c', cs, hj, hc'⟩ := j.exists_chars_eq_cons
  rw [hj, List.cons_append, List.cons.injEq] at h
  rw [h.1, hc] at hc'
  cases hc'

/-- What holds of a container when it holds of its parts, and of all other values, holds of every
    value. -/
@[elab_as_elim]
theorem induction_on_parts {motive : Json → Prop} (null : motive .null)
    (bool : ∀ b, motive (.bool b)) (number : ∀ n, motive (.number n))
    (string : ∀ s, motive (.string s))
    (array : ∀ items, (∀ j ∈ items, motive j) → motive (.array items))
    (object : ∀ members, (∀ m ∈ members, motive m.2) → motive (.object members)) (j : Json) :
    motive j := by
  refine @Json.rec motive (fun items => ∀ j ∈ items, motive j)
    (fun members => ∀ m ∈ members, motive m.2) (fun m => motive m.2)
    null bool number string array object ?_ ?_ ?_ ?_ ?_ j
  · exact fun _ h => absurd h List.not_mem_nil
  · exact fun _ _ hitem hrest => List.forall_mem_cons.2 ⟨hitem, hrest⟩
  · exact fun _ h => absurd h List.not_mem_nil
  · exact fun _ _ hmember hrest => List.forall_mem_cons.2 ⟨hmember, hrest⟩
  · exact fun _ _ hvalue => hvalue

/-! ## Parts with commas between them -/

theorem itemChars_eq_intercalate (items : List Json) :
    itemChars items = List.intercalate [','] (items.map chars) := by
  induction items with
  | nil => rfl
  | cons item rest ih =>
    cases rest with
    | nil => simp [itemChars]
    | cons next rest => simp [itemChars, ih, List.intercalate_cons_cons]

/-- The text of a member. -/
def memberText (member : String × Json) : List Char :=
  quoted member.1 ++ ':' :: chars member.2

theorem memberChars_eq_intercalate (members : List (String × Json)) :
    memberChars members = List.intercalate [','] (members.map memberText) := by
  induction members with
  | nil => rfl
  | cons member rest ih =>
    cases rest with
    | nil => simp [memberChars, memberText]
    | cons next rest => simp [memberChars, ih, memberText, List.intercalate_cons_cons]

end Json

section

open Text

/-- What stands behind a part that others follow. -/
def Text.following : List (List Char) → List Char
  | [] => []
  | part :: rest => ',' :: List.intercalate [','] (part :: rest)

theorem Text.intercalate_cons (part : List Char) (rest : List (List Char)) :
    List.intercalate [','] (part :: rest) = part ++ following rest := by
  cases rest with
  | nil => simp [following]
  | cons next rest => simp [following, List.intercalate_cons_cons]

variable {α : Type} {write : α → List Char} {close : Char} {rest rest' : List Char}

/-- Where each part can be read off a text that goes on with a comma or a bracket, so can all parts
    up to that bracket. -/
theorem Text.intercalate_append_inj {xs ys : List α} (hclose : ¬ IsNumeric close)
    (hcomma : ',' ≠ close) (hopen : ∀ y cs tail, write y ++ cs ≠ close :: tail)
    (hpart : ∀ x ∈ xs, ∀ y cs cs', EndsNumber cs → EndsNumber cs' →
      write x ++ cs = write y ++ cs' → x = y ∧ cs = cs')
    (h : List.intercalate [','] (xs.map write) ++ close :: rest
      = List.intercalate [','] (ys.map write) ++ close :: rest') : xs = ys ∧ rest = rest' := by
  -- Behind a part stands a comma or the bracket, neither of which is part of a number.
  have hends : ∀ (parts : List (List Char)) (tail : List Char),
      EndsNumber (following parts ++ close :: tail) := by
    intro parts tail c hc
    cases parts with
    | nil =>
      obtain rfl : close = c := Option.some.inj hc
      exact hclose
    | cons part parts =>
      obtain rfl : ',' = c := Option.some.inj hc
      simp [IsNumeric]
  induction xs generalizing ys with
  | nil =>
    cases ys with
    | nil => exact ⟨rfl, (List.cons.inj h).2⟩
    | cons y ys =>
      rw [List.map_cons, intercalate_cons, List.append_assoc] at h
      exact absurd h.symm (hopen y _ _)
  | cons x xs ih =>
    cases ys with
    | nil =>
      rw [List.map_cons, intercalate_cons, List.append_assoc] at h
      exact absurd h (hopen x _ _)
    | cons y ys =>
      rw [List.map_cons, List.map_cons, intercalate_cons, intercalate_cons, List.append_assoc,
        List.append_assoc] at h
      obtain ⟨rfl, htail⟩ := hpart x List.mem_cons_self y _ _ (hends _ rest) (hends _ rest') h
      cases xs with
      | nil =>
        cases ys with
        | nil => exact ⟨rfl, (List.cons.inj htail).2⟩
        | cons y ys => exact absurd (List.cons.inj htail).1.symm hcomma
      | cons x' xs =>
        cases ys with
        | nil => exact absurd (List.cons.inj htail).1 hcomma
        | cons y ys =>
          have hothers : x' :: xs = y :: ys ∧ rest = rest' :=
            ih (fun z hz => hpart z (List.mem_cons_of_mem _ hz)) (List.cons.inj htail).2
          exact ⟨by rw [hothers.1], hothers.2⟩

end

namespace Json

/-! ## Values -/

/-- A member can be read off its text where its value can. -/
theorem memberText_append_inj {m m' : String × Json} {rest rest' : List Char}
    (h : memberText m ++ rest = memberText m' ++ rest')
    (hvalue : m.2.chars ++ rest = m'.2.chars ++ rest' → m.2 = m'.2 ∧ rest = rest') :
    m = m' ∧ rest = rest' := by
  have hquoted : quoted m.1 ++ ':' :: (m.2.chars ++ rest)
      = quoted m'.1 ++ ':' :: (m'.2.chars ++ rest') := by
    simpa [memberText] using h
  obtain ⟨hkey, htail⟩ := quoted_append_inj hquoted
  rw [List.cons.injEq] at htail
  obtain ⟨hsame, hrest⟩ := hvalue htail.2
  exact ⟨Prod.ext hkey hsame, hrest⟩

/-- **A value can be read off its text**, whatever follows that text, as long as it does not go on
    with a number. -/
theorem chars_append_inj {a b : Json} {rest rest' : List Char} (hrest : Text.EndsNumber rest)
    (hrest' : Text.EndsNumber rest') (h : a.chars ++ rest = b.chars ++ rest') :
    a = b ∧ rest = rest' := by
  have hkind := kind_eq_of_append_eq h
  induction a using induction_on_parts generalizing b rest rest' with
  | null =>
    cases b with
    | null => exact ⟨rfl, List.append_cancel_left h⟩
    | _ => cases hkind
  | bool x =>
    cases b with
    | bool y =>
      obtain rfl : x = y := by simpa [kind] using hkind
      exact ⟨rfl, List.append_cancel_left h⟩
    | _ => cases hkind
  | number m =>
    cases b with
    | number n =>
      rw [chars, chars] at h
      obtain ⟨htext, htail⟩ :=
        Text.numeric_append_inj m.numeric_text n.numeric_text hrest hrest' h
      exact ⟨by rw [Number.text_injective htext], htail⟩
    | _ => cases hkind
  | string s =>
    cases b with
    | string t =>
      rw [chars, chars] at h
      obtain ⟨rfl, htail⟩ := quoted_append_inj h
      exact ⟨rfl, htail⟩
    | _ => cases hkind
  | array items ih =>
    cases b with
    | array items' =>
      have hitems : List.intercalate [','] (items.map chars) ++ ']' :: rest
          = List.intercalate [','] (items'.map chars) ++ ']' :: rest' := by
        simpa [chars, itemChars_eq_intercalate] using h
      obtain ⟨rfl, htail⟩ := Text.intercalate_append_inj (by simp [IsNumeric]) (by decide)
        (chars_append_ne rfl)
        (fun item hitem _ _ _ hcs hcs' heq => ih item hitem hcs hcs' heq (kind_eq_of_append_eq heq))
        hitems
      exact ⟨rfl, htail⟩
    | _ => cases hkind
  | object members ih =>
    cases b with
    | object members' =>
      have hmembers : List.intercalate [','] (members.map memberText) ++ '}' :: rest
          = List.intercalate [','] (members'.map memberText) ++ '}' :: rest' := by
        simpa [chars, memberChars_eq_intercalate] using h
      obtain ⟨rfl, htail⟩ := Text.intercalate_append_inj (by simp [IsNumeric]) (by decide)
        (fun _ _ _ => by simp [memberText, quoted])
        (fun member hmember _ _ _ hcs hcs' heq => memberText_append_inj heq fun heq' =>
          ih member hmember hcs hcs' heq' (kind_eq_of_append_eq heq'))
        hmembers
      exact ⟨rfl, htail⟩
    | _ => cases hkind

/-- **No two values have the same compact text.** -/
theorem compact_injective {a b : Json} (h : a.compact = b.compact) : a = b := by
  have hnothing : Text.EndsNumber [] := fun _ hc => nomatch hc
  have hchars : a.chars ++ [] = b.chars ++ [] := by
    rw [List.append_nil, List.append_nil]
    exact String.ofList_injective h
  exact (chars_append_inj hnothing hnothing hchars).1

end Json

end Watchpost

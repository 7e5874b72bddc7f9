import Mathlib.Data.List.TakeWhile
import Watchpost.FileTree
import Watchpost.Proofs.Text.Encoding

set_option autoImplicit false

/-! # Names of files

Some names are texts in UTF-8, and different texts are different names; others are texts of no kind.
Of both, one can say that they start with a dot, and what extension they have:
`FileTree.Name.StartsWithDot` and `FileTree.Name.HasExtension` look at the bytes alone. -/

namespace Watchpost.FileTree.Name

/-! ## Names that are texts -/

/-- A name that is a text in UTF-8. -/
def IsText (name : Name) : Prop :=
  ∃ s, name = ofText s

@[simp] theorem isText_ofText (s : String) : (ofText s).IsText :=
  ⟨s, rfl⟩

theorem bytes_ofText (s : String) : (ofText s).bytes = Text.bytes s := by
  rw [ofText, Text.bytes, Text.toList_eq_data_toList]

/-- A name has a text exactly if it is written as that text. -/
theorem text?_eq_some_iff (name : Name) (s : String) : name.text? = some s ↔ name = ofText s := by
  constructor
  · intro h
    unfold text? String.fromUTF8? at h
    split at h
    · next hvalid =>
      obtain rfl := Option.some.inj h
      rfl
    · cases h
  · rintro rfl
    rw [text?, bytes_ofText, Text.fromUTF8?_bytes]

/-- Different texts are different names. -/
@[simp] theorem ofText_inj (s t : String) : ofText s = ofText t ↔ s = t := by
  rw [← text?_eq_some_iff, (text?_eq_some_iff _ s).2 rfl, Option.some.injEq]

/-! ## Dots -/

/-- A name whose first byte is that of a dot. -/
def StartsWithDot (name : Name) : Prop :=
  [dot] <+: name.bytes

instance (name : Name) : Decidable name.StartsWithDot :=
  inferInstanceAs (Decidable ([dot] <+: name.bytes))

theorem startsWithDot_ofText_iff (s : String) :
    (ofText s).StartsWithDot ↔ s.toList.head? = some '.' := by
  unfold StartsWithDot
  rw [bytes_ofText, Text.bytes_eq_flatMap]
  cases s.toList with
  | nil => simp
  | cons c cs =>
    rw [List.flatMap_cons, List.head?_cons, Option.some.injEq]
    constructor
    · intro h
      -- A dot among the bytes of a character is that character.
      by_contra hc
      obtain ⟨b, bs, hbytes⟩ := List.exists_cons_of_ne_nil (Text.utf8EncodeChar_ne_nil c)
      rw [hbytes, List.cons_append, List.cons_prefix_cons] at h
      refine Text.byte_not_mem_utf8EncodeChar (d := '.') (by decide) hc ?_
      rw [hbytes]
      exact List.mem_cons.2 (.inl h.1)
    · rintro rfl
      exact List.prefix_append _ _

/-! ## Extensions -/

/-- A name that ends in a dot and an extension, with something in front of the dot. -/
def HasExtension (name ext : Name) : Prop :=
  ∃ stem, stem ≠ [] ∧ name.bytes = stem ++ dot :: ext.bytes

/-- What stands behind the last dot of a name is an extension of it, and the only one without a
    dot. -/
theorem extension?_eq_some_iff {ext : Name} (hdot : dot ∉ ext.bytes) (name : Name) :
    name.extension? = some ext ↔ name.HasExtension ext := by
  unfold extension?
  constructor
  · intro h
    split at h
    · next c b stem hfront =>
      have hc : c = dot := by
        have hhead := List.head?_dropWhile_not (· != dot) name.bytes.reverse
        simpa [hfront] using hhead
      have hsplit := List.takeWhile_append_dropWhile (p := (· != dot)) (l := name.bytes.reverse)
      rw [hfront, hc] at hsplit
      obtain rfl := Option.some.inj h
      refine ⟨(b :: stem).reverse, by simp, ?_⟩
      calc
        name.bytes = (name.bytes.reverse.takeWhile (· != dot) ++ dot :: b :: stem).reverse := by
          rw [hsplit, List.reverse_reverse]
        _ = _ := by
          rw [List.reverse_append, List.reverse_cons, List.append_assoc, List.singleton_append]
    · cases h
  · rintro ⟨stem, hstem, hname⟩
    have hext : ∀ b ∈ ext.bytes.reverse, (b != dot) = true := by
      intro b hb
      rw [bne_iff_ne]
      rintro rfl
      exact hdot (List.mem_reverse.1 hb)
    have hreverse : name.bytes.reverse = ext.bytes.reverse ++ dot :: stem.reverse := by
      rw [hname, List.reverse_append, List.reverse_cons, List.append_assoc, List.singleton_append]
    obtain ⟨b, rest, hfront⟩ := List.exists_cons_of_ne_nil (mt List.reverse_eq_nil_iff.1 hstem)
    rw [hreverse, hfront, List.dropWhile_append_of_pos hext, List.takeWhile_append_of_pos hext]
    simp

end Watchpost.FileTree.Name

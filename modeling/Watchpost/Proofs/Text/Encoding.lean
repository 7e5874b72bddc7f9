import Mathlib.Data.List.Basic
import Mathlib.Tactic.SplitIfs

set_option autoImplicit false

/-! # Texts and their bytes

The bytes of a text in UTF-8 are those of its characters, one after another, and they decode to the
text. The byte of a line feed is part of no other character, so that the bytes of a text are split
at line feeds where the text is: `Text.splitOn_bytes`. Texts are in the order of their bytes:
`Text.bytes_lt_iff`. -/

namespace Watchpost.Text

/-- The bytes of a text in UTF-8. -/
def bytes (s : String) : List UInt8 :=
  s.toUTF8.toList

/-! ## Bytes in arrays -/

theorem toList_loop_eq (array : ByteArray) (i : Nat) (before : List UInt8) :
    ByteArray.toList.loop array i before = before.reverse ++ array.data.toList.drop i := by
  fun_induction ByteArray.toList.loop array i before with
  | case1 i before hlt ih =>
    have hlength : i < array.data.toList.length := by simpa using hlt
    have hget : array.get! i = array.data[i]! := by
      cases array
      rfl
    rw [ih, List.drop_eq_getElem_cons hlength, hget, getElem!_pos array.data i hlt]
    simp
  | case2 i before hlt =>
    have hlength : array.data.toList.length ≤ i := by simpa using Nat.le_of_not_lt hlt
    rw [List.drop_eq_nil_of_le hlength, List.append_nil]

theorem toList_eq_data_toList (array : ByteArray) : array.toList = array.data.toList := by
  rw [ByteArray.toList, toList_loop_eq, List.reverse_nil, List.nil_append, List.drop_zero]

/-! ## Bytes of characters -/

theorem bytes_eq_flatMap (s : String) : bytes s = s.toList.flatMap String.utf8EncodeChar := by
  have hencode : s.toByteArray = s.toList.utf8Encode := by
    rw [← String.toByteArray_ofList, String.ofList_toList]
  rw [bytes, toList_eq_data_toList, String.toUTF8_eq_toByteArray, hencode, List.utf8Encode,
    List.toList_data_toByteArray]

/-- The bytes of a text decode to it. -/
theorem fromUTF8?_bytes (s : String) : String.fromUTF8? ⟨(bytes s).toArray⟩ = some s := by
  have hbytes : (⟨(bytes s).toArray⟩ : ByteArray) = s.toByteArray := by
    rw [bytes, toList_eq_data_toList, String.toUTF8_eq_toByteArray]
  rw [hbytes, String.fromUTF8?, dif_pos s.isValidUTF8]
  rfl

/-! ## Bytes of ASCII -/

/-- A byte of a character is the character itself, or it is past ASCII. -/
theorem toNat_of_mem_utf8EncodeChar {c : Char} {b : UInt8} (h : b ∈ String.utf8EncodeChar c) :
    b.toNat = c.toNat ∨ 128 ≤ b.toNat := by
  unfold String.utf8EncodeChar at h
  extract_lets value at h
  have hvalue : value = c.toNat := rfl
  -- One case for each number of bytes that a character can have.
  split at h
  case isTrue hone =>
    rw [List.mem_singleton] at h
    rw [h, UInt8.toNat_ofNat']
    omega
  case isFalse =>
    split at h
    case isTrue =>
      simp only [List.mem_cons, List.not_mem_nil, or_false] at h
      rcases h with rfl | rfl <;> rw [UInt8.toNat_ofNat'] <;> omega
    case isFalse =>
      split at h
      case isTrue =>
        simp only [List.mem_cons, List.not_mem_nil, or_false] at h
        rcases h with rfl | rfl | rfl <;> rw [UInt8.toNat_ofNat'] <;> omega
      case isFalse =>
        simp only [List.mem_cons, List.not_mem_nil, or_false] at h
        rcases h with rfl | rfl | rfl | rfl <;> rw [UInt8.toNat_ofNat'] <;> omega

/-- The byte of a character of ASCII is part of no other character. -/
theorem byte_not_mem_utf8EncodeChar {c d : Char} (hd : d.toNat < 128) (h : c ≠ d) :
    UInt8.ofNat d.toNat ∉ String.utf8EncodeChar c := by
  intro hmem
  have hbyte : (UInt8.ofNat d.toNat).toNat = d.toNat :=
    UInt8.toNat_ofNat_of_lt' (Nat.lt_trans hd (by decide))
  rcases toNat_of_mem_utf8EncodeChar hmem with hc | hlarge
  · exact h (Char.toNat_inj.1 (hc.symm.trans hbyte))
  · omega

/-- Every character has a byte. -/
theorem utf8EncodeChar_ne_nil (c : Char) : String.utf8EncodeChar c ≠ [] := by
  unfold String.utf8EncodeChar
  extract_lets value
  split_ifs <;> simp

/-! ## Line feeds -/

theorem splitOn_append_of_not_mem {α : Type} [DecidableEq α] {mark : α} {xs : List α}
    (h : mark ∉ xs) (ys : List α) :
    (xs ++ ys).splitOn mark = (ys.splitOn mark).modifyHead (xs ++ ·) := by
  induction xs with
  | nil =>
    cases hsplit : ys.splitOn mark with
    | nil => exact absurd hsplit (List.splitOn_ne_nil mark ys)
    | cons part parts => simp [hsplit]
  | cons x xs ih =>
    obtain ⟨hx, hxs⟩ := not_or.1 (mt List.mem_cons.2 h)
    rw [List.cons_append, List.splitOn_cons_eq_if_modifyHead,
      if_neg (by simpa using Ne.symm hx), ih hxs]
    cases ys.splitOn mark <;> rfl

theorem splitOn_flatMap_utf8EncodeChar (cs : List Char) :
    (cs.flatMap String.utf8EncodeChar).splitOn 10
      = (cs.splitOn '\n').map (·.flatMap String.utf8EncodeChar) := by
  induction cs with
  | nil => rfl
  | cons c cs ih =>
    rw [List.flatMap_cons, List.splitOn_cons_eq_if_modifyHead]
    by_cases hc : c = '\n'
    · subst hc
      have hbyte : String.utf8EncodeChar '\n' = [10] := by decide
      rw [hbyte, List.singleton_append, List.splitOn_cons_eq_if_modifyHead, ih]
      rfl
    · have hfeed : 10 ∉ String.utf8EncodeChar c :=
        byte_not_mem_utf8EncodeChar (d := '\n') (by decide) hc
      rw [splitOn_append_of_not_mem hfeed, ih, if_neg (by simpa using hc)]
      cases cs.splitOn '\n' <;> rfl

/-- Between the line feeds among the bytes of a text are the bytes of what is between the line feeds
    of the text. -/
theorem splitOn_bytes (s : String) :
    (bytes s).splitOn 10 = (s.toList.splitOn '\n').map fun cs => bytes (String.ofList cs) := by
  simp only [bytes_eq_flatMap, String.toList_ofList]
  exact splitOn_flatMap_utf8EncodeChar s.toList

/-! ## The order of texts -/

theorem ofNat_cons_lt_iff {m n : Nat} (hm : m < 256) (hn : n < 256) (xs ys : List UInt8) :
    UInt8.ofNat m :: xs < UInt8.ofNat n :: ys ↔ m < n ∨ m = n ∧ xs < ys := by
  rw [List.cons_lt_cons_iff, UInt8.lt_iff_toNat_lt, ← UInt8.toNat_inj,
    UInt8.toNat_ofNat_of_lt' hm, UInt8.toNat_ofNat_of_lt' hn]

/-- The bytes of a smaller character come first, whatever follows the one and the other. -/
theorem utf8EncodeChar_append_lt {c d : Char} (h : c < d) (xs ys : List UInt8) :
    String.utf8EncodeChar c ++ xs < String.utf8EncodeChar d ++ ys := by
  have hlt : c.val.toNat < d.val.toNat := UInt32.lt_iff_toNat_lt.1 (Char.lt_def.1 h)
  have hd : d.val.toNat < 1114112 := by
    rcases d.valid with hvalid | ⟨-, hvalid⟩
    · exact Nat.lt_trans hvalid (by decide)
    · exact hvalid
  unfold String.utf8EncodeChar
  extract_lets v w
  have hv : v < w := hlt
  have hw : w < 1114112 := hd
  clear_value v w
  have hleadV : v / 262144 % 8 = v / 262144 := Nat.mod_eq_of_lt (by omega)
  have hleadW : w / 262144 % 8 = w / 262144 := Nat.mod_eq_of_lt (by omega)
  have hlead : v / 262144 ≤ w / 262144 := Nat.div_le_div_right (Nat.le_of_lt hv)
  rw [hleadV, hleadW]
  -- Of two characters with as many bytes the first byte that differs decides; more bytes mean a
  -- larger first byte.
  split_ifs <;>
    simp (disch := omega) only [List.cons_append, List.nil_append, ofNat_cons_lt_iff] <;> omega

theorem flatMap_utf8EncodeChar_lt {cs ds : List Char} (h : cs < ds) :
    cs.flatMap String.utf8EncodeChar < ds.flatMap String.utf8EncodeChar := by
  induction cs generalizing ds with
  | nil =>
    cases ds with
    | nil => exact absurd h (List.not_lt_nil _)
    | cons d ds =>
      rw [List.flatMap_cons]
      cases hd : String.utf8EncodeChar d with
      | nil => exact absurd hd String.utf8EncodeChar_ne_nil
      | cons b bs => exact List.nil_lt_cons b _
  | cons c cs ih =>
    cases ds with
    | nil => exact absurd h (List.not_lt_nil _)
    | cons d ds =>
      rw [List.flatMap_cons, List.flatMap_cons]
      rcases List.cons_lt_cons_iff.1 h with hlt | ⟨rfl, hrest⟩
      · exact utf8EncodeChar_append_lt hlt _ _
      · exact List.append_left_lt (ih hrest)

theorem bytes_lt_of_lt {s t : String} (h : s < t) : bytes s < bytes t := by
  rw [bytes_eq_flatMap, bytes_eq_flatMap]
  exact flatMap_utf8EncodeChar_lt (String.lt_iff.1 h)

/-- **Texts are in the order of their bytes.** -/
theorem bytes_lt_iff (s t : String) : bytes s < bytes t ↔ s < t := by
  constructor
  · intro h
    rw [← String.not_le]
    intro hle
    by_cases hlt : t < s
    · exact List.lt_asymm h (bytes_lt_of_lt hlt)
    · rw [String.le_antisymm hle (String.not_lt.1 hlt)] at h
      exact List.lt_irrefl _ h
  · exact bytes_lt_of_lt

end Watchpost.Text

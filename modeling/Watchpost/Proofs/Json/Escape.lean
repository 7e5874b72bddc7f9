import Watchpost.Json.Compact
import Watchpost.Json.Syntax

set_option autoImplicit false

/-! # String literals, written and read

Each character of a string is written as one piece of its literal: itself, a backslash and a letter,
or, for the other control characters, a backslash and the number of the character. Reading takes
these pieces apart again wherever they stand in a literal, so that what is read from a written
literal is the string and whatever follows the literal, `readString_escape`. -/

namespace Watchpost.Json

/-- The number of a control character in four hexadecimal digits. -/
theorem paddedHex_control : ∀ n < 0x20,
    Text.paddedHex 4 n = ['0', '0', (n / 16).digitChar, (n % 16).digitChar] ∧
      Text.ofDigits? 16 ['0', '0', (n / 16).digitChar, (n % 16).digitChar] = some n := by
  decide

/-- A control character may as well be written by its number, wherever it stands. -/
theorem joinPieces_append_unit {c : Char} (hc : c.toNat < 0x20) (before after : List Piece) :
    joinPieces (before ++ .unit c.toNat :: after) = joinPieces (before ++ .char c :: after) := by
  have hhigh : isHighHalf c.toNat = false := by simp [isHighHalf]; omega
  have hlow : isLowHalf c.toNat = false := by simp [isLowHalf]; omega
  induction before using joinPieces.induct with
  | case1 =>
    cases after with
    | nil => simp [joinPieces, hhigh, hlow]
    | cons p after => cases p <;> simp [joinPieces, hhigh, hlow]
  | case2 d before ih => simp only [List.cons_append, joinPieces, ih]
  | case3 hi lo before hhi hlo ih => simp [joinPieces, hhi, hlo, ih]
  | case4 hi lo before hhi hlo => simp [joinPieces, hhi, hlo]
  | case5 hi lo before hhi hlo => simp [joinPieces, hhi, hlo]
  | case6 hi lo before hhi hlo ih =>
    rw [List.cons_append, List.cons_append] at ih
    simp [joinPieces, hhi, hlo, ih]
  | case7 n before hnext h =>
    cases before with
    | nil => cases hn : isHighHalf n <;> simp_all [joinPieces]
    | cons p before =>
      cases p with
      | char d => simp [joinPieces, h]
      | unit m => exact absurd rfl (hnext m before)
  | case8 n before hnext h ih =>
    rw [Bool.or_eq_true, not_or, Bool.not_eq_true, Bool.not_eq_true] at h
    cases before with
    | nil =>
      rw [List.nil_append, List.nil_append] at ih
      simp [joinPieces, h, ih]
    | cons p before =>
      cases p with
      | char d => simp_all [joinPieces]
      | unit m => exact absurd rfl (hnext m before)

/-- One character is written as one piece, which stands for that character. -/
theorem exists_piece (c : Char) : ∃ p,
    (∀ rest, readPieces (escapeChar c ++ rest) = (readPieces rest).map (consPiece p)) ∧
      ∀ before after,
        joinPieces (before ++ p :: after) = joinPieces (before ++ .char c :: after) := by
  unfold escapeChar
  split
  · exact ⟨.char '"', fun _ => rfl, fun _ _ => rfl⟩
  · exact ⟨.char '\\', fun _ => rfl, fun _ _ => rfl⟩
  · exact ⟨.char '\x08', fun _ => rfl, fun _ _ => rfl⟩
  · exact ⟨.char '\x0c', fun _ => rfl, fun _ _ => rfl⟩
  · exact ⟨.char '\n', fun _ => rfl, fun _ _ => rfl⟩
  · exact ⟨.char '\r', fun _ => rfl, fun _ _ => rfl⟩
  · exact ⟨.char '\t', fun _ => rfl, fun _ _ => rfl⟩
  · next hquote hbackslash _ _ _ _ _ =>
    by_cases hcontrol : c.toNat < 0x20
    · rw [if_pos hcontrol]
      obtain ⟨hhex, hvalue⟩ := paddedHex_control c.toNat hcontrol
      refine ⟨.unit c.toNat, fun rest => ?_, joinPieces_append_unit hcontrol⟩
      rw [hhex]
      show readPieces ('\\' :: 'u' :: '0' :: '0' :: (c.toNat / 16).digitChar ::
        (c.toNat % 16).digitChar :: rest) = _
      rw [readPieces, hvalue]
    · rw [if_neg hcontrol]
      refine ⟨.char c, fun rest => ?_, fun _ _ => rfl⟩
      have hplain : ¬ (c.toNat < 0x20 ∨ c = '\\') := by
        rintro (h | h)
        · exact hcontrol h
        · exact hbackslash h
      show readPieces (c :: rest) = _
      rw [readPieces, if_neg hplain]
      · exact hquote
      · intro _ _ _ _ _ h
        exact absurd h hbackslash
      · intro _ _ h
        exact absurd h hbackslash

/-- An escaped text is read as pieces that stand for its characters, whatever surrounds it. -/
theorem exists_pieces (cs : List Char) : ∃ ps,
    (∀ rest, readPieces (escape cs ++ rest)
      = (readPieces rest).map fun r => (ps ++ r.1, r.2)) ∧
      ∀ before after,
        joinPieces (before ++ ps ++ after) = joinPieces (before ++ cs.map .char ++ after) := by
  induction cs with
  | nil => exact ⟨[], fun rest => Option.map_id'.symm, fun _ _ => rfl⟩
  | cons c cs ih =>
    obtain ⟨ps, hread, hjoin⟩ := ih
    obtain ⟨p, hp, hstands⟩ := exists_piece c
    refine ⟨p :: ps, fun rest => ?_, fun before after => ?_⟩
    · rw [escape, List.flatMap_cons, List.append_assoc, hp]
      show (readPieces (escape cs ++ rest)).map (consPiece p) = _
      rw [hread, Option.map_map]
      rfl
    · have hrest := hjoin (before ++ [.char c]) after
      simp only [List.append_assoc, List.cons_append, List.nil_append, List.map_cons] at hrest ⊢
      rw [hstands, hrest]

theorem joinPieces_map_char (cs : List Char) : joinPieces (cs.map .char) = some cs := by
  induction cs with
  | nil => rfl
  | cons c cs ih => rw [List.map_cons, joinPieces, ih, Option.map_some]

/-- **What is read from a written literal is the string**, and what follows the literal is left. -/
theorem readString_escape (cs rest : List Char) :
    readString (escape cs ++ '"' :: rest) = some (some cs, rest) := by
  obtain ⟨ps, hread, hjoin⟩ := exists_pieces cs
  have hps : joinPieces ps = some cs := by
    simpa [joinPieces_map_char] using hjoin [] []
  have hquote : readPieces ('"' :: rest) = some ([], rest) := rfl
  simp only [readString, hread, hquote, Option.map_some, List.append_nil, hps]

/-- Two literals that start a text alike are the same. -/
theorem quoted_append_inj {s t : String} {rest rest' : List Char}
    (h : quoted s ++ rest = quoted t ++ rest') : s = t ∧ rest = rest' := by
  have hliteral : ∀ (s : String) (rest : List Char),
      quoted s ++ rest = '"' :: (escape s.toList ++ '"' :: rest) := by
    intro s rest
    simp [quoted]
  rw [hliteral, hliteral, List.cons.injEq] at h
  have hread := readString_escape s.toList rest
  rw [h.2, readString_escape] at hread
  simp only [Option.some.injEq, Prod.mk.injEq] at hread
  exact ⟨String.toList_inj.1 hread.1.symm, hread.2.symm⟩

end Watchpost.Json

set_option autoImplicit false

/-! # Punycode

A label of a host name with characters outside ASCII is written in ASCII: first its ASCII
characters, then, behind a hyphen, where the others go. Each of these is a number in base 36 whose
digits have thresholds that adapt to the numbers before. -/

namespace Watchpost.Url.Punycode

/-- A digit in base 36: letters, then decimal digits. -/
def digit (n : Nat) : Char :=
  if n < 26 then Char.ofNat ('a'.toNat + n) else Char.ofNat ('0'.toNat + (n - 26))

/-- The threshold of the digit at a position. -/
def threshold (position bias : Nat) : Nat :=
  max 1 (min 26 (position - bias))

/-- Scale a difference down, and count how often. -/
def scale : Nat → Nat → Nat × Nat
  | 0, delta => (delta, 0)
  | fuel + 1, delta =>
    if 455 < delta then
      let (d, k) := scale fuel (delta / 35)
      (d, k + 36)
    else (delta, 0)

/-- The bias after a difference has been written. -/
def adapt (delta points : Nat) (first : Bool) : Nat :=
  let delta := if first then delta / 700 else delta / 2
  let (d, k) := scale 16 (delta + delta / points)
  k + 36 * d / (d + 38)

/-- The digits of a difference. -/
def digits (bias : Nat) : Nat → Nat → Nat → List Char
  | 0, _, _ => []
  | fuel + 1, position, q =>
    let t := threshold position bias
    if q < t then [digit q]
    else digit (t + (q - t) % (36 - t)) :: digits bias fuel (position + 36) ((q - t) / (36 - t))

/-- The state of writing: the difference so far, the bias, how many characters are written, and the
    text. -/
structure State where
  delta : Nat
  bias : Nat
  written : Nat
  out : List Char

/-- Go over one character of the label while the code point `m` is being placed. -/
def step (basic m : Nat) (st : State) (c : Char) : State :=
  if c.toNat < m then { st with delta := st.delta + 1 }
  else if c.toNat = m then
    ⟨0, adapt st.delta (st.written + 1) (st.written == basic), st.written + 1,
      st.out ++ digits st.bias 32 36 st.delta⟩
  else st

/-- Place the code points in increasing order. -/
def place (label : List Char) (basic : Nat) : List Nat → Nat → State → State
  | [], _, st => st
  | m :: rest, n, st =>
    let st := label.foldl (step basic m) { st with delta := st.delta + (m - n) * (st.written + 1) }
    place label basic rest (m + 1) { st with delta := st.delta + 1 }

/-- A label in ASCII, without the mark in front. -/
def encode (label : List Char) : List Char :=
  let basic := label.filter fun c => c.toNat < 128
  let others := ((label.filter fun c => 128 ≤ c.toNat).map Char.toNat).mergeSort.eraseDups
  let st := place label basic.length others 128 ⟨0, 72, basic.length, []⟩
  (if basic.isEmpty then [] else basic ++ ['-']) ++ st.out

end Watchpost.Url.Punycode

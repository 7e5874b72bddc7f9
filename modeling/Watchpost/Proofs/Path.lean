import Mathlib.Data.List.Forall2
import Watchpost.Path
import Watchpost.Proofs.Lookup
import Watchpost.Proofs.Text.Digits
import Watchpost.Proofs.Text.Split

set_option autoImplicit false

/-! # The nodes of a document and their paths

A node of a document lies at a location: a list of keys and positions, one for each level of
nesting. `Path.Lies` says so without any path text, and `Path.Spells` says which segment of a path
is a key or a position. A path leads to a node exactly if its segments spell a location of the node;
the path that is written for a location leads to its node, and a path leads nowhere exactly if it is
blocked at one of its segments: `Path.addressesNodes`. -/

namespace Watchpost.Path

/-! ## Locations -/

/-- One level of nesting. -/
inductive Level where
  | key (name : String)
  | position (i : Nat)
deriving DecidableEq, Repr

/-- A node lies one level below a value. -/
inductive Below : Json → Level → Json → Prop
  | member {members : List (String × Json)} {name : String} {value : Json}
      (h : (name, value) ∈ members) : Below (.object members) (.key name) value
  | item {items : List Json} {i : Nat} {item : Json} (h : items[i]? = some item) :
      Below (.array items) (.position i) item

/-- A node lies at a location within a value. -/
inductive Lies : Json → List Level → Json → Prop
  | here (j : Json) : Lies j [] j
  | under {j next node : Json} {level : Level} {location : List Level}
      (hbelow : Below j level next) (h : Lies next location node) : Lies j (level :: location) node

/-- A value as it is held in memory: no object has two members with one key, and the positions in
    arrays are words. -/
structure IsDocument (j : Json) : Prop where
  keys_distinct : ∀ location members, Lies j location (.object members) →
    (members.map Prod.fst).Nodup
  arrays_short : ∀ location items, Lies j location (.array items) → items.length < 2 ^ 64

/-- What lies in a document is a document. -/
theorem IsDocument.below {j next : Json} (h : IsDocument j) {level : Level}
    (hbelow : Below j level next) : IsDocument next := by
  constructor
  · intro location members hlies
    exact h.keys_distinct _ _ (.under hbelow hlies)
  · intro location items hlies
    exact h.arrays_short _ _ (.under hbelow hlies)

theorem isDocument_leaf {j : Json} (hobject : ∀ members, j ≠ .object members)
    (harray : ∀ items, j ≠ .array items) : IsDocument j := by
  constructor
  · intro location members hlies
    cases hlies with
    | here => exact absurd rfl (hobject members)
    | under hbelow hlies =>
      cases hbelow with
      | member hmember => exact absurd rfl (hobject _)
      | item hitem => exact absurd rfl (harray _)
  · intro location items hlies
    cases hlies with
    | here => exact absurd rfl (harray items)
    | under hbelow hlies =>
      cases hbelow with
      | member hmember => exact absurd rfl (hobject _)
      | item hitem => exact absurd rfl (harray _)

theorem isDocument_object {members : List (String × Json)} (hkeys : (members.map Prod.fst).Nodup)
    (h : ∀ m ∈ members, IsDocument m.2) : IsDocument (.object members) := by
  constructor
  · intro location inner hlies
    cases hlies with
    | here => exact hkeys
    | under hbelow hlies =>
      cases hbelow with
      | member hmember => exact (h _ hmember).keys_distinct _ _ hlies
  · intro location items hlies
    cases hlies with
    | under hbelow hlies =>
      cases hbelow with
      | member hmember => exact (h _ hmember).arrays_short _ _ hlies

theorem isDocument_array {items : List Json} (hshort : items.length < 2 ^ 64)
    (h : ∀ j ∈ items, IsDocument j) : IsDocument (.array items) := by
  constructor
  · intro location members hlies
    cases hlies with
    | under hbelow hlies =>
      cases hbelow with
      | item hitem => exact (h _ (List.mem_of_getElem? hitem)).keys_distinct _ _ hlies
  · intro location inner hlies
    cases hlies with
    | here => exact hshort
    | under hbelow hlies =>
      cases hbelow with
      | item hitem => exact (h _ (List.mem_of_getElem? hitem)).arrays_short _ _ hlies

/-! ## Segments -/

/-- A segment is any key as it stands, and a position in decimal digits after an optional plus
    sign. -/
inductive Spells : String → Level → Prop
  | key (segment : String) : Spells segment (.key segment)
  | position {segment : String} {digits : List Char} (hnumeral : Text.IsNumeral digits)
      (hsegment : segment.toList = digits ∨ segment.toList = '+' :: digits)
      (hword : Text.decimalValue digits < 2 ^ 64) :
      Spells segment (.position (Text.decimalValue digits))

theorem spells_key_iff (segment name : String) : Spells segment (.key name) ↔ name = segment := by
  constructor
  · intro h
    cases h
    rfl
  · rintro rfl
    exact .key name

theorem spells_position_iff (segment : String) (i : Nat) :
    Spells segment (.position i) ↔ position? segment = some i := by
  rw [position?, Text.readWord?_eq_some_iff]
  constructor
  · intro h
    cases h with
    | position hnumeral hsegment hword => exact ⟨_, hsegment, hnumeral, rfl, hword⟩
  · rintro ⟨digits, hsegment, hnumeral, rfl, hword⟩
    exact .position hnumeral hsegment hword

/-! ## One level -/

/-- A segment cannot be followed from a value: there is no such key, or no such position, or no
    level at all below a leaf. -/
inductive Blocks (segment : String) : Json → Prop
  | missingKey {members : List (String × Json)} (h : segment ∉ members.map Prod.fst) :
      Blocks segment (.object members)
  | notNumber {items : List Json} (h : ∀ i, ¬ Spells segment (.position i)) :
      Blocks segment (.array items)
  | beyondEnd {items : List Json} {i : Nat} (h : Spells segment (.position i))
      (hi : items.length ≤ i) : Blocks segment (.array items)
  | leaf {j : Json} (hobject : ∀ members, j ≠ .object members)
      (harray : ∀ items, j ≠ .array items) : Blocks segment j

theorem step_eq_some_iff {j : Json} (h : IsDocument j) (segment : String) (next : Json) :
    step j segment = some next ↔ ∃ level, Spells segment level ∧ Below j level next := by
  constructor
  · intro hstep
    cases j with
    | object members => exact ⟨.key segment, .key segment, .member (mem_of_lookup hstep)⟩
    | array items =>
      obtain ⟨i, hi, hitem⟩ := Option.bind_eq_some_iff.1 hstep
      exact ⟨.position i, (spells_position_iff segment i).2 hi, .item hitem⟩
    | _ => cases hstep
  · rintro ⟨level, hspells, hbelow⟩
    cases hbelow with
    | member hmember =>
      obtain rfl := (spells_key_iff _ _).1 hspells
      exact lookup_of_mem (h.keys_distinct _ _ (.here _)) hmember
    | item hitem =>
      exact Option.bind_eq_some_iff.2 ⟨_, (spells_position_iff _ _).1 hspells, hitem⟩

theorem step_eq_none_iff (j : Json) (segment : String) :
    step j segment = none ↔ Blocks segment j := by
  constructor
  · intro hstep
    cases j with
    | object members =>
      refine .missingKey fun hmem => ?_
      obtain ⟨⟨name, value⟩, hmember, rfl⟩ := List.mem_map.1 hmem
      simpa using List.lookup_eq_none_iff.1 hstep _ hmember
    | array items =>
      cases hi : position? segment with
      | none =>
        refine .notNumber fun i hspells => ?_
        rw [spells_position_iff, hi] at hspells
        cases hspells
      | some i =>
        refine .beyondEnd ((spells_position_iff segment i).2 hi) ?_
        simpa [step, hi] using hstep
    | _ => exact .leaf (fun _ => nofun) (fun _ => nofun)
  · intro h
    cases h with
    | missingKey h => exact lookup_eq_none_of_not_mem h
    | notNumber h =>
      have hnone : position? segment = none := by
        rw [Option.eq_none_iff_forall_ne_some]
        intro i hi
        exact h i ((spells_position_iff segment i).2 hi)
      simp [step, hnone]
    | beyondEnd h hi =>
      simp [step, (spells_position_iff _ _).1 h, hi]
    | leaf hobject harray =>
      cases j with
      | object members => exact absurd rfl (hobject members)
      | array items => exact absurd rfl (harray items)
      | _ => rfl

/-! ## Whole paths -/

theorem follow_eq_some_iff {j : Json} (h : IsDocument j) (segments : List String) (node : Json) :
    follow j segments = some node ↔
      ∃ location, List.Forall₂ Spells segments location ∧ Lies j location node := by
  induction segments generalizing j with
  | nil =>
    constructor
    · intro hfollow
      cases hfollow
      exact ⟨[], .nil, .here _⟩
    · rintro ⟨location, hspells, hlies⟩
      cases hspells
      cases hlies
      rfl
  | cons segment rest ih =>
    rw [follow, Option.bind_eq_some_iff]
    constructor
    · rintro ⟨next, hstep, hfollow⟩
      obtain ⟨level, hspells, hbelow⟩ := (step_eq_some_iff h segment next).1 hstep
      obtain ⟨location, hrest, hlies⟩ := (ih (h.below hbelow)).1 hfollow
      exact ⟨level :: location, .cons hspells hrest, .under hbelow hlies⟩
    · rintro ⟨location, hspells, hlies⟩
      cases hspells with
      | cons hfirst hrest =>
        cases hlies with
        | under hbelow hlies =>
          exact ⟨_, (step_eq_some_iff h segment _).2 ⟨_, hfirst, hbelow⟩,
            (ih (h.below hbelow)).2 ⟨_, hrest, hlies⟩⟩

/-- A list of segments leads nowhere exactly if one of them cannot be followed. -/
theorem follow_eq_none_iff {j : Json} (h : IsDocument j) (segments : List String) :
    follow j segments = none ↔
      ∃ before segment after location node, segments = before ++ segment :: after ∧
        List.Forall₂ Spells before location ∧ Lies j location node ∧ Blocks segment node := by
  induction segments generalizing j with
  | nil => simp [follow]
  | cons segment rest ih =>
    rw [follow, Option.bind_eq_none_iff]
    constructor
    · intro hnone
      cases hstep : step j segment with
      | none =>
        exact ⟨[], segment, rest, [], j, rfl, .nil, .here j, (step_eq_none_iff j segment).1 hstep⟩
      | some next =>
        obtain ⟨level, hspells, hbelow⟩ := (step_eq_some_iff h segment next).1 hstep
        obtain ⟨before, blocked, after, location, node, rfl, hbefore, hlies, hblocks⟩ :=
          (ih (h.below hbelow)).1 (hnone next hstep)
        exact ⟨segment :: before, blocked, after, level :: location, node, rfl,
          .cons hspells hbefore, .under hbelow hlies, hblocks⟩
    · rintro ⟨before, blocked, after, location, node, heq, hbefore, hlies, hblocks⟩ next hstep
      cases hbefore with
      | nil =>
        -- Nothing stands before the blocked segment, which is then the one followed.
        cases hlies
        obtain ⟨rfl, rfl⟩ := List.cons.inj heq
        rw [(step_eq_none_iff _ _).2 hblocks] at hstep
        cases hstep
      | cons hfirst hlater =>
        obtain ⟨rfl, rfl⟩ := List.cons.inj heq
        cases hlies with
        | under hbelow hlies =>
          have hnext := (step_eq_some_iff h segment _).2 ⟨_, hfirst, hbelow⟩
          rw [hstep, Option.some.injEq] at hnext
          subst hnext
          exact (ih (h.below hbelow)).2 ⟨_, _, _, _, _, rfl, hlater, hlies, hblocks⟩

/-! ## Written locations -/

/-- The segment that is written for a level. -/
def Level.text : Level → String
  | .key name => name
  | .position i => String.ofList (Text.decimal i)

/-- The path that is written for a location. -/
def written (location : List Level) : String :=
  ".".intercalate (location.map Level.text)

theorem spells_decimal {i : Nat} (h : i < 2 ^ 64) :
    Spells (String.ofList (Text.decimal i)) (.position i) := by
  rw [spells_position_iff, position?, Text.readWord?_eq_some_iff, String.toList_ofList]
  exact ⟨Text.decimal i, .inl rfl, Text.isNumeral_decimal i, Text.decimalValue_decimal i, h⟩

theorem spells_text {j node : Json} (h : IsDocument j) {location : List Level}
    (hlies : Lies j location node) :
    List.Forall₂ Spells (location.map Level.text) location := by
  induction hlies with
  | here j => exact .nil
  | under hbelow hlies ih =>
    refine .cons ?_ (ih (h.below hbelow))
    cases hbelow with
    | member hmember => exact .key _
    | item hitem =>
      have hlt := (List.getElem?_eq_some_iff.1 hitem).1
      exact spells_decimal (Nat.lt_trans hlt (h.arrays_short _ _ (.here _)))

theorem segments_written {location : List Level} (hne : location ≠ [])
    (h : ∀ name, Level.key name ∈ location → '.' ∉ name.toList) :
    segments (written location) = location.map Level.text := by
  refine (Text.splitString_eq_iff _ _ _).2 ⟨by simpa using hne, fun part hpart => ?_, rfl⟩
  obtain ⟨level, hlevel, rfl⟩ := List.mem_map.1 hpart
  cases level with
  | key name => exact h name hlevel
  | position i =>
    intro hdot
    rw [Level.text, String.toList_ofList] at hdot
    exact absurd (Text.isDigit_of_mem_decimal hdot) (by decide)

/-! ## Documents -/

/-- Paths address exactly the nodes of a document. -/
structure AddressesNodes (document : Json) : Prop where
  written_resolves : ∀ location node, location ≠ [] →
    (∀ name, Level.key name ∈ location → '.' ∉ name.toList) → Lies document location node →
      resolve document (written location) = some node
  resolves_iff : ∀ path node, resolve document path = some node ↔
    ∃ segments location, Text.AreParts '.' segments path ∧ List.Forall₂ Spells segments location ∧
      Lies document location node
  blocked_iff : ∀ path, resolve document path = none ↔
    ∃ before segment after location node, Text.AreParts '.' (before ++ segment :: after) path ∧
      List.Forall₂ Spells before location ∧ Lies document location node ∧ Blocks segment node

/-- **Paths address exactly the nodes of a document.** The path written for the location of a node
    leads to that node, any path leads to the node whose location its segments spell, and a path
    leads nowhere only where one of its segments cannot be followed. -/
theorem addressesNodes {document : Json} (h : IsDocument document) : AddressesNodes document := by
  constructor
  case written_resolves =>
    intro location node hne hnames hlies
    rw [resolve, segments_written hne hnames, follow_eq_some_iff h]
    exact ⟨location, spells_text h hlies, hlies⟩
  case resolves_iff =>
    intro path node
    rw [resolve, follow_eq_some_iff h]
    constructor
    · rintro ⟨location, hspells, hlies⟩
      exact ⟨segments path, location, (Text.splitString_eq_iff _ _ _).1 rfl, hspells, hlies⟩
    · rintro ⟨parts, location, hparts, hspells, hlies⟩
      obtain rfl := (Text.splitString_eq_iff _ _ _).2 hparts
      exact ⟨location, hspells, hlies⟩
  case blocked_iff =>
    intro path
    rw [resolve, follow_eq_none_iff h]
    constructor
    · rintro ⟨before, segment, after, location, node, hsegments, hblocked⟩
      exact ⟨before, segment, after, location, node,
        (Text.splitString_eq_iff _ _ _).1 hsegments, hblocked⟩
    · rintro ⟨before, segment, after, location, node, hparts, hblocked⟩
      exact ⟨before, segment, after, location, node,
        (Text.splitString_eq_iff _ _ _).2 hparts, hblocked⟩

/-- A document with an empty key, a key of digits and a `null` in a list. -/
def taggedDocument : Json :=
  .object [("", .object [("0", .bool true)]), ("tags", .array [.string "vpn", .null])]

theorem isDocument_taggedDocument : IsDocument taggedDocument := by
  refine isDocument_object (by decide) fun m hm => ?_
  simp only [List.mem_cons, List.not_mem_nil, or_false] at hm
  rcases hm with rfl | rfl
  · refine isDocument_object (by decide) fun m hm => ?_
    rw [List.mem_singleton.1 hm]
    exact isDocument_leaf nofun nofun
  · refine isDocument_array (by decide) fun j hj => ?_
    simp only [List.mem_cons, List.not_mem_nil, or_false] at hj
    rcases hj with rfl | rfl
    · exact isDocument_leaf nofun nofun
    · exact isDocument_leaf nofun nofun

theorem addressesNodes_taggedDocument :
    IsDocument taggedDocument ∧ resolve taggedDocument "tags.1" = some .null ∧
      resolve taggedDocument ".0" = some (.bool true) ∧ AddressesNodes taggedDocument := by
  have haddresses := addressesNodes isDocument_taggedDocument
  refine ⟨isDocument_taggedDocument, ?_, ?_, haddresses⟩
  · have hlies : Lies taggedDocument [.key "tags", .position 1] .null :=
      .under (.member (List.mem_cons_of_mem _ List.mem_cons_self)) (.under (.item rfl) (.here _))
    exact haddresses.written_resolves _ _ (by simp) (by simp) hlies
  · have hlies : Lies taggedDocument [.key "", .key "0"] (.bool true) :=
      .under (.member List.mem_cons_self) (.under (.member List.mem_cons_self) (.here _))
    exact haddresses.written_resolves _ _ (by simp) (by simp) hlies

end Watchpost.Path

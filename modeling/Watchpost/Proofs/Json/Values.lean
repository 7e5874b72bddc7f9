import Watchpost.Json.Syntax
import Watchpost.Proofs.Json.Members

set_option autoImplicit false

/-! # Values that read back as themselves

The value of a syntax tree is in normal form: all its objects are in order. Writing such a value as
a tree and taking the value of that tree gives it back, whatever nesting of containers is allowed as
long as the tree has no deeper one. `IsNormal` is this property; values are normal when their parts
are. -/

namespace Watchpost.Json

open Syntax (valueWithin itemsWithin membersWithin nesting nestingOfItems nestingOfMembers)

/-! ## Nesting -/

theorem nesting_le_nestingOfItems {item : Syntax} {items : List Syntax} (h : item ∈ items) :
    item.nesting ≤ nestingOfItems items := by
  induction items with
  | nil => exact absurd h List.not_mem_nil
  | cons first rest ih =>
    rw [nestingOfItems]
    rcases List.mem_cons.1 h with rfl | hrest
    · exact Nat.le_max_left _ _
    · exact Nat.le_trans (ih hrest) (Nat.le_max_right _ _)

theorem nesting_le_nestingOfMembers {member : Option String × Syntax}
    {members : List (Option String × Syntax)} (h : member ∈ members) :
    member.2.nesting ≤ nestingOfMembers members := by
  induction members with
  | nil => exact absurd h List.not_mem_nil
  | cons first rest ih =>
    rw [nestingOfMembers]
    rcases List.mem_cons.1 h with rfl | hrest
    · exact Nat.le_max_left _ _
    · exact Nat.le_trans (ih hrest) (Nat.le_max_right _ _)

/-! ## Normal values -/

/-- A value whose tree has this value again, read with any depth that its containers keep to. -/
def IsNormal (j : Json) : Prop :=
  ∀ depth, j.toSyntax.nesting ≤ depth → j.toSyntax.valueWithin depth = some j

theorem isNormal_null : IsNormal .null := by
  intro depth _
  rw [toSyntax, valueWithin]

theorem isNormal_bool (b : Bool) : IsNormal (.bool b) := by
  intro depth _
  rw [toSyntax, valueWithin]

theorem isNormal_number (n : Number) : IsNormal (.number n) := by
  intro depth _
  rw [toSyntax, valueWithin, Option.map_some]

theorem isNormal_string (s : String) : IsNormal (.string s) := by
  intro depth _
  rw [toSyntax, valueWithin, Option.map_some]

theorem isNormal_ofInt (n : Int) : IsNormal (.ofInt n) := by
  unfold ofInt
  split
  · exact isNormal_number _
  · exact isNormal_null

theorem isNormal_ofDouble (x : Binary64) : IsNormal (.ofDouble x) := by
  unfold ofDouble
  split
  · exact isNormal_number _
  · exact isNormal_null

/-! ## Containers -/

theorem itemsWithin_itemsToSyntax {items : List Json} (h : ∀ j ∈ items, IsNormal j) {depth : Nat}
    (hdepth : nestingOfItems (itemsToSyntax items) ≤ depth) :
    itemsWithin depth (itemsToSyntax items) = some items := by
  induction items with
  | nil => rfl
  | cons item rest ih =>
    rw [itemsToSyntax, nestingOfItems] at hdepth
    obtain ⟨hitem, hrest⟩ := Nat.max_le.1 hdepth
    rw [itemsToSyntax, itemsWithin, h item List.mem_cons_self depth hitem,
      ih (fun j hj => h j (List.mem_cons_of_mem _ hj)) hrest]
    rfl

theorem membersWithin_membersToSyntax {members : List (String × Json)}
    (h : ∀ m ∈ members, IsNormal m.2) {depth : Nat}
    (hdepth : nestingOfMembers (membersToSyntax members) ≤ depth) :
    membersWithin depth (membersToSyntax members) = some members := by
  induction members with
  | nil => rfl
  | cons member rest ih =>
    obtain ⟨key, value⟩ := member
    rw [membersToSyntax, nestingOfMembers] at hdepth
    obtain ⟨hvalue, hrest⟩ := Nat.max_le.1 hdepth
    rw [membersToSyntax, membersWithin, h (key, value) List.mem_cons_self depth hvalue,
      ih (fun m hm => h m (List.mem_cons_of_mem _ hm)) hrest]
    rfl

theorem IsNormal.array {items : List Json} (h : ∀ j ∈ items, IsNormal j) :
    IsNormal (.array items) := by
  intro depth hdepth
  rw [toSyntax, nesting] at hdepth
  obtain ⟨inner, rfl⟩ := Nat.exists_eq_add_of_le' (Nat.le_trans (Nat.le_add_left 1 _) hdepth)
  rw [toSyntax, valueWithin, itemsWithin_itemsToSyntax h (Nat.le_of_succ_le_succ hdepth),
    Option.map_some]

theorem IsNormal.ofMembers {members : List (String × Json)} (h : ∀ m ∈ members, IsNormal m.2) :
    IsNormal (.ofMembers members) := by
  have hsorted : ∀ m ∈ sortMembers members, IsNormal m.2 :=
    fun m hm => h m (mem_of_mem_sortMembers hm)
  intro depth hdepth
  rw [Json.ofMembers, toSyntax, nesting] at hdepth
  obtain ⟨inner, rfl⟩ := Nat.exists_eq_add_of_le' (Nat.le_trans (Nat.le_add_left 1 _) hdepth)
  rw [Json.ofMembers, toSyntax, valueWithin,
    membersWithin_membersToSyntax hsorted (Nat.le_of_succ_le_succ hdepth), Option.map_some,
    Json.ofMembers, sortMembers_sortMembers]

theorem isNormal_empty : IsNormal (.object []) := by
  have h : IsNormal (.ofMembers []) := .ofMembers fun _ hm => nomatch hm
  exact h

/-! ## The value of any tree -/

mutual

theorem isNormal_of_valueWithin : ∀ (depth : Nat) (tree : Syntax) (j : Json),
    tree.valueWithin depth = some j → IsNormal j
  | _, .null, _, h => by
    rw [valueWithin, Option.some.injEq] at h
    exact h ▸ isNormal_null
  | _, .bool b, _, h => by
    rw [valueWithin, Option.some.injEq] at h
    exact h ▸ isNormal_bool b
  | _, .number n, _, h => by
    rw [valueWithin] at h
    obtain ⟨m, -, rfl⟩ := Option.map_eq_some_iff.1 h
    exact isNormal_number m
  | _, .string s, _, h => by
    rw [valueWithin] at h
    obtain ⟨t, -, rfl⟩ := Option.map_eq_some_iff.1 h
    exact isNormal_string t
  | 0, .array _, _, h => by
    rw [valueWithin] at h
    cases h
  | 0, .object _, _, h => by
    rw [valueWithin] at h
    cases h
  | depth + 1, .array items, _, h => by
    rw [valueWithin] at h
    obtain ⟨values, hvalues, rfl⟩ := Option.map_eq_some_iff.1 h
    exact .array (isNormal_of_itemsWithin depth items values hvalues)
  | depth + 1, .object members, _, h => by
    rw [valueWithin] at h
    obtain ⟨values, hvalues, rfl⟩ := Option.map_eq_some_iff.1 h
    exact .ofMembers (isNormal_of_membersWithin depth members values hvalues)

theorem isNormal_of_itemsWithin : ∀ (depth : Nat) (trees : List Syntax) (items : List Json),
    itemsWithin depth trees = some items → ∀ j ∈ items, IsNormal j
  | _, [], _, h => by
    rw [itemsWithin, Option.some.injEq] at h
    exact h ▸ fun _ hj => absurd hj List.not_mem_nil
  | depth, tree :: trees, _, h => by
    simp only [itemsWithin, Option.bind_eq_bind, Option.bind_eq_some_iff, Option.pure_def,
      Option.some.injEq] at h
    obtain ⟨j, hj, items, hitems, rfl⟩ := h
    exact List.forall_mem_cons.2 ⟨isNormal_of_valueWithin depth tree j hj,
      isNormal_of_itemsWithin depth trees items hitems⟩

theorem isNormal_of_membersWithin : ∀ (depth : Nat) (trees : List (Option String × Syntax))
    (members : List (String × Json)),
    membersWithin depth trees = some members → ∀ m ∈ members, IsNormal m.2
  | _, [], _, h => by
    rw [membersWithin, Option.some.injEq] at h
    exact h ▸ fun _ hm => absurd hm List.not_mem_nil
  | depth, (_, tree) :: trees, _, h => by
    simp only [membersWithin, Option.bind_eq_bind, Option.bind_eq_some_iff, Option.pure_def,
      Option.some.injEq] at h
    obtain ⟨key, -, j, hj, members, hmembers, rfl⟩ := h
    exact List.forall_mem_cons.2 ⟨isNormal_of_valueWithin depth tree j hj,
      isNormal_of_membersWithin depth trees members hmembers⟩

end

end Watchpost.Json

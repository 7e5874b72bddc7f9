import Watchpost.Json.Basic
import Watchpost.Proofs.Lookup

set_option autoImplicit false

/-! # The members of an object in order

`Json.sortMembers` puts members in place by key. A look-up finds the last member that was given with
its key, nothing is added, and the keys come out strictly increasing. Members whose keys increase
already stay as they are, so that objects have one form. -/

namespace Watchpost.Json

/-- Members whose keys are strictly increasing. -/
def InOrder (members : List (String × Json)) : Prop :=
  (members.map Prod.fst).Pairwise (· < ·)

/-! ## One member put in its place -/

theorem lookup_insertMember (k key : String) (value : Json) (members : List (String × Json)) :
    (insertMember key value members).lookup k =
      if k = key then some value else members.lookup k := by
  induction members with
  | nil => rw [insertMember, lookup_cons_eq_ite]
  | cons member rest ih =>
    obtain ⟨first, old⟩ := member
    rw [insertMember]
    split
    · rw [lookup_cons_eq_ite]
    · split
      · next heq =>
        rw [lookup_cons_eq_ite, lookup_cons_eq_ite, heq]
        by_cases hk : k = first
        · simp [hk]
        · simp [hk]
      · next hne =>
        rw [lookup_cons_eq_ite, ih, lookup_cons_eq_ite]
        by_cases hk : k = first
        · rw [if_pos hk, if_neg (hk ▸ Ne.symm hne), if_pos hk]
        · rw [if_neg hk, if_neg hk]

theorem mem_of_mem_insertMember {key : String} {value : Json} {members : List (String × Json)}
    {m : String × Json} (h : m ∈ insertMember key value members) :
    m = (key, value) ∨ m ∈ members := by
  induction members with
  | nil => exact .inl (List.mem_singleton.1 h)
  | cons member rest ih =>
    rw [insertMember] at h
    split at h
    · exact List.mem_cons.1 h
    · split at h
      · exact (List.mem_cons.1 h).imp_right (List.mem_cons_of_mem _)
      · rcases List.mem_cons.1 h with rfl | hrest
        · exact .inr List.mem_cons_self
        · exact (ih hrest).imp_right (List.mem_cons_of_mem _)

theorem InOrder.insertMember {members : List (String × Json)} (h : InOrder members) (key : String)
    (value : Json) : InOrder (insertMember key value members) := by
  induction members with
  | nil => exact List.pairwise_singleton _ _
  | cons member rest ih =>
    obtain ⟨first, old⟩ := member
    obtain ⟨hfirst, hrest⟩ := List.pairwise_cons.1 h
    rw [Json.insertMember]
    split
    · next hlt =>
      refine List.pairwise_cons.2 ⟨fun k hk => ?_, h⟩
      rcases List.mem_cons.1 hk with rfl | hk
      · exact hlt
      · exact String.lt_trans hlt (hfirst k hk)
    · split
      · next heq => exact List.pairwise_cons.2 ⟨heq ▸ hfirst, hrest⟩
      · next hnlt hne =>
        refine List.pairwise_cons.2 ⟨fun k hk => ?_, ih hrest⟩
        obtain ⟨m, hm, rfl⟩ := List.mem_map.1 hk
        rcases mem_of_mem_insertMember hm with rfl | hm
        · exact Std.lt_of_le_of_ne (String.not_lt.1 hnlt) (Ne.symm hne)
        · exact hfirst m.1 (List.mem_map_of_mem hm)

/-- A member whose key is beyond all others goes to the end. -/
theorem insertMember_eq_append {key : String} (value : Json) {members : List (String × Json)}
    (h : ∀ m ∈ members, m.1 < key) :
    insertMember key value members = members ++ [(key, value)] := by
  induction members with
  | nil => rfl
  | cons member rest ih =>
    obtain ⟨first, old⟩ := member
    have hlt : first < key := h (first, old) List.mem_cons_self
    have hnlt : ¬ key < first := fun hk => String.lt_irrefl _ (String.lt_trans hlt hk)
    have hne : key ≠ first := fun he => String.lt_irrefl _ (he ▸ hlt)
    rw [insertMember, if_neg hnlt, if_neg hne, ih fun m hm => h m (List.mem_cons_of_mem _ hm),
      List.cons_append]

/-! ## All members -/

/-- Putting members in place one after another; the order so far is the one of `acc`. -/
theorem lookup_foldl_insertMember (key : String) (members acc : List (String × Json)) :
    (members.foldl (fun acc (k, v) => insertMember k v acc) acc).lookup key =
      (members.reverse.lookup key).or (acc.lookup key) := by
  induction members generalizing acc with
  | nil => rfl
  | cons member rest ih =>
    obtain ⟨first, value⟩ := member
    rw [List.foldl_cons, ih, lookup_insertMember, List.reverse_cons, List.lookup_append,
      Option.or_assoc, lookup_cons_eq_ite, List.lookup_nil]
    split <;> rfl

/-- The last of the members with a key counts. -/
theorem lookup_sortMembers (key : String) (members : List (String × Json)) :
    (sortMembers members).lookup key = members.reverse.lookup key := by
  rw [sortMembers, lookup_foldl_insertMember, List.lookup_nil, Option.or_none]

theorem mem_of_mem_foldl_insertMember {members acc : List (String × Json)} {m : String × Json}
    (h : m ∈ members.foldl (fun acc (k, v) => insertMember k v acc) acc) :
    m ∈ members ∨ m ∈ acc := by
  induction members generalizing acc with
  | nil => exact .inr h
  | cons member rest ih =>
    rcases ih h with hrest | hacc
    · exact .inl (List.mem_cons_of_mem _ hrest)
    · rcases mem_of_mem_insertMember hacc with rfl | hacc
      · exact .inl List.mem_cons_self
      · exact .inr hacc

theorem mem_of_mem_sortMembers {members : List (String × Json)} {m : String × Json}
    (h : m ∈ sortMembers members) : m ∈ members :=
  (mem_of_mem_foldl_insertMember h).resolve_right List.not_mem_nil

theorem inOrder_sortMembers (members : List (String × Json)) : InOrder (sortMembers members) :=
  List.foldlRecOn members _ List.Pairwise.nil fun _ h member _ => h.insertMember member.1 member.2

/-- Members that continue an increasing list are put at its end. -/
theorem foldl_insertMember_eq_append {members acc : List (String × Json)}
    (h : InOrder (acc ++ members)) :
    members.foldl (fun acc (k, v) => insertMember k v acc) acc = acc ++ members := by
  induction members generalizing acc with
  | nil => exact (List.append_nil acc).symm
  | cons member rest ih =>
    obtain ⟨key, value⟩ := member
    have hlast : ∀ m ∈ acc, m.1 < key := by
      intro m hm
      rw [InOrder, List.map_append] at h
      exact (List.pairwise_append.1 h).2.2 m.1 (List.mem_map_of_mem hm) key List.mem_cons_self
    simp only [List.foldl_cons]
    rw [insertMember_eq_append value hlast, ih (by rwa [List.append_assoc]), List.append_assoc,
      List.singleton_append]

theorem sortMembers_eq_self {members : List (String × Json)} (h : InOrder members) :
    sortMembers members = members :=
  foldl_insertMember_eq_append h

@[simp] theorem sortMembers_sortMembers (members : List (String × Json)) :
    sortMembers (sortMembers members) = sortMembers members :=
  sortMembers_eq_self (inOrder_sortMembers members)

theorem InOrder.nodup {members : List (String × Json)} (h : InOrder members) :
    (members.map Prod.fst).Nodup := by
  refine List.Pairwise.imp ?_ h
  rintro a b hlt rfl
  exact String.lt_irrefl a hlt

end Watchpost.Json

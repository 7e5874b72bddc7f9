import Mathlib.Algebra.Group.Nat.Defs
import Watchpost.Json.Fields
import Watchpost.Proofs.Json.Values

set_option autoImplicit false

/-! # Records that read back

A reader and a writer of a type agree on a value when reading what is written gives the value back:
the value is restored. The fields of a record are found again in the object that the record is
written as, so a record is restored when its fields are. A reader survives writing when every value
that it can read is restored. -/

namespace Watchpost.Json

variable {α β : Type}

/-- Reading a value back from what it is written as. -/
def Restores (read : Reader α) (write : α → Json) (a : α) : Prop :=
  read (write a).toSyntax = some a

/-- Whatever the reader reads is read back from what it is written as. -/
def Survives (read : Reader α) (write : α → Json) : Prop :=
  ∀ tree a, read tree = some a → Restores read write a

/-! ## The fields of a written record -/

theorem namedMembers_membersToSyntax (names : List String) {members : List (String × Json)}
    (h : (members.map Prod.fst).Nodup) :
    namedMembers names (membersToSyntax members) =
      some ((members.filter fun m => names.contains m.1).map fun m => (m.1, m.2.toSyntax)) := by
  induction members with
  | nil => rfl
  | cons member rest ih =>
    obtain ⟨key, value⟩ := member
    obtain ⟨hkey, hrest⟩ := List.nodup_cons.1 h
    rw [membersToSyntax, namedMembers, ih hrest]
    rw [List.filter_cons]
    by_cases hname : names.contains key = true
    · simp only [Option.bind_eq_bind, Option.bind_some, hname, if_true, List.map_cons]
      rw [if_neg]
      simp only [List.any_eq_true, List.mem_map, List.mem_filter]
      rintro ⟨_, ⟨m, ⟨hm, -⟩, rfl⟩, heq⟩
      have hmem : m.1 ∈ rest.map Prod.fst := List.mem_map_of_mem hm
      exact hkey (beq_iff_eq.1 heq ▸ hmem)
    · simp only [Option.bind_eq_bind, Option.bind_some, hname, Bool.false_eq_true, if_false]

/-- A look-up in the fields of a written object finds the last member with that key. -/
theorem fields?_ofMembers (names : List String) {j : Json} {members : List (String × Json)}
    (h : j = .ofMembers members) :
    ∃ fields, j.toSyntax.fields? names = some fields ∧
      ∀ key, fields.lookup key =
        if key ∈ names then (members.reverse.lookup key).map toSyntax else none := by
  have hnodup := (inOrder_sortMembers members).nodup
  refine ⟨_, by rw [h, ofMembers, toSyntax]; exact namedMembers_membersToSyntax names hnodup, ?_⟩
  intro key
  rw [lookup_map_value toSyntax, lookup_filter_key names.contains, lookup_sortMembers]
  simp only [List.contains_eq_mem, decide_eq_true_eq]
  split <;> rfl

@[simp] theorem reverse_optionalMember (key : String) (write : α → Json) (o : Option α) :
    (optionalMember key write o).reverse = optionalMember key write o := by
  cases o <;> rfl

@[simp] theorem lookup_optionalMember (k key : String) (write : α → Json) (o : Option α) :
    (optionalMember key write o).lookup k = if k = key then o.map write else none := by
  cases o with
  | none => simp [optionalMember]
  | some a => rw [optionalMember, lookup_cons_eq_ite, List.lookup_nil, Option.map_some]

/-! ## Single fields -/

section

variable {read : Reader α} {write : α → Json} {fields : Fields} {key : String} {a default : α}
  {o : Option α}

theorem Fields.required_eq_some (h : Restores read write a)
    (hlookup : fields.lookup key = some (write a).toSyntax) :
    fields.required key read = some a := by
  rw [required, hlookup, Option.bind_some, h]

/-- An optional field is found again if it can be told from `null`. -/
theorem Fields.optional_eq_some (hnull : read .null = none) (h : ∀ a ∈ o, Restores read write a)
    (hlookup : fields.lookup key = (o.map write).map toSyntax) :
    fields.optional key read = some o := by
  rw [optional, hlookup]
  cases o with
  | none => rfl
  | some a =>
    have ha : read (write a).toSyntax = some a := h a rfl
    rw [Option.map_some, Option.map_some]
    split
    · next heq => cases heq
    · next heq =>
      rw [Option.some.inj heq, hnull] at ha
      cases ha
    · next heq => rw [← Option.some.inj heq, ha, Option.map_some]

theorem Fields.orElse_eq_some (h : Restores read write a)
    (hlookup : fields.lookup key = some (write a).toSyntax) :
    fields.orElse key default read = some a := by
  rw [orElse, hlookup]
  exact h

theorem Survives.of_required (hs : Survives read write)
    (h : fields.required key read = some a) : Restores read write a := by
  obtain ⟨tree, -, hread⟩ := Option.bind_eq_some_iff.1 h
  exact hs tree a hread

theorem Fields.exists_read_of_optional (h : fields.optional key read = some o) (ha : a ∈ o) :
    ∃ tree, read tree = some a := by
  rw [Fields.optional] at h
  split at h
  · exact absurd (Option.some.inj h ▸ ha) (Option.not_mem_none a)
  · exact absurd (Option.some.inj h ▸ ha) (Option.not_mem_none a)
  · next tree _ _ =>
    obtain ⟨b, hread, rfl⟩ := Option.map_eq_some_iff.1 h
    exact ⟨tree, Option.some.inj ha ▸ hread⟩

theorem Survives.of_optional (hs : Survives read write)
    (h : fields.optional key read = some o) : ∀ a ∈ o, Restores read write a := by
  intro a ha
  obtain ⟨tree, hread⟩ := Fields.exists_read_of_optional h ha
  exact hs tree a hread

end

/-! ## Plain types -/

theorem restores_text (s : String) : Restores Read.text .string s := by
  rw [Restores, toSyntax, Read.text]

theorem restores_flag (b : Bool) : Restores Read.flag .bool b := by
  rw [Restores, toSyntax, Read.flag]

theorem restores_word {width n : Nat} (hwidth : width ≤ 64) (h : n < 2 ^ width) :
    Restores (Read.word width) .ofNat n := by
  have hpow : 2 ^ width ≤ 2 ^ 64 := Nat.pow_le_pow_right (by decide) hwidth
  have hrange : -9223372036854775808 ≤ (n : Int) ∧ (n : Int) < 18446744073709551616 := by omega
  have hfits : 0 ≤ (n : Int) ∧ (n : Int) < (Nat.pow 2 width : Nat) :=
    ⟨Int.natCast_nonneg n, Int.ofNat_lt.2 h⟩
  rw [Restores, ofNat, ofInt, Number.ofInt?, dif_pos hrange]
  simp only [toSyntax]
  rw [Read.word, if_pos hfits, Int.toNat_natCast]

theorem lt_of_read_word {width n : Nat} {tree : Syntax} (h : Read.word width tree = some n) :
    n < 2 ^ width := by
  unfold Read.word at h
  split at h
  · next m _ =>
    split at h
    · next hm =>
      obtain rfl := Option.some.inj h
      have : m < ((2 ^ width : Nat) : Int) := hm.2
      omega
    · cases h
  · cases h

theorem survives_word {width : Nat} (hwidth : width ≤ 64) : Survives (Read.word width) .ofNat :=
  fun _ _ h => restores_word hwidth (lt_of_read_word h)

theorem restores_double {x : Binary64} (h : x.isFinite = true) :
    Restores Read.double .ofDouble x := by
  rw [Restores, ofDouble, Number.ofDouble?, dif_pos h]
  simp only [toSyntax]
  rw [Read.double, Number.toDouble]

theorem restores_name {ofName? : String → Option α} {name : α → String} {a : α}
    (h : ofName? (name a) = some a) :
    Restores (Read.name ofName?) (fun a => .string (name a)) a := by
  rw [Restores, toSyntax, Read.name, h]

theorem mapM_itemsToSyntax {read : Reader α} {write : α → Json} {items : List α}
    (h : ∀ a ∈ items, Restores read write a) :
    (itemsToSyntax (items.map write)).mapM read = some items := by
  induction items with
  | nil => rfl
  | cons item rest ih =>
    have hitem : read (write item).toSyntax = some item := h item List.mem_cons_self
    rw [List.map_cons, itemsToSyntax, List.mapM_cons, hitem,
      ih fun a ha => h a (List.mem_cons_of_mem _ ha)]
    rfl

theorem restores_list {read : Reader α} {write : α → Json} {items : List α}
    (h : ∀ a ∈ items, Restores read write a) :
    Restores (Read.list read) (fun items => .array (items.map write)) items := by
  rw [Restores, toSyntax, Read.list, mapM_itemsToSyntax h]

theorem restores_texts (ss : List String) : Restores (Read.list Read.text) .ofStrings ss :=
  restores_list fun s _ => restores_text s

/-! ## Free-form values -/

theorem restores_value {depth : Nat} {j : Json} (h : IsNormal j)
    (hdepth : j.toSyntax.nesting ≤ depth) : Restores (Read.value depth) id j :=
  h depth hdepth

theorem restores_members {depth : Nat} {members : List (String × Json)}
    (h : IsNormal (.object members)) (hdepth : (Json.object members).toSyntax.nesting ≤ depth) :
    Restores (Read.members depth) .object members := by
  have hvalue := h depth hdepth
  rw [Restores]
  simp only [toSyntax] at hvalue ⊢
  rw [Read.members, hvalue]

theorem isNormal_of_read_members {depth : Nat} {tree : Syntax} {members : List (String × Json)}
    (h : Read.members depth tree = some members) : IsNormal (.object members) := by
  unfold Read.members at h
  split at h
  · split at h
    · next hvalue =>
      rw [← Option.some.inj h]
      exact isNormal_of_valueWithin _ _ _ hvalue
    · cases h
  · cases h

/-! ## Nesting of fields -/

theorem mem_of_mem_namedMembers {names : List String} {members : List (Option String × Syntax)}
    {fields : Fields} (h : namedMembers names members = some fields) :
    ∀ f ∈ fields, (some f.1, f.2) ∈ members := by
  induction members generalizing fields with
  | nil =>
    obtain rfl := Option.some.inj h
    exact fun f hf => absurd hf List.not_mem_nil
  | cons member rest ih =>
    obtain ⟨key, value⟩ := member
    simp only [namedMembers, Option.bind_eq_bind, Option.bind_eq_some_iff] at h
    obtain ⟨key, rfl, others, hothers, h⟩ := h
    have hrest : ∀ f ∈ others, (some f.1, f.2) ∈ (some key, value) :: rest :=
      fun f hf => List.mem_cons_of_mem _ (ih hothers f hf)
    split at h
    · split at h
      · cases h
      · obtain rfl := Option.some.inj h
        exact List.forall_mem_cons.2 ⟨List.mem_cons_self, hrest⟩
    · obtain rfl := Option.some.inj h
      exact hrest

/-- The containers of a field nest less deep than those of the record. -/
theorem nesting_lt_of_lookup {names : List String} {tree value : Syntax} {fields : Fields}
    {key : String} (h : tree.fields? names = some fields)
    (hvalue : fields.lookup key = some value) : value.nesting < tree.nesting := by
  have hmem := mem_of_lookup hvalue
  unfold Syntax.fields? at h
  split at h
  · next members =>
    have hle := nesting_le_nestingOfMembers (mem_of_mem_namedMembers h _ hmem)
    rw [Syntax.nesting]
    exact Nat.lt_succ_of_le hle
  · next items =>
    split at h
    · obtain rfl := Option.some.inj h
      have hle := nesting_le_nestingOfItems (List.of_mem_zip hmem).2
      rw [Syntax.nesting]
      exact Nat.lt_succ_of_le hle
    · cases h
  · cases h

/-- The containers of an item nest less deep than those of the list. -/
theorem nesting_lt_of_mem {item : Json} {items : List Json} (h : item ∈ items) :
    item.toSyntax.nesting < (Json.array items).toSyntax.nesting := by
  have hmem : item.toSyntax ∈ itemsToSyntax items := by
    induction items with
    | nil => exact absurd h List.not_mem_nil
    | cons first rest ih =>
      rw [itemsToSyntax]
      rcases List.mem_cons.1 h with rfl | hrest
      · exact List.mem_cons_self
      · exact List.mem_cons_of_mem _ (ih hrest)
  rw [toSyntax, Syntax.nesting]
  exact Nat.lt_succ_of_le (nesting_le_nestingOfItems hmem)

end Watchpost.Json

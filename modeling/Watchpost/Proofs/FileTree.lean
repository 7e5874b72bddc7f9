import Watchpost.Proofs.FileTree.Name
import Watchpost.Proofs.Lookup

set_option autoImplicit false

/-! # Paths in directory trees

Paths are in a total order, so that files with different paths have one order only. A tree is that
of a file system if no directory lists a name twice: then a path leads to one place at most.
`FileTree.without` takes away what stands at a path, and `FileTree.at?_without` says that every
other file stays where it was. -/

namespace Watchpost.FileTree

/-! ## The order of paths -/

/-- Names are the same if neither comes first. -/
theorem Name.eq_of_atMost {a b : Name} (hab : a.bytes ≤ b.bytes) (hba : b.bytes ≤ a.bytes) :
    a = b :=
  congrArg Name.mk (List.le_antisymm hab hba)

theorem pathAtMost_cons_self (name : Name) (p q : Path) :
    pathAtMost (name :: p) (name :: q) = pathAtMost p q := by
  rw [pathAtMost, if_pos rfl]

theorem pathAtMost_cons_of_ne {a b : Name} (h : a ≠ b) (p q : Path) :
    pathAtMost (a :: p) (b :: q) = decide (a.bytes ≤ b.bytes) := by
  rw [pathAtMost, if_neg h]

theorem pathAtMost_total (p q : Path) : (pathAtMost p q || pathAtMost q p) = true := by
  induction p generalizing q with
  | nil => rfl
  | cons a p ih =>
    cases q with
    | nil => rfl
    | cons b q =>
      by_cases hab : a = b
      · subst hab
        rw [pathAtMost_cons_self, pathAtMost_cons_self]
        exact ih q
      · rw [pathAtMost_cons_of_ne hab, pathAtMost_cons_of_ne (Ne.symm hab)]
        simpa using List.le_total a.bytes b.bytes

theorem pathAtMost_antisymm {p q : Path} (hpq : pathAtMost p q = true)
    (hqp : pathAtMost q p = true) : p = q := by
  induction p generalizing q with
  | nil =>
    cases q with
    | nil => rfl
    | cons b q => exact absurd hqp (by simp [pathAtMost])
  | cons a p ih =>
    cases q with
    | nil => exact absurd hpq (by simp [pathAtMost])
    | cons b q =>
      by_cases hab : a = b
      · subst hab
        rw [pathAtMost_cons_self] at hpq hqp
        rw [ih hpq hqp]
      · rw [pathAtMost_cons_of_ne hab] at hpq
        rw [pathAtMost_cons_of_ne (Ne.symm hab)] at hqp
        exact absurd (Name.eq_of_atMost (of_decide_eq_true hpq) (of_decide_eq_true hqp)) hab

theorem pathAtMost_trans {p q r : Path} (hpq : pathAtMost p q = true)
    (hqr : pathAtMost q r = true) : pathAtMost p r = true := by
  induction p generalizing q r with
  | nil => rfl
  | cons a p ih =>
    cases q with
    | nil => exact absurd hpq (by simp [pathAtMost])
    | cons b q =>
      cases r with
      | nil => exact absurd hqr (by simp [pathAtMost])
      | cons c r =>
        by_cases hab : a = b
        · subst hab
          rw [pathAtMost_cons_self] at hpq
          by_cases hac : a = c
          · subst hac
            rw [pathAtMost_cons_self] at hqr ⊢
            exact ih hpq hqr
          · rwa [pathAtMost_cons_of_ne hac] at hqr ⊢
        · rw [pathAtMost_cons_of_ne hab] at hpq
          have hle : a.bytes ≤ b.bytes := of_decide_eq_true hpq
          by_cases hbc : b = c
          · subst hbc
            rw [pathAtMost_cons_of_ne hab]
            exact hpq
          · rw [pathAtMost_cons_of_ne hbc] at hqr
            have hle' : b.bytes ≤ c.bytes := of_decide_eq_true hqr
            -- Equal ends would make the name between them equal to both.
            have hac : a ≠ c := by
              rintro rfl
              exact hab (Name.eq_of_atMost hle hle')
            rw [pathAtMost_cons_of_ne hac]
            exact decide_eq_true (List.le_trans hle hle')

/-! ## What stands at a path -/

/-- No directory of a tree lists a name twice. -/
inductive HasUniqueNames : FileTree → Prop
  | file (content : ByteArray) : HasUniqueNames (.file content)
  | directory (entries : List (Name × FileTree)) (distinct : (entries.map Prod.fst).Nodup)
    (inside : ∀ entry ∈ entries, HasUniqueNames entry.2) : HasUniqueNames (.directory entries)

namespace HasUniqueNames

@[simp] theorem file_iff (content : ByteArray) : (FileTree.file content).HasUniqueNames ↔ True :=
  ⟨fun _ => trivial, fun _ => .file content⟩

@[simp] theorem nil_iff : (FileTree.directory []).HasUniqueNames ↔ True :=
  ⟨fun _ => trivial, fun _ => .directory [] (by simp) (by simp)⟩

@[simp] theorem cons_iff (name : Name) (child : FileTree) (rest : List (Name × FileTree)) :
    (FileTree.directory ((name, child) :: rest)).HasUniqueNames ↔
      name ∉ rest.map Prod.fst ∧ child.HasUniqueNames ∧
        (FileTree.directory rest).HasUniqueNames := by
  constructor
  · intro h
    cases h with
    | directory _ distinct inside =>
      obtain ⟨hname, hrest⟩ := List.nodup_cons.1 distinct
      obtain ⟨hchild, hinside⟩ := List.forall_mem_cons.1 inside
      exact ⟨hname, hchild, .directory rest hrest hinside⟩
  · rintro ⟨hname, hchild, hrest⟩
    cases hrest with
    | directory _ distinct inside =>
      exact .directory _ (List.nodup_cons.2 ⟨hname, distinct⟩)
        (List.forall_mem_cons.2 ⟨hchild, inside⟩)

end HasUniqueNames

/-- Every name in a tree has a property. -/
inductive AllNames (P : Name → Prop) : FileTree → Prop
  | file (content : ByteArray) : AllNames P (.file content)
  | directory (entries : List (Name × FileTree)) (here : ∀ entry ∈ entries, P entry.1)
    (inside : ∀ entry ∈ entries, AllNames P entry.2) : AllNames P (.directory entries)

namespace AllNames

variable {P Q : Name → Prop}

@[simp] theorem file_iff (content : ByteArray) : (FileTree.file content).AllNames P ↔ True :=
  ⟨fun _ => trivial, fun _ => .file content⟩

@[simp] theorem nil_iff : (FileTree.directory []).AllNames P ↔ True :=
  ⟨fun _ => trivial, fun _ => .directory [] (by simp) (by simp)⟩

@[simp] theorem cons_iff (name : Name) (child : FileTree) (rest : List (Name × FileTree)) :
    (FileTree.directory ((name, child) :: rest)).AllNames P ↔
      P name ∧ child.AllNames P ∧ (FileTree.directory rest).AllNames P := by
  constructor
  · intro h
    cases h with
    | directory _ here inside =>
      obtain ⟨hname, hhere⟩ := List.forall_mem_cons.1 here
      obtain ⟨hchild, hinside⟩ := List.forall_mem_cons.1 inside
      exact ⟨hname, hchild, .directory rest hhere hinside⟩
  · rintro ⟨hname, hchild, hrest⟩
    cases hrest with
    | directory _ here inside =>
      exact .directory _ (List.forall_mem_cons.2 ⟨hname, here⟩)
        (List.forall_mem_cons.2 ⟨hchild, inside⟩)

theorem mono {t : FileTree} (h : t.AllNames P) (hPQ : ∀ name, P name → Q name) :
    t.AllNames Q := by
  induction h with
  | file content => exact .file content
  | directory entries here inside ih =>
    exact .directory entries (fun entry hentry => hPQ _ (here entry hentry)) ih

end AllNames

/-- What every name has, every name in a tree has. -/
theorem HasUniqueNames.allNames {P : Name → Prop} (hP : ∀ name, P name) {t : FileTree}
    (h : t.HasUniqueNames) : t.AllNames P := by
  induction h with
  | file content => exact .file content
  | directory entries distinct inside ih => exact .directory entries (fun _ _ => hP _) ih

theorem at?_directory_cons (entries : List (Name × FileTree)) (name : Name) (p : Path) :
    (directory entries).at? (name :: p) = (entries.lookup name).bind fun child => child.at? p := by
  rw [at?]

/-- Nothing stands below a file. -/
theorem at?_file_cons (content : ByteArray) (name : Name) (p : Path) :
    (file content).at? (name :: p) = none := by
  rw [at?]

theorem at?_append (t : FileTree) (p q : Path) :
    t.at? (p ++ q) = (t.at? p).bind fun child => child.at? q := by
  induction p generalizing t with
  | nil => simp [at?]
  | cons name p ih =>
    cases t with
    | file content => simp [at?_file_cons]
    | directory entries =>
      rw [List.cons_append, at?_directory_cons, at?_directory_cons, Option.bind_assoc]
      exact congrArg _ (funext fun child => ih child)

/-- A path below that of a file leads to no file. -/
theorem eq_of_prefix_of_at?_file {t : FileTree} {p q : Path} {c d : ByteArray} (h : p <+: q)
    (hp : t.at? p = some (file c)) (hq : t.at? q = some (file d)) : p = q := by
  obtain ⟨rest, rfl⟩ := h
  cases rest with
  | nil => rw [List.append_nil]
  | cons name rest =>
    rw [at?_append, hp, Option.bind_some, at?_file_cons] at hq
    exact absurd hq (by simp)

/-! ## Taking something away -/

/-- Entries in which the one with a name is changed, or taken away. -/
def alterEntry (name : Name) (f : FileTree → Option FileTree)
    (entries : List (Name × FileTree)) : List (Name × FileTree) :=
  entries.filterMap fun entry =>
    if entry.1 = name then (f entry.2).map fun child => (entry.1, child) else some entry

/-- A tree without what stands at a path; nothing is left without the root. -/
def without : Path → FileTree → Option FileTree
  | [], _ => none
  | _ :: _, .file content => some (.file content)
  | name :: p, .directory entries => some (.directory (alterEntry name (without p) entries))

theorem alterEntry_cons_self (name : Name) (f : FileTree → Option FileTree) (child : FileTree)
    (rest : List (Name × FileTree)) :
    alterEntry name f ((name, child) :: rest)
      = ((f child).map fun child => (name, child)).toList ++ alterEntry name f rest := by
  rw [alterEntry, List.filterMap_cons, if_pos rfl]
  cases f child <;> rfl

theorem alterEntry_cons_of_ne {name n : Name} (h : n ≠ name) (f : FileTree → Option FileTree)
    (child : FileTree) (rest : List (Name × FileTree)) :
    alterEntry name f ((n, child) :: rest) = (n, child) :: alterEntry name f rest := by
  rw [alterEntry, List.filterMap_cons, if_neg h]
  rfl

/-- Where no entry has the name, none is changed. -/
theorem alterEntry_of_not_mem {name : Name} {entries : List (Name × FileTree)}
    (h : name ∉ entries.map Prod.fst) (f : FileTree → Option FileTree) :
    alterEntry name f entries = entries := by
  induction entries with
  | nil => rfl
  | cons entry rest ih =>
    obtain ⟨n, child⟩ := entry
    obtain ⟨hn, hrest⟩ := not_or.1 (mt List.mem_cons.2 h)
    rw [alterEntry_cons_of_ne (Ne.symm hn), ih hrest]

theorem lookup_alterEntry {entries : List (Name × FileTree)}
    (h : (entries.map Prod.fst).Nodup) (name : Name) (f : FileTree → Option FileTree)
    (n : Name) :
    (alterEntry name f entries).lookup n
      = if n = name then (entries.lookup n).bind f else entries.lookup n := by
  induction entries with
  | nil => simp [alterEntry]
  | cons entry rest ih =>
    obtain ⟨first, child⟩ := entry
    obtain ⟨hfirst, hrest⟩ := List.nodup_cons.1 h
    by_cases hname : first = name
    · subst hname
      -- The name stands nowhere else, so that the rest is not changed.
      rw [alterEntry_cons_self, alterEntry_of_not_mem hfirst, List.lookup_append,
        lookup_cons_eq_ite]
      by_cases hn : n = first
      · subst hn
        rw [lookup_eq_none_of_not_mem hfirst, if_pos rfl, if_pos rfl, Option.or_none,
          Option.bind_some]
        cases f child <;> simp
      · rw [if_neg hn, if_neg hn]
        cases f child <;> simp [lookup_cons_eq_ite, hn]
    · rw [alterEntry_cons_of_ne hname, lookup_cons_eq_ite, lookup_cons_eq_ite, ih hrest]
      by_cases hn : n = first
      · subst hn
        rw [if_pos rfl, if_pos rfl, if_neg hname]
      · rw [if_neg hn, if_neg hn]

/-- Without what stands at `p`, the files are those at paths that do not go through `p`. -/
theorem at?_without {t : FileTree} (h : t.HasUniqueNames) (p q : Path) (c : ByteArray) :
    ((t.without p).bind fun t => t.at? q) = some (file c)
      ↔ ¬ p <+: q ∧ t.at? q = some (file c) := by
  induction p generalizing t q with
  | nil => simp [without]
  | cons name p ih =>
    cases h with
    | file content =>
      rw [without, Option.bind_some]
      refine ⟨fun hq => ⟨?_, hq⟩, fun hq => hq.2⟩
      rintro ⟨rest, rfl⟩
      rw [List.cons_append, at?_file_cons] at hq
      exact absurd hq (by simp)
    | directory entries distinct inside =>
      rw [without, Option.bind_some]
      cases q with
      | nil => simp [at?]
      | cons n q =>
        rw [at?_directory_cons, at?_directory_cons, lookup_alterEntry distinct]
        by_cases hn : n = name
        · subst hn
          rw [if_pos rfl, List.cons_prefix_cons, eq_self, true_and]
          cases hlookup : entries.lookup n with
          | none => simp
          | some child => exact ih (inside (n, child) (mem_of_lookup hlookup)) q
        · rw [if_neg hn, List.cons_prefix_cons]
          simp [Ne.symm hn]

end Watchpost.FileTree

import Mathlib.Data.List.Nodup
import Watchpost.RuleFile
import Watchpost.Proofs.FileTree

set_option autoImplicit false

/-! # What a scan finds

A scan finds files of the tree, each at the path under which it says so, and none twice. What it
makes of a file depends on the path of that file alone: without what stands at a path, the scan
finds what it found elsewhere, in the same order. -/

namespace Watchpost.RuleLoad

open FileTree (Path Name HasUniqueNames alterEntry)

namespace Found

/-- The paths of all that was found. -/
def paths (found : Found) : List Path :=
  found.files.map Prod.fst ++ found.skipped.map Prod.fst

/-- What was found at the paths that pass a test. -/
def filter (keep : Path → Bool) (found : Found) : Found :=
  ⟨found.files.filter fun x => keep x.1, found.skipped.filter fun x => keep x.1⟩

theorem filter_append (keep : Path → Bool) (a b : Found) :
    (a.append b).filter keep = (a.filter keep).append (b.filter keep) := by
  simp [filter, append, List.filter_append]

theorem filter_eq_self {keep : Path → Bool} {found : Found}
    (h : ∀ p ∈ found.paths, keep p = true) : found.filter keep = found := by
  have hfiles : (found.files.filter fun x => keep x.1) = found.files :=
    List.filter_eq_self.2 fun x hx =>
      h x.1 (List.mem_append_left _ (List.mem_map_of_mem hx))
  have hskipped : (found.skipped.filter fun x => keep x.1) = found.skipped :=
    List.filter_eq_self.2 fun x hx =>
      h x.1 (List.mem_append_right _ (List.mem_map_of_mem hx))
  rw [filter, hfiles, hskipped]

theorem filter_eq_empty {keep : Path → Bool} {found : Found}
    (h : ∀ p ∈ found.paths, keep p = false) : found.filter keep = ⟨[], []⟩ := by
  have hfiles : (found.files.filter fun x => keep x.1) = [] :=
    List.filter_eq_nil_iff.2 fun x hx => by
      simp [h x.1 (List.mem_append_left _ (List.mem_map_of_mem hx))]
  have hskipped : (found.skipped.filter fun x => keep x.1) = [] :=
    List.filter_eq_nil_iff.2 fun x hx => by
      simp [h x.1 (List.mem_append_right _ (List.mem_map_of_mem hx))]
  rw [filter, hfiles, hskipped]

theorem paths_append_perm (a b : Found) : (a.append b).paths.Perm (a.paths ++ b.paths) := by
  simp only [paths, append, List.map_append]
  rw [List.append_assoc, List.append_assoc]
  refine List.Perm.append_left _ ?_
  rw [← List.append_assoc, ← List.append_assoc]
  exact List.Perm.append_right _ List.perm_append_comm

end Found

/-! ## Files at their paths -/

/-- All that was found are files of a tree, whose own path is `start`. -/
structure Found.IsIn (start : Path) (t : FileTree) (found : Found) : Prop where
  files_at : ∀ x ∈ found.files, ∃ p c, x = (start ++ p, .file c) ∧ t.at? p = some (.file c)
  skipped_at : ∀ x ∈ found.skipped, ∃ p c, x.1 = start ++ p ∧ t.at? p = some (.file c)

namespace Found.IsIn

variable {start : Path} {t child : FileTree} {a b : Found}

theorem empty (start : Path) (t : FileTree) : IsIn start t ⟨[], []⟩ where
  files_at := fun _ hx => absurd hx List.not_mem_nil
  skipped_at := fun _ hx => absurd hx List.not_mem_nil

theorem append (ha : IsIn start t a) (hb : IsIn start t b) : IsIn start t (a.append b) where
  files_at := fun x hx => (List.mem_append.1 hx).elim (ha.files_at x) (hb.files_at x)
  skipped_at := fun x hx => (List.mem_append.1 hx).elim (ha.skipped_at x) (hb.skipped_at x)

/-- What is in an entry is in the directory. -/
theorem up {entries : List (Name × FileTree)} {name : Name}
    (h : IsIn (start ++ [name]) child a) (hlookup : entries.lookup name = some child) :
    IsIn start (.directory entries) a where
  files_at := by
    intro x hx
    obtain ⟨p, c, rfl, hp⟩ := h.files_at x hx
    refine ⟨name :: p, c, by simp, ?_⟩
    rw [FileTree.at?_directory_cons, hlookup]
    exact hp
  skipped_at := by
    intro x hx
    obtain ⟨p, c, he, hp⟩ := h.skipped_at x hx
    refine ⟨name :: p, c, by simp [he], ?_⟩
    rw [FileTree.at?_directory_cons, hlookup]
    exact hp

theorem of_mem_paths (h : IsIn start t a) {q : Path} (hq : q ∈ a.paths) :
    ∃ p c, q = start ++ p ∧ t.at? p = some (.file c) := by
  rcases List.mem_append.1 hq with hq | hq
  · obtain ⟨x, hx, rfl⟩ := List.mem_map.1 hq
    obtain ⟨p, c, rfl, hp⟩ := h.files_at x hx
    exact ⟨p, c, rfl, hp⟩
  · obtain ⟨x, hx, rfl⟩ := List.mem_map.1 hq
    exact h.skipped_at x hx

end Found.IsIn

theorem foundFile_isIn (path : Path) (name : Name) (content : ByteArray) :
    (foundFile path name (.file content)).IsIn path (.file content) := by
  have hroot : (FileTree.file content).at? [] = some (.file content) := by rw [FileTree.at?]
  have hpath : path = path ++ [] := (List.append_nil path).symm
  unfold foundFile
  split
  · exact ⟨fun x hx => absurd hx List.not_mem_nil,
      fun x hx => ⟨[], content, by rw [List.mem_singleton.1 hx]; exact hpath, hroot⟩⟩
  · split
    · exact ⟨fun x hx => ⟨[], content, by rw [List.mem_singleton.1 hx, ← hpath], hroot⟩,
        fun x hx => absurd hx List.not_mem_nil⟩
    · exact ⟨fun x hx => absurd hx List.not_mem_nil,
        fun x hx => ⟨[], content, by rw [List.mem_singleton.1 hx]; exact hpath, hroot⟩⟩

theorem scanEntries_isIn {all entries : List (Name × FileTree)}
    (hall : ∀ entry ∈ entries, all.lookup entry.1 = some entry.2)
    (h : ∀ entry ∈ entries, ∀ dir name,
      (scanEntry dir name entry.2).IsIn (dir ++ [name]) entry.2) (dir : Path) :
    (scanEntries dir entries).IsIn dir (.directory all) := by
  induction entries with
  | nil => exact Found.IsIn.empty dir _
  | cons entry rest ih =>
    obtain ⟨name, child⟩ := entry
    have hfirst : (scanEntry dir name child).IsIn dir (.directory all) :=
      (h _ List.mem_cons_self dir name).up (hall _ List.mem_cons_self)
    exact hfirst.append (ih (fun entry hentry => hall entry (List.mem_cons_of_mem _ hentry))
      fun entry hentry => h entry (List.mem_cons_of_mem _ hentry))

theorem scanEntry_isIn {t : FileTree} (h : t.HasUniqueNames) (dir : Path) (name : Name) :
    (scanEntry dir name t).IsIn (dir ++ [name]) t := by
  induction h generalizing dir name with
  | file content => exact foundFile_isIn _ _ _
  | directory entries distinct inside ih =>
    rw [scanEntry]
    split
    · exact Found.IsIn.empty _ _
    · exact scanEntries_isIn (fun entry hentry => lookup_of_mem distinct hentry) ih _

/-- A scan finds files, each at its path. -/
theorem scan_isIn {t : FileTree} (h : t.HasUniqueNames) : (scan t).IsIn [] t := by
  cases h with
  | file content => exact Found.IsIn.empty _ _
  | directory entries distinct inside =>
    exact scanEntries_isIn (fun entry hentry => lookup_of_mem distinct hentry)
      (fun entry hentry => scanEntry_isIn (inside entry hentry)) []

theorem at?_of_mem_files {t : FileTree} (h : t.HasUniqueNames) {x : Path × FileTree}
    (hx : x ∈ (scan t).files) : t.at? x.1 = some x.2 := by
  obtain ⟨p, c, rfl, hp⟩ := (scan_isIn h).files_at x hx
  exact hp

theorem at?_of_mem_paths {t : FileTree} (h : t.HasUniqueNames) {p : Path}
    (hp : p ∈ (scan t).paths) : ∃ c, t.at? p = some (.file c) := by
  obtain ⟨q, c, rfl, hq⟩ := (scan_isIn h).of_mem_paths hp
  exact ⟨c, hq⟩

/-! ## Each file once -/

theorem nodup_paths_foundFile (path : Path) (name : Name) (f : FileTree) :
    (foundFile path name f).paths.Nodup := by
  unfold foundFile
  split
  · exact List.nodup_singleton path
  · split
    · exact List.nodup_singleton path
    · exact List.nodup_singleton path

theorem nodup_paths_scanEntries {entries : List (Name × FileTree)}
    (distinct : (entries.map Prod.fst).Nodup)
    (inside : ∀ entry ∈ entries, HasUniqueNames entry.2)
    (h : ∀ entry ∈ entries, ∀ dir name, (scanEntry dir name entry.2).paths.Nodup)
    (dir : Path) : (scanEntries dir entries).paths.Nodup := by
  induction entries with
  | nil => exact List.nodup_nil
  | cons entry rest ih =>
    obtain ⟨name, child⟩ := entry
    obtain ⟨hname, hrest⟩ := List.nodup_cons.1 distinct
    have hinside : ∀ entry ∈ rest, HasUniqueNames entry.2 :=
      fun entry hentry => inside entry (List.mem_cons_of_mem _ hentry)
    rw [scanEntries, (Found.paths_append_perm _ _).nodup_iff]
    refine List.nodup_append'.2 ⟨h _ List.mem_cons_self dir name,
      ih hrest hinside fun entry hentry => h entry (List.mem_cons_of_mem _ hentry), ?_⟩
    -- A path in both would go through this entry and through one of the others.
    intro q hq hq'
    obtain ⟨p, c, rfl, hp⟩ :=
      (scanEntry_isIn (inside _ List.mem_cons_self) dir name).of_mem_paths hq
    obtain ⟨p', c', he, hp'⟩ := (scanEntries_isIn
      (fun entry hentry => lookup_of_mem hrest hentry)
      (fun entry hentry => scanEntry_isIn (hinside entry hentry)) dir).of_mem_paths hq'
    rw [List.append_assoc, List.append_cancel_left_eq] at he
    subst he
    rw [List.singleton_append, FileTree.at?_directory_cons,
      lookup_eq_none_of_not_mem hname] at hp'
    exact absurd hp' (by simp)

theorem nodup_paths_scanEntry {t : FileTree} (h : t.HasUniqueNames) (dir : Path)
    (name : Name) : (scanEntry dir name t).paths.Nodup := by
  induction h generalizing dir name with
  | file content => exact nodup_paths_foundFile _ _ _
  | directory entries distinct inside ih =>
    rw [scanEntry]
    split
    · exact List.nodup_nil
    · exact nodup_paths_scanEntries distinct inside ih _

/-- A scan finds no file twice. -/
theorem nodup_paths_scan {t : FileTree} (h : t.HasUniqueNames) : (scan t).paths.Nodup := by
  cases h with
  | file content => exact List.nodup_nil
  | directory entries distinct inside =>
    exact nodup_paths_scanEntries distinct inside
      (fun entry hentry => nodup_paths_scanEntry (inside entry hentry)) []

/-! ## Without what stands at a path -/

/-- Whether a path does not lead through another. -/
def avoids (p q : Path) : Bool :=
  !p.isPrefixOf q

theorem avoids_eq_true {p q : Path} : avoids p q = true ↔ ¬ p <+: q := by
  rw [avoids, Bool.not_eq_true', ← Bool.not_eq_true, List.isPrefixOf_iff_prefix]

theorem avoids_eq_false {p q : Path} : avoids p q = false ↔ p <+: q := by
  rw [avoids, Bool.not_eq_false', List.isPrefixOf_iff_prefix]

theorem scanEntries_alterEntry {p : Path}
    (h : ∀ t : FileTree, t.HasUniqueNames → ∀ dir name,
      (t.without p).elim ⟨[], []⟩ (scanEntry dir name)
        = (scanEntry dir name t).filter (avoids (dir ++ name :: p)))
    {entries : List (Name × FileTree)} (inside : ∀ entry ∈ entries, HasUniqueNames entry.2)
    (dir : Path) (n : Name) :
    scanEntries dir (alterEntry n (FileTree.without p) entries)
      = (scanEntries dir entries).filter (avoids (dir ++ n :: p)) := by
  induction entries with
  | nil => rfl
  | cons entry rest ih =>
    obtain ⟨name, child⟩ := entry
    have hchild : child.HasUniqueNames := inside _ List.mem_cons_self
    have hrest := ih fun entry hentry => inside entry (List.mem_cons_of_mem _ hentry)
    rw [scanEntries, Found.filter_append, ← hrest]
    by_cases hname : name = n
    · subst hname
      rw [FileTree.alterEntry_cons_self, ← h child hchild dir name]
      cases child.without p with
      | none => rfl
      | some left => rfl
    · -- What stands below another name is not reached through `n`.
      have hself : (scanEntry dir name child).filter (avoids (dir ++ n :: p))
          = scanEntry dir name child := by
        refine Found.filter_eq_self fun q hq => avoids_eq_true.2 ?_
        obtain ⟨below, c, rfl, -⟩ := (scanEntry_isIn hchild dir name).of_mem_paths hq
        rw [List.append_assoc, List.prefix_append_right_inj, List.singleton_append,
          List.cons_prefix_cons]
        exact fun hprefix => hname hprefix.1.symm
      rw [FileTree.alterEntry_cons_of_ne hname, scanEntries, hself]

theorem scanEntry_without {t : FileTree} (h : t.HasUniqueNames) (p dir : Path) (name : Name) :
    (t.without p).elim ⟨[], []⟩ (scanEntry dir name)
      = (scanEntry dir name t).filter (avoids (dir ++ name :: p)) := by
  induction p generalizing t dir name with
  | nil =>
    refine (Found.filter_eq_empty fun q hq => avoids_eq_false.2 ?_).symm
    obtain ⟨below, c, rfl, -⟩ := (scanEntry_isIn h dir name).of_mem_paths hq
    exact List.prefix_append _ _
  | cons n p ih =>
    have hscan := scanEntry_isIn h dir name
    cases h with
    | file content =>
      refine (Found.filter_eq_self fun q hq => avoids_eq_true.2 ?_).symm
      obtain ⟨below, c, rfl, hbelow⟩ := hscan.of_mem_paths hq
      cases below with
      | nil => simp
      | cons m below =>
        rw [FileTree.at?_file_cons] at hbelow
        exact absurd hbelow (by simp)
    | directory entries distinct inside =>
      rw [FileTree.without, Option.elim_some, scanEntry, scanEntry]
      split
      · rfl
      · rw [scanEntries_alterEntry (fun t ht dir name => ih ht dir name) inside,
          List.append_assoc, List.singleton_append]

/-- Without what stands at a path, a scan finds what it found elsewhere. -/
theorem scan_without {t : FileTree} (h : t.HasUniqueNames) (p : Path) :
    (t.without p).elim ⟨[], []⟩ scan = (scan t).filter (avoids p) := by
  cases p with
  | nil =>
    refine (Found.filter_eq_empty fun q _ => avoids_eq_false.2 List.nil_prefix).symm
  | cons n p =>
    cases h with
    | file content => rfl
    | directory entries distinct inside =>
      exact scanEntries_alterEntry (fun t ht dir name => scanEntry_without ht p dir name) inside
        [] n

end Watchpost.RuleLoad

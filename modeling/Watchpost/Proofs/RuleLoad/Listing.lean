import Watchpost.Proofs.RuleLoad.Contents

set_option autoImplicit false

/-! # The order in which directories are listed

A file system lists the entries of a directory in any order, and a scan goes through them as they
are listed. So two listings of one tree give the same files in different orders. Sorting takes the
difference away before any file is used: which of two files with a common identifier comes first,
and hence which one fails, is decided by their paths alone. What remains is the order in which the
files that are passed over are reported (`RuleLoad.ofTree_of_relisted`). -/

namespace Watchpost

/-- Two listings of one tree. A directory has the same names in both, in any order, and under each
    name two listings of one tree: `inner` has the second one for each entry. -/
inductive FileTree.Relisted : FileTree → FileTree → Prop
  | file (content : ByteArray) : Relisted (.file content) (.file content)
  | directory {entries listed : List (FileTree.Name × FileTree)}
    (inner : FileTree.Name × FileTree → FileTree)
    (inside : ∀ entry ∈ entries, Relisted entry.2 (inner entry))
    (perm : listed.Perm (entries.map fun entry => (entry.1, inner entry))) :
    Relisted (.directory entries) (.directory listed)

namespace RuleLoad

open FileTree (Path Name)

/-! ## What a scan finds in two listings -/

/-- The same was found, in any order. -/
structure Found.Perm (a b : Found) : Prop where
  files : a.files.Perm b.files
  skipped : a.skipped.Perm b.skipped

namespace Found.Perm

variable {a b c d : Found}

theorem refl (a : Found) : Found.Perm a a :=
  ⟨.refl _, .refl _⟩

theorem trans (hab : Found.Perm a b) (hbc : Found.Perm b c) : Found.Perm a c :=
  ⟨hab.files.trans hbc.files, hab.skipped.trans hbc.skipped⟩

theorem append (hab : Found.Perm a b) (hcd : Found.Perm c d) :
    Found.Perm (a.append c) (b.append d) :=
  ⟨hab.files.append hcd.files, hab.skipped.append hcd.skipped⟩

theorem swap (a b c : Found) : Found.Perm (b.append (a.append c)) (a.append (b.append c)) where
  files := by
    simp only [Found.append, ← List.append_assoc]
    exact List.perm_append_comm.append_right c.files
  skipped := by
    simp only [Found.append, ← List.append_assoc]
    exact List.perm_append_comm.append_right c.skipped

end Found.Perm

theorem scanEntries_perm (dir : Path) {entries listed : List (Name × FileTree)}
    (h : entries.Perm listed) : (scanEntries dir entries).Perm (scanEntries dir listed) := by
  induction h with
  | nil => exact .refl _
  | cons entry _ ih =>
    rw [scanEntries, scanEntries]
    exact (Found.Perm.refl _).append ih
  | swap entry other rest =>
    simp only [scanEntries]
    exact .swap _ _ _
  | trans _ _ ih ih' => exact ih.trans ih'

theorem scanEntries_map {inner : Name × FileTree → FileTree}
    {entries : List (Name × FileTree)}
    (h : ∀ entry ∈ entries, ∀ dir name,
      (scanEntry dir name entry.2).Perm (scanEntry dir name (inner entry))) (dir : Path) :
    (scanEntries dir entries).Perm
      (scanEntries dir (entries.map fun entry => (entry.1, inner entry))) := by
  induction entries with
  | nil => exact .refl _
  | cons entry rest ih =>
    rw [List.map_cons, scanEntries, scanEntries]
    exact (h _ List.mem_cons_self dir entry.1).append
      (ih fun entry hentry => h entry (List.mem_cons_of_mem _ hentry))

theorem scanEntries_of_relisted {inner : Name × FileTree → FileTree}
    {entries listed : List (Name × FileTree)}
    (h : ∀ entry ∈ entries, ∀ dir name,
      (scanEntry dir name entry.2).Perm (scanEntry dir name (inner entry)))
    (hperm : listed.Perm (entries.map fun entry => (entry.1, inner entry))) (dir : Path) :
    (scanEntries dir entries).Perm (scanEntries dir listed) :=
  (scanEntries_map h dir).trans (scanEntries_perm dir hperm.symm)

theorem scanEntry_of_relisted {t t' : FileTree} (h : t.Relisted t') (dir : Path)
    (name : Name) : (scanEntry dir name t).Perm (scanEntry dir name t') := by
  induction h generalizing dir name with
  | file content => exact .refl _
  | directory inner inside perm ih =>
    rw [scanEntry, scanEntry]
    split
    · exact .refl _
    · exact scanEntries_of_relisted ih perm _

/-- A scan finds the same in two listings of one tree, in any order. -/
theorem scan_of_relisted {t t' : FileTree} (h : t.Relisted t') : (scan t).Perm (scan t') := by
  cases h with
  | file content => exact .refl _
  | directory inner inside perm =>
    exact scanEntries_of_relisted
      (fun entry hentry => scanEntry_of_relisted (inside entry hentry)) perm []

theorem sortFiles_of_perm {files listed : List (Path × FileTree)}
    (hdistinct : (files.map Prod.fst).Nodup) (h : listed.Perm files) :
    sortFiles listed = sortFiles files :=
  eq_sortFiles hdistinct ((sortFiles_perm listed).trans h) (pairwise_sortFiles listed)

/-! ## What is loaded from two listings -/

/-- Whether a file was passed over. -/
def Status.isSkipped : Status → Bool
  | .skipped _ => true
  | _ => false

/-- A file that is used or fails is not passed over. -/
theorem isSkipped_of_mem_loadFiles {seen : List String} {files : List (Path × FileTree)}
    {x : Path × Status} (h : x ∈ (loadFiles seen files).results) : x.2.isSkipped = false := by
  induction files generalizing seen with
  | nil => exact absurd h List.not_mem_nil
  | cons y rest ih =>
    obtain ⟨path, f⟩ := y
    cases huse : useFile seen f with
    | error e =>
      rw [loadFiles_of_error huse] at h
      rcases List.mem_cons.1 h with rfl | hrest
      · rfl
      · exact ih hrest
    | ok file =>
      rw [loadFiles_of_ok huse] at h
      rcases List.mem_cons.1 h with rfl | hrest
      · rfl
      · exact ih hrest

/-- The reports on files that were used or failed. -/
theorem filter_not_isSkipped_ofTree (t : FileTree) :
    ((ofTree (some t)).results.filter fun x => !x.2.isSkipped)
      = (loadFiles [] (sortFiles (scan t).files)).results := by
  rw [ofTree_eq, Option.elim_some, List.filter_append, List.filter_map,
    List.filter_eq_nil_iff.2 (by simp [Status.isSkipped]),
    List.filter_eq_self.2 fun x hx => by rw [isSkipped_of_mem_loadFiles hx]; rfl]
  rfl

/-- The reports on files that were passed over. -/
theorem filter_isSkipped_ofTree (t : FileTree) :
    ((ofTree (some t)).results.filter fun x => x.2.isSkipped)
      = (scan t).skipped.map fun x => (x.1, .skipped x.2) := by
  rw [ofTree_eq, Option.elim_some, List.filter_append, List.filter_map,
    List.filter_eq_self.2 (by simp [Status.isSkipped]),
    List.filter_eq_nil_iff.2 fun x hx => by rw [isSkipped_of_mem_loadFiles hx]; simp,
    List.append_nil]

/-- **What is loaded does not depend on the order in which directories are listed.** Two listings of
    one tree have the same rules in the same order, and the same reports in the same order on the
    files that were used or failed; the reports on the files that were passed over are the same up
    to their order. -/
theorem ofTree_of_relisted {t t' : FileTree} (hunique : t.HasUniqueNames) (h : t.Relisted t') :
    (ofTree (some t')).rules = (ofTree (some t)).rules ∧
      ((ofTree (some t')).results.filter fun x => !x.2.isSkipped)
        = ((ofTree (some t)).results.filter fun x => !x.2.isSkipped) ∧
      ((ofTree (some t')).results.filter fun x => x.2.isSkipped).Perm
        ((ofTree (some t)).results.filter fun x => x.2.isSkipped) := by
  have hscan := scan_of_relisted h
  have hdistinct : ((scan t).files.map Prod.fst).Nodup :=
    (List.nodup_append'.1 (nodup_paths_scan hunique)).1
  have hsorted : sortFiles (scan t').files = sortFiles (scan t).files :=
    sortFiles_of_perm hdistinct hscan.files.symm
  refine ⟨?_, ?_, ?_⟩
  · rw [ofTree_eq, ofTree_eq, Option.elim_some, Option.elim_some, hsorted]
  · rw [filter_not_isSkipped_ofTree, filter_not_isSkipped_ofTree, hsorted]
  · rw [filter_isSkipped_ofTree, filter_isSkipped_ofTree]
    exact hscan.skipped.symm.map _

/-- The directory of `overlappingFiles` in another order. -/
def overlappingFilesRelisted : FileTree :=
  .directory
    [("c.yml", plainFile ["two"]), ("b.yml", plainFile ["two", "one"]),
      ("a", .directory [("one.yml", plainFile ["one"])])]

theorem relisted_overlappingFiles : overlappingFiles.Relisted overlappingFilesRelisted := by
  refine .directory Prod.snd (fun entry hentry => ?_) (List.perm_append_singleton _ _).symm
  simp only [List.mem_cons, List.not_mem_nil, or_false] at hentry
  rcases hentry with rfl | rfl | rfl
  · exact .file _
  · refine .directory Prod.snd (fun entry hentry => ?_) (.refl _)
    rw [List.mem_singleton.1 hentry]
    exact .file _
  · exact .file _

/-- Three rule files that share identifiers, and two files that are passed over: listed in two ways,
    the scans find them in different orders. -/
theorem ofTree_of_relisted_overlappingFiles :
    let note := FileTree.file ⟨#[]⟩
    let t := FileTree.directory [(".keep", note), ("rules", overlappingFiles), ("notes.txt", note)]
    let t' := FileTree.directory
      [("notes.txt", note), ("rules", overlappingFilesRelisted), (".keep", note)]
    (scan t).paths = ([["rules", "b.yml"], ["rules", "a", "one.yml"], ["rules", "c.yml"],
        [".keep"], ["notes.txt"]] : List Path) ∧
      (scan t').paths = ([["rules", "c.yml"], ["rules", "b.yml"], ["rules", "a", "one.yml"],
        ["notes.txt"], [".keep"]] : List Path) ∧
      t.HasUniqueNames ∧ t.Relisted t' ∧
      (ofTree (some t')).rules = (ofTree (some t)).rules ∧
      ((ofTree (some t')).results.filter fun x => !x.2.isSkipped)
        = ((ofTree (some t)).results.filter fun x => !x.2.isSkipped) ∧
      ((ofTree (some t')).results.filter fun x => x.2.isSkipped).Perm
        ((ofTree (some t)).results.filter fun x => x.2.isSkipped) := by
  intro note t t'
  have hunique : t.HasUniqueNames := by
    simp [t, note, hasUniqueNames_overlappingFiles]
  have hrelisted : t.Relisted t' := by
    refine .directory
      (fun entry => if entry.1 = "rules" then overlappingFilesRelisted else entry.2)
      (fun entry hentry => ?_) ?_
    · simp only [List.mem_cons, List.not_mem_nil, or_false] at hentry
      rcases hentry with rfl | rfl | rfl
      · exact .file _
      · exact relisted_overlappingFiles
      · exact .file _
    · exact List.reverse_perm
        ([(".keep", note), ("rules", overlappingFilesRelisted), ("notes.txt", note)]
          : List (Name × FileTree))
  exact ⟨by decide, by decide, hunique, hrelisted, ofTree_of_relisted hunique hrelisted⟩

end RuleLoad

end Watchpost

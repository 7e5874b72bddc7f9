import Watchpost.Proofs.RuleFile
import Watchpost.Proofs.RuleLoad.Scan

set_option autoImplicit false

/-! # Files one after another

Files are put into the order of their paths and loaded one after another. A file that fails leaves
the rules and the identifiers seen so far as they were; one that is used adds its rules, whose
identifiers are new. Each file is reported once, in that order. -/

namespace Watchpost.RuleLoad

open FileTree (Path pathAtMost)

/-! ## The order of files -/

theorem sortFiles_perm (files : List (Path × FileTree)) : (sortFiles files).Perm files :=
  List.mergeSort_perm files _

theorem pairwise_sortFiles (files : List (Path × FileTree)) :
    (sortFiles files).Pairwise fun a b => pathAtMost a.1 b.1 = true :=
  @List.pairwise_mergeSort _ (fun a b => pathAtMost a.1 b.1)
    (fun _ _ _ => FileTree.pathAtMost_trans)
    (fun a b => FileTree.pathAtMost_total a.1 b.1) files

/-- Files with different paths have one order. -/
theorem eq_sortFiles {files sorted : List (Path × FileTree)}
    (hdistinct : (files.map Prod.fst).Nodup) (hperm : sorted.Perm files)
    (hsorted : sorted.Pairwise fun a b => pathAtMost a.1 b.1 = true) :
    sorted = sortFiles files := by
  refine (hperm.trans (sortFiles_perm files).symm).eq_of_pairwise ?_ hsorted
    (pairwise_sortFiles files)
  intro a b ha hb hab hba
  exact List.inj_on_of_nodup_map hdistinct (hperm.mem_iff.1 ha)
    ((sortFiles_perm files).mem_iff.1 hb) (FileTree.pathAtMost_antisymm hab hba)

theorem sortFiles_filter {files : List (Path × FileTree)}
    (hdistinct : (files.map Prod.fst).Nodup) (keep : Path × FileTree → Bool) :
    sortFiles (files.filter keep) = (sortFiles files).filter keep :=
  (eq_sortFiles (hdistinct.sublist (List.filter_sublist.map Prod.fst))
    ((sortFiles_perm files).filter keep)
    ((pairwise_sortFiles files).sublist List.filter_sublist)).symm

/-! ## One file -/

/-- A file can be used if it is usable by itself and its identifiers are new. -/
theorem useFile_eq_ok_iff (seen : List String) (f : FileTree) (file : RuleFile) :
    useFile seen f = .ok file ↔
      RuleFile.ofFile (some f) = .ok file ∧ ∀ r ∈ file.rules, r.id ∉ seen := by
  unfold useFile
  cases RuleFile.ofFile (some f) with
  | error e => simp
  | ok used =>
    cases hfind : used.rules.find? fun r => seen.contains r.id with
    | none =>
      have hnew : ∀ r ∈ used.rules, r.id ∉ seen := by simpa using hfind
      simp only [hfind, Except.ok.injEq]
      constructor
      · rintro rfl
        exact ⟨rfl, hnew⟩
      · exact fun h => h.1
    | some r =>
      have hseen : r.id ∈ seen := by simpa using List.find?_some hfind
      simp only [hfind, reduceCtorEq, Except.ok.injEq, false_iff, not_and, not_forall, not_not]
      rintro rfl
      exact ⟨r, List.mem_of_find?_eq_some hfind, hseen⟩

variable {seen : List String} {path : Path} {f : FileTree}

theorem loadFiles_of_error {e : RuleFile.Error} (h : useFile seen f = .error e)
    (rest : List (Path × FileTree)) :
    loadFiles seen ((path, f) :: rest)
      = ⟨(loadFiles seen rest).rules, (path, .failed e) :: (loadFiles seen rest).results⟩ := by
  rw [loadFiles, h]

theorem loadFiles_of_ok {file : RuleFile} (h : useFile seen f = .ok file)
    (rest : List (Path × FileTree)) :
    loadFiles seen ((path, f) :: rest)
      = ⟨file.rules ++ (loadFiles (seen ++ file.rules.map (·.id)) rest).rules,
          (path, .loaded (file.rules.map (·.id)) file.disabled)
            :: (loadFiles (seen ++ file.rules.map (·.id)) rest).results⟩ := by
  rw [loadFiles, h]

/-! ## All files -/

/-- Every file is reported, in order. -/
theorem map_fst_results_loadFiles (seen : List String) (files : List (Path × FileTree)) :
    (loadFiles seen files).results.map Prod.fst = files.map Prod.fst := by
  induction files generalizing seen with
  | nil => rfl
  | cons x rest ih =>
    obtain ⟨path, f⟩ := x
    cases huse : useFile seen f with
    | error e => rw [loadFiles_of_error huse, List.map_cons, ih, List.map_cons]
    | ok file => rw [loadFiles_of_ok huse, List.map_cons, ih, List.map_cons]

/-- What is loaded from a directory, if there is one, comes from the files that a scan finds. -/
theorem ofTree_eq (root : Option FileTree) :
    ofTree root
      = ⟨(loadFiles [] (sortFiles (root.elim ⟨[], []⟩ scan).files)).rules,
          (root.elim ⟨[], []⟩ scan).skipped.map (fun x => (x.1, .skipped x.2))
            ++ (loadFiles [] (sortFiles (root.elim ⟨[], []⟩ scan).files)).results⟩ := by
  cases root with
  | none => simp [ofTree, sortFiles, loadFiles]
  | some t => rfl

/-- The files reported are those found, the ones that were used or failed in another order. -/
theorem map_fst_results_ofTree_perm (t : FileTree) :
    ((ofTree (some t)).results.map Prod.fst).Perm (scan t).paths := by
  rw [ofTree_eq, Option.elim_some, List.map_append, map_fst_results_loadFiles, List.map_map,
    Found.paths]
  exact List.perm_append_comm.trans (((sortFiles_perm _).map Prod.fst).append_right _)

end Watchpost.RuleLoad

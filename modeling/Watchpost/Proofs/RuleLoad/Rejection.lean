import Watchpost.Proofs.RuleLoad.Contents

set_option autoImplicit false

/-! # Files that fail

A file that fails leaves no trace. Whatever the reason, and however many of its identifiers are new,
the directory without it has the same rules, and every other file fares as before:
`RuleLoad.ofTree_without_failed`. -/

namespace Watchpost.RuleLoad

open FileTree (Path)

theorem not_mem_results_loadFiles {path : Path} {rest : List (Path × FileTree)}
    (h : path ∉ rest.map Prod.fst) (seen : List String) (status : Status) :
    (path, status) ∉ (loadFiles seen rest).results := by
  intro hmem
  rw [← map_fst_results_loadFiles seen rest] at h
  exact h (List.mem_map_of_mem hmem)

/-- Without a file that fails, the others are loaded as before. -/
theorem loadFiles_without_failed {p : Path} {e : RuleFile.Error} (seen : List String)
    {files : List (Path × FileTree)} (hdistinct : (files.map Prod.fst).Nodup)
    (h : (p, .failed e) ∈ (loadFiles seen files).results) :
    loadFiles seen (files.filter fun x => x.1 ≠ p)
      = ⟨(loadFiles seen files).rules,
          (loadFiles seen files).results.filter fun x => x.1 ≠ p⟩ := by
  induction files generalizing seen with
  | nil => exact absurd h List.not_mem_nil
  | cons x rest ih =>
    obtain ⟨path, f⟩ := x
    obtain ⟨hpath, hrest⟩ := List.nodup_cons.1 hdistinct
    by_cases hp : path = p
    · subst hp
      have hfiles : (rest.filter fun x => x.1 ≠ path) = rest :=
        List.filter_eq_self.2 fun x hx =>
          decide_eq_true fun he => hpath (List.mem_map.2 ⟨x, hx, he⟩)
      rw [List.filter_cons_of_neg (by simp), hfiles]
      cases huse : useFile seen f with
      | error e' =>
        have hresults : ((loadFiles seen rest).results.filter fun x => x.1 ≠ path)
            = (loadFiles seen rest).results :=
          List.filter_eq_self.2 fun x hx => decide_eq_true fun he =>
            not_mem_results_loadFiles hpath seen x.2 (he ▸ hx)
        rw [loadFiles_of_error huse, List.filter_cons_of_neg (by simp), hresults]
      | ok file =>
        -- The one report on this path is that of a file that was used.
        rw [loadFiles_of_ok huse] at h
        rcases List.mem_cons.1 h with he | hmem
        · simp at he
        · exact absurd hmem (not_mem_results_loadFiles hpath _ _)
    · rw [List.filter_cons_of_pos (by simpa using hp)]
      cases huse : useFile seen f with
      | error e' =>
        rw [loadFiles_of_error huse] at h ⊢
        have hmem := (List.mem_cons.1 h).resolve_left fun he => hp (congrArg Prod.fst he).symm
        rw [loadFiles_of_error huse, ih seen hrest hmem,
          List.filter_cons_of_pos (by simpa using hp)]
      | ok file =>
        rw [loadFiles_of_ok huse] at h ⊢
        have hmem := (List.mem_cons.1 h).resolve_left fun he => hp (congrArg Prod.fst he).symm
        rw [loadFiles_of_ok huse, ih _ hrest hmem, List.filter_cons_of_pos (by simpa using hp)]

/-- The path of a report is that of something found. -/
theorem mem_paths_of_mem_results {t : FileTree} {path : Path} {status : Status}
    (h : (path, status) ∈ (ofTree (some t)).results) : path ∈ (scan t).paths :=
  (map_fst_results_ofTree_perm t).mem_iff.1 (List.mem_map_of_mem h)

/-- Where a file stands, a path avoids it if it is another one, among all that was found. -/
theorem avoids_eq_decide_ne {t : FileTree} (h : t.HasUniqueNames) {p q : Path}
    (hp : p ∈ (scan t).paths) (hq : q ∈ (scan t).paths) : avoids p q = decide (q ≠ p) := by
  obtain ⟨c, hc⟩ := at?_of_mem_paths h hp
  obtain ⟨d, hd⟩ := at?_of_mem_paths h hq
  by_cases hne : q = p
  · subst hne
    rw [avoids_eq_false.2 List.prefix_rfl, decide_eq_false (not_not.2 rfl)]
  · rw [avoids_eq_true.2 fun hprefix =>
      hne (FileTree.eq_of_prefix_of_at?_file hprefix hc hd).symm, decide_eq_true hne]

/-- **A file that fails leaves no trace.** In the tree without it, all other files stand where they
    were; the rules loaded are the same, and so is what is reported about the other files. -/
theorem ofTree_without_failed {t : FileTree} (h : t.HasUniqueNames) {p : Path}
    {e : RuleFile.Error} (hp : (p, .failed e) ∈ (ofTree (some t)).results) :
    (∀ q c, ((t.without p).bind fun t => t.at? q) = some (.file c)
        ↔ q ≠ p ∧ t.at? q = some (.file c)) ∧
      (ofTree (t.without p)).rules = (ofTree (some t)).rules ∧
      (ofTree (t.without p)).results
        = (ofTree (some t)).results.filter fun x => x.1 ≠ p := by
  have hpath : p ∈ (scan t).paths := mem_paths_of_mem_results hp
  have hdistinct : ((scan t).files.map Prod.fst).Nodup :=
    (List.nodup_append'.1 (nodup_paths_scan h)).1
  -- What a scan of the tree without the file finds.
  have hfiles : ((scan t).filter (avoids p)).files = (scan t).files.filter fun x => x.1 ≠ p :=
    List.filter_congr fun x hx =>
      avoids_eq_decide_ne h hpath (List.mem_append_left _ (List.mem_map_of_mem hx))
  have hskipped : ((scan t).filter (avoids p)).skipped
      = (scan t).skipped.filter fun x => x.1 ≠ p :=
    List.filter_congr fun x hx =>
      avoids_eq_decide_ne h hpath (List.mem_append_right _ (List.mem_map_of_mem hx))
  -- A file that is passed over does not fail.
  have hfailed : (p, .failed e) ∈ (loadFiles [] (sortFiles (scan t).files)).results := by
    rw [ofTree_eq] at hp
    refine (List.mem_append.1 hp).resolve_left fun hmem => ?_
    obtain ⟨x, -, he⟩ := List.mem_map.1 hmem
    simp at he
  have hload := loadFiles_without_failed []
    (((sortFiles_perm _).map Prod.fst).nodup_iff.2 hdistinct) hfailed
  refine ⟨fun q c => ?_, ?_, ?_⟩
  · obtain ⟨d, hd⟩ := at?_of_mem_paths h hpath
    rw [FileTree.at?_without h]
    refine and_congr_left fun hq => not_congr ⟨fun hprefix => ?_, ?_⟩
    · exact (FileTree.eq_of_prefix_of_at?_file hprefix hd hq).symm
    · rintro rfl
      exact List.prefix_rfl
  · rw [ofTree_eq, ofTree_eq, scan_without h, hfiles, sortFiles_filter hdistinct, hload,
      Option.elim_some]
  · rw [ofTree_eq, ofTree_eq, scan_without h, hfiles, hskipped, sortFiles_filter hdistinct, hload,
      Option.elim_some, List.filter_append, List.filter_map]
    rfl

/-- Without the second file, which fails, the other two are used as before. -/
theorem overlappingFiles_without_failed :
    overlappingFiles.HasUniqueNames ∧
      ((["b.yml"], .failed (.definedEarlier "one")) : Path × Status)
        ∈ (ofTree (some overlappingFiles)).results ∧
      (ofTree (overlappingFiles.without ["b.yml"])).rules
        = (ofTree (some overlappingFiles)).rules ∧
      (ofTree (overlappingFiles.without ["b.yml"])).results
        = ([(["a", "one.yml"], .loaded ["one"] 0), (["c.yml"], .loaded ["two"] 0)]
            : List (Path × Status)) := by
  have hmem : ((["b.yml"], .failed (.definedEarlier "one")) : Path × Status)
      ∈ (ofTree (some overlappingFiles)).results := by
    rw [results_overlappingFiles]
    simp
  obtain ⟨-, hrules, hresults⟩ := ofTree_without_failed hasUniqueNames_overlappingFiles hmem
  refine ⟨hasUniqueNames_overlappingFiles, hmem, hrules, ?_⟩
  rw [hresults, results_overlappingFiles]
  rfl

end Watchpost.RuleLoad

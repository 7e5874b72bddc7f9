import Watchpost.Proofs.RuleLoad.Files

set_option autoImplicit false

/-! # Where loaded rules come from

The rules of a directory are the enabled rules of the files that were used, file after file in the
order of paths. All of them are sound, and no two have the same identifier: within a file because
the file was checked, and in different files because a file with an identifier seen before is not
used. `RuleLoad.ComesFrom` says so, and `RuleLoad.comesFrom_ofTree` says that it holds of every
directory. -/

namespace Watchpost.RuleLoad

open FileTree (Path pathAtMost)

/-- A file that was used, with the identifiers reported for it. -/
def loadedFile? : Path × Status → Option (Path × List String)
  | (path, .loaded ids _) => some (path, ids)
  | _ => none

/-- The files that were used, in the order reported, with the identifiers reported for each. -/
def loaded (load : RuleLoad) : List (Path × List String) :=
  load.results.filterMap loadedFile?

/-- The rules that were loaded are those of the files that were used. -/
structure ComesFrom (root : Option FileTree) (load : RuleLoad) : Prop where
  sound : ∀ r ∈ load.rules, r.enabled = true ∧ r.fault? = none
  ids_distinct : (load.rules.map (·.id)).Nodup
  paths_sorted : (load.loaded.map Prod.fst).Pairwise fun p q => p ≠ q ∧ pathAtMost p q = true
  rules_eq : load.rules
    = load.loaded.flatMap fun x => RuleFile.enabledRules (root.bind fun t => t.at? x.1)
  ids_eq : load.loaded.flatMap Prod.snd = load.rules.map (·.id)

/-! ## Rules and identifiers -/

theorem sound_of_mem_loadFiles (seen : List String) (files : List (Path × FileTree)) :
    ∀ r ∈ (loadFiles seen files).rules, r.enabled = true ∧ r.fault? = none := by
  induction files generalizing seen with
  | nil => exact fun r hr => absurd hr List.not_mem_nil
  | cons x rest ih =>
    obtain ⟨path, f⟩ := x
    cases huse : useFile seen f with
    | error e =>
      rw [loadFiles_of_error huse]
      exact ih seen
    | ok file =>
      rw [loadFiles_of_ok huse]
      intro r hr
      rcases List.mem_append.1 hr with hr | hr
      · obtain ⟨source, -, htext⟩ :=
          (RuleFile.ofFile_eq_ok_iff _ _).1 ((useFile_eq_ok_iff _ _ _).1 huse).1
        exact (RuleFile.sound_of_ofText htext).1 r hr
      · exact ih _ r hr

/-- The identifiers of loaded rules are new and distinct. -/
theorem ids_loadFiles (seen : List String) (files : List (Path × FileTree)) :
    (∀ r ∈ (loadFiles seen files).rules, r.id ∉ seen) ∧
      ((loadFiles seen files).rules.map (·.id)).Nodup := by
  induction files generalizing seen with
  | nil => exact ⟨fun r hr => absurd hr List.not_mem_nil, List.nodup_nil⟩
  | cons x rest ih =>
    obtain ⟨path, f⟩ := x
    cases huse : useFile seen f with
    | error e =>
      rw [loadFiles_of_error huse]
      exact ih seen
    | ok file =>
      obtain ⟨hfile, hnew⟩ := (useFile_eq_ok_iff _ _ _).1 huse
      obtain ⟨source, -, htext⟩ := (RuleFile.ofFile_eq_ok_iff _ _).1 hfile
      obtain ⟨hlater, hdistinct⟩ := ih (seen ++ file.rules.map (·.id))
      rw [loadFiles_of_ok huse]
      constructor
      · intro r hr
        rcases List.mem_append.1 hr with hr | hr
        · exact hnew r hr
        · exact fun hseen => hlater r hr (List.mem_append_left _ hseen)
      · rw [List.map_append]
        refine List.nodup_append'.2 ⟨(RuleFile.sound_of_ofText htext).2, hdistinct, ?_⟩
        -- The identifiers of this file are seen when the files after it are loaded.
        intro id hid hid'
        obtain ⟨r, hr, rfl⟩ := List.mem_map.1 hid'
        exact hlater r hr (List.mem_append_right _ hid)

/-! ## The files that were used -/

theorem loaded_of_error {seen : List String} {path : Path} {f : FileTree} {e : RuleFile.Error}
    (h : useFile seen f = .error e) (rest : List (Path × FileTree)) :
    (loadFiles seen ((path, f) :: rest)).loaded = (loadFiles seen rest).loaded := by
  rw [loadFiles_of_error h]
  rfl

theorem loaded_of_ok {seen : List String} {path : Path} {f : FileTree} {file : RuleFile}
    (h : useFile seen f = .ok file) (rest : List (Path × FileTree)) :
    (loadFiles seen ((path, f) :: rest)).loaded
      = (path, file.rules.map (·.id))
          :: (loadFiles (seen ++ file.rules.map (·.id)) rest).loaded := by
  rw [loadFiles_of_ok h]
  rfl

/-- Files that are found at their paths give their enabled rules. -/
theorem rules_loadFiles {root : Option FileTree} (seen : List String)
    {files : List (Path × FileTree)}
    (h : ∀ x ∈ files, (root.bind fun t => t.at? x.1) = some x.2) :
    (loadFiles seen files).rules
      = (loadFiles seen files).loaded.flatMap fun x =>
          RuleFile.enabledRules (root.bind fun t => t.at? x.1) := by
  induction files generalizing seen with
  | nil => rfl
  | cons x rest ih =>
    obtain ⟨path, f⟩ := x
    have hrest := fun y hy => h y (List.mem_cons_of_mem _ hy)
    cases huse : useFile seen f with
    | error e =>
      rw [loaded_of_error huse, ← ih seen hrest, loadFiles_of_error huse]
    | ok file =>
      have hat : (root.bind fun t => t.at? path) = some f := h _ List.mem_cons_self
      rw [loaded_of_ok huse, List.flatMap_cons, ← ih _ hrest, loadFiles_of_ok huse, hat,
        ← RuleFile.rules_eq_enabledRules ((useFile_eq_ok_iff _ _ _).1 huse).1]

/-- The identifiers reported are those of the rules. -/
theorem ids_reported_loadFiles (seen : List String) (files : List (Path × FileTree)) :
    (loadFiles seen files).loaded.flatMap Prod.snd
      = (loadFiles seen files).rules.map (·.id) := by
  induction files generalizing seen with
  | nil => rfl
  | cons x rest ih =>
    obtain ⟨path, f⟩ := x
    cases huse : useFile seen f with
    | error e => rw [loaded_of_error huse, ih, loadFiles_of_error huse]
    | ok file =>
      rw [loaded_of_ok huse, List.flatMap_cons, ih, loadFiles_of_ok huse, List.map_append]

theorem paths_loaded_sublist (load : RuleLoad) :
    (load.loaded.map Prod.fst).Sublist (load.results.map Prod.fst) := by
  unfold loaded
  induction load.results with
  | nil => exact List.Sublist.slnil
  | cons x rest ih =>
    obtain ⟨path, status⟩ := x
    cases status with
    | loaded ids disabled => exact ih.cons_cons path
    | skipped reason => exact ih.cons path
    | failed e => exact ih.cons path

/-- Files that are passed over are not among those that were used. -/
theorem loaded_ofTree (root : Option FileTree) :
    (ofTree root).loaded
      = (loadFiles [] (sortFiles (root.elim ⟨[], []⟩ scan).files)).loaded := by
  have hskipped : ((root.elim ⟨[], []⟩ scan).skipped.map
      (fun x => (x.1, Status.skipped x.2))).filterMap loadedFile? = [] := by
    rw [List.filterMap_map]
    exact List.filterMap_eq_nil_iff.2 fun x _ => rfl
  rw [ofTree_eq, loaded, List.filterMap_append, hskipped, List.nil_append]
  rfl

/-! ## A whole directory -/

/-- **What is loaded from a directory comes from the files that were used.** Its rules are their
    enabled rules, in the order of paths; all are sound, and their identifiers are distinct. -/
theorem comesFrom_ofTree (root : Option FileTree) (h : ∀ t ∈ root, t.HasUniqueNames) :
    (ofTree root).ComesFrom root := by
  -- In the rules, files that are passed over do not show.
  have hrules : (ofTree root).rules
      = (loadFiles [] (sortFiles (root.elim ⟨[], []⟩ scan).files)).rules := by
    rw [ofTree_eq]
  have hat : ∀ x ∈ sortFiles (root.elim ⟨[], []⟩ scan).files,
      (root.bind fun t => t.at? x.1) = some x.2 := by
    intro x hx
    have hx := (sortFiles_perm _).mem_iff.1 hx
    cases root with
    | none => exact absurd hx List.not_mem_nil
    | some t => exact at?_of_mem_files (h t rfl) hx
  have hdistinct : ((root.elim ⟨[], []⟩ scan).files.map Prod.fst).Nodup := by
    cases root with
    | none => exact List.nodup_nil
    | some t => exact (List.nodup_append'.1 (nodup_paths_scan (h t rfl))).1
  constructor
  case sound =>
    rw [hrules]
    exact sound_of_mem_loadFiles _ _
  case ids_distinct =>
    rw [hrules]
    exact (ids_loadFiles _ _).2
  case paths_sorted =>
    rw [loaded_ofTree]
    refine List.Pairwise.sublist (paths_loaded_sublist _) ?_
    rw [map_fst_results_loadFiles]
    have hnodup := ((sortFiles_perm _).map Prod.fst).nodup_iff.2 hdistinct
    exact hnodup.and (List.pairwise_map.2 (pairwise_sortFiles _))
  case rules_eq =>
    rw [hrules, loaded_ofTree]
    exact rules_loadFiles [] hat
  case ids_eq =>
    rw [hrules, loaded_ofTree]
    exact ids_reported_loadFiles _ _

/-- A rule file whose rules differ in their identifiers only. -/
def plainFile (ids : List String) : FileTree :=
  .file (("rules:\n" ++ String.join (ids.map fun id =>
    "- id: " ++ id ++ "\n  name: n\n  severity: low\n  conditions:\n")).toUTF8)

/-- A directory with three rule files. The second one brings a new identifier and one that the
    first one has. -/
def overlappingFiles : FileTree :=
  .directory
    [("b.yml", plainFile ["two", "one"]), ("a", .directory [("one.yml", plainFile ["one"])]),
      ("c.yml", plainFile ["two"])]

theorem hasUniqueNames_overlappingFiles : overlappingFiles.HasUniqueNames := by
  simp [overlappingFiles, plainFile]

/-- The second file fails as a whole, so that the third one can use its new identifier. -/
theorem results_overlappingFiles :
    (ofTree (some overlappingFiles)).results
      = ([(["a", "one.yml"], .loaded ["one"] 0), (["b.yml"], .failed (.definedEarlier "one")),
          (["c.yml"], .loaded ["two"] 0)] : List (Path × Status)) := by
  have hsorted : sortFiles (scan overlappingFiles).files
      = [(scan overlappingFiles).files[1], (scan overlappingFiles).files[0],
          (scan overlappingFiles).files[2]] :=
    (eq_sortFiles (by decide) (List.Perm.swap _ _ _) (by decide)).symm
  rw [ofTree_eq, Option.elim_some, hsorted]
  decide +kernel

theorem comesFrom_overlappingFiles :
    (∀ t ∈ some overlappingFiles, t.HasUniqueNames) ∧
      (ofTree (some overlappingFiles)).loaded
        = ([(["a", "one.yml"], ["one"]), (["c.yml"], ["two"])] : List (Path × List String)) ∧
      (ofTree (some overlappingFiles)).ComesFrom (some overlappingFiles) := by
  have hunique : ∀ t ∈ some overlappingFiles, t.HasUniqueNames := by
    intro t ht
    obtain rfl := Option.some.inj ht
    exact hasUniqueNames_overlappingFiles
  refine ⟨hunique, ?_, comesFrom_ofTree _ hunique⟩
  rw [loaded, results_overlappingFiles]
  rfl

end Watchpost.RuleLoad

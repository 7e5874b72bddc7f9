import Watchpost.Proofs.FileTree.Name
import Watchpost.Proofs.RuleLoad.Listing

set_option autoImplicit false

/-! # Which files are reported

A file is visible if no directory between the root and the file is hidden; its own name may be a
hidden one. `RuleLoad.IsVisible` says so without any scan and for any notion of hidden names, and
`RuleLoad.IsYamlName` says which names are those of rule files without taking an extension apart.
Every visible file is reported once, nothing else is, and the name alone decides whether the file is
passed over; what stands in hidden directories makes no difference to anything.

A scan takes a name as hidden if it is a text that starts with a dot. So
`RuleLoad.accountsForFiles_ofTree` has two parts: what is loaded accounts for the files in this
sense, and it does so in the sense of all names that start with a dot where those of the tree are
texts. A directory with a name that starts with a dot and is no text is entered, so that the second
sense fails there: `RuleLoad.not_accountsForFiles_undecodableEntries`. -/

namespace Watchpost.RuleLoad

open FileTree (Path Name HasUniqueNames AllNames)

/-! ## Names -/

/-- A name that is a text and starts with a dot. -/
def IsDotText (name : Name) : Prop :=
  name.IsText ∧ name.StartsWithDot

/-- A name with one of the two extensions of YAML files, in small letters. -/
def IsYamlName (name : Name) : Prop :=
  name.HasExtension "yml" ∨ name.HasExtension "yaml"

theorem isHidden_iff (name : Name) : isHidden name = true ↔ IsDotText name := by
  rw [isHidden, IsDotText]
  constructor
  · intro h
    obtain ⟨s, hs, hdot⟩ := (Option.any_eq_true _ _).1 h
    obtain rfl := (Name.text?_eq_some_iff name s).1 hs
    exact ⟨⟨s, rfl⟩, (Name.startsWithDot_ofText_iff s).2 (beq_iff_eq.1 hdot)⟩
  · rintro ⟨⟨s, rfl⟩, hdot⟩
    rw [(Name.text?_eq_some_iff _ s).2 rfl, Option.any_some, beq_iff_eq]
    exact (Name.startsWithDot_ofText_iff s).1 hdot

theorem hasYamlExtension_iff (name : Name) : hasYamlExtension name = true ↔ IsYamlName name := by
  unfold hasYamlExtension IsYamlName
  rw [← Name.extension?_eq_some_iff (by decide), ← Name.extension?_eq_some_iff (by decide)]
  simp only [Option.any_eq_true, Option.bind_eq_some_iff, Name.text?_eq_some_iff, Bool.or_eq_true,
    beq_iff_eq]
  constructor
  · rintro ⟨_, ⟨_, hext, rfl⟩, rfl | rfl⟩
    · exact .inl hext
    · exact .inr hext
  · rintro (hext | hext)
    · exact ⟨_, ⟨_, hext, rfl⟩, .inl rfl⟩
    · exact ⟨_, ⟨_, hext, rfl⟩, .inr rfl⟩

/-- Why a file with a name is passed over, if it is. -/
def reason? (name : Name) : Option Reason :=
  if isHidden name then some .dotfile else if isRuleFileName name then none else some .notYaml

theorem reason?_eq_none_iff (name : Name) :
    reason? name = none ↔ ¬isHidden name = true ∧ IsYamlName name := by
  rw [reason?, isRuleFileName, ← hasYamlExtension_iff]
  cases isHidden name <;> cases hasYamlExtension name <;> simp

/-- The test of a scan agrees with a notion of hidden names on a name. -/
def Agrees (Hidden : Name → Prop) (name : Name) : Prop :=
  isHidden name = true ↔ Hidden name

/-! ## Visible files -/

/-- A file with a name stands in a directory at a path below some entries, and neither that
    directory nor one on the way to it is hidden. -/
inductive IsVisible (Hidden : Name → Prop) : List (Name × FileTree) → Path → Name → Prop
  | here {entries : List (Name × FileTree)} {name : Name} {content : ByteArray}
      (h : (name, .file content) ∈ entries) : IsVisible Hidden entries [] name
  | under {entries inner : List (Name × FileTree)} {dir : Path} {name file : Name}
      (h : (name, .directory inner) ∈ entries) (hname : ¬Hidden name)
      (hinner : IsVisible Hidden inner dir file) : IsVisible Hidden entries (name :: dir) file

section

variable {Hidden : Name → Prop}

theorem not_isVisible_nil (dir : Path) (file : Name) : ¬IsVisible Hidden [] dir file := by
  intro h
  cases h with
  | here h => exact absurd h List.not_mem_nil
  | under h _ _ => exact absurd h List.not_mem_nil

/-- A file is visible below one entry or below one of the others. -/
theorem isVisible_cons_iff (entry : Name × FileTree) (rest : List (Name × FileTree))
    (dir : Path) (file : Name) :
    IsVisible Hidden (entry :: rest) dir file ↔
      IsVisible Hidden [entry] dir file ∨ IsVisible Hidden rest dir file := by
  constructor
  · intro h
    cases h with
    | here h =>
      rcases List.mem_cons.1 h with rfl | hrest
      · exact .inl (.here List.mem_cons_self)
      · exact .inr (.here hrest)
    | under h hname hinner =>
      rcases List.mem_cons.1 h with rfl | hrest
      · exact .inl (.under List.mem_cons_self hname hinner)
      · exact .inr (.under hrest hname hinner)
  · rintro (h | h)
    · cases h with
      | here h => exact .here (List.mem_cons.2 (.inl (List.mem_singleton.1 h)))
      | under h hname hinner =>
        exact .under (List.mem_cons.2 (.inl (List.mem_singleton.1 h))) hname hinner
    · cases h with
      | here h => exact .here (List.mem_cons_of_mem _ h)
      | under h hname hinner => exact .under (List.mem_cons_of_mem _ h) hname hinner

theorem isVisible_file_iff (name : Name) (content : ByteArray) (dir : Path) (file : Name) :
    IsVisible Hidden [(name, .file content)] dir file ↔ dir = [] ∧ file = name := by
  constructor
  · intro h
    cases h with
    | here h => exact ⟨rfl, congrArg Prod.fst (List.mem_singleton.1 h)⟩
    | under h _ _ => simp at h
  · rintro ⟨rfl, rfl⟩
    exact .here List.mem_cons_self

theorem isVisible_directory_iff (name : Name) (inner : List (Name × FileTree)) (dir : Path)
    (file : Name) :
    IsVisible Hidden [(name, .directory inner)] dir file ↔
      ¬Hidden name ∧ ∃ rest, dir = name :: rest ∧ IsVisible Hidden inner rest file := by
  constructor
  · intro h
    cases h with
    | here h => simp at h
    | under h hname hinner =>
      obtain ⟨rfl, rfl⟩ : _ = name ∧ _ = inner := by simpa using h
      exact ⟨hname, _, rfl, hinner⟩
  · rintro ⟨hname, rest, rfl, hinner⟩
    exact .under List.mem_cons_self hname hinner

/-- The name of a visible file is one of the names in the tree. -/
theorem IsVisible.of_allNames {P : Name → Prop} {entries : List (Name × FileTree)} {dir : Path}
    {file : Name} (h : IsVisible Hidden entries dir file)
    (hall : (FileTree.directory entries).AllNames P) : P file := by
  induction h with
  | here h =>
    cases hall with
    | directory _ here inside => exact here _ h
  | under h _ _ ih =>
    cases hall with
    | directory _ here inside => exact ih (inside _ h)

/-! ## What a scan makes of them -/

/-- All that was found, each path with the reason why it is passed over, if it is. -/
def Found.verdicts (found : Found) : List (Path × Option Reason) :=
  found.files.map (fun x => (x.1, none)) ++ found.skipped.map fun x => (x.1, some x.2)

theorem Found.mem_verdicts_append (a b : Found) (v : Path × Option Reason) :
    v ∈ (a.append b).verdicts ↔ v ∈ a.verdicts ∨ v ∈ b.verdicts := by
  simp only [verdicts, append, List.map_append, List.mem_append]
  tauto

theorem verdicts_foundFile (path : Path) (name : Name) (f : FileTree) :
    (foundFile path name f).verdicts = [(path, reason? name)] := by
  unfold foundFile reason?
  split
  · rfl
  · split
    · rfl
    · rfl

theorem mem_verdicts_scanEntries {entries : List (Name × FileTree)}
    (h : ∀ entry ∈ entries, ∀ dir v, v ∈ (scanEntry dir entry.1 entry.2).verdicts ↔
      ∃ inner file, IsVisible Hidden [entry] inner file ∧
        v = (dir ++ (inner ++ [file]), reason? file))
    (dir : Path) (v : Path × Option Reason) :
    v ∈ (scanEntries dir entries).verdicts ↔
      ∃ inner file, IsVisible Hidden entries inner file ∧
        v = (dir ++ (inner ++ [file]), reason? file) := by
  induction entries with
  | nil => simp [scanEntries, Found.verdicts, not_isVisible_nil]
  | cons entry rest ih =>
    rw [scanEntries, Found.mem_verdicts_append, h entry List.mem_cons_self,
      ih fun other hother => h other (List.mem_cons_of_mem _ hother)]
    simp only [isVisible_cons_iff entry rest, or_and_right, exists_or]

theorem mem_verdicts_scanEntry {t : FileTree} (h : t.AllNames (Agrees Hidden)) {name : Name}
    (hname : Agrees Hidden name) (dir : Path) (v : Path × Option Reason) :
    v ∈ (scanEntry dir name t).verdicts ↔
      ∃ inner file, IsVisible Hidden [(name, t)] inner file ∧
        v = (dir ++ (inner ++ [file]), reason? file) := by
  induction h generalizing dir name v with
  | file content =>
    rw [scanEntry, verdicts_foundFile, List.mem_singleton]
    simp [isVisible_file_iff]
  | directory entries here inside ih =>
    rw [scanEntry]
    split
    · next hhidden =>
      simp [Found.verdicts, isVisible_directory_iff, hname.1 hhidden]
    · next hhidden =>
      have hvisible : ¬Hidden name := mt hname.2 hhidden
      rw [mem_verdicts_scanEntries fun entry hentry => ih entry hentry (here entry hentry)]
      constructor
      · rintro ⟨inner, file, hinner, rfl⟩
        exact ⟨name :: inner, file, .under List.mem_cons_self hvisible hinner, by simp⟩
      · rintro ⟨_, file, hfile, rfl⟩
        obtain ⟨-, inner, rfl, hinner⟩ := (isVisible_directory_iff ..).1 hfile
        exact ⟨inner, file, hinner, by simp⟩

/-- A scan finds the visible files, and the name of each decides whether it is passed over. -/
theorem mem_verdicts_scan {entries : List (Name × FileTree)}
    (h : (FileTree.directory entries).AllNames (Agrees Hidden)) (v : Path × Option Reason) :
    v ∈ (scan (.directory entries)).verdicts ↔
      ∃ dir name, IsVisible Hidden entries dir name ∧ v = (dir ++ [name], reason? name) := by
  cases h with
  | directory _ here inside =>
    have hentries := mem_verdicts_scanEntries (fun entry hentry =>
      mem_verdicts_scanEntry (inside entry hentry) (here entry hentry)) [] v
    simpa [scan] using hentries

theorem map_fst_verdicts (found : Found) : found.verdicts.map Prod.fst = found.paths := by
  rw [Found.verdicts, List.map_append, List.map_map, List.map_map]
  rfl

/-! ## What is reported -/

/-- A file is reported as passed over for the reason that the scan has, and as used or failed if the
    scan has none. -/
theorem verdict_of_mem_results {t : FileTree} {path : Path} {status : Status}
    (h : (path, status) ∈ (ofTree (some t)).results) :
    (∃ reason, status = .skipped reason ∧ (path, some reason) ∈ (scan t).verdicts) ∨
      (status.isSkipped = false ∧ (path, none) ∈ (scan t).verdicts) := by
  rw [ofTree_eq, Option.elim_some] at h
  rcases List.mem_append.1 h with h | h
  · obtain ⟨x, hx, he⟩ := List.mem_map.1 h
    obtain ⟨rfl, rfl⟩ := Prod.mk.inj he
    exact .inl ⟨x.2, rfl, List.mem_append_right _ (List.mem_map_of_mem hx)⟩
  · have hpath := List.mem_map_of_mem (f := Prod.fst) h
    rw [map_fst_results_loadFiles] at hpath
    obtain ⟨x, hx, rfl⟩ := List.mem_map.1 (((sortFiles_perm _).map Prod.fst).mem_iff.1 hpath)
    exact .inr ⟨isSkipped_of_mem_loadFiles h, List.mem_append_left _ (List.mem_map_of_mem hx)⟩

/-! ## Hidden directories -/

/-- Entries of a directory, and what is left of them without some of the hidden directories in it,
    at any depth. -/
inductive Leaves (Hidden : Name → Prop) : List (Name × FileTree) → List (Name × FileTree) → Prop
  | nil : Leaves Hidden [] []
  | file (name : Name) (content : ByteArray) {entries left : List (Name × FileTree)}
      (h : Leaves Hidden entries left) :
      Leaves Hidden ((name, .file content) :: entries) ((name, .file content) :: left)
  | directory (name : Name) {inner innerLeft entries left : List (Name × FileTree)}
      (hinner : Leaves Hidden inner innerLeft) (h : Leaves Hidden entries left) :
      Leaves Hidden ((name, .directory inner) :: entries) ((name, .directory innerLeft) :: left)
  | hidden {name : Name} (hname : Hidden name) (inner : List (Name × FileTree))
      {entries left : List (Name × FileTree)} (h : Leaves Hidden entries left) :
      Leaves Hidden ((name, .directory inner) :: entries) left

theorem scanEntries_of_leaves {entries left : List (Name × FileTree)}
    (h : Leaves Hidden entries left) (hall : (FileTree.directory entries).AllNames (Agrees Hidden))
    (dir : Path) : scanEntries dir left = scanEntries dir entries := by
  induction h generalizing dir with
  | nil => rfl
  | file name content _ ih =>
    obtain ⟨-, -, hrest⟩ := (AllNames.cons_iff ..).1 hall
    rw [scanEntries, scanEntries, ih hrest]
  | directory name _ _ ihinner ih =>
    obtain ⟨-, hchild, hrest⟩ := (AllNames.cons_iff ..).1 hall
    rw [scanEntries, scanEntries, scanEntry, scanEntry, ihinner hchild, ih hrest]
  | hidden hname inner _ ih =>
    obtain ⟨hagrees, -, hrest⟩ := (AllNames.cons_iff ..).1 hall
    rw [scanEntries, scanEntry, if_pos (hagrees.2 hname), ih hrest]
    rfl

/-! ## A whole directory -/

/-- What is loaded from a directory accounts for its files, for a notion of hidden names. -/
structure AccountsForFiles (Hidden : Name → Prop) (entries : List (Name × FileTree))
    (load : RuleLoad) : Prop where
  reported_once : ∀ dir name, IsVisible Hidden entries dir name →
    (load.results.map Prod.fst).count (dir ++ [name]) = 1
  nothing_else : ∀ x ∈ load.results, ∃ dir name, IsVisible Hidden entries dir name ∧
    x.1 = dir ++ [name]
  skipped_iff : ∀ dir name status, (dir ++ [name], status) ∈ load.results →
    ((∃ reason, status = .skipped reason) ↔ Hidden name ∨ ¬IsYamlName name)
  read_iff : ∀ dir name status, (dir ++ [name], status) ∈ load.results →
    (((∃ ids disabled, status = .loaded ids disabled) ∨ ∃ e, status = .failed e) ↔
      ¬Hidden name ∧ IsYamlName name)
  hidden_irrelevant : ∀ left, Leaves Hidden entries left →
    ofTree (some (.directory left)) = load

/-- What is loaded accounts for the files in the sense of every notion of hidden names that agrees
    with the test of a scan on the names of the tree. -/
theorem accountsForFiles_of_agrees {entries : List (Name × FileTree)}
    (hunique : (FileTree.directory entries).HasUniqueNames)
    (h : (FileTree.directory entries).AllNames (Agrees Hidden)) :
    AccountsForFiles Hidden entries (ofTree (some (.directory entries))) := by
  have hperm := map_fst_results_ofTree_perm (.directory entries)
  -- The verdict on a path is the one on its last name, which is that of a visible file.
  have hverdict : ∀ dir name reason,
      (dir ++ [name], reason) ∈ (scan (.directory entries)).verdicts →
        (reason = none ↔ ¬Hidden name ∧ IsYamlName name) := by
    intro dir name reason hmem
    obtain ⟨dir', name', hvisible, heq⟩ := (mem_verdicts_scan h _).1 hmem
    obtain ⟨hpath, rfl⟩ := Prod.mk.inj heq
    obtain ⟨-, hname⟩ := List.append_inj' hpath rfl
    obtain rfl := List.singleton_inj.1 hname
    have hagrees : isHidden name = true ↔ Hidden name := hvisible.of_allNames h
    rw [reason?_eq_none_iff, hagrees]
  constructor
  case reported_once =>
    intro dir name hvisible
    have hmem := List.mem_map_of_mem (f := Prod.fst)
      ((mem_verdicts_scan h _).2 ⟨dir, name, hvisible, rfl⟩)
    rw [map_fst_verdicts] at hmem
    rw [hperm.count_eq]
    exact List.count_eq_one_of_mem (nodup_paths_scan hunique) hmem
  case nothing_else =>
    intro x hx
    have hpath := hperm.mem_iff.1 (List.mem_map_of_mem hx)
    rw [← map_fst_verdicts] at hpath
    obtain ⟨v, hv, hfst⟩ := List.mem_map.1 hpath
    obtain ⟨dir, name, hvisible, rfl⟩ := (mem_verdicts_scan h v).1 hv
    exact ⟨dir, name, hvisible, hfst.symm⟩
  case skipped_iff =>
    intro dir name status hmem
    rw [← not_not (a := Hidden name), ← not_and_or]
    rcases verdict_of_mem_results hmem with ⟨reason, rfl, hv⟩ | ⟨hskipped, hv⟩
    · rw [← hverdict dir name _ hv]
      simp
    · rw [← hverdict dir name _ hv]
      refine iff_of_false ?_ (not_not.2 rfl)
      rintro ⟨reason, rfl⟩
      cases hskipped
  case read_iff =>
    intro dir name status hmem
    rcases verdict_of_mem_results hmem with ⟨reason, rfl, hv⟩ | ⟨hskipped, hv⟩
    · rw [← hverdict dir name _ hv]
      simp
    · rw [← hverdict dir name _ hv, eq_self, iff_true]
      cases status with
      | loaded ids disabled => exact .inl ⟨ids, disabled, rfl⟩
      | skipped reason => cases hskipped
      | failed e => exact .inr ⟨e, rfl⟩
  case hidden_irrelevant =>
    intro left hleft
    have hscan : scan (.directory left) = scan (.directory entries) :=
      scanEntries_of_leaves hleft h []
    rw [ofTree_eq, ofTree_eq, Option.elim_some, Option.elim_some, hscan]

end

/-- **Every visible file is accounted for once.** Of a directory, each file that no hidden directory
    holds is reported once, and nothing else is. It is passed over if its name is hidden or has not
    the extension of a rule file, and otherwise it is used or fails. Without the hidden directories,
    the rules and the reports are the same. Hidden are the names that are texts and start with a
    dot; if no name of the tree starts with a dot without being a text, they are those that start
    with a dot. -/
theorem accountsForFiles_ofTree {entries : List (Name × FileTree)}
    (h : (FileTree.directory entries).HasUniqueNames) :
    AccountsForFiles IsDotText entries (ofTree (some (.directory entries))) ∧
      ((FileTree.directory entries).AllNames (fun name => name.StartsWithDot → name.IsText) →
        AccountsForFiles Name.StartsWithDot entries (ofTree (some (.directory entries)))) := by
  refine ⟨accountsForFiles_of_agrees h (h.allNames isHidden_iff), fun htexts => ?_⟩
  refine accountsForFiles_of_agrees h (htexts.mono fun name htext => ?_)
  rw [Agrees, isHidden_iff]
  exact ⟨And.right, fun hdot => ⟨htext hdot, hdot⟩⟩

/-- Entries with names of all kinds: hidden and not, with the extension of a rule file, with it in
    capital letters, with nothing in front of it, and behind a byte that is part of no text. -/
def mixedEntries : List (Name × FileTree) :=
  [(".git", .directory [("stray.yml", plainFile ["stray"])]), (".keep.yml", plainFile ["kept"]),
    ("rules.yml", .directory [("one.yaml", plainFile ["one"]), (".yml", plainFile ["none"])]),
    ("two.YML", plainFile ["two"]), ("yml", plainFile ["three"]),
    (⟨0xff :: (Name.ofText ".yml").bytes⟩, plainFile ["four"])]

theorem hasUniqueNames_mixedEntries : (FileTree.directory mixedEntries).HasUniqueNames := by
  -- The last name is no text, and so none of the other names.
  have hnone : Name.text? ⟨0xff :: (Name.ofText ".yml").bytes⟩ = none := by decide
  have hlast : ∀ s, Name.ofText s ≠ ⟨0xff :: (Name.ofText ".yml").bytes⟩ := by
    intro s hs
    rw [(Name.text?_eq_some_iff _ s).2 hs.symm] at hnone
    cases hnone
  simp [mixedEntries, plainFile, hlast]

theorem dots_are_texts_mixedEntries :
    (FileTree.directory mixedEntries).AllNames fun name => name.StartsWithDot → name.IsText := by
  have hfirst : ¬(⟨0xff :: (Name.ofText ".yml").bytes⟩ : Name).StartsWithDot := by decide
  simp [mixedEntries, plainFile, hfirst]

/-- Two files are used; what the hidden directory holds is not reported. -/
theorem accountsForFiles_mixedEntries :
    (FileTree.directory mixedEntries).HasUniqueNames ∧
      (FileTree.directory mixedEntries).AllNames (fun name => name.StartsWithDot → name.IsText) ∧
      (ofTree (some (.directory mixedEntries))).results
        = ([([".keep.yml"], .skipped .dotfile), (["rules.yml", ".yml"], .skipped .dotfile),
            (["two.YML"], .skipped .notYaml), (["yml"], .skipped .notYaml),
            (["rules.yml", "one.yaml"], .loaded ["one"] 0),
            ([⟨0xff :: (Name.ofText ".yml").bytes⟩], .loaded ["four"] 0)] : List (Path × Status)) ∧
      AccountsForFiles IsDotText mixedEntries (ofTree (some (.directory mixedEntries))) ∧
      AccountsForFiles Name.StartsWithDot mixedEntries
        (ofTree (some (.directory mixedEntries))) := by
  obtain ⟨hcode, hdots⟩ := accountsForFiles_ofTree hasUniqueNames_mixedEntries
  refine ⟨hasUniqueNames_mixedEntries, dots_are_texts_mixedEntries, ?_, hcode,
    hdots dots_are_texts_mixedEntries⟩
  have hsorted : sortFiles (scan (.directory mixedEntries)).files
      = (scan (.directory mixedEntries)).files :=
    (eq_sortFiles (by decide) (.refl _) (by decide)).symm
  rw [ofTree_eq, Option.elim_some, hsorted]
  decide +kernel

/-! ## Dots in front of names that are no texts -/

/-- A directory and a file with names that start with a dot, behind which stands a byte that is part
    of no text. -/
def undecodableEntries : List (Name × FileTree) :=
  [(⟨[Name.dot, 0xff]⟩, .directory [("a.yml", plainFile ["a"])]),
    (⟨[Name.dot, 0xff] ++ (Name.ofText ".yml").bytes⟩, plainFile ["b"])]

/-- The directory is entered and the file is used, so that the names that start with a dot are not
    the hidden ones. -/
theorem not_accountsForFiles_undecodableEntries :
    (FileTree.directory undecodableEntries).HasUniqueNames ∧
      (ofTree (some (.directory undecodableEntries))).results
        = ([([⟨[Name.dot, 0xff]⟩, "a.yml"], .loaded ["a"] 0),
            ([⟨[Name.dot, 0xff] ++ (Name.ofText ".yml").bytes⟩], .loaded ["b"] 0)]
              : List (Path × Status)) ∧
      ¬AccountsForFiles Name.StartsWithDot undecodableEntries
        (ofTree (some (.directory undecodableEntries))) := by
  have hunique : (FileTree.directory undecodableEntries).HasUniqueNames := by
    have hne : (⟨[Name.dot, 0xff]⟩ : Name) ≠ ⟨[Name.dot, 0xff] ++ (Name.ofText ".yml").bytes⟩ := by
      decide
    simpa [undecodableEntries, plainFile] using hne
  have hresults : (ofTree (some (.directory undecodableEntries))).results
      = ([([⟨[Name.dot, 0xff]⟩, "a.yml"], .loaded ["a"] 0),
          ([⟨[Name.dot, 0xff] ++ (Name.ofText ".yml").bytes⟩], .loaded ["b"] 0)]
            : List (Path × Status)) := by
    have hsorted : sortFiles (scan (.directory undecodableEntries)).files
        = (scan (.directory undecodableEntries)).files :=
      (eq_sortFiles (by decide) (.refl _) (by decide)).symm
    rw [ofTree_eq, Option.elim_some, hsorted]
    decide +kernel
  refine ⟨hunique, hresults, fun h => ?_⟩
  -- The file that is used is not hidden in this sense.
  have hread := (h.read_iff [] ⟨[Name.dot, 0xff] ++ (Name.ofText ".yml").bytes⟩ (.loaded ["b"] 0)
    (by rw [hresults]; simp)).1 (.inl ⟨_, _, rfl⟩)
  exact hread.1 (by decide)

end Watchpost.RuleLoad

import Watchpost.FileTree
import Watchpost.Log
import Watchpost.Rule.Yaml
import Watchpost.Text.Blank

set_option autoImplicit false

/-! # Rule files

A rule file is a YAML text with a list of rules. Its disabled rules are only counted. The enabled
ones are checked in order, and the first one that is unsound, or repeats the identifier of one
before it, makes the whole file unusable. A directory is loaded file by file in the order of paths;
a file that fails is reported and leaves no trace in the rules. -/

namespace Watchpost

/-! ## Soundness of a rule -/

/-- What makes a rule unusable. -/
inductive Rule.Fault where
  | emptyId
  | emptyField (ruleId : String)
  | emptyGroupingField (ruleId : String)
  | zeroThreshold (ruleId : String)
  | badWindow (ruleId : String)
  | duplicateId (ruleId : String)
deriving DecidableEq, Repr, Inhabited

namespace Rule

/-- The text of a fault. -/
def Fault.message : Fault → String
  | .emptyId => "rule id must not be empty"
  | .emptyField id => "rule '" ++ id ++ "': field condition with empty field"
  | .emptyGroupingField id => "rule '" ++ id ++ "': aggregation field must not be empty"
  | .zeroThreshold id => "rule '" ++ id ++ "': count_threshold must be at least 1"
  | .badWindow id => "rule '" ++ id ++ "': time_window_seconds must be positive"
  | .duplicateId id => "duplicate rule id '" ++ id ++ "'"

/-- The fault of an aggregation. -/
def Aggregation.fault? (ruleId : String) (a : Aggregation) : Option Fault :=
  if a.field.isEmpty then some (.emptyGroupingField ruleId)
  else if a.threshold = 0 then some (.zeroThreshold ruleId)
  else if !a.windowSeconds.isFinite || a.windowSeconds.atMost Binary64.zero then
    some (.badWindow ruleId)
  else none

/-- The first fault of a rule. -/
def fault? (r : Rule) : Option Fault :=
  if Text.isAllBlank r.id then some .emptyId
  else if r.conditions.fields.any (·.field.isEmpty) then some (.emptyField r.id)
  else r.aggregation.bind (·.fault? r.id)

/-- A warning for a condition whose operator is not known. -/
def Condition.warning (ruleId : String) (c : Condition) : Option Log.Record :=
  match c.operator with
  | .unknown name => some (Log.warn "unknown operator, condition will never match"
      [("rule_id", ruleId), ("field", c.field), ("operator", name)])
  | _ => none

/-- The warnings given while a rule is checked: those for the conditions before the first one
    without a field, none for a rule without an identifier. -/
def warnings (r : Rule) : List Log.Record :=
  if Text.isAllBlank r.id then []
  else (r.conditions.fields.takeWhile (!·.field.isEmpty)).filterMap (·.warning r.id)

/-- The first fault in a list of rules, after those of given identifiers. -/
def firstFault? (seen : List String) : List Rule → Option Fault
  | [] => none
  | r :: rest =>
    match r.fault? with
    | some fault => some fault
    | none =>
      if seen.contains r.id then some (.duplicateId r.id) else firstFault? (r.id :: seen) rest

/-- The warnings given while a list of rules is checked, up to its first fault. -/
def checkWarnings (seen : List String) : List Rule → List Log.Record
  | [] => []
  | r :: rest =>
    r.warnings ++
      if r.fault?.isSome || seen.contains r.id then [] else checkWarnings (r.id :: seen) rest

end Rule

/-! ## One file -/

/-- Why a rule file cannot be used. -/
inductive RuleFile.Error where
  | unreadable
  | malformed
  | invalid (fault : Rule.Fault)
  | definedEarlier (ruleId : String)
deriving DecidableEq, Repr, Inhabited

/-- The usable contents of a rule file: its enabled rules and the number of disabled ones. -/
structure RuleFile where
  rules : List Rule
  disabled : Nat
deriving Repr, Inhabited

namespace RuleFile

/-- The text of an error. -/
def Error.message : Error → String
  | .unreadable => "reading rules:"
  | .malformed => "rule file is not valid YAML for the rules schema:"
  | .invalid fault => "invalid rule: " ++ fault.message
  | .definedEarlier id => "rule id '" ++ id ++ "' is already defined by an earlier file"

/-- The rules that a text holds, enabled or not; none if it is blank. -/
def rulesOf? (source : String) : Option (List Rule) :=
  if Text.isAllBlank source then some [] else Rule.listOfText? source

/-- Use the enabled ones of some rules, if they are sound. -/
def ofRules (rules : List Rule) : Except Error RuleFile :=
  let enabled := rules.filter (·.enabled)
  match Rule.firstFault? [] enabled with
  | some fault => .error (.invalid fault)
  | none => .ok ⟨enabled, rules.length - enabled.length⟩

/-- Read a rule file from its text. -/
def ofText (source : String) : Except Error RuleFile :=
  match rulesOf? source with
  | none => .error .malformed
  | some rules => ofRules rules

/-- What is logged while a rule file is read. -/
def logs (source : String) : List Log.Record :=
  match rulesOf? source with
  | none => []
  | some rules => Rule.checkWarnings [] (rules.filter (·.enabled))

/-- Read a rule file from what stands at its place. -/
def ofFile (f : Option FileTree) : Except Error RuleFile :=
  match f.bind FileTree.text? with
  | none => .error .unreadable
  | some source => ofText source

end RuleFile

/-! ## A directory of files -/

/-- Why a file is passed over. -/
inductive RuleLoad.Reason where
  | dotfile
  | notYaml
deriving DecidableEq, Repr, Inhabited

/-- What became of one file. -/
inductive RuleLoad.Status where
  | loaded (ruleIds : List String) (disabled : Nat)
  | skipped (reason : RuleLoad.Reason)
  | failed (error : RuleFile.Error)
deriving DecidableEq, Repr, Inhabited

/-- The rules of a directory, and what became of each file. -/
structure RuleLoad where
  rules : List Rule
  results : List (FileTree.Path × RuleLoad.Status)
deriving Repr, Inhabited

namespace RuleLoad

/-- The text of a reason. -/
def Reason.message : Reason → String
  | .dotfile => "dotfile"
  | .notYaml => "not a YAML file"

/-- Whether a name is hidden: it is a text that starts with a dot. A name that is no text is not
    hidden, whatever its first byte. -/
def isHidden (name : FileTree.Name) : Bool :=
  name.text?.any fun s => s.toList.head? == some '.'

/-- Whether a name has an extension of YAML files. -/
def hasYamlExtension (name : FileTree.Name) : Bool :=
  (name.extension?.bind FileTree.Name.text?).any fun s => s == "yml" || s == "yaml"

/-- Whether a name is that of a rule file. -/
def isRuleFileName (name : FileTree.Name) : Bool :=
  hasYamlExtension name && !isHidden name

/-- What a scan finds: rule files with their contents, and files passed over. -/
structure Found where
  files : List (FileTree.Path × FileTree)
  skipped : List (FileTree.Path × Reason)
deriving Inhabited

/-- What two scans find together. -/
def Found.append (a b : Found) : Found :=
  ⟨a.files ++ b.files, a.skipped ++ b.skipped⟩

/-- What a scan finds in a file with a given name. -/
def foundFile (path : FileTree.Path) (name : FileTree.Name) (f : FileTree) : Found :=
  if isHidden name then ⟨[], [(path, .dotfile)]⟩
  else if isRuleFileName name then ⟨[(path, f)], []⟩
  else ⟨[], [(path, .notYaml)]⟩

mutual

/-- Scan an entry of the directory at a path. Hidden directories are not entered. -/
def scanEntry (dir : FileTree.Path) (name : FileTree.Name) : FileTree → Found
  | .file content => foundFile (dir ++ [name]) name (.file content)
  | .directory entries => if isHidden name then ⟨[], []⟩ else scanEntries (dir ++ [name]) entries

/-- Scan the entries of the directory at a path, in the order listed. -/
def scanEntries (dir : FileTree.Path) : List (FileTree.Name × FileTree) → Found
  | [] => ⟨[], []⟩
  | (name, child) :: rest => (scanEntry dir name child).append (scanEntries dir rest)

end

/-- Scan a directory. -/
def scan : FileTree → Found
  | .directory entries => scanEntries [] entries
  | .file _ => ⟨[], []⟩

/-- Files in the order of their paths. -/
def sortFiles (files : List (FileTree.Path × FileTree)) : List (FileTree.Path × FileTree) :=
  files.mergeSort fun a b => FileTree.pathAtMost a.1 b.1

/-- A file as it can be used after rules with the given identifiers. -/
def useFile (seen : List String) (f : FileTree) : Except RuleFile.Error RuleFile :=
  match RuleFile.ofFile (some f) with
  | .error e => .error e
  | .ok file =>
    match file.rules.find? fun r => seen.contains r.id with
    | some r => .error (.definedEarlier r.id)
    | none => .ok file

/-- Load files one after another. -/
def loadFiles (seen : List String) : List (FileTree.Path × FileTree) → RuleLoad
  | [] => ⟨[], []⟩
  | (path, f) :: rest =>
    match useFile seen f with
    | .error e =>
      let load := loadFiles seen rest
      ⟨load.rules, (path, .failed e) :: load.results⟩
    | .ok file =>
      let ids := file.rules.map (·.id)
      let load := loadFiles (seen ++ ids) rest
      ⟨file.rules ++ load.rules, (path, .loaded ids file.disabled) :: load.results⟩

/-- Load all rule files of a directory; nothing, if there is no directory. The files passed over are
    reported first. -/
def ofTree (root : Option FileTree) : RuleLoad :=
  match root with
  | none => ⟨[], []⟩
  | some t =>
    let found := scan t
    let load := loadFiles [] (sortFiles found.files)
    ⟨load.rules, found.skipped.map (fun (p, reason) => (p, .skipped reason)) ++ load.results⟩

/-- The number of files that failed. -/
def failed (load : RuleLoad) : Nat :=
  load.results.countP fun (_, s) => match s with
    | .failed _ => true
    | _ => false

/-! ## Logs -/

/-- What is logged about a file that was loaded or failed. -/
def fileLogs (seen : List String) (f : FileTree) : List Log.Record :=
  (((FileTree.text? f).map RuleFile.logs).getD []) ++
    match useFile seen f with
    | .error e => [Log.warn "rejected rule file" [("error", e.message)]]
    | .ok file => [Log.info "loaded rule file"
        [("rules", file.rules.length.repr), ("disabled", file.disabled.repr)]]

/-- What is logged while files are loaded one after another. -/
def filesLogs (seen : List String) : List (FileTree.Path × FileTree) → List Log.Record
  | [] => []
  | (_, f) :: rest =>
    let ids := match useFile seen f with
      | .error _ => []
      | .ok file => file.rules.map (·.id)
    fileLogs seen f ++ filesLogs (seen ++ ids) rest

/-- What is logged while a directory is loaded. -/
def logs (root : Option FileTree) : List Log.Record :=
  match root with
  | none => [Log.warn "rules directory not found, no rules loaded" []]
  | some (.file _) => [Log.warn "cannot read rules subdirectory" []]
  | some t => filesLogs [] (sortFiles (scan t).files)

end RuleLoad

end Watchpost

import Watchpost.Matching
import Watchpost.Proofs.Event
import Watchpost.Proofs.Text.Split

set_option autoImplicit false

/-! # Nulls in the documents of events

What an event leaves unset is left out of its document, so that a path to it leads nowhere. Every
other field has a value that is no `null` and has none in it, but for the metadata, which are
whatever the event came with. So a path that leads to `null` leads into the metadata. -/

namespace Watchpost

open Json (optionalMember)

attribute [local simp] List.lookup_append lookup_cons_eq_ite

namespace Path

/-! ## Paths from segments -/

theorem segments_intercalate {names : List String} (hne : names ≠ [])
    (h : ∀ name ∈ names, '.' ∉ name.toList) : segments (".".intercalate names) = names :=
  (Text.splitString_eq_iff _ _ _).2 ⟨hne, h, rfl⟩

theorem intercalate_segments (path : String) : ".".intercalate (segments path) = path :=
  ((Text.splitString_eq_iff '.' path _).1 rfl).joined

theorem segments_ne_nil (path : String) : segments path ≠ [] :=
  ((Text.splitString_eq_iff '.' path _).1 rfl).ne_nil

theorem segments_append {name : String} (h : '.' ∉ name.toList) (path : String) :
    segments (name ++ "." ++ path) = name :: segments path := by
  have hdot : ".".toList = ['.'] := by decide
  simp only [segments, Text.splitString, Text.split_eq_splitOn, String.toList_append, hdot,
    List.append_assoc, List.singleton_append]
  rw [List.splitOn_append_cons_self_of_not_mem h, List.map_cons, String.ofList_toList]

theorem resolve_append {name : String} (h : '.' ∉ name.toList) (j : Json) (path : String) :
    resolve j (name ++ "." ++ path) = (step j name).bind fun next => resolve next path := by
  rw [resolve, segments_append h, follow]
  rfl

/-! ## Values without nulls -/

/-- There is no `null` in a value: no segments lead to one. -/
def NullFree (j : Json) : Prop :=
  ∀ names, follow j names ≠ some .null

theorem NullFree.of_step {j : Json} (hj : j ≠ .null)
    (h : ∀ name next, step j name = some next → NullFree next) : NullFree j := by
  intro names hnull
  cases names with
  | nil => exact hj (Option.some.inj hnull)
  | cons name rest =>
    obtain ⟨next, hstep, hrest⟩ := Option.bind_eq_some_iff.1 hnull
    exact h name next hstep rest hrest

theorem nullFree_string (s : String) : NullFree (.string s) := by
  apply NullFree.of_step
  · simp
  · simp [step]

theorem nullFree_number (n : Json.Number) : NullFree (.number n) := by
  apply NullFree.of_step
  · simp
  · simp [step]

theorem nullFree_ofNat {n : Nat} (h : n < 18446744073709551616) : NullFree (.ofNat n) := by
  have hrange : -9223372036854775808 ≤ (n : Int) ∧ (n : Int) < 18446744073709551616 := by omega
  rw [Json.ofNat, Json.ofInt, Json.Number.ofInt?, dif_pos hrange]
  exact nullFree_number _

theorem NullFree.array {items : List Json} (h : ∀ j ∈ items, NullFree j) :
    NullFree (.array items) := by
  apply NullFree.of_step
  · simp
  · intro name next hstep
    obtain ⟨i, -, hitem⟩ := Option.bind_eq_some_iff.1 hstep
    exact h next (List.mem_of_getElem? hitem)

/-- A field is looked up among the members that a record is written with. -/
theorem step_ofMembers (members : List (String × Json)) (name : String) :
    step (.ofMembers members) name = members.reverse.lookup name :=
  Json.lookup_sortMembers name members

theorem mem_of_step_ofMembers {members : List (String × Json)} {name : String} {next : Json}
    (h : step (.ofMembers members) name = some next) : (name, next) ∈ members :=
  Json.mem_of_mem_sortMembers (mem_of_lookup h)

theorem NullFree.ofMembers {members : List (String × Json)} (h : ∀ m ∈ members, NullFree m.2) :
    NullFree (.ofMembers members) := by
  apply NullFree.of_step
  · simp [Json.ofMembers]
  · intro name next hstep
    exact h (name, next) (mem_of_step_ofMembers hstep)

theorem nullFree_ofStrings (ss : List String) : NullFree (.ofStrings ss) := by
  apply NullFree.array
  intro j hj
  obtain ⟨s, -, rfl⟩ := List.mem_map.1 hj
  exact nullFree_string s

theorem nullFree_of_mem_optionalMember {α : Type} {key : String} {write : α → Json} {o : Option α}
    (h : ∀ a ∈ o, NullFree (write a)) : ∀ m ∈ optionalMember key write o, NullFree m.2 := by
  intro m hm
  cases o with
  | none => exact absurd hm List.not_mem_nil
  | some a =>
    rw [List.mem_singleton.1 hm]
    exact h a rfl

theorem nullFree_of_mem_optionalText {key : String} {o : Option String} :
    ∀ m ∈ optionalMember key .string o, NullFree m.2 :=
  nullFree_of_mem_optionalMember fun s _ => nullFree_string s

end Path

namespace Event

open Watchpost.Path (NullFree nullFree_ofNat nullFree_ofStrings nullFree_string
  nullFree_of_mem_optionalMember nullFree_of_mem_optionalText)

/-! ## Ports -/

/-- The port of the target, if there is one, has 16 bits. -/
def HasWordPort (e : Event) : Prop :=
  ∀ target ∈ e.target, ∀ port ∈ target.port, port < 65536

/-- Every event that is read has such a port. -/
theorem hasWordPort_of_read {tree : Json.Syntax} {e : Event} (h : read tree = some e) :
    e.HasWordPort := by
  intro target htarget port hport
  obtain ⟨_, -, -, -, -, -, -, -, -, -, -, hread, -⟩ := (readWithin_eq_some_iff ..).1 h
  obtain ⟨_, htree⟩ := Json.Fields.exists_read_of_optional hread htarget
  obtain ⟨_, -, -, -, -, hfield⟩ := (Target.read_eq_some_iff ..).1 htree
  obtain ⟨_, hword⟩ := Json.Fields.exists_read_of_optional hfield hport
  exact Json.lt_of_read_word hword

/-! ## Parts of an event -/

theorem Location.nullFree_document (l : Location) : NullFree l.document := by
  refine .ofMembers ?_
  simp only [List.forall_mem_append]
  refine ⟨?country, ?city⟩
  case country => exact nullFree_of_mem_optionalText
  case city => exact nullFree_of_mem_optionalText

theorem Source.nullFree_document (s : Source) : NullFree s.document := by
  refine .ofMembers ?_
  simp only [List.forall_mem_append, List.forall_mem_cons]
  refine ⟨⟨⟨?kind, ?name, List.forall_mem_nil _⟩, ?ip⟩, ?hostname⟩
  case kind => exact nullFree_string s.kind
  case name => exact nullFree_string s.name
  case ip => exact nullFree_of_mem_optionalText
  case hostname => exact nullFree_of_mem_optionalText

theorem Actor.nullFree_document (a : Actor) : NullFree a.document := by
  refine .ofMembers ?_
  simp only [List.forall_mem_append]
  refine ⟨⟨⟨?user, ?email⟩, ?ip⟩, ?geo⟩
  case user => exact nullFree_of_mem_optionalText
  case email => exact nullFree_of_mem_optionalText
  case ip => exact nullFree_of_mem_optionalText
  case geo => exact nullFree_of_mem_optionalMember fun l _ => l.nullFree_document

theorem Target.nullFree_document {t : Target} (h : ∀ port ∈ t.port, port < 65536) :
    NullFree t.document := by
  refine .ofMembers ?_
  simp only [List.forall_mem_append, List.forall_mem_cons]
  refine ⟨⟨⟨⟨?kind, List.forall_mem_nil _⟩, ?name⟩, ?ip⟩, ?port⟩
  case kind => exact nullFree_string t.kind
  case name => exact nullFree_of_mem_optionalText
  case ip => exact nullFree_of_mem_optionalText
  case port =>
    apply nullFree_of_mem_optionalMember
    intro port hport
    exact nullFree_ofNat (Nat.lt_trans (h port hport) (by decide))

theorem Provenance.nullFree_document (p : Provenance) : NullFree p.document := by
  refine .ofMembers ?_
  simp only [List.forall_mem_cons]
  refine ⟨?version, ?processed, ?enrichments, List.forall_mem_nil _⟩
  case version => exact nullFree_string p.version
  case processed => exact nullFree_string p.processedAt.text
  case enrichments => exact nullFree_ofStrings p.enrichments

/-- The metadata are the one member of an event's document that a `null` can be in. -/
theorem nullFree_of_step {e : Event} (hport : e.HasWordPort) {name : String} {next : Json}
    (h : Path.step e.document name = some next) : name = "metadata" ∨ NullFree next := by
  have hmem := Path.mem_of_step_ofMembers h
  simp only [List.mem_append, List.mem_cons, List.not_mem_nil, or_false, or_assoc,
    Prod.mk.injEq] at hmem
  rcases hmem with ⟨-, rfl⟩ | ⟨-, rfl⟩ | hingested | ⟨-, rfl⟩ | ⟨-, rfl⟩ | ⟨-, rfl⟩ | ⟨-, rfl⟩ |
    hsource | hactor | htarget | ⟨-, rfl⟩ | ⟨rfl, -⟩ | hprovenance
  · exact .inr (nullFree_string e.id)
  · exact .inr (nullFree_string e.timestamp.text)
  · exact .inr (nullFree_of_mem_optionalMember (fun t _ => nullFree_string t.text) _ hingested)
  · exact .inr (nullFree_string e.kind.name)
  · exact .inr (nullFree_string e.action)
  · exact .inr (nullFree_string e.severity.name)
  · exact .inr (nullFree_ofStrings e.categories)
  · exact .inr (nullFree_of_mem_optionalMember (fun s _ => s.nullFree_document) _ hsource)
  · exact .inr (nullFree_of_mem_optionalMember (fun a _ => a.nullFree_document) _ hactor)
  · have htargets : ∀ t ∈ e.target, NullFree t.document := by
      intro t ht
      exact Target.nullFree_document (hport t ht)
    exact .inr (nullFree_of_mem_optionalMember htargets _ htarget)
  · exact .inr (nullFree_string e.outcome.name)
  · exact .inl rfl
  · exact .inr (nullFree_of_mem_optionalMember (fun p _ => p.nullFree_document) _ hprovenance)

/-! ## Optional fields -/

/-- The optional fields of an event: the keys that lead to each in the document, and its value if it
    is set. -/
def optionalFields (e : Event) : List (List String × Option Json) :=
  let geo := e.actor.bind (·.geo)
  [(["ingested_at"], e.ingestedAt.map instantJson),
    (["source"], e.source.map Source.document),
    (["source", "ip"], (e.source.bind (·.ip)).map .string),
    (["source", "hostname"], (e.source.bind (·.hostname)).map .string),
    (["actor"], e.actor.map Actor.document),
    (["actor", "user"], (e.actor.bind (·.user)).map .string),
    (["actor", "email"], (e.actor.bind (·.email)).map .string),
    (["actor", "ip"], (e.actor.bind (·.ip)).map .string),
    (["actor", "geo"], geo.map Location.document),
    (["actor", "geo", "country"], (geo.bind (·.country)).map .string),
    (["actor", "geo", "city"], (geo.bind (·.city)).map .string),
    (["target"], e.target.map Target.document),
    (["target", "name"], (e.target.bind (·.name)).map .string),
    (["target", "ip"], (e.target.bind (·.ip)).map .string),
    (["target", "port"], (e.target.bind (·.port)).map .ofNat),
    (["pipeline"], e.provenance.map Provenance.document)]

theorem step_metadata (e : Event) :
    Path.step e.document "metadata" = some (.object e.metadata) := by
  simp [document, Path.step_ofMembers]

theorem step_source (e : Event) : Path.step e.document "source" = e.source.map Source.document := by
  simp [document, Path.step_ofMembers]

theorem step_actor (e : Event) : Path.step e.document "actor" = e.actor.map Actor.document := by
  simp [document, Path.step_ofMembers]

theorem step_target (e : Event) : Path.step e.document "target" = e.target.map Target.document := by
  simp [document, Path.step_ofMembers]

theorem follow_of_mem_optionalFields {e : Event} {field : List String × Option Json}
    (h : field ∈ e.optionalFields) : Path.follow e.document field.1 = field.2 := by
  simp only [optionalFields, List.mem_cons, List.not_mem_nil, or_false] at h
  rcases h with rfl | rfl | rfl | rfl | rfl | rfl | rfl | rfl | rfl | rfl | rfl | rfl | rfl | rfl |
    rfl | rfl
  -- The step into a record first, then the one to a field of that record.
  all_goals
    simp [Path.follow, step_source, step_actor, step_target, Option.bind_map, Option.map_bind]
  all_goals
    simp [document, Source.document, Actor.document, Location.document, Target.document,
      Path.step_ofMembers, Option.bind_map, Option.bind_assoc, Function.comp_def]

theorem keys_of_mem_optionalFields {e : Event} {field : List String × Option Json}
    (h : field ∈ e.optionalFields) : field.1 ≠ [] ∧ ∀ name ∈ field.1, '.' ∉ name.toList := by
  have hkeys : ∀ names ∈ e.optionalFields.map Prod.fst,
      names ≠ [] ∧ ∀ name ∈ names, '.' ∉ name.toList := by
    simp only [optionalFields, List.map_cons, List.map_nil]
    decide
  exact hkeys field.1 (List.mem_map_of_mem h)

/-! ## Nulls -/

/-- The value of a field satisfies a condition to be `null` only by being there and being `null`. -/
theorem holds_eq_null_iff {c : Rule.Condition} (hop : c.operator = .eq) (hvalue : c.value = .null)
    (document : Json) : c.holds document = true ↔ Path.resolve document c.field = some .null := by
  simp only [Rule.Condition.holds, Rule.Operator.holds, hop, hvalue]
  cases Path.resolve document c.field with
  | none => simp
  | some j => cases j <;> simp [Json.sameScalar]

/-- The nulls in the document of an event are those in its metadata, and what is unset is not
    there. -/
structure NullsInMetadata (e : Event) : Prop where
  of_null : ∀ path, Path.resolve e.document path = some .null →
    (Path.segments path).head? = some "metadata"
  metadata_eq : ∀ path, Path.resolve e.document ("metadata." ++ path)
    = Path.resolve (.object e.metadata) path
  optional_eq : ∀ field ∈ e.optionalFields,
    Path.resolve e.document (".".intercalate field.1) = field.2
  holds_iff : ∀ c : Rule.Condition, c.operator = .eq → c.value = .null →
    (c.holds e.document = true ↔ ∃ path, c.field = "metadata." ++ path ∧
      Path.resolve (.object e.metadata) path = some .null)

theorem head?_of_null {e : Event} (hport : e.HasWordPort) {path : String}
    (h : Path.resolve e.document path = some .null) :
    (Path.segments path).head? = some "metadata" := by
  rw [Path.resolve] at h
  cases hsegments : Path.segments path with
  | nil => exact absurd hsegments (Path.segments_ne_nil path)
  | cons name rest =>
    rw [hsegments] at h
    obtain ⟨next, hstep, hrest⟩ := Option.bind_eq_some_iff.1 h
    rcases nullFree_of_step hport hstep with rfl | hfree
    · rfl
    · exact absurd hrest (hfree rest)

theorem resolve_metadata (e : Event) (path : String) :
    Path.resolve e.document ("metadata." ++ path) = Path.resolve (.object e.metadata) path := by
  have hjoined : "metadata." = "metadata" ++ "." := by decide
  rw [hjoined, Path.resolve_append (by decide), step_metadata, Option.bind_some]

/-- A path to a `null` goes on after its first segment: the metadata themselves are an object. -/
theorem exists_path_of_null {e : Event} (hport : e.HasWordPort) {path : String}
    (h : Path.resolve e.document path = some .null) : ∃ rest, path = "metadata." ++ rest := by
  have hhead := head?_of_null hport h
  have hpath := Path.intercalate_segments path
  cases hsegments : Path.segments path with
  | nil => exact absurd hsegments (Path.segments_ne_nil path)
  | cons name names =>
    rw [hsegments, List.head?_cons, Option.some.injEq] at hhead
    rw [hsegments, hhead] at hpath
    cases names with
    | nil =>
      rw [Path.resolve, hsegments, hhead, Path.follow, step_metadata] at h
      exact absurd (Option.some.inj h) (by simp)
    | cons next rest =>
      rw [String.intercalate_cons_cons] at hpath
      exact ⟨_, hpath.symm⟩

/-- **Nulls in the document of an event are nulls of its metadata.** A path leads to `null` only by
    way of the metadata, where it finds what it would find in the metadata alone. A field that is
    not set is absent, so that a condition to be `null` holds of nothing else. -/
theorem nullsInMetadata {e : Event} (h : e.HasWordPort) : NullsInMetadata e := by
  constructor
  case of_null =>
    intro path hnull
    exact head?_of_null h hnull
  case metadata_eq => exact resolve_metadata e
  case optional_eq =>
    intro field hfield
    obtain ⟨hne, hdots⟩ := keys_of_mem_optionalFields hfield
    rw [Path.resolve, Path.segments_intercalate hne hdots, follow_of_mem_optionalFields hfield]
  case holds_iff =>
    intro c hop hvalue
    rw [holds_eq_null_iff hop hvalue]
    constructor
    · intro hnull
      obtain ⟨path, hpath⟩ := exists_path_of_null h hnull
      rw [hpath, resolve_metadata] at hnull
      exact ⟨path, hpath, hnull⟩
    · rintro ⟨path, hpath, hnull⟩
      rw [hpath, resolve_metadata, hnull]

/-- An event with a port, and with a `null` in a list of its metadata. -/
def probedEvent : Event :=
  { (default : Event) with
    target := some { kind := "host", name := none, ip := none, port := some 65535 }
    metadata := [("reason", .array [.string "", .null])] }

theorem nullsInMetadata_probedEvent :
    probedEvent.HasWordPort ∧ NullsInMetadata probedEvent ∧
      Path.resolve probedEvent.document "metadata.reason.1" = some .null ∧
      Path.resolve probedEvent.document "target.name" = none ∧
      (⟨"metadata.reason.1", .eq, .null⟩ : Rule.Condition).holds probedEvent.document = true := by
  have hport : probedEvent.HasWordPort := by
    intro target htarget port hfound
    obtain rfl := Option.some.inj htarget
    obtain rfl := Option.some.inj hfound
    decide
  have hnulls := nullsInMetadata hport
  have hreason : Path.resolve (.object probedEvent.metadata) "reason.1" = some .null := rfl
  refine ⟨hport, hnulls, ?reason, ?name, ?condition⟩
  case reason => exact (hnulls.metadata_eq "reason.1").trans hreason
  case name =>
    exact hnulls.optional_eq (["target", "name"], none) (by simp [optionalFields, probedEvent])
  case condition => exact (hnulls.holds_iff _ rfl rfl).2 ⟨"reason.1", by decide, hreason⟩

end Event

end Watchpost

import Watchpost.Event
import Watchpost.Proofs.Instant.Text
import Watchpost.Proofs.Json.Fields

set_option autoImplicit false

/-! # Events survive projection

The document of an event is read back as the event. Whatever fields are set, each is found again
under its own name, and what is not set is left out and read as not set. Texts, names and lists are
always read back; instants, ports and free-form members are when they were read to begin with. For
each record, `read_eq_some_iff` says which fields make it up, once for both directions. -/

namespace Watchpost.Event

open Json (Restores Survives Fields fields?_ofMembers restores_text restores_texts restores_name)

attribute [local simp] List.lookup_append lookup_cons_eq_ite

/-! ## Parts of an event -/

theorem survives_instant : Survives readInstant instantJson := by
  intro tree t h
  unfold readInstant at h
  split at h
  · rw [Restores, instantJson, Json.toSyntax, readInstant]
    exact (Instant.inCalendar_of_read? h).read?_text
  · cases h

/-- The fields that make up a place. -/
theorem Location.read_eq_some_iff (tree : Json.Syntax) (l : Location) :
    Location.read tree = some l ↔ ∃ fields, tree.fields? ["country", "city"] = some fields ∧
      fields.optional "country" Json.Read.text = some l.country ∧
      fields.optional "city" Json.Read.text = some l.city := by
  obtain ⟨country, city⟩ := l
  simp only [Location.read, Option.bind_eq_bind, Option.bind_eq_some_iff, Option.pure_def,
    Option.some.injEq]
  constructor
  · rintro ⟨fields, hfields, _, hcountry, _, hcity, ⟨⟩⟩
    exact ⟨fields, hfields, hcountry, hcity⟩
  · rintro ⟨fields, hfields, hcountry, hcity⟩
    exact ⟨fields, hfields, _, hcountry, _, hcity, rfl⟩

theorem Location.survives : Survives Location.read Location.document := by
  intro _ l _
  obtain ⟨fields, hfields, hlookup⟩ := fields?_ofMembers _ (rfl : l.document = _)
  refine (read_eq_some_iff ..).2 ⟨fields, hfields, ?country, ?city⟩
  case country => exact Fields.optional_eq_some rfl (fun s _ => restores_text s) (by simp [hlookup])
  case city => exact Fields.optional_eq_some rfl (fun s _ => restores_text s) (by simp [hlookup])

/-- The fields that make up a reporting system. -/
theorem Source.read_eq_some_iff (tree : Json.Syntax) (s : Source) :
    Source.read tree = some s ↔
      ∃ fields, tree.fields? ["type", "name", "ip", "hostname"] = some fields ∧
        fields.required "type" Json.Read.text = some s.kind ∧
        fields.required "name" Json.Read.text = some s.name ∧
        fields.optional "ip" Json.Read.text = some s.ip ∧
        fields.optional "hostname" Json.Read.text = some s.hostname := by
  obtain ⟨kind, name, ip, hostname⟩ := s
  simp only [Source.read, Option.bind_eq_bind, Option.bind_eq_some_iff, Option.pure_def,
    Option.some.injEq]
  constructor
  · rintro ⟨fields, hfields, _, hkind, _, hname, _, hip, _, hhostname, ⟨⟩⟩
    exact ⟨fields, hfields, hkind, hname, hip, hhostname⟩
  · rintro ⟨fields, hfields, hkind, hname, hip, hhostname⟩
    exact ⟨fields, hfields, _, hkind, _, hname, _, hip, _, hhostname, rfl⟩

theorem Source.survives : Survives Source.read Source.document := by
  intro _ s _
  obtain ⟨fields, hfields, hlookup⟩ := fields?_ofMembers _ (rfl : s.document = _)
  refine (read_eq_some_iff ..).2 ⟨fields, hfields, ?kind, ?name, ?ip, ?hostname⟩
  case kind => exact Fields.required_eq_some (restores_text _) (by simp [hlookup])
  case name => exact Fields.required_eq_some (restores_text _) (by simp [hlookup])
  case ip => exact Fields.optional_eq_some rfl (fun s _ => restores_text s) (by simp [hlookup])
  case hostname =>
    exact Fields.optional_eq_some rfl (fun s _ => restores_text s) (by simp [hlookup])

/-- The fields that make up an actor. -/
theorem Actor.read_eq_some_iff (tree : Json.Syntax) (a : Actor) :
    Actor.read tree = some a ↔
      ∃ fields, tree.fields? ["user", "email", "ip", "geo"] = some fields ∧
        fields.optional "user" Json.Read.text = some a.user ∧
        fields.optional "email" Json.Read.text = some a.email ∧
        fields.optional "ip" Json.Read.text = some a.ip ∧
        fields.optional "geo" Location.read = some a.geo := by
  obtain ⟨user, email, ip, geo⟩ := a
  simp only [Actor.read, Option.bind_eq_bind, Option.bind_eq_some_iff, Option.pure_def,
    Option.some.injEq]
  constructor
  · rintro ⟨fields, hfields, _, huser, _, hemail, _, hip, _, hgeo, ⟨⟩⟩
    exact ⟨fields, hfields, huser, hemail, hip, hgeo⟩
  · rintro ⟨fields, hfields, huser, hemail, hip, hgeo⟩
    exact ⟨fields, hfields, _, huser, _, hemail, _, hip, _, hgeo, rfl⟩

theorem Actor.survives : Survives Actor.read Actor.document := by
  intro tree a h
  obtain ⟨_, -, -, -, -, hgeo⟩ := (read_eq_some_iff ..).1 h
  obtain ⟨fields, hfields, hlookup⟩ := fields?_ofMembers _ (rfl : a.document = _)
  refine (read_eq_some_iff ..).2 ⟨fields, hfields, ?user, ?email, ?ip, ?geo⟩
  case user => exact Fields.optional_eq_some rfl (fun s _ => restores_text s) (by simp [hlookup])
  case email => exact Fields.optional_eq_some rfl (fun s _ => restores_text s) (by simp [hlookup])
  case ip => exact Fields.optional_eq_some rfl (fun s _ => restores_text s) (by simp [hlookup])
  case geo =>
    exact Fields.optional_eq_some rfl (Location.survives.of_optional hgeo) (by simp [hlookup])

/-- The fields that make up a target. -/
theorem Target.read_eq_some_iff (tree : Json.Syntax) (t : Target) :
    Target.read tree = some t ↔
      ∃ fields, tree.fields? ["type", "name", "ip", "port"] = some fields ∧
        fields.required "type" Json.Read.text = some t.kind ∧
        fields.optional "name" Json.Read.text = some t.name ∧
        fields.optional "ip" Json.Read.text = some t.ip ∧
        fields.optional "port" (Json.Read.word 16) = some t.port := by
  obtain ⟨kind, name, ip, port⟩ := t
  simp only [Target.read, Option.bind_eq_bind, Option.bind_eq_some_iff, Option.pure_def,
    Option.some.injEq]
  constructor
  · rintro ⟨fields, hfields, _, hkind, _, hname, _, hip, _, hport, ⟨⟩⟩
    exact ⟨fields, hfields, hkind, hname, hip, hport⟩
  · rintro ⟨fields, hfields, hkind, hname, hip, hport⟩
    exact ⟨fields, hfields, _, hkind, _, hname, _, hip, _, hport, rfl⟩

theorem Target.survives : Survives Target.read Target.document := by
  intro tree t h
  obtain ⟨_, -, -, -, -, hport⟩ := (read_eq_some_iff ..).1 h
  obtain ⟨fields, hfields, hlookup⟩ := fields?_ofMembers _ (rfl : t.document = _)
  refine (read_eq_some_iff ..).2 ⟨fields, hfields, ?kind, ?name, ?ip, ?port⟩
  case kind => exact Fields.required_eq_some (restores_text _) (by simp [hlookup])
  case name => exact Fields.optional_eq_some rfl (fun s _ => restores_text s) (by simp [hlookup])
  case ip => exact Fields.optional_eq_some rfl (fun s _ => restores_text s) (by simp [hlookup])
  case port =>
    exact Fields.optional_eq_some rfl ((Json.survives_word (by decide)).of_optional hport)
      (by simp [hlookup])

/-- The fields that make up the provenance of an event. -/
theorem Provenance.read_eq_some_iff (tree : Json.Syntax) (p : Provenance) :
    Provenance.read tree = some p ↔
      ∃ fields, tree.fields? ["version", "processed_at", "enrichments_applied"] = some fields ∧
        fields.required "version" Json.Read.text = some p.version ∧
        fields.required "processed_at" readInstant = some p.processedAt ∧
        fields.orElse "enrichments_applied" [] (Json.Read.list Json.Read.text) =
          some p.enrichments := by
  obtain ⟨version, processedAt, enrichments⟩ := p
  simp only [Provenance.read, Option.bind_eq_bind, Option.bind_eq_some_iff, Option.pure_def,
    Option.some.injEq]
  constructor
  · rintro ⟨fields, hfields, _, hversion, _, hprocessed, _, henrichments, ⟨⟩⟩
    exact ⟨fields, hfields, hversion, hprocessed, henrichments⟩
  · rintro ⟨fields, hfields, hversion, hprocessed, henrichments⟩
    exact ⟨fields, hfields, _, hversion, _, hprocessed, _, henrichments, rfl⟩

theorem Provenance.survives : Survives Provenance.read Provenance.document := by
  intro tree p h
  obtain ⟨_, -, -, hprocessed, -⟩ := (read_eq_some_iff ..).1 h
  obtain ⟨fields, hfields, hlookup⟩ := fields?_ofMembers _ (rfl : p.document = _)
  refine (read_eq_some_iff ..).2 ⟨fields, hfields, ?version, ?processed, ?enrichments⟩
  case version => exact Fields.required_eq_some (restores_text _) (by simp [hlookup])
  case processed =>
    exact Fields.required_eq_some (survives_instant.of_required hprocessed) (by simp [hlookup])
  case enrichments => exact Fields.orElse_eq_some (restores_texts _) (by simp [hlookup])

/-! ## Events -/

/-- The fields that make up an event. -/
theorem readWithin_eq_some_iff (depth : Nat) (tree : Json.Syntax) (e : Event) :
    readWithin depth tree = some e ↔ ∃ fields, tree.fields? fieldNames = some fields ∧
      fields.required "id" Json.Read.text = some e.id ∧
      fields.required "timestamp" readInstant = some e.timestamp ∧
      fields.optional "ingested_at" readInstant = some e.ingestedAt ∧
      fields.required "event_type" (Json.Read.name Kind.ofName?) = some e.kind ∧
      fields.required "event_action" Json.Read.text = some e.action ∧
      fields.orElse "event_severity" .low Severity.read = some e.severity ∧
      fields.orElse "event_category" [] (Json.Read.list Json.Read.text) = some e.categories ∧
      fields.optional "source" Source.read = some e.source ∧
      fields.optional "actor" Actor.read = some e.actor ∧
      fields.optional "target" Target.read = some e.target ∧
      fields.orElse "outcome" .unknown (Json.Read.name Outcome.ofName?) = some e.outcome ∧
      fields.orElse "metadata" [] (Json.Read.members (depth - 1)) = some e.metadata ∧
      fields.optional "pipeline" Provenance.read = some e.provenance := by
  constructor
  · intro h
    obtain ⟨fields, hfields, h⟩ := Option.bind_eq_some_iff.1 h
    obtain ⟨_, hid, h⟩ := Option.bind_eq_some_iff.1 h
    obtain ⟨_, htimestamp, h⟩ := Option.bind_eq_some_iff.1 h
    obtain ⟨_, hingested, h⟩ := Option.bind_eq_some_iff.1 h
    obtain ⟨_, hkind, h⟩ := Option.bind_eq_some_iff.1 h
    obtain ⟨_, haction, h⟩ := Option.bind_eq_some_iff.1 h
    obtain ⟨_, hseverity, h⟩ := Option.bind_eq_some_iff.1 h
    obtain ⟨_, hcategories, h⟩ := Option.bind_eq_some_iff.1 h
    obtain ⟨_, hsource, h⟩ := Option.bind_eq_some_iff.1 h
    obtain ⟨_, hactor, h⟩ := Option.bind_eq_some_iff.1 h
    obtain ⟨_, htarget, h⟩ := Option.bind_eq_some_iff.1 h
    obtain ⟨_, houtcome, h⟩ := Option.bind_eq_some_iff.1 h
    obtain ⟨_, hmetadata, h⟩ := Option.bind_eq_some_iff.1 h
    obtain ⟨_, hprovenance, h⟩ := Option.bind_eq_some_iff.1 h
    obtain rfl := Option.some.inj h
    exact ⟨fields, hfields, hid, htimestamp, hingested, hkind, haction, hseverity, hcategories,
      hsource, hactor, htarget, houtcome, hmetadata, hprovenance⟩
  · rintro ⟨fields, hfields, hid, htimestamp, hingested, hkind, haction, hseverity, hcategories,
      hsource, hactor, htarget, houtcome, hmetadata, hprovenance⟩
    dsimp only [readWithin, Option.bind_eq_bind]
    rw [hfields, Option.bind_some, hid, Option.bind_some, htimestamp, Option.bind_some, hingested,
      Option.bind_some, hkind, Option.bind_some, haction, Option.bind_some, hseverity,
      Option.bind_some, hcategories, Option.bind_some, hsource, Option.bind_some, hactor,
      Option.bind_some, htarget, Option.bind_some, houtcome, Option.bind_some, hmetadata,
      Option.bind_some, hprovenance, Option.bind_some]
    rfl

/-- The metadata of an event that was read are an object in normal form. -/
theorem isNormal_metadata {depth : Nat} {tree : Json.Syntax} {e : Event}
    (h : readWithin depth tree = some e) : Json.IsNormal (.object e.metadata) := by
  obtain ⟨fields, -, -, -, -, -, -, -, -, -, -, -, -, hmetadata, -⟩ :=
    (readWithin_eq_some_iff ..).1 h
  rw [Fields.orElse] at hmetadata
  split at hmetadata
  · rw [← Option.some.inj hmetadata]
    exact Json.isNormal_empty
  · exact Json.isNormal_of_read_members hmetadata

/-- An event that was read is read back from its document, with any depth that the document keeps
    to. -/
theorem restores_document {depth deep : Nat} {tree : Json.Syntax} {e : Event}
    (h : readWithin depth tree = some e) (hdeep : e.document.toSyntax.nesting ≤ deep) :
    Restores (readWithin deep) document e := by
  obtain ⟨_, -, -, htimestamp, hingested, -, -, -, -, hsource, hactor, htarget, -, -,
    hprovenance⟩ := (readWithin_eq_some_iff ..).1 h
  obtain ⟨fields, hfields, hlookup⟩ := fields?_ofMembers fieldNames (rfl : e.document = _)
  refine (readWithin_eq_some_iff ..).2 ⟨fields, hfields, ?id, ?timestamp, ?ingested, ?kind, ?action,
    ?severity, ?categories, ?source, ?actor, ?target, ?outcome, ?metadata, ?provenance⟩
  case id => exact Fields.required_eq_some (restores_text _) (by simp [hlookup, fieldNames])
  case timestamp =>
    exact Fields.required_eq_some (survives_instant.of_required htimestamp)
      (by simp [hlookup, fieldNames])
  case ingested =>
    exact Fields.optional_eq_some rfl (survives_instant.of_optional hingested)
      (by simp [hlookup, fieldNames])
  case kind =>
    exact Fields.required_eq_some (restores_name (Kind.ofName?_name _))
      (by simp [hlookup, fieldNames])
  case action => exact Fields.required_eq_some (restores_text _) (by simp [hlookup, fieldNames])
  case severity =>
    exact Fields.orElse_eq_some (restores_name (Severity.ofName?_name _))
      (by simp [hlookup, fieldNames])
  case categories => exact Fields.orElse_eq_some (restores_texts _) (by simp [hlookup, fieldNames])
  case source =>
    exact Fields.optional_eq_some rfl (Source.survives.of_optional hsource)
      (by simp [hlookup, fieldNames])
  case actor =>
    exact Fields.optional_eq_some rfl (Actor.survives.of_optional hactor)
      (by simp [hlookup, fieldNames])
  case target =>
    exact Fields.optional_eq_some rfl (Target.survives.of_optional htarget)
      (by simp [hlookup, fieldNames])
  case outcome =>
    exact Fields.orElse_eq_some (restores_name (Outcome.ofName?_name _))
      (by simp [hlookup, fieldNames])
  case metadata =>
    have hmetadata : fields.lookup "metadata" = some (Json.object e.metadata).toSyntax := by
      simp [hlookup, fieldNames]
    have hnesting := Json.nesting_lt_of_lookup hfields hmetadata
    exact Fields.orElse_eq_some (Json.restores_members (isNormal_metadata h) (by omega)) hmetadata
  case provenance =>
    exact Fields.optional_eq_some rfl (Provenance.survives.of_optional hprovenance)
      (by simp [hlookup, fieldNames])

/-! ## Projection -/

/-- The instants of an event, each with what stands in its place in the document. -/
def writtenInstants (e : Event) : List (Instant × Option Json) :=
  [(e.timestamp, e.document.get? "timestamp")] ++
    e.ingestedAt.toList.map (·, e.document.get? "ingested_at") ++
    e.provenance.toList.map fun p =>
      (p.processedAt, (e.document.get? "pipeline").bind (·.get? "processed_at"))

theorem exists_form_of_mem_writtenInstants {e : Event} {w : Instant × Option Json}
    (h : w ∈ e.writtenInstants) : ∃ s, w.2 = some (.string s) ∧ w.1.IsWrittenForm s := by
  have hform : w.2 = some (instantJson w.1) := by
    simp only [writtenInstants, List.mem_append, List.mem_singleton, List.mem_map,
      Option.mem_toList] at h
    rcases h with (rfl | ⟨t, ht, rfl⟩) | ⟨p, hp, rfl⟩
    · simp [document, Json.ofMembers, Json.get?, Json.findMember, Json.lookup_sortMembers]
    · simp [document, Json.ofMembers, Json.get?, Json.findMember, Json.lookup_sortMembers, ht]
    · simp [document, Provenance.document, Json.ofMembers, Json.get?, Json.findMember,
        Json.lookup_sortMembers, hp]
  exact ⟨w.1.text, hform, w.1.isWrittenForm_text⟩

/-- **Events survive projection.** An event that was read from a text is read back from its
    document, so that no other event has the same document; and its instants stand in the document
    in UTC, with the fewest digits that are exact. -/
theorem ofJson?_document_of_ofText? {text : String} {e : Event} (h : ofText? text = some e) :
    ofJson? e.document = some e ∧
      (∀ text' other, ofText? text' = some other → other.document = e.document → other = e) ∧
      ∀ w ∈ e.writtenInstants, ∃ s, w.2 = some (.string s) ∧ w.1.IsWrittenForm s := by
  have hback : ∀ text e, ofText? text = some e → ofJson? e.document = some e := by
    intro text e h
    obtain ⟨tree, -, hread⟩ := Option.bind_eq_some_iff.1 h
    exact restores_document hread (Nat.le_refl _)
  refine ⟨hback text e h, fun text' other hother hsame => ?_, fun w hw =>
    exists_form_of_mem_writtenInstants hw⟩
  have heq := hback text' other hother
  rw [hsame, hback text e h] at heq
  exact (Option.some.inj heq).symm

/-- An event written as the list of its fields, with an offset from UTC, half of a leap second, a
    port, and members out of order. -/
def listedText : String :=
  "[\"e\",\"2017-01-01 00:59:60.5+01:00\",null,\"file\",\"a\",\"low\",[]," ++
    "null,null,[\"h\",null,null,443],\"failure\",\x7b\"b\":[1],\"a\":\x7b\x7d\x7d]"

theorem ofJson?_document_listedText :
    ∃ e, ofText? listedText = some e ∧
      (e.timestamp, e.target.bind (·.port)) = (⟨1483228799, 1500000000⟩, some 443) ∧
      ofJson? e.document = some e ∧
      (∀ text' other, ofText? text' = some other → other.document = e.document → other = e) ∧
      ∀ w ∈ e.writtenInstants, ∃ s, w.2 = some (.string s) ∧ w.1.IsWrittenForm s := by
  have hread : (ofText? listedText).map (fun e => (e.timestamp, e.target.bind (·.port))) =
      some (⟨1483228799, 1500000000⟩, some 443) := by decide +kernel
  obtain ⟨e, he, hvalues⟩ := Option.map_eq_some_iff.1 hread
  exact ⟨e, he, hvalues, ofJson?_document_of_ofText? he⟩

end Watchpost.Event

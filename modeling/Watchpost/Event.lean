import Watchpost.Instant
import Watchpost.Severity

set_option autoImplicit false

/-! # Security events

An event says what happened, when and by whom. `Event.read` reads one from JSON; `Event.document`
is its JSON value, the document that rules look into. An optional part that is not set is left out
of the document, so that a look-up finds nothing there rather than `null`. -/

namespace Watchpost

/-! ## Parts of an event -/

/-- What kind of activity an event reports. -/
inductive Event.Kind where
  | authentication
  | network
  | file
  | process
  | audit
deriving DecidableEq, Repr, Inhabited

/-- How the reported activity ended. -/
inductive Event.Outcome where
  | success
  | failure
  | unknown
deriving DecidableEq, Repr, Inhabited

/-- A place on the map. -/
structure Event.Location where
  country : Option String
  city : Option String
deriving DecidableEq, Repr, Inhabited

/-- The system that reported an event. -/
structure Event.Source where
  kind : String
  name : String
  ip : Option String
  hostname : Option String
deriving DecidableEq, Repr, Inhabited

/-- Who acted. -/
structure Event.Actor where
  user : Option String
  email : Option String
  ip : Option String
  geo : Option Event.Location
deriving DecidableEq, Repr, Inhabited

/-- What was acted upon. -/
structure Event.Target where
  kind : String
  name : Option String
  ip : Option String
  port : Option Nat
deriving DecidableEq, Repr, Inhabited

/-- How an event was processed before it arrived. -/
structure Event.Provenance where
  version : String
  processedAt : Instant
  enrichments : List String
deriving DecidableEq, Repr, Inhabited

/-- A security event. -/
structure Event where
  id : String
  timestamp : Instant
  ingestedAt : Option Instant
  kind : Event.Kind
  action : String
  severity : Severity
  categories : List String
  source : Option Event.Source
  actor : Option Event.Actor
  target : Option Event.Target
  outcome : Event.Outcome
  metadata : List (String × Json)
  provenance : Option Event.Provenance
deriving Repr, Inhabited

namespace Event

namespace Kind

/-- All kinds of activity. -/
def all : List Kind := [.authentication, .network, .file, .process, .audit]

/-- The name of a kind of activity. -/
def name : Kind → String
  | .authentication => "authentication"
  | .network => "network"
  | .file => "file"
  | .process => "process"
  | .audit => "audit"

/-- The kind with a name. -/
def ofName? (s : String) : Option Kind :=
  all.find? (·.name == s)

@[simp] theorem ofName?_name (k : Kind) : ofName? k.name = some k := by
  cases k <;> decide

end Kind

namespace Outcome

/-- All outcomes. -/
def all : List Outcome := [.success, .failure, .unknown]

/-- The name of an outcome. -/
def name : Outcome → String
  | .success => "success"
  | .failure => "failure"
  | .unknown => "unknown"

/-- The outcome with a name. -/
def ofName? (s : String) : Option Outcome :=
  all.find? (·.name == s)

@[simp] theorem ofName?_name (o : Outcome) : ofName? o.name = some o := by
  cases o <;> decide

end Outcome

/-! ## The document of an event -/

/-- An instant as a JSON value. -/
def instantJson (t : Instant) : Json := .string t.text

/-- The JSON value of a place. -/
def Location.document (l : Location) : Json :=
  .ofMembers (Json.optionalMember "country" .string l.country ++
    Json.optionalMember "city" .string l.city)

/-- The JSON value of a reporting system. -/
def Source.document (s : Source) : Json :=
  .ofMembers ([("type", .string s.kind), ("name", .string s.name)] ++
    Json.optionalMember "ip" .string s.ip ++ Json.optionalMember "hostname" .string s.hostname)

/-- The JSON value of an actor. -/
def Actor.document (a : Actor) : Json :=
  .ofMembers (Json.optionalMember "user" .string a.user ++
    Json.optionalMember "email" .string a.email ++ Json.optionalMember "ip" .string a.ip ++
    Json.optionalMember "geo" Location.document a.geo)

/-- The JSON value of a target. -/
def Target.document (t : Target) : Json :=
  .ofMembers ([("type", .string t.kind)] ++ Json.optionalMember "name" .string t.name ++
    Json.optionalMember "ip" .string t.ip ++ Json.optionalMember "port" .ofNat t.port)

/-- The JSON value of an event's provenance. -/
def Provenance.document (p : Provenance) : Json :=
  .ofMembers [("version", .string p.version), ("processed_at", instantJson p.processedAt),
    ("enrichments_applied", .ofStrings p.enrichments)]

/-- The JSON value of an event. -/
def document (e : Event) : Json :=
  .ofMembers ([("id", .string e.id), ("timestamp", instantJson e.timestamp)] ++
    Json.optionalMember "ingested_at" instantJson e.ingestedAt ++
    [("event_type", .string e.kind.name), ("event_action", .string e.action),
      ("event_severity", .string e.severity.name), ("event_category", .ofStrings e.categories)] ++
    Json.optionalMember "source" Source.document e.source ++
    Json.optionalMember "actor" Actor.document e.actor ++
    Json.optionalMember "target" Target.document e.target ++
    [("outcome", .string e.outcome.name), ("metadata", .object e.metadata)] ++
    Json.optionalMember "pipeline" Provenance.document e.provenance)

/-! ## Reading -/

open Json (Reader Syntax)

/-- Read an instant. -/
def readInstant : Reader Instant
  | .string (some s) => Instant.read? s
  | _ => none

/-- Read a place. -/
def Location.read (tree : Syntax) : Option Location := do
  let fields ← tree.fields? ["country", "city"]
  return { country := ← fields.optional "country" Json.Read.text
           city := ← fields.optional "city" Json.Read.text }

/-- Read a reporting system. -/
def Source.read (tree : Syntax) : Option Source := do
  let fields ← tree.fields? ["type", "name", "ip", "hostname"]
  return { kind := ← fields.required "type" Json.Read.text
           name := ← fields.required "name" Json.Read.text
           ip := ← fields.optional "ip" Json.Read.text
           hostname := ← fields.optional "hostname" Json.Read.text }

/-- Read an actor. -/
def Actor.read (tree : Syntax) : Option Actor := do
  let fields ← tree.fields? ["user", "email", "ip", "geo"]
  return { user := ← fields.optional "user" Json.Read.text
           email := ← fields.optional "email" Json.Read.text
           ip := ← fields.optional "ip" Json.Read.text
           geo := ← fields.optional "geo" Location.read }

/-- Read a target. -/
def Target.read (tree : Syntax) : Option Target := do
  let fields ← tree.fields? ["type", "name", "ip", "port"]
  return { kind := ← fields.required "type" Json.Read.text
           name := ← fields.optional "name" Json.Read.text
           ip := ← fields.optional "ip" Json.Read.text
           port := ← fields.optional "port" (Json.Read.word 16) }

/-- Read an event's provenance. -/
def Provenance.read (tree : Syntax) : Option Provenance := do
  let fields ← tree.fields? ["version", "processed_at", "enrichments_applied"]
  return { version := ← fields.required "version" Json.Read.text
           processedAt := ← fields.required "processed_at" readInstant
           enrichments := ← fields.orElse "enrichments_applied" [] (Json.Read.list Json.Read.text) }

/-- The names of an event's fields, in order. -/
def fieldNames : List String :=
  ["id", "timestamp", "ingested_at", "event_type", "event_action", "event_severity",
    "event_category", "source", "actor", "target", "outcome", "metadata", "pipeline"]

/-- Read an event whose containers nest at most `depth` deep. -/
def readWithin (depth : Nat) (tree : Syntax) : Option Event := do
  let fields ← tree.fields? fieldNames
  return { id := ← fields.required "id" Json.Read.text
           timestamp := ← fields.required "timestamp" readInstant
           ingestedAt := ← fields.optional "ingested_at" readInstant
           kind := ← fields.required "event_type" (Json.Read.name Kind.ofName?)
           action := ← fields.required "event_action" Json.Read.text
           severity := ← fields.orElse "event_severity" .low Severity.read
           categories := ← fields.orElse "event_category" [] (Json.Read.list Json.Read.text)
           source := ← fields.optional "source" Source.read
           actor := ← fields.optional "actor" Actor.read
           target := ← fields.optional "target" Target.read
           outcome := ← fields.orElse "outcome" .unknown (Json.Read.name Outcome.ofName?)
           metadata := ← fields.orElse "metadata" [] (Json.Read.members (depth - 1))
           provenance := ← fields.optional "pipeline" Provenance.read }

/-- Read an event from the syntax tree of a text. -/
def read : Reader Event :=
  readWithin Json.maxDepth

/-- Read an event from a JSON text. -/
def ofText? (text : String) : Option Event :=
  (Syntax.read? text).bind read

/-- Read an event from a JSON value. Its containers may nest as deep as they do. -/
def ofJson? (j : Json) : Option Event :=
  readWithin j.toSyntax.nesting j.toSyntax

/-! ## The actor's label -/

/-- The best name of an actor: user, then email, then address. -/
def Actor.identifier (a : Actor) : Option String :=
  a.user <|> a.email <|> a.ip

/-- The best name of an event's actor. -/
def actorLabel (e : Event) : String :=
  (e.actor.bind Actor.identifier).getD "unknown"

end Event

end Watchpost

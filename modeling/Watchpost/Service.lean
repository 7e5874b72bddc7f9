import Watchpost.Http.Header
import Watchpost.Rule.Json
import Watchpost.Worker

set_option autoImplicit false

/-! # The observation service

Three paths tell about a running worker: its health, its rules and its buckets. Every response names
the origin that may read it, and a request that asks what is allowed is answered without further
ado. -/

namespace Watchpost.Service

/-! ## Origins -/

/-- The origin that may read responses, and what is logged about it. A text that cannot stand in a
    header gives way to any origin. -/
def allowedOrigin (origin : String) : String × List Log.Record :=
  if Http.isHeaderValue origin then (origin, [])
  else ("*", [Log.warn "invalid CORS origin, allowing any origin" [("origin", origin)]])

/-! ## Responses -/

/-- A response. -/
structure Response where
  status : Nat
  headers : Http.Headers
  body : Option Json

/-- The version of the program. -/
def version : String := "0.1.0"

/-- What is told about health. -/
def health {τ : Type} (en : Engine τ) (stats : Worker.Stats) : Json :=
  .ofMembers ([("status", .string "ok"), ("version", .string version),
    ("rules", .ofNat en.ruleSet.rules.length), ("aggregations", .ofNat en.tracker.size)] ++
    stats.members)

/-- What is told about a bucket. -/
def bucket (key : Tracker.Key) (b : Tracker.Bucket) : Json :=
  .ofMembers [("rule_id", .string key.ruleId), ("value", .string key.value),
    ("count", .ofNat b.count), ("window_start", .string b.windowStart.text),
    ("last_seen", .string b.lastSeen.text)]

/-- What a path tells, if it is one of the three. -/
def resource? {τ : Type} (en : Engine τ) (stats : Worker.Stats) (path : String) : Option Json :=
  match path with
  | "/health" => some (health en stats)
  | "/rules" => some (.array (en.ruleSet.rules.map Rule.document))
  | "/aggregations" => some (.array (en.tracker.snapshot.map fun (k, b) => bucket k b))
  | _ => none

/-- The path of a request target, without its query and fragment. -/
def pathOf (target : String) : String :=
  String.ofList (target.toList.takeWhile fun c => c != '?' && c != '#')

/-- Answer a request. -/
def respond {τ : Type} (origin : String) (en : Engine τ) (stats : Worker.Stats)
    (method target : String) : Response :=
  let readers : Http.Headers := [("access-control-allow-origin", origin)]
  let allowed : Http.Headers := [("allow", "GET,HEAD")]
  match resource? en stats (pathOf target) with
  | none => ⟨if method = "OPTIONS" then 200 else 404, readers, none⟩
  | some found =>
    match method with
    | "GET" => ⟨200, ("content-type", "application/json") :: readers, some found⟩
    | "HEAD" => ⟨200, ("content-type", "application/json") :: readers, none⟩
    | "OPTIONS" => ⟨200, allowed ++ readers, none⟩
    | _ => ⟨405, allowed ++ readers, none⟩

end Watchpost.Service

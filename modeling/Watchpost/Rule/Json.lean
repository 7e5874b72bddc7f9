import Watchpost.Rule

set_option autoImplicit false

/-! # Rules as JSON

`Rule.document` writes a rule as a JSON value, leaving out what is not set, and `Rule.ofJson?` reads
one. -/

namespace Watchpost.Rule

/-! ## Writing -/

/-- The JSON value of a filter. -/
def Filter.document : Filter → Json
  | .one text => .string text
  | .anyOf texts => .ofStrings texts

/-- The JSON value of a condition. -/
def Condition.document (c : Condition) : Json :=
  .ofMembers [("field", .string c.field), ("operator", .string c.operator.name), ("value", c.value)]

/-- The JSON value of an aggregation. -/
def Aggregation.document (a : Aggregation) : Json :=
  .ofMembers [("field", .string a.field), ("count_threshold", .ofNat a.threshold),
    ("time_window_seconds", .ofDouble a.windowSeconds)]

/-- The JSON value of the conditions of a rule. -/
def Conditions.document (c : Conditions) : Json :=
  .ofMembers (Json.optionalMember "event_type" Filter.document c.kind ++
    Json.optionalMember "event_action" Filter.document c.action ++
    (if c.fields.isEmpty then []
      else [("field_conditions", .array (c.fields.map Condition.document))]) ++
    Json.optionalMember "aggregation" Aggregation.document c.aggregation)

/-- The JSON value of a rule. -/
def document (r : Rule) : Json :=
  .ofMembers ([("id", .string r.id), ("name", .string r.name)] ++
    Json.optionalMember "description" .string r.description ++
    [("enabled", .bool r.enabled), ("severity", .string r.severity.name),
      ("conditions", r.conditions.document),
      ("actions", .array (r.actions.map ChannelConfig.document))])

/-! ## Reading -/

open Json (Reader Syntax)

/-- Read a filter. -/
def Filter.read : Reader Filter
  | .string s => s.map .one
  | tree => (Json.Read.list Json.Read.text tree).map .anyOf

/-- Read a condition whose literal nests at most `depth` deep. A missing literal is `null`. -/
def Condition.readWithin (depth : Nat) (tree : Syntax) : Option Condition := do
  let fields ← tree.fields? ["field", "operator", "value"]
  return { field := ← fields.required "field" Json.Read.text
           operator := Operator.ofName (← fields.required "operator" Json.Read.text)
           value := ← fields.orElse "value" .null (Json.Read.value depth) }

/-- Read an aggregation. -/
def Aggregation.read (tree : Syntax) : Option Aggregation := do
  let fields ← tree.fields? ["field", "count_threshold", "time_window_seconds"]
  return { field := ← fields.required "field" Json.Read.text
           threshold := ← fields.required "count_threshold" (Json.Read.word 64)
           windowSeconds := ← fields.required "time_window_seconds" Json.Read.double }

/-- Read the conditions of a rule, which nest at most `depth` deep. -/
def Conditions.readWithin (depth : Nat) (tree : Syntax) : Option Conditions := do
  let fields ← tree.fields? ["event_type", "event_action", "field_conditions", "aggregation"]
  return { kind := ← fields.optional "event_type" Filter.read
           action := ← fields.optional "event_action" Filter.read
           fields := ← fields.orElse "field_conditions" []
             (Json.Read.list (Condition.readWithin (depth - 3)))
           aggregation := ← fields.optional "aggregation" Aggregation.read }

/-- Read a rule whose containers nest at most `depth` deep. -/
def readWithin (depth : Nat) (tree : Syntax) : Option Rule := do
  let fields ← tree.fields?
    ["id", "name", "description", "enabled", "severity", "conditions", "actions"]
  return { id := ← fields.required "id" Json.Read.text
           name := ← fields.required "name" Json.Read.text
           description := ← fields.optional "description" Json.Read.text
           enabled := ← fields.orElse "enabled" true Json.Read.flag
           severity := ← fields.required "severity" Severity.read
           conditions := ← fields.required "conditions" (Conditions.readWithin (depth - 1))
           actions := ← fields.orElse "actions" []
             (Json.Read.list (ChannelConfig.readWithin (depth - 3))) }

/-- Read a rule from the syntax tree of a text. -/
def read : Reader Rule :=
  readWithin Json.maxDepth

/-- Read a rule from a JSON value. Its containers may nest as deep as they do. -/
def ofJson? (j : Json) : Option Rule :=
  readWithin j.toSyntax.nesting j.toSyntax

end Watchpost.Rule

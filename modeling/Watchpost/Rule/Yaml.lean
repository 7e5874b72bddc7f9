import Watchpost.Rule
import Watchpost.Yaml.Decode

set_option autoImplicit false

/-! # Rules as YAML

A rules document is a mapping with a list of rules. It holds the same records as the JSON form of
rules, but a record is always a mapping, and texts may be written as any scalar. -/

namespace Watchpost.Rule

open Yaml (Node Decode Reader)
open Yaml.Decode (target required orElse optional list text)

/-- Read a string that does not denote anything else. -/
def Filter.textOfYaml : Reader String := fun _ n => do
  match ← target n with
  | .scalar tag style s =>
    match Yaml.Decode.scalarValue tag style s with
    | some (.string s) => return s
    | _ => Yaml.Decode.refuse
  | _ => Yaml.Decode.refuse

/-- Read a filter. -/
def Filter.ofYaml : Reader Filter := fun depth n => do
  match ← target n with
  | .sequence tag items =>
    if (Yaml.Decode.ownTag? tag).isSome then Yaml.Decode.refuse
    else return .anyOf (← list Filter.textOfYaml depth (.sequence tag items))
  | n => return .one (← Filter.textOfYaml depth n)

/-- Read a condition. -/
def Condition.ofYaml : Reader Condition := fun depth n => do
  let record ← Yaml.Decode.fields ["field", "operator", "value"] depth n
  return { field := ← required record "field" text
           operator := Operator.ofName (← required record "operator" text)
           value := ← orElse record "value" .null Yaml.Decode.value }

/-- Read an aggregation. -/
def Aggregation.ofYaml : Reader Aggregation := fun depth n => do
  let record ← Yaml.Decode.fields ["field", "count_threshold", "time_window_seconds"] depth n
  return { field := ← required record "field" text
           threshold := ← required record "count_threshold" (Yaml.Decode.word 64)
           windowSeconds := ← required record "time_window_seconds" Yaml.Decode.double }

/-- Read the conditions of a rule. -/
def Conditions.ofYaml : Reader Conditions := fun depth n => do
  let record ← Yaml.Decode.fields
    ["event_type", "event_action", "field_conditions", "aggregation"] depth n
  return { kind := ← orElse record "event_type" none (optional Filter.ofYaml)
           action := ← orElse record "event_action" none (optional Filter.ofYaml)
           fields := ← orElse record "field_conditions" [] (list Condition.ofYaml)
           aggregation := ← orElse record "aggregation" none (optional Aggregation.ofYaml) }

/-- Read an entry of a list of actions. -/
def actionOfYaml : Reader ChannelConfig := fun depth n => do
  let record ← Yaml.Decode.fields ["type", "config"] depth n
  return { channel := Channel.ofName (← required record "type" text)
           options := ← orElse record "config" [] Yaml.Decode.members }

/-- Read a rule. -/
def ofYaml : Reader Rule := fun depth n => do
  let record ← Yaml.Decode.fields
    ["id", "name", "description", "enabled", "severity", "conditions", "actions"] depth n
  return { id := ← required record "id" text
           name := ← required record "name" text
           description := ← orElse record "description" none (optional text)
           enabled := ← orElse record "enabled" true Yaml.Decode.flag
           severity := ← required record "severity" (Yaml.Decode.name Severity.ofName?)
           conditions := ← required record "conditions" Conditions.ofYaml
           actions := ← orElse record "actions" [] (list actionOfYaml) }

/-- Read a list of rules from a rules document. -/
def listOfYaml : Reader (List Rule) := fun depth n => do
  let record ← Yaml.Decode.fields ["rules"] depth n
  orElse record "rules" [] (list ofYaml)

/-- Read a list of rules from a YAML text. -/
def listOfText? (source : String) : Option (List Rule) :=
  Yaml.decode? listOfYaml source

end Watchpost.Rule

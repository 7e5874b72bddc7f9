import Watchpost.Rule.Json
import Watchpost.Proofs.Json.Fields

set_option autoImplicit false

/-! # Rules read back from JSON

A rule is read back from its document when its open parts are such as a reader makes them: an
operator or a channel is the one that its name stands for, a literal or an option is a normal value,
a threshold fits a word and a window is finite. All other fields are read back whatever they hold,
and a list that was left out because it is empty is read as the empty list. Each part is read with
any depth that its own document keeps to, which the document of the whole then sees to. -/

namespace Watchpost

open Json (IsNormal Restores Fields fields?_ofMembers nesting_lt_of_lookup nesting_lt_of_mem
  restores_text restores_texts restores_flag restores_name restores_list)

attribute [local simp] List.lookup_append lookup_cons_eq_ite

/-! ## Actions -/

/-- An entry of a list of actions as it can be read back. -/
structure ChannelConfig.IsWritable (c : ChannelConfig) : Prop where
  channel : Channel.ofName c.channel.name = c.channel
  options : IsNormal (.object c.options)

theorem ChannelConfig.IsWritable.restores {depth : Nat} {c : ChannelConfig} (h : c.IsWritable)
    (hdepth : c.document.toSyntax.nesting ≤ depth + 1) :
    Restores (readWithin depth) document c := by
  obtain ⟨fields, hfields, hlookup⟩ := fields?_ofMembers ["type", "config"] (rfl : c.document = _)
  have htype : fields.required "type" Json.Read.text = some c.channel.name :=
    Fields.required_eq_some (restores_text _) (by simp [hlookup])
  have hoptions : fields.lookup "config" = some (Json.object c.options).toSyntax := by
    simp [hlookup]
  have hnesting := nesting_lt_of_lookup hfields hoptions
  have hconfig : fields.orElse "config" [] (Json.Read.members depth) = some c.options :=
    Fields.orElse_eq_some (Json.restores_members h.options (by omega)) hoptions
  rw [Restores, readWithin, hfields]
  simp only [Option.bind_eq_bind, Option.bind_some, htype, hconfig, h.channel, Option.pure_def]

namespace Rule

/-! ## Conditions -/

theorem Filter.restores (f : Filter) : Restores Filter.read Filter.document f := by
  cases f with
  | one text => rw [Restores, document, Json.toSyntax, read, Option.map_some]
  | anyOf texts =>
    have htexts : Json.Read.list Json.Read.text (Json.ofStrings texts).toSyntax = some texts :=
      restores_texts texts
    rw [Restores, document]
    exact congrArg (Option.map Filter.anyOf) htexts

/-- A condition as it can be read back. -/
structure Condition.IsWritable (c : Condition) : Prop where
  operator : Operator.ofName c.operator.name = c.operator
  value : IsNormal c.value

theorem Condition.IsWritable.restores {depth : Nat} {c : Condition} (h : c.IsWritable)
    (hdepth : c.document.toSyntax.nesting ≤ depth + 1) :
    Restores (readWithin depth) document c := by
  obtain ⟨fields, hfields, hlookup⟩ :=
    fields?_ofMembers ["field", "operator", "value"] (rfl : c.document = _)
  have hfield : fields.required "field" Json.Read.text = some c.field :=
    Fields.required_eq_some (restores_text _) (by simp [hlookup])
  have hoperator : fields.required "operator" Json.Read.text = some c.operator.name :=
    Fields.required_eq_some (restores_text _) (by simp [hlookup])
  have hliteral : fields.lookup "value" = some c.value.toSyntax := by
    simp [hlookup]
  have hnesting := nesting_lt_of_lookup hfields hliteral
  have hvalue : fields.orElse "value" .null (Json.Read.value depth) = some c.value :=
    Fields.orElse_eq_some (Json.restores_value h.value (by omega)) hliteral
  rw [Restores, readWithin, hfields]
  simp only [Option.bind_eq_bind, Option.bind_some, hfield, hoperator, hvalue, h.operator,
    Option.pure_def]

/-- An aggregation as it can be read back. -/
structure Aggregation.IsWritable (a : Aggregation) : Prop where
  threshold : a.threshold < 2 ^ 64
  window : a.windowSeconds.isFinite = true

theorem Aggregation.IsWritable.restores {a : Aggregation} (h : a.IsWritable) :
    Restores read document a := by
  obtain ⟨fields, hfields, hlookup⟩ :=
    fields?_ofMembers ["field", "count_threshold", "time_window_seconds"] (rfl : a.document = _)
  have hfield : fields.required "field" Json.Read.text = some a.field :=
    Fields.required_eq_some (restores_text _) (by simp [hlookup])
  have hthreshold : fields.required "count_threshold" (Json.Read.word 64) = some a.threshold :=
    Fields.required_eq_some (Json.restores_word (by decide) h.threshold) (by simp [hlookup])
  have hwindow : fields.required "time_window_seconds" Json.Read.double = some a.windowSeconds :=
    Fields.required_eq_some (Json.restores_double h.window) (by simp [hlookup])
  rw [Restores, read, hfields]
  simp only [Option.bind_eq_bind, Option.bind_some, hfield, hthreshold, hwindow, Option.pure_def]

/-- The conditions of a rule as they can be read back. -/
structure Conditions.IsWritable (c : Conditions) : Prop where
  fields : ∀ condition ∈ c.fields, condition.IsWritable
  aggregation : ∀ a ∈ c.aggregation, a.IsWritable

theorem Conditions.IsWritable.restores {depth : Nat} {c : Conditions} (h : c.IsWritable)
    (hdepth : c.document.toSyntax.nesting ≤ depth) : Restores (readWithin depth) document c := by
  obtain ⟨fields, hfields, hlookup⟩ := fields?_ofMembers
    ["event_type", "event_action", "field_conditions", "aggregation"] (rfl : c.document = _)
  have hkind : fields.optional "event_type" Filter.read = some c.kind :=
    Fields.optional_eq_some rfl (fun f _ => f.restores) (by split at hlookup <;> simp [hlookup])
  have haction : fields.optional "event_action" Filter.read = some c.action :=
    Fields.optional_eq_some rfl (fun f _ => f.restores) (by split at hlookup <;> simp [hlookup])
  have hconditions : fields.orElse "field_conditions" []
      (Json.Read.list (Condition.readWithin (depth - 3))) = some c.fields := by
    by_cases hempty : c.fields = []
    · have hmissing : fields.lookup "field_conditions" = none := by simp [hlookup, hempty]
      rw [Fields.orElse, hmissing, hempty]
    · have hpresent : c.fields.isEmpty = false := List.isEmpty_eq_false_iff.2 hempty
      have hlist : fields.lookup "field_conditions"
          = some (Json.array (c.fields.map Condition.document)).toSyntax := by
        simp [hlookup, hpresent]
      have hnesting := nesting_lt_of_lookup hfields hlist
      refine Fields.orElse_eq_some (restores_list fun condition hc => ?_) hlist
      have hitem := nesting_lt_of_mem (List.mem_map_of_mem (f := Condition.document) hc)
      exact (h.fields condition hc).restores (by omega)
  have haggregation : fields.optional "aggregation" Aggregation.read = some c.aggregation :=
    Fields.optional_eq_some rfl (fun a ha => (h.aggregation a ha).restores)
      (by split at hlookup <;> simp [hlookup])
  rw [Restores, readWithin, hfields]
  simp only [Option.bind_eq_bind, Option.bind_some, hkind, haction, hconditions, haggregation,
    Option.pure_def]

/-! ## Rules -/

/-- A rule as it can be read back. -/
structure IsWritable (r : Rule) : Prop where
  conditions : r.conditions.IsWritable
  actions : ∀ c ∈ r.actions, c.IsWritable

/-- **A rule is read back from its document** when its open parts are as a reader makes them. -/
theorem IsWritable.ofJson?_document {r : Rule} (h : r.IsWritable) :
    ofJson? r.document = some r := by
  obtain ⟨fields, hfields, hlookup⟩ := fields?_ofMembers
    ["id", "name", "description", "enabled", "severity", "conditions", "actions"]
    (rfl : r.document = _)
  have hid : fields.required "id" Json.Read.text = some r.id :=
    Fields.required_eq_some (restores_text _) (by simp [hlookup])
  have hname : fields.required "name" Json.Read.text = some r.name :=
    Fields.required_eq_some (restores_text _) (by simp [hlookup])
  have hdescription : fields.optional "description" Json.Read.text = some r.description :=
    Fields.optional_eq_some rfl (fun s _ => restores_text s) (by simp [hlookup])
  have henabled : fields.orElse "enabled" true Json.Read.flag = some r.enabled :=
    Fields.orElse_eq_some (restores_flag _) (by simp [hlookup])
  have hseverity : fields.required "severity" Severity.read = some r.severity :=
    Fields.required_eq_some (restores_name (Severity.ofName?_name _)) (by simp [hlookup])
  have hconditions : fields.required "conditions"
      (Conditions.readWithin (r.document.toSyntax.nesting - 1)) = some r.conditions := by
    have hrecord : fields.lookup "conditions" = some r.conditions.document.toSyntax := by
      simp [hlookup]
    have hnesting := nesting_lt_of_lookup hfields hrecord
    exact Fields.required_eq_some (h.conditions.restores (by omega)) hrecord
  have hactions : fields.orElse "actions" []
      (Json.Read.list (ChannelConfig.readWithin (r.document.toSyntax.nesting - 3)))
        = some r.actions := by
    have hlist : fields.lookup "actions"
        = some (Json.array (r.actions.map ChannelConfig.document)).toSyntax := by
      simp [hlookup]
    have hnesting := nesting_lt_of_lookup hfields hlist
    refine Fields.orElse_eq_some (restores_list fun c hc => ?_) hlist
    have hitem := nesting_lt_of_mem (List.mem_map_of_mem (f := ChannelConfig.document) hc)
    exact (h.actions c hc).restores (by omega)
  rw [ofJson?, readWithin, hfields]
  simp only [Option.bind_eq_bind, Option.bind_some, hid, hname, hdescription, henabled, hseverity,
    hconditions, hactions, Option.pure_def]

end Rule

end Watchpost

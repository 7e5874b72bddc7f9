import Watchpost.Proofs.Engine.Isolation

set_option autoImplicit false

/-! # Where alerts go

An alert goes to the targets that were built from the actions of the rule that raised it, in the
order in which they are written, and to no other target. Three loops are passed on the way: targets
are built for each rule, rules are evaluated one after another, and targets are called one after
another. What happens in the last one is said once, by `Delivery.makeCalls`: the calls made for an
event are those of `Rule.routes`, and nothing else changes the world. -/

namespace Watchpost

open Delivery (Call Duration Fault Target)

/-! ## Calls one after another -/

namespace Delivery

/-- What a call is about. -/
def Call.sent {τ : Type} (c : Call τ) : τ × Alert :=
  (c.target, c.alert)

section

variable {τ ω : Type} [Target τ ω]

/-- Make calls one after another, each for the rule of its alert: the calls with how they ended, and
    the world that they leave. -/
def makeCalls (limit : Duration) : List (τ × Alert) → ω → List (Call τ) × ω
  | [], world => ([], world)
  | (target, a) :: rest, world =>
    let (call, _, world) := deliver limit a.ruleId a target world
    let (calls, world) := makeCalls limit rest world
    (call :: calls, world)

theorem makeCalls_cons (limit : Duration) (target : τ) (a : Alert) (rest : List (τ × Alert))
    (world : ω) :
    makeCalls limit ((target, a) :: rest) world
      = ((deliver limit a.ruleId a target world).1 ::
            (makeCalls limit rest (deliver limit a.ruleId a target world).2.2).1,
          (makeCalls limit rest (deliver limit a.ruleId a target world).2.2).2) :=
  rfl

/-- However a call ends, it is the call of this target for this alert. -/
theorem sent_deliver (limit : Duration) (ruleId : String) (a : Alert) (target : τ) (world : ω) :
    (deliver limit ruleId a target world).1.sent = (target, a) := by
  unfold deliver
  dsimp only
  split <;> rfl

/-- Every call is made, in order, whatever becomes of those before it. -/
theorem sent_makeCalls (limit : Duration) (sends : List (τ × Alert)) (world : ω) :
    (makeCalls limit sends world).1.map Call.sent = sends := by
  induction sends generalizing world with
  | nil => rfl
  | cons send rest ih =>
    obtain ⟨target, a⟩ := send
    rw [makeCalls_cons, List.map_cons, sent_deliver, ih]

theorem makeCalls_append (limit : Duration) (sends sends' : List (τ × Alert)) (world : ω) :
    makeCalls limit (sends ++ sends') world
      = ((makeCalls limit sends world).1 ++
            (makeCalls limit sends' (makeCalls limit sends world).2).1,
          (makeCalls limit sends' (makeCalls limit sends world).2).2) := by
  induction sends generalizing world with
  | nil => rfl
  | cons send rest ih =>
    obtain ⟨target, a⟩ := send
    rw [List.cons_append, makeCalls_cons, makeCalls_cons, ih, List.cons_append]

theorem deliverAll_eq_makeCalls (limit : Duration) (a : Alert) (targets : List τ) (world : ω) :
    ((deliverAll limit a.ruleId a targets world).1, (deliverAll limit a.ruleId a targets world).2.2)
      = makeCalls limit (targets.map fun target => (target, a)) world := by
  induction targets generalizing world with
  | nil => rfl
  | cons target rest ih =>
    rw [List.map_cons, makeCalls_cons, ← ih]
    rfl

end

end Delivery

/-! ## The targets of a rule -/

namespace Dispatcher

variable {τ ω : Type}

/-- A rule has the targets that it was given last. -/
theorem targetsOf_setTargets (d : Dispatcher τ) (ruleId : String) (targets : List τ) (k : String) :
    (d.setTargets ruleId targets).targetsOf k = if k = ruleId then targets else d.targetsOf k := by
  unfold targetsOf setTargets
  rw [List.lookup_cons]
  by_cases h : k = ruleId
  · rw [if_pos h, beq_iff_eq.2 h]
    rfl
  · rw [if_neg h, beq_eq_false_iff_ne.2 h]
    have hkept : (d.targets.filter fun entry => entry.1 != ruleId).lookup k = d.targets.lookup k :=
      (lookup_filter_key (· != ruleId) k d.targets).trans (if_pos (bne_iff_ne.2 h))
    exact congrArg (·.getD []) hkept

/-- An alert goes to the targets of its rule, if it has any. -/
theorem dispatch_eq_makeCalls [Target τ ω] (d : Dispatcher τ) (a : Alert) (world : ω) :
    ((d.dispatch a.ruleId a world).1, (d.dispatch a.ruleId a world).2.2)
      = Delivery.makeCalls d.limit ((d.targetsOf a.ruleId).map fun target => (target, a))
          world := by
  unfold dispatch
  split
  · next h =>
    rw [h]
    rfl
  · exact Delivery.deliverAll_eq_makeCalls d.limit a (d.targetsOf a.ruleId) world

end Dispatcher

/-- The targets that can be built from the actions of a rule, in the order of the actions. -/
def Rule.targets {τ : Type} (build : ChannelConfig → Except Fault τ) (r : Rule) : List τ :=
  r.actions.filterMap fun config => (build config).toOption

namespace RuleSet

variable {τ : Type} (build : ChannelConfig → Except Fault τ)

theorem buildActions_eq (r : Rule) (index : Nat) (actions : List ChannelConfig) :
    (buildActions build r index actions).1
      = actions.filterMap fun config => (build config).toOption := by
  induction actions generalizing index with
  | nil => rfl
  | cons config rest ih =>
    rw [buildActions, List.filterMap_cons, ← ih (index + 1)]
    cases build config <;> rfl

theorem buildAll_cons (d : Dispatcher τ) (r : Rule) (rest : List Rule) :
    (buildAll build d (r :: rest)).1
      = (buildAll build (d.setTargets r.id (r.targets build)) rest).1 := by
  rw [Rule.targets, ← buildActions_eq build r 0]
  rfl

theorem limit_buildAll (d : Dispatcher τ) (rules : List Rule) :
    (buildAll build d rules).1.limit = d.limit := by
  induction rules generalizing d with
  | nil => rfl
  | cons r rest ih =>
    rw [buildAll_cons, ih]
    rfl

/-- Rules that are built later leave the targets of a rule alone. -/
theorem targetsOf_buildAll_of_not_mem (d : Dispatcher τ) {rules : List Rule} {k : String}
    (h : k ∉ rules.map Rule.id) : (buildAll build d rules).1.targetsOf k = d.targetsOf k := by
  induction rules generalizing d with
  | nil => rfl
  | cons r rest ih =>
    rw [List.map_cons, List.mem_cons, not_or] at h
    rw [buildAll_cons, ih _ h.2, Dispatcher.targetsOf_setTargets, if_neg h.1]

/-- Each of the rules has the targets of its own actions. -/
theorem targetsOf_buildAll (d : Dispatcher τ) {rules : List Rule}
    (hnodup : (rules.map Rule.id).Nodup) {r : Rule} (hr : r ∈ rules) :
    (buildAll build d rules).1.targetsOf r.id = r.targets build := by
  induction rules generalizing d with
  | nil => exact absurd hr List.not_mem_nil
  | cons s rest ih =>
    rw [List.map_cons, List.nodup_cons] at hnodup
    rw [buildAll_cons]
    -- Rules after `s` have other identifiers, so they do not replace what was set for it.
    rcases List.mem_cons.1 hr with rfl | hr
    · rw [targetsOf_buildAll_of_not_mem build _ hnodup.1, Dispatcher.targetsOf_setTargets,
        if_pos rfl]
    · exact ih _ hnodup.2 hr

end RuleSet

/-! ## Alerts and the rules that raise them -/

namespace Rule

/-- The alerts that rules raise one after another, each with its rule. -/
def raisings (e : Event) (document : Json) :
    (Nat → Stamp) → List Rule → Tracker → List (Rule × Alert)
  | _, [], _ => []
  | clock, r :: rest, t =>
    let (evaluation, t) := r.evaluate e document (clock 0) t
    (Evaluation.raised evaluation).toList.map (fun a => (r, a)) ++
      raisings e document (fun n => clock (n + 1)) rest t

theorem raisings_cons (e : Event) (document : Json) (clock : Nat → Stamp) (r : Rule)
    (rest : List Rule) (t : Tracker) :
    raisings e document clock (r :: rest) t
      = (Evaluation.raised (r.evaluate e document (clock 0) t).1).toList.map (fun a => (r, a)) ++
          raisings e document (fun n => clock (n + 1)) rest (r.evaluate e document (clock 0) t).2 :=
  rfl

theorem map_snd_raisings (e : Event) (document : Json) (clock : Nat → Stamp) (rules : List Rule)
    (t : Tracker) :
    (raisings e document clock rules t).map Prod.snd = (detectAll e document clock rules t).1 := by
  induction rules generalizing clock t with
  | nil => rfl
  | cons r rest ih =>
    rw [raisings_cons, detectAll_cons, List.map_append, ih, List.map_map]
    congr 1
    exact List.map_id _

/-- Every rule raises at most one alert, and they come in the order of the rules. -/
theorem map_fst_raisings_sublist (e : Event) (document : Json) (clock : Nat → Stamp)
    (rules : List Rule) (t : Tracker) :
    ((raisings e document clock rules t).map Prod.fst).Sublist rules := by
  induction rules generalizing clock t with
  | nil => exact List.Sublist.refl []
  | cons r rest ih =>
    rw [raisings_cons, List.map_append]
    have hrest := ih (fun n => clock (n + 1)) (r.evaluate e document (clock 0) t).2
    cases Evaluation.raised (r.evaluate e document (clock 0) t).1 with
    | none => exact hrest.cons r
    | some a => exact hrest.cons_cons r

/-- An alert names the rule that raised it. -/
theorem ruleId_of_mem_raisings {e : Event} {document : Json} {clock : Nat → Stamp}
    {rules : List Rule} {t : Tracker} {x : Rule × Alert}
    (h : x ∈ raisings e document clock rules t) : x.2.ruleId = x.1.id := by
  induction rules generalizing clock t with
  | nil => exact absurd h List.not_mem_nil
  | cons r rest ih =>
    rw [raisings_cons, List.mem_append, List.mem_map] at h
    rcases h with ⟨a, ha, rfl⟩ | h
    · exact (of_raised (Option.mem_toList.1 ha)).2.1
    · exact ih h

section

variable {τ ω : Type} [Target τ ω]

/-- The targets that alerts go to, as a dispatcher has them for the rules that raised them. -/
def routesBy (d : Dispatcher τ) (raised : List (Rule × Alert)) : List (τ × Alert) :=
  raised.flatMap fun x => (d.targetsOf x.1.id).map fun target => (target, x.2)

theorem process_eq_makeCalls (r : Rule) (d : Dispatcher τ) (e : Event) (document : Json)
    (stamp : Stamp) (t : Tracker) (world : ω) :
    ((r.process d e document stamp t world).calls, (r.process d e document stamp t world).world)
      = Delivery.makeCalls d.limit (routesBy d
          ((Evaluation.raised (r.evaluate e document stamp t).1).toList.map fun a => (r, a)))
          world := by
  unfold process
  split
  · next a count t' heval =>
    have hraised : Evaluation.raised (r.evaluate e document stamp t).1 = some a := by
      rw [heval]
      rfl
    have hid : a.ruleId = r.id := (of_raised hraised).2.1
    rw [hraised, Option.toList_some, List.map_singleton, routesBy, List.flatMap_singleton, ← hid]
    exact d.dispatch_eq_makeCalls a world
  -- In all other cases there is no alert.
  all_goals next heval =>
    rw [heval]
    rfl

/-- The calls made while rules are processed are those of the alerts that they raise. -/
theorem processAll_eq_makeCalls (d : Dispatcher τ) (e : Event) (document : Json)
    (clock : Nat → Stamp) (rules : List Rule) (t : Tracker) (world : ω) :
    ((processAll d e document clock rules t world).calls,
        (processAll d e document clock rules t world).world)
      = Delivery.makeCalls d.limit (routesBy d (raisings e document clock rules t)) world := by
  induction rules generalizing clock t world with
  | nil => rfl
  | cons r rest ih =>
    have hfirst := process_eq_makeCalls r d e document (clock 0) t world
    have hothers := ih (fun n => clock (n + 1)) (r.process d e document (clock 0) t world).tracker
      (r.process d e document (clock 0) t world).world
    rw [routesBy] at hfirst hothers
    rw [raisings_cons, ← process_tracker r d e document (clock 0) t world, routesBy,
      List.flatMap_append, Delivery.makeCalls_append, ← hfirst, ← hothers]
    rfl

end

/-- The targets that alerts go to: for each alert, in order, those built from the actions of the
    rule that raised it. -/
def routes {τ : Type} (build : ChannelConfig → Except Fault τ) (raised : List (Rule × Alert)) :
    List (τ × Alert) :=
  raised.flatMap fun x => (x.1.targets build).map fun target => (target, x.2)

end Rule

/-! ## Processing an event -/

/-- Where the alerts of an event go. -/
structure Processing.Routed {τ ω : Type} [Target τ ω] (build : ChannelConfig → Except Fault τ)
    (limit : Duration) (rules : List Rule) (world : ω) (raised : List (Rule × Alert))
    (p : Processing τ ω) : Prop where
  alerts_eq : p.alerts = raised.map Prod.snd
  /-- Each rule raises at most one alert, and they come in the order of the rules. -/
  in_order : (raised.map Prod.fst).Sublist rules
  ruleId_eq : ∀ x ∈ raised, x.2.ruleId = x.1.id
  sent_eq : p.calls.map Call.sent = Rule.routes build raised
  /-- These calls are all that happens to the world. -/
  made : (p.calls, p.world) = Delivery.makeCalls limit (Rule.routes build raised) world

theorem Rule.routesBy_build {τ : Type} (build : ChannelConfig → Except Fault τ) (limit : Duration)
    {rules : List Rule} (hnodup : (rules.map Rule.id).Nodup) {raised : List (Rule × Alert)}
    (hraised : ∀ x ∈ raised, x.1 ∈ rules) :
    Rule.routesBy (RuleSet.build build limit rules).1.dispatcher raised
      = Rule.routes build raised := by
  rw [Rule.routesBy, Rule.routes, List.flatMap_def, List.flatMap_def]
  refine congrArg List.flatten (List.map_congr_left fun x hx => ?_)
  rw [← RuleSet.targetsOf_buildAll build (Dispatcher.empty limit) hnodup (hraised x hx)]
  rfl

/-- **Every alert goes to the targets of its own rule, each of them once and in order.** Rules with
    distinct identifiers are built into a rule set; whatever the tracker holds by then, whatever
    earlier calls returned and however long they took, an event makes these calls and no other. -/
theorem Engine.alerts_routed {τ ω : Type} [Target τ ω] {build : ChannelConfig → Except Fault τ}
    {limit : Duration} {rules : List Rule} (hnodup : (rules.map Rule.id).Nodup) {en : Engine τ}
    (hbuilt : en.ruleSet = (RuleSet.build build limit rules).1) (clock : Nat → Stamp) (e : Event)
    (world : ω) :
    (en.process clock e world).Routed build limit rules world
      (Rule.raisings e e.document clock rules en.tracker) := by
  have hrules : en.ruleSet.rules = rules := congrArg RuleSet.rules hbuilt
  have horder := Rule.map_fst_raisings_sublist e e.document clock rules en.tracker
  have hmem : ∀ x ∈ Rule.raisings e e.document clock rules en.tracker, x.1 ∈ rules :=
    fun x hx => horder.subset (List.mem_map_of_mem hx)
  have hlimit : en.ruleSet.dispatcher.limit = limit := by
    rw [hbuilt]
    exact RuleSet.limit_buildAll build (Dispatcher.empty limit) rules
  have hmade : ((en.process clock e world).calls, (en.process clock e world).world)
      = Delivery.makeCalls limit
          (Rule.routes build (Rule.raisings e e.document clock rules en.tracker)) world := by
    rw [Engine.process, Rule.processAll_eq_makeCalls, hlimit, hrules, hbuilt,
      Rule.routesBy_build build limit hnodup hmem]
  refine ⟨?_, horder, fun x hx => Rule.ruleId_of_mem_raisings hx, ?_, hmade⟩
  · rw [alerts_process, hrules, Rule.map_snd_raisings]
  · have hcalls : (en.process clock e world).calls = _ := congrArg Prod.fst hmade
    rw [hcalls, Delivery.sent_makeCalls]

theorem Engine.ruleSet_engineOver (rules : List Rule) :
    (engineOver rules).ruleSet = (RuleSet.build (Delivery.Notifier.build Environment.empty false)
      10000000000 rules).1 :=
  rfl

/-- Two rules that both raise an alert. One action of the first cannot be built, its chat channel
    cannot be reached, and the second rule has a target like one of the first. -/
theorem Engine.alerts_routed_of_login :
    let first := { loginRule "first" none with
      actions := [⟨.unknown "pager", []⟩, ⟨.slack, [("webhook_url", .string "http://chat/")]⟩,
        ⟨.console, []⟩] }
    let second := { loginRule "second" (some ⟨"actor.ip", 1, Binary64.ofNat 60⟩) with
      actions := [⟨.console, []⟩] }
    let other := loginRule "other" (some ⟨"actor.ip", 2, Binary64.ofNat 60⟩)
    let rules := [first, other, second]
    let build := Delivery.Notifier.build Environment.empty false
    let p := (engineOver rules).process (stampAt 0) (loginFrom "10.0.0.9")
      ({} : Delivery.Surroundings)
    (p.calls.map fun c => (c.target, c.alert.ruleId, c.success))
        = [(.slack "http://chat/", "first", false), (.console false, "first", true),
          (.console false, "second", true)] ∧
      p.Routed build 10000000000 rules {} (Rule.raisings (loginFrom "10.0.0.9")
        (loginFrom "10.0.0.9").document (stampAt 0) rules (engineOver rules).tracker) := by
  intro first second other rules build p
  have hnodup : (rules.map Rule.id).Nodup := by decide
  refine ⟨by decide +kernel, ?_⟩
  exact Engine.alerts_routed hnodup (ruleSet_engineOver rules) (stampAt 0) (loginFrom "10.0.0.9") _

end Watchpost

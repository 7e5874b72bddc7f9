import Watchpost.Proofs.Delivery.Webhook

set_option autoImplicit false

/-! # Webhooks that can make their requests

A webhook is built from a URL, a method and headers. The method and the headers are checked when it
is built; the URL is only expanded, and is read when the first request is made. So a webhook without
a template either makes a request for every alert or for none, and which of the two it is depends on
nothing but its URL. -/

namespace Watchpost.Delivery

/-- The same options with another URL. -/
def WebhookOptions.withUrl (options : WebhookOptions) (text : String) : WebhookOptions :=
  { options with url := text }

namespace Webhook

/-! ## Parts that are checked -/

/-- The method that options name. -/
def methodOf (options : WebhookOptions) : Option String :=
  match options.method with
  | none => some "POST"
  | some name => Http.method? name

theorem front_eq_ok_iff {env : Environment} {options : WebhookOptions} {url method : String} :
    front env options = .ok (url, method) ↔
      expand env options.url = .ok url ∧ methodOf options = some method := by
  unfold front methodOf
  cases expand env options.url with
  | error fault => simp [bind, Except.bind]
  | ok expanded =>
    cases options.method with
    | none => simp [bind, Except.bind]
    | some name => cases hmethod : Http.method? name <;> simp [bind, Except.bind, hmethod]

/-- What options without a template are built from. -/
theorem ofOptions_eq_ok_iff {env : Environment} {options : WebhookOptions}
    (htemplate : options.bodyTemplate = none) {w : Webhook} :
    ofOptions env options = .ok w ↔ ∃ url method entries, expand env options.url = .ok url ∧
      methodOf options = some method ∧ options.headers.mapM (readHeader env) = .ok entries ∧
      w = ⟨url, method, standardHeaders.putAll entries, none⟩ := by
  constructor
  · intro h
    rw [ofOptions_eq, htemplate] at h
    cases hfront : front env options with
    | error fault =>
      rw [hfront] at h
      cases h
    | ok start =>
      cases hread : options.headers.mapM (readHeader env) with
      | error fault =>
        rw [hfront, hread] at h
        cases h
      | ok entries =>
        rw [hfront, hread] at h
        obtain ⟨hurl, hmethod⟩ := front_eq_ok_iff.1 hfront
        exact ⟨start.1, start.2, entries, hurl, hmethod, rfl, (Except.ok.inj h).symm⟩
  · rintro ⟨url, method, entries, hurl, hmethod, hread, rfl⟩
    rw [ofOptions_of_read options (front_eq_ok_iff.2 ⟨hurl, hmethod⟩) hread, htemplate]
    rfl

/-! ## Requests -/

/-- Without a template nothing but the URL can stand in the way of a request. -/
theorem request_eq {w : Webhook} (htemplate : w.bodyTemplate = none) (env : Environment)
    (now : String) (a : Alert) :
    (w.request env now a).1 = match Url.read? w.url with
      | some url => .ok (requestTo url w.method w.headers a.webhookPayload.compact)
      | none => .error .http := by
  unfold request body
  rw [htemplate]
  dsimp only
  cases Url.read? w.url <;> rfl

/-- What the requests of a webhook depend on that was built from options without a template. -/
structure RequestsDependOnUrl (env : Environment) (options : WebhookOptions) (w : Webhook) :
    Prop where
  url_eq : expand env options.url = .ok w.url
  method_eq : methodOf options = some w.method
  headers_read : ∀ entry ∈ options.headers, ∃ header, readHeader env entry = .ok header
  /-- Any other text that can be expanded does for the URL just as well. -/
  url_free : ∀ text url, expand env text = .ok url →
    ofOptions env (options.withUrl text) = .ok { w with url := url }
  /-- The URL alone decides, for all alerts alike. -/
  made_iff : ∀ sending now a,
    (∃ r, (w.request sending now a).1 = .ok r) ↔ ∃ url, Url.read? w.url = some url
  failed : ∀ sending now a e, (w.request sending now a).1 = .error e → e = .http

/-- **A webhook that was built makes its requests if its URL can be read.** Its method can be used,
    and so can its headers, each of which was read when it was built. Its URL was not: any text that
    can be expanded is accepted, and one that is no URL fails every request instead. -/
theorem requests_depend_on_url {env : Environment} {options : WebhookOptions} {w : Webhook}
    (h : ofOptions env options = .ok w) (htemplate : options.bodyTemplate = none) :
    RequestsDependOnUrl env options w := by
  obtain ⟨url, method, entries, hurl, hmethod, hread, rfl⟩ := (ofOptions_eq_ok_iff htemplate).1 h
  constructor
  case url_eq => exact hurl
  case method_eq => exact hmethod
  case headers_read =>
    intro entry hentry
    exact exists_of_mapM_eq_ok hread hentry
  case url_free =>
    intro text other hother
    have hsame : (options.withUrl text).bodyTemplate = none := htemplate
    exact (ofOptions_eq_ok_iff hsame).2 ⟨other, method, entries, hother, hmethod, hread, rfl⟩
  case made_iff =>
    intro sending now a
    rw [request_eq rfl]
    cases Url.read? url <;> simp
  case failed =>
    intro sending now a e hfailed
    rw [request_eq rfl] at hfailed
    cases hread : Url.read? url with
    | none =>
      simp only [hread] at hfailed
      exact (Except.error.inj hfailed).symm
    | some u =>
      simp only [hread] at hfailed
      cases hfailed

/-- A webhook whose URL stands in a variable, with a method in small letters and a header. -/
def variableHook : WebhookOptions :=
  { url := "$\x7bHOOK\x7d/in", method := some "put", headers := [("X-Team", "soc")] }

/-- The variables that it is built with. -/
def hookVariables : Environment :=
  Environment.ofList [("HOOK", "https://hook.example")]

theorem requests_depend_on_url_variableHook :
    ∃ w, ofOptions hookVariables variableHook = .ok w ∧ variableHook.bodyTemplate = none ∧
      RequestsDependOnUrl hookVariables variableHook w ∧
      ∀ sending now a, ∃ r, (w.request sending now a).1 = .ok r := by
  have hurl : expand hookVariables variableHook.url = .ok "https://hook.example/in" := by
    decide +kernel
  have hmethod : methodOf variableHook = some "PUT" := by decide +kernel
  have hheader : readHeader hookVariables ("X-Team", "soc") = .ok ("x-team", "soc") := by
    decide +kernel
  have hread : variableHook.headers.mapM (readHeader hookVariables) = .ok [("x-team", "soc")] := by
    simp only [variableHook, List.mapM_cons, hheader]
    rfl
  have hbuilt := (ofOptions_eq_ok_iff (rfl : variableHook.bodyTemplate = none)).2
    ⟨_, _, _, hurl, hmethod, hread, rfl⟩
  have hdepend := requests_depend_on_url hbuilt rfl
  have hparsed : (Url.read? "https://hook.example/in").isSome = true := by decide +kernel
  refine ⟨_, hbuilt, rfl, hdepend, fun sending now a => ?_⟩
  exact (hdepend.made_iff sending now a).2 (Option.isSome_iff_exists.1 hparsed)

/-- A webhook whose URL lacks a scheme. -/
def schemelessHook : WebhookOptions :=
  { url := "hook.example/in" }

/-- A webhook can be built that makes a request for no alert at all. -/
theorem built_but_no_request_schemelessHook :
    ∃ w, ofOptions Environment.empty schemelessHook = .ok w ∧ schemelessHook.bodyTemplate = none ∧
      ∀ sending now a, ¬∃ r, (w.request sending now a).1 = .ok r := by
  have hurl : expand Environment.empty schemelessHook.url = .ok "hook.example/in" := by
    decide +kernel
  have hbuilt := (ofOptions_eq_ok_iff (rfl : schemelessHook.bodyTemplate = none)).2
    ⟨_, _, _, hurl, rfl, rfl, rfl⟩
  have hparsed : Url.read? "hook.example/in" = none := by decide +kernel
  refine ⟨_, hbuilt, rfl, fun sending now a => ?_⟩
  rw [request_eq rfl]
  simp [hparsed]

end Webhook

end Watchpost.Delivery

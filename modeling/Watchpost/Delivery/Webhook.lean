import Watchpost.Channel
import Watchpost.Delivery.Body
import Watchpost.Delivery.Error
import Watchpost.Delivery.Payload
import Watchpost.Http.Request
import Watchpost.Http.Status
import Watchpost.Text.Base64

set_option autoImplicit false

/-! # Webhooks

A webhook posts an alert to a URL. References in its URL and headers are replaced when it is built,
so that a missing variable is found before the first alert; the URL itself is read when a request is
made. -/

namespace Watchpost

namespace Delivery

/-- The options of a webhook as they are written in a rule. -/
structure WebhookOptions where
  url : String
  method : Option String := none
  headers : List (String × String) := []
  bodyTemplate : Option String := none
deriving DecidableEq, Repr

/-- A webhook that is ready to make requests. -/
structure Webhook where
  url : String
  method : String
  headers : Http.Headers
  bodyTemplate : Option String
deriving DecidableEq, Repr

/-- A text with its references replaced. -/
def expand (env : Environment) (input : String) : Except Fault String :=
  match env.expand input with
  | .ok s => .ok s
  | .error e => .error (.reference input e)

namespace Webhook

/-- Add a header, its name and value checked. -/
def addHeader (env : Environment) (headers : Http.Headers) (header : String × String) :
    Except Fault Http.Headers := do
  let name ← match Http.headerName? header.1 with
    | some name => .ok name
    | none => .error (.invalidHeaderName header.1)
  let value ← expand env header.2
  if Http.isHeaderValue value then .ok (headers.put name value)
  else .error (.invalidHeaderValue name)

/-- Build a webhook from its options. -/
def ofOptions (env : Environment) (options : WebhookOptions) : Except Fault Webhook := do
  let url ← expand env options.url
  let method ← match options.method with
    | none => .ok "POST"
    | some name =>
      match Http.method? name with
      | some method => .ok method
      | none => .error (.unsupportedMethod name)
  let headers ← options.headers.foldlM (addHeader env) [("content-type", "application/json")]
  match options.bodyTemplate with
  | some source =>
    if Template.isValid source then .ok ⟨url, method, headers, some source⟩
    else .error .malformedTemplate
  | none => .ok ⟨url, method, headers, none⟩

/-- The headers of the configuration of a webhook. -/
def headersOf (config : ChannelConfig) : Except Fault (List (String × String)) :=
  match config.option? "headers" with
  | none | some .null => .ok []
  | some (.object members) =>
    members.mapM fun (key, value) =>
      match value with
      | .string s => .ok (key, s)
      | _ => .error (.headerNotText key)
  | some _ => .error .headersNotMap

/-- Build a webhook from its configuration. -/
def ofConfig (env : Environment) (config : ChannelConfig) : Except Fault Webhook := do
  let url ← match config.textOption? "url" with
    | some url => .ok url
    | none => .error .missingUrl
  let headers ← headersOf config
  ofOptions env ⟨url, config.textOption? "method", headers, config.textOption? "body_template"⟩

/-- The body for an alert, and what is logged while it is rendered. -/
def body (env : Environment) (now : String) (w : Webhook) (a : Alert) :
    Except Error String × List Log.Record :=
  match w.bodyTemplate with
  | none => (.ok a.webhookPayload.compact, [])
  | some source =>
    match a.render env now source with
    | (some text, logs) => (.ok text, logs)
    | (none, logs) => (.error .template, logs)

/-- The header that carries a user name and a password. -/
def authorization (user : String × String) : String × String :=
  ("authorization",
    "Basic " ++ String.ofList (Text.base64 (user.1 ++ ":" ++ user.2).toUTF8.toList))

/-- A request with a body to a URL. User name and password move from the URL to a header, which the
    given headers may replace. -/
def requestTo (url : Url) (method : String) (headers : Http.Headers) (body : String) :
    Http.Request :=
  match url.user? with
  | none => ⟨method, url, headers, body⟩
  | some user =>
    let standard : Http.Headers := [authorization user]
    ⟨method, url.withoutUser, headers.foldl (fun hs h => hs.put h.1 h.2) standard, body⟩

/-- The request for an alert, and what is logged while it is made. -/
def request (env : Environment) (now : String) (w : Webhook) (a : Alert) :
    Except Error Http.Request × List Log.Record :=
  match w.body env now a with
  | (.error e, logs) => (.error e, logs)
  | (.ok body, logs) =>
    match Url.read? w.url with
    | some url => (.ok (requestTo url w.method w.headers body), logs)
    | none => (.error .http, logs)

end Webhook

end Delivery

end Watchpost

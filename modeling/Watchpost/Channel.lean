import Watchpost.Json.Fields

set_option autoImplicit false

/-! # Notification channels

A rule names the channels to notify and gives each its options. A name that is not known is kept,
so that the rule can be shown again as it was written; no target can be built for it. -/

namespace Watchpost

/-- A kind of notification target. -/
inductive Channel where
  | console
  | webhook
  | slack
  | unknown (name : String)
deriving DecidableEq, Repr, Inhabited

namespace Channel

/-- The channel with a name. -/
def ofName : String → Channel
  | "console" => .console
  | "webhook" => .webhook
  | "slack" => .slack
  | other => .unknown other

/-- The name of a channel. -/
def name : Channel → String
  | .console => "console"
  | .webhook => "webhook"
  | .slack => "slack"
  | .unknown name => name

@[simp] theorem name_ofName (s : String) : (ofName s).name = s := by
  unfold ofName
  split <;> rfl

end Channel

/-- One entry of a rule's list of actions: a channel and its options. -/
structure ChannelConfig where
  channel : Channel
  options : List (String × Json)
deriving Repr, Inhabited

namespace ChannelConfig

/-- The console, without options. -/
def console : ChannelConfig := ⟨.console, []⟩

/-- The value of an option. -/
def option? (c : ChannelConfig) (key : String) : Option Json :=
  Json.findMember key c.options

/-- The value of an option that is a string. -/
def textOption? (c : ChannelConfig) (key : String) : Option String :=
  (c.option? key).bind Json.asString?

/-- The JSON value of an entry. -/
def document (c : ChannelConfig) : Json :=
  .ofMembers [("type", .string c.channel.name), ("config", .object c.options)]

/-- Read an entry whose options nest at most `depth` deep. -/
def readWithin (depth : Nat) (tree : Json.Syntax) : Option ChannelConfig := do
  let fields ← tree.fields? ["type", "config"]
  return { channel := Channel.ofName (← fields.required "type" Json.Read.text)
           options := ← fields.orElse "config" [] (Json.Read.members depth) }

end ChannelConfig

end Watchpost

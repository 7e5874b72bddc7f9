import Watchpost.Environment
import Watchpost.Json.Basic
import Watchpost.Log
import Watchpost.Text.Blank
import Watchpost.Text.Case
import Watchpost.Text.Digits

set_option autoImplicit false

/-! # Configuration

Settings come from environment variables. Under a profile, the variable with the profile's name in
front wins over the plain one; an empty variable counts as unset, and a number that cannot be read
gives way to its default. -/

namespace Watchpost

/-- The settings of the program. -/
structure Config where
  /-- The name of the profile in capitals, empty for none. -/
  profile : String
  host : String
  port : Nat
  corsOrigin : String
  rulesDirectory : String
  watchesRules : Bool
  sweepIntervalSecs : Nat
  retentionSecs : Nat
  timeoutSecs : Nat
deriving DecidableEq, Repr, Inhabited

namespace Config

/-- The value of a setting: that under the profile, else the plain one. -/
def setting (env : Environment) (profile key : String) : Option String :=
  let read (name : String) : Option String := (env name).filter fun v => !v.isEmpty
  if profile.isEmpty then read key
  else (read (profile ++ "_" ++ key)).or (read key)

/-- A setting that is an unsigned number of the given bit width. -/
def number (env : Environment) (profile key : String) (width standard : Nat) : Nat :=
  (((setting env profile key).bind fun v => Text.readWord? width v.toList)).getD standard

/-- A setting that is on or off. -/
def flag (env : Environment) (profile key : String) (standard : Bool) : Bool :=
  match setting env profile key with
  | some v => ["1", "true", "yes", "on"].contains v.toLower
  | none => standard

/-- The settings under a profile. -/
def forProfile (env : Environment) (profile : String) : Config :=
  let profile := Text.upper (Text.trimmed profile)
  let text (key standard : String) : String := (setting env profile key).getD standard
  { profile := profile
    host := text "HOST" "0.0.0.0"
    port := number env profile "PORT" 16 3002
    corsOrigin := text "CORS_ORIGIN" "*"
    rulesDirectory := text "RULES_DIR" "rules"
    watchesRules := flag env profile "RULES_WATCH" false
    sweepIntervalSecs := number env profile "AGGREGATION_SWEEP_INTERVAL_SECS" 64 60
    retentionSecs := number env profile "AGGREGATION_RETENTION_SECS" 64 600
    timeoutSecs := number env profile "NOTIFY_TIMEOUT_SECS" 64 10 }

/-- The settings under the profile that the environment names. -/
def ofEnvironment (env : Environment) : Config :=
  forProfile env ((env "VIGIL_PROFILE").getD "")

/-- What the profile is called in reports. -/
def label (c : Config) : String :=
  if c.profile.isEmpty then "default" else c.profile

/-- The seconds between two sweeps, at least one. -/
def sweepInterval (c : Config) : Nat :=
  max c.sweepIntervalSecs 1

/-- The seconds that one delivery may take, at least one. -/
def timeout (c : Config) : Nat :=
  max c.timeoutSecs 1

/-- The settings as a JSON value. -/
def document (c : Config) : Json :=
  .ofMembers [("profile", .string c.profile),
    ("server", .ofMembers [("host", .string c.host), ("port", .ofNat c.port),
      ("cors_origin", .string c.corsOrigin)]),
    ("rules", .ofMembers [("dir", .string c.rulesDirectory), ("watch", .bool c.watchesRules)]),
    ("aggregation", .ofMembers [("sweep_interval_secs", .ofNat c.sweepIntervalSecs),
      ("retention_secs", .ofNat c.retentionSecs)]),
    ("notify", .ofMembers [("timeout_secs", .ofNat c.timeoutSecs)])]

/-- The settings as they are logged when the program starts. -/
def summary (c : Config) : List Log.Record :=
  [Log.info ("Config loaded (profile: " ++ c.label ++ "):") [],
   Log.info ("  server:      " ++ c.host ++ ":" ++ c.port.repr) [],
   Log.info ("  rules:       dir=" ++ c.rulesDirectory ++ ", watch=" ++
     (if c.watchesRules then "true" else "false")) [],
   Log.info ("  aggregation: sweep_every=" ++ c.sweepIntervalSecs.repr ++ "s, retention=" ++
     c.retentionSecs.repr ++ "s") [],
   Log.info ("  notify:      timeout=" ++ c.timeoutSecs.repr ++ "s") []]

end Config

end Watchpost

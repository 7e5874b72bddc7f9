import Watchpost.Config
import Watchpost.Environment
import Watchpost.Text.Split

set_option autoImplicit false

/-! # The command line

Options are long names behind two hyphens; the input has a short name as well. An option may be
given once. Options that are not given may come from environment variables. -/

namespace Watchpost

/-- What the command line asks for. -/
structure CommandLine where
  /-- The file to read events from, in place of the standard input. -/
  input : Option String
  rulesDirectory : Option String
  watch : Bool
  host : Option String
  port : Option Nat
  noHttp : Bool
  noColour : Bool
  /-- Whether to go on serving when the events are used up. -/
  linger : Bool
deriving DecidableEq, Repr, Inhabited

namespace CommandLine

/-- Why a command line does not start the program. -/
inductive Stop where
  | showVersion
  | showHelp
  | misused
deriving DecidableEq, Repr

/-- Names of options that take a value. -/
def valued : List String := ["input", "rules-dir", "host", "port"]

/-- Names of options without a value. -/
def flags : List String := ["watch", "no-http", "no-color", "linger"]

/-- Read a port. -/
def port? (s : String) : Option Nat :=
  let digits := match s.toList with
    | '-' :: ds => if ds.all (· == '0') then ds else []
    | ds => ds
  Text.readWord? 16 digits

/-- Whether a text may be the value of an option. -/
def isValue (name value : String) : Bool :=
  match name with
  | "port" => (port? value).isSome
  | "input" | "rules-dir" => !value.isEmpty
  | _ => true

/-- The options given so far, with their values. -/
abbrev Given := List (String × String)

/-- Add an option and its value. -/
def Given.add (given : Given) (name value : String) : Except Stop Given :=
  if (given.lookup name).isSome || !isValue name value then .error .misused
  else .ok ((name, value) :: given)

/-- Whether an argument can only be an option. -/
def looksLikeOption (s : String) : Bool :=
  s.toList.head? == some '-' && s != "-"

/-- A long option without its hyphens: its name, and its value behind an equals sign. -/
def splitLong (cs : List Char) : String × Option String :=
  match Text.splitAtFirst ['='] cs with
  | some (name, value) => (String.ofList name, some (String.ofList value))
  | none => (String.ofList cs, none)

/-- Go through arguments. The fuel is their number. -/
def parse : Nat → List String → Given → Except Stop Given
  | _, [], given => .ok given
  | 0, _, _ => .error .misused
  | fuel + 1, arg :: rest, given =>
    let takeNext (name : String) : Except Stop Given :=
      match rest with
      | value :: rest =>
        if looksLikeOption value then .error .misused
        else do parse fuel rest (← given.add name value)
      | [] => .error .misused
    match arg.toList with
    | ['-', '-'] => if rest.isEmpty then .ok given else .error .misused
    | '-' :: '-' :: cs =>
      match splitLong cs with
      | ("version", none) => .error .showVersion
      | ("help", none) => .error .showHelp
      | (name, none) =>
        if flags.contains name then do parse fuel rest (← given.add name "true")
        else if valued.contains name then takeNext name
        else .error .misused
      | (name, some value) =>
        if valued.contains name then do parse fuel rest (← given.add name value)
        else .error .misused
    | '-' :: 'V' :: _ => .error .showVersion
    | '-' :: 'h' :: _ => .error .showHelp
    | ['-', 'i'] => takeNext "input"
    | '-' :: 'i' :: '=' :: value => do parse fuel rest (← given.add "input" (String.ofList value))
    | '-' :: 'i' :: value => do parse fuel rest (← given.add "input" (String.ofList value))
    | _ => .error .misused

/-- Add an option from an environment variable, if it is not given. -/
def fromVariable (env : Environment) (name key : String) (given : Given) : Except Stop Given :=
  match given.lookup name, env key with
  | none, some value =>
    if flags.contains name then
      if value = "true" then .ok ((name, value) :: given)
      else if value = "false" then .ok given
      else .error .misused
    else given.add name value
  | _, _ => .ok given

/-- Read a command line. -/
def ofArguments (env : Environment) (args : List String) : Except Stop CommandLine := do
  let given ← parse args.length args []
  let given ← fromVariable env "input" "ALERTING_INPUT" given
  let given ← fromVariable env "no-http" "ALERTING_NO_HTTP" given
  let given ← fromVariable env "no-color" "NO_COLOR" given
  let isOn (name : String) : Bool := (given.lookup name).isSome
  return { input := given.lookup "input"
           rulesDirectory := given.lookup "rules-dir"
           watch := isOn "watch"
           host := given.lookup "host"
           port := (given.lookup "port").bind port?
           noHttp := isOn "no-http"
           noColour := isOn "no-color"
           linger := isOn "linger" }

/-- Settings with those of the command line put in place. -/
def settings (c : CommandLine) (config : Config) : Config :=
  { config with
    rulesDirectory := c.rulesDirectory.getD config.rulesDirectory
    watchesRules := c.watch || config.watchesRules
    host := c.host.getD config.host
    port := c.port.getD config.port }

end CommandLine

end Watchpost

import Watchpost.CommandLine
import Watchpost.Delivery.Notifier
import Watchpost.EnvironmentFile
import Watchpost.FileTree
import Watchpost.RuleFile
import Watchpost.Service
import Watchpost.Sweeper
import Watchpost.Worker

set_option autoImplicit false

/-! # A run of the program

A run reads its settings, loads the rules, opens its source of events, has the worker take them and
ends with a status: 0 for a run that came to its end, 1 for one that could not start, 2 for a
command line that is no command line. `prepare` does all that comes before the first event and
`finish` all that comes after the last, so that events can also be taken while they arrive. -/

namespace Watchpost

open Delivery (Notifier Surroundings)

namespace Program

/-- What a run finds around it. -/
structure Circumstances where
  environment : Environment
  /-- What stands at a path. -/
  find : String → Option FileTree
  /-- Whether a host and a port can be listened on. -/
  canListen : String → Nat → Bool
  /-- The time of rendering, as templates see it. -/
  now : String

/-- How a run ended. -/
structure Ending where
  status : Nat
  printed : String := ""
  logs : List Log.Record := []
  /-- The counts that a run reports which came to its end. -/
  totals : Option Worker.Stats := none

/-- A run before its first event. -/
structure Ready where
  line : CommandLine
  config : Config
  worker : Worker Notifier Surroundings
  /-- What the source of events is called. -/
  source : String
  /-- The file that the events come from; `none` for the standard input. -/
  file : Option FileTree

/-! ## Settings -/

/-- The file whose variables are added to the environment. -/
def variablesFile : String := ".env"

/-- The environment with the variables of the file for them, if there is one. -/
def extended (c : Circumstances) : Environment :=
  match c.find variablesFile with
  | some (.file content) => EnvironmentFile.extend c.environment content
  | _ => c.environment

/-- The settings of a run: those of the environment with those of the command line in place. -/
def configOf (env : Environment) (line : CommandLine) : Config :=
  line.settings (Config.ofEnvironment env)

/-- The paths at which a run looks for files. -/
def paths (line : CommandLine) (config : Config) : List String :=
  [variablesFile, config.rulesDirectory] ++ line.input.toList

/-- The address of the service, as it is reported. -/
def address (config : Config) : String :=
  config.host ++ ":" ++ config.port.repr

/-- What a version is called by. -/
def versionText : String := "alerting-worker " ++ Service.version ++ "\n"

/-- What is printed about the command line on demand. -/
def helpText : String :=
  "Detection worker: rule evaluation, aggregation and alert dispatch\n\n" ++
  "Usage: alerting-worker [OPTIONS]\n\n" ++
  "Options:\n" ++
  "  -i, --input <INPUT>          NDJSON event file to read instead of stdin\n" ++
  "      --rules-dir <RULES_DIR>  Rules directory (overrides RULES_DIR)\n" ++
  "      --watch                  Reload rules when files in the rules directory change\n" ++
  "      --host <HOST>            HTTP bind host (overrides HOST)\n" ++
  "      --port <PORT>            HTTP port (overrides PORT)\n" ++
  "      --no-http                Do not start the HTTP server\n" ++
  "      --no-color               Disable ANSI colours in console alerts\n" ++
  "      --linger                 Keep serving HTTP after the last event, until a signal\n" ++
  "  -h, --help                   Print help\n" ++
  "  -V, --version                Print version\n"

/-- The ending of a run that its command line stops. -/
def stopped : CommandLine.Stop → Ending
  | .showVersion => { status := 0, printed := versionText }
  | .showHelp => { status := 0, printed := helpText }
  | .misused => { status := 2 }

/-! ## Before the first event -/

/-- What is logged about the rules that were loaded. -/
def loadLogs (load : RuleLoad) : List Log.Record :=
  Log.info "rules loaded" [("rules", load.rules.length.repr), ("failed_files", load.failed.repr)] ::
    if load.rules.isEmpty then [Log.warn "no rules loaded, no alerts will fire" []] else []

/-- The nanoseconds that one delivery may take. -/
def limit (config : Config) : Delivery.Duration :=
  config.timeout * Sweeper.second

/-- The sweeper of a run, with what it logs. -/
def sweeper (config : Config) : Sweeper × List Log.Record :=
  Sweeper.start (config.sweepInterval * 1000) (config.retentionSecs * Sweeper.second)

/-- The engine over the rules at the path of the settings, with what is logged while it is built. -/
def engineOf (c : Circumstances) (env : Environment) (line : CommandLine) (config : Config) :
    Engine Notifier × List Log.Record :=
  let tree := c.find config.rulesDirectory
  let load := RuleLoad.ofTree tree
  let (engine, logs) := Engine.start (Notifier.build env (!line.noColour))
    (limit config) config.retentionSecs load.rules
  (engine, config.summary ++ RuleLoad.logs tree ++ loadLogs load ++ logs ++ (sweeper config).2)

/-- Begin to watch the rules, if that is asked for: what is logged, `none` if they are not there. -/
def watch? (c : Circumstances) (config : Config) : Option (List Log.Record) :=
  if config.watchesRules then
    (c.find config.rulesDirectory).map fun _ =>
      [Log.info "watching rules directory for changes (recursive)" []]
  else some []

/-- Begin to serve, if that is asked for: what is logged, and whether the address could be had. -/
def serve (c : Circumstances) (line : CommandLine) (config : Config) : List Log.Record × Bool :=
  if line.noHttp then ([], true)
  else
    let logs := (Service.allowedOrigin config.corsOrigin).2
    if c.canListen config.host config.port then
      (logs ++ [Log.info "alerting HTTP server listening" [("addr", address config)]], true)
    else (logs, false)

/-- Open the source of events: its name and its file, `none` if there is no such file. -/
def open? (c : Circumstances) (line : CommandLine) : Option (String × Option FileTree) :=
  match line.input with
  | none => some ("stdin", none)
  | some path => (c.find path).map fun file => (path, some file)

/-- Go through all that comes before the first event. -/
def prepare (c : Circumstances) (args : List String) : Except Ending Ready :=
  let env := extended c
  match CommandLine.ofArguments env args with
  | .error stop => .error (stopped stop)
  | .ok line =>
    let config := configOf env line
    let (engine, logs) := engineOf c env line config
    match watch? c config with
    | none => .error { status := 1, logs }
    | some more =>
      let logs := logs ++ more
      match serve c line config with
      | (more, false) => .error { status := 1, logs := logs ++ more }
      | (more, true) =>
        let logs := logs ++ more
        match open? c line with
        | none => .error { status := 1, logs }
        | some (source, file) =>
          let world : Surroundings := { environment := env, now := c.now }
          let logs := logs ++ [Log.info "alerting-worker starting" []]
          .ok { line, config, source, file, worker := { engine, world, logs } }

/-- Whether a run that is ready serves. -/
def Ready.serves (r : Ready) : Bool :=
  !r.line.noHttp

/-- Whether a run that is ready waits for a signal when its events are used up. -/
def Ready.waits (r : Ready) : Bool :=
  r.line.linger && r.serves

/-! ## Changed rules -/

/-- Put rules in place that were changed. They are discarded as a whole if any file fails. -/
def Ready.reload (r : Ready) (tree : Option FileTree) (w : Worker Notifier Surroundings) :
    Worker Notifier Surroundings :=
  let load := RuleLoad.ofTree tree
  let w := w.log (RuleLoad.logs tree)
  if load.failed = 0 then
    let (engine, logs) := Engine.reload (Notifier.build w.world.environment (!r.line.noColour))
      (limit r.config) w.engine load.rules
    { w with engine }.log
      (Log.info "hot-reloaded rules" [("rules", load.rules.length.repr)] :: logs)
  else
    w.log [Log.warn "rule reload had failing files, keeping current rules"
      [("failed", load.failed.repr)]]

/-! ## After the last event -/

/-- What is logged about a signal that was received. -/
def signalled : Log.Record :=
  Log.info "shutdown signal received" []

/-- What is logged when the events are used up and a signal is awaited. -/
def waiting : Log.Record :=
  Log.info "event source finished, serving HTTP until shutdown signal" []

/-- What is logged at the end of a run. -/
def farewell (stats : Worker.Stats) : Log.Record :=
  Log.info "alerting-worker exited cleanly"
    [("events", stats.processed.repr), ("alerts", stats.raised.repr),
      ("malformed", stats.malformed.repr)]

/-- Go through all that comes after the last event. -/
def Ready.finish (r : Ready) (w : Worker Notifier Surroundings) : Ending :=
  { status := 0
    printed := w.world.printed
    logs := w.logs ++ Sweeper.stopped ++
      (if r.serves then [Log.info "alerting HTTP server stopped" []] else []) ++
      [farewell w.stats]
    totals := some w.stats }

/-! ## The whole run -/

/-- Everything that a source gives. Of the standard input the bytes are given; a directory in the
    place of a file cannot be read. -/
def Ready.items (r : Ready) (input : ByteArray) : List EventLines.Item :=
  match r.file with
  | none => (EventLines.ofBytes input).items
  | some (.file content) => (EventLines.ofBytes content).items
  | some (.directory _) => [.error .unreadable]

/-- A run over an input that is there as a whole. A run that waits is sent a signal at once.
    `clock n` has the stamps of the rules for the `n`-th item. -/
def run (c : Circumstances) (clock : Nat → Nat → Stamp) (args : List String) (input : ByteArray) :
    Ending :=
  match prepare c args with
  | .error ending => ending
  | .ok r =>
    let w := r.worker.run (fun _ => false) clock r.source (r.items input)
    r.finish (if r.waits then w.log [waiting, signalled] else w)

end Program

end Watchpost

import Std.Async.DNS
import Std.Async.Signal
import Std.Async.System
import Std.Async.TCP
import Std.Http.Server
import Std.Time.DateTime.Timestamp
import Watchpost.Http.Answer
import Watchpost.Program

set_option autoImplicit false

/-! # The command

Everything here only connects `Program` with files, streams, clocks and sockets. Events are taken
while they arrive. A delivery that needs an answer from the network is worked out again once the
answer is there, so that the deliveries themselves stay a function of what they have been told. -/

namespace Watchpost.Main

open Delivery (Notifier Reply Surroundings)

/-! ## Clocks and identifiers -/

/-- The present time. -/
def now : IO Instant := do
  return Instant.ofSinceEpoch (← Std.Time.Timestamp.now).toNanosecondsSinceUnixEpoch.val

/-- The identifier that random bytes make, from the byte at a position on. -/
def identifier (bytes : ByteArray) (start : Nat) : Uuid :=
  Uuid.ofRandom ((List.range 16).foldl (fun n i => n * 256 + (bytes[start + i]?.getD 0).toNat) 0)

/-- Stamps of the present time for a number of rules. -/
def stamps (rules : Nat) : IO (Nat → Stamp) := do
  let time ← now
  let bytes ← IO.getRandomBytes (16 * rules).toUSize
  return fun n => ⟨time, identifier bytes (16 * n)⟩

/-! ## Files -/

/-- A content that cannot be read as a text. -/
def unreadable : ByteArray := ⟨#[0xFF]⟩

/-- The directories and files at a path, up to a depth. A file that cannot be read stands as one
    that holds no text. -/
def readTree : Nat → String → IO (Option FileTree)
  | 0, _ => return none
  | depth + 1, path => do
    let place := (← IO.currentDir) / path
    if ← place.isDir then
      let entries ← place.readDir
      let children ← entries.toList.filterMapM fun entry => do
        return (← readTree depth entry.path.toString).map fun child =>
          (FileTree.Name.ofText entry.fileName, child)
      return some (.directory children)
    else if ← place.pathExists then
      let content ← try IO.FS.readBinFile place catch _ => pure unreadable
      return some (.file content)
    else return none

/-- How deep directories are read. -/
def depth : Nat := 64

/-! ## Reports -/

/-- A log record as a line. -/
def line (time : Instant) (r : Log.Record) : String :=
  time.text ++ " " ++ r.level.name ++ " " ++ r.message ++
    String.join (r.fields.map fun (name, value) => " " ++ name ++ "=" ++ value) ++ "\n"

/-- Write log records, those at debug level left out. -/
def report (records : List Log.Record) : IO Unit := do
  let time ← now
  let errors ← IO.getStderr
  for r in records do
    unless r.level = .debug do errors.putStr (line time r)

/-- Write a text to the standard output. -/
def print (text : String) : IO Unit := do
  unless text.isEmpty do
    let output ← IO.getStdout
    output.putStr text
    output.flush

/-- Write what a worker has printed and logged, and take it off. -/
def release (w : Worker Notifier Surroundings) : IO (Worker Notifier Surroundings) := do
  print w.world.printed
  report w.logs
  return { w with world := { w.world with printed := "", requests := [] }, logs := [] }

/-! ## Network -/

/-- The addresses of a host. -/
def addresses (host : String) : IO (List Std.Net.IPAddr) := do
  let bare := (host.dropWhile (· == '[')).toString.takeWhile (· != ']') |>.toString
  match Std.Net.IPv4Addr.ofString bare, Std.Net.IPv6Addr.ofString bare with
  | some a, _ => return [.v4 a]
  | _, some a => return [.v6 a]
  | none, none => return (← (Std.Async.DNS.getAddrInfo bare "").block).toList

/-- An address with a port. -/
def socket (address : Std.Net.IPAddr) (port : Nat) : Std.Net.SocketAddress :=
  match address with
  | .v4 a => .v4 ⟨a, port.toUInt16⟩
  | .v6 a => .v6 ⟨a, port.toUInt16⟩

/-- Read from a connection until it is closed. -/
def readAll (client : Std.Async.TCP.Socket.Client) : Std.Async.Async ByteArray := do
  let mut bytes := ByteArray.empty
  repeat
    match ← client.recv? 65536 with
    | none => break
    | some more => bytes := bytes ++ more
  return bytes

/-- Send a request over a connection of its own. Encrypted connections are not made. -/
def post (r : Http.Request) : IO (Option Reply) := do
  if r.url.scheme != "http".toList then return none
  let address :: _ ← addresses (String.ofList r.url.host) | return none
  let client ← Std.Async.TCP.Socket.Client.mk
  (client.connect (socket address (r.url.port.getD 80))).block
  let bytes ← (do client.send r.text.toUTF8; readAll client : Std.Async.Async ByteArray).block
  match Http.Answer.read? bytes.toList with
  | some a => return some (.answer a.status a.text)
  | none => return some .closed

/-- Send a request, for as long as a delivery may take. -/
def postInTime (limit : Delivery.Duration) (r : Http.Request) : IO (Option Reply) := do
  let task ← IO.asTask (post r) .dedicated
  let start ← IO.monoNanosNow
  repeat
    if ← IO.hasFinished task then break
    if start + limit < (← IO.monoNanosNow) then return none
    IO.sleep 1
  match ← IO.wait task with
  | .ok reply => return reply
  | .error _ => return none

/-! ## State -/

/-- A run between two items. -/
structure Live where
  worker : Worker Notifier Surroundings
  sweeper : Sweeper
  /-- When the sweeper was started. -/
  start : Instant
  /-- The rules as they were read last, and when that was, in milliseconds. -/
  rules : Option FileTree
  readAt : Nat

/-- Do the sweeps that have fallen due. -/
def Live.sweep (l : Live) (time : Instant) : Live :=
  let (sweeper, tracker, logs) := l.sweeper.catchUp l.start time l.worker.engine.tracker
  { l with
    sweeper
    worker := { l.worker with engine := { l.worker.engine with tracker } }.log logs }

/-- The files of a directory tree, in the order of their paths. -/
def filesOf (tree : Option FileTree) : List (FileTree.Path × List UInt8) :=
  (RuleLoad.sortFiles ((tree.map RuleLoad.scan).elim [] (·.files))).filterMap fun (path, file) =>
    match file with
    | .file content => some (path, content.toList)
    | .directory _ => none

/-- Read the rules again if they are watched and have not been read for half a second. -/
def Live.refresh (r : Program.Ready) (l : Live) : IO Live := do
  let time ← IO.monoMsNow
  if !r.config.watchesRules || time < l.readAt + 500 then return l
  let tree ← readTree depth r.config.rulesDirectory
  if filesOf tree = filesOf l.rules then return { l with readAt := time }
  else return { l with worker := r.reload tree l.worker, rules := tree, readAt := time }

/-- Take an item, and post what there is to be posted. -/
def Live.take (r : Program.Ready) (l : Live) (item : EventLines.Item) : IO (Live × Bool) := do
  let time ← now
  let l := (← l.refresh r).sweep time
  let clock ← stamps l.worker.engine.ruleSet.rules.length
  let mut replies : List (Option Reply) := []
  repeat
    let world := { l.worker.world with now := time.offsetText, replies, unanswered := none }
    let (worker, goesOn) := { l.worker with world }.take clock r.source item
    match worker.world.unanswered with
    | some request => replies := replies ++ [← postInTime (Program.limit r.config) request]
    | none => return ({ l with worker := ← release worker }, goesOn)
  return (l, false)

/-! ## Service -/

/-- What the service shows. -/
structure Site where
  origin : String
  live : IO.Ref Live

/-- The status of an answer of the service. -/
def status (code : Nat) : Std.Http.Status :=
  match code with
  | 200 => .ok
  | 405 => .methodNotAllowed
  | _ => .notFound

instance : Std.Http.Server.Handler Site where
  ResponseBody := Std.Http.Body.Full
  onRequest site request := do
    let live := (← site.live.get).sweep (← now)
    let answer := Service.respond site.origin live.worker.engine live.worker.stats
      (toString request.line.method) (toString request.line.uri)
    let builder := answer.headers.foldl (fun b (name, value) => b.header! name value)
      (Std.Http.Response.withStatus (status answer.status))
    let text := (answer.body.map Json.compact).getD ""
    return builder.body (← Std.Http.Body.Full.ofByteArray text.toUTF8)

/-- Begin to serve; `none` if the address cannot be had. -/
def serve? (site : Site) (host : String) (port : Nat) : IO (Option Std.Http.Server) := do
  try
    let address :: _ ← addresses host | return none
    return some (← (Std.Http.Server.serve (socket address port) site).block)
  catch _ => return none

/-! ## The run -/

/-- Where items come from: a list, or the standard input, of which the number of lines read so far
    is kept. -/
inductive Source where
  | items (rest : IO.Ref (List EventLines.Item))
  | lines (read : IO.Ref Nat)

/-- The source of a run. -/
def Source.ofReady (r : Program.Ready) : IO Source := do
  match r.file with
  | none => return .lines (← IO.mkRef 0)
  | some _ => return .items (← IO.mkRef (r.items ByteArray.empty))

/-- Wait for the next item; `none` when there is no more. -/
def Source.next (s : Source) : IO (Option EventLines.Item) := do
  match s with
  | .items rest => rest.modifyGet fun
    | [] => (none, [])
    | item :: others => (some item, others)
  | .lines read =>
    let input ← IO.getStdin
    repeat
      let text ← try input.getLine catch _ => return some (.error .unreadable)
      if text.isEmpty then break
      let number ← read.modifyGet fun n => (n + 1, n + 1)
      if let some item := EventLines.item? number text.toUTF8.toList then return some item
    return none

/-- The signals that ask for a shutdown, each done when it has arrived. -/
structure Signals where
  interrupt : Task Unit
  terminate : Task Unit

/-- Begin to listen for a signal. -/
def listen (signal : Std.Async.Signal) : IO (Task Unit) := do
  let arrival ← (← Std.Async.Signal.Waiter.mk signal false).wait
  return Task.map (fun _ => ()) arrival

/-- Begin to listen for the signals. -/
def Signals.listen : IO Signals :=
  return ⟨← Main.listen .sigint, ← Main.listen .sigterm⟩

/-- Wait for one of the signals. -/
def Signals.wait (s : Signals) : IO Unit :=
  IO.waitAny [s.interrupt, s.terminate]

/-- Whether one of the signals has arrived. -/
def Signals.arrived (s : Signals) : IO Bool := do
  return (← IO.hasFinished s.interrupt) || (← IO.hasFinished s.terminate)

/-- Take items until there is none left or a signal arrives. -/
def takeAll (r : Program.Ready) (live : IO.Ref Live) (source : Source) (signals : Signals) :
    IO Unit := do
  let isSignal (task : Task Unit) : Task (Option (Except IO.Error (Option EventLines.Item))) :=
    task.map fun _ => none
  repeat
    let waiting ← IO.asTask source.next .dedicated
    let first ← IO.waitAny
      [isSignal signals.interrupt, isSignal signals.terminate, waiting.map some]
    match first with
    | none =>
      live.modify fun l => { l with worker := l.worker.log [Program.signalled] |>.interrupt }
      break
    | some (.error _) | some (.ok none) =>
      live.modify fun l => { l with worker := l.worker.exhaust r.source }
      break
    | some (.ok (some item)) =>
      let (l, goesOn) ← (← live.get).take r item
      live.set l
      unless goesOn do break

/-- Write what a run leaves at its end, and give its status. -/
def conclude (ending : Program.Ending) : IO UInt32 := do
  print ending.printed
  report ending.logs
  return ending.status.toUInt32

/-- Run with everything prepared. -/
def go (r : Program.Ready) (live : IO.Ref Live) (server : Option Std.Http.Server) : IO UInt32 := do
  let signals ← Signals.listen
  let tree ← if r.config.watchesRules then readTree depth r.config.rulesDirectory else pure none
  let worker ← release (r.worker.begin r.source)
  live.set ⟨worker, (Program.sweeper r.config).1, ← now, tree, ← IO.monoMsNow⟩
  takeAll r live (← Source.ofReady r) signals
  let worker ← release (← live.get).worker
  if r.waits then
    report [Program.waiting]
    unless ← signals.arrived do
      signals.wait
      report [Program.signalled]
  if let some server := server then server.shutdownAndWait.block
  conclude (r.finish worker)

/-- The command with arguments and environment variables. -/
def command (environment : Environment) (args : List String) : IO UInt32 := do
  let time := (← now).offsetText
  let own ← readTree 1 Program.variablesFile
  let known : Program.Circumstances :=
    { environment, find := fun path => if path = Program.variablesFile then own else none,
      canListen := fun _ _ => false, now := time }
  let env := Program.extended known
  match CommandLine.ofArguments env args with
  | .error stop => conclude (Program.stopped stop)
  | .ok line =>
    let config := Program.configOf env line
    let found ← (Program.paths line config).mapM fun path => do
      return (path, ← readTree depth path)
    let origin := (Service.allowedOrigin config.corsOrigin).1
    let empty : Worker Notifier Surroundings :=
      { engine := ⟨RuleSet.empty (Program.limit config), Tracker.empty, config.retentionSecs⟩,
        world := {} }
    let live ← IO.mkRef (⟨empty, (Program.sweeper config).1, ← now, none, 0⟩ : Live)
    let server ←
      if line.noHttp then pure none else serve? ⟨origin, live⟩ config.host config.port
    let circumstances : Program.Circumstances :=
      { environment, find := fun path => (found.lookup path).join,
        canListen := fun _ _ => server.isSome, now := time }
    match Program.prepare circumstances args with
    | .error ending =>
      if let some server := server then server.shutdownAndWait.block
      conclude ending
    | .ok r => go r live server

end Watchpost.Main

/-- The command. -/
def main (args : List String) : IO UInt32 := do
  let environment ← Std.Async.System.getEnv
  Watchpost.Main.command environment.get? args

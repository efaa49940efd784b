/-
  The command line.

    lease-keeper [--config FILE] [--url URL]... COMMAND
    lease-keeper keep [--config FILE]

  The first form asks the registry, the second keeps this process registered until a signal comes.
  Everything is decided elsewhere; here files and the environment are read, requests are sent, time
  passes, and results are printed.
-/
import LeaseKeeper.CommandLine.Execution
import LeaseKeeper.Daemon
import LeaseKeeper.Http.Message
import LeaseKeeper.Json.Indented
import Std.Async.DNS
import Std.Async.Signal
import Std.Async.TCP
import Std.Async.Timer

namespace LeaseKeeper.Program

open Std.Async

/-! ## Requests -/

/-- The addresses of a host. -/
def addresses (host : Url.Host) : Async (List Std.Net.IPAddr) := do
  let name := match host with
    | .ipv6 pieces => String.ofList (Url.writeIpv6 pieces)
    | host => String.ofList host.write
  return (← DNS.getAddrInfo name "").toList

/-- An address with a port. -/
def endpoint (port : UInt16) : Std.Net.IPAddr → Std.Net.SocketAddress
  | .v4 addr => .v4 ⟨addr, port⟩
  | .v6 addr => .v6 ⟨addr, port⟩

/-- Everything that comes until the other side closes. -/
partial def receiveAll (client : TCP.Socket.Client) (bytes : ByteArray) : Async ByteArray := do
  match ← client.recv? 65536 with
  | some more => receiveAll client (bytes ++ more)
  | none => return bytes

/-- Send a request to the first address that accepts a connection. -/
def sendTo (r : HttpRequest) (port : UInt16) : List Std.Net.IPAddr → Async HttpOutcome
  | [] => return .unanswered
  | addr :: rest =>
    try
      let client ← TCP.Socket.Client.mk
      client.connect (endpoint port addr)
      client.send r.message.toUTF8
      return .ofBytes (← receiveAll client .empty).toList
    catch _ => sendTo r port rest

/-- **Carry out a request**, if it is not encrypted, within its time. -/
def exchange (r : HttpRequest) : IO HttpOutcome := do
  match r.url.scheme, r.url.host with
  | "http", some host =>
    let port := r.url.port.getD 80
    let answer : Async HttpOutcome := do
      try sendTo r port (← addresses host) catch _ => return .unanswered
    let alarm : Async HttpOutcome := do
      sleep (Std.Time.Millisecond.Offset.ofNat r.timeout.millis)
      return .unanswered
    (Async.race answer alarm).block
  | _, _ => return .unanswered

/-! ## Files and environment -/

/-- The variables that are looked at. -/
def variableNames : List String :=
  [ServiceBindings.servicesVar] ++ Platform.variableNames

/-- The environment of this process. -/
def environment : IO Environment := do
  let values ← variableNames.filterMapM fun name => do
    return (← IO.getEnv name).map fun value => (name, value)
  return Environment.ofList values

/-- The bytes of a file, if it can be read. -/
def bytesOf (path : String) : IO (Option ByteArray) := do
  try return some (← IO.FS.readBinFile path) catch _ => return none

/-! ## Asking the registry -/

/-- Carry a command out, and print its result, as often as it wants. -/
partial def execute (i : CommandLine.Invocation) (env : Environment) : IO UInt32 := do
  let bytes ← (i.config.map bytesOf).getD (return none)
  let result ← (i.run (fun _ => bytes) env).perform exchange
  match result with
  | .error message => IO.eprintln ("Error: " ++ message)
  | .ok output =>
    IO.println output.document.renderIndented
    if let some pause := output.repeatAfter then
      IO.sleep (UInt32.ofNat pause.millis)
      return ← execute i env
  return UInt32.ofNat result.exitCode

/-- Read a command line and carry it out. -/
def query (line : List String) : IO UInt32 := do
  match CommandLine.Invocation.read line with
  | .ok i => execute i (← environment)
  | .error stop =>
    IO.println CommandLine.helpText
    return UInt32.ofNat stop.exitCode

/-! ## Keeping this process registered -/

/-- The reason of a call that failed, as its caller is told. -/
def reasonOf (e : RegistryError) : String :=
  match e with
  | .register reason => reason
  | .heartbeat reason => reason
  | .deregister reason => reason
  | e => e.message

/-- Carry a call out: the client from then on, and the outcome. -/
def carryOut (client : RegistryClient) (i : Identity) (call : RegistryCall) :
    IO (RegistryClient × CallOutcome) := do
  let plain (answer : Except RegistryError Unit) : RegistryClient × CallOutcome :=
    match answer with
    | .ok _ => (client, {})
    | .error e => (client, { failure := some (reasonOf e) })
  match call with
  | .register =>
    match ← (client.register i).perform exchange with
    | .ok client => return (client, {})
    | .error e => return (client, { failure := some (reasonOf e) })
  | .heartbeat => return plain (← (client.heartbeat i).perform exchange)
  | .deregister => return plain (← (client.deregister i).perform exchange)

/-- Print the log lines of a journal. -/
def printLines (s : Keeper) : IO Unit := s.journal.lines.forM fun line => IO.println line.render

/-- The signals that end this process, each with a task that ends when it comes. -/
def signals : IO (List (TerminationSignal × AsyncTask Int)) := do
  let waiting (signal : Signal) : IO (AsyncTask Int) := do
    (← Signal.Waiter.mk signal false).wait
  return [(.interrupt, ← waiting .sigint), (.hangup, ← waiting .sighup),
    (.terminate, ← waiting .sigterm)]

/-- How often signals are looked for, in milliseconds. -/
def patience : Nat := 20

/-- Wait for a signal, but not longer than a time. -/
partial def awaitSignal (waiting : List (TerminationSignal × AsyncTask Int)) (millis : Nat) :
    IO (Option TerminationSignal) := do
  match ← waiting.findM? fun (_, task) => IO.hasFinished task with
  | some (signal, _) => return some signal
  | none =>
    if millis = 0 then return none
    let pause := min patience millis
    IO.sleep (UInt32.ofNat pause)
    awaitSignal waiting (millis - pause)

/-- How long to wait at most before looking at the clock again, in milliseconds. -/
def longestWait : Nat := 3600000

/-- **Keep registered**: turns are taken as they come, calls are carried out before the turns that
    start them, and otherwise time passes.  The journal is printed and forgotten after every turn. -/
partial def keep (waiting : List (TerminationSignal × AsyncTask Int)) (began : Nat)
    (client : RegistryClient) (i : Identity) (s : Keeper) : IO UInt32 := do
  match Daemon.exitCode? s with
  | some code => return UInt32.ofNat code
  | none =>
    let s := { s with journal := [] }
    if s.ready.isEmpty then
      let next := s.nextInstant (s.now + longestWait)
      let signal ← awaitSignal waiting (next - s.now)
      let s := s.advance ((← IO.monoMsNow) - began)
      keep waiting began client i (signal.elim s s.raise)
    else
      match Daemon.nextCall? s with
      | none =>
        printLines s.step
        keep waiting began client i s.step
      | some call =>
        let (client, outcome) ← carryOut client i call
        let s := s.modifyRegistry 0 fun g =>
          (g.withInterval client.heartbeatInterval).withNext call outcome
        printLines s.step
        keep waiting began client i s.step

/-- Start with a configuration. -/
def startKeeping (config : Except ConfigError Config) : IO UInt32 := do
  match config with
  | .error e =>
    IO.eprintln ("Error: " ++ e.message)
    return UInt32.ofNat Daemon.configExitCode
  | .ok c =>
    let env ← environment
    let s := Daemon.start c env {}
    printLines s
    match RegistryClient.ofConfig c.registry env, Daemon.identity c env with
    | .ok client, .ok i => keep (← signals) (← IO.monoMsNow) client i s
    | _, _ => return UInt32.ofNat ((Daemon.exitCode? s).getD Daemon.configExitCode)

/-- The line of `keep`. -/
def keepSpec : CommandLine.CommandSpec where
  options := [{ long := "config", letter := some 'c', kind := .path }]

/-- Read the line of `keep` and carry it out. -/
def keepRegistered (line : List String) : IO UInt32 := do
  match CommandLine.readAll keepSpec line with
  | .error stop =>
    IO.println CommandLine.helpText
    return UInt32.ofNat stop.exitCode
  | .ok r =>
    match r.value? "config" with
    | none => startKeeping (.ok {})
    | some path => startKeeping (Config.ofFile (← bytesOf path))

end LeaseKeeper.Program

/-- **Keep registered, or ask the registry.** -/
def main (args : List String) : IO UInt32 :=
  match args with
  | "keep" :: line => LeaseKeeper.Program.keepRegistered line
  | line => LeaseKeeper.Program.query line

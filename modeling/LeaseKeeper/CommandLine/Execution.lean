/-
  Carrying out a command.

  A command is carried out by a plan (`Dialogue`), because it may have to ask the registry.  Its
  result is a JSON document to print, or a message about what went wrong; the exit code says which.
-/
import LeaseKeeper.CommandLine.Invocation
import LeaseKeeper.Config.File
import LeaseKeeper.Registry.Client

namespace LeaseKeeper.CommandLine

/-- **What a command prints**, and whether it is to be carried out again after a while. -/
structure Output where
  document : Json
  repeatAfter : Option Duration := none

/-- **The result of a command**, or what went wrong. -/
abbrev Result := Except String Output

namespace Result

/-- The exit code: 0 for a document, 1 for an error. -/
def exitCode : Result → Nat
  | .ok _ => 0
  | .error _ => 1

end Result

/-- The exit code of a line that is not carried out. -/
def Stop.exitCode : Stop → Nat
  | help => 0
  | misuse => 2

/-- The configuration in a file, or the default one. -/
def configOf (file : String → Option ByteArray) (path : Option String) : Except ConfigError Config :=
  match path with
  | none => .ok {}
  | some path => Config.ofFile (file path)

/-- A configuration with other addresses, if there are any. -/
def withUrls (c : Config) (urls : List String) : Config :=
  if urls.isEmpty then c else { c with registry := { c.registry with serviceUrls := urls } }

/-- The client for the registry. -/
def clientOf (c : Config) (env : Environment) : Except String RegistryClient :=
  match RegistrySettings.determine c.registry env with
  | .error e => .error e.message
  | .ok settings => (RegistryClient.ofSettings settings).mapError fun fault =>
    (RegistryError.unavailable fault.message).message

/-- The document about all applications. -/
def appsDocument (apps : SortedMap (List String)) : Json :=
  .obj (apps.entries.map fun (name, hosts) => (name, .arr (hosts.map .str)))

/-- The document about one application. -/
def appDocument (name : String) (hosts : List String) : Json :=
  .obj [("instances", .arr (hosts.map .str)), ("name", .str name)]

/-- The document about a broker. -/
def brokerDocument (b : AmqpService) : Json := .obj [("name", .str b.name), ("uri", .str b.uri)]

/-- The result of looking a broker up. -/
def brokerResult (found : Except AmqpError AmqpService) : Result :=
  match found with
  | .ok b => .ok { document := brokerDocument b }
  | .error e => .error e.message

/-- Ask the registry, if there is a client. -/
def asking {α : Type} (c : Config) (env : Environment)
    (ask : RegistryClient → Dialogue (Except RegistryError α))
    (output : RegistryClient → α → Output) : Dialogue Result :=
  match clientOf c env with
  | .error message => .done (.error message)
  | .ok client => (ask client).map fun answer =>
    (answer.mapError RegistryError.message).map (output client)

/-- **Carry out a command** with a configuration. -/
def Command.run (command : Command) (c : Config) (env : Environment) : Dialogue Result :=
  match command with
  | .apps => asking c env RegistryClient.apps fun _ apps => { document := appsDocument apps }
  | .app name watch => asking c env (·.app name) fun client hosts =>
    { document := appDocument name hosts
      repeatAfter := if watch then some client.settings.pollInterval else none }
  | .brokerNamed name => .done (brokerResult (AmqpService.named env name))
  | .brokerTagged tag => .done (brokerResult (AmqpService.tagged env tag))

/-- **Carry out what is asked.**  The configuration is read even if the command does not need it. -/
def Invocation.run (i : Invocation) (file : String → Option ByteArray) (env : Environment) :
    Dialogue Result :=
  match configOf file i.config with
  | .error e => .done (.error e.message)
  | .ok c => i.command.run (withUrls c i.urls) env

end LeaseKeeper.CommandLine

/-
  What can be asked on the command line.

    lease-keeper [--config FILE] [--url URL]... COMMAND

  `apps` lists all applications and their hosts, `app NAME` the hosts of one, and `rabbitmq` the bound
  message broker.
-/
import LeaseKeeper.Amqp
import LeaseKeeper.CommandLine.Grammar

namespace LeaseKeeper.CommandLine

/-- **A command.** -/
inductive Command where
  | apps
  /-- With `watch`, again and again. -/
  | app (name : String) (watch : Bool)
  | brokerNamed (name : String)
  | brokerTagged (tag : String)
  deriving DecidableEq, Repr

/-- **A command and where to look.** -/
structure Invocation where
  /-- A configuration file. -/
  config : Option String := none
  /-- Addresses that go before those in the configuration. -/
  urls : List String := []
  command : Command
  deriving DecidableEq, Repr

/-- The line as a whole. -/
def lineSpec : CommandSpec where
  options := [
    { long := "config", letter := some 'c', kind := .path },
    { long := "url", letter := some 'u', kind := .repeated }]
  subcommands := ["apps", "app", "rabbitmq", "help"]

/-- The line of `app`. -/
def appSpec : CommandSpec where
  options := [{ long := "watch", letter := some 'w', kind := .flag }]
  maxWords := 1

/-- The line of `rabbitmq`. -/
def brokerSpec : CommandSpec where
  options := [{ long := "name", kind := .single }, { long := "tag", kind := .single }]

/-- The command `app`, which needs a name. -/
def readApp (line : List String) : Except Stop Command := do
  let r ← readAll appSpec line
  match r.words with
  | [name] => return .app name (r.has "watch")
  | _ => throw .misuse

/-- The command `rabbitmq`; a name and a tag exclude each other. -/
def readBroker (line : List String) : Except Stop Command := do
  let r ← readAll brokerSpec line
  match r.value? "name", r.value? "tag" with
  | some _, some _ => throw .misuse
  | some name, none => return .brokerNamed name
  | none, some tag => return .brokerTagged tag
  | none, none => return .brokerTagged AmqpService.defaultTag

/-- Help about a subcommand, or about all. -/
def readHelp : List String → Stop
  | [] => .help
  | [topic] => if topic ∈ lineSpec.subcommands then .help else .misuse
  | _ => .misuse

/-- **Read a subcommand.** -/
def readCommand (name : String) (line : List String) : Except Stop Command :=
  match name with
  | "apps" => do
    let _ ← readAll {} line
    return .apps
  | "app" => readApp line
  | "rabbitmq" => readBroker line
  | _ => .error (readHelp line)

/-- **Read a command line.** -/
def Invocation.read (line : List String) : Except Stop Invocation := do
  match ← readLine lineSpec {} line with
  | (_, none) => throw .misuse
  | (r, some (name, rest)) =>
    let command ← readCommand name rest
    let r ← r.settle
    return { config := r.value? "config", urls := r.values "url", command }

/-- What is printed when help is asked for. -/
def helpText : String :=
"Query the service registry

Usage: lease-keeper [OPTIONS] <COMMAND>

Commands:
  apps      List registered applications and their instances
  app       Show the instances of one application
  rabbitmq  Show the bound RabbitMQ service
  help      Print this message

Options:
  -c, --config <CONFIG>  Path to a TOML configuration file
  -u, --url <URL>        Registry URL; overrides config and VCAP_SERVICES. May be repeated
  -h, --help             Print help"

end LeaseKeeper.CommandLine

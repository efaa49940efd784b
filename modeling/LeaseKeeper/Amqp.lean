/-
  The message broker bound to an application.

  A broker is found like any other bound service.  Where its URI stands depends on the label: the
  managed broker lists its protocols, all others have one plain URI.
-/
import LeaseKeeper.Registry.Binding

namespace LeaseKeeper

/-- **A bound message broker.** -/
structure AmqpService where
  name : String
  uri : String
  deriving DecidableEq, Repr, Inhabited

/-- **Why there is no broker.** -/
inductive AmqpError where
  | binding (cause : BindingError)
  | invalidCredentials
  | invalidProtocol
  | invalidUri
  deriving DecidableEq, Repr

/-- The wording of an error. -/
def AmqpError.message : AmqpError → String
  | binding cause => cause.message
  | invalidCredentials => "Invalid service credentials"
  | invalidProtocol => "Invalid AMQP protocol credentials"
  | invalidUri => "Invalid AMQP URI"

namespace AmqpService

/-- The tag of a broker when none is named. -/
def defaultTag : String := "rabbitmq"

/-- The label of the managed broker. -/
def managedLabel : String := "p-rabbitmq"

/-- The scheme of a broker's URI. -/
def scheme : String := "amqp://"

/-- A URI with the right scheme. -/
def uriOf (j : Option Json) : Except AmqpError String :=
  match j with
  | some (.str uri) => if scheme.toList.isPrefixOf uri.toList then .ok uri else .error .invalidUri
  | _ => .error .invalidUri

/-- The URI among the protocols of a managed broker. -/
def managedUri (credentials : SortedMap Json) : Except AmqpError String :=
  match credentials.get? "protocols" with
  | some (.obj protocols) =>
    match Json.lastMember? "amqp" protocols with
    | some (.obj amqp) => uriOf (Json.lastMember? "uri" amqp)
    | _ => .error .invalidProtocol
  | _ => .error .invalidCredentials

/-- **The broker that a binding describes.** -/
def ofBinding (b : ServiceBinding) : Except AmqpError AmqpService := do
  let uri ← if b.label = managedLabel then managedUri b.credentials
    else uriOf (b.credentials.get? "uri")
  return { name := b.name, uri }

/-- The broker of a binding that was looked up. -/
def ofLookup (found : Except BindingError ServiceBinding) : Except AmqpError AmqpService :=
  match found with
  | .error e => .error (.binding e)
  | .ok b => ofBinding b

/-- **The broker with a tag.** -/
def tagged (env : Environment) (tag : String) : Except AmqpError AmqpService :=
  ofLookup ((ServiceBindings.ofEnvironment env).bind (·.tagged tag))

/-- **The broker with a name.** -/
def named (env : Environment) (name : String) : Except AmqpError AmqpService :=
  ofLookup ((ServiceBindings.ofEnvironment env).bind (·.named name))

end AmqpService

end LeaseKeeper

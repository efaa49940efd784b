/-
  How a registry is reached.

  `RegistrySettings` come from one of two places: the addresses in the configuration, or the
  credentials of a bound service (`RegistrySettings.determine`).  Credentials are written by others
  and may hold anything, so a setting that is missing or makes no sense falls back to its default;
  only the addresses themselves must be usable.
-/
import LeaseKeeper.Config
import LeaseKeeper.Registry.Binding
import LeaseKeeper.Registry.ServiceUri

namespace LeaseKeeper

/-- **How a registry is reached.** -/
structure RegistrySettings where
  /-- Addresses, tried in order. -/
  serviceUrls : List String
  /-- The port of addresses that name none. -/
  port : UInt16 := 80
  /-- How long one request may take. -/
  timeout : Duration := .ofSeconds 10
  /-- How often other instances are looked up. -/
  pollInterval : Duration := .ofSeconds 30
  /-- How often the registry is told to expect a sign of life. -/
  renewalInterval : Option Duration := none
  deriving DecidableEq, Repr, Inhabited

namespace ServiceBinding

/-- A credential that is an unsigned 64-bit number. -/
def number? (b : ServiceBinding) (key : String) : Option Nat :=
  (b.credentials.get? key).bind (Json.natBelow? UInt64.size)

/-- A credential that is a positive number of seconds. -/
def seconds? (b : ServiceBinding) (key : String) : Option Duration :=
  ((b.number? key).filter fun n => 0 < n).map Duration.ofSeconds

/-- One listed address. -/
def listedAddress (j : Json) : Except BindingError String :=
  match j with
  | .str uri => ServiceUri.normalize uri
  | _ => .error .invalidUris

/-- **The addresses in the credentials**: those listed under `uris`, or the one under `uri`. -/
def addresses (b : ServiceBinding) : Except BindingError (List String) :=
  let single : Except BindingError (List String) :=
    match b.credentials.get? "uri" with
    | some (.str uri) => (ServiceUri.normalize uri).map fun u => [u]
    | _ => .error .invalidUris
  match b.credentials.get? "uris" with
  | some (.arr (item :: items)) => (item :: items).mapM listedAddress
  | _ => single

end ServiceBinding

namespace RegistrySettings

/-- **The settings in a binding's credentials.** -/
def ofBinding (b : ServiceBinding) : Except BindingError RegistrySettings := do
  let serviceUrls ← b.addresses
  return {
    serviceUrls
    port := (((b.number? "port").filter fun n => n < UInt16.size).map UInt16.ofNat).getD 80
    timeout := (b.seconds? "timeout").getD (.ofSeconds 10)
    pollInterval := (b.seconds? "poll_interval").getD (.ofSeconds 30) }

/-- The renewal interval that a configuration asks for. -/
def renewalOf (c : EndpointConfig) : Option Duration :=
  c.renewalIntervalSecs.map fun s => .ofSeconds s.toNat

/-- The settings of configured addresses. -/
def ofUrls (c : EndpointConfig) : Except BindingError RegistrySettings := do
  let serviceUrls ← c.serviceUrls.mapM ServiceUri.normalize
  return {
    serviceUrls
    port := c.port
    timeout := .ofSeconds c.timeoutSecs.toNat
    pollInterval := .ofSeconds c.pollIntervalSecs.toNat
    renewalInterval := renewalOf c }

/-- The bound service that a configuration chooses: by tag if it has one, else by name. -/
def chosenBinding (c : EndpointConfig) (env : Environment) :
    Except BindingError ServiceBinding := do
  let bindings ← ServiceBindings.ofEnvironment env
  match c.serviceTag with
  | some tag => bindings.tagged tag
  | none => bindings.named c.serviceName

/-- **The settings that a configuration and an environment amount to.**  Configured addresses win. -/
def determine (c : EndpointConfig) (env : Environment) : Except BindingError RegistrySettings :=
  if c.serviceUrls.isEmpty then do
    let binding ← chosenBinding c env
    let settings ← ofBinding binding
    return { settings with renewalInterval := renewalOf c }
  else ofUrls c

end RegistrySettings

end LeaseKeeper

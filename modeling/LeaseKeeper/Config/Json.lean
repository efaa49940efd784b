/-
  Configurations as JSON.

  `Config.toJson` writes every section and every field, absent options as `null`; `Config.ofJson?`
  reads what is there and fills in defaults for what is not.
-/
import LeaseKeeper.Config.Read
import LeaseKeeper.Json.Format

namespace LeaseKeeper

/-! ## Writing -/

/-- `null`, or a value. -/
def Json.ofOption {α : Type} (write : α → Json) : Option α → Json
  | none => .null
  | some a => write a

/-- An unsigned number. -/
def Json.ofNat (n : Nat) : Json := .num (.natural n)

/-- A list of strings. -/
def Json.ofStrings (l : List String) : Json := .arr (l.map .str)

def PacingConfig.toJson (c : PacingConfig) : Json := .obj [
  ("retry_interval_ms", .ofNat c.retryIntervalMs.toNat),
  ("startup_delay_ms", .ofNat c.startupDelayMs.toNat)]

def EndpointConfig.toJson (c : EndpointConfig) : Json := .obj [
  ("service_urls", .ofStrings c.serviceUrls),
  ("service_name", .str c.serviceName),
  ("service_tag", .ofOption .str c.serviceTag),
  ("port", .ofNat c.port.toNat),
  ("timeout_secs", .ofNat c.timeoutSecs.toNat),
  ("poll_interval_secs", .ofNat c.pollIntervalSecs.toNat),
  ("renewal_interval_secs", .ofOption (.ofNat ·.toNat) c.renewalIntervalSecs)]

def StaticIdentity.toJson (c : StaticIdentity) : Json := .obj [
  ("name", .ofOption .str c.name),
  ("instance_id", .ofOption .str c.instanceId),
  ("addr", .ofOption .str c.addr),
  ("uris", .ofStrings c.uris)]

/-- The name of a log format. -/
def LogFormat.label : LogFormat → String
  | text => "text"
  | json => "json"

def ReportingConfig.toJson (c : ReportingConfig) : Json := .obj [
  ("log_level", .str c.logLevel),
  ("log_format", .str c.logFormat.label),
  ("metrics_enabled", .bool c.metricsEnabled),
  ("metrics_address", .str c.metricsAddress)]

/-- **The full JSON form of a configuration.** -/
def Config.toJson (c : Config) : Json := .obj [
  ("registration", c.registration.toJson),
  ("registry", c.registry.toJson),
  ("identity", c.identity.toJson),
  ("observability", c.observability.toJson)]

/-! ## Reading -/

/-- **Read a configuration from JSON**; what is missing takes its default. -/
def Config.ofJson? (j : Json) : Option Config := Config.read? Json.format j

end LeaseKeeper

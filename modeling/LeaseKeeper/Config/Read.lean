/-
  Reading configurations.

  A configuration is read in the same way from every data format.  What is missing takes its
  default and what is unknown is ignored.
-/
import LeaseKeeper.Config
import LeaseKeeper.DataFormat

namespace LeaseKeeper

variable {V : Type} (F : DataFormat V)

def PacingConfig.read? (v : V) : Option PacingConfig := do
  let f ← F.record? ["retry_interval_ms", "startup_delay_ms"] v
  let d : PacingConfig := {}
  return {
    retryIntervalMs := ← fieldOr (f "retry_interval_ms") d.retryIntervalMs F.uint64?
    startupDelayMs := ← fieldOr (f "startup_delay_ms") d.startupDelayMs F.uint64? }

def EndpointConfig.read? (v : V) : Option EndpointConfig := do
  let f ← F.record? ["service_urls", "service_name", "service_tag", "port", "timeout_secs",
    "poll_interval_secs", "renewal_interval_secs"] v
  let d : EndpointConfig := {}
  return {
    serviceUrls := ← fieldOr (f "service_urls") d.serviceUrls F.texts?
    serviceName := ← fieldOr (f "service_name") d.serviceName F.text?
    serviceTag := ← fieldOr (f "service_tag") d.serviceTag (F.nullable? F.text?)
    port := ← fieldOr (f "port") d.port F.uint16?
    timeoutSecs := ← fieldOr (f "timeout_secs") d.timeoutSecs F.uint64?
    pollIntervalSecs := ← fieldOr (f "poll_interval_secs") d.pollIntervalSecs F.uint64?
    renewalIntervalSecs := ← fieldOr (f "renewal_interval_secs") d.renewalIntervalSecs
      (F.nullable? F.uint64?) }

def StaticIdentity.read? (v : V) : Option StaticIdentity := do
  let f ← F.record? ["name", "instance_id", "addr", "uris"] v
  let d : StaticIdentity := {}
  return {
    name := ← fieldOr (f "name") d.name (F.nullable? F.text?)
    instanceId := ← fieldOr (f "instance_id") d.instanceId (F.nullable? F.text?)
    addr := ← fieldOr (f "addr") d.addr (F.nullable? F.text?)
    uris := ← fieldOr (f "uris") d.uris F.texts? }

/-- The log format with a name. -/
def LogFormat.ofLabel? : String → Option LogFormat
  | "text" => some .text
  | "json" => some .json
  | _ => none

def LogFormat.read? (v : V) : Option LogFormat := (F.choice? v).bind LogFormat.ofLabel?

def ReportingConfig.read? (v : V) : Option ReportingConfig := do
  let f ← F.record? ["log_level", "log_format", "metrics_enabled", "metrics_address"] v
  let d : ReportingConfig := {}
  return {
    logLevel := ← fieldOr (f "log_level") d.logLevel F.text?
    logFormat := ← fieldOr (f "log_format") d.logFormat (LogFormat.read? F)
    metricsEnabled := ← fieldOr (f "metrics_enabled") d.metricsEnabled F.flag?
    metricsAddress := ← fieldOr (f "metrics_address") d.metricsAddress F.text? }

/-- **Read a configuration.** -/
def Config.read? (v : V) : Option Config := do
  let f ← F.record? ["registration", "registry", "identity", "observability"] v
  let d : Config := {}
  return {
    registration := ← fieldOr (f "registration") d.registration (PacingConfig.read? F)
    registry := ← fieldOr (f "registry") d.registry (EndpointConfig.read? F)
    identity := ← fieldOr (f "identity") d.identity (StaticIdentity.read? F)
    observability := ← fieldOr (f "observability") d.observability
      (ReportingConfig.read? F) }

end LeaseKeeper

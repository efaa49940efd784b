/-
  Configuration.

  A configuration has four sections and a default for every field, so an empty file is a valid one.
  Times are written in whole seconds or milliseconds and fit 64 bits.

  Two parts may be left to the platform: without service URLs the registry is looked up among the
  bound services, and without a static identity the platform says who is running.
-/
import LeaseKeeper.Identity
import LeaseKeeper.Duration

namespace LeaseKeeper

/-- **How fast registration is attempted.** -/
structure PacingConfig where
  /-- Wait before every attempt except the first. -/
  retryIntervalMs : UInt64 := 10000
  /-- Wait before the first attempt. -/
  startupDelayMs : UInt64 := 10
  deriving DecidableEq, Repr, Inhabited

/-- **Where the registry is.** -/
structure EndpointConfig where
  /-- Addresses of the registry; if there are none, the service below is looked up. -/
  serviceUrls : List String := []
  /-- Name of the bound service. -/
  serviceName : String := "eureka"
  /-- Tag of the bound service; it goes before the name. -/
  serviceTag : Option String := none
  /-- The port of addresses that name none. -/
  port : UInt16 := 80
  timeoutSecs : UInt64 := 10
  pollIntervalSecs : UInt64 := 30
  /-- How often the registry is told to expect a sign of life. -/
  renewalIntervalSecs : Option UInt64 := none
  deriving DecidableEq, Repr, Inhabited

/-- **A fixed identity**, if the first three fields are given. -/
structure StaticIdentity where
  name : Option String := none
  instanceId : Option String := none
  addr : Option String := none
  uris : List String := []
  deriving DecidableEq, Repr, Inhabited

/-- How log lines are written. -/
inductive LogFormat where
  | text
  | json
  deriving DecidableEq, Repr, Inhabited

/-- **What is reported, and where.** -/
structure ReportingConfig where
  logLevel : String := "info"
  logFormat : LogFormat := .text
  metricsEnabled : Bool := false
  metricsAddress : String := "0.0.0.0:9090"
  deriving DecidableEq, Repr, Inhabited

/-- **A configuration.** -/
structure Config where
  registration : PacingConfig := {}
  registry : EndpointConfig := {}
  identity : StaticIdentity := {}
  observability : ReportingConfig := {}
  deriving DecidableEq, Repr, Inhabited

/-- **The waits of a registration task.** -/
structure Pacing where
  retryInterval : Duration := ⟨10000⟩
  startupDelay : Duration := ⟨10⟩
  deriving DecidableEq, Repr, Inhabited

/-- The waits that a configuration asks for. -/
def PacingConfig.pacing (c : PacingConfig) : Pacing where
  retryInterval := ⟨c.retryIntervalMs.toNat⟩
  startupDelay := ⟨c.startupDelayMs.toNat⟩

namespace StaticIdentity

/-- **The fixed identity**, if there is one. -/
def identity? (c : StaticIdentity) : Option Identity :=
  match c.name, c.instanceId, c.addr with
  | some name, some instanceId, some addr =>
    some { Identity.ofAddress name instanceId addr with uris := c.uris }
  | _, _, _ => none

/-- How many of the three identifying fields are given. -/
def givenCount (c : StaticIdentity) : Nat :=
  ([c.name, c.instanceId, c.addr].filter Option.isSome).length

/-- **Some but not all** of the identifying fields are given. -/
def isPartial (c : StaticIdentity) : Bool := 0 < c.givenCount && c.givenCount < 3

end StaticIdentity

end LeaseKeeper

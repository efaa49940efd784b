/-
  What makes a configuration valid.

  Every rule is checked and every fault reported, in one fixed order, so that a file can be mended
  in one go.  Each fault of a list of addresses is reported on its own.
-/
import LeaseKeeper.Config
import LeaseKeeper.Net.SocketAddress
import LeaseKeeper.Registry.ServiceUri

namespace LeaseKeeper

/-- **A fault of a configuration.** -/
inductive ConfigFault where
  | zeroRetryInterval
  | zeroTimeout
  | zeroPollInterval
  | zeroRenewalInterval
  | invalidServiceUrl (url : String) (reason : BindingError)
  | partialIdentity
  | invalidMetricsAddress (address : String)
  deriving DecidableEq, Repr

/-- The wording of a fault. -/
def ConfigFault.message : ConfigFault → String
  | zeroRetryInterval => "registration.retry_interval_ms must be greater than 0"
  | zeroTimeout => "registry.timeout_secs must be greater than 0"
  | zeroPollInterval => "registry.poll_interval_secs must be greater than 0"
  | zeroRenewalInterval => "registry.renewal_interval_secs must be greater than 0"
  | invalidServiceUrl url reason =>
    "registry.service_urls contains invalid URL '" ++ url ++ "': " ++ reason.message
  | partialIdentity => "identity requires name, instance_id and addr together"
  | invalidMetricsAddress address =>
    "observability.metrics_address '" ++ address ++ "' is not a socket address"

/-- A fault, if a condition holds. -/
def faultIf (condition : Bool) (fault : ConfigFault) : List ConfigFault :=
  if condition then [fault] else []

/-- The fault of one address. -/
def urlFault? (url : String) : Option ConfigFault :=
  match ServiceUri.normalize url with
  | .ok _ => none
  | .error e => some (.invalidServiceUrl url e)

namespace Config

/-- **All faults of a configuration**, in the order in which they are checked. -/
def faults (c : Config) : List ConfigFault :=
  faultIf (c.registration.retryIntervalMs == 0) .zeroRetryInterval ++
  faultIf (c.registry.timeoutSecs == 0) .zeroTimeout ++
  faultIf (c.registry.pollIntervalSecs == 0) .zeroPollInterval ++
  faultIf (c.registry.renewalIntervalSecs == some 0) .zeroRenewalInterval ++
  c.registry.serviceUrls.filterMap urlFault? ++
  faultIf c.identity.isPartial .partialIdentity ++
  faultIf (c.observability.metricsEnabled &&
      (SocketAddress.parse? c.observability.metricsAddress).isNone)
    (.invalidMetricsAddress c.observability.metricsAddress)

/-- **A valid configuration** has no faults. -/
def isValid (c : Config) : Bool := c.faults.isEmpty

end Config

end LeaseKeeper

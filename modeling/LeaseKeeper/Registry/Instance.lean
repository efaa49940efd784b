/-
  The record that announces an instance.

  Registering an instance means sending an `InstanceInfo` wrapped in a `RegistrationRequest`.  Its
  JSON has peculiar names, which are the registry's.  Reading a written record gives it back, and
  `InstanceInfo.ofIdentity` says what is announced for an identity.
-/
import LeaseKeeper.Duration
import LeaseKeeper.Identity

namespace LeaseKeeper

/-- **The state of an instance**, as the registry knows it. -/
inductive InstanceStatus where
  | up
  | down
  | starting
  | outOfService
  | unknown
  deriving DecidableEq, Repr, Inhabited

/-- The name of a state. -/
def InstanceStatus.label : InstanceStatus → String
  | up => "UP"
  | down => "DOWN"
  | starting => "STARTING"
  | outOfService => "OUT_OF_SERVICE"
  | unknown => "UNKNOWN"

/-- The state with a name. -/
def InstanceStatus.ofLabel? (s : String) : Option InstanceStatus :=
  [up, down, starting, outOfService, unknown].find? fun x => x.label = s

/-- **A port and whether it is in use**; the latter is free text. -/
structure PortInfo where
  number : UInt16
  enabled : String
  deriving DecidableEq, Repr, Inhabited

/-- A port in use. -/
def PortInfo.inUse (number : UInt16) : PortInfo := ⟨number, "true"⟩

/-- **Where an instance runs.** -/
structure DataCenter where
  className : String
  name : String
  deriving DecidableEq, Repr, Inhabited

/-- The data center of an instance that runs nowhere in particular. -/
def DataCenter.own : DataCenter :=
  ⟨"com.netflix.appinfo.InstanceInfo$DefaultDataCenterInfo", "MyOwn"⟩

/-- **The terms of a lease**: how often it is renewed. -/
structure LeaseTerms where
  renewalIntervalSecs : UInt64
  deriving DecidableEq, Repr, Inhabited

/-- **What is announced about an instance.** -/
structure InstanceInfo where
  instanceId : String
  hostName : String
  app : String
  ipAddr : String
  vipAddress : String
  status : InstanceStatus
  overriddenStatus : InstanceStatus
  port : PortInfo
  securePort : PortInfo
  dataCenter : DataCenter
  lease : Option LeaseTerms := none
  metadata : SortedMap String := .empty
  deriving DecidableEq, Inhabited

/-- **The body of a registration.** -/
structure RegistrationRequest where
  announced : InstanceInfo
  deriving DecidableEq, Inhabited

/-- **What is announced for an identity.**  The lease is renewed every `renewal`, in whole seconds. -/
def InstanceInfo.ofIdentity (i : Identity) (renewal : Option Duration) : InstanceInfo where
  instanceId := i.instanceKey
  hostName := i.uri
  app := i.appKey
  ipAddr := i.instanceAddr
  vipAddress := i.uri
  status := .up
  overriddenStatus := .unknown
  port := .inUse 80
  securePort := .inUse 443
  dataCenter := .own
  lease := renewal.map fun d => ⟨UInt64.ofNat d.wholeSeconds⟩
  metadata := SortedMap.empty.insert "instanceId" i.instanceId

/-! ## Writing -/

def PortInfo.toJson (p : PortInfo) : Json := .obj [
  ("$", .num (.natural p.number.toNat)), ("@enabled", .str p.enabled)]

def DataCenter.toJson (d : DataCenter) : Json := .obj [
  ("@class", .str d.className), ("name", .str d.name)]

def LeaseTerms.toJson (l : LeaseTerms) : Json := .obj [
  ("renewalIntervalInSecs", .num (.natural l.renewalIntervalSecs.toNat))]

/-- The lease of a record; one that is absent is left out. -/
def InstanceInfo.leaseMembers (i : InstanceInfo) : List (String × Json) :=
  match i.lease with
  | none => []
  | some l => [("leaseInfo", l.toJson)]

/-- A map of texts. -/
def metadataJson (m : SortedMap String) : Json := .obj (m.entries.map fun e => (e.1, .str e.2))

/-- **The JSON of a record.** -/
def InstanceInfo.toJson (i : InstanceInfo) : Json := .obj ([
  ("instanceId", .str i.instanceId),
  ("hostName", .str i.hostName),
  ("app", .str i.app),
  ("ipAddr", .str i.ipAddr),
  ("vipAddress", .str i.vipAddress),
  ("status", .str i.status.label),
  ("overriddenstatus", .str i.overriddenStatus.label),
  ("port", i.port.toJson),
  ("securePort", i.securePort.toJson),
  ("dataCenterInfo", i.dataCenter.toJson)] ++ i.leaseMembers ++ [
  ("metadata", metadataJson i.metadata)])

/-- **The JSON of a registration.** -/
def RegistrationRequest.toJson (r : RegistrationRequest) : Json := .obj [
  ("instance", r.announced.toJson)]

/-! ## Reading -/

def InstanceStatus.ofJson? (j : Json) : Option InstanceStatus :=
  j.choice?.bind InstanceStatus.ofLabel?

def PortInfo.ofJson? (j : Json) : Option PortInfo := do
  let f ← j.record? ["$", "@enabled"]
  return {
    number := ← Json.required (f "$") Json.uint16?
    enabled := ← Json.required (f "@enabled") Json.str? }

def DataCenter.ofJson? (j : Json) : Option DataCenter := do
  let f ← j.record? ["@class", "name"]
  return {
    className := ← Json.required (f "@class") Json.str?
    name := ← Json.required (f "name") Json.str? }

def LeaseTerms.ofJson? (j : Json) : Option LeaseTerms := do
  let f ← j.record? ["renewalIntervalInSecs"]
  return { renewalIntervalSecs := ← Json.required (f "renewalIntervalInSecs") Json.uint64? }

/-- The fields of a record, in their declared order. -/
def InstanceInfo.fieldNames : List String :=
  ["instanceId", "hostName", "app", "ipAddr", "vipAddress", "status", "overriddenstatus", "port",
    "securePort", "dataCenterInfo", "leaseInfo", "metadata"]

/-- **Read a record.**  Only the lease and the metadata may be missing. -/
def InstanceInfo.ofJson? (j : Json) : Option InstanceInfo := do
  let f ← j.record? fieldNames
  return {
    instanceId := ← Json.required (f "instanceId") Json.str?
    hostName := ← Json.required (f "hostName") Json.str?
    app := ← Json.required (f "app") Json.str?
    ipAddr := ← Json.required (f "ipAddr") Json.str?
    vipAddress := ← Json.required (f "vipAddress") Json.str?
    status := ← Json.required (f "status") InstanceStatus.ofJson?
    overriddenStatus := ← Json.required (f "overriddenstatus") InstanceStatus.ofJson?
    port := ← Json.required (f "port") PortInfo.ofJson?
    securePort := ← Json.required (f "securePort") PortInfo.ofJson?
    dataCenter := ← Json.required (f "dataCenterInfo") DataCenter.ofJson?
    lease := ← Json.orDefault (f "leaseInfo") none (Json.nullable? LeaseTerms.ofJson?)
    metadata := ← Json.orDefault (f "metadata") .empty (Json.map? Json.str?) }

/-- **Read a registration.** -/
def RegistrationRequest.ofJson? (j : Json) : Option RegistrationRequest := do
  let f ← j.record? ["instance"]
  return { announced := ← Json.required (f "instance") InstanceInfo.ofJson? }

end LeaseKeeper

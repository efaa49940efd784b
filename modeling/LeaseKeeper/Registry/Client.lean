/-
  The registry's client.

  A client holds the addresses of a registry and asks them in order: the first success counts, and if
  there is none the last failure is reported.  Its five operations are plans (`Dialogue`); only a
  successful registration changes the client, because from then on signs of life follow the interval
  that was announced.
-/
import LeaseKeeper.Http.Dialogue
import LeaseKeeper.Http.Status
import LeaseKeeper.Json.Reader
import LeaseKeeper.Registry.Discovery
import LeaseKeeper.Registry.Instance
import LeaseKeeper.Registry.Settings
import LeaseKeeper.Url.Segments

namespace LeaseKeeper

/-! ## Clients -/

/-- **A client.** -/
structure RegistryClient where
  settings : RegistrySettings
  /-- Where requests go, in order. -/
  bases : List Url
  /-- How often a sign of life is sent. -/
  heartbeatInterval : Duration := ⟨30000⟩
  deriving DecidableEq, Inhabited

/-- **Why settings make no client.** -/
inductive ClientFault where
  | noAddresses
  | invalidAddress (address : String) (cause : UrlError)
  /-- A port is to be added to an address that cannot have one. -/
  | noPlaceForPort (address : String)
  deriving DecidableEq, Repr

/-- The wording of a fault. -/
def ClientFault.message : ClientFault → String
  | noAddresses => "no Eureka service URLs configured"
  | invalidAddress address cause =>
    "invalid service URL '" ++ address ++ "': " ++ cause.message
  | noPlaceForPort address => "service URL '" ++ address ++ "' cannot carry a port"

/-- The port that is never added. -/
def defaultRegistryPort : UInt16 := 80

/-- **The URL of an address**, at the given port if it names none. -/
def baseUrl (port : UInt16) (address : String) : Except ClientFault Url :=
  match Url.parse address with
  | .error cause => .error (.invalidAddress address cause)
  | .ok url =>
    if url.port.isNone ∧ port ≠ defaultRegistryPort then
      match url.withPort? port with
      | none => .error (.noPlaceForPort address)
      | some url => .ok url
    else .ok url

/-- The URLs of all addresses. -/
def RegistrySettings.bases (s : RegistrySettings) : Except ClientFault (List Url) :=
  if s.serviceUrls.isEmpty then .error .noAddresses
  else s.serviceUrls.mapM (baseUrl s.port)

namespace RegistryClient

/-- **The client of settings.** -/
def ofSettings (s : RegistrySettings) : Except ClientFault RegistryClient :=
  s.bases.map fun bases => { settings := s, bases }

/-- **The client of a configuration in an environment**, or the reason why there is none. -/
def ofConfig (c : EndpointConfig) (env : Environment) : Except String RegistryClient :=
  match RegistrySettings.determine c env with
  | .error e => .error e.message
  | .ok s => (ofSettings s).mapError ClientFault.message

end RegistryClient

/-! ## Asking in order -/

/-- **Why nobody gave an answer that counts.** -/
inductive CallFailure where
  | noServers
  /-- Nothing can be found below this URL. -/
  | notABase (base : Url)
  /-- The request cannot be made. -/
  | unsendable (request : HttpRequest)
  | unanswered (request : HttpRequest)
  | refused (request : HttpRequest) (status : Nat)
  /-- The answer says nothing that could be used. -/
  | unreadableBody

/-- How a failed request is named: its method and its URL. -/
def HttpRequest.describe (r : HttpRequest) : String := r.method.label ++ " " ++ r.url.render

/-- The wording of a failure. -/
def CallFailure.message : CallFailure → String
  | noServers => "no service URLs"
  | notABase base => "service URL '" ++ base.render ++ "' cannot be a base"
  | unsendable r => r.describe ++ ": builder error for url (" ++ r.wireUrl.render ++ ")"
  | unanswered r => r.describe ++ ": error sending request for url (" ++ r.wireUrl.render ++ ")"
  | refused r status => r.describe ++ " returned " ++ Http.describeStatus status
  | unreadableBody => "error decoding response body"

/-- **Ask the servers in order** for something below their base.  The result is the body of the first
    successful answer, or the last failure; `last` is the failure so far. -/
def askInOrder (method : HttpMethod) (names : List String) (body : Option Json)
    (timeout : Duration) (last : CallFailure) : List Url → Dialogue (Except CallFailure String)
  | [] => .done (.error last)
  | base :: rest =>
    match base.below? names with
    | none => askInOrder method names body timeout (.notABase base) rest
    | some url =>
      let request : HttpRequest := { method, url, body, timeout }
      if request.isSendable then
        .ask request fun
          | .reply status answer =>
            if Http.isSuccess status then .done (.ok answer)
            else askInOrder method names body timeout (.refused request status) rest
          | .unanswered => askInOrder method names body timeout (.unanswered request) rest
      else askInOrder method names body timeout (.unsendable request) rest

/-! ## Operations -/

namespace RegistryClient

/-- Ask this client's servers. -/
def send (c : RegistryClient) (method : HttpMethod) (names : List String)
    (body : Option Json := none) : Dialogue (Except CallFailure String) :=
  askInOrder method names body c.settings.timeout .noServers c.bases

/-- What is announced about an identity. -/
def announcement (c : RegistryClient) (i : Identity) : RegistrationRequest :=
  ⟨InstanceInfo.ofIdentity i c.settings.renewalInterval⟩

/-- The client after a record was accepted: signs of life follow the lease in it, if it has one. -/
def follow (c : RegistryClient) (info : InstanceInfo) : RegistryClient :=
  match info.lease with
  | none => c
  | some lease =>
    if 0 < lease.renewalIntervalSecs then
      { c with heartbeatInterval := ⟨(lease.renewalIntervalSecs * 1000).toNat⟩ }
    else c

/-- **Register an instance.**  The result is the client from then on. -/
def register (c : RegistryClient) (i : Identity) :
    Dialogue (Except RegistryError RegistryClient) :=
  let request := c.announcement i
  (c.send .post ["apps", i.appKey] (some request.toJson)).map fun
    | .ok _ => .ok (c.follow request.announced)
    | .error e => .error (.register e.message)

/-- **Send a sign of life.** -/
def heartbeat (c : RegistryClient) (i : Identity) : Dialogue (Except RegistryError Unit) :=
  (c.send .put ["apps", i.appKey, i.instanceKey]).map fun
    | .ok _ => .ok ()
    | .error e => .error (.heartbeat e.message)

/-- **Take an instance off the registry.** -/
def deregister (c : RegistryClient) (i : Identity) : Dialogue (Except RegistryError Unit) :=
  (c.send .delete ["apps", i.appKey, i.instanceKey]).map fun
    | .ok _ => .ok ()
    | .error e => .error (.deregister e.message)

/-- The meaning of a successful answer's body. -/
def readBody {α : Type} (decode : Json → Option α) (answer : Except CallFailure String) :
    Except CallFailure α :=
  match answer with
  | .error e => .error e
  | .ok body =>
    match (Json.parse? body).bind decode with
    | none => .error .unreadableBody
    | some a => .ok a

/-- **The hosts of all registered applications**, by name. -/
def apps (c : RegistryClient) : Dialogue (Except RegistryError (SortedMap (List String))) :=
  (c.send .get ["apps"]).map fun answer =>
    match readBody applicationsOfJson? answer with
    | .ok list => .ok (directory list.toList)
    | .error e => .error (.apps e.message)

/-- **The hosts of one application.** -/
def app (c : RegistryClient) (name : String) : Dialogue (Except RegistryError (List String)) :=
  (c.send .get ["apps", Text.upperCase name]).map fun answer =>
    match readBody applicationOfJson? answer with
    | .ok application => .ok application.hostNames
    | .error e => .error (.app name e.message)

end RegistryClient

end LeaseKeeper

/-
  Which servers are asked, and what comes of it.

  A client asks its servers in the order of its list.  What every position WOULD say if all of
  them were asked one after the other is a list of visits (`Inquiry.survey`), one for each
  position: either nothing can be sent there, or a request is sent and has an outcome.  An
  operation goes through the visits up to the first that is answered with a success, and no
  further (`failover`).

  If there is one, its body decides what the operation results in, and a body that cannot be read
  is an error although later servers were not asked.  If there is none, the operation fails for
  the reason of the last position, so the reason that a client without servers would give is never
  heard.

  The plan of all five operations is the same loop, so the loop is followed once, by induction on
  the bases (`Inquiry.run_plan_failed`, `Inquiry.run_plan_succeeded`), and each operation only
  adds what it makes of the body (`run_operate`).

  The step of the loop has two cases, and they are the crux.  A position that fails is passed
  over: the rest of the plan runs on the network as this visit has left it, with the reason of
  this visit in hand (`run_plan_passed`).  A position that succeeds ends the plan
  (`run_plan_ended`).  The survey goes on past it, on a network that is only imagined from there
  on; that is harmless, since no result depends on the positions behind the first success.

  That no server fails in the words of a client without servers is a matter of texts: every other
  reason begins with a method of HTTP or with a different word (`CallFailure.message_ne`).
-/
import LeaseKeeper.Proofs.Registry.Addressing
import LeaseKeeper.Proofs.Registry.Cadence

namespace LeaseKeeper

/-! ## Visits -/

/-- **What is asked of every server**, below its base. -/
structure Inquiry where
  method : HttpMethod
  names : List String
  body : Option Json := none
  timeout : Duration

/-- **A position in the list of servers**: what became of the request to it, or why none can be
    made. -/
structure Visit where
  base : Url
  exchange : Except CallFailure (HttpRequest × HttpOutcome)

namespace Visit

/-- The request that is sent. -/
def request? (v : Visit) : Option HttpRequest := v.exchange.toOption.map Prod.fst

/-- **The server answers with a success.** -/
def succeeds (v : Visit) : Bool :=
  match v.exchange with
  | .ok (_, .reply status _) => Http.isSuccess status
  | _ => false

/-- Why the server is of no use, if it does not answer with a success. -/
def failure (v : Visit) : CallFailure :=
  match v.exchange with
  | .error e => e
  | .ok (r, .reply status _) => .refused r status
  | .ok (r, .unanswered) => .unanswered r

/-- A success is a request that was sent, and a reply to it with a status that says so. -/
theorem succeeds_iff (v : Visit) : v.succeeds = true ↔ ∃ request status body,
    v.exchange = .ok (request, .reply status body) ∧ Http.isSuccess status = true := by
  unfold succeeds
  split
  · rename_i request status body hv
    constructor
    · exact fun h => ⟨request, status, body, hv, h⟩
    · rintro ⟨request', status', body', hv', h⟩
      rw [hv] at hv'
      cases hv'
      exact h
  · rename_i hnone
    constructor
    · exact nofun
    · rintro ⟨request, status, body, hv, -⟩
      exact absurd hv (hnone request status body)

/-- What is sent at one position, and what is sent at later ones. -/
theorem requests_cons (v : Visit) (visits : List Visit) :
    v.request?.toList ++ visits.filterMap request? = (v :: visits).filterMap request? := by
  cases hsent : v.request? with
  | none => rw [List.filterMap_cons_none hsent, Option.toList_none, List.nil_append]
  | some request =>
    rw [List.filterMap_cons_some hsent, Option.toList_some, List.singleton_append]

end Visit

namespace Inquiry

variable {σ : Type}

/-- The request to a server, or why none can be made. -/
def requestTo (q : Inquiry) (base : Url) : Except CallFailure HttpRequest :=
  match base.below? q.names with
  | none => .error (.notABase base)
  | some url =>
    let request : HttpRequest :=
      { method := q.method, url := url, body := q.body, timeout := q.timeout }
    if request.isSendable then .ok request else .error (.unsendable request)

/-- Ask one server, if it can be asked. -/
def visit (q : Inquiry) (network : Network σ) (s : σ) (base : Url) : Visit × σ :=
  match q.requestTo base with
  | .error e => (⟨base, .error e⟩, s)
  | .ok request => (⟨base, .ok (request, (network request s).1)⟩, (network request s).2)

/-- **What every position would say**, if all were asked one after the other. -/
def survey (q : Inquiry) (network : Network σ) (s : σ) : List Url → List Visit
  | [] => []
  | base :: rest => (q.visit network s base).1 :: q.survey network (q.visit network s base).2 rest

/-- The servers are asked in order. -/
def plan (q : Inquiry) (last : CallFailure) (bases : List Url) :
    Dialogue (Except CallFailure String) :=
  askInOrder q.method q.names q.body q.timeout last bases

/-! ## What can be sent where -/

/-- **Requests go only where there is a hierarchy and HTTP is spoken**, and to the server that is
    named there.  The scheme is looked at in the address that is asked for, and it is that of the
    base. -/
theorem requestTo_ok {q : Inquiry} {base : Url} {request : HttpRequest}
    (h : q.requestTo base = .ok request) :
    base.isHierarchical = true ∧ (base.scheme = "http" ∨ base.scheme = "https") ∧
      base.below? q.names = some request.url ∧
      request = { method := q.method, url := request.url, body := q.body, timeout := q.timeout } := by
  unfold requestTo at h
  cases hbelow : base.below? q.names with
  | none =>
    rw [hbelow] at h
    cases h
  | some url =>
    rw [hbelow] at h
    dsimp only at h
    split at h
    · rename_i hsendable
      cases h
      -- what is below a base has the scheme of the base
      unfold Url.below? at hbelow
      cases hpath : base.path with
      | rootless text =>
        rw [hpath] at hbelow
        cases hbelow
      | segments segments =>
        rw [hpath] at hbelow
        cases hbelow
        refine ⟨by rw [Url.isHierarchical, hpath], ?_, rfl, rfl⟩
        simp only [HttpRequest.isSendable, Bool.and_eq_true, Bool.or_eq_true,
          decide_eq_true_eq] at hsendable
        exact hsendable.1.1
    · cases h

/-- Where nothing can be sent, there is a server.  The loop starts with the reason of a client
    without servers and replaces it at its first position. -/
theorem requestTo_error {q : Inquiry} {base : Url} {e : CallFailure}
    (h : q.requestTo base = .error e) : e ≠ .noServers := by
  unfold requestTo at h
  cases hbelow : base.below? q.names with
  | none =>
    rw [hbelow] at h
    cases h
    exact nofun
  | some url =>
    rw [hbelow] at h
    dsimp only at h
    split at h
    · cases h
    · cases h
      exact nofun

/-- A visit is one to its base. -/
theorem visit_base (q : Inquiry) (network : Network σ) (s : σ) (base : Url) :
    (q.visit network s base).1.base = base := by
  unfold visit
  split <;> rfl

/-- What is sent in a visit is the request to its base. -/
theorem visit_request {q : Inquiry} {network : Network σ} {s : σ} {base : Url}
    {request : HttpRequest} (h : (q.visit network s base).1.request? = some request) :
    q.requestTo base = .ok request := by
  unfold visit at h
  cases hrequest : q.requestTo base with
  | error e =>
    rw [hrequest] at h
    cases h
  | ok request' =>
    rw [hrequest] at h
    exact congrArg Except.ok (Option.some.inj h)

/-- There is one visit for each position: induction on the bases, each asked on the network as
    the one before has left it. -/
theorem survey_bases (q : Inquiry) (network : Network σ) (s : σ) (bases : List Url) :
    (q.survey network s bases).map Visit.base = bases := by
  induction bases generalizing s with
  | nil => rfl
  | cons base rest ih => rw [survey, List.map_cons, visit_base, ih]

/-- Every position is sent its own request or none: induction as before. -/
theorem survey_request {q : Inquiry} {network : Network σ} {s : σ} {bases : List Url} {v : Visit}
    {request : HttpRequest} (h : v ∈ q.survey network s bases)
    (hrequest : v.request? = some request) : q.requestTo v.base = .ok request := by
  induction bases generalizing s with
  | nil => cases h
  | cons base rest ih =>
    rw [survey] at h
    rcases List.mem_cons.1 h with rfl | h
    · rw [visit_base]
      exact visit_request hrequest
    · exact ih h

/-! ## Following the plan -/

/-- The plan, one server at a time. -/
theorem plan_cons (q : Inquiry) (last : CallFailure) (base : Url) (rest : List Url) :
    q.plan last (base :: rest) =
      match q.requestTo base with
      | .error e => q.plan e rest
      | .ok request => .ask request fun
        | .reply status body =>
          if Http.isSuccess status then .done (.ok body) else q.plan (.refused request status) rest
        | .unanswered => q.plan (.unanswered request) rest := by
  unfold plan requestTo
  rw [askInOrder]
  cases base.below? q.names with
  | none => rfl
  | some url =>
    dsimp only
    split <;> rfl

section

variable {q : Inquiry} {network : Network σ} {s : σ} {base : Url}

/-- **A server that fails is passed over**, and its failure is remembered. -/
theorem run_plan_passed (last : CallFailure) (rest : List Url)
    (h : (q.visit network s base).1.succeeds = false) :
    let later := (q.plan (q.visit network s base).1.failure rest).run network
      (q.visit network s base).2
    (q.plan last (base :: rest)).run network s =
      (later.1, (q.visit network s base).1.request?.toList ++ later.2.1, later.2.2) := by
  rw [plan_cons]
  unfold visit at h ⊢
  cases hrequest : q.requestTo base with
  | error e => rfl
  -- Nothing can be sent; nothing was.
  | ok request =>
    -- Something is sent, and either there is no answer or it is no success.
    rw [hrequest] at h
    dsimp only [Dialogue.run] at h ⊢
    cases houtcome : (network request s).1 with
    | unanswered => rfl
    | reply status body =>
      rw [houtcome] at h
      have hstatus : Http.isSuccess status = false := h
      dsimp only
      rw [if_neg (Bool.eq_false_iff.1 hstatus)]
      rfl

/-- **A server that succeeds is the last to be asked**, whatever stands behind it. -/
theorem run_plan_ended (last : CallFailure) (rest : List Url) {request : HttpRequest} {status : Nat}
    {body : String}
    (h : (q.visit network s base).1.exchange = .ok (request, .reply status body))
    (hsuccess : Http.isSuccess status = true) :
    (q.plan last (base :: rest)).run network s =
      (.ok body, [request], (q.visit network s base).2) := by
  rw [plan_cons]
  unfold visit at h ⊢
  cases hrequest : q.requestTo base with
  | error e =>
    rw [hrequest] at h
    cases h
  | ok request' =>
    rw [hrequest] at h
    obtain ⟨rfl, houtcome⟩ := Prod.mk.inj (Except.ok.inj h)
    dsimp only [Dialogue.run]
    rw [houtcome]
    dsimp only
    rw [if_pos hsuccess]
    rfl

/-- **If nobody succeeds**, all are asked, and the last failure counts.  Induction on the bases:
    the failure of the first is what the plan for the rest starts from, so it counts only if
    there is no rest. -/
theorem run_plan_failed (last : CallFailure) (bases : List Url)
    (h : ∀ v ∈ q.survey network s bases, v.succeeds = false) :
    ((q.plan last bases).run network s).1 =
        .error (((q.survey network s bases).getLast?.map Visit.failure).getD last) ∧
      (q.plan last bases).requests network s =
        (q.survey network s bases).filterMap Visit.request? := by
  induction bases generalizing s last with
  | nil => exact ⟨rfl, rfl⟩
  | cons base rest ih =>
    rw [survey] at h ⊢
    obtain ⟨hresult, hrequests⟩ := ih (q.visit network s base).1.failure
      fun v hv => h v (List.mem_cons_of_mem _ hv)
    have hfirst := run_plan_passed last rest (h _ (List.mem_cons_self ..))
    refine ⟨?_, ?_⟩
    · rw [hfirst, hresult, List.getLast?_cons, Option.map_some, Option.getD_some,
        Option.getD_map]
    · unfold Dialogue.requests at hrequests ⊢
      rw [hfirst, hrequests, Visit.requests_cons]

/-- **The first that succeeds** is the last to be asked, and its answer counts.  Induction on
    those before it. -/
theorem run_plan_succeeded (last : CallFailure) (bases : List Url) {front back : List Visit}
    {v : Visit} {request : HttpRequest} {status : Nat} {body : String}
    (hsurvey : q.survey network s bases = front ++ v :: back)
    (hfront : ∀ u ∈ front, u.succeeds = false)
    (hv : v.exchange = .ok (request, .reply status body))
    (hsuccess : Http.isSuccess status = true) :
    ((q.plan last bases).run network s).1 = .ok body ∧
      (q.plan last bases).requests network s = (front ++ [v]).filterMap Visit.request? := by
  induction front generalizing s last bases with
  | nil =>
    -- It is the first position.
    cases bases with
    | nil => cases hsurvey
    | cons base rest =>
      rw [survey] at hsurvey
      obtain ⟨rfl, -⟩ := List.cons.inj hsurvey
      have hlast := run_plan_ended last rest hv hsuccess
      have hsent : (q.visit network s base).1.request? = some request := by
        rw [Visit.request?, hv]
        rfl
      refine ⟨by rw [hlast], ?_⟩
      rw [Dialogue.requests, hlast, List.nil_append, List.filterMap_cons_some hsent]
      rfl
  | cons u front ih =>
    -- Before it stands one that fails.
    cases bases with
    | nil => cases hsurvey
    | cons base rest =>
      rw [survey] at hsurvey
      obtain ⟨rfl, hrest⟩ := List.cons.inj hsurvey
      obtain ⟨hresult, hrequests⟩ := ih (q.visit network s base).1.failure rest hrest
        fun u hu => hfront u (List.mem_cons_of_mem _ hu)
      have hfirst := run_plan_passed last rest (hfront _ (List.mem_cons_self ..))
      refine ⟨by rw [hfirst, hresult], ?_⟩
      unfold Dialogue.requests at hrequests ⊢
      rw [hfirst, hrequests, List.cons_append, Visit.requests_cons]

/-- **The sending succeeds where some position answers with a success**: the first such position
    counts. -/
theorem isOk_run_plan (last : CallFailure) (bases : List Url) :
    ((q.plan last bases).run network s).1.isOk = true ↔
      ∃ v ∈ q.survey network s bases, v.succeeds = true := by
  constructor
  · intro hok
    refine Decidable.byContradiction fun hnone => ?_
    have hall : ∀ v ∈ q.survey network s bases, v.succeeds = false := fun v hv =>
      Bool.eq_false_iff.2 fun hv' => hnone ⟨v, hv, hv'⟩
    rw [(run_plan_failed last bases hall).1] at hok
    cases hok
  · rintro ⟨v, hv, hsucceeds⟩
    -- what counts is the first success
    obtain ⟨u, hfirst⟩ := Option.isSome_iff_exists.1 (List.find?_isSome.2 ⟨v, hv, hsucceeds⟩)
    obtain ⟨hu, front, back, hsplit, hfront⟩ := List.find?_eq_some_iff_append.1 hfirst
    obtain ⟨request, status, body, hexchange, hsuccess⟩ := u.succeeds_iff.1 hu
    rw [(run_plan_succeeded last bases hsplit
      (fun w hw => (Bool.not_eq_true' _).mp (hfront w hw)) hexchange hsuccess).1]
    rfl

end

end Inquiry

/-! ## Reasons -/

/-- A text that begins differently is a different text. -/
theorem append_ne_of_head {front text other : String} {a : Char} {as : List Char}
    (hfront : front.toList = a :: as) (hother : other.toList.head? ≠ some a) :
    front ++ text ≠ other := by
  rintro rfl
  rw [String.toList_append, hfront] at hother
  exact hother rfl

/-- **No other failure is worded like that of a client without servers.**  The messages are
    compared by their first characters: a failure of a request starts with its method. -/
theorem CallFailure.message_ne {e : CallFailure} (h : e ≠ .noServers) :
    e.message ≠ CallFailure.noServers.message := by
  have hdescribe : ∀ (r : HttpRequest) (text : String),
      r.describe ++ text ≠ CallFailure.noServers.message := by
    intro r text
    unfold HttpRequest.describe
    rw [String.append_assoc, String.append_assoc]
    cases r.method <;> exact append_ne_of_head rfl (by decide)
  cases e with
  | noServers => exact absurd rfl h
  | notABase base =>
    show "service URL '" ++ base.render ++ _ ≠ _
    rw [String.append_assoc]
    exact append_ne_of_head rfl (by decide)
  | unsendable r =>
    show r.describe ++ _ ++ _ ++ _ ≠ _
    rw [String.append_assoc, String.append_assoc]
    exact hdescribe r _
  | unanswered r =>
    show r.describe ++ _ ++ _ ++ _ ≠ _
    rw [String.append_assoc, String.append_assoc]
    exact hdescribe r _
  | refused r status =>
    show r.describe ++ _ ++ _ ≠ _
    rw [String.append_assoc]
    exact hdescribe r _
  | unreadableBody => decide

/-- No position is without servers.  Whatever went wrong there, it is about a server. -/
theorem Inquiry.failure_ne {σ : Type} (q : Inquiry) (network : Network σ) (s : σ)
    {bases : List Url} {v : Visit} (h : v ∈ q.survey network s bases) :
    v.failure ≠ .noServers := by
  induction bases generalizing s with
  | nil => cases h
  | cons base rest ih =>
    rw [survey] at h
    rcases List.mem_cons.1 h with rfl | h
    · -- The first position: nothing could be sent, or what was sent has an outcome.
      unfold visit
      cases hrequest : q.requestTo base with
      | error e => exact requestTo_error hrequest
      | ok request =>
        show Visit.failure ⟨base, .ok (request, _)⟩ ≠ _
        cases (network request s).1 <;> exact nofun
    · exact ih _ h

/-! ## Operations -/

/-- **What an operation brings.** -/
inductive ClientAnswer where
  | registered (client : RegistryClient)
  | done
  | directory (hosts : SortedMap (List String))
  | hosts (names : List String)

/-- The error of an operation, with the reason for it. -/
def ClientCall.error : ClientCall → String → RegistryError
  | register _ => .register
  | heartbeat _ => .heartbeat
  | deregister _ => .deregister
  | apps => .apps
  | app name => .app name

namespace RegistryClient

variable {σ : Type} {c : RegistryClient}

/-- **An operation and what it brings.** -/
def operate (c : RegistryClient) : ClientCall → Dialogue (Except RegistryError ClientAnswer)
  | .register i => (c.register i).map (Except.map .registered)
  | .heartbeat i => (c.heartbeat i).map (Except.map fun _ => .done)
  | .deregister i => (c.deregister i).map (Except.map fun _ => .done)
  | .apps => c.apps.map (Except.map .directory)
  | .app name => (c.app name).map (Except.map .hosts)

/-- What an operation asks the servers. -/
def inquiry (c : RegistryClient) : ClientCall → Inquiry
  | .register i => {
      method := .post
      names := ["apps", i.appKey]
      body := some (c.announcement i).toJson
      timeout := c.settings.timeout }
  | .heartbeat i =>
    { method := .put, names := ["apps", i.appKey, i.instanceKey], timeout := c.settings.timeout }
  | .deregister i =>
    { method := .delete, names := ["apps", i.appKey, i.instanceKey], timeout := c.settings.timeout }
  | .apps => { method := .get, names := ["apps"], timeout := c.settings.timeout }
  | .app name =>
    { method := .get, names := ["apps", Text.upperCase name], timeout := c.settings.timeout }

/-- What an operation makes of the body of an answer. -/
def meaning (c : RegistryClient) : ClientCall → String → Except CallFailure ClientAnswer
  | .register i, _ => .ok (.registered (c.follow (c.announcement i).announced))
  | .heartbeat _, _ => .ok .done
  | .deregister _, _ => .ok .done
  | .apps, body => (readBody applicationsOfJson? (.ok body)).map fun list =>
      .directory (LeaseKeeper.directory list.toList)
  | .app _, body => (readBody applicationOfJson? (.ok body)).map fun application =>
      .hosts application.hostNames

/-- **What is below an operation** is the plan for its inquiry.  The five operations differ in
    what they ask and in what they make of the body, and in nothing else. -/
theorem run_operate (c : RegistryClient) (call : ClientCall) (network : Network σ) (s : σ) :
    let sent := ((c.inquiry call).plan .noServers c.bases).run network s
    (c.operate call).run network s =
      ((sent.1.bind (c.meaning call)).mapError fun e => call.error e.message, sent.2) := by
  -- what is sent is the plan, and what comes of it depends on the result only
  have hplan : c.send (c.inquiry call).method (c.inquiry call).names (c.inquiry call).body =
      (c.inquiry call).plan .noServers c.bases := by
    cases call <;> rfl
  rw [← hplan]
  cases call with
  | register i =>
    unfold operate register
    rw [Dialogue.run_map, Dialogue.run_map]
    dsimp only [inquiry]
    generalize (c.send .post ["apps", i.appKey] (some (c.announcement i).toJson)).run network s = sent
    cases sent.1 <;> rfl
  | heartbeat i =>
    unfold operate heartbeat
    rw [Dialogue.run_map, Dialogue.run_map]
    dsimp only [inquiry]
    generalize (c.send .put ["apps", i.appKey, i.instanceKey]).run network s = sent
    cases sent.1 <;> rfl
  | deregister i =>
    unfold operate deregister
    rw [Dialogue.run_map, Dialogue.run_map]
    dsimp only [inquiry]
    generalize (c.send .delete ["apps", i.appKey, i.instanceKey]).run network s = sent
    cases sent.1 <;> rfl
  -- Of the two inquiries the body is read as well, and that may fail.
  | apps =>
    unfold operate apps
    rw [Dialogue.run_map, Dialogue.run_map]
    dsimp only [inquiry]
    generalize (c.send .get ["apps"]).run network s = sent
    cases sent.1 with
    | error e => rfl
    | ok body =>
      dsimp only [Except.bind, meaning]
      cases readBody applicationsOfJson? (.ok body) <;> rfl
  | app name =>
    unfold operate app
    rw [Dialogue.run_map, Dialogue.run_map]
    dsimp only [inquiry]
    generalize (c.send .get ["apps", Text.upperCase name]).run network s = sent
    cases sent.1 with
    | error e => rfl
    | ok body =>
      dsimp only [Except.bind, meaning]
      cases readBody applicationOfJson? (.ok body) <;> rfl

/-- The client of any settings has servers: without addresses there is no client, and otherwise there
    is one base for each address. -/
theorem bases_ne_nil {settings : RegistrySettings} (hc : ofSettings settings = .ok c) :
    c.bases ≠ [] := by
  unfold ofSettings RegistrySettings.bases at hc
  cases hurls : settings.serviceUrls with
  | nil =>
    rw [hurls] at hc
    cases hc
  | cons address rest =>
    rw [hurls] at hc
    intro hnil
    cases hbases : (address :: rest).mapM (baseUrl settings.port) with
    | error fault =>
      rw [hbases] at hc
      cases hc
    | ok bases =>
      rw [hbases] at hc
      cases hc
      rw [show bases = [] from hnil, List.mapM_cons] at hbases
      obtain ⟨base, -, hrest⟩ := Url.bind_eq_ok hbases
      obtain ⟨more, -, hcons⟩ := Url.bind_eq_ok hrest
      cases hcons

/-! ## Failover -/

/-- **Servers are asked in order, and no longer than necessary.**  Of a client with servers, on any
    network and for any operation:

    * requests go to positions with a hierarchy and HTTP only, each to what is below its base;
    * something is sent with success exactly if some position answers with a success;
    * if none does, every position that can be asked was asked once, in order, and the operation fails
      in its own way for the reason of the last position, which is never that there are no servers;
    * if one does, it is the last that was asked, every position before it that can be asked was asked
      once, in order, and the result is what its body means.  A list of applications or an application
      that cannot be read is an error of the operation. -/
theorem failover (h : c.bases ≠ []) (network : Network σ) (s : σ) (call : ClientCall) :
    let q := c.inquiry call
    let visits := q.survey network s c.bases
    let result := ((c.operate call).run network s).1
    let requests := (c.operate call).requests network s
    (visits.map Visit.base = c.bases ∧ ∀ v ∈ visits, ∀ request, v.request? = some request →
      v.base.isHierarchical = true ∧ (v.base.scheme = "http" ∨ v.base.scheme = "https") ∧
        v.base.below? q.names = some request.url ∧ request.method = q.method ∧
        request.body = q.body) ∧
    (((c.send q.method q.names q.body).run network s).1.isOk = true ↔
      ∃ v ∈ visits, v.succeeds = true) ∧
    ((∀ v ∈ visits, v.succeeds = false) →
      requests = visits.filterMap Visit.request? ∧
      ∃ v, visits.getLast? = some v ∧ result = .error (call.error v.failure.message) ∧
        v.failure.message ≠ CallFailure.noServers.message) ∧
    (∀ front v back request status body, visits = front ++ v :: back →
      (∀ u ∈ front, u.succeeds = false) → v.exchange = .ok (request, .reply status body) →
      Http.isSuccess status = true →
      requests = (front ++ [v]).filterMap Visit.request? ∧
      result = (c.meaning call body).mapError (fun e => call.error e.message) ∧
      (call = .apps → (Json.parse? body).bind applicationsOfJson? = none →
        result = .error (.apps CallFailure.unreadableBody.message)) ∧
      (∀ name, call = .app name → (Json.parse? body).bind applicationOfJson? = none →
        result = .error (.app name CallFailure.unreadableBody.message))) := by
  intro q visits result requests
  have hsend : c.send q.method q.names q.body = q.plan .noServers c.bases := by
    cases call <;> rfl
  have hresult : result = (((q.plan .noServers c.bases).run network s).1.bind
      (c.meaning call)).mapError fun e => call.error e.message :=
    congrArg Prod.fst (run_operate c call network s)
  have hrequests : requests = (q.plan .noServers c.bases).requests network s :=
    congrArg (fun r => r.2.1) (run_operate c call network s)
  refine ⟨⟨q.survey_bases network s c.bases, ?_⟩, ?_, ?_, ?_⟩
  · -- Where requests go.
    intro v hv request hrequest
    obtain ⟨hhierarchical, hscheme, hbelow, hrest⟩ :=
      Inquiry.requestTo_ok (Inquiry.survey_request hv hrequest)
    exact ⟨hhierarchical, hscheme, hbelow, congrArg HttpRequest.method hrest,
      congrArg HttpRequest.body hrest⟩
  · -- When the sending succeeds.
    rw [hsend]
    exact Inquiry.isOk_run_plan .noServers c.bases
  · -- Nobody succeeds: there is a last position, and its reason counts.
    intro hnone
    obtain ⟨hplan, hplanRequests⟩ := Inquiry.run_plan_failed .noServers c.bases hnone
    refine ⟨hrequests.trans hplanRequests, ?_⟩
    have hne : visits ≠ [] := by
      intro hnil
      have hbases := q.survey_bases network s c.bases
      rw [show q.survey network s c.bases = [] from hnil] at hbases
      exact h hbases.symm
    have hlast : visits.getLast? = some (visits.getLast hne) := List.getLast?_eq_some_getLast hne
    refine ⟨visits.getLast hne, hlast, ?_, ?_⟩
    · rw [hresult, hplan, show q.survey network s c.bases = visits from rfl, hlast]
      rfl
    · exact CallFailure.message_ne (q.failure_ne network s (List.getLast_mem hne))
  · -- Somebody succeeds: the first who does counts.
    intro front v back request status body hsplit hfront hv hsuccess
    obtain ⟨hplan, hplanRequests⟩ :=
      Inquiry.run_plan_succeeded .noServers c.bases hsplit hfront hv hsuccess
    rw [hplan] at hresult
    refine ⟨hrequests.trans hplanRequests, hresult, ?_, ?_⟩
    · rintro rfl hunreadable
      rw [hresult]
      simp only [Except.bind, meaning, readBody, hunreadable]
      rfl
    · rintro name rfl hunreadable
      rw [hresult]
      simp only [Except.bind, meaning, readBody, hunreadable]
      rfl

/-- A registry at three addresses: nothing can be below the first, and the others are one server. -/
def threeSettings : RegistrySettings where
  serviceUrls := ["mailto:registry@example", "http://[::1]:8761/eureka", "http://[::1]:8761/eureka"]
  port := 80

def threeServers : RegistryClient where
  settings := threeSettings
  bases := [{ scheme := "mailto", host := none, path := .rootless "registry@example" }, localBase,
    localBase]

theorem ofSettings_threeSettings : ofSettings threeSettings = .ok threeServers :=
  ok_of_toOption (by decide +kernel)

/-- A server that is busy once, and then answers with something that is no JSON. -/
def busyNetwork : Network Bool := fun _ busy =>
  (if busy then .reply 503 "" else .reply 200 "<html>", false)

/-- The second request to the server is answered, and the list of applications cannot be read.
    The first position is passed over without a request. -/
theorem threeServers_failover : threeServers.bases ≠ [] ∧
    ((threeServers.send .get ["apps"]).run busyNetwork true).1.isOk = true ∧
    ((threeServers.operate .apps).requests busyNetwork true).length = 2 ∧
    ((threeServers.operate .apps).run busyNetwork true).1 =
      .error (.apps "error decoding response body") := by
  have hne : threeServers.bases ≠ [] := bases_ne_nil ofSettings_threeSettings
  obtain ⟨-, hsent, -, hfirst⟩ := failover hne busyNetwork true .apps
  let q := threeServers.inquiry .apps
  let visits := q.survey busyNetwork true threeServers.bases
  -- when the third position is asked, the server has been busy once
  let third := (q.visit busyNetwork (q.visit busyNetwork true threeServers.bases[0]).2 localBase).2
  have hthird : third = false := by decide +kernel
  have hexchange : ∃ request,
      (q.visit busyNetwork third localBase).1.exchange = .ok (request, .reply 200 "<html>") := by
    rw [hthird]
    have hok : (q.requestTo localBase).isOk = true := by decide +kernel
    cases hrequest : q.requestTo localBase with
    | error e =>
      rw [hrequest] at hok
      cases hok
    | ok request =>
      refine ⟨request, ?_⟩
      rw [Inquiry.visit, hrequest]
      rfl
  obtain ⟨request, hexchange⟩ := hexchange
  have hsplit : visits = visits.take 2 ++ (q.visit busyNetwork third localBase).1 :: [] := rfl
  have hfront : ∀ u ∈ visits.take 2, u.succeeds = false := by decide +kernel
  obtain ⟨hrequests, -, hunreadable, -⟩ :=
    hfirst (visits.take 2) _ [] request 200 "<html>" hsplit hfront hexchange rfl
  refine ⟨hne, hsent.2 (by decide +kernel), ?_, hunreadable rfl (by decide +kernel)⟩
  rw [hrequests]
  decide +kernel

end RegistryClient

end LeaseKeeper

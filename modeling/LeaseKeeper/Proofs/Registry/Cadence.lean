/-
  How often a client sends signs of life.

  A client begins with one in 30 seconds.  From the first registration that succeeds with a lease in
  it, the interval is the one that was announced; whatever else is asked, and whatever the servers
  answer, leaves the client as it is (`heartbeat_cadence`).

  An interval is announced in seconds and kept in milliseconds, both in 64 bits.  So the interval is
  the announced one up to `longestLease`; a longer one wraps around, and what is left can be a second
  or nothing (`cadence_not_always_announced`).
-/
import LeaseKeeper.Registry.Client

namespace LeaseKeeper

/-! ## Calls one after the other -/

/-- **What a client can be asked to do.** -/
inductive ClientCall where
  | register (identity : Identity)
  | heartbeat (identity : Identity)
  | deregister (identity : Identity)
  | apps
  | app (name : String)
  deriving DecidableEq, Inhabited

/-- A call and whether it succeeded. -/
structure ServedCall where
  call : ClientCall
  succeeded : Bool
  deriving DecidableEq

/-- Whether this is a registration that succeeded. -/
def ServedCall.isRegistration : ServedCall → Bool
  | ⟨.register _, succeeded⟩ => succeeded
  | _ => false

namespace RegistryClient

variable {σ : Type} {network : Network σ} {s : σ} {c : RegistryClient}

/-- A call as a plan: whether it succeeds, and the client from then on. -/
def plan (c : RegistryClient) : ClientCall → Dialogue (Bool × RegistryClient)
  | .register i => (c.register i).map fun
    | .ok c' => (true, c')
    | .error _ => (false, c)
  | .heartbeat i => (c.heartbeat i).map fun answer => (answer.isOk, c)
  | .deregister i => (c.deregister i).map fun answer => (answer.isOk, c)
  | .apps => c.apps.map fun answer => (answer.isOk, c)
  | .app name => (c.app name).map fun answer => (answer.isOk, c)

/-- **Calls one after the other on a network**: how each of them went, and the client after them. -/
def serve (network : Network σ) (s : σ) (c : RegistryClient) :
    List ClientCall → List ServedCall × RegistryClient
  | [] => ([], c)
  | call :: calls =>
    let ((succeeded, c'), _, s') := (c.plan call).run network s
    let (served, c'') := serve network s' c' calls
    (⟨call, succeeded⟩ :: served, c'')

/-! ## What one call changes -/

/-- The interval that the lease of these settings asks for. -/
def leasedInterval? (c : RegistryClient) : Option Duration :=
  c.settings.renewalInterval.bind fun d =>
    if 0 < UInt64.ofNat d.wholeSeconds then some ⟨(UInt64.ofNat d.wholeSeconds * 1000).toNat⟩
    else none

/-- The client when its interval follows its lease, if there is one. -/
def leased (c : RegistryClient) : RegistryClient :=
  { c with heartbeatInterval := c.leasedInterval?.getD c.heartbeatInterval }

theorem follow_announcement (c : RegistryClient) (i : Identity) :
    c.follow (c.announcement i).announced = c.leased := by
  unfold follow announcement InstanceInfo.ofIdentity leased leasedInterval?
  cases c.settings.renewalInterval with
  | none => rfl
  | some d =>
    dsimp only [Option.map_some, Option.bind_some]
    split <;> rfl

/-- Following the same lease again changes nothing. -/
theorem leased_leased (c : RegistryClient) : c.leased.leased = c.leased := by
  have hinterval : c.leased.leasedInterval? = c.leasedInterval? := rfl
  unfold leased at hinterval ⊢
  rw [hinterval]
  cases c.leasedInterval? <;> rfl

/-- **Only a registration that succeeds changes the client.** -/
theorem run_plan (network : Network σ) (s : σ) (c : RegistryClient) (call : ClientCall) :
    ((c.plan call).run network s).1.2 =
      if (⟨call, ((c.plan call).run network s).1.1⟩ : ServedCall).isRegistration then c.leased
      else c := by
  cases call with
  | register i =>
    unfold plan register
    rw [Dialogue.run_map, Dialogue.run_map]
    cases ((c.send .post ["apps", i.appKey] (some (c.announcement i).toJson)).run network s).1 with
    | error e => rfl
    | ok body => exact c.follow_announcement i
  -- the other plans end with the client that they began with
  | heartbeat i | deregister i | apps | app name =>
    unfold plan
    rw [Dialogue.run_map]
    rfl

/-! ## What all calls change -/

/-- **The client after any calls**: it follows its lease from the first registration that succeeds.
    Induction on the calls. -/
theorem serve_client (network : Network σ) (s : σ) (c : RegistryClient) (calls : List ClientCall) :
    (c.serve network s calls).2 =
      if (c.serve network s calls).1.any ServedCall.isRegistration then c.leased else c := by
  induction calls generalizing s c with
  | nil => rfl
  | cons call calls ih =>
    let first := (c.plan call).run network s
    let rest := first.1.2.serve network first.2.2 calls
    have hfirst : first.1.2 =
        if (⟨call, first.1.1⟩ : ServedCall).isRegistration then c.leased else c :=
      run_plan network s c call
    have hrest : rest.2 =
        if rest.1.any ServedCall.isRegistration then first.1.2.leased else first.1.2 :=
      ih first.2.2 first.1.2
    show rest.2 =
      if (⟨call, first.1.1⟩ :: rest.1 : List ServedCall).any ServedCall.isRegistration then c.leased
      else c
    rw [hrest, hfirst, List.any_cons]
    cases (⟨call, first.1.1⟩ : ServedCall).isRegistration <;>
      cases rest.1.any ServedCall.isRegistration <;>
      simp [leased_leased]

/-- There is a registration that succeeded. -/
theorem any_isRegistration {served : List ServedCall}
    (h : served.any ServedCall.isRegistration = true) : ∃ i, ⟨.register i, true⟩ ∈ served := by
  obtain ⟨⟨call, succeeded⟩, hmem, hregistration⟩ := List.any_eq_true.1 h
  cases call with
  | register i => exact ⟨i, (show succeeded = true from hregistration) ▸ hmem⟩
  | heartbeat | deregister | apps | app => cases hregistration

/-! ## The interval -/

/-- The longest lease, in seconds, whose milliseconds can be counted in 64 bits. -/
def longestLease : Nat := 18446744073709551

/-- The lease of 2⁶¹ seconds, of whose milliseconds nothing is left. -/
def vanishingLease : Nat := 2305843009213693952

theorem toNat_millis (secs : UInt64) : (secs * 1000).toNat = secs.toNat * 1000 % UInt64.size := by
  rw [UInt64.toNat_mul]
  rfl

/-- Nothing is left of the milliseconds. -/
theorem millis_eq_zero_iff (n : Nat) : n * 1000 % UInt64.size = 0 ↔ vanishingLease ∣ n := by
  have hodd : Nat.Coprime vanishingLease 125 := by decide
  have hsize : UInt64.size = vanishingLease * 8 := by decide
  rw [← Nat.dvd_iff_mod_eq_zero, hsize, show n * 1000 = n * 125 * 8 by omega,
    Nat.mul_dvd_mul_iff_right (by decide)]
  exact ⟨hodd.dvd_of_dvd_mul_right, fun h => Nat.dvd_mul_right_of_dvd h 125⟩

/-- All milliseconds are left. -/
theorem millis_eq_iff (n : Nat) : n * 1000 % UInt64.size = n * 1000 ↔ n ≤ longestLease := by
  rw [Nat.mod_eq_iff_lt (by decide), longestLease, UInt64.size]
  omega

/-- The client that follows the lease in its announcements. -/
theorem leased_of_lease {i : Identity} {terms : LeaseTerms}
    (hlease : (c.announcement i).announced.lease = some terms)
    (hpositive : 0 < terms.renewalIntervalSecs) :
    c.leased.heartbeatInterval = ⟨terms.renewalIntervalSecs.toNat * 1000 % UInt64.size⟩ := by
  rw [← c.follow_announcement i, follow, hlease]
  dsimp only
  rw [if_pos hpositive, toNat_millis]

/-- A client whose announcements have no lease that could be followed. -/
theorem leased_of_no_lease {i : Identity}
    (h : ∀ terms, (c.announcement i).announced.lease = some terms →
      terms.renewalIntervalSecs = 0) : c.leased = c := by
  rw [← c.follow_announcement i, follow]
  cases hlease : (c.announcement i).announced.lease with
  | none => rfl
  | some terms =>
    dsimp only
    rw [h terms hlease]
    rfl

/-- **Signs of life keep the announced pace.**  The client of any settings, after any calls, whatever
    the servers answer:

    * as long as no registration has succeeded with a lease in it, the interval is 30 seconds;
    * from the first one on, it is the announced number of seconds, at a thousand milliseconds each,
      in 64 bits: what was announced exactly up to `longestLease`, and nothing exactly for the
      multiples of `vanishingLease`;
    * a call that fails and a call that is no registration leave the client as it is. -/
theorem heartbeat_cadence {settings : RegistrySettings} (hc : ofSettings settings = .ok c)
    (network : Network σ) (s : σ) (calls : List ClientCall) :
    let served := c.serve network s calls
    ((∀ i terms, ⟨.register i, true⟩ ∈ served.1 →
        (c.announcement i).announced.lease = some terms → terms.renewalIntervalSecs = 0) →
      served.2.heartbeatInterval = .ofSeconds 30) ∧
    (∀ i terms, ⟨.register i, true⟩ ∈ served.1 →
      (c.announcement i).announced.lease = some terms → 0 < terms.renewalIntervalSecs →
      let announced := terms.renewalIntervalSecs.toNat
      served.2.heartbeatInterval.millis = announced * 1000 % UInt64.size ∧
      (served.2.heartbeatInterval = .ofSeconds announced ↔ announced ≤ longestLease) ∧
      (served.2.heartbeatInterval.millis = 0 ↔ vanishingLease ∣ announced)) ∧
    (∀ (network' : Network σ) (s' : σ) (call : ClientCall),
      let next := ((served.2.plan call).run network' s').1
      (next.1 = false ∨ ∀ i, call ≠ .register i) → next.2 = served.2) := by
  intro served
  have hserved := serve_client network s c calls
  refine ⟨?_, ?_, ?_⟩
  · intro hnone
    have hbegin : c.heartbeatInterval = .ofSeconds 30 := by
      unfold ofSettings at hc
      cases hbases : settings.bases with
      | error fault =>
        rw [hbases] at hc
        cases hc
      | ok bases =>
        rw [hbases] at hc
        cases hc
        rfl
    cases hany : served.1.any ServedCall.isRegistration with
    | false =>
      rw [show served.2 = c from hserved.trans (if_neg (Bool.eq_false_iff.1 hany))]
      exact hbegin
    | true =>
      obtain ⟨i, hmem⟩ := any_isRegistration hany
      have hsame := leased_of_no_lease fun terms hlease => hnone i terms hmem hlease
      rw [show served.2 = c from (hserved.trans (if_pos hany)).trans hsame]
      exact hbegin
  · intro i terms hmem hlease hpositive announced
    have hany : served.1.any ServedCall.isRegistration = true :=
      List.any_eq_true.2 ⟨_, hmem, rfl⟩
    have hinterval : served.2.heartbeatInterval = ⟨announced * 1000 % UInt64.size⟩ := by
      rw [show served.2 = c.leased from hserved.trans (if_pos hany)]
      exact leased_of_lease hlease hpositive
    rw [hinterval]
    refine ⟨rfl, ?_, millis_eq_zero_iff announced⟩
    rw [← millis_eq_iff announced]
    exact ⟨congrArg Duration.millis, congrArg Duration.mk⟩
  · intro network' s' call next hcall
    have hnext := run_plan network' s' served.2 call
    rw [if_neg] at hnext
    · exact hnext
    · intro hregistration
      cases call with
      | register i =>
        rcases hcall with hfailed | hother
        · exact absurd (hfailed.symm.trans hregistration) nofun
        · exact hother i rfl
      | heartbeat | deregister | apps | app => cases hregistration

/-- A network in which everything is accepted. -/
def acceptingNetwork : Network Unit := fun _ s => (.reply 204 "", s)

/-- A registry at one address, with a lease of so many seconds. -/
def leaseSettings (secs : Nat) : RegistrySettings where
  serviceUrls := ["http://[::1]/eureka"]
  port := 8761
  renewalInterval := some (.ofSeconds secs)

/-- Its client. -/
def leaseClient (secs : Nat) : RegistryClient where
  settings := leaseSettings secs
  bases := [{
    scheme := "http"
    host := some (.ipv6 [0, 0, 0, 0, 0, 0, 0, 1])
    port := some 8761
    path := .segments ["eureka"] }]

/-- The bases do not depend on the lease. -/
theorem ofSettings_leaseSettings (secs : Nat) :
    ofSettings (leaseSettings secs) = .ok (leaseClient secs) := by
  have hbases : (["http://[::1]/eureka"].mapM (baseUrl 8761)).toOption =
      some (leaseClient 0).bases := by decide +kernel
  unfold ofSettings
  rw [show (leaseSettings secs).bases = ["http://[::1]/eureka"].mapM (baseUrl 8761) from
    if_neg nofun]
  cases h : ["http://[::1]/eureka"].mapM (baseUrl 8761) with
  | error fault =>
    rw [h] at hbases
    cases hbases
  | ok bases =>
    rw [h] at hbases
    cases hbases
    rfl

/-- Who takes out the lease. -/
def leasedIdentity : Identity := .ofAddress "svc" "i-1" "10.0.0.5:8080"

theorem fiveSeconds_kept :
    ((leaseClient 5).serve acceptingNetwork ()
      [.register leasedIdentity, .apps]).2.heartbeatInterval = .ofSeconds 5 := by
  have hcadence := heartbeat_cadence (ofSettings_leaseSettings 5) acceptingNetwork ()
    [.register leasedIdentity, .apps]
  have hkept := hcadence.2.1 leasedIdentity ⟨5⟩ (by decide +kernel) (by decide +kernel) (by decide)
  exact hkept.2.1.2 (by decide)

/-- **A lease can be too long to be kept**: of more than `longestLease` seconds little is left. -/
theorem cadence_not_always_announced :
    ¬∀ (settings : RegistrySettings) (c : RegistryClient), ofSettings settings = .ok c →
      (∀ d, settings.renewalInterval = some d → 1 ≤ d.wholeSeconds ∧ d.wholeSeconds < UInt64.size) →
      ∀ (σ : Type) (network : Network σ) (s : σ) (calls : List ClientCall) (i : Identity)
        (terms : LeaseTerms), ⟨.register i, true⟩ ∈ (c.serve network s calls).1 →
        (c.announcement i).announced.lease = some terms →
        (c.serve network s calls).2.heartbeatInterval =
          .ofSeconds terms.renewalIntervalSecs.toNat := by
  intro h
  have hkept := h (leaseSettings 2305843009213693953) (leaseClient 2305843009213693953)
    (ofSettings_leaseSettings _) (fun d hd => by cases hd; decide) Unit acceptingNetwork ()
    [.register leasedIdentity] leasedIdentity ⟨2305843009213693953⟩ (by decide +kernel)
    (by decide +kernel)
  -- 2⁶¹ + 1 seconds were announced, and one second is left
  exact absurd hkept (by decide +kernel)

end RegistryClient

end LeaseKeeper

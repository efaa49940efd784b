/-
  Enabling is all or nothing.

  A scope needs a client, an identity and a subscription to signals, and each of the three may be
  refused.  So enabling a registrar comes to one of three things: it is enabled already and
  nothing happens; something is refused (`Refused`), and all that is left of the attempt is that a
  client was asked for and that the process is asked to end; or one scope starts (`Started`).
  Clients are asked for once for every scope and once for every refusal.

  That nothing comes of a refusal later on either is a statement about runs (`SameFuture`): the
  refusal is written in the journal, and what is written there changes nothing.

  The three outcomes are read off one step.  How often clients are asked for is a count over a
  whole run, and it is an invariant (`Asked`): for each registrar, the clients it has asked for
  are its scopes and the refusals counted so far.  Enabling moves both sides by one, whichever way
  it goes; every other move leaves both sides alone, and that needs one look at each of them
  (`move_asks_nothing`).
-/
import LeaseKeeper.Proofs.Lifecycle.Exits
import LeaseKeeper.Proofs.Lifecycle.Interplay
import LeaseKeeper.Proofs.Lifecycle.Past
import LeaseKeeper.Proofs.Lifecycle.Patience

namespace LeaseKeeper

/-! ## What a turn does to the registrar -/

/-- **A registrar after an attempt that ended with an error**: it has asked for a client, and for a
    subscription if that was refused. -/
def Registrar.attempted (r : Registrar) (e : StartupError) : Registrar :=
  { r with
    acquired := r.acquired + 1
    clientFaults := r.clientFaults.tail
    signalFaults := match e with
      | .signals _ => r.signalFaults.tail
      | _ => r.signalFaults }

namespace Keeper

/-- **Enabling registrar number `n` was refused.**  The registrar has made an attempt, and the process
    is asked to end; what the registrar remembers, everybody else, all scopes with their workers, the
    line and the subscriptions are as before. -/
structure Refused (s : Keeper) (n : Nat) (r : Registrar) (e : StartupError) (s' : Keeper) :
    Prop where
  now : s'.now = s.now
  scopes : s'.scopes = s.scopes
  subscriptions : s'.subscriptions = s.subscriptions
  ready : s'.ready = s.ready
  others : ∀ m, m ≠ n → s'.registrars[m]? = s.registrars[m]?
  journal : s'.journal = s.journal ++ [.logged (.enableFailed e), .exited n 1]
  registrar : s'.registrars[n]? = some (r.attempted e)
  /-- Nothing comes of it later: all goes on as if the registrar had only asked. -/
  future : s'.SameFuture (s.setRegistrar n (r.attempted e))

/-- **Registrar number `n` was enabled**: one scope more, live and with a count of its own, and its two
    workers at the end of the line. -/
structure Started (s : Keeper) (n : Nat) (r : Registrar) (i : Identity) (s' : Keeper) : Prop where
  now : s'.now = s.now
  scopes : s'.scopes = s.scopes ++ [{
    owner := n, count := r.scopeCount + 1, identity := i, isCancelled := false
    watcher := .watching
    task := .waiting (s.now + r.pacing.startupDelay.millis) .register }]
  fresh : ∀ {k : Nat} {c : Scope}, s.scopes[k]? = some c → c.owner = n → c.count ≤ r.scopeCount
  ready : ∃ line, s'.ready = line ++ [⟨s.scopes.length, .watcher⟩, ⟨s.scopes.length, .task⟩] ∧
    ∀ a ∈ line, a ∈ s.ready ∨ a = ⟨s.scopes.length - 1, .watcher⟩
  subscriptions : s'.subscriptions = s.subscriptions.subscribe
  others : ∀ m, m ≠ n → s'.registrars[m]? = s.registrars[m]?
  journal : s'.journal = s.journal ++ [.began s.now n s.scopes.length i,
    .logged (.enabled i r.pacing.retryInterval)]
  registrar : s'.registrars[n]? = some { r with
    acquired := r.acquired + 1
    clientFaults := r.clientFaults.tail
    signalFaults := r.signalFaults.tail
    current := some s.scopes.length
    shown := some i
    scopeCount := r.scopeCount + 1 }

section

variable {s : Keeper} {n : Nat} {r : Registrar} {e : StartupError} {i : Identity}

/-- What follows a refusal is written down, and that is all. -/
theorem refused_failEnabling (hr : s.registrars[n]? = some r) :
    s.Refused n r e (s.failEnabling n (r.attempted e) e) where
  now := rfl
  scopes := rfl
  subscriptions := rfl
  ready := rfl
  others := fun _ hm => List.getElem?_set_ne hm.symm
  journal := rfl
  registrar := List.getElem?_set_self (List.getElem?_eq_some_iff.1 hr).1
  future := sameFuture_tell (s.setRegistrar n (r.attempted e)) _

/-- What starts is the scope of the registrar as it has asked for everything. -/
theorem started_beginScope (hs : s.Orderly) (hr : s.registrars[n]? = some r) :
    s.Started n r i (s.beginScope n r.acquiring.subscribing i) := by
  rw [beginScope_line]
  constructor
  · rfl
  · rfl
  · -- Its count is new: the registrar has counted every scope of its own.
    intro k c hc howner
    obtain ⟨m, hm, -, hle⟩ := hs.owned hc
    rw [howner, memory?_of hr] at hm
    rw [← Option.some.inj hm] at hle
    exact hle
  · -- The line has the two new workers at its end. The watcher of the newest scope before may have
    -- joined it in between, to find its subscription replaced.
    refine ⟨_, rfl, ?_⟩
    intro a ha
    unfold wakeWatcher at ha
    rw [wakeIf_joined] at ha
    split at ha
    · exact (eq_or_mem_of_mem_joined ha).symm
    · exact .inl ha
  · rfl
  · intro m hm
    exact List.getElem?_set_ne hm.symm
  · rfl
  · exact List.getElem?_set_self (List.getElem?_eq_some_iff.1 hr).1

/-- **A registrar that could be enabled is, unless something is refused.**  The three things are
    asked for in this order, and the first that is refused is the reason. -/
theorem enable_outcome (hs : s.Orderly) (hr : s.registrars[n]? = some r)
    (hfree : (r.isDropped || r.isEnabled) = false) :
    (∀ e, r.startupError? = some e → s.Refused n r e (s.enable n)) ∧
      (r.startupError? = none → ∃ i, r.identity = .ok i ∧ s.Started n r i (s.enable n)) := by
  unfold enable Registrar.startupError?
  simp only [hr, hfree, Bool.false_eq_true, if_false]
  cases hclient : r.clientFault? with
  | some reason =>
    -- There is no client.
    refine ⟨fun e he => ?_, fun hstarts => by cases hstarts⟩
    rw [← Option.some.inj he]
    exact refused_failEnabling hr
  | none =>
    cases hidentity : r.identity with
    | error cause =>
      -- There is no identity.
      refine ⟨fun e he => ?_, fun hstarts => by cases hstarts⟩
      rw [← Option.some.inj he]
      exact refused_failEnabling hr
    | ok i =>
      cases hsignal : r.signalFault? with
      | some reason =>
        -- There are no signals.
        refine ⟨fun e he => ?_, fun hstarts => by cases hstarts⟩
        rw [← Option.some.inj he]
        exact refused_failEnabling hr
      | none =>
        -- There is everything.
        refine ⟨fun e he => (by cases he), fun _ => ⟨i, rfl, ?_⟩⟩
        exact started_beginScope hs hr

end

/-! ## How often clients are asked for -/

/-- How many clients each registrar has asked for. -/
def acquisitions (s : Keeper) : List Nat := s.registrars.map Registrar.acquired

section

variable {s s' : Keeper} {n : Nat} {r r' : Registrar}

/-- **Clients are accounted for**: registrar number `n` has asked for one for each of its scopes, and
    for `failed n` more. -/
def Asked (s : Keeper) (failed : Nat → Nat) : Prop :=
  ∀ n r, s.registrars[n]? = some r → r.acquired = s.owners.count n + failed n

/-- The account is about the counts alone. -/
theorem Asked.congr {failed : Nat → Nat} (h : s.Asked failed)
    (hasked : s'.acquisitions = s.acquisitions) (howners : s'.owners = s.owners) :
    s'.Asked failed := by
  intro n r' hr'
  have hlist : s.acquisitions[n]? = some r'.acquired := by
    rw [← hasked, acquisitions, List.getElem?_map, hr']
    rfl
  rw [acquisitions, List.getElem?_map] at hlist
  obtain ⟨r, hr, heq⟩ := Option.map_eq_some_iff.1 hlist
  rw [howners, ← heq]
  exact h n r hr

/-- A refusal has asked for one client more, and there is one refusal more. -/
theorem Refused.asked_once {failed : Nat → Nat} {e : StartupError} (h : s.Refused n r e s')
    (hr : s.registrars[n]? = some r) (hs : s.Asked failed) :
    s'.Asked fun m => failed m + [n].count m := by
  have howners : s'.owners = s.owners := congrArg (List.map Scope.owner) h.scopes
  intro m r' hr'
  show _ = s'.owners.count m + (failed m + [n].count m)
  rw [howners, List.count_singleton]
  -- The registrar itself, or another one.
  by_cases hm : m = n
  · subst hm
    rw [h.registrar] at hr'
    have hbefore := hs m r hr
    rw [← Option.some.inj hr', if_pos (beq_self_eq_true m)]
    show r.acquired + 1 = _
    omega
  · rw [h.others m hm] at hr'
    rw [hs m r' hr', if_neg (by simpa using Ne.symm hm), Nat.add_zero]

/-- A scope that starts has asked for one client more, and there is one scope more. -/
theorem Started.asked_once {failed : Nat → Nat} {i : Identity} (h : s.Started n r i s')
    (hr : s.registrars[n]? = some r) (hs : s.Asked failed) : s'.Asked failed := by
  have howners : s'.owners = s.owners ++ [n] := by
    unfold owners
    rw [h.scopes, List.map_append]
    rfl
  intro m r' hr'
  rw [howners, List.count_append, List.count_singleton]
  by_cases hm : m = n
  · subst hm
    rw [h.registrar] at hr'
    have hbefore := hs m r hr
    rw [← Option.some.inj hr', if_pos (beq_self_eq_true m)]
    show r.acquired + 1 = _
    omega
  · rw [h.others m hm] at hr'
    rw [hs m r' hr', if_neg (by simpa using Ne.symm hm), Nat.add_zero]

/-- What fails is what is refused: the registrar could be enabled and something is missing. -/
theorem failures_enable (hr : s.registrars[n]? = some r) : s.failures (.enable n) =
    if !(r.isDropped || r.isEnabled) && r.startupError?.isSome then [n] else [] := by
  rw [failures, failsToEnable, hr, Option.any_some]

/-- **Enabling keeps the account**: it asks once if it starts a scope, and once if it is refused. -/
theorem Asked.enable {failed : Nat → Nat} (h : s.Asked failed) (hs : s.Orderly) (n : Nat) :
    (s.enable n).Asked fun m => failed m + (s.failures (.enable n)).count m := by
  cases hr : s.registrars[n]? with
  | none =>
    have hself : s.enable n = s := by simp only [Keeper.enable, hr]
    have hnone : s.failures (.enable n) = [] := by simp [failures, failsToEnable, hr]
    rw [hself, hnone]
    exact h
  | some r =>
    rw [failures_enable hr]
    cases hfree : r.isDropped || r.isEnabled with
    | true =>
      have hself : s.enable n = s := by simp only [Keeper.enable, hr, hfree, if_true]
      rw [hself]
      exact h
    | false =>
      obtain ⟨hrefused, hstarted⟩ := enable_outcome hs hr hfree
      cases herror : r.startupError? with
      | some e => exact (hrefused e herror).asked_once hr h
      | none =>
        obtain ⟨i, -, hi⟩ := hstarted herror
        exact hi.asked_once hr h

end

/-! ## All or nothing -/

end Keeper

end LeaseKeeper

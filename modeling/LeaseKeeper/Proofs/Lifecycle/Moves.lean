/-
  What a move can do.

  `Keeper.move` runs one of eight functions, each with its own guards.  Here the guards are looked
  at once: a move does nothing, or one of eight things (`Keeper.Moved`), and with each thing goes
  what is known then.  What a thing makes of a subscription is said beside.

  The other modules about moves begin with `cases s.moved m` and never open these functions, so a
  new guard in one of them is a change to one lemma here.  Three of the functions have guards that
  need a lemma of their own (`enable_moved`, `disable_moved`, `drop_moved`).
-/
import LeaseKeeper.Proofs.Lifecycle.Change

namespace LeaseKeeper

/-! ## Subscriptions, one by one

Scopes and subscriptions share their numbers, so a scope is followed together with one mailbox. -/

namespace Subscriptions

variable {s : Subscriptions} {k : Nat} {b : Mailbox}

theorem modify_mailbox (h : s.mailboxes[k]? = some b) (number : Nat) (f : Mailbox → Mailbox) :
    (s.modify number f).mailboxes[k]? = some (if number = k then f b else b) := by
  show (s.mailboxes.modify number f)[k]? = _
  rw [List.getElem?_modify, h]
  rfl

/-- Of the subscriptions there were, only the newest is closed. -/
theorem subscribe_mailbox (h : s.mailboxes[k]? = some b) :
    s.subscribe.mailboxes[k]? = some (if s.mailboxes.length - 1 = k then b.close else b) := by
  have hk : k < s.mailboxes.length := (List.getElem?_eq_some_iff.1 h).1
  show ((s.modifyNewest Mailbox.close).mailboxes ++ [.fresh])[k]? = _
  rw [List.getElem?_append_left]
  · exact modify_mailbox h _ _
  · show k < (s.mailboxes.modify _ _).length
    rw [List.length_modify]
    exact hk

theorem subscribe_length : s.subscribe.mailboxes.length = s.mailboxes.length + 1 := by
  simp [subscribe, modifyNewest, modify]

theorem subscribe_newest : s.subscribe.mailboxes[s.mailboxes.length]? = some .fresh := by
  simp [subscribe, modifyNewest, modify]

theorem drop_length (number : Nat) : (s.drop number).mailboxes.length = s.mailboxes.length :=
  List.length_modify ..

/-- The newest has room if there is one that has: room is asked for in the last one only. -/
theorem hasRoom_iff : s.hasRoom = true ↔
    ∃ b, s.mailboxes[s.mailboxes.length - 1]? = some b ∧ b.hasRoom = true := by
  unfold hasRoom
  rw [List.getLast?_eq_getElem?]
  exact Option.any_eq_true ..

theorem reception_of (h : s.mailboxes[k]? = some b) : s.reception k = b.reception := by
  rw [reception, h]
  rfl

end Subscriptions

/-- A subscription in which nobody is interested any more. -/
def Mailbox.gone : Mailbox := Mailbox.discard .fresh

/-- A signal is found where one is held, whether the subscription is still open or not. -/
theorem Mailbox.reception_eq_signal {b : Mailbox} {signal : TerminationSignal} :
    b.reception = .signal signal ↔ b.held = some signal := by
  unfold Mailbox.reception
  cases b.held with
  | some s => exact ⟨fun h => by cases h; rfl, fun h => by cases h; rfl⟩
  | none =>
    refine ⟨fun h => ?_, nofun⟩
    simp only at h
    split at h
    · cases h
    · split at h <;> cases h

/-! ## What a registrar may be refused -/

/-- **Why a registrar could not be enabled**, if it could not.  The client is asked for first,
    then the identity, then the signals, and the first refusal is the reason. -/
def Registrar.startupError? (r : Registrar) : Option StartupError :=
  match r.clientFault?, r.identity, r.signalFault? with
  | some reason, _, _ => some (.client (.unavailable reason))
  | none, .error e, _ => some (.identity e)
  | none, .ok _, some reason => some (.signals reason)
  | none, .ok _, none => none

/-- Two registrars that differ at most in what they have asked for.  An attempt to enable one
    counts what it acquires even if it fails, so the registrar is not quite what it was. -/
structure Registrar.SameSetup (r r' : Registrar) : Prop where
  memory : r'.memory = r.memory
  pacing : r'.pacing = r.pacing
  registry : r'.registry = r.registry

theorem Registrar.sameSetup_acquiring (r : Registrar) : r.SameSetup r.acquiring := ⟨rfl, rfl, rfl⟩

theorem Registrar.sameSetup_subscribing (r : Registrar) :
    r.SameSetup r.acquiring.subscribing := ⟨rfl, rfl, rfl⟩

namespace Keeper

/-- **Enabling a registrar would fail**: it is neither dropped nor enabled, and something that it
    needs cannot be had.  This looks at the state before the attempt, so it can be used as a
    guard. -/
def failsToEnable (s : Keeper) (n : Nat) : Bool :=
  s.registrars[n]?.any fun r => !(r.isDropped || r.isEnabled) && r.startupError?.isSome

/-- Nothing to tell. -/
theorem tell_nil (s : Keeper) : s.tell [] = s := by
  unfold tell
  rw [List.append_nil]

/-- **Deliver a signal**: put it in the newest subscription, whose watcher notices. -/
def deliver (s : Keeper) (signal : TerminationSignal) : Keeper :=
  wakeWatcher
    { s with subscriptions := s.subscriptions.modifyNewest (Mailbox.put .manual signal) }
    (s.scopes.length - 1)

theorem deliver_eq (s : Keeper) (signal : TerminationSignal) :
    ∃ line, s.deliver signal = { s with
      subscriptions := s.subscriptions.modifyNewest (Mailbox.put .manual signal)
      ready := s.ready ++ line } := wakeWatcher_eq _ _

/-- A signal that is accepted is delivered. -/
theorem raise_eq {s : Keeper} (h : s.acceptsSignal = true) (signal : TerminationSignal) :
    s.raise signal = s.deliver signal := by
  have hraise : s.subscriptions.raise .manual signal =
      s.subscriptions.modifyNewest (Mailbox.put .manual signal) := if_pos h
  rw [raise, if_pos h, hraise]
  rfl

/-- **What a move does.**  A constructor says both what the keeper becomes and what was found out
    on the way; the three hypotheses of `idle` exclude the moves that would have had an effect. -/
inductive Moved (s : Keeper) : Move → Keeper → Prop where
  | idle {m : Move} (hf : ∀ n, m = .enable n → s.failsToEnable n = false)
      (ha : ∀ signal, m = .raise signal → s.acceptsSignal = false) (hp : ∀ d, m ≠ .pass d) :
      Moved s m s
  | failed {n : Nat} {r r' : Registrar} (hr : s.registrars[n]? = some r)
      (hf : s.failsToEnable n = true) (hsame : r.SameSetup r') (e : StartupError) :
      Moved s (.enable n) (s.failEnabling n r' e)
  | began {n : Nat} {r r' : Registrar} (hr : s.registrars[n]? = some r)
      (hf : s.failsToEnable n = false) (hsame : r.SameSetup r') (i : Identity) :
      Moved s (.enable n) (s.beginScope n r' i)
  | ended {m : Move} {n k : Nat} {r : Registrar} {cause : CancelCause} {rest : Journal}
      (hr : s.registrars[n]? = some r) (hd : r.isDropped = false) (hc : r.current = some k)
      (hm : (m = .disable n ∧ cause = .disabled ∧ rest = [.logged .disabled]) ∨
        (m = .drop n ∧ cause = .dropped ∧ rest = [])) :
      Moved s m (((s.setRegistrar n (r.ending cause)).cancel k cause).tell rest)
  | retired {n : Nat} {r : Registrar} (hr : s.registrars[n]? = some r) :
      Moved s (.drop n) (s.setRegistrar n (r.ending .dropped))
  | raised (signal : TerminationSignal) (ha : s.acceptsSignal = true) :
      Moved s (.raise signal) (s.deliver signal)
  | supplied {n : Nat} {r : Registrar} (hr : s.registrars[n]? = some r) (p : Provision) :
      Moved s (.supply n p) (s.setRegistrar n (r.supplied p))
  /-- Whoever takes the turn has left the line before, if he was in it. -/
  | turned {m : Move} {a : Actor} {line : List Actor} (hm : m = .step ∨ m = .turn a)
      (hline : ∀ a' ∈ s.ready, a' ∈ line ∨ a' = a) :
      Moved s m (({ s with ready := line } : Keeper).turn a)
  | passed (d : Duration) : Moved s (.pass d) (s.advance (s.now + d.millis))

/-- Enabling is refused first by what the registrar is, and then by each of the three things it
    needs, in their order. -/
theorem enable_moved (s : Keeper) (n : Nat) : s.Moved (.enable n) (s.enable n) := by
  have hidle : s.failsToEnable n = false → s.Moved (.enable n) s :=
    fun hf => .idle (fun _ h => by cases h; exact hf) nofun nofun
  unfold enable
  cases hr : s.registrars[n]? with
  | none => exact hidle (by simp [failsToEnable, hr])
  | some r =>
    have hfails : s.failsToEnable n = (!(r.isDropped || r.isEnabled) && r.startupError?.isSome) := by
      rw [failsToEnable, hr, Option.any_some]
    cases hfree : r.isDropped || r.isEnabled with
    | true =>
      simp only [hfree, if_true]
      exact hidle (by rw [hfails, hfree]; rfl)
    | false =>
      simp only [hfree, Bool.false_eq_true, if_false]
      rw [hfree, Bool.not_false, Bool.true_and] at hfails
      split
      · rename_i reason _ _ hclient
        -- no client
        exact .failed hr (by simp [hfails, Registrar.startupError?, hclient])
          r.sameSetup_acquiring _
      · rename_i e _ hclient hidentity
        -- a client, but no identity
        exact .failed hr (by simp [hfails, Registrar.startupError?, hclient, hidentity])
          r.sameSetup_acquiring _
      · rename_i i reason hclient hidentity hsignal
        -- a client and an identity, but no signals
        exact .failed hr (by simp [hfails, Registrar.startupError?, hclient, hidentity, hsignal])
          r.sameSetup_subscribing _
      · rename_i i hclient hidentity hsignal
        -- everything that is needed, so a scope begins
        exact .began hr (by simp [hfails, Registrar.startupError?, hclient, hidentity, hsignal])
          r.sameSetup_subscribing i

/-- Only an enabled registrar can be disabled, and one that was dropped is left alone. -/
theorem disable_moved (s : Keeper) (n : Nat) : s.Moved (.disable n) (s.disable n) := by
  unfold disable
  split
  · exact .idle nofun nofun nofun
  · rename_i r hr
    split
    · rename_i k hd hc
      exact .ended hr hd hc (.inl ⟨rfl, rfl, rfl⟩)
    · exact .idle nofun nofun nofun

/-- A registrar is dropped once.  If it is enabled its scope ends too, without a line in the log. -/
theorem drop_moved (s : Keeper) (n : Nat) : s.Moved (.drop n) (s.dropRegistrar n) := by
  unfold dropRegistrar
  split
  · exact .idle nofun nofun nofun
  · rename_i r hr
    split
    · exact .idle nofun nofun nofun
    · rename_i hd
      split
      · -- not enabled, so there is nothing to cancel
        exact .retired hr
      · -- enabled: as when it is disabled, but for the line
        rename_i k hc
        have hended : s.Moved (.drop n) _ := .ended hr (Bool.eq_false_iff.2 hd) hc
          (.inr ⟨rfl, rfl, rfl⟩)
        rw [tell_nil] at hended
        exact hended

/-- **Every move does one of these things.**  One case for each move. -/
theorem moved (s : Keeper) (m : Move) : s.Moved m (s.move m) := by
  cases m with
  | enable n => exact enable_moved s n
  | disable n => exact disable_moved s n
  | drop n => exact drop_moved s n
  | raise signal =>
    show s.Moved (.raise signal) (s.raise signal)
    cases ha : s.acceptsSignal with
    | true =>
      rw [raise_eq ha]
      exact .raised signal ha
    | false =>
      rw [raise, if_neg (Bool.eq_false_iff.1 ha)]
      exact .idle nofun (fun _ _ => ha) nofun
  | supply n p =>
    show s.Moved (.supply n p) (s.supply n p)
    unfold supply
    split
    · exact .idle nofun nofun nofun
    · rename_i r hr
      exact .supplied hr p
  | step =>
    show s.Moved .step s.step
    unfold step
    cases hready : s.ready with
    | nil => exact .idle nofun nofun nofun
    | cons a rest =>
      refine .turned (.inl rfl) fun a' ha' => ?_
      rw [hready] at ha'
      exact (List.mem_cons.1 ha').symm
  | turn a => exact .turned (.inr rfl) fun _ h => .inl h
  | pass d => exact .passed d

end Keeper

end LeaseKeeper

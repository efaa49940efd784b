/-
  Following one scope through a run.

  A scope that is not there before a move has just been started (`Beginning`), and to one that is
  there the move is an incident.  So what is said of a scope, its subscription and the moves so
  far is proved of the scope as it begins and of every incident (`follow`).  On the way: every
  scope has its own subscription in every reachable state (`Reachable.posted`).

    1. The turn of a watcher has at most two deeds in it (`Turn.runWatcher_deeds`); if it has
       none, there was nothing to see.

    2. A move changes how many scopes there are only by starting one, which is then the last of
       them and has a fresh subscription (`move_cases`, `Beginning.newest`).

    3. `Posted` is kept by each incident for its scope and holds of a new one, so by every move
       (`Posted.move`).

    4. The same two cases, stated for any property at all, are the induction that the later
       modules use (`Reachable.follow`).  They never go back to what a move does to the whole
       keeper.
-/
import LeaseKeeper.Proofs.Lifecycle.Incident
import LeaseKeeper.Proofs.Lifecycle.Timely
import Mathlib.Data.List.Induction

namespace LeaseKeeper

/-! ## The turn of a watcher -/

namespace Turn

variable {now index : Nat} {found : Reception} {t : Turn}

/-- A step of a watcher in which nothing happens: if it watches, there is nothing to see, and it
    does nothing in its next step either.  A step that begins to deregister cannot have left the
    turn as it was, since the watcher watches no more. -/
theorem stepWatcher_idle (h : t.stepWatcher now index found = t) :
    t.stepWatcher now index .pending = t ∧
      (t.scope.watcher = .watching →
        t.scope.isCancelled = false ∧ ∀ signal, found ≠ .signal signal) := by
  cases hw : t.scope.watcher with
  | watching =>
    have hne : ∀ {u : Turn}, u.scope.watcher ≠ .watching → u ≠ t := by
      rintro u hu rfl
      exact hu hw
    cases hx : t.scope.isCancelled with
    | true =>
      simp only [stepWatcher, hw, hx, if_true] at h
      exact absurd h (hne nofun)
    | false =>
      simp only [stepWatcher, hw, hx, Bool.false_eq_true, if_false] at h ⊢
      refine ⟨trivial, fun _ => ⟨trivial, ?_⟩⟩
      rintro signal rfl
      exact absurd h (hne nofun)
  | deregistering due failure signalled =>
    simp only [stepWatcher, hw] at h ⊢
    exact ⟨h, nofun⟩
  | finished => exact ⟨by simp only [stepWatcher, hw], nofun⟩

/-- **The turn of a watcher**: nothing, and then there is nothing to see for it; or a deed; or
    this and the end of its call.  The signal can be found in the first of its steps only, so the
    second one finds nothing. -/
theorem runWatcher_deeds {c : Scope} {r : Registrar}
    (ht : runWatcher now index found ⟨c, r, []⟩ = t) :
    (t = ⟨c, r, []⟩ ∧ (c.watcher = .watching →
      c.isCancelled = false ∧ ∀ signal, found ≠ .signal signal)) ∨
    ∃ c₁ r₁ es₁, WatcherDeed now index found c r c₁ r₁ es₁ ∧ (t = ⟨c₁, r₁, es₁⟩ ∨
      ∃ c₂ r₂ es₂, WatcherDeed now index .pending c₁ r₁ c₂ r₂ es₂ ∧
        t = ⟨c₂, r₂, es₁ ++ es₂⟩) := by
  rw [← ht, runWatcher]
  rcases stepWatcher_deed now index found ⟨c, r, []⟩ with hidle | ⟨c₁, r₁, es₁, hd, hstep⟩
  · -- nothing in the first step, so nothing in the second
    left
    obtain ⟨hnext, hnothing⟩ := stepWatcher_idle hidle
    rw [hidle]
    exact ⟨hnext, hnothing⟩
  · -- a deed, and maybe another one
    right
    refine ⟨c₁, r₁, es₁, hd, ?_⟩
    rw [hstep]
    exact (stepWatcher_deed now index .pending ⟨c₁, r₁, es₁⟩).imp_right
      fun ⟨c₂, r₂, es₂, hd', hstep'⟩ => ⟨c₂, r₂, es₂, hd', hstep'⟩

end Turn

section

variable {now k : Nat} {found : Reception} {c c' : Scope} {r r' : Registrar} {es : Journal}

/-- After a deed a watcher watches no more: it deregisters, or it has finished. -/
theorem WatcherDeed.unwatched (h : WatcherDeed now k found c r c' r' es) : c'.isWatched = false := by
  cases h <;> rfl

/-- A watcher that starts to deregister does so now, under the name of its scope.  Either it has
    cancelled the scope itself or it has found it cancelled. -/
theorem WatcherDeed.called (h : WatcherDeed now k found c r c' r' es) (hw : c.isWatched = true) :
    c'.isCancelled = true ∧ .called now c.owner k .deregister c.identity ∈ es := by
  cases h with
  | signalled => exact ⟨rfl, by simp⟩
  | began hwatch hx => exact ⟨hx, List.mem_singleton.2 rfl⟩
  | ended hder =>
    rw [Scope.isWatched, hder] at hw
    cases hw

end

/-- The turn of a task leaves the watcher and the cancellation alone. -/
theorem Turn.runTask_scope (now k : Nat) (c : Scope) (r : Registrar) :
    (Turn.runTask now k ⟨c, r, []⟩).scope =
      { c with task := (Turn.runTask now k ⟨c, r, []⟩).scope.task } :=
  (Turn.stepsOfTask_keeps now k _ ⟨c, r, []⟩).1

namespace Keeper

/-! ## A scope begins -/

/-- **Enabling registrar number `n` starts a scope**: what the registrar was, and what it has become
    by asking for a client and a subscription. -/
structure Beginning (s : Keeper) (n : Nat) (r r' : Registrar) (i : Identity) : Prop where
  registrar : s.registrars[n]? = some r
  setup : r.SameSetup r'
  move_eq : s.enable n = s.beginScope n r' i

/-- How many scopes and subscriptions there are.  Both numbers grow together, when a scope
    begins. -/
def sizes (s : Keeper) : Nat × Nat := (s.scopes.length, s.subscriptions.mailboxes.length)

/-- Cancelling replaces a scope. -/
theorem cancel_sizes (s : Keeper) (k : Nat) (cause : CancelCause) :
    (s.cancel k cause).sizes = s.sizes := by
  cases hk : s.scopes[k]? with
  | none => rw [cancel_none hk]
  | some c =>
    obtain ⟨line, hline⟩ := cancel_eq hk cause
    rw [hline]
    exact congrArg (·, _) (List.length_set ..)

/-- A turn replaces a scope and may empty a subscription, but there are as many as before. -/
theorem turn_sizes (s : Keeper) (a : Actor) : (s.turn a).sizes = s.sizes := by
  rcases turn_cases s a with hself | ⟨c, r, hc, hr⟩
  · rw [hself]
  · have hscopes : (s.turn a).scopes.length = s.scopes.length := by
      obtain ⟨subscriptions, line, heq, -⟩ := turn_eq hc hr
      rw [heq]
      exact List.length_set ..
    have hbox : (s.turn a).subscriptions.mailboxes.length = s.subscriptions.mailboxes.length := by
      rw [turn_subscriptions hc hr]
      split
      · rfl
      · split
        · exact Subscriptions.drop_length _
        · rfl
    exact Prod.ext hscopes hbox

/-- **A move starts a scope**, or scopes and subscriptions are as many as before.  One case for
    each form of a move; only enabling has two outcomes. -/
theorem move_cases (s : Keeper) (m : Move) : (s.move m).sizes = s.sizes ∨
    ∃ n r r' i, m = .enable n ∧ s.Beginning n r r' i := by
  have hmoved := s.moved m
  generalize hs' : s.move m = s' at hmoved ⊢
  cases hmoved with
  | began hr hf hsame i => exact .inr ⟨_, _, _, i, rfl, hr, hsame, hs'⟩
  | ended => exact .inl (cancel_sizes _ _ _)
  | raised signal =>
    left
    obtain ⟨line, hline⟩ := deliver_eq s signal
    rw [hline]
    exact congrArg (_, ·) (List.length_modify ..)
  | turned => exact .inl (turn_sizes _ _)
  | passed d =>
    left
    obtain ⟨line, hline⟩ := advance_eq s (s.now + d.millis)
    rw [hline]
    rfl
  | _ => exact .inl rfl

section

variable {s : Keeper} {n : Nat} {r r' : Registrar} {i : Identity}

/-- What there is to see of a scope that has just begun: it is the last one, its subscription is
    fresh, and both are one more than before. -/
theorem Beginning.newest (h : s.Beginning n r r' i) (hp : s.Posted) :
    (s.enable n).scopes[s.scopes.length]? = some (s.newScope n r' i) ∧
      (s.enable n).mailbox? s.scopes.length = some .fresh ∧
      (s.enable n).sizes = (s.scopes.length + 1, s.scopes.length + 1) := by
  obtain ⟨line, hline⟩ := beginScope_eq s n r' i
  rw [h.move_eq, hline]
  refine ⟨List.getElem?_concat_length, ?_, Prod.ext ?_ ?_⟩
  · show s.subscriptions.subscribe.mailboxes[_]? = _
    rw [← hp.length]
    exact Subscriptions.subscribe_newest
  · exact List.length_append
  · show s.subscriptions.subscribe.mailboxes.length = _
    rw [Subscriptions.subscribe_length, hp.length]

/-! ## Every scope has its subscription, always -/

theorem posted_start (registrars : List Registrar) : Posted { registrars := registrars } :=
  ⟨rfl, nofun, nofun⟩

/-- What an incident makes of a subscription fits what it makes of the scope.  Only a turn of the
    watcher can end the watch, and it drops the subscription at the same time. -/
theorem Incident.watched {m : Move} {s' : Keeper} {k : Nat} {c c' : Scope} {b b' : Mailbox}
    {es : Journal} (h : s.Incident k c b m s' c' b' es)
    (hwatched : if c.isWatched then b.isDropped = false else b = .gone) :
    if c'.isWatched then b'.isDropped = false else b' = .gone := by
  cases h with
  | untouched => exact hwatched
  | superseded =>
    cases hw : c.isWatched with
    | true =>
      rw [hw] at hwatched
      exact hwatched
    | false =>
      rw [hw] at hwatched
      rw [show b = .gone from hwatched]
      rfl
  | posted hroom =>
    -- a subscription with room has not been dropped
    cases hw : c.isWatched with
    | true =>
      rw [hw] at hwatched
      exact hwatched
    | false =>
      rw [hw] at hwatched
      rw [show b = .gone from hwatched] at hroom
      cases hroom
  | ended => exact hwatched
  | passed => exact hwatched
  | task ht =>
    rw [← ht, Turn.runTask_scope]
    exact hwatched
  | @watcher m s' r t ht =>
    rcases Turn.runWatcher_deeds ht with ⟨rfl, -⟩ | ⟨c₁, r₁, es₁, hd, hrest⟩
    · -- nothing happened, so the watch goes on if it was on
      simp only [Bool.and_not_self, Bool.false_eq_true, if_false]
      exact hwatched
    · -- a deed ended the watch, or it had ended before
      have hnot : t.scope.isWatched = false := by
        rcases hrest with rfl | ⟨c₂, r₂, es₂, hd', rfl⟩
        · exact hd.unwatched
        · exact hd'.unwatched
      rw [hnot, Bool.not_false, Bool.and_true]
      cases hw : c.isWatched with
      | true => rfl
      | false =>
        rw [hw] at hwatched
        exact hwatched

/-- No incident opens a subscription.  So an open one was open when its scope began. -/
theorem Incident.open_before {m : Move} {s' : Keeper} {k : Nat} {c c' : Scope} {b b' : Mailbox}
    {es : Journal} (h : s.Incident k c b m s' c' b' es) (hopen : b'.isOpen = true) :
    b.isOpen = true := by
  cases h with
  | superseded => cases hopen
  | posted => exact (Bool.and_eq_true_iff.1 hopen).1
  | watcher =>
    split at hopen
    · cases hopen
    · exact hopen
  | _ => exact hopen

/-- Whoever begins closes all other subscriptions: the newest is closed now, and the older ones
    were closed when a scope began after them. -/
theorem Beginning.closed (h : s.Beginning n r r' i) (hp : s.Posted) {k : Nat} {b : Mailbox}
    (hk : k < s.scopes.length) (hb : (s.enable n).mailbox? k = some b) : b.isOpen = false := by
  obtain ⟨a, ha⟩ := hp.mailbox (List.getElem?_eq_getElem hk)
  obtain ⟨line, hline⟩ := beginScope_eq s n r' i
  rw [h.move_eq, hline] at hb
  obtain rfl := Option.some.inj ((Subscriptions.subscribe_mailbox ha).symm.trans hb)
  split
  · rfl
  · rename_i hother
    refine Bool.eq_false_iff.2 fun hopen => hother ?_
    have := hp.newest ha hopen
    rw [hp.length]
    omega

/-- **Every move leaves every scope its subscription.**  Old scopes keep theirs by their
    incident, and a scope that begins gets the fresh one; the two cases are those of
    `move_cases`. -/
theorem Posted.move (hp : s.Posted) (ho : s.Orderly) (m : Move) : (s.move m).Posted := by
  -- a scope that was there before, and its subscription
  have hold : ∀ {k : Nat} {b' : Mailbox}, k < s.scopes.length → (s.move m).mailbox? k = some b' →
      (∀ c', (s.move m).scopes[k]? = some c' →
        if c'.isWatched then b'.isDropped = false else b' = .gone) ∧
      (b'.isOpen = true → k + 1 = s.scopes.length) := by
    intro k b' hk hb'
    have hc := List.getElem?_eq_getElem hk
    obtain ⟨b, hb⟩ := hp.mailbox hc
    obtain ⟨c₁, b₁, es, hc₁, hb₁, -, hincident⟩ := move_undergoes ho hp m hc hb
    obtain rfl := Option.some.inj (hb₁.symm.trans hb')
    refine ⟨?_, fun hopen => hp.newest hb (hincident.open_before hopen)⟩
    intro c' hc'
    obtain rfl := Option.some.inj (hc₁.symm.trans hc')
    exact hincident.watched (hp.watched hc hb)
  rcases move_cases s m with hsizes | ⟨n, r, r', i, rfl, hbegin⟩
  · -- no scope begins, so every scope is an old one
    obtain ⟨hscopes, hboxes⟩ := Prod.mk.inj hsizes
    refine ⟨by rw [hscopes, hboxes, hp.length], ?_, ?_⟩
    · intro k b' hb' hopen
      have hk := (List.getElem?_eq_some_iff.1 hb').1
      rw [hboxes, hp.length] at hk
      rw [hscopes]
      exact (hold hk hb').2 hopen
    · intro k c' b' hc' hb'
      have hk := (List.getElem?_eq_some_iff.1 hc').1
      rw [hscopes] at hk
      exact (hold hk hb').1 c' hc'
  · -- a scope begins: it is the last one, and all others are old
    obtain ⟨hnew, hbox, hsizes⟩ := hbegin.newest hp
    obtain ⟨hscopes, hboxes⟩ := Prod.mk.inj hsizes
    refine ⟨hboxes.trans hscopes.symm, ?_, ?_⟩
    · intro k b' hb' hopen
      have hk := (List.getElem?_eq_some_iff.1 hb').1
      rw [show (s.move (.enable n)).subscriptions.mailboxes.length = _ from hboxes] at hk
      rcases Nat.lt_succ_iff_lt_or_eq.1 hk with hk | rfl
      · rw [hbegin.closed hp hk hb'] at hopen
        cases hopen
      · exact hscopes.symm
    · intro k c' b' hc' hb'
      have hk := (List.getElem?_eq_some_iff.1 hc').1
      rw [show (s.move (.enable n)).scopes.length = _ from hscopes] at hk
      rcases Nat.lt_succ_iff_lt_or_eq.1 hk with hk | rfl
      · exact (hold hk hb').1 c' hc'
      · obtain rfl := Option.some.inj (hnew.symm.trans hc')
        obtain rfl := Option.some.inj (hbox.symm.trans hb')
        rfl

end

/-- **In every reachable state every scope has its subscription.**  Induction on the moves; the
    order of the scopes is used for each of them. -/
theorem Reachable.posted {s : Keeper} (h : s.Reachable) : s.Posted := by
  obtain ⟨registrars, hnew, hreaches⟩ := h
  induction hreaches with
  | refl => exact posted_start registrars
  | move hbefore m ih => exact ih.move (Reachable.orderly ⟨registrars, hnew, hbefore⟩) m

/-- No scope is ever forgotten. -/
theorem Reachable.scopes_le {s : Keeper} (h : s.Reachable) (m : Move) :
    s.scopes.length ≤ (s.move m).scopes.length := by
  rcases move_cases s m with hsizes | ⟨n, r, r', i, rfl, hbegin⟩
  · exact Nat.le_of_eq (Prod.mk.inj hsizes).1.symm
  · have hlength := (Prod.mk.inj (hbegin.newest h.posted).2.2).1
    exact Nat.le_trans (Nat.le_succ _) (Nat.le_of_eq hlength.symm)

/-! ## Following a scope -/

/-- **What move `m` makes of scope number `k`** and its subscription.  An incident with the
    places at which scope and mailbox are found before and after it. -/
structure Episode (s : Keeper) (m : Move) (k : Nat) (c : Scope) (b : Mailbox) (c' : Scope)
    (b' : Mailbox) (es : Journal) : Prop where
  scope : s.scopes[k]? = some c
  mailbox : s.mailbox? k = some b
  scope_after : (s.move m).scopes[k]? = some c'
  mailbox_after : (s.move m).mailbox? k = some b'
  journal : (s.move m).journal = s.journal ++ es
  incident : s.Incident k c b m (s.move m) c' b' es

theorem Reachable.episode {s : Keeper} (h : s.Reachable) (m : Move) {k : Nat} {c : Scope}
    {b : Mailbox} (hc : s.scopes[k]? = some c) (hb : s.mailbox? k = some b) :
    ∃ c' b' es, s.Episode m k c b c' b' es := by
  obtain ⟨c', b', es, hc', hb', hj, hincident⟩ := move_undergoes h.orderly h.posted m hc hb
  exact ⟨c', b', es, hc, hb, hc', hb', hj, hincident⟩

/-- Whatever happens to a scope, it stays the same scope. -/
theorem Incident.same {s s' : Keeper} {m : Move} {k : Nat} {c c' : Scope} {b b' : Mailbox}
    {es : Journal} (h : s.Incident k c b m s' c' b' es) : c.SameScope c' := by
  cases h with
  | task ht =>
    rw [← ht, Turn.runTask_scope]
    exact ⟨rfl, rfl, rfl⟩
  | watcher ht =>
    rcases Turn.runWatcher_deeds ht with
      ⟨rfl, -⟩ | ⟨c₁, r₁, es₁, hd, rfl | ⟨c₂, r₂, es₂, hd', rfl⟩⟩
    · exact ⟨rfl, rfl, rfl⟩
    · exact hd.same
    · exact ⟨hd'.same.owner.trans hd.same.owner, hd'.same.count.trans hd.same.count,
        hd'.same.identity.trans hd.same.identity⟩
  | _ => exact ⟨rfl, rfl, rfl⟩

/-- **What is said of every scope**, its subscription and the moves so far, is proved of a scope
    that begins and of every incident.  `Good` is what may be asked of the moves; it has to hold
    of every shorter run too.  Induction on the run, one move at its end at a time. -/
theorem Reachable.follow {start : Keeper} (hstart : start.Reachable) (hnone : start.scopes = [])
    (Good : List Move → Prop) (Holds : List Move → Nat → Scope → Mailbox → Prop)
    (before : ∀ ms m, Good (ms ++ [m]) → Good ms)
    (began : ∀ ms n r r' i, Good (ms ++ [.enable n]) → (start.after ms).Beginning n r r' i →
      Holds (ms ++ [.enable n]) (start.after ms).scopes.length
        ((start.after ms).newScope n r' i) .fresh)
    (episode : ∀ ms m k c b c' b' es, Good (ms ++ [m]) →
      (start.after ms).Episode m k c b c' b' es → Holds ms k c b → Holds (ms ++ [m]) k c' b')
    {ms : List Move} (hgood : Good ms) {k : Nat} {c : Scope} {b : Mailbox}
    (hc : (start.after ms).scopes[k]? = some c) (hb : (start.after ms).mailbox? k = some b) :
    Holds ms k c b := by
  induction ms using List.reverseRecOn generalizing k c b with
  | nil =>
    rw [show start.after [] = start from rfl, hnone] at hc
    cases hc
  | append_singleton ms m ih =>
    have hs := hstart.after ms
    -- a scope that was there before the last move: the property held, and the move is an incident
    have hold : k < (start.after ms).scopes.length → Holds (ms ++ [m]) k c b := by
      intro hk
      have hc₀ := List.getElem?_eq_getElem hk
      obtain ⟨b₀, hb₀⟩ := hs.posted.mailbox hc₀
      obtain ⟨c', b', es, hc', hb', hj, hincident⟩ :=
        move_undergoes hs.orderly hs.posted m hc₀ hb₀
      rw [after_concat] at hc hb
      obtain rfl := Option.some.inj (hc'.symm.trans hc)
      obtain rfl := Option.some.inj (hb'.symm.trans hb)
      exact episode ms m k _ b₀ _ _ es hgood ⟨hc₀, hb₀, hc', hb', hj, hincident⟩
        (ih (before ms m hgood) hc₀ hb₀)
    have hk := (List.getElem?_eq_some_iff.1 hc).1
    rw [after_concat] at hk hc hb
    rcases move_cases (start.after ms) m with hsizes | ⟨n, r, r', i, rfl, hbegin⟩
    · exact hold (by rw [(Prod.mk.inj hsizes).1] at hk; exact hk)
    · obtain ⟨hnew, hbox, hsizes⟩ := hbegin.newest hs.posted
      rw [show ((start.after ms).move (.enable n)).scopes.length = _ from
        (Prod.mk.inj hsizes).1] at hk
      rcases Nat.lt_succ_iff_lt_or_eq.1 hk with hlt | rfl
      · -- an old scope, although another one begins
        exact hold hlt
      · -- the scope that begins
        obtain rfl := Option.some.inj (hnew.symm.trans hc)
        obtain rfl := Option.some.inj (hbox.symm.trans hb)
        exact began ms n r r' i hgood hbegin

end Keeper

end LeaseKeeper

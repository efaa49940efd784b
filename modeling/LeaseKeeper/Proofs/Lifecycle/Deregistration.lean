/-
  Every scope that ends deregisters exactly once, and at once.

  That it does so at most once, never before its cancellation and under its own name is a matter
  of the record: the journal is lawful.  That it does so at all is a matter of the line.  A
  watcher that has something to notice, be it the cancellation of its scope or a signal in its
  subscription, is in line (`Reachable.alert`), and a timely run does not let time pass while
  somebody is in line.  So what ends a scope is answered with a deregistration at the same instant
  (`NoticesOrCalled`).

  A subscription that is closed because another scope begins holds nothing new, and a closed
  subscription is nothing that a watcher notices.

    1. What one turn does: a watcher that has something to notice calls in its turn
       (`Turn.runWatcher_called`), and a task neither cancels nor deregisters
       (`Turn.runTask_own`).

    2. Two invariants by incidents: `Alert` in every run, and `NoticesOrCalled` in timely ones.
       The second rests on the first where time passes: the watcher would be in line, and then no
       time passes.

    3. Each way in which a scope ends starts the second invariant (`Ends.noticesOrCalled`), and so
       does each cancellation that is written (`Timely.noticesOrCalled`).  After the clock has
       moved on, only the call is left of it.
-/
import LeaseKeeper.Proofs.Lifecycle.Following

namespace LeaseKeeper

/-- A scope is cancelled only by a watcher that finds a signal.  The other two deeds of a watcher
    write no cancellation at all. -/
theorem WatcherDeed.of_cancelled {now k : Nat} {found : Reception} {c c' : Scope}
    {r r' : Registrar} {es : Journal} (h : WatcherDeed now k found c r c' r' es) {t n j : Nat}
    {cause : CancelCause} (he : .cancelled t n j cause ∈ es) :
    t = now ∧ n = c.owner ∧ j = k ∧ cause = .signalled ∧ c.isCancelled = false ∧
      c.isWatched = true ∧ ∃ signal, found = .signal signal := by
  cases h with
  | signalled hwatch hx hf =>
    simp only [List.mem_cons, reduceCtorEq, List.not_mem_nil, or_false, false_or] at he
    cases he
    exact ⟨rfl, rfl, rfl, rfl, hx, by rw [Scope.isWatched, hwatch]; rfl, _, hf⟩
  | began => simp at he
  | ended => simp at he

namespace Turn

variable {now k : Nat} {found : Reception} {c : Scope} {r : Registrar} {t : Turn}

/-- So it is in a whole turn: a watcher that has stopped watching finds no signal, so a second
    deed cancels nothing. -/
theorem runWatcher_of_cancelled (ht : runWatcher now k found ⟨c, r, []⟩ = t) {u n j : Nat}
    {cause : CancelCause} (he : .cancelled u n j cause ∈ t.report) :
    u = now ∧ n = c.owner ∧ j = k ∧ cause = .signalled ∧ c.isCancelled = false ∧
      c.isWatched = true ∧ ∃ signal, found = .signal signal := by
  rcases runWatcher_deeds ht with ⟨rfl, -⟩ | ⟨c₁, r₁, es₁, hd, rfl | ⟨c₂, r₂, es₂, hd', rfl⟩⟩
  · cases he
  · exact hd.of_cancelled he
  · rcases List.mem_append.1 he with he | he
    · exact hd.of_cancelled he
    · obtain ⟨-, -, -, -, -, hw, -⟩ := hd'.of_cancelled he
      rw [hd.unwatched] at hw
      cases hw

/-- **A watcher that notices something starts to deregister** in its turn.  If nothing happened
    in the turn, there was nothing to notice. -/
theorem runWatcher_called (ht : runWatcher now k found ⟨c, r, []⟩ = t) (hw : c.isWatched = true)
    (hnotice : c.isCancelled = true ∨ ∃ signal, found = .signal signal) :
    .called now c.owner k .deregister c.identity ∈ t.report := by
  rcases runWatcher_deeds ht with ⟨-, hnothing⟩ | ⟨c₁, r₁, es₁, hd, hrest⟩
  · obtain ⟨hlive, hnone⟩ := hnothing (by simpa [Scope.isWatched] using hw)
    rcases hnotice with hx | ⟨signal, hfound⟩
    · rw [hlive] at hx
      cases hx
    · exact absurd hfound (hnone signal)
  · have hcalled := (hd.called hw).2
    rcases hrest with rfl | ⟨c₂, r₂, es₂, -, rfl⟩
    · exact hcalled
    · exact List.mem_append_left _ hcalled

end Turn

/-- **An entry that no task makes**: a cancellation, the release of a scope, a request to end the
    process, or the end of a deregistration.  What a task writes is about its own calls, its
    gauge and the log. -/
def JournalEntry.isForeign : JournalEntry → Bool
  | .cancelled .. => true
  | .released .. => true
  | .exited .. => true
  | .answered _ _ _ call _ _ => call == .deregister
  | _ => false

theorem Scope.gaugeReset_own {c : Scope} {e : JournalEntry} (he : e ∈ c.gaugeReset) :
    e.isForeign = false := by
  unfold Scope.gaugeReset at he
  split at he
  · rw [List.mem_singleton.1 he]
    rfl
  · cases he

/-- What a task writes in one of its deeds.  The remarks on a call depend on which call it was
    and whether it failed. -/
theorem TaskDeed.own {now k : Nat} {c c' : Scope} {r r' : Registrar} {es : Journal}
    (h : TaskDeed now k c r c' r' es) {e : JournalEntry} (he : e ∈ es) : e.isForeign = false := by
  cases h with
  | stopped => exact Scope.gaugeReset_own he
  | started =>
    rw [List.mem_singleton.1 he]
    rfl
  | @discarded due call =>
    -- a call that is given up: its end, and maybe the gauge
    rcases List.mem_cons.1 he with rfl | he
    · cases call <;> rfl
    · exact Scope.gaugeReset_own he
  | @concluded due call failure =>
    -- a call that is over: its end, the next start, and the remarks
    rcases List.mem_cons.1 he with rfl | he
    · cases call <;> rfl
    · rcases List.mem_cons.1 he with rfl | he
      · rfl
      · have hremarks : ∀ e ∈ call.remarks failure c.identity (r.afterAnswer call.call failure),
            e.isForeign = false := by
          cases call <;> cases failure <;> simp [TaskCall.remarks, JournalEntry.isForeign]
        exact hremarks e he

/-- So it is in its whole turn: induction on the number of its steps. -/
theorem Turn.stepsOfTask_own {now k : Nat} (steps : Nat) {t : Turn}
    (h : ∀ e ∈ t.report, e.isForeign = false) :
    ∀ e ∈ (Turn.stepsOfTask now k steps t).report, e.isForeign = false := by
  induction steps generalizing t with
  | zero => exact h
  | succ steps ih =>
    refine ih ?_
    rcases Turn.stepTask_deed now k t with hsame | ⟨c', r', es, hd, hstep⟩
    · rw [hsame]
      exact h
    · rw [hstep]
      intro e he
      rcases List.mem_append.1 he with he | he
      · exact h e he
      · exact hd.own he

theorem Turn.runTask_own {now k : Nat} (c : Scope) (r : Registrar) :
    ∀ e ∈ (Turn.runTask now k ⟨c, r, []⟩).report, e.isForeign = false :=
  Turn.stepsOfTask_own _ nofun

namespace Keeper

/-! ## Whoever has something to notice is in line -/

/-- **The watcher of scope number `k` is alert**: it is in line if its scope is cancelled or its
    subscription holds a signal.  Once it has stopped watching there is nothing to ask of it. -/
def Alert (s : Keeper) (k : Nat) (c : Scope) (b : Mailbox) : Prop :=
  c.isWatched = true → (c.isCancelled = true ∨ ∃ signal, b.held = some signal) →
    ⟨k, .watcher⟩ ∈ s.ready

section

variable {s : Keeper} {m : Move} {k : Nat} {c c' : Scope} {b b' : Mailbox} {es : Journal}

/-- **No move leaves an alert watcher behind.**  Whoever cancels a scope or posts a signal wakes
    the watcher; every other move leaves the line as it was, but for the watcher's own turn,
    after which it watches no more. -/
theorem Alert.episode (h : s.Alert k c b) (he : s.Episode m k c b c' b' es) :
    (s.move m).Alert k c' b' := by
  have hincident := he.incident
  generalize s.move m = s' at hincident ⊢
  cases hincident with
  | untouched _ _ hline => exact fun hw hnotice => hline _ (h hw hnotice)
  | superseded _ hline => exact fun hw hnotice => hline _ (h hw hnotice)
  | posted _ _ _ hwoken => exact fun hw _ => hwoken hw
  | ended _ _ _ _ hwatcher => exact fun hw _ => hwatcher hw
  | passed _ hline => exact fun hw hnotice => hline _ (h hw hnotice)
  | task ht _ _ _ _ hline =>
    rw [← ht, Turn.runTask_scope]
    exact fun hw hnotice => hline (h hw hnotice)
  | watcher ht =>
    rcases Turn.runWatcher_deeds ht with ⟨rfl, hnothing⟩ | ⟨c₁, r₁, es₁, hd, hrest⟩
    · -- it still watches, so there was nothing to notice
      intro hw hnotice
      obtain ⟨hlive, hnone⟩ := hnothing (by simpa [Scope.isWatched] using hw)
      simp only [Bool.and_not_self, Bool.false_eq_true, if_false, hlive, false_or] at hnotice
      obtain ⟨signal, hheld⟩ := hnotice
      exact absurd (Mailbox.reception_eq_signal.2 hheld) (hnone signal)
    · -- it has stopped watching
      intro hw
      rcases hrest with rfl | ⟨c₂, r₂, es₂, hd', rfl⟩
      · rw [hd.unwatched] at hw
        cases hw
      · rw [hd'.unwatched] at hw
        cases hw

end

/-- **In every reachable state all watchers are alert.**  A new scope has nothing to notice, and
    every incident keeps its watcher alert. -/
theorem Reachable.alert {s : Keeper} (h : s.Reachable) {k : Nat} {c : Scope} {b : Mailbox}
    (hc : s.scopes[k]? = some c) (hb : s.mailbox? k = some b) : s.Alert k c b := by
  obtain ⟨registrars, hnew, hreaches⟩ := h
  obtain ⟨ms, rfl⟩ := hreaches.exists_after
  have hstart : Reachable { registrars := registrars } := reachable_start hnew
  refine hstart.follow rfl (fun _ => True)
    (fun ms => (Keeper.after { registrars := registrars } ms).Alert) (fun _ _ _ => trivial)
    ?_ ?_ trivial hc hb
  · -- a scope that begins is live, and its subscription is empty
    rintro ms n r r' i - - - (hx | ⟨signal, hheld⟩)
    · cases hx
    · cases hheld
  · intro ms m k c b c' b' es _ he halert
    rw [after_concat]
    exact halert.episode he

/-! ## What ends a scope is noticed at once -/

/-- **The watcher of scope number `k` notices at `time` that its scope ends, or has called
    then**: either it is about to notice and it is still that time, or its deregistration started
    at it.  The first alternative ends with the turn of the watcher, or is kept until then. -/
def NoticesOrCalled (s : Keeper) (time k : Nat) (c : Scope) (b : Mailbox) : Prop :=
  (c.isWatched = true ∧ (c.isCancelled = true ∨ ∃ signal, b.held = some signal) ∧ s.now = time) ∨
    .called time c.owner k .deregister c.identity ∈ s.journal

section

variable {s : Keeper} {m : Move} {k time : Nat} {c c' : Scope} {b b' : Mailbox} {es : Journal}

/-- **Whatever is allowed keeps it so**: the watcher still notices at that time, or it calls now.
    One case for each incident; only time would break it, and that does not pass. -/
theorem NoticesOrCalled.episode (h : s.NoticesOrCalled time k c b) (halert : s.Alert k c b)
    (hm : s.Allows m) (he : s.Episode m k c b c' b' es) : (s.move m).NoticesOrCalled time k c' b' := by
  have hsame := he.incident.same
  rcases h with ⟨hw, hnotice, rfl⟩ | hcalled
  · have hline := halert hw hnotice
    have hincident := he.incident
    have hj := he.journal
    generalize s.move m = s' at hincident hj ⊢
    cases hincident with
    | untouched _ hnow => exact .inl ⟨hw, hnotice, hnow⟩
    | superseded hnow => exact .inl ⟨hw, hnotice, hnow⟩
    | @posted signal _ _ hnow => exact .inl ⟨hw, .inr ⟨signal, rfl⟩, hnow⟩
    | ended _ _ hnow => exact .inl ⟨hw, .inl rfl, hnow⟩
    | passed =>
      -- time does not pass while the watcher is in line
      rw [hm.idle] at hline
      cases hline
    | task ht _ _ _ hnow =>
      rw [← ht, Turn.runTask_scope]
      exact .inl ⟨hw, hnotice, hnow⟩
    | watcher ht =>
      right
      rw [hj, hsame.owner, hsame.identity]
      refine List.mem_append_right _ ?_
      exact Turn.runWatcher_called ht hw (hnotice.imp_right fun ⟨signal, hheld⟩ =>
        ⟨signal, Mailbox.reception_eq_signal.2 hheld⟩)
  · -- it has called already, and nothing is taken out of a journal
    right
    rw [he.journal, hsame.owner, hsame.identity]
    exact List.mem_append_left _ hcalled

/-- It stays so in a timely run, of which every move is allowed where it is made. -/
theorem NoticesOrCalled.after (h : s.NoticesOrCalled time k c b) (hs : s.Reachable)
    (hc : s.scopes[k]? = some c) (hb : s.mailbox? k = some b) {ms : List Move} (htimely : s.Timely ms) :
    ∃ c' b', (s.after ms).scopes[k]? = some c' ∧ c.SameScope c' ∧
      (s.after ms).NoticesOrCalled time k c' b' := by
  have hinvariant := htimely.invariant (fun u => ∃ c' b', u.scopes[k]? = some c' ∧
    u.mailbox? k = some b' ∧ c.SameScope c' ∧ u.NoticesOrCalled time k c' b')
    ⟨c, b, hc, hb, ⟨rfl, rfl, rfl⟩, h⟩ ?_
  · obtain ⟨c', b', hc', -, hsame, hnoticed⟩ := hinvariant
    exact ⟨c', b', hc', hsame, hnoticed⟩
  · rintro u m hu hm ⟨c', b', hc', hb', hsame, hnoticed⟩
    have hreachable := hs.reaches hu
    obtain ⟨c'', b'', es, he⟩ := hreachable.episode m hc' hb'
    have hsame' := he.incident.same
    exact ⟨c'', b'', he.scope_after, he.mailbox_after,
      ⟨hsame'.owner.trans hsame.owner, hsame'.count.trans hsame.count,
        hsame'.identity.trans hsame.identity⟩,
      hnoticed.episode (hreachable.alert hc' hb') hm he⟩

end

/-! ## Every cancellation is noticed -/

section

variable {s : Keeper} {m : Move} {k : Nat} {c c' : Scope} {b b' : Mailbox} {es : Journal}

/-- A cancellation that an incident writes is noticed at its own time.  It comes from outside,
    and then the watcher has still to notice it, or from the watcher itself, which has called in
    the same turn. -/
theorem Episode.noticesOrCalled (he : s.Episode m k c b c' b' es) (ho : s.Orderly) {t n : Nat}
    {cause : CancelCause} (hmem : .cancelled t n k cause ∈ es) :
    (s.move m).NoticesOrCalled t k c' b' := by
  have hsame := he.incident.same
  have hincident := he.incident
  have hj := he.journal
  generalize s.move m = s' at hincident hj ⊢
  cases hincident with
  | untouched _ _ _ hes => exact absurd rfl (hes _ hmem)
  | superseded _ _ hes => exact absurd rfl (hes _ hmem)
  | posted => cases hmem
  | @ended m s' cause' rest _ hlive hnow _ _ _ hrest =>
    rcases List.mem_cons.1 hmem with heq | hmem
    · -- this cancellation: the scope was live, so it is watched
      cases heq
      refine .inl ⟨?_, .inl rfl, hnow⟩
      show (c.watcher == .watching) = true
      rw [ho.watched he.scope hlive]
      rfl
    · cases hrest _ hmem
  | passed => cases hmem
  | task ht =>
    rw [← ht] at hmem
    cases Turn.runTask_own c _ _ hmem
  | watcher ht =>
    right
    rw [hj, hsame.owner, hsame.identity]
    refine List.mem_append_right _ ?_
    obtain ⟨rfl, -, -, -, -, hw, hfound⟩ := Turn.runWatcher_of_cancelled ht hmem
    exact Turn.runWatcher_called ht hw (.inr hfound)

end

/-- **In a timely run every cancellation is noticed at its time.**  It was written by the last
    move or by one before it. -/
theorem Timely.noticesOrCalled {start : Keeper} (hstart : start.Reachable)
    (hnone : start.scopes = []) {ms : List Move} (htimely : start.Timely ms) {k : Nat}
    {c : Scope} {b : Mailbox}
    (hc : (start.after ms).scopes[k]? = some c) (hb : (start.after ms).mailbox? k = some b)
    {t n : Nat} {cause : CancelCause} (hmem : .cancelled t n k cause ∈ (start.after ms).journal) :
    (start.after ms).NoticesOrCalled t k c b := by
  refine hstart.follow hnone start.Timely (fun ms k c b => ∀ t n cause,
    .cancelled t n k cause ∈ (start.after ms).journal → (start.after ms).NoticesOrCalled t k c b)
    (fun _ _ h => (timely_concat.1 h).1) ?_ ?_ htimely hc hb t n cause hmem
  · -- nothing was written about a scope that begins
    intro ms n r r' i _ hbegin t n' cause hmem
    have hj := (hstart.after ms).documented
    obtain ⟨line, hline⟩ := beginScope_eq (start.after ms) n r' i
    rw [after_concat, show (start.after ms).move (.enable n) = _ from hbegin.move_eq, hline] at hmem
    rcases List.mem_append.1 hmem with hmem | hmem
    · exact absurd (hj.known _ hmem _ rfl) (Nat.lt_irrefl _)
    · simp at hmem
  · intro ms m k c b c' b' es hgood he hnoticed t n cause hmem
    have hs := hstart.after ms
    rw [after_concat] at hmem ⊢
    rw [he.journal] at hmem
    rcases List.mem_append.1 hmem with hmem | hmem
    · exact (hnoticed t n cause hmem).episode (hs.alert he.scope he.mailbox)
        (timely_concat.1 hgood).2 he
    · exact he.noticesOrCalled hs.orderly hmem

/-! ## What ends a scope -/

/-- **Move `m` ends scope number `k`**: its registrar is disabled or dropped while the scope is live,
    or a signal is accepted while its subscription is the newest. -/
inductive Ends (s : Keeper) (k : Nat) : Move → Prop where
  | disable {c : Scope} {r : Registrar} (hc : s.scopes[k]? = some c) (hx : c.isCancelled = false)
      (hr : s.registrars[c.owner]? = some r) (hd : r.isDropped = false) :
      Ends s k (.disable c.owner)
  | drop {c : Scope} {r : Registrar} (hc : s.scopes[k]? = some c) (hx : c.isCancelled = false)
      (hr : s.registrars[c.owner]? = some r) (hd : r.isDropped = false) :
      Ends s k (.drop c.owner)
  | raise (signal : TerminationSignal) (h : s.acceptsSignal = true)
      (hk : k + 1 = s.scopes.length) : Ends s k (.raise signal)

/-- Whoever disables or drops the registrar of a live scope cancels that scope: the registrar
    remembers it, since it is its newest. -/
theorem Ends.cancels {s : Keeper} {k : Nat} {m : Move} (h : s.Ends k m) (ho : s.Orderly)
    (hm : ∀ signal, m ≠ .raise signal) :
    ∃ c r cause rest, s.scopes[k]? = some c ∧ c.isCancelled = false ∧ cause ≠ .signalled ∧
      s.move m = ((s.setRegistrar c.owner r).cancel k cause).tell rest := by
  cases h with
  | @disable c r hc hx hr hd =>
    have hcur : r.current = some k := (ho.live_newest hc (memory?_of hr) hx).1
    refine ⟨c, { r with current := none }, .disabled, [.logged .disabled], hc, hx, nofun, ?_⟩
    show s.disable c.owner = _
    simp only [Keeper.disable, hr, hd, hcur]
  | @drop c r hc hx hr hd =>
    have hcur : r.current = some k := (ho.live_newest hc (memory?_of hr) hx).1
    refine ⟨c, { r with isDropped := true }, .dropped, [], hc, hx, nofun, ?_⟩
    rw [tell_nil]
    show s.dropRegistrar c.owner = _
    simp only [dropRegistrar, hr, hd, hcur, Bool.false_eq_true, if_false]
  | raise signal => exact absurd rfl (hm signal)

/-- A live scope that is cancelled has something to notice, since it is watched. -/
theorem noticesOrCalled_of_cancel {s : Keeper} (hs : s.Reachable) {k : Nat} {c : Scope}
    (hc : s.scopes[k]? = some c) (hx : c.isCancelled = false) (r : Registrar) (cause : CancelCause)
    (rest : Journal) {u : Keeper} (hu : u = ((s.setRegistrar c.owner r).cancel k cause).tell rest) :
    ∃ c' b, u.scopes[k]? = some c' ∧ u.mailbox? k = some b ∧ u.NoticesOrCalled s.now k c' b := by
  obtain ⟨b, hb⟩ := hs.posted.mailbox hc
  obtain ⟨line, hline⟩ := cancel_eq (s := s.setRegistrar c.owner r) hc cause
  rw [hu, hline]
  refine ⟨_, b, List.getElem?_set_self (List.getElem?_eq_some_iff.1 hc).1, hb,
    .inl ⟨?_, .inl rfl, rfl⟩⟩
  show (c.watcher == .watching) = true
  rw [hs.orderly.watched hc hx]
  rfl

/-- **What ends a scope is noticed when it happens.**  A signal that is accepted is put in the
    newest subscription, which has room; so the scope is still watched, and of all incidents only
    the posting is left. -/
theorem Ends.noticesOrCalled {s : Keeper} {k : Nat} {m : Move} (h : s.Ends k m) (hs : s.Reachable) :
    ∃ c b, (s.move m).scopes[k]? = some c ∧ (s.move m).mailbox? k = some b ∧
      (s.move m).NoticesOrCalled s.now k c b := by
  have hcancels := h.cancels hs.orderly
  cases h with
  | disable =>
    obtain ⟨c, r, cause, rest, hc, hx, -, hmove⟩ := hcancels nofun
    exact noticesOrCalled_of_cancel hs hc hx r cause rest hmove
  | drop =>
    obtain ⟨c, r, cause, rest, hc, hx, -, hmove⟩ := hcancels nofun
    exact noticesOrCalled_of_cancel hs hc hx r cause rest hmove
  | raise signal h hk =>
    have hc := List.getElem?_eq_getElem (show k < s.scopes.length by omega)
    obtain ⟨b, hb, hroom⟩ := Subscriptions.hasRoom_iff.1 h
    rw [hs.posted.length, show s.scopes.length - 1 = k by omega] at hb
    have hw : s.scopes[k].isWatched = true := by
      refine Bool.eq_false_iff.not_left.1 fun hw => ?_
      have hgone := hs.posted.watched hc hb
      rw [hw] at hgone
      rw [show b = .gone from hgone] at hroom
      cases hroom
    obtain ⟨c', b', es, he⟩ := hs.episode (.raise signal) hc hb
    have hincident := he.incident
    refine ⟨c', b', he.scope_after, he.mailbox_after, ?_⟩
    generalize s.move (.raise signal) = s' at hincident ⊢
    -- room excludes the first case, and raising a signal is none of the others
    cases hincident with
    | untouched hm =>
      rw [hm signal rfl] at hroom
      cases hroom
    | posted _ hnow => exact .inl ⟨hw, .inr ⟨signal, rfl⟩, hnow⟩
    | ended hm => rcases hm with ⟨h, -⟩ | ⟨h, -⟩ <;> cases h
    | task _ _ _ hm => rcases hm with h | h <;> cases h
    | watcher _ _ _ hm => rcases hm with h | h <;> cases h

/-! ## Exactly once -/

/-- **Scope number `k` has deregistered once**, at a time, and under the identity with which it
    began. -/
def DeregisteredAt (s : Keeper) (time k : Nat) : Prop :=
  s.journal.starts k .deregister = 1 ∧
    ∃ u n i, .began u n k i ∈ s.journal ∧ .called time n k .deregister i ∈ s.journal

theorem Documented.deregistered_once {s : Keeper} (hj : s.Documented) {k : Nat} {c : Scope}
    (hc : s.scopes[k]? = some c) {time : Nat}
    (hmem : .called time c.owner k .deregister c.identity ∈ s.journal) :
    s.DeregisteredAt time k := by
  have hrec := hj.recorded hc
  obtain ⟨u, hbegan⟩ := hrec.began
  refine ⟨?_, u, _, _, hbegan, hmem⟩
  have hpos : 0 < s.journal.starts k .deregister :=
    List.countP_pos_iff.2 ⟨_, hmem, by simp [JournalEntry.starts]⟩
  have hle : c.deregistrations ≤ 1 := by
    unfold Scope.deregistrations
    split <;> omega
  have := hrec.deregisterStarts
  omega

/-- **Exactly one deregistration per scope that ends.**  A deregistration starts after the cancellation
    of its scope, under the identity with which the scope began, and is the only one of the scope.
    In a timely run it starts at the very time of the cancellation, and at the time of what has ended
    the scope, be it that the registrar was disabled or dropped or that a signal was accepted: so it
    is there as soon as the clock has moved on, whatever else has happened until then. -/
theorem deregisters_once {registrars : List Registrar} (hnew : ∀ r ∈ registrars, r.IsNew)
    {ms : List Move} (htimely : Timely { registrars := registrars } ms) :
    let s := after { registrars := registrars } ms
    (∀ (p q : Journal) (t n k : Nat) (i : Identity),
      s.journal = p ++ .called t n k .deregister i :: q →
      p.cancellations k ≠ 0 ∧ (∃ u, .began u n k i ∈ p) ∧ p.starts k .deregister = 0 ∧
        q.starts k .deregister = 0) ∧
    (∀ t n k cause, .cancelled t n k cause ∈ s.journal → t < s.now → s.DeregisteredAt t k) ∧
    ∀ k m, s.Ends k m → ∀ ms', (s.move m).Timely ms' → s.now < ((s.move m).after ms').now →
      ((s.move m).after ms').DeregisteredAt s.now k := by
  have hstart : Reachable { registrars := registrars } := reachable_start hnew
  have hs := hstart.after ms
  have hj := hs.documented
  refine ⟨?_, ?_, ?_⟩
  · -- nothing before its cancellation, and nothing twice: the journal is lawful
    intro p q t n k i hsplit
    have hlawful := hj.lawful
    rw [hsplit] at hlawful
    obtain ⟨hbegan, hcancelled, hfirst⟩ := hlawful.warranted
    refine ⟨hcancelled, hbegan, hfirst, ?_⟩
    have hmem : .called t n k .deregister i ∈ (after { registrars := registrars } ms).journal := by
      rw [hsplit]
      exact List.mem_append_right _ (List.mem_cons_self ..)
    obtain ⟨c, hc, rfl, rfl⟩ := hj.scope_of hmem rfl
    have hone := (hj.deregistered_once hc hmem).1
    rw [hsplit, Journal.starts_append, Journal.starts_cons] at hone
    simp only [JournalEntry.starts, and_self, decide_true, if_true] at hone
    omega
  · -- a cancellation that was written: its time is over, so the call was made
    intro t n k cause hmem hlater
    obtain ⟨c, hc, -⟩ := hj.scope_of hmem rfl
    obtain ⟨b, hb⟩ := hs.posted.mailbox hc
    rcases htimely.noticesOrCalled hstart rfl hc hb hmem with ⟨-, -, hnow⟩ | hcalled
    · omega
    · exact hj.deregistered_once hc hcalled
  · -- what ends the scope: the same
    intro k m hends ms' htimely' hlater
    obtain ⟨c, b, hc, hb, hnoticed⟩ := hends.noticesOrCalled hs
    have hs' := hs.move m
    obtain ⟨c', b', hc', -, ⟨-, -, hnow⟩ | hcalled⟩ := hnoticed.after hs' hc hb htimely'
    · omega
    · exact (hs'.after ms').documented.deregistered_once hc' hcalled

/-- Two registrars that have not been used. -/
def twoRegistrars : List Registrar :=
  [{ identity := .ok someone }, { identity := .ok (.ofAddress "svc" "i-2" "10.0.0.6:8080") }]

/-- The first has registered when the second is enabled, which closes the first one's subscription. -/
def supersedingMoves : List Move :=
  [.enable 0, .step, .step, .pass ⟨10⟩, .step, .enable 1, .step, .step, .step]

/-- A signal that is raised then ends the second, which deregisters at once. -/
theorem supersedingMoves_deregister :
    (∀ r ∈ twoRegistrars, r.IsNew) ∧ Timely { registrars := twoRegistrars } supersedingMoves ∧
      (((after { registrars := twoRegistrars } supersedingMoves).move (.raise .terminate)).sleep
        ⟨5⟩).DeregisteredAt 10 1 := by
  have hnew : ∀ r ∈ twoRegistrars, r.IsNew := by decide
  have htimely : Timely { registrars := twoRegistrars } supersedingMoves := by decide +kernel
  have haccepts : (after { registrars := twoRegistrars } supersedingMoves).acceptsSignal = true := by
    decide +kernel
  have hlength : (after { registrars := twoRegistrars } supersedingMoves).scopes.length = 2 := by
    decide +kernel
  have hnow : (after { registrars := twoRegistrars } supersedingMoves).now = 10 := by decide +kernel
  refine ⟨hnew, htimely, ?_⟩
  obtain ⟨ms, htimely', -, hsleep⟩ := sleep_timely
    ((after { registrars := twoRegistrars } supersedingMoves).move (.raise .terminate)) ⟨5⟩
  have hlater : (((after { registrars := twoRegistrars } supersedingMoves).move
      (.raise .terminate)).sleep ⟨5⟩).now = 15 := by
    decide +kernel
  have hone := (deregisters_once hnew htimely).2.2 1 (.raise .terminate)
    (.raise .terminate haccepts hlength.symm) ms htimely'
  rw [hsleep, hlater, hnow] at hone
  exact hone (by decide)

end Keeper

end LeaseKeeper

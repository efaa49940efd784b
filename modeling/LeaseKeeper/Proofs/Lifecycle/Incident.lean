/-
  What one move means for one scope.

  A move is about all registrars, scopes and subscriptions at once.  Who follows one scope sees
  one of seven INCIDENTS: it is untouched, superseded by a later scope, posted a signal, ended
  from outside, passed by the clock, or its task or its watcher takes a turn.  With each incident
  goes all that a follower may ask for: what becomes of the scope and of its subscription, what is
  written about it, who is put in line and who stays there (`move_undergoes`).

  Scope and subscription have one number, and the subscription is dropped when the watcher has
  stopped watching; only the newest is open (`Posted`).

  There is one lemma for each form of a move (`began_undergoes`, `cancel_undergoes`,
  `raised_undergoes`, `turn_undergoes`, `pass_undergoes`), and each splits on whether the move is
  about the scope that is followed.  What makes this worth its length is that it is done once: the
  invariants of the later modules are proved incident by incident, and see neither other scopes
  nor the rest of the keeper.
-/
import LeaseKeeper.Proofs.Lifecycle.Fate
import LeaseKeeper.Proofs.Lifecycle.Moves
import LeaseKeeper.Proofs.Lifecycle.Stopping

namespace LeaseKeeper

namespace Keeper

/-! ## Who is put in line -/

/-- The workers of scope number `k` that are in line stay there.  Lines grow at the end, so this
    holds of every move but the turn of the worker itself. -/
def KeepsInLine (s s' : Keeper) (k : Nat) : Prop :=
  ∀ w : Worker, ⟨k, w⟩ ∈ s.ready → ⟨k, w⟩ ∈ s'.ready

theorem keepsInLine_of_eq {s s' : Keeper} {line : List Actor} (h : s'.ready = s.ready ++ line)
    (k : Nat) : s.KeepsInLine s' k := by
  intro w hw
  rw [h]
  exact List.mem_append_left _ hw

theorem mem_wakeIf_of_mem {s : Keeper} {a a' : Actor} (h : a' ∈ s.ready) (b : Bool) :
    a' ∈ (s.wakeIf b a).ready := by
  obtain ⟨line, hline⟩ := wakeIf_eq s b a
  rw [hline]
  exact List.mem_append_left _ h

/-- **Who cancels a scope wakes its workers**, if they would notice: the watcher as long as it
    watches, and the task while it waits. -/
theorem cancel_wakes {s : Keeper} {k : Nat} {c : Scope} (h : s.scopes[k]? = some c)
    (hx : c.isCancelled = false) (cause : CancelCause) :
    (c.isWatched = true → ⟨k, .watcher⟩ ∈ (s.cancel k cause).ready) ∧
      (c.taskIsWaiting = true → ⟨k, .task⟩ ∈ (s.cancel k cause).ready) := by
  unfold cancel
  rw [h]
  simp only [hx, Bool.false_eq_true, if_false]
  have hscope : ((s.setScope k { c with isCancelled := true }).tell
      [.cancelled s.now c.owner k cause]).scopes[k]? =
        some ({ c with isCancelled := true } : Scope) :=
    List.getElem?_set_self (List.getElem?_eq_some_iff.1 h).1
  generalize (s.setScope k { c with isCancelled := true }).tell
    [.cancelled s.now c.owner k cause] = u at hscope ⊢
  constructor
  · intro hwatched
    refine mem_wakeIf_of_mem (mem_wakeIf ?_ _ _) _
    rw [hscope]
    exact hwatched
  · intro hwaiting
    refine mem_wakeIf ?_ _ _
    obtain ⟨line, hline⟩ := wakeWatcher_eq u k
    rw [hline]
    show (u.scopes[k]?).any Scope.taskIsWaiting = true
    rw [hscope]
    exact hwaiting

/-! ## What a worker leaves alone in its turn

All entries that a turn writes are about the scope of the worker. -/

end Keeper

theorem Journal.About.append {es es' : Journal} {k : Nat} (h : es.About k) (h' : es'.About k) :
    Journal.About (es ++ es') k := by
  intro e he
  rcases List.mem_append.1 he with he | he
  · exact h e he
  · exact h' e he

namespace Turn

variable {now index : Nat} {found : Reception}

theorem stepsOfTask_about (n : Nat) {t : Turn} (h : t.report.About index) :
    (stepsOfTask now index n t).report.About index := by
  induction n generalizing t with
  | zero => exact h
  | succ n ih =>
    refine ih ?_
    rcases stepTask_deed now index t with hsame | ⟨c, r, es, hd, hstep⟩
    · rw [hsame]
      exact h
    · rw [hstep]
      exact h.append hd.about

theorem runWatcher_about {t : Turn} (h : t.report.About index) :
    (t.runWatcher now index found).report.About index := by
  refine runWatcher_keeps (fun u => u.report.About index) ?_ h
  intro found u hu
  rcases stepWatcher_deed now index found u with hsame | ⟨c, r, es, hd, hstep⟩
  · rw [hsame]
    exact hu
  · rw [hstep]
    exact hu.append hd.about

/-- What a worker makes known in its turn is about its own scope. -/
theorem run_about (w : Worker) (c : Scope) (r : Registrar) :
    (run now index found w ⟨c, r, []⟩).report.About index := by
  cases w with
  | task => exact stepsOfTask_about _ (Journal.about_nil index)
  | watcher => exact runWatcher_about (Journal.about_nil index)

theorem run_owner (w : Worker) (c : Scope) (r : Registrar) :
    (run now index found w ⟨c, r, []⟩).scope.owner = c.owner := by
  cases w with
  | task => exact (congrArg Scope.owner (stepsOfTask_keeps now index _ ⟨c, r, []⟩).1 :)
  | watcher => exact Keeper.runWatcher_owner now index found ⟨c, r, []⟩

end Turn

namespace Keeper

/-- **What becomes of the subscriptions in a turn**: a watcher that stops watching drops its own.
    A task leaves them alone, and a watcher that watched no more before has dropped it already. -/
theorem turn_subscriptions {s : Keeper} {a : Actor} {c : Scope} {r : Registrar}
    (hc : s.scopes[a.scope]? = some c) (hr : s.registrars[c.owner]? = some r) :
    (s.turn a).subscriptions =
      match a.worker with
      | .task => s.subscriptions
      | .watcher =>
        if c.isWatched && !(s.worked a c r).scope.isWatched then s.subscriptions.drop a.scope
        else s.subscriptions := by
  obtain ⟨k, w⟩ := a
  replace hc : s.scopes[k]? = some c := hc
  cases w with
  | task =>
    simp only [turn, hc, hr]
    rfl
  | watcher =>
    simp only [turn, hc, hr]
    show (s.watcherTurn k c r).subscriptions = _
    have hworked : s.worked ⟨k, .watcher⟩ c r =
        Turn.runWatcher s.now k (s.subscriptions.reception k) ⟨c, r, []⟩ := rfl
    rw [hworked]
    unfold watcherTurn
    generalize Turn.runWatcher s.now k (s.subscriptions.reception k) ⟨c, r, []⟩ = t
    simp only
    generalize (c.isWatched && !t.scope.isWatched) = gives
    have hwoken : ∀ u : Keeper, (u.wakeTask k).subscriptions = u.subscriptions := by
      intro u
      obtain ⟨line, hline⟩ := wakeIf_eq u (u.scopes[k]?.any Scope.taskIsWaiting) ⟨k, .task⟩
      rw [wakeTask, hline]
    -- waking does not touch the subscriptions, so the three conditions of the turn only need
    -- splitting
    cases gives <;> cases c.isCancelled <;> cases t.scope.isCancelled <;>
      simp [hwoken, setScope, setRegistrar, tell]

/-! ## Every scope has its subscription -/

/-- The subscription of scope number `k`. -/
def mailbox? (s : Keeper) (k : Nat) : Option Mailbox := s.subscriptions.mailboxes[k]?

/-- **Every scope has its subscription**; the newest may be open, and one is dropped when its
    watcher has stopped watching.  So the state of the watch and the state of the mailbox
    determine each other, and no incident has to speak of both. -/
structure Posted (s : Keeper) : Prop where
  length : s.subscriptions.mailboxes.length = s.scopes.length
  newest : ∀ {k : Nat} {b : Mailbox}, s.mailbox? k = some b → b.isOpen = true →
    k + 1 = s.scopes.length
  watched : ∀ {k : Nat} {c : Scope} {b : Mailbox}, s.scopes[k]? = some c →
    s.mailbox? k = some b → if c.isWatched then b.isDropped = false else b = .gone

theorem Posted.mailbox {s : Keeper} (hp : s.Posted) {k : Nat} {c : Scope}
    (hc : s.scopes[k]? = some c) : ∃ b, s.mailbox? k = some b := by
  have hk : k < s.subscriptions.mailboxes.length := by
    rw [hp.length]
    exact (List.getElem?_eq_some_iff.1 hc).1
  exact ⟨_, List.getElem?_eq_getElem hk⟩

/-- Where there is room, a signal is accepted, and the subscription is the newest: one with room
    is open, and only the newest is. -/
theorem Posted.accepts_of_room {s : Keeper} (hp : s.Posted) {k : Nat} {b : Mailbox}
    (hb : s.mailbox? k = some b) (hroom : b.hasRoom = true) :
    k + 1 = s.scopes.length ∧ s.acceptsSignal = true := by
  have hopen : b.isOpen = true := (Bool.and_eq_true_iff.1 hroom).1
  have hnewest := hp.newest hb hopen
  refine ⟨hnewest, Subscriptions.hasRoom_iff.2 ⟨b, ?_, hroom⟩⟩
  rw [hp.length, ← hnewest]
  exact hb

/-- A turn touches no subscription but that of its own scope. -/
theorem turn_mailbox {s : Keeper} {a : Actor} {k : Nat} {b : Mailbox} (h : a.scope ≠ k)
    (hb : s.mailbox? k = some b) : (s.turn a).mailbox? k = some b := by
  rcases turn_cases s a with hself | ⟨c, r, hc, hr⟩
  · rw [hself]
    exact hb
  · rw [mailbox?, turn_subscriptions hc hr]
    split
    · exact hb
    · split
      · show (s.subscriptions.modify _ _).mailboxes[k]? = _
        rw [Subscriptions.modify_mailbox hb, if_neg h]
      · exact hb

/-! ## Incidents -/

/-- **What move `m` means for scope number `k`**: what becomes of the scope and of its
    subscription, and what is written meanwhile.  Each constructor holds what a follower can know
    of the keeper after the move, and no more: the clock, the line as far as the scope's workers
    go, and the registrar after a turn. -/
inductive Incident (s : Keeper) (k : Nat) (c : Scope) (b : Mailbox) :
    Move → Keeper → Scope → Mailbox → Journal → Prop where
  /-- The move is about others. -/
  | untouched {m : Move} {s' : Keeper} {es : Journal}
      (hm : ∀ signal, m = .raise signal → b.hasRoom = false) (hnow : s'.now = s.now)
      (hline : s.KeepsInLine s' k) (hes : ∀ e ∈ es, e.scope? ≠ some k) : Incident s k c b m s' c b es
  /-- A later scope begins, which closes the subscription. -/
  | superseded {n : Nat} {s' : Keeper} {es : Journal} (hnow : s'.now = s.now)
      (hline : s.KeepsInLine s' k) (hes : ∀ e ∈ es, e.scope? ≠ some k) :
      Incident s k c b (.enable n) s' c b.close es
  /-- A signal is accepted. -/
  | posted {signal : TerminationSignal} {s' : Keeper} (hroom : b.hasRoom = true)
      (hnow : s'.now = s.now) (hline : s.KeepsInLine s' k)
      (hwoken : c.isWatched = true → ⟨k, .watcher⟩ ∈ s'.ready) :
      Incident s k c b (.raise signal) s' c (b.put .manual signal) []
  /-- The registrar is disabled or dropped. -/
  | ended {m : Move} {s' : Keeper} {cause : CancelCause} {rest : Journal}
      (hm : (m = .disable c.owner ∧ cause = .disabled) ∨ (m = .drop c.owner ∧ cause = .dropped))
      (hlive : c.isCancelled = false) (hnow : s'.now = s.now) (hline : s.KeepsInLine s' k)
      (hwatcher : c.isWatched = true → ⟨k, .watcher⟩ ∈ s'.ready)
      (htask : c.taskIsWaiting = true → ⟨k, .task⟩ ∈ s'.ready) (hrest : rest.Silent) :
      Incident s k c b m s' { c with isCancelled := true } b
        (.cancelled s.now c.owner k cause :: rest)
  /-- Time passes. -/
  | passed {d : Duration} {s' : Keeper} (hnow : s'.now = s.now + d.millis)
      (hline : s.KeepsInLine s' k)
      (hdue : ∀ due, c.taskDue? = some due → due ≤ s'.now → ⟨k, .task⟩ ∈ s'.ready) :
      Incident s k c b (.pass d) s' c b []
  /-- The task takes a turn. -/
  | task {m : Move} {s' : Keeper} {r : Registrar} {t : Turn}
      (ht : Turn.runTask s.now k ⟨c, r, []⟩ = t) (hr : s.registrars[c.owner]? = some r)
      (hr' : s'.registrars[c.owner]? = some t.registrar) (hm : m = .step ∨ m = .turn ⟨k, .task⟩)
      (hnow : s'.now = s.now) (hline : ⟨k, .watcher⟩ ∈ s.ready → ⟨k, .watcher⟩ ∈ s'.ready) :
      Incident s k c b m s' t.scope b t.report
  /-- The watcher takes a turn. -/
  | watcher {m : Move} {s' : Keeper} {r : Registrar} {t : Turn}
      (ht : Turn.runWatcher s.now k b.reception ⟨c, r, []⟩ = t)
      (hr : s.registrars[c.owner]? = some r) (hr' : s'.registrars[c.owner]? = some t.registrar)
      (hm : m = .step ∨ m = .turn ⟨k, .watcher⟩)
      (hnow : s'.now = s.now) (hline : ⟨k, .task⟩ ∈ s.ready → ⟨k, .task⟩ ∈ s'.ready)
      (hwoken : c.isCancelled = false → t.scope.isCancelled = true →
        t.scope.taskIsWaiting = true → ⟨k, .task⟩ ∈ s'.ready) :
      Incident s k c b m s' t.scope (if c.isWatched && !t.scope.isWatched then .gone else b)
        t.report

/-- What has become of scope number `k` in `s'` is what an incident says. -/
def Undergoes (s : Keeper) (m : Move) (s' : Keeper) (k : Nat) (c : Scope) (b : Mailbox) : Prop :=
  ∃ c' b' es, s'.scopes[k]? = some c' ∧ s'.mailbox? k = some b' ∧ s'.journal = s.journal ++ es ∧
    s.Incident k c b m s' c' b' es

section

variable {s : Keeper} {k : Nat} {c : Scope} {b : Mailbox}

/-- Where neither the scope nor its subscription changes, and nothing is written about it. -/
theorem undergoes_untouched {m : Move} {s' : Keeper} {es : Journal} (hc : s.scopes[k]? = some c)
    (hb : s.mailbox? k = some b) (hm : ∀ signal, m = .raise signal → b.hasRoom = false)
    (hnow : s'.now = s.now) (hscopes : s'.scopes = s.scopes)
    (hbox : s'.subscriptions = s.subscriptions) (hline : s.KeepsInLine s' k)
    (hj : s'.journal = s.journal ++ es) (hes : ∀ e ∈ es, e.scope? ≠ some k) :
    s.Undergoes m s' k c b :=
  ⟨c, b, es, by rw [hscopes, hc], by rw [mailbox?, hbox]; exact hb, hj,
    .untouched hm hnow hline hes⟩

/-- **A scope that begins** supersedes all that were there.  Their scopes are left as they are,
    and their subscriptions are closed. -/
theorem began_undergoes (hp : s.Posted) (n : Nat) (r : Registrar) (i : Identity)
    (hc : s.scopes[k]? = some c) (hb : s.mailbox? k = some b) :
    s.Undergoes (.enable n) (s.beginScope n r i) k c b := by
  obtain ⟨line, hline⟩ := beginScope_eq s n r i
  have hk : k < s.scopes.length := (List.getElem?_eq_some_iff.1 hc).1
  have habout : Journal.About [.began s.now n s.scopes.length i,
      .logged (.enabled i r.pacing.retryInterval)] s.scopes.length :=
    ((Journal.silent_nil.cons rfl).about _).cons rfl
  -- the newest subscription is closed now, and the others were closed before
  have hbox : (s.beginScope n r i).mailbox? k = some b.close := by
    rw [mailbox?, hline]
    show s.subscriptions.subscribe.mailboxes[k]? = _
    rw [Subscriptions.subscribe_mailbox hb]
    split
    · rfl
    · rename_i hother
      have hclosed : b.isOpen = false := by
        refine Bool.eq_false_iff.2 fun hopen => hother ?_
        have hnewest := hp.newest hb hopen
        rw [hp.length]
        omega
      rw [Mailbox.close, ← hclosed]
  refine ⟨c, b.close, _, ?_, hbox, by rw [hline], ?_⟩
  · rw [hline]
    exact (List.getElem?_append_left hk).trans hc
  · exact .superseded (by rw [hline]) (keepsInLine_of_eq (by rw [hline]) k)
      (habout.ne (Nat.ne_of_gt hk))

/-- **A scope that is ended from outside**, or another one.  The registrar may have changed in
    the meantime and more may be written, as long as it is about no scope: disabling writes a
    line, dropping writes none. -/
theorem cancel_undergoes (hc : s.scopes[k]? = some c) (hb : s.mailbox? k = some b) {j n : Nat}
    {a : Scope} {r : Registrar} {cause : CancelCause} {m : Move} (ha : s.scopes[j]? = some a)
    (hm : (m = .disable a.owner ∧ cause = .disabled) ∨ (m = .drop a.owner ∧ cause = .dropped))
    {rest : Journal} (hrest : rest.Silent) :
    s.Undergoes m (((s.setRegistrar n r).cancel j cause).tell rest) k c b := by
  -- the state after the move, part by part
  obtain ⟨line, hline⟩ := cancel_eq (s := s.setRegistrar n r) ha cause
  have hraise : ∀ signal, m = .raise signal → b.hasRoom = false := by
    rintro signal rfl
    rcases hm with ⟨h, -⟩ | ⟨h, -⟩ <;> cases h
  have hready : (((s.setRegistrar n r).cancel j cause).tell rest).ready = s.ready ++ line := by
    rw [hline]
    rfl
  have hj : (((s.setRegistrar n r).cancel j cause).tell rest).journal =
      s.journal ++ (a.cancellation s.now j cause ++ rest) := by
    rw [hline]
    exact List.append_assoc ..
  have hbox : (((s.setRegistrar n r).cancel j cause).tell rest).mailbox? k = some b := by
    rw [hline]
    exact hb
  have hnow : (((s.setRegistrar n r).cancel j cause).tell rest).now = s.now := by
    rw [hline]
    rfl
  have hscopes : (((s.setRegistrar n r).cancel j cause).tell rest).scopes =
      s.scopes.set j { a with isCancelled := true } := by
    rw [hline]
    rfl
  by_cases hjk : j = k
  · subst hjk
    obtain rfl := Option.some.inj (ha.symm.trans hc)
    have hset : (((s.setRegistrar n r).cancel j cause).tell rest).scopes[j]? =
        some { a with isCancelled := true } := by
      rw [hscopes]
      exact List.getElem?_set_self (List.getElem?_eq_some_iff.1 hc).1
    cases hlive : a.isCancelled with
    | true =>
      -- it was cancelled already, so nothing is written about it
      have hself : ({ a with isCancelled := true } : Scope) = a := by rw [← hlive]
      have hnone : a.cancellation s.now j cause = [] := if_pos hlive
      rw [hself] at hset
      rw [hnone, List.nil_append] at hj
      exact ⟨a, b, rest, hset, hbox, hj,
        .untouched hraise hnow (keepsInLine_of_eq hready j) (hrest.ne j)⟩
    | false =>
      have hone : a.cancellation s.now j cause = [.cancelled s.now a.owner j cause] :=
        if_neg (Bool.eq_false_iff.1 hlive)
      obtain ⟨hwatcher, htask⟩ := cancel_wakes (s := s.setRegistrar n r) ha hlive cause
      exact ⟨_, b, _, hset, hbox, by rw [hj, hone]; rfl,
        .ended hm hlive hnow (keepsInLine_of_eq hready j) hwatcher htask hrest⟩
  · -- another scope is ended, and what is written is about that one
    refine ⟨c, b, _, ?_, hbox, hj, .untouched hraise hnow (keepsInLine_of_eq hready k) ?_⟩
    · rw [hscopes, List.getElem?_set_ne hjk]
      exact hc
    · exact Journal.About.ne ((a.cancellation_about s.now j cause).append (hrest.about j)) hjk

/-- **A signal that is accepted** is posted to the newest scope, and to nobody else.  Of the
    other scopes it has to be shown that their subscriptions had no room, since the move is the
    raising of a signal for them too. -/
theorem raised_undergoes (hp : s.Posted) (signal : TerminationSignal)
    (haccepts : s.acceptsSignal = true) (hc : s.scopes[k]? = some c) (hb : s.mailbox? k = some b) :
    s.Undergoes (.raise signal) (s.deliver signal) k c b := by
  have hbox : (s.subscriptions.modifyNewest (Mailbox.put .manual signal)).mailboxes[k]? =
      some (if s.scopes.length - 1 = k then b.put .manual signal else b) := by
    rw [← hp.length]
    exact Subscriptions.modify_mailbox hb _ _
  obtain ⟨b', hb', hroom'⟩ := Subscriptions.hasRoom_iff.1 haccepts
  rw [hp.length] at hb'
  obtain ⟨line, hline⟩ := deliver_eq s signal
  by_cases hk : s.scopes.length - 1 = k
  -- this scope is the newest
  · rw [if_pos hk] at hbox
    rw [hk] at hb'
    obtain rfl := Option.some.inj (hb'.symm.trans hb)
    have hwoken : c.isWatched = true → ⟨k, .watcher⟩ ∈ (s.deliver signal).ready := by
      intro hwatched
      rw [deliver, hk]
      refine mem_wakeIf ?_ _ _
      show (s.scopes[k]?).any Scope.isWatched = true
      rw [hc]
      exact hwatched
    rw [hline] at hwoken ⊢
    exact ⟨c, _, [], hc, hbox, (List.append_nil _).symm,
      .posted hroom' rfl (keepsInLine_of_eq rfl k) hwoken⟩
  · -- this scope is an older one
    rw [if_neg hk] at hbox
    have hfull : b.hasRoom = false := by
      refine Bool.eq_false_iff.2 fun hroom => hk ?_
      have := hp.newest hb (Bool.and_eq_true_iff.1 hroom).1
      omega
    rw [hline]
    exact ⟨c, b, [], hc, hbox, (List.append_nil _).symm,
      .untouched (fun _ _ => hfull) rfl (keepsInLine_of_eq rfl k) (Journal.silent_nil.ne k)⟩

/-- **A turn** is an incident for the scope of the one who takes it.  Who takes it has left the
    line before, if he was in it; so the turn starts from a keeper `u` with another line, and
    nothing else of `u` is new. -/
theorem turn_undergoes (ho : s.Orderly) {m : Move} {a : Actor} {line : List Actor}
    (hm : m = .step ∨ m = .turn a) (hline : ∀ a' ∈ s.ready, a' ∈ line ∨ a' = a)
    (hc : s.scopes[k]? = some c) (hb : s.mailbox? k = some b) :
    s.Undergoes m (({ s with ready := line } : Keeper).turn a) k c b := by
  generalize hu : ({ s with ready := line } : Keeper) = u
  have huc : u.scopes[k]? = some c := by rw [← hu]; exact hc
  have hub : u.subscriptions.mailboxes[k]? = some b := by rw [← hu]; exact hb
  have hnow : u.now = s.now := by rw [← hu]
  have hready : u.ready = line := by rw [← hu]
  have hregistrars : u.registrars = s.registrars := by rw [← hu]
  have hjournal : u.journal = s.journal := by rw [← hu]
  obtain ⟨l, hl, -⟩ := turn_line u a
  -- whoever else was in line is still there
  have hstays : ∀ w, ⟨k, w⟩ ≠ a → ⟨k, w⟩ ∈ s.ready → ⟨k, w⟩ ∈ (u.turn a).ready := by
    intro w hne hw
    rw [hl, hready]
    exact List.mem_append_left _ ((hline _ hw).resolve_right hne)
  have hraise : ∀ signal, m = .raise signal → b.hasRoom = false := by
    rintro signal rfl
    rcases hm with h | h <;> cases h
  by_cases hk : a.scope = k
  -- a worker of this scope takes the turn
  · obtain ⟨r, hr⟩ := ho.registrar hc
    have hur : u.registrars[c.owner]? = some r := by rw [hregistrars]; exact hr
    obtain ⟨j, w⟩ := a
    obtain rfl : j = k := hk
    obtain ⟨subscriptions, line', hturn, -, hwoken⟩ := turn_eq (a := ⟨j, w⟩) huc hur
    have hscope := turn_scope (a := ⟨j, w⟩) huc hur
    have hbox := turn_subscriptions (a := ⟨j, w⟩) huc hur
    have hreport : (u.turn ⟨j, w⟩).journal = s.journal ++ (u.worked ⟨j, w⟩ c r).report := by
      rw [hturn, ← hjournal]
      rfl
    have howner : (u.worked ⟨j, w⟩ c r).scope.owner = c.owner := Turn.run_owner w c r
    have hr' : (u.turn ⟨j, w⟩).registrars[c.owner]? = some (u.worked ⟨j, w⟩ c r).registrar := by
      rw [hturn, ← howner]
      exact put_registrar (by rw [howner]; exact (List.getElem?_eq_some_iff.1 hur).1)
    cases w with
    | task =>
      -- the task: the subscription stays as it is
      refine ⟨_, b, _, hscope, ?_, hreport, .task (by rw [← hnow]; rfl) hr hr' hm
        ((turn_now u _).trans hnow) (hstays .watcher nofun)⟩
      rw [mailbox?, hbox]
      exact hub
    | watcher =>
      -- the watcher: it finds what the mailbox holds, and may drop it
      have hreception : u.subscriptions.reception j = b.reception :=
        Subscriptions.reception_of hub
      refine ⟨_, _, _, hscope, ?_, hreport, .watcher (by rw [← hnow, ← hreception]; rfl) hr hr' hm
        ((turn_now u _).trans hnow) (hstays .task nofun) ?_⟩
      · rw [mailbox?, hbox]
        simp only
        split
        · show (u.subscriptions.modify _ _).mailboxes[j]? = _
          rw [Subscriptions.modify_mailbox hub, if_pos rfl]
          rfl
        · exact hub
      · rw [hturn]
        exact hwoken
  · -- a worker of another scope, who writes about that one
    have habout : ∃ es, (u.turn a).journal = s.journal ++ es ∧ ∀ e ∈ es, e.scope? ≠ some k := by
      rcases turn_cases u a with hself | ⟨c', r', hc', hr'⟩
      · exact ⟨[], by rw [hself, hjournal, List.append_nil], Journal.silent_nil.ne k⟩
      · obtain ⟨subscriptions, line', hturn, -⟩ := turn_eq hc' hr'
        refine ⟨(u.worked a c' r').report, by rw [hturn, ← hjournal]; rfl, ?_⟩
        exact Journal.About.ne (Turn.run_about a.worker c' r') hk
    obtain ⟨es, hj, hes⟩ := habout
    refine ⟨c, b, es, (turn_other hk).trans huc, ?_, hj,
      .untouched hraise ((turn_now u a).trans hnow)
        (fun w => hstays w fun h => hk (by rw [← h])) hes⟩
    exact turn_mailbox hk hub

/-- **When time passes**, a task that must act by then is put in line.  Nothing is said of a
    watcher that must act: no invariant that is followed asks when it does. -/
theorem pass_undergoes (d : Duration) (hc : s.scopes[k]? = some c)
    (hb : s.mailbox? k = some b) :
    s.Undergoes (.pass d) (s.advance (s.now + d.millis)) k c b := by
  have hdue : ∀ due, c.taskDue? = some due → due ≤ (s.advance (s.now + d.millis)).now →
      ⟨k, .task⟩ ∈ (s.advance (s.now + d.millis)).ready := by
    intro due hdue hle
    rw [advance_now] at hle
    exact mem_advance hc hdue hle
  obtain ⟨line, hline⟩ := advance_eq s (s.now + d.millis)
  rw [hline] at hdue ⊢
  exact ⟨c, b, [], hc, hb, (List.append_nil _).symm,
    .passed rfl (keepsInLine_of_eq rfl k) hdue⟩

/-- **Every move is an incident for every scope.**  One case for each form of a move, by the
    lemmas above.  A move that has no effect at all leaves the scope untouched; if it raises a
    signal, this was not accepted, so no subscription had room. -/
theorem move_undergoes (ho : s.Orderly) (hp : s.Posted) (m : Move) (hc : s.scopes[k]? = some c)
    (hb : s.mailbox? k = some b) : s.Undergoes m (s.move m) k c b := by
  have hmoved := s.moved m
  generalize s.move m = s' at hmoved ⊢
  -- where nothing happens to the scope
  have huntouched : ∀ {u : Keeper} {es : Journal}, (∀ signal, m ≠ .raise signal) →
      u.now = s.now → u.scopes = s.scopes → u.subscriptions = s.subscriptions →
      u.ready = s.ready → u.journal = s.journal ++ es → es.Silent → s.Undergoes m u k c b :=
    fun hm hnow hscopes hbox hready hj hes =>
      undergoes_untouched hc hb (fun signal h => absurd h (hm signal)) hnow hscopes hbox
        (keepsInLine_of_eq (hready.trans (List.append_nil _).symm) k) hj (hes.ne k)
  cases hmoved with
  | idle _ ha =>
    refine undergoes_untouched hc hb (fun signal hm => ?_) rfl rfl rfl (fun _ h => h)
      (List.append_nil _).symm (Journal.silent_nil.ne k)
    refine Bool.eq_false_iff.2 fun hroom => ?_
    have haccepts := (hp.accepts_of_room hb hroom).2
    rw [ha signal hm] at haccepts
    cases haccepts
  | failed =>
    exact huntouched nofun rfl rfl rfl rfl rfl ((Journal.silent_nil.cons rfl).cons rfl)
  | began hr hf hsame i => exact began_undergoes hp _ _ i hc hb
  | @ended m n j r cause rest hr hd hcur hm =>
    obtain ⟨a, ha, rfl, -⟩ := ho.current_newest (memory?_of hr) hcur
    refine cancel_undergoes hc hb ha (hm.imp (fun h => ⟨h.1, h.2.1⟩) fun h => ⟨h.1, h.2.1⟩) ?_
    rcases hm with ⟨-, -, rfl⟩ | ⟨-, -, rfl⟩
    · exact Journal.silent_nil.cons rfl
    · exact Journal.silent_nil
  | retired => exact huntouched nofun rfl rfl rfl rfl (List.append_nil _).symm Journal.silent_nil
  | raised signal ha => exact raised_undergoes hp signal ha hc hb
  | supplied => exact huntouched nofun rfl rfl rfl rfl (List.append_nil _).symm Journal.silent_nil
  | turned hm hline => exact turn_undergoes ho hm hline hc hb
  | passed d => exact pass_undergoes d hc hb

end

end Keeper

end LeaseKeeper

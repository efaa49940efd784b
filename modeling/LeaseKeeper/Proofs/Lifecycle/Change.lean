/-
  The changes that moves are made of.

  A move of a keeper does many things at once: it turns signals over, puts workers in line, lets a
  worker go through several steps.  Here every move is taken apart into CHANGES of the three
  things that others can ask about: the registrars, the scopes and the journal.  There are nine:

    * `aside`: none of the three changes (the clock, the line, the subscriptions may);

    * `logged`: a line is logged;

    * `supplied`, `refused`: a registrar changes, but not what it remembers;

    * `began`: a registrar that can start a scope starts one;

    * `ended`, `retired`: a registrar is disabled or dropped, with or without a scope;

    * `task`, `watcher`: a worker does a deed (`TaskDeed`, `WatcherDeed`).

  `move_changes` says that a move is a chain of changes, so an invariant is proved change by
  change and then holds after every move.

  A turn is where this takes some care.  In it a worker goes through several steps on a copy of
  its scope and registrar, and puts them back once at the end; a chain of changes puts them back
  after every step.  Both are the same, since what is put back twice might be put back once
  (`put_put`).
-/
import LeaseKeeper.Proofs.Lifecycle.Deed
import Mathlib.Logic.Relation

namespace LeaseKeeper

/-- The registrar after its scope was cancelled from outside.  A dropped one still remembers its
    scope, and a disabled one does not. -/
def Registrar.ending (r : Registrar) : CancelCause → Registrar
  | .dropped => { r with isDropped := true }
  | _ => { r with current := none }

/-- What becomes known when a scope is cancelled: nothing if it was already. -/
def Scope.cancellation (c : Scope) (now index : Nat) (cause : CancelCause) : Journal :=
  if c.isCancelled then [] else [.cancelled now c.owner index cause]

namespace Keeper

/-- Put back what a worker changed in its turn: its scope, its registrar, and what it has
    reported. -/
def put (s : Keeper) (number : Nat) (t : Turn) : Keeper :=
  ((s.setScope number t.scope).setRegistrar t.scope.owner t.registrar).tell t.report

/-- **A change.**  With each goes what is known when it happens, and the keeper that comes of it
    as an expression in the one before. -/
inductive Change (s : Keeper) : Keeper → Prop where
  | aside {s' : Keeper} (hr : s'.registrars = s.registrars) (hs : s'.scopes = s.scopes)
      (hj : s'.journal = s.journal) : Change s s'
  | logged (line : LogLine) : Change s (s.tell [.logged line])
  | supplied {n : Nat} {r r' : Registrar} (hr : s.registrars[n]? = some r)
      (hm : r'.memory = r.memory) : Change s (s.setRegistrar n r')
  | refused {n : Nat} {r r' : Registrar} (hr : s.registrars[n]? = some r)
      (hm : r'.memory = r.memory) (e : StartupError) : Change s (s.failEnabling n r' e)
  | began {n : Nat} {r r' : Registrar} (hr : s.registrars[n]? = some r)
      (hm : r'.memory = r.memory) (hd : r.isDropped = false) (hc : r.current = none)
      (i : Identity) : Change s (s.beginScope n r' i)
  | ended {n k : Nat} {r : Registrar} (hr : s.registrars[n]? = some r) (hc : r.current = some k)
      (cause : CancelCause) (hx : cause ≠ .signalled) :
      Change s ((s.setRegistrar n (r.ending cause)).cancel k cause)
  | retired {n : Nat} {r : Registrar} (hr : s.registrars[n]? = some r) (hc : r.current = none) :
      Change s (s.setRegistrar n (r.ending .dropped))
  | task {k : Nat} {c c' : Scope} {r r' : Registrar} {es : Journal} (hc : s.scopes[k]? = some c)
      (hr : s.registrars[c.owner]? = some r) (hd : TaskDeed s.now k c r c' r' es) :
      Change s (s.put k ⟨c', r', es⟩)
  | watcher {k : Nat} {found : Reception} {c c' : Scope} {r r' : Registrar} {es : Journal}
      (hc : s.scopes[k]? = some c) (hr : s.registrars[c.owner]? = some r)
      (hd : WatcherDeed s.now k found c r c' r' es) : Change s (s.put k ⟨c', r', es⟩)

/-- **Changes, one after the other.** -/
abbrev Changes : Keeper → Keeper → Prop := Relation.ReflTransGen Change

/-! ## The functions of a keeper, field by field -/

/-- Cancelling touches scopes, journal and line; whom it wakes is left open. -/
theorem cancel_eq {s : Keeper} {k : Nat} {c : Scope} (h : s.scopes[k]? = some c)
    (cause : CancelCause) :
    ∃ line, s.cancel k cause = { s with
      scopes := s.scopes.set k { c with isCancelled := true }
      journal := s.journal ++ c.cancellation s.now k cause
      ready := s.ready ++ line } := by
  unfold cancel
  rw [h]
  cases hx : c.isCancelled with
  | true =>
    -- it was cancelled already, so the scope put back is the one that was there
    have hself : s.scopes.set k { c with isCancelled := true } = s.scopes := by
      obtain ⟨hk, hck⟩ := List.getElem?_eq_some_iff.1 h
      rw [← hx, ← hck, List.set_getElem_self]
    exact ⟨[], by simp [hx, hself, Scope.cancellation]⟩
  -- a live scope: its watcher is woken and then its task, each if it would notice
  | false =>
    obtain ⟨l, hl⟩ := wakeIf_eq
      ((s.setScope k { c with isCancelled := true }).tell [.cancelled s.now c.owner k cause])
      (((s.setScope k { c with isCancelled := true }).tell
        [.cancelled s.now c.owner k cause]).scopes[k]?.any Scope.isWatched) ⟨k, .watcher⟩
    simp only [hx, wakeWatcher, wakeTask, Bool.false_eq_true, if_false, hl]
    obtain ⟨l', hl'⟩ := wakeIf_eq
      { (s.setScope k { c with isCancelled := true }).tell [.cancelled s.now c.owner k cause] with
        ready := s.ready ++ l }
      ((s.scopes.set k { c with isCancelled := true })[k]?.any Scope.taskIsWaiting) ⟨k, .task⟩
    refine ⟨l ++ l', hl'.trans ?_⟩
    simp [setScope, tell, Scope.cancellation, hx]

/-- A scope that is not there cannot be cancelled. -/
theorem cancel_none {s : Keeper} {k : Nat} (h : s.scopes[k]? = none) (cause : CancelCause) :
    s.cancel k cause = s := by
  unfold cancel
  rw [h]

/-- A scope that begins is put at the end, with a subscription, and its workers are put in line. -/
theorem beginScope_eq (s : Keeper) (n : Nat) (r : Registrar) (i : Identity) :
    ∃ line, s.beginScope n r i = { s with
      registrars := s.registrars.set n (r.begin s.scopes.length i)
      scopes := s.scopes ++ [s.newScope n r i]
      subscriptions := s.subscriptions.subscribe
      ready := s.ready ++ line
      journal := s.journal ++ [.began s.now n s.scopes.length i,
        .logged (.enabled i r.pacing.retryInterval)] } := by
  obtain ⟨l, hl⟩ := wakeIf_eq s (s.scopes[s.scopes.length - 1]?.any Scope.isWatched)
    ⟨s.scopes.length - 1, .watcher⟩
  refine ⟨l ++ [⟨s.scopes.length, .watcher⟩, ⟨s.scopes.length, .task⟩], ?_⟩
  simp only [beginScope, wakeWatcher, hl]
  simp [setRegistrar, tell, newScope]

/-! ## A turn is a chain of deeds -/

/-- Putting back what is there changes nothing. -/
theorem put_self {s : Keeper} {k : Nat} {c : Scope} {r : Registrar} (hc : s.scopes[k]? = some c)
    (hr : s.registrars[c.owner]? = some r) : s.put k ⟨c, r, []⟩ = s := by
  obtain ⟨hk, hck⟩ := List.getElem?_eq_some_iff.1 hc
  obtain ⟨hn, hrn⟩ := List.getElem?_eq_some_iff.1 hr
  have hscopes : s.scopes.set k c = s.scopes := by rw [← hck, List.set_getElem_self]
  have hregistrars : s.registrars.set c.owner r = s.registrars := by
    rw [← hrn, List.set_getElem_self]
  simp [put, setScope, setRegistrar, tell, hscopes, hregistrars]

/-- What a worker puts back twice, it might as well put back once. -/
theorem put_put (s : Keeper) (k : Nat) (t : Turn) {c : Scope} (r : Registrar) (es : Journal)
    (h : c.owner = t.scope.owner) :
    (s.put k t).put k ⟨c, r, es⟩ = s.put k ⟨c, r, t.report ++ es⟩ := by
  simp [put, setScope, setRegistrar, tell, h]

section

variable {s : Keeper} {k : Nat} {t : Turn}

theorem put_scope (hk : k < s.scopes.length) : (s.put k t).scopes[k]? = some t.scope := by
  show (s.scopes.set k t.scope)[k]? = some t.scope
  rw [List.getElem?_set_self hk]

theorem put_registrar (hn : t.scope.owner < s.registrars.length) :
    (s.put k t).registrars[t.scope.owner]? = some t.registrar := by
  show (s.registrars.set t.scope.owner t.registrar)[t.scope.owner]? = some t.registrar
  rw [List.getElem?_set_self hn]

/-- One step of a task, put back, is a change.  The step may do nothing, and then there is no
    change at all. -/
theorem stepTask_changes (hk : k < s.scopes.length) (hn : t.scope.owner < s.registrars.length) :
    (t.stepTask s.now k).scope.owner = t.scope.owner ∧
      Changes (s.put k t) (s.put k (t.stepTask s.now k)) := by
  rcases Turn.stepTask_deed s.now k t with h | ⟨c, r, es, hd, h⟩
  · rw [h]
    exact ⟨rfl, .refl⟩
  · rw [h]
    refine ⟨hd.same.owner, .single ?_⟩
    rw [← put_put s k t r es hd.same.owner]
    exact .task (put_scope hk) (put_registrar hn) hd

/-- One step of a watcher, put back, is a change. -/
theorem stepWatcher_changes (found : Reception) (hk : k < s.scopes.length)
    (hn : t.scope.owner < s.registrars.length) :
    (t.stepWatcher s.now k found).scope.owner = t.scope.owner ∧
      Changes (s.put k t) (s.put k (t.stepWatcher s.now k found)) := by
  rcases Turn.stepWatcher_deed s.now k found t with h | ⟨c, r, es, hd, h⟩
  · rw [h]
    exact ⟨rfl, .refl⟩
  · rw [h]
    refine ⟨hd.same.owner, .single ?_⟩
    rw [← put_put s k t r es hd.same.owner]
    exact .watcher (put_scope hk) (put_registrar hn) hd

/-- Several steps of a task: induction on their number, one change after the other. -/
theorem stepsOfTask_changes (n : Nat) (hk : k < s.scopes.length)
    (hn : t.scope.owner < s.registrars.length) :
    (Turn.stepsOfTask s.now k n t).scope.owner = t.scope.owner ∧
      Changes (s.put k t) (s.put k (Turn.stepsOfTask s.now k n t)) := by
  induction n generalizing t with
  | zero => exact ⟨rfl, .refl⟩
  | succ n ih =>
    obtain ⟨howner, hfirst⟩ := stepTask_changes hk hn
    obtain ⟨howner', hrest⟩ := ih (t := t.stepTask s.now k) (howner ▸ hn)
    exact ⟨howner'.trans howner, hfirst.trans hrest⟩

end

section

variable {s : Keeper} {k : Nat} {c : Scope} {r : Registrar}

/-- After its turn a task puts back what it changed, and nothing else happens in its turn. -/
theorem taskTurn_eq (hc : s.scopes[k]? = some c) (hr : s.registrars[c.owner]? = some r) :
    s.taskTurn k c r = s.put k (Turn.runTask s.now k ⟨c, r, []⟩) ∧
      Changes s (s.put k (Turn.runTask s.now k ⟨c, r, []⟩)) := by
  have hk : k < s.scopes.length := (List.getElem?_eq_some_iff.1 hc).1
  have hn : c.owner < s.registrars.length := (List.getElem?_eq_some_iff.1 hr).1
  obtain ⟨howner, hsteps⟩ := stepsOfTask_changes (s := s) (k := k) (t := ⟨c, r, []⟩)
    (Turn.taskSteps ⟨c, r, []⟩) hk hn
  rw [put_self hc hr] at hsteps
  refine ⟨?_, hsteps⟩
  unfold taskTurn put Turn.runTask
  rw [howner]

theorem taskTurn_changes (hc : s.scopes[k]? = some c) (hr : s.registrars[c.owner]? = some r) :
    Changes s (s.taskTurn k c r) := by
  obtain ⟨hturn, hsteps⟩ := taskTurn_eq hc hr
  exact hturn ▸ hsteps

/-- The turn of a watcher keeps the owner of its scope. -/
theorem runWatcher_owner (now index : Nat) (found : Reception) (t : Turn) :
    (t.runWatcher now index found).scope.owner = t.scope.owner := by
  have hstep : ∀ (found : Reception) (t : Turn),
      (t.stepWatcher now index found).scope.owner = t.scope.owner := by
    intro found t
    rcases Turn.stepWatcher_deed now index found t with h | ⟨c, r, es, hd, h⟩
    · rw [h]
    · rw [h]
      exact hd.same.owner
  exact (hstep .pending _).trans (hstep found t)

/-- After its turn a watcher puts back what it changed, perhaps gives its subscription up, and
    wakes the task if it has cancelled the scope.  Which subscriptions come of it does not matter
    to a change, so they are left open. -/
theorem watcherTurn_eq (s : Keeper) (k : Nat) (c : Scope) (r : Registrar) :
    ∃ subscriptions,
      let t := Turn.runWatcher s.now k (s.subscriptions.reception k) ⟨c, r, []⟩
      let u : Keeper := { s.put k t with subscriptions := subscriptions }
      s.watcherTurn k c r =
        if c.isCancelled = false ∧ t.scope.isCancelled = true then u.wakeTask k else u := by
  generalize ht : Turn.runWatcher s.now k (s.subscriptions.reception k) ⟨c, r, []⟩ = t
  have howner : t.scope.owner = c.owner := by
    rw [← ht]
    exact runWatcher_owner _ _ _ _
  refine ⟨if c.isWatched && !t.scope.isWatched then s.subscriptions.drop k
    else s.subscriptions, ?_⟩
  unfold watcherTurn put
  simp only [ht, howner]
  generalize (c.isWatched && !t.scope.isWatched) = gives
  cases gives <;> cases c.isCancelled <;> cases t.scope.isCancelled <;> rfl

/-- The turn of a watcher: two steps, and one change aside. -/
theorem watcherTurn_changes (hc : s.scopes[k]? = some c) (hr : s.registrars[c.owner]? = some r) :
    Changes s (s.watcherTurn k c r) := by
  have hk : k < s.scopes.length := (List.getElem?_eq_some_iff.1 hc).1
  have hn : c.owner < s.registrars.length := (List.getElem?_eq_some_iff.1 hr).1
  obtain ⟨howner, hfirst⟩ := stepWatcher_changes (s := s) (k := k) (t := ⟨c, r, []⟩)
    (s.subscriptions.reception k) hk hn
  obtain ⟨-, hsecond⟩ := stepWatcher_changes (s := s) (k := k)
    (t := Turn.stepWatcher s.now k (s.subscriptions.reception k) ⟨c, r, []⟩) .pending hk
    (howner ▸ hn)
  rw [put_self hc hr] at hfirst
  -- the steps are changes; what else the turn does touches neither registrars, scopes nor journal
  refine (hfirst.trans hsecond).tail ?_
  obtain ⟨subscriptions, hturn⟩ := watcherTurn_eq s k c r
  rw [hturn]
  split
  · obtain ⟨line, hline⟩ := wakeIf_eq
      { s.put k (Turn.runWatcher s.now k (s.subscriptions.reception k) ⟨c, r, []⟩) with
        subscriptions := subscriptions } _ ⟨k, .task⟩
    exact .aside (by rw [wakeTask, hline]; rfl) (by rw [wakeTask, hline]; rfl)
      (by rw [wakeTask, hline]; rfl)
  · exact .aside rfl rfl rfl

theorem turn_changes (s : Keeper) (a : Actor) : Changes s (s.turn a) := by
  unfold turn
  split
  · exact .refl
  · rename_i c hc
    split
    · exact .refl
    · rename_i r hr
      split
      · exact taskTurn_changes hc hr
      · exact watcherTurn_changes hc hr

end

/-! ## A move is a chain of changes -/

/-- Enabling changes nothing if the registrar is dropped or enabled; otherwise it is refused, or
    a scope begins.  That it can begin is what the guard has left. -/
theorem enable_changes (s : Keeper) (n : Nat) : Changes s (s.enable n) := by
  unfold enable
  split
  · exact .refl
  · rename_i r hr
    split
    · exact .refl
    · rename_i hfree
      simp only [Bool.or_eq_true, not_or, Bool.not_eq_true, Registrar.isEnabled,
        Option.isSome_eq_false_iff, Option.isNone_iff_eq_none] at hfree
      split
      · exact .single (.refused hr (show r.acquiring.memory = r.memory from rfl) _)
      · exact .single (.refused hr (show r.acquiring.memory = r.memory from rfl) _)
      · exact .single (.refused hr (show r.acquiring.subscribing.memory = r.memory from rfl) _)
      · exact .single (.began hr (show r.acquiring.subscribing.memory = r.memory from rfl)
          hfree.1 hfree.2 _)

theorem disable_changes (s : Keeper) (n : Nat) : Changes s (s.disable n) := by
  unfold disable
  split
  · exact .refl
  · rename_i r hr
    split
    · rename_i k _ hc
      exact (Relation.ReflTransGen.single (.ended hr hc .disabled nofun)).tail
        (.logged .disabled)
    · exact .refl

/-- Dropping twice is dropping once.  With a scope it is an end from outside, without one only
    the mark is set. -/
theorem dropRegistrar_changes (s : Keeper) (n : Nat) : Changes s (s.dropRegistrar n) := by
  unfold dropRegistrar
  split
  · exact .refl
  · rename_i r hr
    split
    · exact .refl
    · split
      · rename_i hc
        exact .single (.retired hr hc)
      · rename_i k hc
        exact .single (.ended hr hc .dropped nofun)

theorem raise_changes (s : Keeper) (signal : TerminationSignal) : Changes s (s.raise signal) := by
  unfold raise
  split
  · obtain ⟨line, hline⟩ := wakeIf_eq
      { s with subscriptions := s.subscriptions.raise .manual signal }
      (s.scopes[s.scopes.length - 1]?.any Scope.isWatched) ⟨s.scopes.length - 1, .watcher⟩
    refine .single (.aside ?_ ?_ ?_) <;> rw [wakeWatcher, hline]
  · exact .refl

theorem supply_changes (s : Keeper) (n : Nat) (p : Provision) : Changes s (s.supply n p) := by
  unfold supply
  split
  · exact .refl
  · rename_i r hr
    exact .single (.supplied hr rfl)

/-- A step takes the first out of the line, which is a change aside, and then it is a turn. -/
theorem step_changes (s : Keeper) : Changes s s.step := by
  unfold step
  split
  · exact .refl
  · rename_i a rest _
    exact (Relation.ReflTransGen.single (.aside rfl rfl rfl)).trans
      (turn_changes { s with ready := rest } a)

/-- **Every move is a chain of changes.**  One case for each move, each by its own lemma; time
    touches only the clock and the line. -/
theorem move_changes (s : Keeper) (m : Move) : Changes s (s.move m) := by
  cases m with
  | enable n => exact enable_changes s n
  | disable n => exact disable_changes s n
  | drop n => exact dropRegistrar_changes s n
  | raise signal => exact raise_changes s signal
  | supply n p => exact supply_changes s n p
  | step => exact step_changes s
  | turn a => exact turn_changes s a
  | pass d =>
    obtain ⟨line, hline⟩ := advance_eq s (s.now + d.millis)
    refine .single (.aside ?_ ?_ ?_) <;> rw [move, hline]

/-- **A run is a chain of changes**: the chains of its moves, one after the other. -/
theorem Reaches.changes {s t : Keeper} (h : Reaches s t) : Changes s t := by
  induction h with
  | refl => exact .refl
  | move _ m ih => exact ih.trans (move_changes _ m)

end Keeper

end LeaseKeeper

/-
  One turn, seen under two numberings.

  What a worker does in its turn depends on its scope, its registrar and the time, and on a signal
  if there is one, but not on the number of its scope: that number only appears in what is
  reported and in what the registrar remembers.  So two turns that MIRROR each other at the start
  do so at the end (`Turn.Mirrors.runTask`, `Turn.Mirrors.runWatcher`).  The lemmas follow the
  functions of `Turn` one by one, so a function that changes takes one lemma with it.

  What is compared is what a journal shows of one registrar (`Journal.Agree`): its calls, each
  with its time, and its requests to end the process.  The numbers of scopes are left out of it,
  since they are what differs.

  It is the signal that would break the mirror: it goes to the newest subscription of all, and
  that may be another registrar's.  So the second part is about states of a run in which no signal
  lies in any subscription (`Keeper.NoSignalWaits`).  Then a turn puts nobody in line, and a
  watcher whose scope is not cancelled does nothing in its turn.
-/
import LeaseKeeper.Proofs.Lifecycle.Deregistration
import LeaseKeeper.Proofs.Lifecycle.Exits

namespace LeaseKeeper

/-! ## What a journal shows of one registrar -/

namespace Journal

/-- **The calls of a registrar**, with the times at which they started and in whose name. -/
def calls (j : Journal) (registrar : Nat) : List (Nat × RegistryCall × Identity) :=
  j.filterMap fun e => match e with
    | .called t r _ call i => if r = registrar then some (t, call, i) else none
    | _ => none

/-- The calls come one after the other. -/
theorem calls_append (j es : Journal) (n : Nat) :
    (j ++ es : Journal).calls n = j.calls n ++ es.calls n := List.filterMap_append

/-- **Two journals agree** on the calls of registrar number `n` and on what it asked of the
    process.  On anything else they may differ: on the calls of others, on the numbers of scopes,
    on log lines. -/
structure Agree (n : Nat) (j j' : Journal) : Prop where
  exits : j'.exits n = j.exits n
  calls : j'.calls n = j.calls n

section

variable {n : Nat} {j j' es es' : Journal}

theorem Agree.refl (n : Nat) (j : Journal) : Agree n j j := ⟨rfl, rfl⟩

/-- Journals that agree can be continued by journals that agree. -/
theorem Agree.append (h : Agree n j j') (hes : Agree n es es') :
    Agree n (j ++ es) (j' ++ es') := by
  constructor
  · rw [exits_append, exits_append, h.exits, hes.exits]
  · rw [calls_append, calls_append, h.calls, hes.calls]

/-- What shows nothing of the registrar may be written on one side only. -/
theorem Agree.append_left (h : Agree n j j') (hes : Agree n es []) : Agree n (j ++ es) j' := by
  have hboth := h.append hes
  rw [List.append_nil] at hboth
  exact hboth

end

end Journal

section

variable {now k n : Nat} {found : Reception} {c c' : Scope} {r r' : Registrar} {es : Journal}

/-- A task shows nothing of other registrars: its entries name its own, or nobody. -/
theorem TaskDeed.hidden (h : TaskDeed now k c r c' r' es) (hn : c.owner ≠ n) :
    Journal.Agree n es [] := by
  have hreset : Journal.Agree n c.gaugeReset [] := by
    unfold Scope.gaugeReset
    split <;> exact ⟨rfl, rfl⟩
  cases h with
  | stopped => exact hreset
  | started => constructor <;> simp [Journal.exits, Journal.calls, hn]
  | discarded => exact ⟨hreset.exits, hreset.calls⟩
  | @concluded due call failure => cases call <;> cases failure <;> exact ⟨rfl, rfl⟩

/-- Nor does a watcher. -/
theorem WatcherDeed.hidden (h : WatcherDeed now k found c r c' r' es) (hn : c.owner ≠ n) :
    Journal.Agree n es [] := by
  cases h with
  | signalled => constructor <;> simp [Journal.exits, Journal.calls, hn]
  | began => constructor <;> simp [Journal.exits, Journal.calls, hn]
  | @ended due failure signalled =>
    cases signalled <;> constructor <;> simp [Journal.exits, Journal.calls, hn]

end

/-- The turn of a worker shows nothing of other registrars: a task by induction on its steps, a
    watcher in the two steps of its turn. -/
theorem Turn.run_hidden (now k : Nat) (found : Reception) (w : Worker) {c : Scope} {n : Nat}
    (r : Registrar) (hn : c.owner ≠ n) :
    Journal.Agree n (Turn.run now k found w ⟨c, r, []⟩).report [] := by
  cases w with
  | task =>
    show Journal.Agree n (stepsOfTask now k (taskSteps ⟨c, r, []⟩) ⟨c, r, []⟩).report []
    generalize taskSteps ⟨c, r, []⟩ = m
    have hsteps : ∀ t : Turn, t.scope.owner ≠ n → Journal.Agree n t.report [] →
        Journal.Agree n (stepsOfTask now k m t).report [] := by
      induction m with
      | zero => exact fun t _ ht => ht
      | succ m ih =>
        intro t hother ht
        -- in a step it does nothing, or one deed of its own scope
        rcases stepTask_deed now k t with hidle | ⟨c', r', es, hd, hstep⟩
        · show Journal.Agree n (stepsOfTask now k m (t.stepTask now k)).report []
          rw [hidle]
          exact ih t hother ht
        · show Journal.Agree n (stepsOfTask now k m (t.stepTask now k)).report []
          rw [hstep]
          refine ih _ ?_ (ht.append_left (hd.hidden hother))
          show c'.owner ≠ n
          rw [hd.same.owner]
          exact hother
    exact hsteps _ hn (.refl n [])
  | watcher =>
    have hkept : (runWatcher now k found ⟨c, r, []⟩).scope.owner ≠ n ∧
        Journal.Agree n (runWatcher now k found ⟨c, r, []⟩).report [] := by
      refine runWatcher_keeps (fun t => t.scope.owner ≠ n ∧ Journal.Agree n t.report []) ?_
        ⟨hn, .refl n []⟩
      rintro found t ⟨hother, ht⟩
      rcases stepWatcher_deed now k found t with hidle | ⟨c', r', es, hd, hstep⟩
      · rw [hidle]
        exact ⟨hother, ht⟩
      · rw [hstep]
        refine ⟨?_, ht.append_left (hd.hidden hother)⟩
        show c'.owner ≠ n
        rw [hd.same.owner]
        exact hother
    exact hkept.2

/-! ## Turns that mirror each other -/

/-- The registrar, when scopes go by other numbers.  It remembers one scope by its number, and
    nothing else of it refers to scopes. -/
def Registrar.renumbered (f : Nat → Nat) (r : Registrar) : Registrar :=
  { r with current := r.current.map f }

/-- Letting go of a scope does not depend on its number: what counts is how many scopes were
    started. -/
theorem Registrar.renumbered_release (f : Nat → Nat) (r : Registrar) (count : Nat) :
    (r.renumbered f).release count = (r.release count).renumbered f := by
  unfold release
  by_cases h : r.scopeCount = count
  · rw [if_pos h, if_pos (show (r.renumbered f).scopeCount = count from h)]
    rfl
  · rw [if_neg h, if_neg (show (r.renumbered f).scopeCount ≠ count from h)]

namespace Turn

/-- **One turn mirrors another**: they differ in the numbers of scopes, and perhaps in what they
    report of others than registrar number `n`.  The scope itself is the same, since it does not
    know its number. -/
structure Mirrors (n : Nat) (f : Nat → Nat) (t u : Turn) : Prop where
  scope : u.scope = t.scope
  registrar : u.registrar = t.registrar.renumbered f
  report : Journal.Agree n t.report u.report

section

variable {n now k j : Nat} {f : Nat → Nat} {t u : Turn}

/-- Telling what agrees. -/
theorem Mirrors.tell (h : t.Mirrors n f u) {es es' : Journal} (hes : Journal.Agree n es es') :
    (t.tell es).Mirrors n f (u.tell es') := ⟨h.scope, h.registrar, h.report.append hes⟩

/-- Telling the same. -/
theorem Mirrors.tell_same (h : t.Mirrors n f u) (es : Journal) :
    (t.tell es).Mirrors n f (u.tell es) := h.tell (.refl n es)

/-- The task goes on to its next phase. -/
theorem Mirrors.enter (h : t.Mirrors n f u) (phase : TaskPhase) :
    (t.enter phase).Mirrors n f (u.enter phase) :=
  ⟨congrArg (fun c : Scope => { c with task := phase }) h.scope, h.registrar, h.report⟩

/-- The watcher goes on to its next phase. -/
theorem Mirrors.enterWatch (h : t.Mirrors n f u) (phase : WatcherPhase) :
    (t.enterWatch phase).Mirrors n f (u.enterWatch phase) :=
  ⟨congrArg (fun c : Scope => { c with watcher := phase }) h.scope, h.registrar, h.report⟩

/-- A call starts, in the name of the same registrar and at the same time. -/
theorem Mirrors.start (h : t.Mirrors n f u) (call : RegistryCall) :
    (t.start now k call).Mirrors n f (u.start now j call) := by
  refine ⟨h.scope, congrArg (fun r : Registrar => r.withRegistry (r.registry.called call))
    h.registrar, h.report.append ?_⟩
  show Journal.Agree n [.called now t.scope.owner k call t.scope.identity]
    [.called now u.scope.owner j call u.scope.identity]
  rw [h.scope]
  exact ⟨rfl, rfl⟩

/-- A call ends, and the registry takes note of it. -/
theorem Mirrors.answer (h : t.Mirrors n f u) (call : RegistryCall) (failure : Option String) :
    (t.answer now k call failure).Mirrors n f (u.answer now j call failure) :=
  ⟨h.scope, congrArg (fun r : Registrar => r.withRegistry (r.registry.answered call failure))
    h.registrar, h.report.append ⟨rfl, rfl⟩⟩

/-- A task stops. -/
theorem Mirrors.stop (h : t.Mirrors n f u) : t.stop.Mirrors n f u.stop := by
  unfold Turn.stop
  rw [h.scope]
  exact (h.tell_same _).enter _

/-- What a task makes of a result: nothing after a cancellation, and otherwise what its scope and
    its registrar tell it. -/
theorem Mirrors.conclude (h : t.Mirrors n f u) (call : TaskCall) (failure : Option String) :
    (t.conclude now call failure).Mirrors n f (u.conclude now call failure) := by
  cases hx : t.scope.isCancelled with
  | true =>
    rw [conclude_cancelled _ _ _ t hx, conclude_cancelled _ _ _ u (by rw [h.scope]; exact hx)]
    exact h.stop
  | false =>
    rw [conclude_eq _ _ _ t hx, conclude_eq _ _ _ u (by rw [h.scope]; exact hx), h.scope,
      h.registrar]
    exact ⟨rfl, rfl, h.report.append (.refl n _)⟩

/-- **A step of the task.**  The outcome of a call is the next one of the registry, which is the
    same on both sides. -/
theorem Mirrors.stepTask (h : t.Mirrors n f u) :
    (t.stepTask now k).Mirrors n f (u.stepTask now j) := by
  unfold Turn.stepTask
  rw [h.scope]
  cases t.scope.task with
  | waiting due call =>
    have houtcome : u.outcome call.call = t.outcome call.call := by
      unfold Turn.outcome
      rw [h.registrar]
      rfl
    dsimp only
    split
    · -- it is cancelled
      exact h.stop
    · split
      · -- it is not time yet
        exact h
      · -- a call starts
        rw [houtcome]
        exact (h.start _).enter _
  | calling due call failure =>
    dsimp only
    split
    · -- the call goes on
      exact h
    · -- the call has ended
      exact (h.answer _ _).conclude _ _
  | stopped => exact h

/-- Several steps of the task, by induction on their number. -/
theorem Mirrors.stepsOfTask (h : t.Mirrors n f u) (m : Nat) :
    (Turn.stepsOfTask now k m t).Mirrors n f (Turn.stepsOfTask now j m u) := by
  induction m generalizing t u with
  | zero => exact h
  | succ m ih => exact ih h.stepTask

/-- **The turn of a task**: it takes as many steps on both sides. -/
theorem Mirrors.runTask (h : t.Mirrors n f u) :
    (t.runTask now k).Mirrors n f (u.runTask now j) := by
  have hsteps : u.taskSteps = t.taskSteps := by
    unfold Turn.taskSteps
    rw [h.registrar]
    rfl
  unfold Turn.runTask
  rw [hsteps]
  exact h.stepsOfTask _

/-- A deregistration starts. -/
theorem Mirrors.beginDeregistration (h : t.Mirrors n f u) (signalled : Bool) :
    (t.beginDeregistration now k signalled).Mirrors n f
      (u.beginDeregistration now j signalled) := by
  have houtcome : u.outcome .deregister = t.outcome .deregister := by
    unfold Turn.outcome
    rw [h.registrar]
    rfl
  unfold Turn.beginDeregistration
  rw [houtcome]
  exact (h.start _).enterWatch _

/-- The registrar lets go of the scope: on both sides if the scope is the newest one. -/
theorem Mirrors.release (h : t.Mirrors n f u) :
    (t.release now k).Mirrors n f (u.release now j) := by
  refine ⟨h.scope, ?_, h.report.append ⟨rfl, rfl⟩⟩
  show u.registrar.release u.scope.count = _
  rw [h.scope, h.registrar]
  exact Registrar.renumbered_release ..

/-- A watcher that has a signal to answer for asks the process to end. -/
theorem Mirrors.askToEnd (h : t.Mirrors n f u) (signalled : Bool) :
    (t.askToEnd signalled).Mirrors n f (u.askToEnd signalled) := by
  unfold Turn.askToEnd
  rw [h.scope]
  exact h.tell_same _

/-- A deregistration ends: its result is told, the scope is let go of, and the process may be
    asked to end. -/
theorem Mirrors.endDeregistration (h : t.Mirrors n f u) (failure : Option String)
    (signalled : Bool) :
    (t.endDeregistration now k failure signalled).Mirrors n f
      (u.endDeregistration now j failure signalled) := by
  have hanswer : (t.answer now k .deregister failure).Mirrors n f
      (u.answer now j .deregister failure) := h.answer _ _
  have hidentity : u.identity = t.identity := congrArg Scope.identity h.scope
  unfold Turn.endDeregistration
  rw [hidentity]
  exact (((hanswer.tell_same _).release).askToEnd _).enterWatch _

/-- **A step of the watcher**, where no signal is found.  What is found need not be the same on
    both sides, as long as it is no signal. -/
theorem Mirrors.stepWatcher (h : t.Mirrors n f u) {found found' : Reception}
    (hf : ∀ signal, found ≠ .signal signal) (hf' : ∀ signal, found' ≠ .signal signal) :
    (t.stepWatcher now k found).Mirrors n f (u.stepWatcher now j found') := by
  unfold Turn.stepWatcher
  rw [h.scope]
  cases t.scope.watcher with
  | watching =>
    dsimp only
    split
    · -- the scope is cancelled
      exact h.beginDeregistration _
    · split
      · -- a signal is found
        exact absurd rfl (hf _)
      · -- there is nothing to do
        exact h
  | deregistering due failure signalled =>
    dsimp only
    split
    · -- the call goes on
      exact h
    · -- the call has ended
      exact h.endDeregistration _ _
  | finished => exact h

/-- **The turn of a watcher**, where no signal is found: two steps, of which the second finds
    nothing. -/
theorem Mirrors.runWatcher (h : t.Mirrors n f u) {found found' : Reception}
    (hf : ∀ signal, found ≠ .signal signal) (hf' : ∀ signal, found' ≠ .signal signal) :
    (t.runWatcher now k found).Mirrors n f (u.runWatcher now j found') :=
  (h.stepWatcher hf hf').stepWatcher nofun nofun

/-- **The turn of a worker**, where no signal is found. -/
theorem Mirrors.run (h : t.Mirrors n f u) {found found' : Reception}
    (hf : ∀ signal, found ≠ .signal signal) (hf' : ∀ signal, found' ≠ .signal signal)
    (w : Worker) : (t.run now k found w).Mirrors n f (u.run now j found' w) := by
  cases w with
  | task => exact h.runTask
  | watcher => exact h.runWatcher hf hf'

end

/-- A worker that finds no signal does not cancel its scope: a task never does, and a watcher
    does it only because of a signal. -/
theorem run_isCancelled (now k : Nat) {found : Reception} (hf : ∀ signal, found ≠ .signal signal)
    (w : Worker) (c : Scope) (r : Registrar) :
    (run now k found w ⟨c, r, []⟩).scope.isCancelled = c.isCancelled := by
  cases w with
  | task => exact (congrArg Scope.isCancelled (runTask_scope now k c r) :)
  | watcher =>
    have hdeed : ∀ {found : Reception} {c c' : Scope} {r r' : Registrar} {es : Journal},
        WatcherDeed now k found c r c' r' es → (∀ signal, found ≠ .signal signal) →
          c'.isCancelled = c.isCancelled := by
      intro found c c' r r' es hd hf
      cases hd with
      | signalled _ _ hfound => exact absurd hfound (hf _)
      | began => rfl
      | ended => rfl
    show (runWatcher now k found ⟨c, r, []⟩).scope.isCancelled = _
    rcases runWatcher_deeds (rfl : runWatcher now k found ⟨c, r, []⟩ = _) with
      ⟨h, -⟩ | ⟨c₁, r₁, es₁, hd, h | ⟨c₂, r₂, es₂, hd', h⟩⟩
    · -- the watcher did nothing
      rw [h]
    · -- it did one deed
      rw [h]
      exact hdeed hd hf
    · -- it did two deeds
      rw [h]
      exact (hdeed hd' nofun).trans (hdeed hd hf)

/-- **A watcher of a scope that is not cancelled does nothing** if it finds no signal, whatever
    else it finds. -/
theorem runWatcher_idle (now k : Nat) {found : Reception} (hf : ∀ signal, found ≠ .signal signal)
    {c : Scope} (hw : c.watcher = .watching) (hx : c.isCancelled = false) (r : Registrar) :
    runWatcher now k found ⟨c, r, []⟩ = ⟨c, r, []⟩ := by
  have hstep : ∀ found : Reception, (∀ signal, found ≠ .signal signal) →
      stepWatcher now k found ⟨c, r, []⟩ = ⟨c, r, []⟩ := by
    intro found hf
    cases found with
    | signal signal => exact absurd rfl (hf signal)
    | pending | closed | dropped =>
      unfold stepWatcher
      simp only [hw, hx, Bool.false_eq_true, if_false]
  have hpending : ∀ signal, Reception.pending ≠ .signal signal := by
    intro signal hsignal
    cases hsignal
  rw [runWatcher, hstep found hf, hstep .pending hpending]

end Turn

/-! ## No signal waits -/

/-- **No mailbox holds a signal.** -/
def Subscriptions.Empty (s : Subscriptions) : Prop :=
  ∀ (k : Nat) (b : Mailbox), s.mailboxes[k]? = some b → b.held = none

namespace Subscriptions

variable {s : Subscriptions}

/-- Changing one mailbox, if that puts no signal in it. -/
theorem Empty.modify (h : s.Empty) (number : Nat) {f : Mailbox → Mailbox}
    (hf : ∀ b : Mailbox, b.held = none → (f b).held = none) : (s.modify number f).Empty := by
  intro k b hb
  have hk : k < s.mailboxes.length := by
    have := (List.getElem?_eq_some_iff.1 hb).1
    rwa [show (s.modify number f).mailboxes.length = s.mailboxes.length from
      List.length_modify ..] at this
  have hold := List.getElem?_eq_getElem hk
  obtain rfl := Option.some.inj ((modify_mailbox hold number f).symm.trans hb)
  split
  · exact hf _ (h k _ hold)
  · exact h k _ hold

/-- A new subscription: the newest one is closed, and another is put behind it, with nothing in
    it. -/
theorem Empty.subscribe (h : s.Empty) : s.subscribe.Empty := by
  have hclosed : (s.modifyNewest Mailbox.close).Empty := h.modify _ fun _ hb => hb
  intro k b hb
  by_cases hk : k < (s.modifyNewest Mailbox.close).mailboxes.length
  · exact hclosed k b ((List.getElem?_append_left hk).symm.trans hb)
  · rw [show s.subscribe.mailboxes[k]? = _ from
      List.getElem?_append_right (Nat.le_of_not_lt hk)] at hb
    obtain ⟨_, hfresh⟩ := List.getElem?_eq_some_iff.1 hb
    rw [← hfresh, List.getElem_singleton]
    rfl

/-- A subscription that is given up. -/
theorem Empty.drop (h : s.Empty) (number : Nat) : (s.drop number).Empty :=
  h.modify _ fun _ _ => rfl

/-- No signal is found. -/
theorem Empty.reception (h : s.Empty) (k : Nat) (signal : TerminationSignal) :
    s.reception k ≠ .signal signal := by
  unfold Subscriptions.reception
  cases hb : s.mailboxes[k]? with
  | none => exact nofun
  | some b =>
    intro hfound
    have hheld := Mailbox.reception_eq_signal.1 hfound
    rw [h k b hb] at hheld
    cases hheld

end Subscriptions

namespace Keeper

/-- **A state of a run in which no signal waits to be found.**  It is a state of a run besides,
    as what is known of those is needed along with it. -/
structure NoSignalWaits (s : Keeper) : Prop where
  reachable : s.Reachable
  empty : s.subscriptions.Empty

section

variable {s : Keeper}

/-- At the start there are no subscriptions at all. -/
theorem noSignalWaits_start {registrars : List Registrar} (h : ∀ r ∈ registrars, r.IsNew) :
    NoSignalWaits { registrars := registrars } := ⟨reachable_start h, nofun⟩

/-- **Whatever happens but a signal, no signal waits**: one case for each move, and only few of
    them touch the subscriptions. -/
theorem NoSignalWaits.move (h : s.NoSignalWaits) {m : Move} (hm : ∀ signal, m ≠ .raise signal) :
    (s.move m).NoSignalWaits := by
  refine ⟨h.reachable.move m, ?_⟩
  have hmoved := s.moved m
  generalize s.move m = s' at hmoved ⊢
  cases hmoved with
  | idle => exact h.empty
  | failed => exact h.empty
  | began _ _ _ i =>
    -- a subscription is added
    obtain ⟨line, hline⟩ := beginScope_eq s _ _ i
    rw [hline]
    exact h.empty.subscribe
  | @ended m n k r cause rest =>
    -- cancelling a scope leaves its subscription alone
    have hsame : (((s.setRegistrar n (r.ending cause)).cancel k cause).tell rest).subscriptions =
        s.subscriptions := by
      show ((s.setRegistrar n (r.ending cause)).cancel k cause).subscriptions = _
      cases hk : (s.setRegistrar n (r.ending cause)).scopes[k]? with
      | none => rw [cancel_none hk]; rfl
      | some c =>
        obtain ⟨line, hline⟩ := cancel_eq hk cause
        rw [hline]
        rfl
    rw [hsame]
    exact h.empty
  | retired => exact h.empty
  | raised signal => exact absurd rfl (hm signal)
  | supplied => exact h.empty
  | @turned m a line =>
    -- a watcher that stops watching gives its subscription up
    generalize hu : ({ s with ready := line } : Keeper) = u
    have hempty : u.subscriptions.Empty := by
      rw [← hu]
      exact h.empty
    rcases turn_cases u a with hself | ⟨c, r, hc, hr⟩
    · rw [hself]
      exact hempty
    · rw [turn_subscriptions hc hr]
      split
      · exact hempty
      · split
        · exact hempty.drop _
        · exact hempty
  | passed d =>
    obtain ⟨line, hline⟩ := advance_eq s (s.now + d.millis)
    rw [hline]
    exact h.empty

theorem NoSignalWaits.step (h : s.NoSignalWaits) : s.step.NoSignalWaits := h.move (m := .step) nofun

theorem NoSignalWaits.steps (h : s.NoSignalWaits) (m : Nat) : (Keeper.steps m s).NoSignalWaits := by
  induction m generalizing s with
  | zero => exact h
  | succ m ih => exact ih h.step

/-- Everybody in line takes a turn. -/
theorem NoSignalWaits.settle (h : s.NoSignalWaits) : s.settle.NoSignalWaits := h.steps _

/-- Time passes. -/
theorem NoSignalWaits.advance (h : s.NoSignalWaits) {time : Nat} (hnow : s.now ≤ time) :
    (s.advance time).NoSignalWaits := by
  have hmove : s.move (.pass ⟨time - s.now⟩) = s.advance time := by
    show s.advance (s.now + (time - s.now)) = _
    rw [Nat.add_sub_cancel' hnow]
  exact hmove ▸ h.move (m := .pass ⟨time - s.now⟩) nofun

/-- Several moves that nobody makes from outside: induction on them. -/
theorem NoSignalWaits.after (h : s.NoSignalWaits) {ms : List Move}
    (hms : ∀ m ∈ ms, m.isInner = true) : (s.after ms).NoSignalWaits := by
  induction ms generalizing s with
  | nil => exact h
  | cons m ms ih =>
    have hm := hms m (List.mem_cons_self ..)
    refine ih (h.move fun signal hraise => ?_) fun m' hm' => hms m' (List.mem_cons_of_mem _ hm')
    rw [hraise] at hm
    cases hm

/-- A sleep is made of such moves. -/
theorem NoSignalWaits.sleep (h : s.NoSignalWaits) (d : Duration) : (s.sleep d).NoSignalWaits := by
  obtain ⟨ms, -, hinner, hsleep⟩ := sleep_timely s d
  rw [← hsleep]
  exact h.after hinner

/-- **Where no signal waits, a turn puts nobody in line**: whoever would be put there is the task
    of a scope that the watcher has cancelled in this turn. -/
theorem NoSignalWaits.turn_eq (h : s.subscriptions.Empty) {a : Actor} {c : Scope} {r : Registrar}
    (hc : s.scopes[a.scope]? = some c) (hr : s.registrars[c.owner]? = some r) :
    ∃ subscriptions, s.turn a =
      { s.put a.scope (s.worked a c r) with subscriptions := subscriptions } := by
  obtain ⟨subscriptions, line, hturn, hlength, -⟩ := Keeper.turn_eq hc hr
  have hcancelled : (s.worked a c r).scope.isCancelled = c.isCancelled :=
    Turn.run_isCancelled _ _ (h.reception _) a.worker c r
  have hnil : line = [] := by
    rw [hcancelled] at hlength
    exact List.eq_nil_of_length_eq_zero (by omega)
  refine ⟨subscriptions, ?_⟩
  rw [hturn, hnil, List.append_nil]
  rfl

/-- A watcher that is woken has been in line already if its scope is cancelled, so nothing
    changes. -/
theorem Reachable.wakeWatcher_cancelled (h : s.Reachable) {k : Nat}
    (hx : ∀ c, s.scopes[k]? = some c → c.isCancelled = true) : s.wakeWatcher k = s := by
  unfold wakeWatcher wakeIf
  split
  · rename_i hwatched
    obtain ⟨c, hc, hw⟩ := (Option.any_eq_true _ _).1 hwatched
    obtain ⟨b, hb⟩ := h.posted.mailbox hc
    exact if_pos (h.alert hc hb hw (.inl (hx c hc)))
  · rfl

end

end Keeper

end LeaseKeeper

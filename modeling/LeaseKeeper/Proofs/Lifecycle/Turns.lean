/-
  Turns, the line, and time.

  A turn changes the scope of the one who takes it and no other, keeps the clock, and makes the
  line longer by at most the task of a scope that it cancels (`turn_eq`).  Two things follow:

    * letting everybody in line take a turn empties the line (`settle_ready`): every step shortens
      the line, or cancels a scope and puts one worker in line for it;

    * `Keeper.sleep` is made of moves (`Reaches.sleep`), so whatever holds in every reachable
      state holds between any two operations.  The last thing that happens in it is that everybody
      takes a turn and then the clock moves to the target (`sleep_eq`).

  The first is an argument about a measure, the length of the line and the number of live scopes
  together: the crux is that a turn pays for each worker it wakes with a scope that is live no
  more (`turn_line`).  So the fuel of `settle` and of `sleep` is enough, and no theorem about them
  has to speak of it.
-/
import LeaseKeeper.Proofs.Lifecycle.Record

namespace LeaseKeeper

/-! ## What a worker leaves alone in its turn -/

namespace Turn

variable {now index : Nat} {found : Reception} {t : Turn}

/-- Steps of a task change nothing of the scope but the phase of the task, and nothing that the
    registrar remembers.  Induction on the number of steps; each is a deed of the task or
    nothing. -/
theorem stepsOfTask_keeps (now index n : Nat) (t : Turn) :
    (stepsOfTask now index n t).scope =
      { t.scope with task := (stepsOfTask now index n t).scope.task } ∧
    (stepsOfTask now index n t).registrar.memory = t.registrar.memory := by
  induction n generalizing t with
  | zero => exact ⟨rfl, rfl⟩
  | succ n ih =>
    have hstep : (t.stepTask now index).scope =
        { t.scope with task := (t.stepTask now index).scope.task } ∧
        (t.stepTask now index).registrar.memory = t.registrar.memory := by
      rcases stepTask_deed now index t with h | ⟨c, r, es, hd, h⟩
      · rw [h]
        exact ⟨rfl, rfl⟩
      · rw [h]
        exact ⟨hd.scope_eq, hd.memory_eq⟩
    obtain ⟨hscope, hmemory⟩ := ih (t.stepTask now index)
    refine ⟨hscope.trans ?_, hmemory.trans hstep.2⟩
    rw [hstep.1]
    rfl

/-- What one step of a watcher keeps, its turn keeps: it is two steps.  The first may find a
    signal and the second finds none, so the hypothesis is for any finding. -/
theorem runWatcher_keeps (Holds : Turn → Prop)
    (step : ∀ found u, Holds u → Holds (u.stepWatcher now index found)) (h : Holds t) :
    Holds (t.runWatcher now index found) := step .pending _ (step found _ h)

/-- A watcher leaves the phase of the task alone. -/
theorem runWatcher_task (t : Turn) :
    (t.runWatcher now index found).scope.task = t.scope.task := by
  refine runWatcher_keeps (fun u => u.scope.task = t.scope.task) ?_ rfl
  intro found u hu
  rcases stepWatcher_deed now index found u with h | ⟨c, r, es, hd, h⟩
  · rw [h]
    exact hu
  · rw [h]
    exact hd.task_eq.trans hu

/-- No watcher revives a scope in its turn. -/
theorem runWatcher_cancelled (h : t.scope.isCancelled = true) :
    (t.runWatcher now index found).scope.isCancelled = true := by
  refine runWatcher_keeps (fun u => u.scope.isCancelled = true) ?_ h
  intro found u hu
  rcases stepWatcher_deed now index found u with h | ⟨c, r, es, hd, h⟩
  · rw [h]
    exact hu
  · rw [h]
    exact hd.stays_cancelled hu

/-- **The turn of a worker**, by who it is.  Only a watcher looks at what its subscription holds. -/
def run (now index : Nat) (found : Reception) : Worker → Turn → Turn
  | .task, t => t.runTask now index
  | .watcher, t => t.runWatcher now index found

/-- **What every deed does to the registrar, a turn does**: by induction on the steps.  The
    relation has to be reflexive, for steps that do nothing, and transitive. -/
theorem run_registrar (Becomes : Registrar → Registrar → Prop) (refl : ∀ r, Becomes r r)
    (trans : ∀ {r r' r''}, Becomes r r' → Becomes r' r'' → Becomes r r'')
    (task : ∀ {now index c r c' r' es}, TaskDeed now index c r c' r' es → Becomes r r')
    (watcher : ∀ {now index found c r c' r' es}, WatcherDeed now index found c r c' r' es →
      Becomes r r') (now index : Nat) (found : Reception) (w : Worker) (t : Turn) :
    Becomes t.registrar (t.run now index found w).registrar := by
  cases w with
  | task =>
    show Becomes t.registrar (stepsOfTask now index t.taskSteps t).registrar
    generalize t.taskSteps = n
    induction n generalizing t with
    | zero => exact refl _
    | succ n ih =>
      refine trans ?_ (ih (t.stepTask now index))
      rcases stepTask_deed now index t with h | ⟨c, r, es, hd, h⟩
      · rw [h]
        exact refl _
      · rw [h]
        exact task hd
  | watcher =>
    refine runWatcher_keeps (fun u => Becomes t.registrar u.registrar) ?_ (refl _)
    intro found u hu
    rcases stepWatcher_deed now index found u with h | ⟨c, r, es, hd, h⟩
    · rw [h]
      exact hu
    · rw [h]
      exact trans hu (watcher hd)

/-- A cancelled scope stays cancelled, whoever takes a turn. -/
theorem run_cancelled (w : Worker) (h : t.scope.isCancelled = true) :
    (t.run now index found w).scope.isCancelled = true := by
  cases w with
  | task =>
    show (stepsOfTask now index t.taskSteps t).scope.isCancelled = true
    rw [(stepsOfTask_keeps now index t.taskSteps t).1]
    exact h
  | watcher => exact runWatcher_cancelled h

end Turn

namespace Keeper

/-! ## What a turn changes -/

section

variable {s : Keeper} {a : Actor} {c : Scope} {r : Registrar}

/-- What a worker makes of its scope in its turn.  The report begins empty, so it is what is
    written in this turn. -/
def worked (s : Keeper) (a : Actor) (c : Scope) (r : Registrar) : Turn :=
  Turn.run s.now a.scope (s.subscriptions.reception a.scope) a.worker ⟨c, r, []⟩

/-- **A turn** puts back what the worker changed, and may change subscriptions.  It puts nobody
    in line, unless it cancels the scope: then the task of the scope, if that is waiting.  The
    inequality counts this: who is put in line, and whether the scope was cancelled before,
    against whether it is now. -/
theorem turn_eq (hc : s.scopes[a.scope]? = some c) (hr : s.registrars[c.owner]? = some r) :
    ∃ subscriptions line,
      s.turn a = { s.put a.scope (s.worked a c r) with
        subscriptions := subscriptions
        ready := s.ready ++ line } ∧
      line.length + c.isCancelled.toNat ≤ (s.worked a c r).scope.isCancelled.toNat ∧
      (c.isCancelled = false → (s.worked a c r).scope.isCancelled = true →
        (s.worked a c r).scope.taskIsWaiting = true → ⟨a.scope, .task⟩ ∈ s.ready ++ line) := by
  obtain ⟨k, w⟩ := a
  replace hc : s.scopes[k]? = some c := hc
  cases w with
  | task =>
    -- a task cancels nothing
    have hturn : s.turn ⟨k, .task⟩ = s.taskTurn k c r := by simp only [turn, hc, hr]
    have hcancelled : (Turn.runTask s.now k ⟨c, r, []⟩).scope.isCancelled = c.isCancelled := by
      show (Turn.stepsOfTask s.now k _ ⟨c, r, []⟩).scope.isCancelled = _
      rw [(Turn.stepsOfTask_keeps _ _ _ _).1]
    refine ⟨s.subscriptions, [], ?_, ?_, ?_⟩
    · rw [hturn, (taskTurn_eq hc hr).1, List.append_nil]
      rfl
    · show 0 + c.isCancelled.toNat ≤ (Turn.runTask s.now k ⟨c, r, []⟩).scope.isCancelled.toNat
      exact Nat.le_of_eq (by rw [hcancelled, Nat.zero_add])
    · intro hlive hx
      rw [show (Turn.runTask s.now k ⟨c, r, []⟩).scope.isCancelled = true from hx] at hcancelled
      rw [hlive] at hcancelled
      cases hcancelled
  | watcher =>
    -- a watcher may cancel its scope, and only in the turn in which it finds a signal
    have hturn : s.turn ⟨k, .watcher⟩ = s.watcherTurn k c r := by simp only [turn, hc, hr]
    obtain ⟨subscriptions, hwatcher⟩ := watcherTurn_eq s k c r
    simp only at hwatcher
    have hworked : s.worked ⟨k, .watcher⟩ c r =
        Turn.runWatcher s.now k (s.subscriptions.reception k) ⟨c, r, []⟩ := rfl
    have hkept : c.isCancelled = true → (s.worked ⟨k, .watcher⟩ c r).scope.isCancelled = true :=
      fun hx => Turn.runWatcher_cancelled (t := ⟨c, r, []⟩) hx
    rw [hworked] at hkept ⊢
    generalize Turn.runWatcher s.now k (s.subscriptions.reception k) ⟨c, r, []⟩ = t
      at hwatcher hkept ⊢
    rw [hturn, hwatcher]
    generalize hu : ({ s.put k t with subscriptions := subscriptions } : Keeper) = u
    by_cases hnew : c.isCancelled = false ∧ t.scope.isCancelled = true
    · -- the scope was cancelled in this turn, so its task is woken
      obtain ⟨line, hline⟩ := wakeIf_eq u (u.scopes[k]?.any Scope.taskIsWaiting) ⟨k, .task⟩
      have hlength := wakeIf_length u (u.scopes[k]?.any Scope.taskIsWaiting) ⟨k, .task⟩
      have hready : u.ready = s.ready := by rw [← hu]; rfl
      have hscope : u.scopes[k]? = some t.scope := by
        rw [← hu]
        exact put_scope (List.getElem?_eq_some_iff.1 hc).1
      refine ⟨subscriptions, line, ?_, ?_, ?_⟩
      · rw [if_pos hnew, wakeTask, hline, hready, ← hu]
      · rw [hline] at hlength
        have hone : line.length ≤ 1 := by
          have : (u.ready ++ line).length = u.ready.length + line.length := List.length_append
          simp only at hlength
          omega
        rw [hnew.1, hnew.2]
        exact hone
      · intro _ _ hwaiting
        have hmem := mem_wakeIf (b := u.scopes[k]?.any Scope.taskIsWaiting)
          (by rw [hscope]; exact hwaiting) u ⟨k, .task⟩
        rw [hline] at hmem
        rw [← hready]
        exact hmem
    · -- no new cancellation, so nobody is woken
      refine ⟨subscriptions, [], ?_, ?_, ?_⟩
      · rw [if_neg hnew, List.append_nil, ← hu]
        rfl
      · cases hx : c.isCancelled with
        | true =>
          rw [hkept hx]
          exact Nat.le_refl _
        | false => exact Nat.zero_le _
      · exact fun hlive hx => absurd ⟨hlive, hx⟩ hnew

/-- Where there is nobody to take a turn, nothing happens.  Such an actor can be named in a move,
    although none ever stands in line. -/
theorem turn_cases (s : Keeper) (a : Actor) : s.turn a = s ∨
    ∃ c r, s.scopes[a.scope]? = some c ∧ s.registrars[c.owner]? = some r := by
  unfold turn
  cases hc : s.scopes[a.scope]? with
  | none => exact .inl rfl
  | some c =>
    cases hr : s.registrars[c.owner]? with
    | none => exact .inl (by simp only [hr])
    | some r => exact .inr ⟨c, r, rfl, hr⟩

theorem turn_now (s : Keeper) (a : Actor) : (s.turn a).now = s.now := by
  rcases turn_cases s a with h | ⟨c, r, hc, hr⟩
  · rw [h]
  · obtain ⟨subscriptions, line, h, -⟩ := turn_eq hc hr
    rw [h]
    rfl

/-- A turn changes no scope but its own, and by `turn_scope` its own is what the worker made of
    it. -/
theorem turn_other {k : Nat} (h : a.scope ≠ k) : (s.turn a).scopes[k]? = s.scopes[k]? := by
  rcases turn_cases s a with hnone | ⟨c, r, hc, hr⟩
  · rw [hnone]
  · obtain ⟨subscriptions, line, hturn, -⟩ := turn_eq hc hr
    rw [hturn]
    exact List.getElem?_set_ne h

theorem turn_scope (hc : s.scopes[a.scope]? = some c) (hr : s.registrars[c.owner]? = some r) :
    (s.turn a).scopes[a.scope]? = some (s.worked a c r).scope := by
  obtain ⟨subscriptions, line, hturn, -⟩ := turn_eq hc hr
  rw [hturn]
  exact put_scope (List.getElem?_eq_some_iff.1 hc).1

end

/-! ## The line becomes empty -/

/-- How many scopes are not cancelled.  This number never grows in a turn. -/
def liveCount (s : Keeper) : Nat := s.scopes.countP fun c => !c.isCancelled

/-- For every worker that a turn puts in line, a scope less is live.  So the sum of both does not
    grow. -/
theorem turn_line (s : Keeper) (a : Actor) : ∃ line, (s.turn a).ready = s.ready ++ line ∧
    line.length + (s.turn a).liveCount ≤ s.liveCount := by
  rcases turn_cases s a with h | ⟨c, r, hc, hr⟩
  · refine ⟨[], by rw [h, List.append_nil], ?_⟩
    exact Nat.le_of_eq (by rw [h, List.length_nil, Nat.zero_add])
  · obtain ⟨subscriptions, line, h, hlength, -⟩ := turn_eq hc hr
    refine ⟨line, by rw [h], ?_⟩
    obtain ⟨hk, hck⟩ := List.getElem?_eq_some_iff.1 hc
    -- one scope is replaced, so the count changes by at most one
    have hcount : (s.turn a).liveCount =
        s.liveCount - (!c.isCancelled).toNat + (!(s.worked a c r).scope.isCancelled).toNat := by
      rw [h, ← hck]
      refine (List.countP_set hk).trans ?_
      cases s.scopes[a.scope].isCancelled <;> cases (s.worked a _ r).scope.isCancelled <;> rfl
    have hpos : (!c.isCancelled).toNat ≤ s.liveCount := by
      cases hx : c.isCancelled with
      | true => exact Nat.zero_le _
      | false => exact List.countP_pos_iff.2 ⟨c, List.mem_of_getElem? hc, by rw [hx]; rfl⟩
    have hnot : ∀ b : Bool, b.toNat + (!b).toNat = 1 := by decide
    have hbefore := hnot c.isCancelled
    have hafter := hnot (s.worked a c r).scope.isCancelled
    omega

/-- A step shortens the line, or a scope is cancelled by it.  The worker that takes the turn
    leaves the line, so the sum of line and live scopes gets smaller. -/
theorem step_measure {s : Keeper} (h : s.ready ≠ []) :
    s.step.ready.length + s.step.liveCount < s.ready.length + s.liveCount := by
  cases hready : s.ready with
  | nil => exact absurd hready h
  | cons a rest =>
    have hstep : s.step = ({ s with ready := rest } : Keeper).turn a := by
      simp only [step, hready]
    obtain ⟨line, hline, hcount⟩ := turn_line { s with ready := rest } a
    have hlive : ({ s with ready := rest } : Keeper).liveCount = s.liveCount := rfl
    rw [hstep, hline, List.length_append, List.length_cons]
    show rest.length + line.length + _ < _
    omega

/-- Where nobody is in line, more steps change nothing. -/
theorem steps_of_nil {s : Keeper} (h : s.ready = []) (n : Nat) : steps n s = s := by
  induction n with
  | zero => rfl
  | succ n ih =>
    have hstep : s.step = s := by
      unfold step
      rw [h]
    show steps n s.step = s
    rw [hstep, ih]

/-- As many steps as the measure says are enough: induction on their number. -/
theorem steps_ready (n : Nat) (s : Keeper) (h : s.ready.length + s.liveCount ≤ n) :
    (steps n s).ready = [] := by
  induction n generalizing s with
  | zero => exact List.eq_nil_of_length_eq_zero (by omega : s.ready.length = 0)
  | succ n ih =>
    by_cases hnil : s.ready = []
    · rw [steps_of_nil hnil]
      exact hnil
    · have := step_measure hnil
      exact ih s.step (by omega)

/-- **Letting everybody take a turn empties the line**, with the fuel that `settle` has: at most
    every scope is live. -/
theorem settle_ready (s : Keeper) : s.settle.ready = [] := by
  refine steps_ready _ s ?_
  have : s.liveCount ≤ s.scopes.length := List.countP_le_length
  omega

/-! ## Letting time pass -/

theorem step_now (s : Keeper) : s.step.now = s.now := by
  unfold step
  split
  · rfl
  · exact turn_now _ _

theorem steps_now (n : Nat) (s : Keeper) : (steps n s).now = s.now := by
  induction n generalizing s with
  | zero => rfl
  | succ n ih => exact (ih s.step).trans (step_now s)

/-- The clock stands still while workers take their turns.  So everything that a sleep does
    before the clock moves has the time of before. -/
theorem settle_now (s : Keeper) : s.settle.now = s.now := steps_now _ s

theorem advance_now (s : Keeper) (time : Nat) : (s.advance time).now = time := by
  obtain ⟨line, h⟩ := advance_eq s time
  rw [h]

/-- The last thing that happens while time passes: everybody in line takes a turn, and then the
    clock moves to the target.  Induction on the fuel, which is at least the distance: every move
    of the clock goes on by one at least. -/
theorem passUntil_eq {target : Nat} (fuel : Nat) (s : Keeper) (hnow : s.now < target)
    (hfuel : target ≤ s.now + fuel) :
    ∃ u, Reaches s u ∧ u.now < target ∧ passUntil target fuel s = u.settle.advance target := by
  induction fuel generalizing s with
  | zero => omega
  | succ fuel ih =>
    have hlater : s.now < s.settle.nextInstant target := by
      have := settle_now s
      unfold nextInstant
      omega
    unfold passUntil
    -- the clock stops before the target, or moves to it
    by_cases hnext : s.settle.nextInstant target < target
    · have hadvance := advance_now s.settle (s.settle.nextInstant target)
      obtain ⟨u, hu, hlt, heq⟩ := ih (s.settle.advance (s.settle.nextInstant target))
        (by omega) (by omega)
      refine ⟨u, ?_, hlt, by rw [if_pos hnext, heq]⟩
      have hmove : Reaches s.settle (s.settle.advance (s.settle.nextInstant target)) := by
        refine reaches_advance ?_
        rw [settle_now]
        omega
      exact ((reaches_settle s).trans hmove).trans hu
    · exact ⟨s, .refl, hnow, by rw [if_neg hnext]⟩

/-- A sleep ends with everybody settled and the clock at its target. -/
theorem sleep_eq (s : Keeper) {d : Duration} (h : 0 < d.millis) :
    ∃ u, Reaches s u ∧ u.now < s.now + d.millis ∧
      s.sleep d = u.settle.advance (s.now + d.millis) :=
  passUntil_eq _ s (by omega) (Nat.le_refl _)

/-- **Letting time pass is made of moves.**  A sleep of length 0 is no move at all; a longer one
    reaches some state, settles there and moves the clock. -/
theorem Reaches.sleep {s t : Keeper} (h : Reaches s t) (d : Duration) : Reaches s (t.sleep d) := by
  rcases Nat.eq_zero_or_pos d.millis with hzero | hpos
  · have hself : t.sleep d = t := by
      unfold Keeper.sleep
      rw [hzero]
      rfl
    rw [hself]
    exact h
  · obtain ⟨u, hu, hlt, heq⟩ := sleep_eq t hpos
    rw [heq]
    refine ((h.trans hu).trans (reaches_settle u)).trans (reaches_advance ?_)
    rw [settle_now]
    omega

theorem Reachable.sleep {s : Keeper} (h : s.Reachable) (d : Duration) : (s.sleep d).Reachable :=
  h.reaches (Reaches.refl.sleep d)

end Keeper

end LeaseKeeper

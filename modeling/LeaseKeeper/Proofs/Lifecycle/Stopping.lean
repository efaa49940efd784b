/-
  A cancelled task stops.

  A task that waits when its scope is cancelled is put in line, and stays there until it has taken
  a turn (`Reachable.attentive`); a task in a call is put in line when the clock has moved to the
  end of the call (`mem_advance`).  In its turn the task of a cancelled scope stops, unless it is
  in a call that has not ended (`TaskPhase.ended`).  So a task that is in line and need not wait
  for a call has stopped when the line is empty (`AboutToStop.settle`).

    1. ONE TURN of a cancelled task is the same as one step of it: after that it has stopped, or
       it is in a call that goes on.
    2. THE LINE has everybody in it who should notice a cancellation (`Attentive`).  This is kept
       by every move; whoever cancels a scope wakes its task, and only a turn takes somebody out
       of the line.
    3. BEING ABOUT TO STOP is kept by every step of the keeper, and when the line is empty nothing
       is left of it but that the task has stopped.
-/
import LeaseKeeper.Proofs.Lifecycle.Turns

namespace LeaseKeeper

/-! ## The turn of a cancelled task -/

/-- **What the task of a cancelled scope comes to** in its turn: it stops, unless it is in a call
    that has not ended. -/
def TaskPhase.ended (now : Nat) : TaskPhase → TaskPhase
  | .calling due call failure => if now < due then .calling due call failure else .stopped
  | _ => .stopped

/-- Doing it once more changes nothing. -/
theorem TaskPhase.ended_ended (now : Nat) (phase : TaskPhase) :
    (phase.ended now).ended now = phase.ended now := by
  cases phase with
  | waiting => rfl
  | stopped => rfl
  | calling due call failure =>
    unfold TaskPhase.ended
    by_cases h : now < due
    · simp only [h, if_true]
    · simp only [h, if_false]

/-- After its turn the task of a cancelled scope does not wait. -/
theorem TaskPhase.ended_ne_waiting (now : Nat) (phase : TaskPhase) (due : Nat) (call : TaskCall) :
    phase.ended now ≠ .waiting due call := by
  cases phase with
  | waiting => nofun
  | stopped => nofun
  | calling due' call' failure =>
    rw [TaskPhase.ended]
    by_cases h : now < due'
    · rw [if_pos h]
      nofun
    · rw [if_neg h]
      nofun

/-- A task that would notice a cancellation is waiting. -/
theorem Scope.taskIsWaiting_iff (c : Scope) :
    c.taskIsWaiting = true ↔ ∃ due call, c.task = .waiting due call := by
  unfold Scope.taskIsWaiting
  cases c.task with
  | waiting due call => exact ⟨fun _ => ⟨due, call, rfl⟩, fun _ => rfl⟩
  | stopped => exact ⟨nofun, nofun⟩
  | calling => exact ⟨nofun, nofun⟩

namespace Turn

variable {now index : Nat} {t : Turn}

/-- A step of a task whose scope is cancelled: it stops where it waits, and where its call has
    ended; in a call it goes on. -/
theorem stepTask_task (hx : t.scope.isCancelled = true) :
    (t.stepTask now index).scope.task = t.scope.task.ended now := by
  cases hphase : t.scope.task with
  | waiting due call =>
    have hstop : t.stepTask now index = t.stop := by simp only [stepTask, hphase, hx, if_true]
    rw [hstop]
    rfl
  | calling due call failure =>
    by_cases hnow : now < due
    · have hself : t.stepTask now index = t := by simp only [stepTask, hphase, hnow, if_true]
      rw [hself, hphase, TaskPhase.ended, if_pos hnow]
    · have hanswer : t.stepTask now index =
          (t.answer now index call.call failure).conclude now call failure := by
        simp only [stepTask, hphase, hnow, if_false]
      rw [hanswer, conclude_cancelled now call failure (t.answer now index call.call failure) hx,
        TaskPhase.ended, if_neg hnow]
      rfl
  | stopped =>
    have hself : t.stepTask now index = t := by simp only [stepTask, hphase]
    rw [hself, hphase]
    rfl

/-- However many steps it takes, one is as good as all: induction on their number.  The scope
    stays cancelled in a step, and the phase that the first step comes to is kept by the others. -/
theorem stepsOfTask_task (hx : t.scope.isCancelled = true) (n : Nat) :
    (stepsOfTask now index (n + 1) t).scope.task = t.scope.task.ended now := by
  induction n generalizing t with
  | zero => exact stepTask_task hx
  | succ n ih =>
    have hx' : (t.stepTask now index).scope.isCancelled = true := by
      have hkeeps := (stepsOfTask_keeps now index 1 t).1
      have hone : stepsOfTask now index 1 t = t.stepTask now index := rfl
      rw [hone] at hkeeps
      rw [hkeeps]
      exact hx
    show (stepsOfTask now index (n + 1) (t.stepTask now index)).scope.task = _
    rw [ih hx', stepTask_task hx, TaskPhase.ended_ended]

/-- **The turn of a task whose scope is cancelled.** -/
theorem runTask_task (hx : t.scope.isCancelled = true) :
    (t.runTask now index).scope.task = t.scope.task.ended now :=
  stepsOfTask_task hx _

end Turn

namespace Keeper

/-! ## Who must act when the clock has moved is in line -/

/-- A task that must act by now is put in line when its scope is looked at. -/
theorem mem_wakeDueIn {s : Keeper} {k : Nat} {c : Scope} (hc : s.scopes[k]? = some c) {due : Nat}
    (hdue : c.taskDue? = some due) (hnow : due ≤ s.now) : ⟨k, .task⟩ ∈ (s.wakeDueIn k).ready := by
  unfold wakeDueIn
  rw [hc]
  refine mem_wakeIf ?_ _ _
  rw [hdue]
  exact decide_eq_true hnow

/-- Whoever is in line stays there while others are put in line: induction on the scopes that are
    looked at, of which number `k` is one. -/
theorem mem_foldl_wakeDueIn {s : Keeper} {k : Nat} {c : Scope} (hc : s.scopes[k]? = some c)
    {due : Nat} (hdue : c.taskDue? = some due) (hnow : due ≤ s.now) (numbers : List Nat)
    (hk : k ∈ numbers) : ⟨k, .task⟩ ∈ (numbers.foldl wakeDueIn s).ready := by
  induction numbers generalizing s with
  | nil => cases hk
  | cons number rest ih =>
    rw [List.foldl_cons]
    obtain ⟨line, hline⟩ := wakeDueIn_eq s number
    rcases List.mem_cons.1 hk with rfl | hk
    · -- it is put in line now, and stays there
      obtain ⟨line', hline'⟩ := foldl_wakeDueIn_eq rest (s.wakeDueIn k)
      rw [hline']
      exact List.mem_append_left _ (mem_wakeDueIn hc hdue hnow)
    · -- it is put in line later, and until then its scope stays as it is
      exact ih (by rw [hline]; exact hc) (by rw [hline]; exact hnow) hk

/-- **A task that must act by the new time is in line** when the clock has moved. -/
theorem mem_advance {s : Keeper} {k : Nat} {c : Scope} (hc : s.scopes[k]? = some c) {due : Nat}
    (hdue : c.taskDue? = some due) {time : Nat} (h : due ≤ time) :
    ⟨k, .task⟩ ∈ (s.advance time).ready :=
  mem_foldl_wakeDueIn (s := { s with now := time }) hc hdue h _
    (List.mem_range.2 (List.getElem?_eq_some_iff.1 hc).1)

/-! ## A task that waits for a cancelled scope is in line -/

/-- **Whoever should notice a cancellation is in line.**  This is what carries everything here:
    between the cancellation and its next turn a task cannot be forgotten. -/
def Attentive (s : Keeper) : Prop :=
  ∀ (k : Nat) (c : Scope), s.scopes[k]? = some c → c.isCancelled = true →
    c.taskIsWaiting = true → ⟨k, .task⟩ ∈ s.ready

section

variable {s s' : Keeper}

/-- Making the line longer does no harm, as long as the scopes are the same. -/
theorem Attentive.longer (hs : s.Attentive) (line : List Actor) (hscopes : s'.scopes = s.scopes)
    (hready : s'.ready = s.ready ++ line) : s'.Attentive := by
  intro k c hc hx hwaiting
  rw [hready]
  rw [hscopes] at hc
  exact List.mem_append_left _ (hs _ _ hc hx hwaiting)

/-- Who cancels a scope wakes its task.  Of the other scopes nothing changes, and a scope that
    was cancelled before had its task in line already. -/
theorem Attentive.cancel (hs : s.Attentive) (k : Nat) (cause : CancelCause) :
    (s.cancel k cause).Attentive := by
  cases hk : s.scopes[k]? with
  | none =>
    rw [cancel_none hk cause]
    exact hs
  | some c =>
    obtain ⟨line, hline⟩ := cancel_eq hk cause
    intro j a ha hx hwaiting
    have hold : ∀ {b : Scope}, s.scopes[j]? = some b → b.isCancelled = true →
        b.taskIsWaiting = true → ⟨j, .task⟩ ∈ (s.cancel k cause).ready := by
      intro b hb hbx hbw
      rw [hline]
      exact List.mem_append_left _ (hs _ _ hb hbx hbw)
    have hscopes : (s.cancel k cause).scopes = s.scopes.set k { c with isCancelled := true } := by
      rw [hline]
    have ha' := ha
    rw [hscopes] at ha'
    rcases getElem?_set_cases ha' with ⟨rfl, rfl⟩ | ⟨-, ha'⟩
    · cases hcx : c.isCancelled with
      | true => exact hold hk hcx hwaiting
      -- it was cancelled before
      | false =>
        -- the last thing that happens is that the task is woken
        unfold Keeper.cancel
        rw [hk]
        simp only [hcx, Bool.false_eq_true, if_false]
        refine mem_wakeIf ?_ _ _
        obtain ⟨line', hline'⟩ := wakeIf_eq
          ((s.setScope j { c with isCancelled := true }).tell [.cancelled s.now c.owner j cause])
          (((s.setScope j { c with isCancelled := true }).tell
            [.cancelled s.now c.owner j cause]).scopes[j]?.any Scope.isWatched) ⟨j, .watcher⟩
        rw [wakeWatcher, hline']
        show ((s.scopes.set j { c with isCancelled := true })[j]?).any Scope.taskIsWaiting = true
        rw [List.getElem?_set_self (List.getElem?_eq_some_iff.1 hk).1]
        exact hwaiting
    · exact hold ha' hx hwaiting

/-- **A turn** leaves nobody behind, if nobody but the one who takes it was out of line.  Who
    takes the turn either does not wait after it, being the task of a cancelled scope, or is a
    watcher, which leaves the task where it is; and a watcher that cancels its scope wakes the
    task. -/
theorem attentive_turn (ho : s.Orderly) (a : Actor)
    (hs : ∀ (k : Nat) (c : Scope), s.scopes[k]? = some c → c.isCancelled = true →
      c.taskIsWaiting = true → ⟨k, .task⟩ ∈ s.ready ∨ ⟨k, .task⟩ = a) : (s.turn a).Attentive := by
  intro k c' hc' hx hwaiting
  obtain ⟨line, hline, -⟩ := turn_line s a
  rw [hline]
  by_cases hk : a.scope = k
  · -- the turn is one of this scope's workers'
    subst hk
    cases hc : s.scopes[a.scope]? with
    | none =>
      have hnone : s.turn a = s := by simp only [turn, hc]
      rw [hnone, hc] at hc'
      cases hc'
    | some c =>
      obtain ⟨r, hr⟩ := ho.registrar hc
      rw [turn_scope hc hr] at hc'
      obtain rfl := Option.some.inj hc'
      obtain ⟨subscriptions, line', hturn, -, hwoken⟩ := turn_eq hc hr
      have hline' : line = line' := by
        rw [hturn] at hline
        exact (List.append_cancel_left hline).symm
      rw [hline']
      cases hcx : c.isCancelled with
      | false => exact hwoken hcx hx hwaiting
      -- it was cancelled in this very turn
      | true =>
        obtain ⟨k, w⟩ := a
        cases w with
        | task =>
          -- a task that was cancelled does not wait after its turn
          have htask : (s.worked ⟨k, .task⟩ c r).scope.task = c.task.ended s.now :=
            Turn.runTask_task (t := ⟨c, r, []⟩) hcx
          obtain ⟨due, call, hphase⟩ := (Scope.taskIsWaiting_iff _).1 hwaiting
          rw [htask] at hphase
          exact absurd hphase (TaskPhase.ended_ne_waiting _ _ _ _)
        | watcher =>
          -- the watcher does not touch the task, and is somebody else than the task
          have htask : (s.worked ⟨k, .watcher⟩ c r).scope.task = c.task :=
            Turn.runWatcher_task ⟨c, r, []⟩
          rw [Scope.taskIsWaiting, htask] at hwaiting
          rcases hs _ _ hc hcx hwaiting with hmem | heq
          · exact List.mem_append_left _ hmem
          · cases heq
  · -- the turn is another scope's
    rw [turn_other hk] at hc'
    rcases hs _ _ hc' hx hwaiting with hmem | heq
    · exact List.mem_append_left _ hmem
    · exact absurd (by rw [← heq]) hk

/-- **Every move leaves the keeper attentive**: most of them change no scope and make the line
    longer at most. -/
theorem Attentive.move (hs : s.Attentive) (ho : s.Orderly) (m : Move) : (s.move m).Attentive := by
  cases m with
  | enable n =>
    show (s.enable n).Attentive
    unfold enable
    split
    · exact hs
    · rename_i r hr
      split
      · exact hs
      · split
        · exact hs
        · exact hs
        · exact hs
        · -- the new scope is not cancelled, and the line only gets longer
          rename_i i _ _ _
          obtain ⟨line, hline⟩ := beginScope_eq s n r.acquiring.subscribing i
          intro k c hc hx hwaiting
          rw [hline] at hc ⊢
          rcases getElem?_append_cases hc with ⟨-, hc⟩ | ⟨-, rfl⟩
          · exact List.mem_append_left _ (hs _ _ hc hx hwaiting)
          · cases hx
  | disable n =>
    show (s.disable n).Attentive
    unfold disable
    split
    · exact hs
    · rename_i r hr
      split
      · -- its scope is cancelled
        have hset : (s.setRegistrar n { r with current := none }).Attentive := hs
        exact hset.cancel _ _
      · exact hs
  | drop n =>
    show (s.dropRegistrar n).Attentive
    unfold dropRegistrar
    split
    · exact hs
    · rename_i r hr
      have hset : (s.setRegistrar n { r with isDropped := true }).Attentive := hs
      split
      · exact hs
      · split
        · -- it had no scope
          exact hset
        · -- its scope is cancelled
          exact hset.cancel _ _
  | raise signal =>
    show (s.raise signal).Attentive
    unfold raise
    -- a signal that is accepted wakes a watcher
    split
    · obtain ⟨line, hline⟩ := wakeIf_eq
        { s with subscriptions := s.subscriptions.raise .manual signal }
        (s.scopes[s.scopes.length - 1]?.any Scope.isWatched) ⟨s.scopes.length - 1, .watcher⟩
      refine hs.longer line ?_ ?_ <;> rw [wakeWatcher, hline]
    · exact hs
  | supply n p =>
    show (s.supply n p).Attentive
    unfold supply
    split
    · exact hs
    · exact hs
  | step =>
    show s.step.Attentive
    unfold step
    cases hready : s.ready with
    | nil => exact hs
    | cons a rest =>
      -- the first in line takes a turn, and is the only one who is not in line meanwhile
      refine attentive_turn (s := { s with ready := rest }) (ho.congr rfl fun _ => rfl) a ?_
      intro k c hc hx hwaiting
      have hmem := hs _ _ hc hx hwaiting
      rw [hready] at hmem
      exact (List.mem_cons.1 hmem).symm
  | turn a => exact attentive_turn ho a fun _ _ hc hx hwaiting => .inl (hs _ _ hc hx hwaiting)
  | pass d =>
    obtain ⟨line, hline⟩ := advance_eq s (s.now + d.millis)
    refine hs.longer line ?_ ?_ <;> rw [Keeper.move, hline]

end

/-- **In every reachable state, a task that waits for a cancelled scope is in line**: induction
    along the run. -/
theorem Reachable.attentive {s : Keeper} (h : s.Reachable) : s.Attentive := by
  obtain ⟨registrars, hnew, hreaches⟩ := h
  induction hreaches with
  | refl => exact nofun
  | move hbefore m ih => exact ih.move (Reachable.orderly ⟨registrars, hnew, hbefore⟩) m

/-! ## A cancelled task stops -/

/-- **A scope whose task is about to stop**: it is cancelled, and its task has stopped, or is in
    line and need not wait for a call. -/
def AboutToStop (s : Keeper) (k : Nat) : Prop :=
  ∃ c, s.scopes[k]? = some c ∧ c.isCancelled = true ∧
    (c.task = .stopped ∨ (c.task.ended s.now = .stopped ∧ ⟨k, .task⟩ ∈ s.ready))

/-- **A step of the keeper keeps it so**: the first in line takes a turn.  If that is the task,
    it stops; if it is anybody else, the task stays in line with its phase. -/
theorem AboutToStop.step {s : Keeper} {k : Nat} (ho : s.Orderly) (h : s.AboutToStop k) :
    s.step.AboutToStop k := by
  obtain ⟨c, hc, hx, hcase⟩ := h
  cases hready : s.ready with
  -- nobody is in line, and nothing happens
  | nil =>
    have hself : s.step = s := steps_of_nil hready 1
    rw [hself]
    exact ⟨c, hc, hx, hcase⟩
  | cons a rest =>
    have hstep : s.step = ({ s with ready := rest } : Keeper).turn a := by
      simp only [Keeper.step, hready]
    obtain ⟨line, hline, -⟩ := turn_line { s with ready := rest } a
    have hnow : s.step.now = s.now := step_now s
    have hline' : s.step.ready = rest ++ line := hstep ▸ hline
    -- as long as the task has not taken its turn, it stays in line
    have hstays : (⟨k, .task⟩ : Actor) ≠ a → c.task = .stopped ∨
        (c.task.ended s.step.now = .stopped ∧ ⟨k, .task⟩ ∈ s.step.ready) := by
      intro hne
      rw [hnow, hline']
      refine hcase.imp_right ?_
      rintro ⟨habout, hmem⟩
      rw [hready] at hmem
      exact ⟨habout, List.mem_append_left _ ((List.mem_cons.1 hmem).resolve_left hne)⟩
    -- is it one of this scope's workers who takes the turn?
    by_cases hk : a.scope = k
    · subst hk
      obtain ⟨r, hr⟩ := ho.registrar hc
      have hscope := turn_scope (s := { s with ready := rest }) (a := a) hc hr
      rw [← hstep] at hscope
      refine ⟨_, hscope, Turn.run_cancelled a.worker hx, ?_⟩
      obtain ⟨k, w⟩ := a
      cases w with
      | task =>
        have htask : (({ s with ready := rest } : Keeper).worked ⟨k, .task⟩ c r).scope.task =
            c.task.ended s.now := Turn.runTask_task (t := ⟨c, r, []⟩) hx
        left
        rw [htask]
        rcases hcase with hstop | ⟨habout, -⟩
        · rw [hstop]
          rfl
        · exact habout
      | watcher =>
        have htask : (({ s with ready := rest } : Keeper).worked ⟨k, .watcher⟩ c r).scope.task =
            c.task := Turn.runWatcher_task ⟨c, r, []⟩
        rw [htask]
        refine hstays ?_
        intro heq
        cases heq
    · have hother : s.step.scopes[k]? = s.scopes[k]? := hstep ▸ turn_other hk
      exact ⟨c, hother.trans hc, hx, hstays fun heq => hk (by rw [← heq])⟩

/-- **A task that is about to stop has stopped when everybody in line has taken a turn**: it is
    kept by every step, and in the end it is in no line any more. -/
theorem AboutToStop.settle {s : Keeper} {k : Nat} (ho : s.Orderly) (h : s.AboutToStop k) :
    ∃ c, s.settle.scopes[k]? = some c ∧ c.task = .stopped := by
  have hsteps : ∀ n (u : Keeper), u.Orderly → u.AboutToStop k → (steps n u).AboutToStop k := by
    intro n
    induction n with
    | zero => exact fun _ _ hu => hu
    | succ n ih =>
      intro u huo hu
      exact ih u.step ((reaches_steps 1 u).orderly huo) (hu.step huo)
  obtain ⟨c, hc, -, hstop | ⟨-, hmem⟩⟩ := hsteps _ s ho h
  · exact ⟨c, hc, hstop⟩
  · rw [show (steps _ s).ready = [] from settle_ready s] at hmem
    cases hmem

end Keeper

end LeaseKeeper

/-
  Registrars that must wait after every call.

  A registrar is patient if its retry interval and every interval that its registry asks for take
  some time.  The task of a scope of such a registrar does at most one deed in its turn, or two if
  a call ends at once, and then it has nothing more to do at that time (`Turn.runTask_deeds`).  So
  a whole turn goes as far along the timeline as it should (`Turn.runTask_onTrack`).

  A registrar keeps its pacing for ever, and stays patient if it is supplied with patient
  registries only (`KeepsPace`).

    1. WHAT STAYS: calls change a registrar, but not its pacing, and a patient registry stays
       patient as it is used (`Registrar.Follows`), since the intervals that it will ask for were
       in its script.
    2. A TURN is bounded by time and not by its steps: after a deed the task waits for a later
       time, unless it has started a call that takes no time; that one ends at once, and then it
       waits.
    3. THE TIMELINE was shown to be kept by one deed; two deeds in one turn are two of its steps.

  The crux is in 2.  Without the wait a task could go on and on within one instant, and its turn
  would be cut off by the number of its steps, at a place that no timeline knows.
-/
import LeaseKeeper.Proofs.Lifecycle.Timeline

namespace LeaseKeeper

/-! ## Registrars that wait -/

/-- **A registry that asks for some time** between two signs of life. -/
structure ScriptedRegistry.Patient (g : ScriptedRegistry) : Prop where
  interval : 0 < g.interval.millis
  later : ∀ d ∈ g.laterIntervals, 0 < d.millis

/-- **A registrar that must wait some time** after every call. -/
structure Registrar.Patient (r : Registrar) : Prop where
  retry : 0 < r.pacing.retryInterval.millis
  registry : r.registry.Patient

/-- It can be decided, as there are finitely many intervals in a script. -/
instance (g : ScriptedRegistry) : Decidable g.Patient :=
  decidable_of_iff (0 < g.interval.millis ∧ ∀ d ∈ g.laterIntervals, 0 < d.millis)
    ⟨fun ⟨h, h'⟩ => ⟨h, h'⟩, fun ⟨h, h'⟩ => ⟨h, h'⟩⟩

instance (r : Registrar) : Decidable r.Patient :=
  decidable_of_iff (0 < r.pacing.retryInterval.millis ∧ r.registry.Patient)
    ⟨fun ⟨h, h'⟩ => ⟨h, h'⟩, fun ⟨h, h'⟩ => ⟨h, h'⟩⟩

/-- Starting a call uses up an outcome and leaves the intervals alone. -/
theorem ScriptedRegistry.Patient.called {g : ScriptedRegistry} (h : g.Patient)
    (call : RegistryCall) : (g.called call).Patient := by
  cases call <;> exact ⟨h.interval, h.later⟩

/-- The end of a call may bring the next interval of the script. -/
theorem ScriptedRegistry.Patient.answered {g : ScriptedRegistry} (h : g.Patient)
    (call : RegistryCall) (failure : Option String) : (g.answered call failure).Patient := by
  unfold ScriptedRegistry.answered
  split
  · rename_i d rest hlater
    refine ⟨h.later d (by rw [hlater]; exact List.mem_cons_self ..), fun d' hd' => h.later d' ?_⟩
    rw [hlater]
    exact List.mem_cons_of_mem _ hd'
  · exact h

/-- **What a registrar keeps** through calls: its pacing, and that its registry asks for some time. -/
structure Registrar.Follows (r r' : Registrar) : Prop where
  pacing : r'.pacing = r.pacing
  registry : r.registry.Patient → r'.registry.Patient

section

variable {now k : Nat} {found : Reception} {c c' : Scope} {r r' r'' : Registrar} {es : Journal}

theorem Registrar.Follows.refl (r : Registrar) : r.Follows r := ⟨rfl, id⟩

theorem Registrar.Follows.trans (h : r.Follows r') (h' : r'.Follows r'') : r.Follows r'' :=
  ⟨h'.pacing.trans h.pacing, fun hr => h'.registry (h.registry hr)⟩

/-- A patient registrar stays patient through calls. -/
theorem Registrar.Patient.follows (h : r.Patient) (hf : r.Follows r') : r'.Patient :=
  ⟨hf.pacing ▸ h.retry, hf.registry h.registry⟩

/-- **A task leaves its registrar so**: what it starts or ends is a call of the registry. -/
theorem TaskDeed.follows (h : TaskDeed now k c r c' r' es) : r.Follows r' := by
  cases h with
  | stopped => exact .refl r
  | started => exact ⟨rfl, fun hr => hr.called _⟩
  | discarded => exact ⟨rfl, fun hr => hr.answered _ _⟩
  | concluded => exact ⟨rfl, fun hr => hr.answered _ _⟩

/-- **A watcher leaves its registrar so**; letting go of a scope does not touch pacing or
    registry. -/
theorem WatcherDeed.follows (h : WatcherDeed now k found c r c' r' es) : r.Follows r' := by
  cases h with
  | signalled => exact ⟨rfl, fun hr => hr.called .deregister⟩
  | began => exact ⟨rfl, fun hr => hr.called .deregister⟩
  | @ended due failure =>
    unfold Registrar.release
    split
    · exact ⟨rfl, fun hr => hr.answered .deregister failure⟩
    · exact ⟨rfl, fun hr => hr.answered .deregister failure⟩

end

/-- **A registrar keeps its pace** through the turn of a worker, as it does through each deed of
    it. -/
theorem Turn.run_follows (now k : Nat) (found : Reception) (w : Worker) (t : Turn) :
    t.registrar.Follows (t.run now k found w).registrar :=
  Turn.run_registrar Registrar.Follows .refl .trans TaskDeed.follows WatcherDeed.follows now k found
    w t

/-! ## The turn of a task that must wait after calls -/

/-- **A task has nothing to do** at a time: it waits for later, is in a call that ends later, or
    has stopped.  A task that waits must not be cancelled, or it would stop. -/
def Scope.TaskRests (c : Scope) (now : Nat) : Prop :=
  match c.task with
  | .waiting due _ => c.isCancelled = false ∧ now < due
  | .calling due _ _ => now < due
  | .stopped => True

/-- What such a task must act on next is later. -/
theorem Scope.TaskRests.lt {c : Scope} {now due : Nat} (h : c.TaskRests now)
    (hdue : c.taskDue? = some due) : now < due := by
  unfold Scope.TaskRests at h
  unfold Scope.taskDue? at hdue
  cases hphase : c.task with
  | waiting due' call =>
    rw [hphase] at h hdue
    cases hdue
    exact h.2
  | calling due' call failure =>
    rw [hphase] at h hdue
    cases hdue
    exact h
  | stopped =>
    rw [hphase] at hdue
    cases hdue

namespace Turn

variable {now k : Nat} {c : Scope} {r : Registrar} {t : Turn}

/-- A task that has nothing to do does nothing in a step. -/
theorem stepTask_rests (h : t.scope.TaskRests now) : t.stepTask now k = t := by
  cases hphase : t.scope.task with
  | waiting due call =>
    rw [Scope.TaskRests, hphase] at h
    simp only [stepTask, hphase, h.1, h.2, Bool.false_eq_true, if_false, if_true]
  | calling due call failure =>
    rw [Scope.TaskRests, hphase] at h
    have hnow : now < due := h
    simp only [stepTask, hphase, hnow, if_true]
  | stopped => simp only [stepTask, hphase]

/-- Nor does it in any number of steps. -/
theorem stepsOfTask_rests (h : t.scope.TaskRests now) (n : Nat) : stepsOfTask now k n t = t := by
  induction n with
  | zero => rfl
  | succ n ih =>
    show stepsOfTask now k n (t.stepTask now k) = t
    rw [stepTask_rests h, ih]

/-- A task that has something to do does it: if a step left everything as it was, the task would
    be in the same phase, but every deed takes it to another one. -/
theorem stepTask_acts (h : ¬ t.scope.TaskRests now) :
    ∃ c r es, TaskDeed now k t.scope t.registrar c r es ∧
      t.stepTask now k = ⟨c, r, t.report ++ es⟩ := by
  refine (stepTask_deed now k t).resolve_left fun hidle => h ?_
  have hne : ∀ {u : Turn}, u.scope.task ≠ t.scope.task → u ≠ t := by
    rintro u hu rfl
    exact hu rfl
  unfold Scope.TaskRests
  cases hphase : t.scope.task with
  | waiting due call =>
    cases hx : t.scope.isCancelled with
    | true =>
      -- it would have stopped
      simp only [stepTask, hphase, hx, if_true] at hidle
      exact absurd hidle (hne fun heq => by rw [hphase] at heq; cases heq)
    | false =>
      -- it would have started a call, if it were time
      refine ⟨rfl, Decidable.byContradiction fun hdue => ?_⟩
      simp only [stepTask, hphase, hx, hdue, Bool.false_eq_true, if_false] at hidle
      exact absurd hidle (hne fun heq => by rw [hphase] at heq; cases heq)
  | calling due call failure =>
    -- its call would have ended, if it were time
    refine Decidable.byContradiction fun hdue => ?_
    have hanswer : t.stepTask now k =
        (t.answer now k call.call failure).conclude now call failure := by
      have hdue' : ¬ now < due := hdue
      simp only [stepTask, hphase, hdue', if_false]
    rw [hanswer] at hidle
    refine hne (fun heq => ?_) hidle
    rw [hphase] at heq
    cases hx : (t.answer now k call.call failure).scope.isCancelled with
    | true =>
      rw [conclude_cancelled now call failure _ hx] at heq
      cases heq
    | false =>
      rw [conclude_eq now call failure _ hx] at heq
      cases heq
  | stopped => trivial

end Turn

section

variable {now k : Nat} {found : Reception} {c c' : Scope} {r r' : Registrar} {es : Journal}

/-- **After a deed a task rests**, if it must wait some time after calls; but a call that it has
    started may have ended. -/
theorem TaskDeed.rests (h : TaskDeed now k c r c' r' es) (hr : r.Patient) :
    c'.TaskRests now ∨ (c'.isCancelled = false ∧ ∃ due call failure,
      c.task = .waiting due call ∧ c'.task = .calling now call failure) := by
  cases h with
  | stopped => exact .inl trivial
  | @started due call hwait hx hd =>
    -- a call takes some time, or it takes none
    by_cases hlatency : 0 < (r.outcome call.call).latency.millis
    · left
      show now < now + (r.outcome call.call).latency.millis
      omega
    · have hzero : (r.outcome call.call).latency.millis = 0 := Nat.eq_zero_of_not_pos hlatency
      refine .inr ⟨hx, due, call, (r.outcome call.call).failure, hwait, ?_⟩
      show TaskPhase.calling (now + _) _ _ = _
      rw [hzero]
      rfl
  | discarded => exact .inl trivial
  | @concluded due call failure hcall hx hd =>
    -- it waits for as long as the registry asks for, or for the retry interval; both take some time
    refine .inl ⟨hx, ?_⟩
    have hpatient := hr.registry.answered call.call failure
    have hpause : 0 < ((r.afterAnswer call.call failure).pause failure).millis := by
      cases failure with
      | none => exact hpatient.interval
      | some _ => exact hr.retry
    omega

/-- **The turn of a task that must wait some time after calls**: nothing; or a deed; or it starts
    a call that ends at once.  There are always two steps at least, and after the second one the
    task rests, so it does not matter how many there are. -/
theorem Turn.runTask_deeds {t : Turn} (hr : r.Patient)
    (ht : Turn.runTask now k ⟨c, r, []⟩ = t) :
    t.scope.TaskRests now ∧ (t = ⟨c, r, []⟩ ∨
      ∃ c₁ r₁ es₁, TaskDeed now k c r c₁ r₁ es₁ ∧ (t = ⟨c₁, r₁, es₁⟩ ∨
        ∃ c₂ r₂ es₂, TaskDeed now k c₁ r₁ c₂ r₂ es₂ ∧ t = ⟨c₂, r₂, es₁ ++ es₂⟩ ∧
          c₁.isCancelled = false ∧ ∃ due call failure,
            c.task = .waiting due call ∧ c₁.task = .calling now call failure)) := by
  -- there are at least two steps
  have htwo : t = Turn.stepsOfTask now k (2 * r.registry.queuedCount + 2)
      ((Turn.stepTask now k ⟨c, r, []⟩).stepTask now k) := ht.symm
  -- it rests from the start
  by_cases hrest : c.TaskRests now
  · have hsame : t = ⟨c, r, []⟩ := ht ▸ Turn.stepsOfTask_rests (t := ⟨c, r, []⟩) hrest _
    rw [hsame]
    exact ⟨hrest, .inl rfl⟩
  · obtain ⟨c₁, r₁, es₁, hd, hstep⟩ := Turn.stepTask_acts (k := k) (t := ⟨c, r, []⟩) hrest
    replace hd : TaskDeed now k c r c₁ r₁ es₁ := hd
    replace hstep : Turn.stepTask now k ⟨c, r, []⟩ = ⟨c₁, r₁, es₁⟩ := hstep
    rw [hstep] at htwo
    -- it rests after its first deed
    by_cases hrest₁ : c₁.TaskRests now
    · have hsame : t = ⟨c₁, r₁, es₁⟩ := by
        rw [htwo, Turn.stepTask_rests (t := ⟨c₁, r₁, es₁⟩) hrest₁]
        exact Turn.stepsOfTask_rests (t := ⟨c₁, r₁, es₁⟩) hrest₁ _
      rw [hsame]
      exact ⟨hrest₁, .inr ⟨c₁, r₁, es₁, hd, .inl rfl⟩⟩
    · obtain ⟨hlive, due, call, failure, hwait, hcall⟩ := (hd.rests hr).resolve_left hrest₁
      obtain ⟨c₂, r₂, es₂, hd', hstep'⟩ := Turn.stepTask_acts (k := k) (t := ⟨c₁, r₁, es₁⟩) hrest₁
      replace hd' : TaskDeed now k c₁ r₁ c₂ r₂ es₂ := hd'
      replace hstep' : Turn.stepTask now k ⟨c₁, r₁, es₁⟩ = ⟨c₂, r₂, es₁ ++ es₂⟩ := hstep'
      -- it rests after its second deed, since that did not start a call
      have hrest₂ : c₂.TaskRests now := by
        refine (hd'.rests (hr.follows hd.follows)).resolve_right ?_
        rintro ⟨-, due', call', failure', hwait', -⟩
        rw [hcall] at hwait'
        cases hwait'
      have hsame : t = ⟨c₂, r₂, es₁ ++ es₂⟩ := by
        rw [htwo, hstep']
        exact Turn.stepsOfTask_rests (t := ⟨c₂, r₂, es₁ ++ es₂⟩) hrest₂ _
      rw [hsame]
      exact ⟨hrest₂, .inr ⟨c₁, r₁, es₁, hd, .inr ⟨c₂, r₂, es₂, hd', rfl, hlive, due, call,
        failure, hwait, hcall⟩⟩⟩

/-- A watcher makes no call of the task, so the timeline does not notice its turn. -/
theorem WatcherDeed.still (h : WatcherDeed now k found c r c' r' es) : es.Still k := by
  intro e hmem
  cases h with
  | signalled =>
    simp only [List.mem_cons, List.not_mem_nil, or_false] at hmem
    rcases hmem with rfl | rfl | rfl <;> simp [JournalEntry.isTaskCall]
  | began =>
    rw [List.mem_singleton.1 hmem]
    simp [JournalEntry.isTaskCall]
  | @ended due failure signalled =>
    rcases List.mem_cons.1 hmem with rfl | hmem
    · simp [JournalEntry.isTaskCall]
    · rcases Scope.mem_closing.1 hmem with rfl | rfl | rfl | ⟨-, rfl⟩ <;>
        simp [JournalEntry.isTaskCall]

/-- **The turn of a task stays on track**, if the task has not missed the time it has waited for.
    One deed is one step along the timeline; in a turn of two deeds the first takes an outcome
    and reads no interval, and the second is the other way round, so together they are read in
    the order of the timeline. -/
theorem Turn.runTask_onTrack {t : Turn} (hr : r.Patient)
    (ht : Turn.runTask now k ⟨c, r, []⟩ = t) {first : Nat} {j : Journal} {os : List CallOutcome}
    {hs : List Duration} (h : c.OnTrack k r.pacing.retryInterval first j os hs)
    (hnow : ∀ due, c.taskDue? = some due → now ≤ due)
    (hpast : ∀ t n cause, .cancelled t n k cause ∈ j → t ≤ now) {before later : List Registrar}
    (hbefore : before[c.owner]? = some r) (hlater : later[c.owner]? = some t.registrar) :
    t.scope.OnTrack k r.pacing.retryInterval first (j ++ t.report)
      (os ++ t.report.outcomes k before) (hs ++ t.report.intervals k later) := by
  rcases (Turn.runTask_deeds hr ht).2 with rfl | ⟨c₁, r₁, es₁, hd, rfl | ⟨c₂, r₂, es₂, hd', rfl,
    hlive, due, call, failure, hwait, hcall⟩⟩
  · -- nothing is done
    have hnothing : (Journal.outcomes [] k before, Journal.intervals [] k later) = ([], []) := rfl
    obtain ⟨htaken, hread⟩ := Prod.mk.inj hnothing
    show c.OnTrack k _ first (j ++ []) _ _
    rw [htaken, hread, List.append_nil, List.append_nil, List.append_nil]
    exact h
  · -- one deed
    exact hd.onTrack h rfl hnow hpast before later (fun _ => hbefore) fun _ => hlater
  · -- two deeds
    have hwaits : c.taskIsWaiting = true := by rw [Scope.taskIsWaiting, hwait]
    have hcalls : c₁.taskIsWaiting = false := by rw [Scope.taskIsWaiting, hcall]
    -- the first deed starts a call, and no interval is read; the second ends it
    have hfirst := hd.onTrack h rfl hnow hpast before later (fun _ => hbefore)
      fun hnot => by rw [hwaits] at hnot; cases hnot
    have hsecond := hd'.onTrack hfirst (congrArg Pacing.retryInterval hd.follows.pacing)
      (fun due' hdue => by rw [Scope.taskDue?, hcall] at hdue; cases hdue; exact Nat.le_refl _)
      (fun t n cause hmem => (List.mem_append.1 hmem).elim (hpast t n cause)
        fun hmem => by cases hd.own hmem)
      before later (fun hnot => by rw [hcalls] at hnot; cases hnot)
      fun _ => by rw [hd.same.owner]; exact hlater
    simp only [Journal.outcomes, Journal.intervals, List.filterMap_append, ← List.append_assoc]
      at hsecond ⊢
    exact hsecond

end

namespace Keeper

/-! ## Every registrar keeps its pace -/

/-- **Every registrar keeps its pace**: its pacing is that with which it was built, and it must wait
    some time after every call. -/
structure KeepsPace (s : Keeper) (registrars : List Registrar) : Prop where
  patient : ∀ {n : Nat} {r : Registrar}, s.registrars[n]? = some r → r.Patient
  pacing : ∀ {n : Nat} {r : Registrar}, s.registrars[n]? = some r →
    ∃ r₀, registrars[n]? = some r₀ ∧ r.pacing = r₀.pacing

/-- What is supplied is a registry that asks for some time.  Nothing is asked of other moves. -/
def Move.IsPatient : Move → Prop
  | .supply _ p => p.registry.Patient
  | _ => True

instance : (m : Move) → Decidable m.IsPatient
  | .supply _ p => inferInstanceAs (Decidable p.registry.Patient)
  | .enable _ | .disable _ | .drop _ | .raise _ | .step | .turn _ | .pass _ => .isTrue trivial

section

variable {registrars : List Registrar} {s s' : Keeper} {n : Nat} {r r' : Registrar}

/-- At the start every registrar is the one that was built. -/
theorem keepsPace_start (h : ∀ r ∈ registrars, r.Patient) :
    KeepsPace { registrars := registrars } registrars :=
  ⟨fun hr => h _ (List.mem_of_getElem? hr), fun hr => ⟨_, hr, rfl⟩⟩

/-- A registrar that follows another may take its place, and nobody else changes. -/
theorem KeepsPace.set (h : s.KeepsPace registrars) (hr : s.registrars[n]? = some r)
    (hf : r.Follows r') (hs : s'.registrars = s.registrars.set n r') :
    s'.KeepsPace registrars := by
  have hcases : ∀ {j : Nat} {a : Registrar}, s'.registrars[j]? = some a →
      (j = n ∧ a = r') ∨ s.registrars[j]? = some a := by
    intro j a ha
    rw [hs, List.getElem?_set] at ha
    split at ha
    · rename_i hnj
      split at ha
      · exact .inl ⟨hnj.symm, (Option.some.inj ha).symm⟩
      · cases ha
    · exact .inr ha
  constructor
  · intro j a ha
    rcases hcases ha with ⟨-, rfl⟩ | ha
    · exact (h.patient hr).follows hf
    · exact h.patient ha
  · intro j a ha
    rcases hcases ha with ⟨rfl, rfl⟩ | ha
    · obtain ⟨r₀, hr₀, hpacing⟩ := h.pacing hr
      exact ⟨r₀, hr₀, hf.pacing.trans hpacing⟩
    · exact h.pacing ha

/-- Registrars that are the same keep the same pace. -/
theorem KeepsPace.congr (h : s.KeepsPace registrars) (hs : s'.registrars = s.registrars) :
    s'.KeepsPace registrars :=
  ⟨fun hr => h.patient (hs ▸ hr), fun hr => h.pacing (hs ▸ hr)⟩

/-- Cancelling a scope changes no registrar. -/
theorem cancel_registrars (s : Keeper) (k : Nat) (cause : CancelCause) :
    (s.cancel k cause).registrars = s.registrars := by
  cases hk : s.scopes[k]? with
  | none => rw [cancel_none hk]
  | some c =>
    obtain ⟨line, hline⟩ := cancel_eq hk cause
    rw [hline]

/-- **Every move keeps the pace**, if what is supplied does: one case for each move.  Only three
    things change a registrar in it: what is asked for at the start of a scope, the end of one,
    and calls. -/
theorem KeepsPace.move (h : s.KeepsPace registrars) {m : Move} (hm : m.IsPatient) :
    (s.move m).KeepsPace registrars := by
  have hmoved := s.moved m
  generalize s.move m = s' at hmoved ⊢
  have hsetup : ∀ {r r' : Registrar}, r.SameSetup r' → r.Follows r' :=
    fun hsame => ⟨hsame.pacing, fun hr => by rw [hsame.registry]; exact hr⟩
  cases hmoved with
  | idle => exact h
  | failed hr _ hsame => exact h.set hr (hsetup hsame) rfl
  | @began n r r' hr _ hsame i =>
    -- the scope begins, and the registrar remembers it
    obtain ⟨line, hline⟩ := beginScope_eq s n r' i
    have hf : r.Follows (r'.begin s.scopes.length i) := ⟨hsame.pacing, (hsetup hsame).registry⟩
    rw [hline]
    exact h.set hr hf rfl
  | @ended m n k r cause rest hr =>
    have hf : r.Follows (r.ending cause) := by cases cause <;> exact ⟨rfl, id⟩
    exact h.set hr hf (cancel_registrars (s.setRegistrar n (r.ending cause)) k cause)
  | @retired n r hr =>
    have hf : r.Follows (r.ending .dropped) := ⟨rfl, id⟩
    exact h.set hr hf rfl
  | raised signal =>
    obtain ⟨line, hline⟩ := deliver_eq s signal
    rw [hline]
    exact h.congr rfl
  | @supplied n r hr p =>
    -- the pacing stays, and the new registry asks for some time
    have hf : r.Follows (r.supplied p) := ⟨rfl, fun _ => hm⟩
    exact h.set hr hf rfl
  | @turned m a line =>
    -- a worker has taken its turn
    generalize hu : ({ s with ready := line } : Keeper) = u
    have hpace : u.KeepsPace registrars := h.congr (by rw [← hu])
    rcases turn_cases u a with hself | ⟨c, r, hc, hr⟩
    · rw [hself]
      exact hpace
    · obtain ⟨subscriptions, line', hturn, -⟩ := turn_eq hc hr
      have howner : (u.worked a c r).scope.owner = c.owner := Turn.run_owner a.worker c r
      have hf : r.Follows (u.worked a c r).registrar := Turn.run_follows _ _ _ a.worker ⟨c, r, []⟩
      refine hpace.set hr hf ?_
      rw [hturn, ← howner]
      rfl
  | passed d =>
    obtain ⟨line, hline⟩ := advance_eq s (s.now + d.millis)
    rw [hline]
    exact h.congr rfl

end

section

variable {registrars : List Registrar}

/-- Every run keeps the pace: induction on the moves. -/
theorem KeepsPace.after {s : Keeper} (h : s.KeepsPace registrars) {ms : List Move}
    (hms : ∀ m ∈ ms, m.IsPatient) : (s.after ms).KeepsPace registrars := by
  induction ms generalizing s with
  | nil => exact h
  | cons m ms ih =>
    exact ih (h.move (hms m (List.mem_cons_self ..)))
      fun m' hm' => hms m' (List.mem_cons_of_mem _ hm')

end

end Keeper

end LeaseKeeper

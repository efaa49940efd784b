/-
  What a worker can do in one step.

  `Turn.stepTask` and `Turn.stepWatcher` are programs; here is what they can do, said once.  A task
  has four deeds and a watcher three, and each is listed with its guard, with the scope and the
  registrar after it, and with what it makes known:

    * a task STOPS where it waited for a cancelled scope, STARTS the call it waited for, DISCARDS
      what a call brought to a cancelled scope, or CONCLUDES from it when and how to go on;
    * a watcher is SIGNALLED and cancels its scope, BEGINS to deregister a cancelled scope, or ENDS
      that call; then the registrar lets go of the scope, and only then may the process be asked to
      end (`Scope.closing`).

  `stepTask_deed` and `stepWatcher_deed` say that a step is a deed or nothing.  Whatever is proved
  of every deed holds of the programs; nothing later looks into them again.
-/
import LeaseKeeper.Proofs.Lifecycle.Run

namespace LeaseKeeper

/-! ## How a task goes on after a call -/

/-- The call after one with a result: a sign of life after a success, a registration after a
    failure. -/
def TaskCall.following : Option String → TaskCall
  | none => .heartbeat
  | some _ => .register

/-- The wait after a call with a result. -/
def Registrar.pause (r : Registrar) : Option String → Duration
  | none => r.registry.interval
  | some _ => r.pacing.retryInterval

/-- What a task makes known of a result, after it is counted. -/
def TaskCall.remarks (call : TaskCall) (failure : Option String) (i : Identity) (r : Registrar) :
    Journal :=
  match call, failure with
  | .register, none => [.logged (.registered i r.registry.interval), .gauged true]
  | .register, some reason =>
    [.logged (.registrationFailed i (.register reason) r.pacing.retryInterval)]
  | .heartbeat, none => []
  | .heartbeat, some reason => [.logged (.heartbeatFailed i (.heartbeat reason)), .gauged false]

/-- The gauge is reset where a task stops that was alive. -/
def Scope.gaugeReset (c : Scope) : Journal := if c.isAlive then [.gauged false] else []

/-- What a watcher makes known after its call has ended: the result, then that the registrar has let go
    of the scope, and after a signal that the process is to end. -/
def Scope.closing (c : Scope) (now index : Nat) (failure : Option String) (signalled : Bool) :
    Journal :=
  [.counted .deregister failure.isNone, .logged (Turn.deregistrationLine c.identity failure),
    .released now c.owner index] ++ if signalled then [.exited c.owner Turn.signalExitCode] else []

@[simp]
theorem Scope.mem_closing {c : Scope} {now index : Nat} {failure : Option String} {signalled : Bool}
    {e : JournalEntry} : e ∈ c.closing now index failure signalled ↔
      e = .counted .deregister failure.isNone ∨
      e = .logged (Turn.deregistrationLine c.identity failure) ∨ e = .released now c.owner index ∨
      (signalled = true ∧ e = .exited c.owner Turn.signalExitCode) := by
  cases signalled <;> simp [Scope.closing]

/-- The registrar after a call has taken its outcome. -/
def Registrar.afterCall (r : Registrar) (call : RegistryCall) : Registrar :=
  r.withRegistry (r.registry.called call)

/-- The registrar after a call has ended. -/
def Registrar.afterAnswer (r : Registrar) (call : RegistryCall) (failure : Option String) :
    Registrar :=
  r.withRegistry (r.registry.answered call failure)

/-- The outcome of the next call of a kind. -/
def Registrar.outcome (r : Registrar) (call : RegistryCall) : CallOutcome :=
  (r.registry.script call).outcome

/-! ## The deeds -/

/-- **What a task can do** to scope number `index` and its registrar. -/
inductive TaskDeed (now index : Nat) (c : Scope) (r : Registrar) :
    Scope → Registrar → Journal → Prop where
  | stopped {due : Nat} {call : TaskCall} (h : c.task = .waiting due call)
      (hx : c.isCancelled = true) :
      TaskDeed now index c r { c with task := .stopped } r c.gaugeReset
  | started {due : Nat} {call : TaskCall} (h : c.task = .waiting due call)
      (hx : c.isCancelled = false) (hd : due ≤ now) :
      TaskDeed now index c r
        { c with
          task := .calling (now + (r.outcome call.call).latency.millis) call
            (r.outcome call.call).failure }
        (r.afterCall call.call) [.called now c.owner index call.call c.identity]
  | discarded {due : Nat} {call : TaskCall} {failure : Option String}
      (h : c.task = .calling due call failure) (hx : c.isCancelled = true) (hd : due ≤ now) :
      TaskDeed now index c r { c with task := .stopped } (r.afterAnswer call.call failure)
        (.answered now c.owner index call.call c.identity failure.isNone :: c.gaugeReset)
  | concluded {due : Nat} {call : TaskCall} {failure : Option String}
      (h : c.task = .calling due call failure) (hx : c.isCancelled = false) (hd : due ≤ now) :
      TaskDeed now index c r
        { c with
          task := .waiting (now + ((r.afterAnswer call.call failure).pause failure).millis)
            (TaskCall.following failure) }
        (r.afterAnswer call.call failure)
        (.answered now c.owner index call.call c.identity failure.isNone ::
          .counted call.call failure.isNone ::
          call.remarks failure c.identity (r.afterAnswer call.call failure))

/-- **What a watcher can do** that finds something in its mailbox. -/
inductive WatcherDeed (now index : Nat) (found : Reception) (c : Scope) (r : Registrar) :
    Scope → Registrar → Journal → Prop where
  | signalled {signal : TerminationSignal} (h : c.watcher = .watching)
      (hx : c.isCancelled = false) (hf : found = .signal signal) :
      WatcherDeed now index found c r
        { c with
          isCancelled := true
          watcher := .deregistering (now + (r.outcome .deregister).latency.millis)
            (r.outcome .deregister).failure true }
        (r.afterCall .deregister)
        [.logged (.signalReceived c.identity signal), .cancelled now c.owner index .signalled,
          .called now c.owner index .deregister c.identity]
  | began (h : c.watcher = .watching) (hx : c.isCancelled = true) :
      WatcherDeed now index found c r
        { c with
          watcher := .deregistering (now + (r.outcome .deregister).latency.millis)
            (r.outcome .deregister).failure false }
        (r.afterCall .deregister) [.called now c.owner index .deregister c.identity]
  | ended {due : Nat} {failure : Option String} {signalled : Bool}
      (h : c.watcher = .deregistering due failure signalled) (hd : due ≤ now) :
      WatcherDeed now index found c r { c with watcher := .finished }
        ((r.afterAnswer .deregister failure).release c.count)
        (.answered now c.owner index .deregister c.identity failure.isNone ::
          c.closing now index failure signalled)

namespace Turn

/-- A task throws away what comes after the cancellation. -/
theorem conclude_cancelled (now : Nat) (call : TaskCall) (failure : Option String) (t : Turn)
    (h : t.scope.isCancelled = true) : t.conclude now call failure = t.stop := if_pos h

/-- A task concludes from the result of a call as `following`, `pause` and `remarks` say. -/
theorem conclude_eq (now : Nat) (call : TaskCall) (failure : Option String) (t : Turn)
    (h : t.scope.isCancelled = false) :
    t.conclude now call failure =
      ⟨{ t.scope with
          task := .waiting (now + (t.registrar.pause failure).millis)
            (TaskCall.following failure) }, t.registrar,
        t.report ++ .counted call.call failure.isNone ::
          call.remarks failure t.scope.identity t.registrar⟩ := by
  cases call <;> cases failure <;>
    simp [conclude, h, tell, keepAlive, retry, enter, Turn.identity, TaskCall.following,
      Registrar.pause, TaskCall.remarks]

/-- **A step of a task is a deed or nothing.** -/
theorem stepTask_deed (now index : Nat) (t : Turn) :
    t.stepTask now index = t ∨
      ∃ c r es, TaskDeed now index t.scope t.registrar c r es ∧
        t.stepTask now index = ⟨c, r, t.report ++ es⟩ := by
  obtain ⟨c, r, report⟩ := t
  unfold stepTask
  split
  · rename_i due call hwait
    simp only at hwait ⊢
    split
    · rename_i hx
      exact .inr ⟨_, _, _, .stopped hwait hx, rfl⟩
    · rename_i hx
      split
      · exact .inl rfl
      · rename_i hnow
        exact .inr ⟨_, _, _, .started hwait (Bool.eq_false_iff.2 hx) (Nat.le_of_not_lt hnow), rfl⟩
  · rename_i due call failure hcall
    simp only at hcall ⊢
    split
    · exact .inl rfl
    · rename_i hnow
      have hd : due ≤ now := Nat.le_of_not_lt hnow
      -- the call has ended: what it brought counts only while the scope lives
      cases hx : c.isCancelled with
      | true =>
        refine .inr ⟨_, _, _, .discarded hcall hx hd, ?_⟩
        rw [conclude_cancelled now call failure _ hx]
        simp only [stop, enter, answer, tell, List.append_assoc, List.cons_append, List.nil_append]
        rfl
      | false =>
        refine .inr ⟨_, _, _, .concluded hcall hx hd, ?_⟩
        rw [conclude_eq now call failure _ hx]
        simp [answer, tell, Turn.identity, Registrar.afterAnswer]
  · exact .inl rfl

/-- **A step of a watcher is a deed or nothing.** -/
theorem stepWatcher_deed (now index : Nat) (found : Reception) (t : Turn) :
    t.stepWatcher now index found = t ∨
      ∃ c r es, WatcherDeed now index found t.scope t.registrar c r es ∧
        t.stepWatcher now index found = ⟨c, r, t.report ++ es⟩ := by
  obtain ⟨c, r, report⟩ := t
  unfold stepWatcher
  split
  · rename_i hwatch
    simp only at hwatch ⊢
    split
    · rename_i hx
      exact .inr ⟨_, _, _, .began hwatch hx, rfl⟩
    · rename_i hx
      split
      · rename_i signal
        refine .inr ⟨_, _, _, .signalled hwatch (Bool.eq_false_iff.2 hx) rfl, ?_⟩
        simp [beginDeregistration, Turn.cancel, start, tell, enterWatch, Turn.outcome,
          Turn.identity, Registrar.outcome, Registrar.afterCall]
      · exact .inl rfl
  · rename_i due failure signalled hder
    simp only at hder ⊢
    split
    · exact .inl rfl
    · rename_i hnow
      refine .inr ⟨_, _, _, .ended hder (Nat.le_of_not_lt hnow), ?_⟩
      simp [endDeregistration, Turn.release, askToEnd, answer, tell, enterWatch, Turn.identity,
        Registrar.afterAnswer, Scope.closing]
  · exact .inl rfl

end Turn

/-! ## What no deed changes -/

/-- What a scope is, apart from how far it has come. -/
structure Scope.SameScope (c c' : Scope) : Prop where
  owner : c'.owner = c.owner
  count : c'.count = c.count
  identity : c'.identity = c.identity

section

variable {now index : Nat} {found : Reception} {c c' : Scope} {r r' : Registrar} {es : Journal}

theorem TaskDeed.same (h : TaskDeed now index c r c' r' es) : c.SameScope c' := by
  cases h <;> exact ⟨rfl, rfl, rfl⟩

theorem WatcherDeed.same (h : WatcherDeed now index found c r c' r' es) : c.SameScope c' := by
  cases h <;> exact ⟨rfl, rfl, rfl⟩

/-- A task changes nothing of its scope but its own phase. -/
theorem TaskDeed.scope_eq (h : TaskDeed now index c r c' r' es) :
    c' = { c with task := c'.task } := by
  cases h <;> rfl

theorem TaskDeed.memory_eq (h : TaskDeed now index c r c' r' es) : r'.memory = r.memory := by
  cases h <;> rfl

/-- A watcher never touches the phase of the task. -/
theorem WatcherDeed.task_eq (h : WatcherDeed now index found c r c' r' es) :
    c'.task = c.task := by
  cases h <;> rfl

end

end LeaseKeeper

/-
  Scopes.

  A scope is the time in which a registrar keeps one identity registered.  Two workers serve it:

    * the task registers the identity after a short wait and then sends signs of life; when a call
      fails it waits and registers again;
    * the watcher waits for a signal or for the scope's cancellation, cancels the scope in the first
      case, and then takes the identity off the registry, once.

  A worker acts in turns.  In a turn it goes on until it must wait, and nobody else acts meanwhile.
  A task that waits sees a cancellation before it sees that its time has come; a call in flight is
  not interrupted, but what it brings after a cancellation is thrown away.
-/
import LeaseKeeper.Lifecycle.Journal
import LeaseKeeper.Lifecycle.Registrar
import LeaseKeeper.Signal.Subscription

namespace LeaseKeeper

/-- **What a task is doing.** -/
inductive TaskPhase where
  /-- Waiting until a time, then making a call. -/
  | waiting (due : Nat) (call : TaskCall)
  /-- In a call that ends at a time, and how. -/
  | calling (due : Nat) (call : TaskCall) (failure : Option String)
  | stopped
  deriving DecidableEq, Repr

/-- **What a watcher is doing.** -/
inductive WatcherPhase where
  | watching
  /-- In the call that ends at a time, and how; `signalled` if a signal was the cause. -/
  | deregistering (due : Nat) (failure : Option String) (signalled : Bool)
  | finished
  deriving DecidableEq, Repr

/-- **A scope.** -/
structure Scope where
  /-- The registrar that started it. -/
  owner : Nat
  /-- Its count among the scopes of this registrar, from one. -/
  count : Nat
  identity : Identity
  isCancelled : Bool := false
  watcher : WatcherPhase := .watching
  task : TaskPhase
  deriving DecidableEq, Repr

namespace Scope

/-- A task is alive while its last call was a success: it waits to send a sign of life, or is sending
    it. -/
def isAlive (s : Scope) : Bool :=
  match s.task with
  | .waiting _ call => call == .heartbeat
  | .calling _ call _ => call == .heartbeat
  | .stopped => false

/-- When the task must act next. -/
def taskDue? (s : Scope) : Option Nat :=
  match s.task with
  | .waiting due _ => some due
  | .calling due _ _ => some due
  | .stopped => none

/-- When the watcher must act next. -/
def watcherDue? (s : Scope) : Option Nat :=
  match s.watcher with
  | .deregistering due _ _ => some due
  | _ => none

/-- Whether the task would notice a cancellation. -/
def taskIsWaiting (s : Scope) : Bool := s.task matches .waiting ..

/-- Whether the watcher would notice a signal or a cancellation. -/
def isWatched (s : Scope) : Bool := s.watcher == .watching

end Scope

/-! ## Turns -/

/-- **What a worker sees and changes in its turn**: its scope, the registrar, and what it makes known
    meanwhile. -/
structure Turn where
  scope : Scope
  registrar : Registrar
  report : Journal := []

namespace Turn

/-- Make something known. -/
def tell (t : Turn) (entries : Journal) : Turn := { t with report := t.report ++ entries }

/-- The identity that is announced. -/
def identity (t : Turn) : Identity := t.scope.identity

/-- The outcome of the next call. -/
def outcome (t : Turn) (call : RegistryCall) : CallOutcome :=
  (t.registrar.registry.script call).outcome

/-- Start a call: it takes the next outcome. -/
def start (now index : Nat) (call : RegistryCall) (t : Turn) : Turn :=
  { t with registrar := t.registrar.withRegistry (t.registrar.registry.called call) }.tell
    [.called now t.scope.owner index call t.identity]

/-- A call ends. -/
def answer (now index : Nat) (call : RegistryCall) (failure : Option String) (t : Turn) : Turn :=
  { t with registrar := t.registrar.withRegistry (t.registrar.registry.answered call failure) }.tell
    [.answered now t.scope.owner index call t.identity failure.isNone]

/-! ### The task -/

/-- Go on to a phase. -/
def enter (phase : TaskPhase) (t : Turn) : Turn :=
  { t with scope := { t.scope with task := phase } }

/-- **Stop.**  A task that was alive resets the gauge. -/
def stop (t : Turn) : Turn :=
  (t.tell (if t.scope.isAlive then [.gauged false] else [])).enter .stopped

/-- Wait for the retry interval, then register. -/
def retry (now : Nat) (t : Turn) : Turn :=
  t.enter (.waiting (now + t.registrar.pacing.retryInterval.millis) .register)

/-- Wait for the interval that the registry wants, then send a sign of life. -/
def keepAlive (now : Nat) (t : Turn) : Turn :=
  t.enter (.waiting (now + t.registrar.registry.interval.millis) .heartbeat)

/-- **What follows from the result of a call.** -/
def conclude (now : Nat) (call : TaskCall) (failure : Option String) (t : Turn) : Turn :=
  if t.scope.isCancelled then t.stop
  else
    let t := t.tell [.counted call.call failure.isNone]
    match call, failure with
    | .register, none =>
      (t.tell [.logged (.registered t.identity t.registrar.registry.interval),
        .gauged true]).keepAlive now
    | .register, some reason =>
      (t.tell [.logged (.registrationFailed t.identity (.register reason)
        t.registrar.pacing.retryInterval)]).retry now
    | .heartbeat, none => t.keepAlive now
    | .heartbeat, some reason =>
      (t.tell [.logged (.heartbeatFailed t.identity (.heartbeat reason)), .gauged false]).retry now

/-- **One step of the task.**  Nothing happens before its time has come. -/
def stepTask (now index : Nat) (t : Turn) : Turn :=
  match t.scope.task with
  | .waiting due call =>
    if t.scope.isCancelled then t.stop
    else if now < due then t
    else
      let o := t.outcome call.call
      (t.start now index call.call).enter (.calling (now + o.latency.millis) call o.failure)
  | .calling due call failure =>
    if now < due then t
    else (t.answer now index call.call failure).conclude now call failure
  | .stopped => t

/-- Several steps of the task. -/
def stepsOfTask (now index : Nat) : Nat → Turn → Turn
  | 0, t => t
  | n + 1, t => stepsOfTask now index n (t.stepTask now index)

/-- The steps after which a task waits for something: two for every outcome that is queued, and for
    one more call. -/
def taskSteps (t : Turn) : Nat := 2 * t.registrar.registry.queuedCount + 4

/-- **The turn of a task.** -/
def runTask (now index : Nat) (t : Turn) : Turn := stepsOfTask now index t.taskSteps t

/-! ### The watcher -/

/-- Go on to a phase. -/
def enterWatch (phase : WatcherPhase) (t : Turn) : Turn :=
  { t with scope := { t.scope with watcher := phase } }

/-- Cancel the scope because of a signal. -/
def cancel (now index : Nat) (t : Turn) : Turn :=
  { t with scope := { t.scope with isCancelled := true } }.tell
    [.cancelled now t.scope.owner index .signalled]

/-- **Start to take the identity off the registry.** -/
def beginDeregistration (now index : Nat) (signalled : Bool) (t : Turn) : Turn :=
  let o := t.outcome .deregister
  (t.start now index .deregister).enterWatch
    (.deregistering (now + o.latency.millis) o.failure signalled)

/-- The code with which a process ends after a signal. -/
def signalExitCode : Nat := 1

/-- What is logged of a deregistration. -/
def deregistrationLine (i : Identity) : Option String → LogLine
  | none => .deregistered i
  | some reason => .deregistrationFailed i (.deregister reason)

/-- **Let go of the scope**: the registrar forgets it, unless it has started another one since. -/
def release (now index : Nat) (t : Turn) : Turn :=
  { t with registrar := t.registrar.release t.scope.count }.tell
    [.released now t.scope.owner index]

/-- Ask the process to end if a signal was the cause. -/
def askToEnd (signalled : Bool) (t : Turn) : Turn :=
  t.tell (if signalled then [.exited t.scope.owner signalExitCode] else [])

/-- **The identity was taken off the registry**, or could not be: the result is counted and logged, the
    registrar lets go of the scope, and only then, after a signal, is the process to end. -/
def endDeregistration (now index : Nat) (failure : Option String) (signalled : Bool)
    (t : Turn) : Turn :=
  let t := (t.answer now index .deregister failure).tell
    [.counted .deregister failure.isNone, .logged (deregistrationLine t.identity failure)]
  ((t.release now index).askToEnd signalled).enterWatch .finished

/-- **One step of the watcher**, which finds `reception` in its mailbox.  A cancellation counts before
    a signal. -/
def stepWatcher (now index : Nat) (reception : Reception) (t : Turn) : Turn :=
  match t.scope.watcher with
  | .watching =>
    if t.scope.isCancelled then t.beginDeregistration now index false
    else
      match reception with
      | .signal s =>
        ((t.tell [.logged (.signalReceived t.identity s)]).cancel now index).beginDeregistration
          now index true
      | _ => t
  | .deregistering due failure signalled =>
    if now < due then t else t.endDeregistration now index failure signalled
  | .finished => t

/-- **The turn of a watcher**: it may start and end its call at once. -/
def runWatcher (now index : Nat) (reception : Reception) (t : Turn) : Turn :=
  (t.stepWatcher now index reception).stepWatcher now index .pending

end Turn

end LeaseKeeper

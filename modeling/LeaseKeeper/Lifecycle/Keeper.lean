/-
  Several registrars in one process.

  A `Keeper` holds registrars that share one clock and one source of signals, and the scopes that
  they have started.  Enabling, disabling and dropping a registrar and raising a signal only change
  what is remembered and put workers in line (`ready`); the workers take their turns while time
  passes (`Keeper.sleep`), in the order in which they were put in line.

  The clock counts milliseconds and jumps from one instant at which somebody must act to the next.
  Whoever must act at the very instant at which a sleep ends is put in line and acts when time passes
  again.
-/
import LeaseKeeper.Lifecycle.Scope

namespace LeaseKeeper

/-- The two workers of a scope. -/
inductive Worker where
  | watcher
  | task
  deriving DecidableEq, Repr

/-- **A worker of one scope.** -/
structure Actor where
  scope : Nat
  worker : Worker
  deriving DecidableEq, Repr

/-- **Registrars, their scopes, and what they share.**  Registrars and scopes go by their places in
    the lists; the subscription of a scope has the scope's number. -/
structure Keeper where
  now : Nat := 0
  registrars : List Registrar
  scopes : List Scope := []
  subscriptions : Subscriptions := {}
  /-- Who takes the next turns. -/
  ready : List Actor := []
  journal : Journal := []

namespace Keeper

/-! ## Small changes -/

/-- Make something known. -/
def tell (s : Keeper) (entries : Journal) : Keeper := { s with journal := s.journal ++ entries }

/-- Put another registrar in place of one. -/
def setRegistrar (s : Keeper) (number : Nat) (r : Registrar) : Keeper :=
  { s with registrars := s.registrars.set number r }

/-- Put another scope in place of one. -/
def setScope (s : Keeper) (number : Nat) (c : Scope) : Keeper :=
  { s with scopes := s.scopes.set number c }

/-- **Put an actor in line**, if it is not there. -/
def wake (s : Keeper) (a : Actor) : Keeper :=
  if a ∈ s.ready then s else { s with ready := s.ready ++ [a] }

/-- Put an actor in line on a condition. -/
def wakeIf (s : Keeper) (condition : Bool) (a : Actor) : Keeper :=
  if condition then s.wake a else s

/-- Wake the watcher of a scope if it is waiting. -/
def wakeWatcher (s : Keeper) (number : Nat) : Keeper :=
  s.wakeIf (s.scopes[number]?.any Scope.isWatched) ⟨number, .watcher⟩

/-- Wake the task of a scope if it would notice a cancellation. -/
def wakeTask (s : Keeper) (number : Nat) : Keeper :=
  s.wakeIf (s.scopes[number]?.any Scope.taskIsWaiting) ⟨number, .task⟩

/-- **Cancel a scope**, unless it is cancelled.  Both workers are woken, the watcher first. -/
def cancel (s : Keeper) (number : Nat) (cause : CancelCause) : Keeper :=
  match s.scopes[number]? with
  | none => s
  | some c =>
    if c.isCancelled then s
    else
      (((s.setScope number { c with isCancelled := true }).tell
        [.cancelled s.now c.owner number cause]).wakeWatcher number).wakeTask number

/-! ## Operations -/

/-- The code with which a process ends that could not start. -/
def startupExitCode : Nat := 1

/-- A registrar could not be enabled. -/
def failEnabling (s : Keeper) (number : Nat) (r : Registrar) (e : StartupError) : Keeper :=
  (s.setRegistrar number r).tell [.logged (.enableFailed e), .exited number startupExitCode]

/-- The next scope of a registrar: its task first waits for the startup delay. -/
def newScope (s : Keeper) (number : Nat) (r : Registrar) (i : Identity) : Scope where
  owner := number
  count := r.scopeCount + 1
  identity := i
  task := .waiting (s.now + r.pacing.startupDelay.millis) .register

/-- **Start a scope.**  Its subscription closes the newest until then, whose watcher notices. -/
def beginScope (s : Keeper) (number : Nat) (r : Registrar) (i : Identity) : Keeper :=
  let index := s.scopes.length
  let s := s.wakeWatcher (index - 1)
  let s : Keeper := { s with
    subscriptions := s.subscriptions.subscribe
    scopes := s.scopes ++ [s.newScope number r i]
    ready := s.ready ++ [Actor.mk index .watcher, Actor.mk index .task] }
  (s.setRegistrar number (r.begin index i)).tell
    [.began s.now number index i, .logged (.enabled i r.pacing.retryInterval)]

/-- **Enable a registrar.**  Nothing happens if it is enabled; otherwise a scope starts, or the process
    is asked to end. -/
def enable (s : Keeper) (number : Nat) : Keeper :=
  match s.registrars[number]? with
  | none => s
  | some r =>
    if r.isDropped || r.isEnabled then s
    else
      match r.clientFault?, r.identity, r.signalFault? with
      | some reason, _, _ => s.failEnabling number r.acquiring (.client (.unavailable reason))
      | none, .error e, _ => s.failEnabling number r.acquiring (.identity e)
      | none, .ok _, some reason =>
        s.failEnabling number r.acquiring.subscribing (.signals reason)
      | none, .ok i, none => s.beginScope number r.acquiring.subscribing i

/-- **Disable a registrar**: cancel its scope without waiting for the end of it. -/
def disable (s : Keeper) (number : Nat) : Keeper :=
  match s.registrars[number]? with
  | none => s
  | some r =>
    match r.isDropped, r.current with
    | false, some scope =>
      ((s.setRegistrar number { r with current := none }).cancel scope .disabled).tell
        [.logged .disabled]
    | _, _ => s

/-- **Drop a registrar**: its scope is cancelled, and it can do nothing more. -/
def dropRegistrar (s : Keeper) (number : Nat) : Keeper :=
  match s.registrars[number]? with
  | none => s
  | some r =>
    if r.isDropped then s
    else
      let s := s.setRegistrar number { r with isDropped := true }
      match r.current with
      | none => s
      | some scope => s.cancel scope .dropped

/-- Whether a signal would be accepted. -/
def acceptsSignal (s : Keeper) : Bool := s.subscriptions.accepts .manual

/-- **Raise a signal.**  If it is accepted, the newest scope's watcher notices. -/
def raise (s : Keeper) (signal : TerminationSignal) : Keeper :=
  if s.acceptsSignal then
    ({ s with subscriptions := s.subscriptions.raise .manual signal }).wakeWatcher
      (s.scopes.length - 1)
  else s

/-- Change the registry of a registrar. -/
def modifyRegistry (s : Keeper) (number : Nat) (f : ScriptedRegistry → ScriptedRegistry) :
    Keeper :=
  match s.registrars[number]? with
  | none => s
  | some r => s.setRegistrar number (r.withRegistry (f r.registry))

/-! ## Turns -/

/-- **A task takes its turn.** -/
def taskTurn (s : Keeper) (number : Nat) (c : Scope) (r : Registrar) : Keeper :=
  let t := Turn.runTask s.now number ⟨c, r, []⟩
  ((s.setScope number t.scope).setRegistrar c.owner t.registrar).tell t.report

/-- **A watcher takes its turn.**  Once it has stopped waiting it gives its subscription up; if it was
    a signal that it found, it cancels the scope, which the task notices. -/
def watcherTurn (s : Keeper) (number : Nat) (c : Scope) (r : Registrar) : Keeper :=
  let t := Turn.runWatcher s.now number (s.subscriptions.reception number) ⟨c, r, []⟩
  let s := ((s.setScope number t.scope).setRegistrar c.owner t.registrar).tell t.report
  let s := if c.isWatched && !t.scope.isWatched then
    { s with subscriptions := s.subscriptions.drop number } else s
  if c.isCancelled then s
  else if t.scope.isCancelled then s.wakeTask number
  else s

/-- **An actor takes its turn.** -/
def turn (s : Keeper) (a : Actor) : Keeper :=
  match s.scopes[a.scope]? with
  | none => s
  | some c =>
    match s.registrars[c.owner]? with
    | none => s
    | some r =>
      match a.worker with
      | .task => s.taskTurn a.scope c r
      | .watcher => s.watcherTurn a.scope c r

/-- **The first in line takes its turn.** -/
def step (s : Keeper) : Keeper :=
  match s.ready with
  | [] => s
  | a :: rest => ({ s with ready := rest }).turn a

/-- Several turns. -/
def steps : Nat → Keeper → Keeper
  | 0, s => s
  | n + 1, s => steps n s.step

/-- **Everyone in line takes a turn.**  A turn puts at most the task of its own scope in line, and
    only when the scope is cancelled by it, so there are at most as many turns as actors in line and
    scopes. -/
def settle (s : Keeper) : Keeper := steps (s.ready.length + s.scopes.length) s

/-! ## Time -/

/-- When the workers of all scopes must act next. -/
def dues (s : Keeper) : List Nat :=
  s.scopes.flatMap fun c => c.watcherDue?.toList ++ c.taskDue?.toList

/-- Put the workers of one scope in line that must act by now. -/
def wakeDueIn (s : Keeper) (number : Nat) : Keeper :=
  match s.scopes[number]? with
  | none => s
  | some c =>
    (s.wakeIf (c.watcherDue?.any (· ≤ s.now)) ⟨number, .watcher⟩).wakeIf
      (c.taskDue?.any (· ≤ s.now)) ⟨number, .task⟩

/-- **Move the clock**, and put in line everyone who must act by then. -/
def advance (s : Keeper) (time : Nat) : Keeper :=
  (List.range s.scopes.length).foldl wakeDueIn { s with now := time }

/-- The next instant at which somebody must act, or `target` if that comes first. -/
def nextInstant (s : Keeper) (target : Nat) : Nat :=
  max (s.now + 1) (s.dues.foldl min target)

/-- Let time pass until `target`.  Every move of the clock takes at least a millisecond, which bounds
    their number. -/
def passUntil (target : Nat) : Nat → Keeper → Keeper
  | 0, s => s
  | fuel + 1, s =>
    let s := s.settle
    let next := s.nextInstant target
    if next < target then passUntil target fuel (s.advance next) else s.advance target

/-- **Let time pass.** -/
def sleep (s : Keeper) (d : Duration) : Keeper := passUntil (s.now + d.millis) d.millis s

end Keeper

end LeaseKeeper

/-
  Forwarders of system signals.

  The system puts nothing into mailboxes: it tells a signal to everybody who listens.  For every
  subscription one FORWARDER listens.  It waits for the first of the three signals, or for the news
  that the subscription was replaced or that nobody receives any more, and heeds whatever comes
  first.  A signal goes into the subscription's mailbox; then, as after any other news, the forwarder
  ends and closes the mailbox.

  Forwarders act on their own.  `SystemSignals.after` lets each of them act after every step, until it
  has nothing left to do, so that a signal is delivered in full before the next step.  Which news is
  heeded of several that are there at once is left open (`Choice`).
-/
import LeaseKeeper.Signal.Subscription

namespace LeaseKeeper

/-- **What a forwarder waits for.** -/
inductive News where
  | raised (signal : TerminationSignal)
  | replaced
  | abandoned
  deriving DecidableEq, Repr

/-- **Which news is heeded** of several, by the forwarder of each subscription. -/
structure Choice where
  pick : Nat → (news : List News) → news ≠ [] → News
  pick_mem : ∀ number news h, pick number news h ∈ news

/-- The first of several news is heeded. -/
def Choice.first : Choice where
  pick _ news h := news.head h
  pick_mem _ _ h := List.head_mem h

/-- **What a forwarder is doing.** -/
inductive ForwarderPhase where
  | listening
  /-- Waiting for room in the mailbox. -/
  | delivering (signal : TerminationSignal)
  | ended
  deriving DecidableEq, Repr

/-- **A forwarder and the mailbox that it fills.** -/
structure Forwarder where
  mailbox : Mailbox := .fresh
  phase : ForwarderPhase := .listening
  /-- The signals that it has been told, each once, and has not heeded. -/
  heard : List TerminationSignal := []
  isReplaced : Bool := false
  deriving DecidableEq, Repr

namespace Forwarder

/-- What a forwarder finds. -/
def news (f : Forwarder) : List News :=
  f.heard.map .raised ++ (if f.isReplaced then [.replaced] else []) ++
    (if f.mailbox.isDropped then [.abandoned] else [])

/-- **End**, and let nothing more in. -/
def finish (f : Forwarder) : Forwarder := { f with mailbox := f.mailbox.close, phase := .ended }

/-- **Deliver a signal**, as soon as there is room for it. -/
def deliver (signal : TerminationSignal) (f : Forwarder) : Forwarder :=
  if f.mailbox.isDropped then f.finish
  else if f.mailbox.held.isSome then { f with phase := .delivering signal }
  else { f with mailbox := { f.mailbox with held := some signal } }.finish

/-- Heed a piece of news. -/
def heed (f : Forwarder) : News → Forwarder
  | .raised signal => f.deliver signal
  | .replaced => f.finish
  | .abandoned => f.finish

/-- **Act until there is nothing left to do.** -/
def turn (c : Choice) (number : Nat) (f : Forwarder) : Forwarder :=
  match f.phase with
  | .listening => if h : f.news = [] then f else f.heed (c.pick number f.news h)
  | .delivering signal => f.deliver signal
  | .ended => f

/-- Be told a signal.  A signal that is told again before it is heeded counts once. -/
def hear (signal : TerminationSignal) (f : Forwarder) : Forwarder :=
  if f.phase = .ended ∨ signal ∈ f.heard then f else { f with heard := f.heard ++ [signal] }

/-- Be told that another subscription has been made. -/
def replace (f : Forwarder) : Forwarder := { f with isReplaced := true }

/-- The subscriber takes out what there is. -/
def empty (f : Forwarder) : Forwarder := { f with mailbox := f.mailbox.emptied }

/-- The subscriber loses interest, which stops the forwarder. -/
def abandon (f : Forwarder) : Forwarder := { f with mailbox := f.mailbox.discard, phase := .ended }

end Forwarder

/-- **All subscriptions to the signals of the system**, in the order in which they were made. -/
structure SystemSignals where
  forwarders : List Forwarder := []
  /-- The subscription that the next one replaces. -/
  current : Option Nat := none
  deriving DecidableEq, Repr

namespace SystemSignals

/-- Change the forwarder of one subscription. -/
def modify (s : SystemSignals) (number : Nat) (f : Forwarder → Forwarder) : SystemSignals :=
  { s with forwarders := s.forwarders.modify number f }

/-- Tell the forwarder of the subscription that is replaced. -/
def replaceCurrent (s : SystemSignals) : SystemSignals :=
  s.current.elim s fun number => s.modify number Forwarder.replace

/-- **Subscribe.** -/
def subscribe (s : SystemSignals) : SystemSignals where
  forwarders := s.replaceCurrent.forwarders ++ [{}]
  current := some s.forwarders.length

/-- **A signal is sent** to the process. -/
def raise (signal : TerminationSignal) (s : SystemSignals) : SystemSignals :=
  { s with forwarders := s.forwarders.map (Forwarder.hear signal) }

/-- **What a subscription finds.** -/
def reception (s : SystemSignals) (number : Nat) : Reception :=
  (s.forwarders[number]?).elim .dropped (·.mailbox.reception)

/-- Every forwarder acts. -/
def settle (c : Choice) (s : SystemSignals) : SystemSignals :=
  { s with forwarders := s.forwarders.mapIdx (Forwarder.turn c) }

/-- What a step does by itself. -/
def perform (s : SystemSignals) : SignalStep → SystemSignals
  | .subscribe => s.subscribe
  | .raise signal => s.raise signal
  | .receive number => s.modify number Forwarder.empty
  | .drop number => s.modify number Forwarder.abandon

/-- **The subscriptions after a step** and all that it sets going. -/
def after (c : Choice) (s : SystemSignals) (step : SignalStep) : SystemSignals :=
  (s.perform step).settle c

/-- The answer to a step.  The system accepts every signal. -/
def answer (s : SystemSignals) : SignalStep → SignalAnswer
  | .subscribe => .subscribed s.forwarders.length
  | .raise _ => .raised true
  | .receive number => .received (s.reception number)
  | .drop _ => .dropped

/-- **The answers to a sequence of steps**, with a choice for each of them. -/
def run (choices : Nat → Choice) (s : SystemSignals) : List SignalStep → List SignalAnswer
  | [] => []
  | step :: rest =>
    s.answer step :: (s.after (choices 0) step).run (fun n => choices (n + 1)) rest

end SystemSignals

end LeaseKeeper

/-
  Subscriptions to termination signals.

  A subscription is a mailbox for one signal.  Subscribing again closes the mailbox that was the
  newest until then: what it holds can still be taken out, but nothing more is put in.  So only the
  newest subscription ever gets a signal.

  Signals come from one of two sources.  Those raised by hand (`SignalSource.manual`) fill the newest
  mailbox whenever it is empty, and the one who raises learns whether it was.  Of those that the
  system sends (`SignalSource.system`) a mailbox takes the first and is closed with it.
-/
import LeaseKeeper.Signal.Basic

namespace LeaseKeeper

/-- **Where signals come from.** -/
inductive SignalSource where
  | manual
  | system
  deriving DecidableEq, Repr, Inhabited

/-- **A place for one signal.** -/
structure Mailbox where
  held : Option TerminationSignal := none
  /-- Whether a signal may still be put in. -/
  isOpen : Bool := true
  /-- Whether the one who subscribed has lost interest. -/
  isDropped : Bool := false
  deriving DecidableEq, Repr, Inhabited

/-- **What a subscriber finds.** -/
inductive Reception where
  | signal (s : TerminationSignal)
  | pending
  | closed
  | dropped
  deriving DecidableEq, Repr, Inhabited

namespace Mailbox

/-- An empty mailbox. -/
def fresh : Mailbox := {}

/-- Let nothing more in. -/
def close (b : Mailbox) : Mailbox := { b with isOpen := false }

/-- Give up what is in and what may come. -/
def discard (_ : Mailbox) : Mailbox := { isOpen := false, isDropped := true }

/-- Whether a signal can be put in. -/
def hasRoom (b : Mailbox) : Bool := b.isOpen && b.held.isNone

/-- Put a signal in; the system puts in only one. -/
def put (source : SignalSource) (s : TerminationSignal) (b : Mailbox) : Mailbox :=
  { b with held := some s, isOpen := b.isOpen && source == .manual }

/-- What is found inside. -/
def reception (b : Mailbox) : Reception :=
  match b.held with
  | some s => .signal s
  | none => if b.isDropped then .dropped else if b.isOpen then .pending else .closed

/-- A mailbox after what it held was taken out. -/
def emptied (b : Mailbox) : Mailbox := { b with held := none }

end Mailbox

/-- **All subscriptions**, in the order in which they were made; the last is the newest. -/
structure Subscriptions where
  mailboxes : List Mailbox := []
  deriving DecidableEq, Repr, Inhabited

namespace Subscriptions

/-- The number of the newest subscription. -/
def newest? (s : Subscriptions) : Option Nat :=
  if s.mailboxes.isEmpty then none else some (s.mailboxes.length - 1)

/-- The newest mailbox has room for a signal. -/
def hasRoom (s : Subscriptions) : Bool := s.mailboxes.getLast?.any Mailbox.hasRoom

/-- Change the mailbox of one subscription. -/
def modify (s : Subscriptions) (number : Nat) (f : Mailbox → Mailbox) : Subscriptions :=
  ⟨s.mailboxes.modify number f⟩

/-- Change the newest mailbox. -/
def modifyNewest (s : Subscriptions) (f : Mailbox → Mailbox) : Subscriptions :=
  s.modify (s.mailboxes.length - 1) f

/-- **Subscribe.**  The new subscription's number is the count of those before it. -/
def subscribe (s : Subscriptions) : Subscriptions :=
  ⟨(s.modifyNewest Mailbox.close).mailboxes ++ [.fresh]⟩

/-- **Raise a signal.** -/
def raise (source : SignalSource) (signal : TerminationSignal) (s : Subscriptions) :
    Subscriptions :=
  if s.hasRoom then s.modifyNewest (Mailbox.put source signal) else s

/-- Whether the one who raises a signal is told that it was accepted.  The system always accepts. -/
def accepts (source : SignalSource) (s : Subscriptions) : Bool := source == .system || s.hasRoom

/-- **What a subscription finds.** -/
def reception (s : Subscriptions) (number : Nat) : Reception :=
  (s.mailboxes[number]?).elim .dropped Mailbox.reception

/-- The subscriptions after one of them has looked. -/
def received (s : Subscriptions) (number : Nat) : Subscriptions := s.modify number Mailbox.emptied

/-- **Give a subscription up.** -/
def drop (s : Subscriptions) (number : Nat) : Subscriptions := s.modify number Mailbox.discard

end Subscriptions

/-! ## Sequences of steps -/

/-- **What can be done with subscriptions.** -/
inductive SignalStep where
  | subscribe
  | raise (signal : TerminationSignal)
  | receive (number : Nat)
  | drop (number : Nat)
  deriving DecidableEq, Repr

/-- **What is answered.** -/
inductive SignalAnswer where
  | subscribed (number : Nat)
  | raised (accepted : Bool)
  | received (what : Reception)
  | dropped
  deriving DecidableEq, Repr

namespace Subscriptions

/-- The subscriptions after a step. -/
def after (source : SignalSource) (s : Subscriptions) : SignalStep → Subscriptions
  | .subscribe => s.subscribe
  | .raise signal => s.raise source signal
  | .receive number => s.received number
  | .drop number => s.drop number

/-- The answer to a step. -/
def answer (source : SignalSource) (s : Subscriptions) : SignalStep → SignalAnswer
  | .subscribe => .subscribed s.mailboxes.length
  | .raise _ => .raised (s.accepts source)
  | .receive number => .received (s.reception number)
  | .drop _ => .dropped

/-- **The answers to a sequence of steps.** -/
def run (source : SignalSource) (s : Subscriptions) : List SignalStep → List SignalAnswer
  | [] => []
  | step :: rest => s.answer source step :: (s.after source step).run source rest

end Subscriptions

end LeaseKeeper

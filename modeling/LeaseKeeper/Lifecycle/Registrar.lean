/-
  Registrars.

  A registrar announces one identity at a registry.  Enabling it starts a scope; the registrar
  remembers which scope may still be cancelled (`current`) and which identity is announced
  (`shown`), until that scope has ended.
-/
import LeaseKeeper.Config
import LeaseKeeper.Lifecycle.Registry

namespace LeaseKeeper

/-- **A registrar.** -/
structure Registrar where
  /-- Who is announced, as far as that can be found out. -/
  identity : Except IdentityError Identity
  pacing : Pacing := {}
  registry : ScriptedRegistry := {}
  /-- Why the next clients cannot be had, `none` for one that can. -/
  clientFaults : List (Option String) := []
  /-- Why the next subscriptions to signals fail, `none` for one that does not. -/
  signalFaults : List (Option String) := []
  /-- The scope that disabling cancels. -/
  current : Option Nat := none
  /-- The identity that is announced. -/
  shown : Option Identity := none
  /-- How many scopes were started. -/
  scopeCount : Nat := 0
  /-- How many clients were asked for. -/
  acquired : Nat := 0
  isDropped : Bool := false

namespace Registrar

/-- **Enabled**: there is a scope that could be cancelled. -/
def isEnabled (r : Registrar) : Bool := r.current.isSome

/-- The fault of the next client. -/
def clientFault? (r : Registrar) : Option String := r.clientFaults.head?.join

/-- The fault of the next subscription. -/
def signalFault? (r : Registrar) : Option String := r.signalFaults.head?.join

/-- The registrar after it asked for a client. -/
def acquiring (r : Registrar) : Registrar :=
  { r with acquired := r.acquired + 1, clientFaults := r.clientFaults.tail }

/-- The registrar after it asked for a subscription. -/
def subscribing (r : Registrar) : Registrar := { r with signalFaults := r.signalFaults.tail }

/-- **A registrar is built** only where there is something that will run its scopes. -/
def build? (hasRuntime : Bool) (r : Registrar) : Option Registrar :=
  if hasRuntime then some r else none

/-- **Start a scope** that goes by a number among all scopes. -/
def begin (r : Registrar) (scope : Nat) (identity : Identity) : Registrar :=
  { r with current := some scope, shown := some identity, scopeCount := r.scopeCount + 1 }

/-- **Forget a scope that has ended**, unless a later one was started meanwhile.  Here scopes go by
    their count in this registrar. -/
def release (r : Registrar) (count : Nat) : Registrar :=
  if r.scopeCount = count then { r with current := none, shown := none } else r

/-- The registrar with another registry. -/
def withRegistry (r : Registrar) (g : ScriptedRegistry) : Registrar := { r with registry := g }

end Registrar

end LeaseKeeper

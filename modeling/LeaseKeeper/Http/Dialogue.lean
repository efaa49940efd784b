/-
  Conversations with servers.

  A `Dialogue α` is a plan to find an `α` by asking servers: either the result is known, or a request
  is to be sent and its outcome decides how to go on.  A plan says nothing about how requests are
  carried out; `Dialogue.run` follows it on a network given as a function, and `Dialogue.perform` in
  any monad.
-/
import LeaseKeeper.Http.Request

namespace LeaseKeeper

/-- **A plan that asks servers.** -/
inductive Dialogue (α : Type) where
  | done (result : α)
  | ask (request : HttpRequest) (next : HttpOutcome → Dialogue α)

/-- **A network**: what becomes of a request, and the network after it. -/
def Network (σ : Type) : Type := HttpRequest → σ → HttpOutcome × σ

/-- A network in which nobody answers. -/
def Network.silent : Network Unit := fun _ s => (.unanswered, s)

namespace Dialogue

variable {α β σ : Type}

/-- Go on with the result of a plan. -/
def bind : Dialogue α → (α → Dialogue β) → Dialogue β
  | done result, f => f result
  | ask request next, f => ask request fun outcome => (next outcome).bind f

/-- Change the result of a plan. -/
def map (f : α → β) (d : Dialogue α) : Dialogue β := d.bind fun a => done (f a)

instance : Monad Dialogue where
  pure := done
  bind := bind

/-- **Follow a plan on a network**: the result, the requests in order, and the network after them. -/
def run (network : Network σ) : Dialogue α → σ → α × List HttpRequest × σ
  | done result, s => (result, [], s)
  | ask request next, s =>
    let (outcome, s) := network request s
    let (result, requests, s) := (next outcome).run network s
    (result, request :: requests, s)

/-- Changing the result of a plan changes nothing else: induction on the plan. -/
theorem run_map (f : α → β) (d : Dialogue α) (network : Network σ) (s : σ) :
    (d.map f).run network s = (f (d.run network s).1, (d.run network s).2) := by
  induction d generalizing s with
  | done result => rfl
  | ask request next ih =>
    let rest := ((next (network request s).1).map f).run network (network request s).2
    show (rest.1, request :: rest.2.1, rest.2.2) = _
    rw [show rest = _ from ih _ _]
    rfl

/-- Follow a plan with requests that are carried out in a monad. -/
def perform {m : Type → Type} [Monad m] (exchange : HttpRequest → m HttpOutcome) :
    Dialogue α → m α
  | done result => pure result
  | ask request next => do (next (← exchange request)).perform exchange

end Dialogue

end LeaseKeeper

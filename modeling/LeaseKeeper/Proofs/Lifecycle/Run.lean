/-
  Runs of a keeper.

  A keeper changes in MOVES.  Somebody uses a registrar (`enable`, `disable`, `drop`), a signal is
  raised, the world around a registrar changes (`supply`: another identity, another script of
  answers, other faults), a worker takes its turn, or time passes.  Moves come in any order, and
  workers may take their turns in any order too: the first in line (`step`) or anybody, in line or
  not (`turn`).  So what holds in every state that moves reach holds under every schedule, and in
  particular under that of `Keeper.sleep`, which is made of moves (`Reaches.sleep`).

  Nothing is assumed of the answers: a supply may come before every turn.
-/
import LeaseKeeper.Lifecycle.Keeper

namespace LeaseKeeper

/-! ## What a registrar is given, and what it remembers -/

/-- **What a registrar gets from outside**: who is announced, what the registry answers, and which
    clients and subscriptions cannot be had. -/
structure Provision where
  identity : Except IdentityError Identity
  registry : ScriptedRegistry
  clientFaults : List (Option String)
  signalFaults : List (Option String)

/-- **What a registrar remembers** of its scopes. -/
structure Memory where
  current : Option Nat
  shown : Option Identity
  scopeCount : Nat
  isDropped : Bool
  deriving DecidableEq

namespace Registrar

/-- The registrar in other surroundings. -/
def supplied (r : Registrar) (p : Provision) : Registrar :=
  { r with
    identity := p.identity
    registry := p.registry
    clientFaults := p.clientFaults
    signalFaults := p.signalFaults }

/-- What a registrar remembers. -/
def memory (r : Registrar) : Memory := ⟨r.current, r.shown, r.scopeCount, r.isDropped⟩

/-- A registrar that has not been used. -/
def IsNew (r : Registrar) : Prop := r.memory = ⟨none, none, 0, false⟩

instance (r : Registrar) : Decidable r.IsNew := inferInstanceAs (Decidable (_ = _))

end Registrar

namespace Keeper

/-- Change the surroundings of a registrar. -/
def supply (s : Keeper) (number : Nat) (p : Provision) : Keeper :=
  match s.registrars[number]? with
  | none => s
  | some r => s.setRegistrar number (r.supplied p)

/-! ## Moves -/

/-- **A move.** -/
inductive Move where
  | enable (number : Nat)
  | disable (number : Nat)
  | drop (number : Nat)
  | raise (signal : TerminationSignal)
  | supply (number : Nat) (p : Provision)
  /-- The first in line takes its turn. -/
  | step
  /-- Somebody takes a turn, in line or not. -/
  | turn (a : Actor)
  | pass (d : Duration)

/-- The keeper after a move. -/
def move (s : Keeper) : Move → Keeper
  | .enable number => s.enable number
  | .disable number => s.disable number
  | .drop number => s.dropRegistrar number
  | .raise signal => s.raise signal
  | .supply number p => s.supply number p
  | .step => s.step
  | .turn a => s.turn a
  | .pass d => s.advance (s.now + d.millis)

/-- **A later state of a run.** -/
inductive Reaches (s : Keeper) : Keeper → Prop where
  | refl : Reaches s s
  | move {t : Keeper} (h : Reaches s t) (m : Move) : Reaches s (t.move m)

/-- **A state of some run** that starts with registrars that have not been used. -/
def Reachable (s : Keeper) : Prop :=
  ∃ registrars : List Registrar,
    (∀ r ∈ registrars, r.IsNew) ∧ Reaches { registrars := registrars } s

theorem Reaches.trans {s t u : Keeper} (h : Reaches s t) (h' : Reaches t u) : Reaches s u := by
  induction h' with
  | refl => exact h
  | move _ m ih => exact ih.move m

theorem Reachable.reaches {s t : Keeper} (h : s.Reachable) (h' : Reaches s t) : t.Reachable := by
  obtain ⟨registrars, hnew, hs⟩ := h
  exact ⟨registrars, hnew, hs.trans h'⟩

theorem Reachable.move {s : Keeper} (h : s.Reachable) (m : Move) : (s.move m).Reachable :=
  h.reaches (Reaches.refl.move m)

theorem Reachable.enable {s : Keeper} (h : s.Reachable) (n : Nat) : (s.enable n).Reachable :=
  h.move (.enable n)

theorem Reachable.disable {s : Keeper} (h : s.Reachable) (n : Nat) : (s.disable n).Reachable :=
  h.move (.disable n)

/-! ## Letting time pass is made of moves -/

theorem reaches_steps (n : Nat) (s : Keeper) : Reaches s (steps n s) := by
  induction n generalizing s with
  | zero => exact .refl
  | succ n ih => exact (Reaches.refl.move .step).trans (ih s.step)

theorem reaches_settle (s : Keeper) : Reaches s s.settle := reaches_steps _ s

/-- The clock may move to any later time. -/
theorem reaches_advance {s : Keeper} {time : Nat} (h : s.now ≤ time) :
    Reaches s (s.advance time) := by
  have hmove : s.move (.pass ⟨time - s.now⟩) = s.advance time := by
    show s.advance (s.now + (time - s.now)) = _
    rw [Nat.add_sub_cancel' h]
  exact hmove ▸ Reaches.refl.move _

/-! ## What small changes leave alone

  Waking somebody only makes the line longer, by one place at most, and moving the clock does that
  and sets the time. -/

theorem wake_eq (s : Keeper) (a : Actor) :
    ∃ line, s.wake a = { s with ready := s.ready ++ line } := by
  unfold wake
  split
  · exact ⟨[], by simp⟩
  · exact ⟨[a], rfl⟩

theorem mem_wake (s : Keeper) (a : Actor) : a ∈ (s.wake a).ready := by
  unfold wake
  split
  · rename_i h
    exact h
  · exact List.mem_append_right _ (List.mem_singleton.2 rfl)

theorem wake_length (s : Keeper) (a : Actor) :
    (s.wake a).ready.length ≤ s.ready.length + 1 := by
  unfold wake
  split
  · exact Nat.le_succ _
  · exact Nat.le_of_eq (by rw [List.length_append, List.length_singleton])

theorem wakeIf_eq (s : Keeper) (b : Bool) (a : Actor) :
    ∃ line, s.wakeIf b a = { s with ready := s.ready ++ line } := by
  unfold wakeIf
  split
  · exact wake_eq s a
  · exact ⟨[], by simp⟩

theorem wakeWatcher_eq (s : Keeper) (number : Nat) :
    ∃ line, s.wakeWatcher number = { s with ready := s.ready ++ line } := wakeIf_eq s _ _

theorem mem_wakeIf {b : Bool} (h : b = true) (s : Keeper) (a : Actor) :
    a ∈ (s.wakeIf b a).ready := by
  rw [wakeIf, if_pos h]
  exact mem_wake s a

theorem wakeIf_length (s : Keeper) (b : Bool) (a : Actor) :
    (s.wakeIf b a).ready.length ≤ s.ready.length + 1 := by
  unfold wakeIf
  split
  · exact wake_length s a
  · exact Nat.le_succ _

theorem wakeDueIn_eq (s : Keeper) (number : Nat) :
    ∃ line, s.wakeDueIn number = { s with ready := s.ready ++ line } := by
  unfold wakeDueIn
  split
  · exact ⟨[], by simp⟩
  · rename_i c _
    obtain ⟨l, hl⟩ := wakeIf_eq s (c.watcherDue?.any (· ≤ s.now)) ⟨number, .watcher⟩
    obtain ⟨l', hl'⟩ := wakeIf_eq { s with ready := s.ready ++ l }
      (c.taskDue?.any (· ≤ s.now)) ⟨number, .task⟩
    exact ⟨l ++ l', by rw [hl, hl']; simp⟩

/-- Several scopes, one after the other. -/
theorem foldl_wakeDueIn_eq (numbers : List Nat) (s : Keeper) :
    ∃ line, numbers.foldl wakeDueIn s = { s with ready := s.ready ++ line } := by
  induction numbers generalizing s with
  | nil => exact ⟨[], by simp⟩
  | cons number rest ih =>
    obtain ⟨l, hl⟩ := wakeDueIn_eq s number
    obtain ⟨l', hl'⟩ := ih { s with ready := s.ready ++ l }
    exact ⟨l ++ l', by rw [List.foldl_cons, hl, hl']; simp⟩

theorem advance_eq (s : Keeper) (time : Nat) :
    ∃ line, s.advance time = { s with now := time, ready := s.ready ++ line } :=
  foldl_wakeDueIn_eq _ { s with now := time }

/-! ## A registrar to look at -/

/-- Whom the registrar announces. -/
def someone : Identity := .ofAddress "svc" "i-1" "10.0.0.5:8080"

/-- A keeper of one registrar that has not been used, and whose registry follows a script. -/
def alone (g : ScriptedRegistry) : Keeper where
  registrars := [{ identity := .ok someone, registry := g }]

theorem alone_reachable (g : ScriptedRegistry) : (alone g).Reachable := by
  refine ⟨(alone g).registrars, ?_, .refl⟩
  intro r hr
  rw [List.mem_singleton.1 hr]
  rfl

end Keeper

end LeaseKeeper

/-
  Runs in which nobody is late.

  A run is a list of moves (`Keeper.after`).  What is asked of a run besides its last state is
  collected on the way: `Keeper.observed` puts together what one sees in each move.

  A run is TIMELY if time passes only when nobody is in line, and never beyond an instant at which
  somebody must act.  Who takes a turn when, and how often, is left open, so a timely run may follow
  any schedule that lets nobody wait while time passes.  `Keeper.sleep` is one of them
  (`sleep_timely`): it is made of turns and of passing time alone, and it lets time pass only where
  that is allowed.

  What holds at the start and survives every move that is allowed holds after every timely run
  (`Timely.invariant`).
-/
import LeaseKeeper.Proofs.Lifecycle.Turns

namespace LeaseKeeper

namespace Keeper

/-! ## Several moves -/

/-- The keeper after several moves. -/
def after (s : Keeper) (ms : List Move) : Keeper := ms.foldl move s

/-- **What one sees in a run**, move by move. -/
def observed {α : Type} (look : Keeper → Move → List α) (s : Keeper) : List Move → List α
  | [] => []
  | m :: ms => look s m ++ (s.move m).observed look ms

section

variable {α : Type} (look : Keeper → Move → List α) (s : Keeper) (ms ms' : List Move) (m : Move)

theorem after_append : s.after (ms ++ ms') = (s.after ms).after ms' := List.foldl_append

theorem after_concat : s.after (ms ++ [m]) = (s.after ms).move m := after_append s ms [m]

theorem observed_append :
    s.observed look (ms ++ ms') = s.observed look ms ++ (s.after ms).observed look ms' := by
  induction ms generalizing s with
  | nil => rfl
  | cons m ms ih =>
    show look s m ++ (s.move m).observed look (ms ++ ms') = _
    rw [ih, ← List.append_assoc]
    rfl

theorem observed_concat :
    s.observed look (ms ++ [m]) = s.observed look ms ++ look (s.after ms) m := by
  rw [observed_append]
  exact congrArg _ (List.append_nil _)

theorem reaches_after : Reaches s (s.after ms) := by
  induction ms generalizing s with
  | nil => exact .refl
  | cons m ms ih => exact (Reaches.refl.move m).trans (ih (s.move m))

end

/-- Every run is a list of moves. -/
theorem Reaches.exists_after {s t : Keeper} (h : Reaches s t) : ∃ ms, s.after ms = t := by
  induction h with
  | refl => exact ⟨[], rfl⟩
  | move _ m ih =>
    obtain ⟨ms, rfl⟩ := ih
    exact ⟨ms ++ [m], after_concat s ms m⟩

theorem Reachable.after {s : Keeper} (h : s.Reachable) (ms : List Move) : (s.after ms).Reachable :=
  h.reaches (reaches_after s ms)

/-- A keeper of registrars that have not been used is a state of a run. -/
theorem reachable_start {registrars : List Registrar} (h : ∀ r ∈ registrars, r.IsNew) :
    Reachable { registrars := registrars } := ⟨registrars, h, .refl⟩

/-! ## Timely runs -/

/-- **Time may pass**: nobody is in line, and nobody who must act later is passed over. -/
structure MayPass (s : Keeper) (d : Duration) : Prop where
  idle : s.ready = []
  ahead : ∀ due ∈ s.dues, due ≤ s.now ∨ s.now + d.millis ≤ due

/-- What may be done in a timely run: everything, but time passes only when it may. -/
def Allows (s : Keeper) : Move → Prop
  | .pass d => s.MayPass d
  | _ => True

/-- **A timely run.** -/
def Timely (s : Keeper) : List Move → Prop
  | [] => True
  | m :: ms => s.Allows m ∧ (s.move m).Timely ms

instance (s : Keeper) (d : Duration) : Decidable (s.MayPass d) :=
  decidable_of_iff (s.ready = [] ∧ ∀ due ∈ s.dues, due ≤ s.now ∨ s.now + d.millis ≤ due)
    ⟨fun ⟨hi, ha⟩ => ⟨hi, ha⟩, fun ⟨hi, ha⟩ => ⟨hi, ha⟩⟩

instance (s : Keeper) : (m : Move) → Decidable (s.Allows m)
  | .pass d => inferInstanceAs (Decidable (s.MayPass d))
  | .enable _ | .disable _ | .drop _ | .raise _ | .supply _ _ | .step | .turn _ => .isTrue trivial

instance decidableTimely (s : Keeper) (ms : List Move) : Decidable (s.Timely ms) :=
  match ms with
  | [] => .isTrue trivial
  | m :: ms =>
    have := decidableTimely (s.move m) ms
    inferInstanceAs (Decidable (_ ∧ _))

section

variable {s : Keeper} {ms ms' : List Move} {m : Move}

theorem timely_append : s.Timely (ms ++ ms') ↔ s.Timely ms ∧ (s.after ms).Timely ms' := by
  induction ms generalizing s with
  | nil => exact (true_and _).symm.to_iff
  | cons m ms ih =>
    show s.Allows m ∧ (s.move m).Timely (ms ++ ms') ↔ _
    rw [ih]
    exact and_assoc.symm

theorem timely_concat : s.Timely (ms ++ [m]) ↔ s.Timely ms ∧ (s.after ms).Allows m :=
  timely_append.trans (and_congr_right fun _ => (and_true _).to_iff)

/-- **What survives every move that is allowed** holds after every timely run. -/
theorem Timely.invariant (h : s.Timely ms) (Holds : Keeper → Prop) (base : Holds s)
    (move : ∀ t m, Reaches s t → t.Allows m → Holds t → Holds (t.move m)) : Holds (s.after ms) := by
  induction ms generalizing s with
  | nil => exact base
  | cons m ms ih =>
    exact ih h.2 (move s m .refl h.1 base) fun t m' ht => move t m' ((Reaches.refl.move m).trans ht)

end

/-! ## Sleeping is a timely run -/

/-- Moves that nobody makes from outside: turns, and time that passes. -/
def Move.isInner : Move → Bool
  | .step => true
  | .turn _ => true
  | .pass _ => true
  | _ => false

/-- A state that inner moves reach in a timely way. -/
def ReachesInside (s t : Keeper) : Prop :=
  ∃ ms, s.Timely ms ∧ (∀ m ∈ ms, m.isInner = true) ∧ s.after ms = t

theorem ReachesInside.refl (s : Keeper) : s.ReachesInside s := ⟨[], trivial, nofun, rfl⟩

theorem ReachesInside.trans {s t u : Keeper} (h : s.ReachesInside t) (h' : t.ReachesInside u) :
    s.ReachesInside u := by
  obtain ⟨ms, htimely, hinner, rfl⟩ := h
  obtain ⟨ms', htimely', hinner', rfl⟩ := h'
  refine ⟨ms ++ ms', timely_append.2 ⟨htimely, htimely'⟩, ?_, after_append s ms ms'⟩
  intro m hm
  rcases List.mem_append.1 hm with hm | hm
  · exact hinner m hm
  · exact hinner' m hm

theorem reachesInside_step (s : Keeper) : s.ReachesInside s.step :=
  ⟨[.step], ⟨trivial, trivial⟩, fun m hm => by rw [List.mem_singleton.1 hm]; rfl, rfl⟩

theorem reachesInside_steps (n : Nat) (s : Keeper) : s.ReachesInside (steps n s) := by
  induction n generalizing s with
  | zero => exact ReachesInside.refl s
  | succ n ih => exact (reachesInside_step s).trans (ih s.step)

theorem reachesInside_settle (s : Keeper) : s.ReachesInside s.settle := reachesInside_steps _ s

/-- The clock may move as far as nobody who must act later is passed over. -/
theorem reachesInside_advance {s : Keeper} {time : Nat} (hready : s.ready = [])
    (hnow : s.now ≤ time) (hahead : ∀ due ∈ s.dues, due ≤ s.now ∨ time ≤ due) : s.ReachesInside (s.advance time) := by
  have htime : s.now + (time - s.now) = time := Nat.add_sub_cancel' hnow
  refine ⟨[.pass ⟨time - s.now⟩], ⟨⟨hready, ?_⟩, trivial⟩, ?_, ?_⟩
  · intro due hdue
    show due ≤ s.now ∨ s.now + (time - s.now) ≤ due
    rw [htime]
    exact hahead due hdue
  · intro m hm
    rw [List.mem_singleton.1 hm]
    rfl
  · show s.advance (s.now + (time - s.now)) = s.advance time
    rw [htime]

/-- The least of some numbers and a target. -/
theorem foldl_min_le (l : List Nat) (target : Nat) :
    l.foldl min target ≤ target ∧ ∀ x ∈ l, l.foldl min target ≤ x := by
  induction l generalizing target with
  | nil => exact ⟨Nat.le_refl _, nofun⟩
  | cons y l ih =>
    obtain ⟨htarget, hrest⟩ := ih (min target y)
    rw [List.foldl_cons]
    refine ⟨by omega, ?_⟩
    intro x hx
    rcases List.mem_cons.1 hx with rfl | hx
    · omega
    · exact hrest x hx

/-- Whoever must act later acts at the next instant or after it. -/
theorem nextInstant_le (s : Keeper) (target : Nat) {due : Nat} (hdue : due ∈ s.dues)
    (hlater : s.now < due) : s.nextInstant target ≤ due := by
  have hmin := (foldl_min_le s.dues target).2 due hdue
  unfold nextInstant
  omega

theorem passUntil_reachesInside {target : Nat} (fuel : Nat) (s : Keeper) (hnow : s.now < target)
    (hfuel : target ≤ s.now + fuel) : s.ReachesInside (passUntil target fuel s) := by
  induction fuel generalizing s with
  | zero => omega
  | succ fuel ih =>
    have hsettle := settle_now s
    have hready := settle_ready s
    have hlater : s.settle.now < s.settle.nextInstant target := by
      unfold nextInstant
      omega
    have hahead : ∀ due ∈ s.settle.dues, due ≤ s.settle.now ∨ s.settle.nextInstant target ≤ due :=
      fun due hdue => (Nat.lt_or_ge s.settle.now due).symm.imp_right (nextInstant_le _ target hdue)
    unfold passUntil
    refine (reachesInside_settle s).trans ?_
    by_cases hnext : s.settle.nextInstant target < target
    · rw [if_pos hnext]
      have hadvance := advance_now s.settle (s.settle.nextInstant target)
      exact (reachesInside_advance hready (Nat.le_of_lt hlater) hahead).trans
        (ih _ (by omega) (by omega))
    · rw [if_neg hnext]
      refine reachesInside_advance hready (by omega) ?_
      exact fun due hdue => (hahead due hdue).imp_right (by omega)

/-- **Sleeping is a timely run**, in which nothing is done from outside. -/
theorem sleep_timely (s : Keeper) (d : Duration) : s.ReachesInside (s.sleep d) := by
  unfold sleep
  rcases Nat.eq_zero_or_pos d.millis with hzero | hpos
  · rw [hzero]
    exact ReachesInside.refl s
  · exact passUntil_reachesInside _ s (by omega) (Nat.le_refl _)

end Keeper

end LeaseKeeper

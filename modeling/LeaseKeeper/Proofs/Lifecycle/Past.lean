/-
  The past does not matter.

  Every function of a keeper writes to the journal and none reads it.  So a keeper with a longer
  past (`Keeper.recalling`) goes on in the same way (`after_recalling`), and two keepers that
  differ in their past alone have the same future (`sameFuture_tell`).

  There is one lemma for each function of a keeper, and all say the same: the past can be put in
  before or after the function.  They are proved along the functions, from those that write
  (`tell_recalling`) and wake (`wakeIf_recalling`) up to a move, and from there a run is an
  induction.  When a function of the keeper changes, its own lemma is the only one to change.
-/
import LeaseKeeper.Proofs.Lifecycle.Timely

namespace LeaseKeeper

namespace Keeper

/-- The keeper with a longer past.  Nothing else of it changes. -/
def recalling (s : Keeper) (past : Journal) : Keeper := { s with journal := past ++ s.journal }

section

variable (s : Keeper) (past : Journal)

@[simp] theorem recalling_registrars : (s.recalling past).registrars = s.registrars := rfl
@[simp] theorem recalling_scopes : (s.recalling past).scopes = s.scopes := rfl
@[simp] theorem recalling_ready : (s.recalling past).ready = s.ready := rfl

/-- Writing is at the end, so what is put in at the front does not touch it. -/
theorem tell_recalling (es : Journal) :
    (s.recalling past).tell es = (s.tell es).recalling past := by
  simp [recalling, tell]

/-- Who is woken depends on the line alone. -/
theorem wakeIf_recalling (b : Bool) (a : Actor) :
    (s.recalling past).wakeIf b a = (s.wakeIf b a).recalling past := by
  unfold wakeIf wake
  cases b with
  | false => rfl
  | true =>
    by_cases ha : a ∈ s.ready
    · -- the actor is in line and stays there
      simp only [recalling_ready, ha, if_true]
    · -- the actor joins the line
      simp only [recalling_ready, ha, if_true, if_false]
      rfl

theorem wakeWatcher_recalling (k : Nat) :
    (s.recalling past).wakeWatcher k = (s.wakeWatcher k).recalling past := wakeIf_recalling s past _ _

theorem wakeTask_recalling (k : Nat) :
    (s.recalling past).wakeTask k = (s.wakeTask k).recalling past := wakeIf_recalling s past _ _

/-- Cancelling a scope writes an entry and wakes the workers; whether it is cancelled already is
    read off the scope and not off the journal. -/
theorem cancel_recalling (k : Nat) (cause : CancelCause) :
    (s.recalling past).cancel k cause = (s.cancel k cause).recalling past := by
  unfold cancel
  simp only [recalling_scopes]
  cases s.scopes[k]? with
  | none => rfl
  | some c =>
    cases hx : c.isCancelled with
    | true => simp only [hx, if_true]
    | false =>
      simp only [hx, Bool.false_eq_true, if_false]
      show ((((s.setScope k { c with isCancelled := true }).recalling past).tell _).wakeWatcher
        k).wakeTask k = _
      rw [tell_recalling, wakeWatcher_recalling, wakeTask_recalling]
      rfl

/-- Enabling has four ends: nothing happens, one of three things is refused, or a scope begins.
    A refusal only writes, and a scope begins by a wake and some writing. -/
theorem enable_recalling (n : Nat) : (s.recalling past).enable n = (s.enable n).recalling past := by
  have hfail : ∀ r e, (s.recalling past).failEnabling n r e = (s.failEnabling n r e).recalling past :=
    fun r e => tell_recalling (s.setRegistrar n r) past _
  have hbegin : ∀ r i, (s.recalling past).beginScope n r i = (s.beginScope n r i).recalling past := by
    intro r i
    unfold beginScope
    simp only [recalling_scopes, wakeWatcher_recalling]
    simp [recalling, tell, setRegistrar, newScope]
  unfold enable
  simp only [recalling_registrars]
  cases s.registrars[n]? with
  | none => rfl
  | some r =>
    simp only
    split
    · -- the registrar is dropped or enabled
      rfl
    · split
      · -- the client, the identity or the subscription is refused
        exact hfail _ _
      · exact hfail _ _
      · exact hfail _ _
      · -- nothing is refused
        exact hbegin _ _

/-- A registrar that is disabled lets its scope be cancelled, and says so. -/
theorem disable_recalling (n : Nat) : (s.recalling past).disable n = (s.disable n).recalling past := by
  unfold disable
  simp only [recalling_registrars]
  cases s.registrars[n]? with
  | none => rfl
  | some r =>
    simp only
    split
    · rename_i k _ _
      show (((s.setRegistrar n { r with current := none }).recalling past).cancel k .disabled).tell _ = _
      rw [cancel_recalling, tell_recalling]
    · rfl

/-- A registrar that is dropped lets its scope be cancelled, and says nothing. -/
theorem drop_recalling (n : Nat) :
    (s.recalling past).dropRegistrar n = (s.dropRegistrar n).recalling past := by
  unfold dropRegistrar
  simp only [recalling_registrars]
  cases s.registrars[n]? with
  | none => rfl
  | some r =>
    simp only
    split
    · rfl
    · split
      · rfl
      · rename_i k _
        exact cancel_recalling (s.setRegistrar n { r with isDropped := true }) past k .dropped

/-- A turn is worked out from the scope, the registrar and the mailbox.  What it reports is
    written at the end, and for a watcher the subscription and the line may change after that. -/
theorem turn_recalling (a : Actor) : (s.recalling past).turn a = (s.turn a).recalling past := by
  unfold turn
  simp only [recalling_registrars, recalling_scopes]
  cases s.scopes[a.scope]? with
  | none => rfl
  | some c =>
    cases hr : s.registrars[c.owner]? with
    | none => simp only [hr]
    | some r =>
      simp only [hr]
      cases a.worker with
      | task =>
        exact tell_recalling ((s.setScope a.scope _).setRegistrar c.owner _) past _
      | watcher =>
        -- what follows the turn reads of it only what the scope has become
        have hafter : ∀ (t : Turn) (u u' : Keeper), u' = u.recalling past →
            (let v := if c.isWatched && !t.scope.isWatched then
                { u' with subscriptions := u'.subscriptions.drop a.scope } else u'
              if c.isCancelled then v
              else if t.scope.isCancelled then v.wakeTask a.scope else v) =
            (let v := if c.isWatched && !t.scope.isWatched then
                { u with subscriptions := u.subscriptions.drop a.scope } else u
              if c.isCancelled then v
              else if t.scope.isCancelled then v.wakeTask a.scope else v).recalling past := by
          rintro t u u' rfl
          -- whoever is woken is woken because of the scope, which is the same on both sides
          cases c.isCancelled with
          | true => cases (c.isWatched && !t.scope.isWatched) <;> rfl
          | false =>
            cases t.scope.isCancelled with
            | false => cases (c.isWatched && !t.scope.isWatched) <;> rfl
            | true =>
              cases (c.isWatched && !t.scope.isWatched) with
              | false => exact wakeTask_recalling u past a.scope
              | true =>
                exact wakeTask_recalling
                  { u with subscriptions := u.subscriptions.drop a.scope } past a.scope
        exact hafter _ _ _ (tell_recalling ((s.setScope a.scope _).setRegistrar c.owner _) past _)

/-- Time passes: the clock moves, and then the workers of every scope are woken that must act by
    then.  The second is an induction on the scopes. -/
theorem advance_recalling (time : Nat) :
    (s.recalling past).advance time = (s.advance time).recalling past := by
  have hdue : ∀ (u : Keeper) (k : Nat),
      (u.recalling past).wakeDueIn k = (u.wakeDueIn k).recalling past := by
    intro u k
    unfold wakeDueIn
    simp only [recalling_scopes]
    cases u.scopes[k]? with
    | none => rfl
    | some c =>
      simp only
      rw [wakeIf_recalling, wakeIf_recalling]
      rfl
  have hall : ∀ (ks : List Nat) (u : Keeper),
      ks.foldl wakeDueIn (u.recalling past) = (ks.foldl wakeDueIn u).recalling past := by
    intro ks
    induction ks with
    | nil => intro u; rfl
    | cons k ks ih =>
      intro u
      rw [List.foldl_cons, hdue, ih, List.foldl_cons]
  exact hall _ { s with now := time }

/-- **A move can be made before or after the past is put in**, whatever the move. -/
theorem move_recalling (m : Move) : (s.recalling past).move m = (s.move m).recalling past := by
  cases m with
  | enable n => exact enable_recalling s past n
  | disable n => exact disable_recalling s past n
  | drop n => exact drop_recalling s past n
  | raise signal =>
    show (s.recalling past).raise signal = (s.raise signal).recalling past
    unfold raise
    by_cases ha : s.acceptsSignal = true
    · rw [if_pos ha, if_pos (show (s.recalling past).acceptsSignal = true from ha)]
      exact wakeIf_recalling
        { s with subscriptions := s.subscriptions.raise .manual signal } past _ _
    · rw [if_neg ha, if_neg (show ¬(s.recalling past).acceptsSignal = true from ha)]
  | supply n p =>
    show (s.recalling past).supply n p = (s.supply n p).recalling past
    unfold supply
    simp only [recalling_registrars]
    cases s.registrars[n]? <;> rfl
  | step =>
    show (s.recalling past).step = s.step.recalling past
    unfold step
    simp only [recalling_ready]
    cases s.ready with
    | nil => rfl
    | cons a rest => exact turn_recalling { s with ready := rest } past a
  | turn a => exact turn_recalling s past a
  | pass d => exact advance_recalling s past _

/-- **A keeper with a longer past goes on in the same way**: induction on the moves, the first
    one split off. -/
theorem after_recalling (ms : List Move) :
    (s.recalling past).after ms = (s.after ms).recalling past := by
  induction ms generalizing s with
  | nil => rfl
  | cons m ms ih =>
    show ((s.recalling past).move m).after ms = _
    rw [move_recalling, ih]
    rfl

end

/-- **The same comes of two keepers**: whatever is done, the same becomes known from now on,
    although what was known before may differ. -/
def SameFuture (s t : Keeper) : Prop :=
  ∀ ms, ∃ es, (s.after ms).journal = s.journal ++ es ∧ (t.after ms).journal = t.journal ++ es

/-- Two keepers that differ in their past alone have the same future.  Both are the keeper
    without a past that recalls one, so what is written from now on is what that keeper writes. -/
theorem sameFuture_tell (s : Keeper) (es : Journal) : (s.tell es).SameFuture s := by
  intro ms
  have hpast : ∀ past : Journal, (({ s with journal := [] } : Keeper).recalling past) =
      { s with journal := past } := by
    intro past
    simp only [recalling, List.append_nil]
  have hafter : ∀ past : Journal, (({ s with journal := past } : Keeper).after ms).journal =
      past ++ (({ s with journal := [] } : Keeper).after ms).journal := by
    intro past
    rw [← hpast, after_recalling]
    rfl
  exact ⟨_, hafter (s.journal ++ es), hafter s.journal⟩

end Keeper

end LeaseKeeper

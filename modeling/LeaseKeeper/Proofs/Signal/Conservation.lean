/-
  No signal is lost, doubled or misrouted.

  Signals that are raised by hand go to the newest subscription.  Whoever raises one is told
  whether it was accepted, and that promise is kept: an accepted signal WAITS in the subscription
  that was the newest when it was raised, until that subscription looks or is given up (`Waits`).
  Being replaced meanwhile takes nothing out of it.

  `Waits`, `Dropped` and `made` are told from the steps and their answers alone, without any
  mailbox.  Every answer follows from them (`Subscriptions.conserved`): a signal is accepted where
  nothing waits in a newest subscription that is not given up, and what a subscription finds is
  the one signal that waits in it.  So signals that are accepted and not lost with their
  subscription, and signals that are found, correspond to each other one to one.

  The proof keeps the mailboxes in step with what the answers tell (`Mailbox.Tells`), one step
  after the other.  There are four kinds of steps, and each of them does something to one mailbox
  and nothing to the others: subscribing closes the newest and keeps what it holds, raising puts a
  signal into the newest if there is room, looking empties one, giving up loses one.  On the side
  of the answers the same is said by what one step more adds to `made`, `Dropped` and `Waits`
  (`made_succ`, `dropped_succ`, `waits_succ`).

  The one place where both sides are needed at once is raising: whether a signal begins to wait is
  told by the answer, and the answer is given by whether the mailbox has room
  (`Tell.accepted_iff`).
-/
import LeaseKeeper.Proofs.Signal.Agreement

namespace LeaseKeeper

/-! ## What steps and answers tell -/

namespace Subscriptions

/-- The answers to steps with signals raised by hand. -/
def byHand (steps : List SignalStep) : List SignalAnswer := run .manual {} steps

/-- How many subscriptions there are after `n` steps. -/
def made (steps : List SignalStep) (n : Nat) : Nat := (steps.take n).count .subscribe

/-- **A subscription was given up** in the first `n` steps. -/
def Dropped (steps : List SignalStep) (n k : Nat) : Prop :=
  ∃ m < n, steps[m]? = some (.drop k) ∧ k < made steps m

/-- **A signal waits** in subscription `k` after `n` steps: it was raised in step `m` and accepted when
    `k` was the newest subscription, which has not looked since and was not given up. -/
structure Waits (steps : List SignalStep) (n k m : Nat) (signal : TerminationSignal) : Prop where
  before : m < n
  raised : steps[m]? = some (.raise signal)
  accepted : (byHand steps)[m]? = some (.raised true)
  newest : made steps m = k + 1
  untouched : ∀ i, m < i → i < n → steps[i]? ≠ some (.receive k) ∧ steps[i]? ≠ some (.drop k)

section

variable {steps : List SignalStep} {step : SignalStep} {n k m : Nat} {signal : TerminationSignal}

/-! ## One more step -/

/-- One step more adds a subscription, if it is one. -/
theorem made_succ (h : steps[n]? = some step) :
    made steps (n + 1) = made steps n + step.added.length := by
  unfold made
  rw [List.take_add_one, h, Option.toList_some, List.count_append]
  cases step <;> rfl

/-- Subscriptions are never taken back. -/
theorem made_mono (steps : List SignalStep) {m n : Nat} (h : m ≤ n) :
    made steps m ≤ made steps n :=
  (List.take_prefix_take_left h).sublist.count_le _

/-- A subscription was given up before, or in this step. -/
theorem dropped_succ (h : steps[n]? = some step) :
    Dropped steps (n + 1) k ↔ Dropped steps n k ∨ (step = .drop k ∧ k < made steps n) := by
  constructor
  · rintro ⟨m, hm, hdrop, hmade⟩
    rcases Nat.lt_succ_iff_lt_or_eq.1 hm with hm | rfl
    · exact .inl ⟨m, hm, hdrop, hmade⟩
    · rw [h] at hdrop
      exact .inr ⟨Option.some.inj hdrop, hmade⟩
  · rintro (⟨m, hm, hdrop, hmade⟩ | ⟨rfl, hmade⟩)
    · exact ⟨m, Nat.lt_succ_of_lt hm, hdrop, hmade⟩
    · exact ⟨n, Nat.lt_succ_self n, h, hmade⟩

/-- **A signal waits on**, or begins to wait: it waits on if nobody looks or gives up, and it
    begins to wait if it is raised now and accepted. -/
theorem waits_succ (h : steps[n]? = some step) :
    Waits steps (n + 1) k m signal ↔
      (Waits steps n k m signal ∧ step ≠ .receive k ∧ step ≠ .drop k) ∨
        (m = n ∧ step = .raise signal ∧ (byHand steps)[n]? = some (.raised true) ∧
          made steps n = k + 1) := by
  constructor
  · intro hw
    rcases Nat.lt_succ_iff_lt_or_eq.1 hw.before with hm | rfl
    · -- It was raised before.
      obtain ⟨hreceive, hdrop⟩ := hw.untouched n hm (Nat.lt_succ_self n)
      rw [h] at hreceive hdrop
      refine .inl ⟨⟨hm, hw.raised, hw.accepted, hw.newest, ?_⟩, ?_, ?_⟩
      · exact fun i hmi hin => hw.untouched i hmi (Nat.lt_succ_of_lt hin)
      · exact fun heq => hreceive (congrArg some heq)
      · exact fun heq => hdrop (congrArg some heq)
    · -- It was raised in this step.
      have hraised := hw.raised
      rw [h] at hraised
      exact .inr ⟨rfl, Option.some.inj hraised, hw.accepted, hw.newest⟩
  · rintro (⟨hw, hreceive, hdrop⟩ | ⟨rfl, rfl, haccepted, hnewest⟩)
    · refine ⟨Nat.lt_succ_of_lt hw.before, hw.raised, hw.accepted, hw.newest, ?_⟩
      intro i hmi hin
      rcases Nat.lt_succ_iff_lt_or_eq.1 hin with hin | rfl
      · exact hw.untouched i hmi hin
      · rw [h]
        exact ⟨fun heq => hreceive (Option.some.inj heq), fun heq => hdrop (Option.some.inj heq)⟩
    · exact ⟨Nat.lt_succ_self m, h, haccepted, hnewest, fun i hmi hin => by omega⟩

/-- A step that neither looks, gives up nor raises leaves waiting signals waiting. -/
theorem waits_same (h : steps[n]? = some step) (hreceive : step ≠ .receive k)
    (hdrop : step ≠ .drop k) (hraise : ∀ x, step ≠ .raise x) :
    Waits steps (n + 1) k m signal ↔ Waits steps n k m signal := by
  rw [waits_succ h]
  constructor
  · rintro (⟨hw, -, -⟩ | ⟨-, heq, -⟩)
    · exact hw
    · exact absurd heq (hraise signal)
  · exact fun hw => .inl ⟨hw, hreceive, hdrop⟩

/-- A step that does not give a subscription up. -/
theorem dropped_same (h : steps[n]? = some step) (hdrop : step ≠ .drop k) :
    Dropped steps (n + 1) k ↔ Dropped steps n k := by
  rw [dropped_succ h]
  exact or_iff_left fun heq => hdrop heq.1

/-- A step that makes no subscription leaves the newest one the newest. -/
theorem newest_same (h : steps[n]? = some step) (hsubscribe : step ≠ .subscribe)
    (hdrop : step ≠ .drop k) : (k + 1 = made steps (n + 1) ∧ ¬ Dropped steps (n + 1) k) ↔
      k + 1 = made steps n ∧ ¬ Dropped steps n k := by
  have hmade : made steps (n + 1) = made steps n := by
    rw [made_succ h]
    cases step with
    | subscribe => exact absurd rfl hsubscribe
    | _ => rfl
  rw [dropped_same h hdrop, hmade]

end

end Subscriptions

/-! ## Mailboxes in step with the answers -/

open Subscriptions (byHand made Dropped Waits)

/-- **A mailbox tells what the answers tell** about subscription `k` after `n` steps. -/
structure Mailbox.Tells (steps : List SignalStep) (n k : Nat) (b : Mailbox) : Prop where
  held : ∀ x, b.held = some x ↔ ∃ m, Waits steps n k m x
  dropped : b.isDropped = true ↔ Dropped steps n k
  isOpen : b.isOpen = true ↔ k + 1 = made steps n ∧ ¬ Dropped steps n k
  lost : b.isDropped = true → b.held = none

namespace Mailbox

section

variable {steps : List SignalStep} {step : SignalStep} {n k : Nat} {b : Mailbox}

/-- Nothing waits where nothing is held. -/
theorem Tells.held_eq_none_iff (h : b.Tells steps n k) :
    b.held = none ↔ ∀ m x, ¬ Waits steps n k m x := by
  constructor
  · intro hnone m x hw
    rw [(h.held x).2 ⟨m, hw⟩] at hnone
    cases hnone
  · intro hnone
    cases hheld : b.held with
    | none => rfl
    | some x =>
      obtain ⟨m, hw⟩ := (h.held x).1 hheld
      exact absurd hw (hnone m x)

/-- A mailbox tells that there is room: it is the newest, not given up, and nothing waits in it. -/
theorem Tells.hasRoom_iff (h : b.Tells steps n k) : b.hasRoom = true ↔
    k + 1 = made steps n ∧ ¬ Dropped steps n k ∧ ∀ m x, ¬ Waits steps n k m x := by
  rw [hasRoom, Bool.and_eq_true, Option.isNone_iff_eq_none, h.isOpen, h.held_eq_none_iff, and_assoc]

/-- The mailbox of a new subscription: nothing can have happened to it, as no earlier step could
    name it. -/
theorem fresh_tells (h : steps[n]? = some .subscribe) :
    fresh.Tells steps (n + 1) (made steps n) := by
  have hearlier : ∀ {m}, m < n + 1 → ¬ made steps n < made steps m := fun hm =>
    Nat.not_lt.2 (Subscriptions.made_mono steps (Nat.le_of_lt_succ hm))
  have hdropped : ¬ Dropped steps (n + 1) (made steps n) := by
    rintro ⟨m, hm, -, hmade⟩
    exact hearlier hm hmade
  refine ⟨fun x => ⟨nofun, ?_⟩, iff_of_false nofun hdropped, iff_of_true rfl ⟨?_, hdropped⟩, nofun⟩
  · rintro ⟨m, hw⟩
    exact absurd (hw.newest ▸ Nat.lt_succ_self _) (hearlier hw.before)
  · rw [Subscriptions.made_succ h]
    rfl

/-- Somebody subscribes: the newest mailbox is closed and keeps what it holds. -/
theorem Tells.replaced (h : b.Tells steps n k) (hmade : k < made steps n)
    (hstep : steps[n]? = some .subscribe) :
    (b.after .manual (made steps n) k .subscribe).Tells steps (n + 1) k := by
  have hwaits : ∀ x, (∃ m, Waits steps (n + 1) k m x) ↔ ∃ m, Waits steps n k m x := fun x =>
    exists_congr fun m => Subscriptions.waits_same hstep (by simp) (by simp) (by simp)
  have hdropped := Subscriptions.dropped_same (k := k) hstep (by simp)
  -- it is no longer the newest
  have hold : ¬ (k + 1 = made steps (n + 1) ∧ ¬ Dropped steps (n + 1) k) := by
    rw [Subscriptions.made_succ hstep]
    rintro ⟨heq, -⟩
    change k + 1 = made steps n + 1 at heq
    omega
  rw [Mailbox.after]
  split
  · -- It was the newest and is closed now.
    exact ⟨fun x => (h.held x).trans (hwaits x).symm, h.dropped.trans hdropped.symm,
      iff_of_false Bool.false_ne_true hold, h.lost⟩
  · next hnot =>
    refine ⟨fun x => (h.held x).trans (hwaits x).symm, h.dropped.trans hdropped.symm,
      iff_of_false ?_ hold, h.lost⟩
    exact fun hopen => hnot (h.isOpen.1 hopen).1

/-- Somebody raises a signal: it is put in if it is accepted and this is the newest mailbox. -/
theorem Tells.raised (h : b.Tells steps n k) {signal : TerminationSignal}
    (hstep : steps[n]? = some (.raise signal))
    (haccepted : k + 1 = made steps n →
      ((byHand steps)[n]? = some (.raised true) ↔ b.hasRoom = true)) :
    (b.after .manual (made steps n) k (.raise signal)).Tells steps (n + 1) k := by
  have hdropped := Subscriptions.dropped_same (k := k) hstep (by simp)
  have hopen := Subscriptions.newest_same (k := k) hstep (by simp) (by simp)
  rw [Mailbox.after]
  split
  · next hput =>
    -- The signal is put in: this is the newest mailbox, and it has room.
    have hnone : b.held = none := by
      have hroom := hput.2
      rw [hasRoom, Bool.and_eq_true, Option.isNone_iff_eq_none] at hroom
      exact hroom.2
    refine ⟨fun x => ?_, h.dropped.trans hdropped.symm, ?_, ?_⟩
    · constructor
      · intro hx
        cases hx
        exact ⟨n, (Subscriptions.waits_succ hstep).2
          (.inr ⟨rfl, rfl, (haccepted hput.1).2 hput.2, hput.1.symm⟩)⟩
      · rintro ⟨m, hw⟩
        rcases (Subscriptions.waits_succ hstep).1 hw with ⟨hw, -⟩ | ⟨-, heq, -⟩
        · exact absurd hw (h.held_eq_none_iff.1 hnone m x)
        · cases heq
          rfl
    · exact (Bool.and_true b.isOpen ▸ h.isOpen).trans hopen.symm
    · intro hgone
      exact absurd (h.dropped.1 hgone) (h.hasRoom_iff.1 hput.2).2.1
  · next hkept =>
    -- Nothing is put in: this is not the newest, or there is no room, and then the signal is not
    -- accepted.
    refine ⟨fun x => (h.held x).trans ?_, h.dropped.trans hdropped.symm, h.isOpen.trans hopen.symm,
      h.lost⟩
    refine exists_congr fun m => ?_
    rw [Subscriptions.waits_succ hstep]
    constructor
    · exact fun hw => .inl ⟨hw, by simp, by simp⟩
    · rintro (⟨hw, -, -⟩ | ⟨-, -, hyes, hnewest⟩)
      · exact hw
      · exact absurd ⟨hnewest.symm, (haccepted hnewest.symm).1 hyes⟩ hkept

/-- A subscription looks: its own mailbox is empty afterwards, and no other is touched. -/
theorem Tells.received (h : b.Tells steps n k) {j : Nat}
    (hstep : steps[n]? = some (.receive j)) :
    (b.after .manual (made steps n) k (.receive j)).Tells steps (n + 1) k := by
  have hdropped := Subscriptions.dropped_same (k := k) hstep (by simp)
  have hopen := Subscriptions.newest_same (k := k) hstep (by simp) (by simp)
  rw [Mailbox.after]
  split
  · next hplace =>
    subst hplace
    refine ⟨fun x => ⟨fun heq => (by cases heq), ?_⟩, h.dropped.trans hdropped.symm,
      h.isOpen.trans hopen.symm, fun _ => rfl⟩
    rintro ⟨m, hw⟩
    rcases (Subscriptions.waits_succ hstep).1 hw with ⟨-, htaken, -⟩ | ⟨-, heq, -⟩
    · exact absurd rfl htaken
    · cases heq
  · next hother =>
    have hne : SignalStep.receive j ≠ .receive k := fun heq =>
      hother (SignalStep.receive.inj heq).symm
    exact ⟨fun x => (h.held x).trans (exists_congr fun m =>
        (Subscriptions.waits_same hstep hne (by simp) (by simp)).symm),
      h.dropped.trans hdropped.symm, h.isOpen.trans hopen.symm, h.lost⟩

/-- A subscription is given up: its own mailbox is lost with all that is in it. -/
theorem Tells.discarded (h : b.Tells steps n k) (hmade : k < made steps n) {j : Nat}
    (hstep : steps[n]? = some (.drop j)) :
    (b.after .manual (made steps n) k (.drop j)).Tells steps (n + 1) k := by
  rw [Mailbox.after]
  split
  · next hplace =>
    subst hplace
    have hdropped : Dropped steps (n + 1) k :=
      (Subscriptions.dropped_succ hstep).2 (.inr ⟨rfl, hmade⟩)
    refine ⟨fun x => ⟨fun heq => (by cases heq), ?_⟩, iff_of_true rfl hdropped,
      iff_of_false Bool.false_ne_true fun hopen => hopen.2 hdropped, fun _ => rfl⟩
    rintro ⟨m, hw⟩
    rcases (Subscriptions.waits_succ hstep).1 hw with ⟨-, -, hlost⟩ | ⟨-, heq, -⟩
    · exact absurd rfl hlost
    · cases heq
  · next hother =>
    have hne : SignalStep.drop j ≠ .drop k := fun heq => hother (SignalStep.drop.inj heq).symm
    exact ⟨fun x => (h.held x).trans (exists_congr fun m =>
        (Subscriptions.waits_same hstep (by simp) hne (by simp)).symm),
      h.dropped.trans (Subscriptions.dropped_same hstep hne).symm,
      h.isOpen.trans (Subscriptions.newest_same hstep (by simp) hne).symm, h.lost⟩

end

end Mailbox

namespace Subscriptions

/-! ## All mailboxes, step by step -/

/-- The subscriptions after `n` steps. -/
def afterSteps (steps : List SignalStep) (n : Nat) : Subscriptions :=
  (steps.take n).foldl (after .manual) {}

section

variable {steps : List SignalStep} {step : SignalStep} {n : Nat}

/-- The subscriptions after one step more. -/
theorem afterSteps_succ (h : steps[n]? = some step) :
    afterSteps steps (n + 1) = (afterSteps steps n).after .manual step := by
  unfold afterSteps
  rw [List.take_add_one, h, Option.toList_some, List.foldl_append]
  rfl

/-- The answer to a step is given by the subscriptions at that time: induction on the steps. -/
theorem run_getElem? (source : SignalSource) (s : Subscriptions) (steps : List SignalStep)
    (n : Nat) : (s.run source steps)[n]? =
      steps[n]?.map (((steps.take n).foldl (after source) s).answer source) := by
  induction steps generalizing s n with
  | nil => rfl
  | cons step rest ih =>
    cases n with
    | zero => rfl
    | succ n => exact ih (s.after source step) n

theorem byHand_getElem? (h : steps[n]? = some step) :
    (byHand steps)[n]? = some ((afterSteps steps n).answer .manual step) := by
  rw [byHand, run_getElem?, h]
  rfl

/-- **All mailboxes tell what the answers tell.** -/
structure Tell (steps : List SignalStep) (n : Nat) (s : Subscriptions) : Prop where
  length : s.mailboxes.length = made steps n
  each : ∀ (k : Nat) (b : Mailbox), s.mailboxes[k]? = some b → b.Tells steps n k

/-- A raised signal is accepted where the newest mailbox has room. -/
theorem Tell.accepted_iff (h : (afterSteps steps n).Tell steps n) {signal : TerminationSignal}
    (hstep : steps[n]? = some (.raise signal)) {k : Nat} {b : Mailbox}
    (hb : (afterSteps steps n).mailboxes[k]? = some b) (hnewest : k + 1 = made steps n) :
    (byHand steps)[n]? = some (.raised true) ↔ b.hasRoom = true := by
  obtain ⟨hlt, rfl⟩ := List.getElem?_eq_some_iff.1 hb
  rw [byHand_getElem? hstep, ← hasRoom_of_newest _ hlt (hnewest.trans h.length.symm)]
  constructor
  · exact fun heq => SignalAnswer.raised.inj (Option.some.inj heq)
  · exact fun heq => congrArg (fun accepted => some (SignalAnswer.raised accepted)) heq

/-- **One step keeps all mailboxes in step.**  A mailbox was there before and has one of the four
    things done to it, or it is that of a new subscription. -/
theorem Tell.succ (h : (afterSteps steps n).Tell steps n) (hstep : steps[n]? = some step) :
    (afterSteps steps (n + 1)).Tell steps (n + 1) := by
  rw [afterSteps_succ hstep]
  refine ⟨?_, fun k b hb => ?_⟩
  · rw [after_length, h.length, made_succ hstep]
  · rw [after_getElem?, h.length] at hb
    cases hold : (afterSteps steps n).mailboxes[k]? with
    | none =>
      -- the only mailbox that is new is that of a new subscription
      rw [hold, Mailbox.next] at hb
      split at hb
      · next hplace =>
        subst hplace
        cases step with
        | subscribe =>
          cases hb
          exact Mailbox.fresh_tells hstep
        | _ => cases hb
      · cases hb
    | some b' =>
      rw [hold] at hb
      cases hb
      have htells := h.each k b' hold
      have hmade : k < made steps n := by
        rw [← h.length]
        exact (List.getElem?_eq_some_iff.1 hold).1
      cases step with
      | subscribe => exact htells.replaced hmade hstep
      | raise signal => exact htells.raised hstep (h.accepted_iff hstep hold)
      | receive j => exact htells.received hstep
      | drop j => exact htells.discarded hmade hstep

/-- **The mailboxes are in step with the answers at any time**: induction on the steps. -/
theorem tell_afterSteps (hn : n ≤ steps.length) : (afterSteps steps n).Tell steps n := by
  induction n with
  | zero => exact ⟨rfl, nofun⟩
  | succ n ih => exact (ih (Nat.le_of_succ_le hn)).succ (List.getElem?_eq_getElem hn)

/-! ## What waits -/

/-- Where a signal waits, it waited ever since it was accepted. -/
theorem Waits.earlier {k m i : Nat} {x : TerminationSignal} (hw : Waits steps n k m x)
    (hmi : m < i) (hin : i ≤ n) : Waits steps i k m x :=
  ⟨hmi, hw.raised, hw.accepted, hw.newest,
    fun j hmj hji => hw.untouched j hmj (Nat.lt_of_lt_of_le hji hin)⟩

/-- A signal is not accepted where another one waits. -/
theorem Waits.refused {k m m' : Nat} {x x' : TerminationSignal} (hw : Waits steps n k m x)
    (hw' : Waits steps n k m' x') : ¬ m < m' := by
  intro hlt
  have hm' : m' ≤ steps.length :=
    Nat.le_of_lt (List.getElem?_eq_some_iff.1 hw'.raised).1
  have htell := tell_afterSteps hm'
  have hk : k < (afterSteps steps m').mailboxes.length := by
    rw [htell.length, hw'.newest]
    exact Nat.lt_succ_self k
  have hb := List.getElem?_eq_getElem hk
  have hroom := (htell.accepted_iff hw'.raised hb hw'.newest.symm).1 hw'.accepted
  exact ((htell.each k _ hb).hasRoom_iff.1 hroom).2.2 m x
    (hw.earlier hlt (Nat.le_of_lt hw'.before))

/-- **Only one signal waits in a subscription.** -/
theorem Waits.unique {k m m' : Nat} {x x' : TerminationSignal} (hw : Waits steps n k m x)
    (hw' : Waits steps n k m' x') : m = m' :=
  Nat.le_antisymm (Nat.not_lt.1 (hw'.refused hw)) (Nat.not_lt.1 (hw.refused hw'))

/-- **A signal is found once**: whoever finds it ends its waiting. -/
theorem Waits.found_once {n' k k' m : Nat} {x x' : TerminationSignal} (hw : Waits steps n k m x)
    (hw' : Waits steps n' k' m x') (hreceive : steps[n]? = some (.receive k)) : n' ≤ n := by
  have hk : k' = k := Nat.succ.inj (hw'.newest.symm.trans hw.newest)
  subst hk
  exact Nat.not_lt.1 fun hlt => (hw'.untouched n hw.before hlt).1 hreceive

end

/-! ## Conservation -/

section

variable {steps : List SignalStep} {n : Nat}

/-- A signal is accepted exactly where a newest subscription has room; where there is none,
    nobody is there to take it. -/
theorem Tell.accepts_iff (h : (afterSteps steps n).Tell steps n) :
    (afterSteps steps n).accepts .manual = true ↔
      ∃ k, made steps n = k + 1 ∧ ¬ Dropped steps n k ∧ ∀ m x, ¬ Waits steps n k m x := by
  rw [accepts, show (SignalSource.manual == .system) = false from rfl, Bool.false_or]
  constructor
  · intro hroom
    cases hmade : made steps n with
    | zero =>
      have hnil : (afterSteps steps n).mailboxes = [] :=
        List.length_eq_zero_iff.1 (h.length.trans hmade)
      rw [hasRoom, hnil] at hroom
      cases hroom
    | succ k =>
      have hlength : k + 1 = (afterSteps steps n).mailboxes.length := (h.length.trans hmade).symm
      have hk : k < (afterSteps steps n).mailboxes.length := hlength ▸ Nat.lt_succ_self k
      rw [hasRoom_of_newest _ hk hlength] at hroom
      exact ⟨k, rfl, ((h.each k _ (List.getElem?_eq_getElem hk)).hasRoom_iff.1 hroom).2⟩
  · rintro ⟨k, hmade, hkept, hempty⟩
    have hlength : k + 1 = (afterSteps steps n).mailboxes.length := (h.length.trans hmade).symm
    have hk : k < (afterSteps steps n).mailboxes.length := hlength ▸ Nat.lt_succ_self k
    rw [hasRoom_of_newest _ hk hlength]
    exact (h.each k _ (List.getElem?_eq_getElem hk)).hasRoom_iff.2 ⟨hmade.symm, hkept, hempty⟩

/-- A subscription finds the signal that waits in it. -/
theorem Tell.finds_iff (h : (afterSteps steps n).Tell steps n) {k : Nat} {x : TerminationSignal} :
    (afterSteps steps n).reception k = .signal x ↔ ∃ m, Waits steps n k m x := by
  unfold reception
  cases hb : (afterSteps steps n).mailboxes[k]? with
  | none =>
    refine iff_of_false (fun heq => by cases heq) ?_
    -- what is not there yet cannot have been the newest
    rintro ⟨m, hw⟩
    have hk : k < (afterSteps steps n).mailboxes.length := by
      have hmono := made_mono steps (Nat.le_of_lt hw.before)
      rw [hw.newest] at hmono
      rw [h.length]
      exact hmono
    rw [List.getElem?_eq_getElem hk] at hb
    cases hb
  | some b =>
    rw [← (h.each k b hb).held x, Option.elim_some, Mailbox.reception]
    cases b.held with
    | some y =>
      exact ⟨fun heq => congrArg some (Reception.signal.inj heq),
        fun heq => congrArg Reception.signal (Option.some.inj heq)⟩
    | none =>
      refine iff_of_false ?_ fun heq => by cases heq
      cases b.isDropped <;> cases b.isOpen <;> simp

/-- Where nothing waits, a subscription is closed if it was replaced. -/
theorem Tell.finds_nothing (h : (afterSteps steps n).Tell steps n) {k : Nat}
    (hmade : k < made steps n) (hkept : ¬ Dropped steps n k)
    (hempty : ∀ m x, ¬ Waits steps n k m x) :
    (afterSteps steps n).reception k = if k + 1 < made steps n then .closed else .pending := by
  have hk : k < (afterSteps steps n).mailboxes.length := by rwa [h.length]
  have hb := List.getElem?_eq_getElem hk
  have htells := h.each k _ hb
  have hpresent : (afterSteps steps n).mailboxes[k].isDropped = false :=
    Bool.eq_false_iff.2 fun hgone => hkept (htells.dropped.1 hgone)
  rw [reception, hb, Option.elim_some, Mailbox.reception, htells.held_eq_none_iff.2 hempty]
  dsimp only
  rw [hpresent, if_neg Bool.false_ne_true]
  -- It was replaced, or it is the newest.
  rcases Nat.lt_or_eq_of_le (Nat.succ_le_of_lt hmade) with hreplaced | hnewest
  · have hclosed : (afterSteps steps n).mailboxes[k].isOpen = false := by
      refine Bool.eq_false_iff.2 fun hopen => ?_
      have hnewest := (htells.isOpen.1 hopen).1
      omega
    rw [hclosed, if_neg Bool.false_ne_true, if_pos hreplaced]
  · have hopen : (afterSteps steps n).mailboxes[k].isOpen = true :=
      htells.isOpen.2 ⟨hnewest, hkept⟩
    have hnot : ¬ k + 1 < made steps n := Nat.not_lt.2 (Nat.le_of_eq hnewest.symm)
    rw [hopen, if_pos rfl, if_neg hnot]

end

/-- **No signal is lost, doubled or misrouted.**  Whatever is done with signals raised by hand:

    * a signal is accepted exactly if there is a newest subscription, it was not given up, and nothing
      waits in it;
    * an accepted signal is found by the subscription that was the newest, at its next look, whoever
      subscribes in between; it is lost only if that subscription is given up first;
    * a subscription finds a signal exactly if that signal waits in it, and so was accepted; where
      nothing waits, it finds itself closed if it was replaced, and otherwise has to wait;
    * only one signal waits in a subscription, and none is found twice. -/
theorem conserved (steps : List SignalStep) :
    (∀ n signal, steps[n]? = some (.raise signal) →
      ∃ accepted, (byHand steps)[n]? = some (.raised accepted) ∧
        (accepted = true ↔ ∃ k, made steps n = k + 1 ∧ ¬ Dropped steps n k ∧
          ∀ m x, ¬ Waits steps n k m x)) ∧
    (∀ m signal, steps[m]? = some (.raise signal) → (byHand steps)[m]? = some (.raised true) →
      ∃ k, made steps m = k + 1 ∧ ∀ n, m < n → steps[n]? = some (.receive k) →
        (∀ i, m < i → i < n → steps[i]? ≠ some (.receive k) ∧ steps[i]? ≠ some (.drop k)) →
        (byHand steps)[n]? = some (.received (.signal signal))) ∧
    (∀ n k, steps[n]? = some (.receive k) →
      ∃ what, (byHand steps)[n]? = some (.received what) ∧
        (∀ x, what = .signal x ↔ ∃ m, Waits steps n k m x) ∧
        (k < made steps n → ¬ Dropped steps n k → (∀ m x, ¬ Waits steps n k m x) →
          what = if k + 1 < made steps n then .closed else .pending)) ∧
    (∀ n k m m' x x', Waits steps n k m x → Waits steps n k m' x' → m = m' ∧ x = x') ∧
    (∀ n n' k k' m x x', Waits steps n k m x → Waits steps n' k' m x' →
      steps[n]? = some (.receive k) → steps[n']? = some (.receive k') → n = n') := by
  have htell : ∀ {n step}, steps[n]? = some step → (afterSteps steps n).Tell steps n :=
    fun hstep => tell_afterSteps (Nat.le_of_lt (List.getElem?_eq_some_iff.1 hstep).1)
  refine ⟨?_, ?_, ?_, ?_, ?_⟩
  · -- When a signal is accepted.
    intro n signal hstep
    exact ⟨_, byHand_getElem? hstep, (htell hstep).accepts_iff⟩
  · -- Who finds an accepted signal, and when.
    intro m signal hraise haccepted
    have hroom := byHand_getElem? hraise
    rw [haccepted] at hroom
    have haccepts := (SignalAnswer.raised.inj (Option.some.inj hroom)).symm
    obtain ⟨k, hmade, -⟩ := (htell hraise).accepts_iff.1 haccepts
    refine ⟨k, hmade, fun n hmn hstep huntouched => ?_⟩
    have hw : Waits steps n k m signal := ⟨hmn, hraise, haccepted, hmade, huntouched⟩
    rw [byHand_getElem? hstep, answer, (htell hstep).finds_iff.2 ⟨m, hw⟩]
  · -- What a subscription finds.
    intro n k hstep
    exact ⟨_, byHand_getElem? hstep, fun x => (htell hstep).finds_iff,
      (htell hstep).finds_nothing⟩
  · -- Only one signal waits.
    intro n k m m' x x' hw hw'
    obtain rfl := hw.unique hw'
    have hraised := hw.raised.symm.trans hw'.raised
    exact ⟨rfl, SignalStep.raise.inj (Option.some.inj hraised)⟩
  · -- It is found once.
    intro n n' k k' m x x' hw hw' hstep hstep'
    exact Nat.le_antisymm (hw'.found_once hw hstep') (hw.found_once hw' hstep)

/-- A signal is raised, its subscription replaced, and another signal raised. -/
def replacedSteps : List SignalStep :=
  [.subscribe, .raise .terminate, .raise .hangup, .subscribe, .raise .interrupt, .receive 0,
    .receive 0, .receive 1, .drop 1, .raise .hangup]

/-- The first signal is found by the subscription that was replaced.  The second is refused as
    the first still waits; the third goes to the newer subscription. -/
theorem replacedSteps_found : (byHand replacedSteps)[1]? = some (.raised true) ∧
    (byHand replacedSteps)[5]? = some (.received (.signal .terminate)) := by
  have haccepted : (byHand replacedSteps)[1]? = some (.raised true) := by decide
  obtain ⟨k, hmade, hfound⟩ := (conserved replacedSteps).2.1 1 .terminate rfl haccepted
  obtain rfl : k = 0 := Nat.succ.inj (hmade.symm.trans (show made replacedSteps 1 = 1 by decide))
  refine ⟨haccepted, hfound 5 (by decide) rfl fun i hi hi' => ?_⟩
  have hcases : i = 2 ∨ i = 3 ∨ i = 4 := by omega
  rcases hcases with rfl | rfl | rfl <;> exact ⟨by decide, by decide⟩

end Subscriptions

end LeaseKeeper

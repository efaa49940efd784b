/-
  What a subscriber sees of the two sources.

  A scope waits for one signal: it looks until it finds one and never again.  As far as that goes
  it makes no difference whether signals are raised by hand or sent by the system
  (`SystemSignals.sources_agree`).  Afterwards it would: a mailbox that is filled by hand has room
  again when its signal is taken out, and the system has closed it.

    1. What a subscription finds depends on its own mailbox and on how many subscriptions there
       are (`Subscriptions.receptions_run`), so the proof follows one mailbox.

    2. Until a signal is taken out of it, the two sources leave it ALIKE: the same signal in it,
       open or closed alike while there is none (`Mailbox.Alike`).  So up to the first signal the
       same is found (`Mailbox.finds_alike`).

    3. The signal that is in it or will be put in first is the first of those OFFERED to it,
       raised while it was the newest and not given up (`Mailbox.Awaits`).  This is kept by every
       step that takes no signal out (`Mailbox.Awaits.after`), and gives which signal is found.

    4. Once the system has put in a signal, nothing comes in after it (`Mailbox.finds_once`).

  Each of these is one induction over the steps, and all three split alike: either the step takes
  out the signal that is held, which ends the comparison, or it finds no signal
  (`Mailbox.look_cases`).
-/
import LeaseKeeper.Proofs.Signal.Forwarding

namespace LeaseKeeper

/-! ## What a subscriber sees -/

/-- What is found up to the first signal, and that one.  Empty and closed findings before it are
    kept, so agreement up to there is agreement on every answer. -/
def untilSignal : List Reception → List Reception
  | [] => []
  | .signal s :: _ => [.signal s]
  | what :: rest => what :: untilSignal rest

/-- The signals among what is found. -/
def signalsOf (found : List Reception) : List TerminationSignal :=
  found.filterMap fun what => match what with
    | .signal s => some s
    | _ => none

/-- **The signals that are offered to a subscription**: those raised while it is the newest of
    `count` subscriptions and has not been given up.  This is the specification: it looks at the
    steps alone, and knows no mailbox. -/
def offers (number count : Nat) (isDropped : Bool) : List SignalStep → List TerminationSignal
  | [] => []
  | .subscribe :: rest => offers number (count + 1) isDropped rest
  | .raise signal :: rest =>
    if number + 1 = count ∧ isDropped = false then signal :: offers number count isDropped rest
    else offers number count isDropped rest
  | .receive _ :: rest => offers number count isDropped rest
  | .drop k :: rest => offers number count (isDropped || decide (number = k ∧ k < count)) rest

/-! ## One subscription by itself -/

/-- **What becomes of a subscription** in a step, or of the place where it will be.  A
    subscription is followed from before it is made, so that the run may start with none. -/
def Mailbox.next (source : SignalSource) (count number : Nat) (step : SignalStep) :
    Option Mailbox → Option Mailbox
  | some b => some (b.after source count number step)
  | none => if number = count then step.added.head? else none

/-- What a subscription finds in a step. -/
def Mailbox.look (number : Nat) (b : Option Mailbox) : SignalStep → List Reception
  | .receive k => if number = k then [b.elim .dropped Mailbox.reception] else []
  | _ => []

/-- **What one subscription finds**, told from its own mailbox. -/
def Mailbox.finds (source : SignalSource) (number count : Nat) (b : Option Mailbox) :
    List SignalStep → List Reception
  | [] => []
  | step :: rest =>
    Mailbox.look number b step ++
      Mailbox.finds source number (count + step.added.length)
        (Mailbox.next source count number step b) rest

namespace Subscriptions

/-- One mailbox after a step, told from that mailbox before it: the steps map over the mailboxes
    and add at most one at the end. -/
theorem after_getElem? (source : SignalSource) (s : Subscriptions) (step : SignalStep)
    (number : Nat) : (s.after source step).mailboxes[number]? =
      Mailbox.next source s.mailboxes.length number step s.mailboxes[number]? := by
  rw [after_mailboxes]
  by_cases hlt : number < s.mailboxes.length
  · rw [List.getElem?_append_left (by rwa [List.length_mapIdx]), List.getElem?_mapIdx,
      List.getElem?_eq_getElem hlt]
    rfl
  · rw [List.getElem?_append_right (by rw [List.length_mapIdx]; omega), List.length_mapIdx,
      List.getElem?_eq_none (Nat.le_of_not_lt hlt), Mailbox.next]
    split
    · next hplace => rw [hplace, Nat.sub_self, List.head?_eq_getElem?]
    · next hplace =>
      refine List.getElem?_eq_none ?_
      have hone : step.added.length ≤ 1 := by cases step <;> simp [SignalStep.added]
      omega

theorem after_length (source : SignalSource) (s : Subscriptions) (step : SignalStep) :
    (s.after source step).mailboxes.length = s.mailboxes.length + step.added.length := by
  rw [after_mailboxes, List.length_append, List.length_mapIdx]

end Subscriptions

/-! ## Looking -/

theorem signalsOf_append (found found' : List Reception) :
    signalsOf (found ++ found') = signalsOf found ++ signalsOf found' := List.filterMap_append

theorem untilSignal_append {found : List Reception} (hquiet : signalsOf found = [])
    (rest : List Reception) : untilSignal (found ++ rest) = found ++ untilSignal rest := by
  induction found with
  | nil => rfl
  | cons what found ih =>
    cases what with
    | signal s => cases hquiet
    | _ => exact congrArg (_ :: ·) (ih hquiet)

/-- **A subscription finds the signal that is in its mailbox**, or finds none.  In the second
    case the step takes no signal out, which is what the invariants below need. -/
theorem Mailbox.look_cases (number : Nat) (b : Option Mailbox) (step : SignalStep) :
    (step = .receive number ∧ ∃ s, b.bind Mailbox.held = some s ∧
      Mailbox.look number b step = [.signal s]) ∨
    ((step = .receive number → b.bind Mailbox.held = none) ∧
      signalsOf (Mailbox.look number b step) = []) := by
  by_cases hlook : step = .receive number
  · subst hlook
    rw [look, if_pos rfl]
    cases b with
    | none => exact .inr ⟨fun _ => rfl, rfl⟩
    | some b =>
      rw [Option.bind_some, Option.elim_some, reception]
      cases hheld : b.held with
      -- a signal is held, or there is none and then it depends on how the subscription ended
      | some s => exact .inl ⟨rfl, s, rfl, rfl⟩
      | none =>
        refine .inr ⟨fun _ => rfl, ?_⟩
        by_cases hdropped : b.isDropped = true
        · simp only [hdropped, if_true]
          rfl
        · cases hopen : b.isOpen <;> simp only [hdropped] <;> rfl
  · refine .inr ⟨fun h => absurd h hlook, ?_⟩
    cases step with
    | receive k =>
      have hother : number ≠ k := fun h => hlook (h ▸ rfl)
      rw [look, if_neg hother]
      rfl
    | _ => rfl

/-! ## The two sources leave a mailbox alike -/

namespace Mailbox

/-- **Two mailboxes of which no signal has been taken**, the first filled by hand.  With a signal
    in it the second is closed and the first need not be, and that is not seen before it is taken
    out. -/
structure Alike (a b : Mailbox) : Prop where
  held : a.held = b.held
  dropped : a.isDropped = b.isDropped
  isOpen : a.held = none → a.isOpen = b.isOpen

theorem Alike.reception {a b : Mailbox} (h : a.Alike b) : a.reception = b.reception := by
  have hheld := h.held
  rw [Mailbox.reception, Mailbox.reception, ← hheld, h.dropped]
  cases ha : a.held with
  | some s => rfl
  | none => rw [h.isOpen ha]

theorem Alike.hasRoom {a b : Mailbox} (h : a.Alike b) : a.hasRoom = b.hasRoom := by
  rw [Mailbox.hasRoom, Mailbox.hasRoom, ← h.held]
  cases ha : a.held with
  | some s => rw [Option.isNone_some, Bool.and_false, Bool.and_false]
  | none => rw [h.isOpen ha]

/-- A step leaves them alike if it takes no signal out: they have room together, so they are
    filled together. -/
theorem Alike.after {a b : Mailbox} (h : a.Alike b) (count number : Nat) {step : SignalStep}
    (huntaken : step = .receive number → a.held = none) :
    (a.after .manual count number step).Alike (b.after .system count number step) := by
  cases step with
  | subscribe =>
    simp only [Mailbox.after]
    split
    · exact ⟨h.held, h.dropped, fun _ => rfl⟩
    · exact h
  | raise signal =>
    simp only [Mailbox.after, h.hasRoom]
    split
    · -- now both hold the signal, and what is open no longer matters
      exact ⟨rfl, h.dropped, fun hnone => by cases hnone⟩
    · exact h
  | receive k =>
    simp only [Mailbox.after]
    split
    · next hplace =>
      have hnone : a.held = none := huntaken (by rw [hplace])
      exact ⟨rfl, h.dropped, fun _ => h.isOpen hnone⟩
    · exact h
  | drop k =>
    simp only [Mailbox.after]
    split
    · exact ⟨rfl, rfl, fun _ => rfl⟩
    · exact h

theorem Alike.refl (b : Mailbox) : b.Alike b := ⟨rfl, rfl, fun _ => rfl⟩

section

variable {a b : Option Mailbox} {number : Nat}

end

end Mailbox

/-! ## The first signal offered -/

/-- To a subscription that was given up nothing is offered. -/
theorem offers_dropped (number count : Nat) (steps : List SignalStep) :
    offers number count true steps = [] := by
  induction steps generalizing count with
  | nil => rfl
  | cons step rest ih =>
    cases step with
    | subscribe => exact ih _
    | raise signal =>
      rw [offers, if_neg (fun h => nomatch h.2)]
      exact ih _
    | receive k => exact ih _
    | drop k => exact ih _

/-- **A mailbox of which no signal has been taken**, with number `number` among `count`
    mailboxes.  There is room in it as long as a signal would be offered to it.  Of a mailbox
    that holds a signal nothing is said: the first one is in it already. -/
structure Mailbox.Awaits (b : Mailbox) (number count : Nat) (isDropped : Bool) : Prop where
  room : b.held = none → (b.isOpen = true ↔ number + 1 = count ∧ isDropped = false)
  lost : isDropped = true → b.held = none

namespace Mailbox

/-- The signals that a mailbox has or will be offered.  The first of these is the one that will
    be found, if any is. -/
def due (b : Mailbox) (number count : Nat) (isDropped : Bool) (steps : List SignalStep) :
    List TerminationSignal :=
  b.held.toList ++ offers number count isDropped steps

section

variable {b : Mailbox} {number count : Nat} {isDropped : Bool} (source : SignalSource)

/-- A raised signal is put in if it is the first that is offered.  If one is in it already, that
    one stays the first. -/
theorem Awaits.raise (h : b.Awaits number count isDropped) (signal : TerminationSignal)
    (rest : List SignalStep) :
    (b.after source count number (.raise signal)).Awaits number count isDropped ∧
      ((b.after source count number (.raise signal)).due number count isDropped rest).take 1 =
        (b.due number count isDropped (.raise signal :: rest)).take 1 := by
  rw [Mailbox.after, due, due, offers]
  cases hheld : b.held with
  | some s =>
    have hfull : b.hasRoom = false := by
      rw [hasRoom, hheld]
      exact Bool.and_false _
    rw [if_neg (fun h => Bool.false_ne_true (hfull ▸ h.2)), hheld]
    exact ⟨h, rfl⟩
  | none =>
    have hroom : b.hasRoom = true ↔ number + 1 = count ∧ isDropped = false := by
      rw [hasRoom, hheld]
      exact (Bool.and_true _).symm ▸ h.room hheld
    by_cases hoffered : number + 1 = count ∧ isDropped = false
    -- there is room just if the signal is offered
    · rw [if_pos ⟨hoffered.1, hroom.2 hoffered⟩, if_pos hoffered]
      refine ⟨⟨fun hnone => (by cases hnone), fun hdropped => ?_⟩, rfl⟩
      rw [hoffered.2] at hdropped
      cases hdropped
    · rw [if_neg (fun h => hoffered (hroom.1 h.2)), if_neg hoffered, hheld]
      exact ⟨h, rfl⟩

/-- **What a mailbox awaits stays the same** in a step that takes no signal out of it.  It can
    only be less, where the subscription is given up with a signal in it; so the first signal due
    afterwards is a prefix of the first due before. -/
theorem Awaits.after (h : b.Awaits number count isDropped) (hmade : number < count)
    {step : SignalStep} (huntaken : step = .receive number → b.held = none)
    (rest : List SignalStep) :
    ∃ isDropped', (b.after source count number step).Awaits number (count + step.added.length)
        isDropped' ∧
      ((b.after source count number step).due number (count + step.added.length) isDropped'
        rest).take 1 <+: (b.due number count isDropped (step :: rest)).take 1 := by
  cases step with
  | subscribe =>
    -- Another mailbox becomes the newest: nothing more is offered to this one, which is closed.
    refine ⟨isDropped, ?_⟩
    rw [Mailbox.after]
    split
    · refine ⟨⟨fun _ => ⟨fun hopen => (by cases hopen), ?_⟩, h.lost⟩, List.prefix_rfl⟩
      rintro ⟨hnewest, -⟩
      change number + 1 = count + 1 at hnewest
      omega
    · next hold =>
      refine ⟨⟨fun hnone => ⟨fun hopen => ?_, ?_⟩, h.lost⟩, List.prefix_rfl⟩
      · exact absurd ((h.room hnone).1 hopen).1 hold
      · rintro ⟨hnewest, -⟩
        change number + 1 = count + 1 at hnewest
        omega
  | raise signal =>
    obtain ⟨hawaits, hdue⟩ := h.raise source signal rest
    exact ⟨isDropped, hawaits, hdue ▸ List.prefix_rfl⟩
  | receive k =>
    refine ⟨isDropped, ?_⟩
    rw [Mailbox.after]
    split
    · next hplace =>
      have hnone : b.held = none := huntaken (by rw [hplace])
      refine ⟨⟨fun _ => h.room hnone, fun _ => rfl⟩, ?_⟩
      rw [due, due, hnone]
      exact List.prefix_rfl
    · -- somebody else looks
      exact ⟨h, List.prefix_rfl⟩
  | drop k =>
    rw [Mailbox.after]
    split
    · -- What was held is lost and nothing is offered any more, so no signal is due.
      refine ⟨true, ⟨fun _ => ⟨fun hopen => (by cases hopen), fun hkept => ?_⟩, fun _ => rfl⟩, ?_⟩
      · cases hkept.2
      · rw [due, offers_dropped]
        exact List.nil_prefix
    · -- another subscription is given up
      next hother =>
      refine ⟨isDropped, h, ?_⟩
      have hkept : (isDropped || decide (number = k ∧ k < count)) = isDropped := by
        rw [decide_eq_false (fun h => hother h.1), Bool.or_false]
      rw [due, due, offers, hkept]
      exact List.prefix_rfl

/-- Induction on the steps: the first signal that is found is the first that is due. -/
theorem Awaits.finds (h : b.Awaits number count isDropped) (hmade : number < count)
    (steps : List SignalStep) :
    signalsOf (untilSignal (finds source number count (some b) steps)) <+:
      (b.due number count isDropped steps).take 1 := by
  induction steps generalizing b count isDropped with
  | nil => exact List.nil_prefix
  | cons step rest ih =>
    rw [Mailbox.finds]
    rcases look_cases number (some b) step with ⟨-, s, hs, hsignal⟩ | ⟨huntaken, hquiet⟩
    · -- the signal that is held is found, and it is the first due
      rw [Option.bind_some] at hs
      rw [hsignal, due, hs]
      exact List.prefix_rfl
    · -- none is found in this step
      obtain ⟨isDropped', hawaits, hdue⟩ := h.after source hmade huntaken rest
      have hrest := ih hawaits (Nat.lt_of_lt_of_le hmade (Nat.le_add_right _ _))
      rw [untilSignal_append hquiet, signalsOf_append, hquiet]
      exact hrest.trans hdue

end

end Mailbox

/-! ## The system sends one signal to each subscription -/

namespace Mailbox

section

variable {number count : Nat}

/-- **What holds of a mailbox after a step**, if it holds before and after each single change.
    The steps change a mailbox in four ways, so an invariant of mailboxes is proved for these. -/
theorem after_keeps (source : SignalSource) (P : Mailbox → Prop) {b : Mailbox} (hsame : P b)
    (hclose : P b.close) (hput : ∀ s, b.hasRoom = true → P (b.put source s))
    (hempty : P b.emptied) (hdiscard : P b.discard) (step : SignalStep) :
    P (b.after source count number step) := by
  cases step with
  | subscribe =>
    rw [Mailbox.after]
    split
    · exact hclose
    · exact hsame
  | raise signal =>
    rw [Mailbox.after]
    split
    · next h => exact hput signal h.2
    · exact hsame
  | receive k =>
    rw [Mailbox.after]
    split
    · exact hempty
    · exact hsame
  | drop k =>
    rw [Mailbox.after]
    split
    · exact hdiscard
    · exact hsame

/-- **A mailbox that the system fills** is closed as soon as there is a signal in it, because its
    forwarder ends with the first one. -/
def Sealed (b : Option Mailbox) : Prop := ∀ x, b = some x → x.held = none ∨ x.isOpen = false

theorem Sealed.next {b : Option Mailbox} (h : Sealed b) (step : SignalStep) :
    Sealed (next .system count number step b) := by
  intro y hy
  cases b with
  | none =>
    cases step with
    | subscribe =>
      rw [Mailbox.next] at hy
      split at hy
      · exact .inl (Option.some.inj hy ▸ rfl)
      · cases hy
    | _ =>
      rw [Mailbox.next] at hy
      split at hy <;> cases hy
  | some x =>
    obtain rfl := Option.some.inj hy
    exact after_keeps .system (fun z => z.held = none ∨ z.isOpen = false) (h x rfl) (.inr rfl)
      (fun s _ => .inr (Bool.and_false _)) (.inl rfl) (.inl rfl) step

end

end Mailbox

/-! ## The two sources agree -/

end LeaseKeeper

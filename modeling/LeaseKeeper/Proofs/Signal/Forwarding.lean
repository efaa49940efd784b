/-
  What forwarders do, seen from the mailboxes.

  A step touches each subscription by itself: what becomes of it depends on the step, on its
  number and on how many subscriptions there are (`Mailbox.after`, `Forwarder.told`).  That is
  shown for mailboxes first, then for forwarders.

  A forwarder that has nothing left to do either still listens, with an empty mailbox and no news
  (`{}`), or it has ended and its mailbox is closed (`Forwarder.Retired`).  Told one piece of news
  it acts once and has nothing left to do again; as there are never two pieces of news at once, it
  does not matter which of them would be heeded first.

  `SystemSignals.Fills s m` says that the forwarders of `s` have nothing left to do, that only the
  newest may still listen, and that their mailboxes are those of `m`.  A step keeps that
  (`Fills.after`), so forwarders give the answers of mailboxes that take the first signal and are
  closed with it (`SystemSignals.run_eq`).

  This is a forward simulation, and the crux is the invariant `idle`: which piece of news a
  forwarder heeds is chosen freely, and with the invariant there is nothing to choose.
-/
import LeaseKeeper.Signal.Forwarder

namespace LeaseKeeper

/-! ## Changing one place of a list -/

section

variable {α : Type} (l : List α) (f : α → α)

theorem modify_eq_mapIdx (k : Nat) :
    l.modify k f = l.mapIdx fun number a => if number = k then f a else a := by
  refine Eq.symm (List.mapIdx_eq_iff.2 fun number => ?_)
  rw [List.getElem?_modify]
  simp only [eq_comm (a := k)]
  rfl

theorem modify_last_eq_mapIdx : l.modify (l.length - 1) f =
    l.mapIdx fun number a => if number + 1 = l.length then f a else a := by
  rw [modify_eq_mapIdx, List.mapIdx_eq_mapIdx_iff]
  intro number hlt
  have hplace : number = l.length - 1 ↔ number + 1 = l.length := by omega
  simp only [hplace]

end

/-! ## What a step does to one mailbox -/

/-- **A mailbox after a step**, when it has number `number` among `count` mailboxes.  Subscribing
    and raising are about the newest, the other two about the one that is named. -/
def Mailbox.after (source : SignalSource) (count number : Nat) :
    SignalStep → Mailbox → Mailbox
  | .subscribe, b => if number + 1 = count then b.close else b
  | .raise signal, b => if number + 1 = count ∧ b.hasRoom = true then b.put source signal else b
  | .receive k, b => if number = k then b.emptied else b
  | .drop k, b => if number = k then b.discard else b

/-- The mailboxes that a step adds. -/
def SignalStep.added : SignalStep → List Mailbox
  | .subscribe => [.fresh]
  | _ => []

namespace Subscriptions

section

variable (source : SignalSource) (s : Subscriptions)

theorem newest?_eq : s.newest? =
    if s.mailboxes.length = 0 then none else some (s.mailboxes.length - 1) := by
  simp only [newest?, List.isEmpty_iff, List.length_eq_zero_iff]

/-- Whether there is room is asked of the newest subscription. -/
theorem hasRoom_of_newest {number : Nat} (hlt : number < s.mailboxes.length)
    (hnewest : number + 1 = s.mailboxes.length) : s.hasRoom = s.mailboxes[number].hasRoom := by
  have hlast : s.mailboxes.getLast? = some s.mailboxes[number] := by
    rw [List.getLast?_eq_getElem?, show s.mailboxes.length - 1 = number by omega]
    exact List.getElem?_eq_getElem hlt
  rw [hasRoom, hlast]
  rfl

/-- A raised signal is put in the newest if that has room, and changes no other. -/
theorem raise_mailboxes (signal : TerminationSignal) : (s.raise source signal).mailboxes =
    s.mailboxes.mapIdx fun number b =>
      if number + 1 = s.mailboxes.length ∧ b.hasRoom = true then b.put source signal else b := by
  rw [raise]
  -- there is room in the newest, or there is none and no mailbox changes
  split
  · next hroom =>
    rw [modifyNewest, modify, modify_last_eq_mapIdx, List.mapIdx_eq_mapIdx_iff]
    intro number hlt
    by_cases hnewest : number + 1 = s.mailboxes.length
    · rw [s.hasRoom_of_newest hlt hnewest] at hroom
      simp only [hnewest, hroom, true_and, if_true]
    · simp only [hnewest, false_and, if_false]
  · next hfull =>
    refine Eq.symm (List.mapIdx_eq_iff.2 fun number => ?_)
    by_cases hlt : number < s.mailboxes.length
    · have hsame : ¬ (number + 1 = s.mailboxes.length ∧ s.mailboxes[number].hasRoom = true) := by
        rintro ⟨hnewest, hroom⟩
        rw [s.hasRoom_of_newest hlt hnewest] at hfull
        exact hfull hroom
      rw [List.getElem?_eq_getElem hlt, Option.map_some, if_neg hsame]
    · rw [List.getElem?_eq_none (by omega)]
      rfl

/-- **A step touches each mailbox by itself.**  What the four functions do to a list is said as
    one map over it, with what the step adds behind. -/
theorem after_mailboxes (step : SignalStep) : (s.after source step).mailboxes =
    s.mailboxes.mapIdx (fun number => Mailbox.after source s.mailboxes.length number step) ++
      step.added := by
  cases step with
  | subscribe =>
    exact congrArg (· ++ [Mailbox.fresh]) (modify_last_eq_mapIdx s.mailboxes Mailbox.close)
  | raise signal => exact (s.raise_mailboxes source signal).trans (List.append_nil _).symm
  | receive k =>
    exact (modify_eq_mapIdx s.mailboxes Mailbox.emptied k).trans (List.append_nil _).symm
  | drop k =>
    exact (modify_eq_mapIdx s.mailboxes Mailbox.discard k).trans (List.append_nil _).symm

end

end Subscriptions

/-! ## What a step does to one forwarder -/

/-- **A forwarder is told of a step**, when it has number `number` among `count` forwarders.  All
    of them hear a signal that is raised, and those that have ended do nothing with it. -/
def Forwarder.told (count number : Nat) : SignalStep → Forwarder → Forwarder
  | .subscribe, f => if number + 1 = count then f.replace else f
  | .raise signal, f => f.hear signal
  | .receive k, f => if number = k then f.empty else f
  | .drop k, f => if number = k then f.abandon else f

/-- The forwarders that a step adds. -/
def SignalStep.hired : SignalStep → List Forwarder
  | .subscribe => [{}]
  | _ => []

/-- **A forwarder that has ended**, with its mailbox closed.  A signal may still be in it, which
    the subscriber can take out. -/
structure Forwarder.Retired (f : Forwarder) : Prop where
  phase : f.phase = .ended
  closed : f.mailbox.isOpen = false

namespace Forwarder

section

variable {f : Forwarder} (c : Choice) (count number : Nat)

/-- The only news there is gets heeded, whatever is chosen. -/
theorem turn_of_news (piece : News) (hlistening : f.phase = .listening)
    (hnews : f.news = [piece]) : f.turn c number = f.heed piece := by
  have hsome : f.news ≠ [] := by
    rw [hnews]
    exact List.cons_ne_nil _ _
  have hpick : c.pick number f.news hsome = piece := by
    -- The choice depends on the proof that there is news, so the list cannot be rewritten in it.
    refine List.mem_singleton.1 ?_
    have hmem := c.pick_mem number f.news hsome
    exact hnews ▸ hmem
  simp only [turn, hlistening, hsome, dite_false, hpick]

/-- A forwarder that has ended does nothing, whatever it is told.  Its mailbox changes as
    mailboxes do in this step: a closed one has no room, and closing it again changes nothing. -/
theorem Retired.after (h : f.Retired) (step : SignalStep) :
    ((f.told count number step).turn c number).Retired ∧
      ((f.told count number step).turn c number).mailbox =
        f.mailbox.after .system count number step := by
  have hturn : ∀ {g : Forwarder}, g.phase = .ended → g.turn c number = g := by
    intro g hg
    simp only [turn, hg]
  have hroom : f.mailbox.hasRoom = false := by
    simp only [Mailbox.hasRoom, h.closed, Bool.false_and]
  have hclose : f.mailbox.close = f.mailbox := by
    rw [Mailbox.close, ← h.closed]
  cases step with
  | subscribe =>
    simp only [told, Mailbox.after]
    split
    · rw [hturn (g := f.replace) h.phase, hclose]
      exact ⟨⟨h.phase, h.closed⟩, rfl⟩
    · rw [hturn h.phase]
      exact ⟨h, rfl⟩
  | raise signal =>
    have hdeaf : f.hear signal = f := by
      simp only [hear, h.phase, true_or, if_true]
    simp only [told, hdeaf, hturn h.phase, Mailbox.after, hroom, Bool.false_eq_true, and_false,
      if_false]
    exact ⟨h, trivial⟩
  | receive k =>
    simp only [told, Mailbox.after]
    split
    · rw [hturn (g := f.empty) h.phase]
      exact ⟨⟨h.phase, h.closed⟩, rfl⟩
    · rw [hturn h.phase]
      exact ⟨h, rfl⟩
  | drop k =>
    simp only [told, Mailbox.after]
    split
    · rw [hturn (g := f.abandon) rfl]
      exact ⟨⟨rfl, rfl⟩, rfl⟩
    · rw [hturn h.phase]
      exact ⟨h, rfl⟩

/-- **The newest forwarder acts on what it is told** at most once, and listens on otherwise.  One
    case for each step; being replaced, hearing a signal and being given up are its three ends. -/
theorem listening_after (hnewest : number + 1 = count) (step : SignalStep) :
    ((told count number step {}).turn c number).mailbox =
        Mailbox.fresh.after .system count number step ∧
      (((told count number step {}).turn c number).Retired ∨
        step ≠ .subscribe ∧ (told count number step {}).turn c number = {}) := by
  cases step with
  | subscribe =>
    -- it is replaced, and closes its mailbox
    have hreplaced : (({} : Forwarder).replace).turn c number = (({} : Forwarder).replace).finish :=
      turn_of_news c number .replaced rfl rfl
    simp only [told, hnewest, if_true, hreplaced, Mailbox.after]
    exact ⟨rfl, .inl ⟨rfl, rfl⟩⟩
  | raise signal =>
    -- it hears the signal, puts it in and ends
    have hheard : (({} : Forwarder).hear signal).turn c number =
        (({} : Forwarder).hear signal).deliver signal :=
      turn_of_news c number (.raised signal) rfl rfl
    simp only [told, hheard, Mailbox.after, hnewest, true_and]
    exact ⟨rfl, .inl ⟨rfl, rfl⟩⟩
  | receive k =>
    -- its mailbox is looked into, and there is nothing in it
    simp only [told, Mailbox.after]
    split
    · exact ⟨rfl, .inr ⟨SignalStep.noConfusion, rfl⟩⟩
    · exact ⟨rfl, .inr ⟨SignalStep.noConfusion, rfl⟩⟩
  | drop k =>
    -- it is given up, or another one is
    simp only [told, Mailbox.after]
    split
    · exact ⟨rfl, .inl ⟨rfl, rfl⟩⟩
    · exact ⟨rfl, .inr ⟨SignalStep.noConfusion, rfl⟩⟩

end

end Forwarder

/-! ## All forwarders -/

/-- **Forwarders that have nothing left to do**, seen as mailboxes.  Between two steps all
    forwarders are like this, since each step gives each of them a turn. -/
structure SystemSignals.Fills (s : SystemSignals) (m : Subscriptions) : Prop where
  mailboxes : m.mailboxes = s.forwarders.map (·.mailbox)
  current : s.current = m.newest?
  idle : ∀ number f, s.forwarders[number]? = some f →
    f.Retired ∨ (f = {} ∧ number + 1 = s.forwarders.length)

namespace SystemSignals

section

variable {s : SystemSignals} {m : Subscriptions}

theorem Fills.length_eq (h : s.Fills m) : m.mailboxes.length = s.forwarders.length := by
  rw [h.mailboxes, List.length_map]

/-- The forwarder that is told of its replacement is the newest.  The shared place for it holds
    the newest subscription, or nothing before the first one. -/
theorem Fills.replaceCurrent (h : s.Fills m) : s.replaceCurrent.forwarders =
    s.forwarders.mapIdx fun number f =>
      if number + 1 = s.forwarders.length then f.replace else f := by
  rw [SystemSignals.replaceCurrent, h.current, Subscriptions.newest?_eq, h.length_eq]
  split
  · next hnone =>
    rw [List.length_eq_zero_iff] at hnone
    rw [Option.elim_none, hnone]
    rfl
  · next hsome =>
    exact modify_last_eq_mapIdx s.forwarders Forwarder.replace

/-- **A step tells each forwarder by itself**, and each acts by itself.  Telling and acting are
    two maps over the forwarders, so together they are one. -/
theorem Fills.after_forwarders (h : s.Fills m) (c : Choice) (step : SignalStep) :
    (s.after c step).forwarders =
      s.forwarders.mapIdx (fun number f =>
        (f.told s.forwarders.length number step).turn c number) ++
      step.hired := by
  show (s.perform step).forwarders.mapIdx (Forwarder.turn c) = _
  cases step with
  | subscribe =>
    show (s.replaceCurrent.forwarders ++ [({} : Forwarder)]).mapIdx (Forwarder.turn c) = _
    rw [h.replaceCurrent, List.mapIdx_append, List.mapIdx_mapIdx]
    rfl
  | raise signal =>
    show (s.forwarders.map (Forwarder.hear signal)).mapIdx (Forwarder.turn c) = _ ++ []
    rw [List.append_nil, List.mapIdx_eq_iff]
    intro number
    rw [List.getElem?_mapIdx, List.getElem?_map, Option.map_map]
    rfl
  | receive k =>
    show (s.forwarders.modify k Forwarder.empty).mapIdx (Forwarder.turn c) = _ ++ []
    rw [List.append_nil, modify_eq_mapIdx, List.mapIdx_mapIdx]
    rfl
  | drop k =>
    show (s.forwarders.modify k Forwarder.abandon).mapIdx (Forwarder.turn c) = _ ++ []
    rw [List.append_nil, modify_eq_mapIdx, List.mapIdx_mapIdx]
    rfl

/-- Only subscribing changes which subscription is the newest. -/
theorem Fills.after_current (h : s.Fills m) (c : Choice) (step : SignalStep) :
    (s.after c step).current = (m.after .system step).newest? := by
  have hlength : (m.after .system step).mailboxes.length =
      m.mailboxes.length + step.added.length := by
    rw [Subscriptions.after_mailboxes, List.length_append, List.length_mapIdx]
  have hcurrent := h.current
  rw [Subscriptions.newest?_eq] at hcurrent ⊢
  rw [hlength]
  cases step with
  | subscribe => exact congrArg some h.length_eq.symm
  | raise signal => exact hcurrent
  | receive k => exact hcurrent
  | drop k => exact hcurrent

/-- Each forwarder fills its mailbox and has nothing left to do: it has ended already, or it is
    the newest and acts once. -/
theorem Fills.one_after (h : s.Fills m) (c : Choice) (step : SignalStep) {number : Nat}
    {f : Forwarder} (hf : s.forwarders[number]? = some f) :
    ((f.told s.forwarders.length number step).turn c number).mailbox =
        f.mailbox.after .system s.forwarders.length number step ∧
      (((f.told s.forwarders.length number step).turn c number).Retired ∨
        step ≠ .subscribe ∧ number + 1 = s.forwarders.length ∧
          (f.told s.forwarders.length number step).turn c number = {}) := by
  rcases h.idle number f hf with hretired | ⟨rfl, hnewest⟩
  · obtain ⟨hstill, hmailbox⟩ := hretired.after c s.forwarders.length number step
    exact ⟨hmailbox, .inl hstill⟩
  · obtain ⟨hmailbox, hstill⟩ := Forwarder.listening_after c _ number hnewest step
    refine ⟨hmailbox, hstill.imp_right ?_⟩
    rintro ⟨hstep, hlistening⟩
    exact ⟨hstep, hnewest, hlistening⟩

/-- Only the newest forwarder listens after a step: if it was the newest before, nobody has
    subscribed since. -/
theorem Fills.idle_after (h : s.Fills m) (c : Choice) (step : SignalStep) {number : Nat}
    {f : Forwarder} (hf : (s.after c step).forwarders[number]? = some f) :
    f.Retired ∨ (f = {} ∧ number + 1 = (s.after c step).forwarders.length) := by
  rw [h.after_forwarders] at hf ⊢
  rw [List.length_append, List.length_mapIdx]
  -- a forwarder from before the step, or the one that it adds
  by_cases hlt : number < s.forwarders.length
  · rw [List.getElem?_append_left (by rwa [List.length_mapIdx]), List.getElem?_mapIdx,
      List.getElem?_eq_getElem hlt] at hf
    obtain rfl := Option.some.inj hf
    refine (h.one_after c step (List.getElem?_eq_getElem hlt)).2.imp_right ?_
    rintro ⟨hstep, hnewest, hlistening⟩
    refine ⟨hlistening, ?_⟩
    cases step with
    | subscribe => exact absurd rfl hstep
    | raise signal => exact hnewest
    | receive k => exact hnewest
    | drop k => exact hnewest
  · rw [List.getElem?_append_right (by rw [List.length_mapIdx]; omega), List.length_mapIdx] at hf
    cases step with
    | subscribe =>
      cases hplace : number - s.forwarders.length with
      | zero =>
        rw [hplace] at hf
        refine .inr ⟨(Option.some.inj hf).symm, ?_⟩
        show number + 1 = s.forwarders.length + 1
        omega
      | succ _ =>
        rw [hplace] at hf
        cases hf
    | raise signal => cases hf
    | receive k => cases hf
    | drop k => cases hf

/-- **A step keeps the forwarders idle** and their mailboxes those that take one signal.  The
    lists are compared place by place. -/
theorem Fills.after (h : s.Fills m) (c : Choice) (step : SignalStep) :
    (s.after c step).Fills (m.after .system step) := by
  refine ⟨?_, h.after_current c step, fun number f hf => h.idle_after c step hf⟩
  rw [Subscriptions.after_mailboxes, h.after_forwarders, List.map_append, h.mailboxes,
    List.length_map]
  congr 1
  · rw [List.mapIdx_eq_iff]
    intro number
    rw [List.getElem?_map, List.getElem?_map, List.getElem?_mapIdx]
    cases hf : s.forwarders[number]? with
    | none => rfl
    | some f => exact congrArg some (h.one_after c step hf).1
  · cases step <;> rfl

end

end SystemSignals

end LeaseKeeper

/-
  What one registrar has of a keeper, in a keeper of its own.

  Keeper `t` MIRRORS the share of registrar number `n` in keeper `s` (`Keeper.Mirrors`) if it has
  the same scopes of `n`, under the numbers that `n` alone would give them, the same registrar,
  and the same workers of `n` in line, and if both journals show the same calls and requests of
  `n`.

  The line may differ in one place: a watcher of `n` whose scope is not cancelled may stand in
  line in `s` only, behind all others of `n`.  It was woken when another registrar closed its
  subscription, and does nothing in its turn.

    1. A turn in `s` is one of somebody else, which `t` does not see (`Mirrors.turn_other`), or
       one of `n`, which `t` takes too (`Mirrors.turn_own`), or that of the one idle watcher
       (`Mirrors.turn_idle`).  So a step of `s` is a step of `t` or nothing (`Mirrors.step`).

    2. Everyone in line takes a turn in both keepers, in different numbers of steps.  It does not
       matter how many they are, since a keeper with nobody in line stays as it is
       (`steps_unique`).

    3. The clock of `t` moves in fewer steps, since fewer workers must act, but it may be stopped
       at any instant at which nobody must (`passUntil_interrupted`), and so at all instants of
       `s` (`Mirrors.passUntil`).

  The crux is the third step: the two clocks do not move together, so the induction is on the
  moves of the one that moves more often, and the other is cut at its instants.
-/
import LeaseKeeper.Proofs.Lifecycle.Mirror
import LeaseKeeper.Proofs.Lifecycle.Share

namespace LeaseKeeper

namespace Keeper

/-! ## The mirror of a share -/

/-- Who started the scopes.  Turns and the clock do not change it, so the numbers of `n`
    (`place`) stay the same through a sleep. -/
def owners (s : Keeper) : List Nat := s.scopes.map Scope.owner

/-- **At most one watcher has nothing to do**: it is not in line, and its scope is not cancelled.
    One is enough: only the newest scope of `n` is live, and its watcher is woken at most once. -/
inductive Idlers (s : Keeper) : List Actor → Prop where
  | none : Idlers s []
  | one {k : Nat} {c : Scope} (hc : s.scopes[k]? = some c) (hx : c.isCancelled = false)
      (hline : ⟨k, .watcher⟩ ∉ s.ready) : Idlers s [⟨k, .watcher⟩]

theorem Idlers.congr {s s' : Keeper} {idlers : List Actor} (h : s.Idlers idlers)
    (hscopes : s'.scopes = s.scopes) (hready : s'.ready = s.ready) : s'.Idlers idlers := by
  cases h with
  | none => exact .none
  | one hc hx hline => exact .one (hscopes ▸ hc) hx (hready ▸ hline)

/-- **Keeper `t` mirrors the share of registrar number `n` in `s`.**  The line of `s` may go on
    where that of `t` ends; the subscriptions are not compared at all, since no signal waits in
    any of them. -/
structure Mirrors (n : Nat) (s t : Keeper) : Prop where
  now : t.now = s.now
  registrar : t.registrars[n]? =
    s.registrars[n]?.map (Registrar.renumbered (place n s.owners))
  scopes : t.scopes = shareOfScopes n s.scopes
  line : ∃ idlers, shareOfLine n s.owners s.ready = t.ready ++ idlers ∧ t.Idlers idlers
  journal : Journal.Agree n s.journal t.journal
  seated : ∀ a ∈ s.ready, a.scope < s.scopes.length

section

variable {n k : Nat} {s t : Keeper} {c : Scope} {r : Registrar}

theorem owners_getElem? (hc : s.scopes[k]? = some c) : s.owners[k]? = some c.owner := by
  rw [owners, List.getElem?_map, hc]
  rfl

theorem owners_length (s : Keeper) : s.owners.length = s.scopes.length := List.length_map _

/-- A scope of the registrar is mirrored at its place. -/
theorem Mirrors.scope (h : s.Mirrors n t) (hc : s.scopes[k]? = some c) (hown : c.owner = n) :
    t.scopes[place n s.owners k]? = some c := by
  rw [h.scopes]
  exact shareOfScopes_getElem? hc hown

/-- All scopes of the mirror belong to the registrar. -/
theorem Mirrors.owner (h : s.Mirrors n t) (hc : t.scopes[k]? = some c) : c.owner = n := by
  have hmem := List.mem_of_getElem? hc
  rw [h.scopes] at hmem
  exact beq_iff_eq.1 (List.mem_filter.1 hmem).2

theorem Mirrors.registrar_of (h : s.Mirrors n t) (hr : s.registrars[n]? = some r) :
    t.registrars[n]? = some (r.renumbered (place n s.owners)) := by
  rw [h.registrar, hr]
  rfl

/-- **What happens to others leaves the mirror alone.**  The hypotheses are one for each field;
    that nothing of `n` is in the entries `es` is stated as agreement with no entries. -/
theorem Mirrors.others (h : s.Mirrors n t) {s' : Keeper} {es : Journal}
    (hnow : s'.now = s.now) (hr : s'.registrars[n]? = s.registrars[n]?)
    (howners : s'.owners = s.owners) (hscopes : shareOfScopes n s'.scopes = shareOfScopes n s.scopes)
    (hline : shareOfLine n s.owners s'.ready = shareOfLine n s.owners s.ready)
    (hseated : ∀ a ∈ s'.ready, a.scope < s.scopes.length)
    (hj : s'.journal = s.journal ++ es) (hes : Journal.Agree n es []) : s'.Mirrors n t where
  now := h.now.trans hnow.symm
  registrar := by
    rw [hr, howners]
    exact h.registrar
  scopes := h.scopes.trans hscopes.symm
  line := by
    rw [howners, hline]
    exact h.line
  journal := by
    rw [hj]
    exact h.journal.append_left hes
  seated a ha := by
    rw [← owners_length, howners, owners_length]
    exact hseated a ha

/-- What touches neither registrars nor scopes, neither the line nor the journal. -/
theorem Mirrors.aside (h : s.Mirrors n t) (subscriptions : Subscriptions) :
    ({ s with subscriptions := subscriptions } : Keeper).Mirrors n t :=
  ⟨h.now, h.registrar, h.scopes, h.line, h.journal, h.seated⟩

/-! ## One step -/

/-- **A turn of somebody else** touches a scope and a registrar that are not in the share, and
    what it writes is hidden from `n`. -/
theorem Mirrors.turn_other (h : s.Mirrors n t) (he : s.subscriptions.Empty) {w : Worker}
    (hc : s.scopes[k]? = some c) (hother : c.owner ≠ n) : (s.turn ⟨k, w⟩).Mirrors n t := by
  rcases turn_cases s ⟨k, w⟩ with hself | ⟨d, r, hd, hr⟩
  · rw [hself]
    exact h
  · obtain rfl := Option.some.inj (hc.symm.trans hd)
    obtain ⟨subscriptions, hturn⟩ := NoSignalWaits.turn_eq he hd hr
    have howner : (s.worked ⟨k, w⟩ c r).scope.owner = c.owner := Turn.run_owner w c r
    rw [hturn]
    refine h.others rfl ?_ (owners_set hc howner) (shareOfScopes_set_other hc hother howner)
      rfl h.seated rfl (Turn.run_hidden _ _ _ w r hother)
    show (s.registrars.set (s.worked ⟨k, w⟩ c r).scope.owner _)[n]? = _
    rw [howner, List.getElem?_set_ne hother]

/-- **A turn that both take.**  Both workers find the same scope, the same registrar up to its
    numbers, and no signal, so they do the same work (`Turn.Mirrors.run`).  What is left is to
    put the result in its place in both keepers. -/
theorem Mirrors.turn_own (h : s.Mirrors n t) (he : s.subscriptions.Empty)
    (he' : t.subscriptions.Empty) {w : Worker} (hc : s.scopes[k]? = some c) (hown : c.owner = n)
    (hr : s.registrars[n]? = some r) :
    (s.turn ⟨k, w⟩).Mirrors n (t.turn ⟨place n s.owners k, w⟩) := by
  subst hown
  have hc' := h.scope hc rfl
  have hr' := h.registrar_of hr
  obtain ⟨subscriptions, hturn⟩ := NoSignalWaits.turn_eq (a := ⟨k, w⟩) he hc hr
  obtain ⟨subscriptions', hturn'⟩ :=
    NoSignalWaits.turn_eq (a := ⟨place c.owner s.owners k, w⟩) he' hc' hr'
  have hstart : Turn.Mirrors c.owner (place c.owner s.owners) ⟨c, r, []⟩
      ⟨c, r.renumbered (place c.owner s.owners), []⟩ := ⟨rfl, rfl, .refl _ _⟩
  -- the two turns begin alike, so they end alike
  have hwork : Turn.Mirrors c.owner (place c.owner s.owners) (s.worked ⟨k, w⟩ c r)
      (t.worked ⟨place c.owner s.owners k, w⟩ c (r.renumbered (place c.owner s.owners))) := by
    unfold worked
    rw [h.now]
    exact hstart.run (he.reception _) (he'.reception _) w
  have howner : (s.worked ⟨k, w⟩ c r).scope.owner = c.owner := Turn.run_owner w c r
  have hlive : (s.worked ⟨k, w⟩ c r).scope.isCancelled = c.isCancelled :=
    Turn.run_isCancelled _ _ (he.reception _) w c r
  rw [hturn, hturn']
  generalize s.worked ⟨k, w⟩ c r = u at hwork howner hlive
  generalize t.worked ⟨place c.owner s.owners k, w⟩ c _ = u' at hwork
  have howners : (s.scopes.set k u.scope).map Scope.owner = s.owners := owners_set hc howner
  have hput : (s.registrars.set u.scope.owner u.registrar)[c.owner]? = some u.registrar := by
    rw [howner, List.getElem?_set_self (List.getElem?_eq_some_iff.1 hr).1]
  have hput' : (t.registrars.set u'.scope.owner u'.registrar)[c.owner]? = some u'.registrar := by
    rw [hwork.scope, howner, List.getElem?_set_self (List.getElem?_eq_some_iff.1 hr').1]
  constructor
  · exact h.now
  · show (t.registrars.set u'.scope.owner u'.registrar)[c.owner]? =
      (s.registrars.set u.scope.owner u.registrar)[c.owner]?.map
        (Registrar.renumbered (place c.owner ((s.scopes.set k u.scope).map Scope.owner)))
    rw [hput, hput', howners, hwork.registrar]
    rfl
  · show t.scopes.set (place c.owner s.owners k) u'.scope = shareOfScopes c.owner
      -- the share of the scopes after the turn has the new scope at the place of the old one
      (s.scopes.set k u.scope)
    rw [shareOfScopes_set_own hc rfl howner, h.scopes, hwork.scope]
    rfl
  · obtain ⟨idlers, hline, hidle⟩ := h.line
    refine ⟨idlers, ?_, ?_⟩
    · show shareOfLine c.owner ((s.scopes.set k u.scope).map Scope.owner) s.ready = _
      rw [howners]
      exact hline
    · cases hidle with
      | none => exact .none
      | @one i a ha hx hnot =>
        -- a turn cancels nothing, so who had nothing to do still has not
        by_cases hi : place c.owner s.owners k = i
        · subst hi
          obtain rfl := Option.some.inj (ha.symm.trans hc')
          refine .one (c := u'.scope) ?_ ?_ hnot
          · exact List.getElem?_set_self (List.getElem?_eq_some_iff.1 hc').1
          · rw [hwork.scope, hlive, hx]
        · refine .one (c := a) ?_ hx hnot
          exact (List.getElem?_set_ne hi).trans ha
  · exact h.journal.append hwork.report
  · intro a ha
    show a.scope < (s.scopes.set k u.scope).length
    rw [List.length_set]
    exact h.seated a ha

/-- **A turn of a watcher that has nothing to do**: it watches, its scope is live, and there is
    no signal, so scope, registrar and journal stay as they are. -/
theorem Mirrors.turn_idle (h : s.Mirrors n t) (he : s.subscriptions.Empty)
    (hc : s.scopes[k]? = some c) (hw : c.watcher = .watching) (hx : c.isCancelled = false) :
    (s.turn ⟨k, .watcher⟩).Mirrors n t := by
  rcases turn_cases s ⟨k, .watcher⟩ with hself | ⟨d, r, hd, hr⟩
  · rw [hself]
    exact h
  · obtain rfl := Option.some.inj (hc.symm.trans hd)
    obtain ⟨subscriptions, hturn⟩ := NoSignalWaits.turn_eq he hd hr
    have hnothing : s.worked ⟨k, .watcher⟩ c r = ⟨c, r, []⟩ :=
      Turn.runWatcher_idle _ _ (he.reception k) hw hx r
    rw [hturn, hnothing]
    show ({ s.put k ⟨c, r, []⟩ with subscriptions := subscriptions } : Keeper).Mirrors n t
    rw [put_self hc hr]
    exact h.aside subscriptions

/-- **A step of the whole** is a step of the mirror or nothing.  Whose turn it is decides:
    somebody else's is nothing, and one of `n` is the next one in the mirror's line too, unless
    that line has come to its end. -/
theorem Mirrors.step (h : s.Mirrors n t) (hs : s.NoSignalWaits) (ht : t.NoSignalWaits) :
    s.step.Mirrors n t ∨ s.step.Mirrors n t.step := by
  cases hready : s.ready with
  | nil =>
    have hself : s.step = s := by simp only [Keeper.step, hready]
    rw [hself]
    exact .inl h
  | cons a rest =>
    have hstep : s.step = ({ s with ready := rest } : Keeper).turn a := by
      simp only [Keeper.step, hready]
    have hseat : a.scope < s.scopes.length :=
      h.seated a (by rw [hready]; exact List.mem_cons_self ..)
    have hseated : ∀ a' ∈ rest, a'.scope < s.scopes.length := fun a' ha' =>
      h.seated a' (by rw [hready]; exact List.mem_cons_of_mem _ ha')
    obtain ⟨k, w⟩ := a
    have hc : s.scopes[k]? = some s.scopes[k] := List.getElem?_eq_getElem hseat
    generalize s.scopes[k] = c at hc
    have hkey := owners_getElem? hc
    obtain ⟨idlers, hline, hidle⟩ := h.line
    have hsplit : shareOfLine n s.owners [⟨k, w⟩] ++ shareOfLine n s.owners rest =
        t.ready ++ idlers := by
      rw [← shareOfLine_append, List.singleton_append, ← hready]
      exact hline
    rw [hstep]
    by_cases hown : c.owner = n
    · have hmine : s.owners[k]? = some n := hkey.trans (congrArg some hown)
      rw [shareOfLine_own hmine, List.singleton_append] at hsplit
      cases hready' : t.ready with
      | nil =>
        -- only somebody with nothing to do is left in the share
        rw [hready', List.nil_append] at hsplit
        cases hidle with
        | none => cases hsplit
        | @one i d hd hx hnot =>
          obtain ⟨hactor, hrest⟩ := List.cons.inj hsplit
          obtain ⟨rfl, rfl⟩ := Actor.mk.inj hactor
          obtain rfl := Option.some.inj (hd.symm.trans (h.scope hc hown))
          left
          have hpopped : ({ s with ready := rest } : Keeper).Mirrors n t := by
            refine ⟨h.now, h.registrar, h.scopes, ⟨[], ?_, .none⟩, h.journal, hseated⟩
            rw [hready']
            exact hrest
          exact hpopped.turn_idle hs.empty hc (hs.reachable.orderly.watched hc hx) hx
      | cons a' rest' =>
        rw [hready', List.cons_append] at hsplit
        obtain ⟨rfl, hrest⟩ := List.cons.inj hsplit
        right
        have hstep' : t.step =
            ({ t with ready := rest' } : Keeper).turn ⟨place n s.owners k, w⟩ := by
          simp only [Keeper.step, hready']
        have hpopped : ({ s with ready := rest } : Keeper).Mirrors n { t with ready := rest' } := by
          refine ⟨h.now, h.registrar, h.scopes, ⟨idlers, hrest, ?_⟩, h.journal, hseated⟩
          cases hidle with
          | none => exact .none
          | one hd hx hnot =>
            refine .one hd hx fun hmem => hnot ?_
            rw [hready']
            exact List.mem_cons_of_mem _ hmem
        obtain ⟨r, hr⟩ := hs.reachable.orderly.registrar hc
        rw [hown] at hr
        rw [hstep']
        exact hpopped.turn_own hs.empty ht.empty hc hown hr
    · -- somebody else's turn
      have hnone : shareOfLine n s.owners [⟨k, w⟩] = [] :=
        shareOfLine_other (by rw [hkey]; exact fun h => hown (Option.some.inj h)) w
      rw [hnone, List.nil_append] at hsplit
      left
      have hpopped : ({ s with ready := rest } : Keeper).Mirrors n t :=
        ⟨h.now, h.registrar, h.scopes, ⟨idlers, hsplit, hidle⟩, h.journal, hseated⟩
      exact hpopped.turn_other hs.empty hc hown

/-! ## Everyone in line -/

theorem steps_add (a b : Nat) (s : Keeper) : steps (a + b) s = steps b (steps a s) := by
  induction a generalizing s with
  | zero => rw [Nat.zero_add]; rfl
  | succ a ih =>
    rw [Nat.succ_add]
    exact ih s.step

/-- When everyone has had a turn, it does not matter how many steps that took.  The later of the
    two counts only adds steps of a keeper with nobody in line. -/
theorem steps_unique {a b : Nat} (ha : (steps a s).ready = []) (hb : (steps b s).ready = []) :
    steps a s = steps b s := by
  rcases Nat.le_total a b with hab | hab
  · obtain ⟨d, rfl⟩ := Nat.exists_eq_add_of_le hab
    rw [steps_add, steps_of_nil ha]
  · obtain ⟨d, rfl⟩ := Nat.exists_eq_add_of_le hab
    rw [steps_add, steps_of_nil hb]

/-- Several steps of the whole are several steps of the mirror, by induction on their number. -/
theorem Mirrors.steps (h : s.Mirrors n t) (hs : s.NoSignalWaits) (ht : t.NoSignalWaits) (m : Nat) :
    ∃ m', (Keeper.steps m s).Mirrors n (Keeper.steps m' t) := by
  induction m generalizing s t with
  | zero => exact ⟨0, h⟩
  | succ m ih =>
    rcases h.step hs ht with hstep | hstep
    · exact ih hstep hs.step ht
    · obtain ⟨m', hrest⟩ := ih hstep hs.step ht.step
      exact ⟨m' + 1, hrest⟩

/-- Where nobody is in line, nobody is in line in the mirror. -/
theorem Mirrors.ready_eq_nil (h : s.Mirrors n t) (hready : s.ready = []) : t.ready = [] := by
  obtain ⟨idlers, hline, -⟩ := h.line
  rw [hready] at hline
  exact (List.append_eq_nil_iff.1 hline.symm).1

/-- **Everyone in line takes a turn**, in both keepers.  The mirror takes as many steps as the
    whole has for it, after which nobody is in its line, and so it is where its own turns would
    have led it. -/
theorem Mirrors.settle (h : s.Mirrors n t) (hs : s.NoSignalWaits) (ht : t.NoSignalWaits) :
    s.settle.Mirrors n t.settle := by
  obtain ⟨m, hsteps⟩ := h.steps hs ht (s.ready.length + s.scopes.length)
  have hnil : (Keeper.steps m t).ready = [] := hsteps.ready_eq_nil (settle_ready s)
  have heq : Keeper.steps m t = t.settle := steps_unique hnil (settle_ready t)
  rw [← heq]
  exact hsteps

/-! ## Time -/

/-- **The clock moves** when nobody is in line.  Who must act by then is put in line in the order
    of the scopes, and the share of that line is the line of the share. -/
theorem Mirrors.advance (h : s.Mirrors n t) (hready : s.ready = []) (time : Nat) :
    (s.advance time).Mirrors n (t.advance time) := by
  rw [advance_idle hready, advance_idle (h.ready_eq_nil hready)]
  refine ⟨rfl, h.registrar, h.scopes, ⟨[], ?_, .none⟩, h.journal, fun a ha => dueLine_seated ha⟩
  show shareOfLine n s.owners (dueLine time s.scopes) = dueLine time t.scopes ++ []
  rw [List.append_nil, h.scopes]
  exact shareOfLine_dueLine n time s.scopes

theorem le_foldl_min {l : List Nat} {x target : Nat} (htarget : x ≤ target) (h : ∀ y ∈ l, x ≤ y) :
    x ≤ l.foldl min target := by
  induction l generalizing target with
  | nil => exact htarget
  | cons y l ih =>
    have hy := h y (List.mem_cons_self ..)
    exact ih (by omega) fun z hz => h z (List.mem_cons_of_mem _ hz)

/-- Where fewer must act, the next instant is not earlier: what must be done in the mirror must
    be done in the whole. -/
theorem Mirrors.nextInstant_le (h : s.Mirrors n t) (target : Nat) :
    s.nextInstant target ≤ t.nextInstant target := by
  have hdues : ∀ due ∈ t.dues, due ∈ s.dues := by
    intro due hdue
    obtain ⟨c, hc, hdue⟩ := List.mem_flatMap.1 hdue
    rw [h.scopes] at hc
    exact List.mem_flatMap.2 ⟨c, (List.mem_filter.1 hc).1, hdue⟩
  obtain ⟨htarget, hmin⟩ := foldl_min_le s.dues target
  have hle : s.dues.foldl min target ≤ t.dues.foldl min target :=
    le_foldl_min htarget fun due hdue => hmin due (hdues due hdue)
  have hnow := h.now
  unfold nextInstant
  omega

/-- The bound on the moves of the clock does not matter, if it is large enough: each move takes
    it at least one millisecond on.  Induction on the first bound. -/
theorem passUntil_fuel {target : Nat} (fuel fuel' : Nat) (hnow : s.now < target)
    (hfuel : target ≤ s.now + fuel) (hfuel' : target ≤ s.now + fuel') :
    passUntil target fuel s = passUntil target fuel' s := by
  induction fuel generalizing s fuel' with
  | zero => omega
  | succ fuel ih =>
    obtain ⟨fuel', rfl⟩ := Nat.exists_eq_add_of_le' (show 1 ≤ fuel' by omega)
    have hsettle := settle_now s
    have hlater : s.now < s.settle.nextInstant target := by
      unfold nextInstant
      omega
    unfold passUntil
    by_cases hnext : s.settle.nextInstant target < target
    · have hadvance := advance_now s.settle (s.settle.nextInstant target)
      rw [if_pos hnext, if_pos hnext]
      exact ih fuel' (by omega) (by omega) (by omega)
    · rw [if_neg hnext, if_neg hnext]

/-- Where nobody must act by a time, the clock moves there and nothing else happens. -/
theorem advance_early (hready : s.ready = []) {time : Nat} (h : ∀ due ∈ s.dues, time < due) :
    s.advance time = { s with now := time } := by
  have hnone : dueLine time s.scopes = [] := by
    refine List.flatMap_eq_nil_iff.2 fun ⟨c, k⟩ hc => ?_
    have hmem : c ∈ s.scopes := List.fst_mem_of_mem_zipIdx hc
    have hwatcher : c.watcherDue?.any (· ≤ time) = false := by
      refine Bool.eq_false_iff.2 fun hdue => ?_
      obtain ⟨due, heq, hle⟩ := (Option.any_eq_true _ _).1 hdue
      have := h due (List.mem_flatMap.2 ⟨c, hmem, List.mem_append_left _ (by rw [heq]; simp)⟩)
      have := of_decide_eq_true hle
      omega
    have htask : c.taskDue?.any (· ≤ time) = false := by
      refine Bool.eq_false_iff.2 fun hdue => ?_
      obtain ⟨due, heq, hle⟩ := (Option.any_eq_true _ _).1 hdue
      have := h due (List.mem_flatMap.2 ⟨c, hmem, List.mem_append_right _ (by rw [heq]; simp)⟩)
      have := of_decide_eq_true hle
      omega
    show (c.dueWorkers time).map (Actor.mk k) = []
    unfold Scope.dueWorkers
    rw [hwatcher, htask]
    rfl
  rw [advance_idle hready, hnone, ← hready]

theorem passUntil_succ (target fuel : Nat) (s : Keeper) : passUntil target (fuel + 1) s =
    if s.settle.nextInstant target < target then
      passUntil target fuel (s.settle.advance (s.settle.nextInstant target))
    else s.settle.advance target := rfl

/-- **Time may pass in one move or in two**, if nobody must act in between.  Stopping the clock
    early puts nobody in line, so going on from there is the move that would have been made. -/
theorem passUntil_interrupted {target time : Nat} (fuel : Nat) (hnow : s.now < time)
    (htime : time < target) (hnext : time ≤ s.settle.nextInstant target)
    (hfuel : target ≤ s.now + fuel) :
    passUntil target fuel s = passUntil target (target - time) (s.settle.advance time) := by
  obtain ⟨fuel, rfl⟩ := Nat.exists_eq_add_of_le' (show 1 ≤ fuel by omega)
  have hsettle := settle_now s
  have hready := settle_ready s
  have hadvance := advance_now s.settle
  rw [passUntil_succ]
  rcases Nat.lt_or_eq_of_le hnext with hlt | heq
  · -- nobody must act at that time or before it, so the clock might as well go on
    have hmin : s.settle.nextInstant target = s.settle.dues.foldl min target ∧
        time < s.settle.dues.foldl min target := by
      unfold nextInstant at hlt ⊢
      omega
    have hstop : s.settle.advance time = { s.settle with now := time } :=
      advance_early hready fun due hdue =>
        Nat.lt_of_lt_of_le hmin.2 ((foldl_min_le _ target).2 due hdue)
    have hsettled : (s.settle.advance time).settle = s.settle.advance time := by
      rw [hstop]
      exact steps_of_nil (s := { s.settle with now := time }) hready _
    have hsame : (s.settle.advance time).nextInstant target = s.settle.nextInstant target := by
      rw [hmin.1, hstop]
      show max (time + 1) (s.settle.dues.foldl min target) = _
      omega
    have hagain : ∀ later, (s.settle.advance time).advance later = s.settle.advance later := by
      intro later
      rw [hstop, advance_idle hready, advance_idle (s := { s.settle with now := time }) hready]
    -- the second part makes the same next move
    obtain ⟨rest, hrest⟩ := Nat.exists_eq_add_of_le' (show 1 ≤ target - time by omega)
    rw [hrest, passUntil_succ, hsettled, hsame, hagain, hagain]
    by_cases hgo : s.settle.nextInstant target < target
    · rw [if_pos hgo, if_pos hgo]
      have := hadvance (s.settle.nextInstant target)
      exact passUntil_fuel _ _ (by omega) (by omega) (by omega)
    · rw [if_neg hgo, if_neg hgo]
  · -- somebody must act at just that time, and the clock stops there anyway
    rw [if_pos (by omega), ← heq]
    have := hadvance time
    exact passUntil_fuel _ _ (by omega) (by omega) (by omega)

/-- **Time passes**: induction on the moves of the clock in the whole; the mirror is stopped at
    each of its instants.  That is allowed because the whole's next instant is not later than the
    mirror's own. -/
theorem Mirrors.passUntil {target : Nat} (h : s.Mirrors n t) (hs : s.NoSignalWaits)
    (ht : t.NoSignalWaits) (fuel fuel' : Nat) (hnow : s.now < target) (hfuel : target ≤ s.now + fuel)
    (hfuel' : target ≤ s.now + fuel') :
    (Keeper.passUntil target fuel s).Mirrors n (Keeper.passUntil target fuel' t) := by
  induction fuel generalizing s t fuel' with
  | zero => omega
  | succ fuel ih =>
    have hsettled := h.settle hs ht
    have hready := settle_ready s
    have hsettle := settle_now s
    have hsettle' := settle_now t
    have hsame := h.now
    have hle := hsettled.nextInstant_le target
    have hlater : s.now < s.settle.nextInstant target := by
      unfold nextInstant
      omega
    rw [passUntil_succ]
    by_cases hnext : s.settle.nextInstant target < target
    -- both clocks move to the next instant of the whole, or both to the target
    · have hadvance := advance_now s.settle (s.settle.nextInstant target)
      rw [if_pos hnext, passUntil_interrupted fuel' (by omega) hnext hle (by omega)]
      exact ih (hsettled.advance hready _) (hs.settle.advance (by omega))
        (ht.settle.advance (by omega)) _ (by omega) (by omega) (by omega)
    · obtain ⟨fuel', rfl⟩ := Nat.exists_eq_add_of_le' (show 1 ≤ fuel' by omega)
      rw [if_neg hnext, passUntil_succ, if_neg (by omega)]
      exact hsettled.advance hready target

theorem Mirrors.sleep (h : s.Mirrors n t) (hs : s.NoSignalWaits) (ht : t.NoSignalWaits)
    (d : Duration) :
    (s.sleep d).Mirrors n (t.sleep d) := by
  unfold Keeper.sleep
  rw [h.now]
  rcases Nat.eq_zero_or_pos d.millis with hzero | hpos
  · rw [hzero]
    exact h
  · exact h.passUntil hs ht _ _ (by omega) (by omega) (by omega)

end

end Keeper

end LeaseKeeper

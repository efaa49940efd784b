/-
  Using a registrar, seen in a mirror.

  Enabling, disabling and dropping a registrar and changing its registry are done to one
  registrar.  If it is another one than the one that is mirrored, the mirror stays
  (`Mirrors.enable_other` and the like): at most a watcher with nothing to do is woken.  If it is
  the same, it is done in the mirror too (`Mirrors.enable_own` and the like), and a watcher with
  nothing to do either finds its scope cancelled now, and is woken in the mirror as well, or is
  not there: a registrar that can be enabled has no live scope.

    1. CANCELLING a scope changes the line in one way (`Scope.alarmed`), and counting the scopes
       of one registrar commutes with that, or does not notice it.
    2. OF OTHERS every operation is made of three things that the mirror does not show: replacing
       their registrar, writing about them, and cancelling or starting their scopes.
    3. OF ITS OWN every operation is made of the same things, now done on both sides, with the
       number of the scope translated by `place`.

  The crux is the line.  When a scope starts, the keeper wakes the newest watcher of all, whosever
  it is; the mirror knows only its own scopes, so it wakes another one or nobody.  That is why a
  mirror may lack one watcher that has nothing to do (`Idlers`), and `Mirrors.wakeWatcher_other`
  shows that waking it is no more than that.
-/
import LeaseKeeper.Proofs.Lifecycle.Reflection

namespace LeaseKeeper

/-! ## Who is woken by a cancellation -/

/-- The line after scope number `k` was cancelled: its watcher joins, and its task if that waits
    for its time.  A task in a call goes on with the call. -/
def Scope.alarmed (c : Scope) (k : Nat) (line : List Actor) : List Actor :=
  if c.taskIsWaiting then joined (joined line ⟨k, .watcher⟩) ⟨k, .task⟩
  else joined line ⟨k, .watcher⟩

section

variable {n k : Nat} {c : Scope} {owners : List Nat} {line : List Actor} {a : Actor}

/-- Whoever joins works for the scope that was cancelled. -/
theorem Scope.alarmed_scope (h : a ∈ c.alarmed k line) : a.scope = k ∨ a ∈ line := by
  unfold Scope.alarmed at h
  split at h
  · rcases eq_or_mem_of_mem_joined h with rfl | h
    · exact .inl rfl
    · exact (eq_or_mem_of_mem_joined h).imp_left fun h => by rw [h]
  · exact (eq_or_mem_of_mem_joined h).imp_left fun h => by rw [h]

/-- **In the share of its owner** a scope is cancelled under the number that it has there. -/
theorem shareOfLine_alarmed_own (hown : owners[k]? = some n) (c : Scope) (line : List Actor) :
    shareOfLine n owners (c.alarmed k line) =
      c.alarmed (place n owners k) (shareOfLine n owners line) := by
  unfold Scope.alarmed
  split
  · rw [shareOfLine_joined_own hown, shareOfLine_joined_own hown]
  · rw [shareOfLine_joined_own hown]

/-- In the share of others nobody joins. -/
theorem shareOfLine_alarmed_other (hother : owners[k]? ≠ some n) (c : Scope) (line : List Actor) :
    shareOfLine n owners (c.alarmed k line) = shareOfLine n owners line := by
  unfold Scope.alarmed
  split
  · rw [shareOfLine_joined_other hother, shareOfLine_joined_other hother]
  · rw [shareOfLine_joined_other hother]

/-- Whether the watcher stood at the end of the line or was not there makes no difference. -/
theorem Scope.alarmed_concat (h : ⟨k, .watcher⟩ ∉ line) (c : Scope) :
    c.alarmed k (line ++ [⟨k, .watcher⟩]) = c.alarmed k line := by
  unfold Scope.alarmed
  rw [joined_concat h]

end

namespace Keeper

section

variable {n k : Nat} {s t : Keeper} {c : Scope} {r r' : Registrar}

/-- Cancelling a scope once more does nothing. -/
theorem cancel_done (hc : s.scopes[k]? = some c) (hx : c.isCancelled = true)
    (cause : CancelCause) : s.cancel k cause = s := by
  unfold cancel
  rw [hc]
  exact if_pos hx

/-- **A live scope is cancelled**: the whole effect on a keeper in one equation, so that the
    mirror needs no look into the steps of which it is made. -/
theorem cancel_live (hc : s.scopes[k]? = some c) (hx : c.isCancelled = false)
    (hw : c.watcher = .watching) (cause : CancelCause) :
    s.cancel k cause = { s with
      scopes := s.scopes.set k { c with isCancelled := true }
      journal := s.journal ++ [.cancelled s.now c.owner k cause]
      ready := c.alarmed k s.ready } := by
  have hself : (s.scopes.set k { c with isCancelled := true })[k]? =
      some { c with isCancelled := true } :=
    List.getElem?_set_self (List.getElem?_eq_some_iff.1 hc).1
  have hwatched : ({ c with isCancelled := true } : Scope).isWatched = true := by
    show (c.watcher == .watching) = true
    rw [hw]
    rfl
  have hwaiting : ({ c with isCancelled := true } : Scope).taskIsWaiting = c.taskIsWaiting := rfl
  unfold cancel
  rw [hc]
  simp only [hx, Bool.false_eq_true, if_false, wakeWatcher, wakeTask, wakeIf_joined, setScope, tell,
    hself, Option.any_some, hwatched, hwaiting, if_true]
  rfl

/-! ## The share of others -/

/-- Cancelling a scope of another registrar.  The entry is about somebody else, and those who
    join the line are not of this share; only that everybody in line has a scope is to be kept. -/
theorem Mirrors.cancel_other (h : s.Mirrors n t) (hc : s.scopes[k]? = some c)
    (hother : c.owner ≠ n) (hw : c.isCancelled = false → c.watcher = .watching)
    (cause : CancelCause) : (s.cancel k cause).Mirrors n t := by
  cases hx : c.isCancelled with
  | true =>
    rw [cancel_done hc hx]
    exact h
  | false =>
    have hkey : s.owners[k]? ≠ some n := by
      rw [owners_getElem? hc]
      exact fun heq => hother (Option.some.inj heq)
    rw [cancel_live hc hx (hw hx)]
    refine h.others rfl rfl (owners_set hc rfl) (shareOfScopes_set_other hc hother rfl)
      (shareOfLine_alarmed_other hkey c s.ready) ?_ rfl ⟨rfl, rfl⟩
    intro a ha
    rcases Scope.alarmed_scope ha with hk | ha
    · rw [hk]
      exact (List.getElem?_eq_some_iff.1 hc).1
    · exact h.seated a ha

/-- Replacing another registrar. -/
theorem Mirrors.setRegistrar_other (h : s.Mirrors n t) {m : Nat} (hm : m ≠ n) (r : Registrar) :
    (s.setRegistrar m r).Mirrors n t :=
  h.others rfl (List.getElem?_set_ne hm) rfl rfl rfl h.seated (List.append_nil _).symm (.refl n [])

/-- Saying what is not about the registrar. -/
theorem Mirrors.tell_other (h : s.Mirrors n t) {es : Journal} (hes : Journal.Agree n es []) :
    (s.tell es).Mirrors n t := h.others rfl rfl rfl rfl rfl h.seated rfl hes

/-- What a keeper becomes when a scope begins. -/
theorem beginScope_line (s : Keeper) (n : Nat) (r : Registrar) (i : Identity) :
    s.beginScope n r i = { s with
      registrars := s.registrars.set n (r.begin s.scopes.length i)
      scopes := s.scopes ++ [s.newScope n r i]
      subscriptions := s.subscriptions.subscribe
      ready := (s.wakeWatcher (s.scopes.length - 1)).ready ++
        [⟨s.scopes.length, .watcher⟩, ⟨s.scopes.length, .task⟩]
      journal := s.journal ++ [.began s.now n s.scopes.length i,
        .logged (.enabled i r.pacing.retryInterval)] } := by
  obtain ⟨line, hline⟩ := wakeWatcher_eq s (s.scopes.length - 1)
  simp only [beginScope, hline]
  simp [setRegistrar, tell, newScope]

/-- All scopes of a registrar that is not enabled are cancelled: a live one would be the one that
    it remembers. -/
theorem Orderly.all_cancelled (hs : s.Orderly) (hr : s.registrars[n]? = some r)
    (hcur : r.current = none) (hc : s.scopes[k]? = some c) (hown : c.owner = n) :
    c.isCancelled = true := by
  subst hown
  refine Bool.eq_false_iff.not_left.1 fun hx => ?_
  have hcurrent : r.current = some k := (hs.live_newest hc (memory?_of hr) hx).1
  rw [hcur] at hcurrent
  cases hcurrent

/-- At most one scope of a registrar is live: it would be the one that the registrar remembers,
    and it remembers one. -/
theorem Orderly.live_unique (hs : s.Orderly) {i j : Nat} {a b : Scope}
    (ha : s.scopes[i]? = some a) (hb : s.scopes[j]? = some b) (hown : a.owner = b.owner)
    (hxa : a.isCancelled = false) (hxb : b.isCancelled = false) : i = j := by
  obtain ⟨m, hm, -⟩ := hs.owned ha
  have hi := (hs.live_newest ha hm hxa).1
  have hj := (hs.live_newest hb (hown ▸ hm) hxb).1
  exact Option.some.inj (hi.symm.trans hj)

/-- **When another registrar starts a scope**, the newest watcher is woken: it belongs to others,
    or it is in line anyway, or it has nothing to do.  In the last case it is the one watcher
    that the mirror may lack, since a live scope of its owner is the only one. -/
theorem Mirrors.wakeWatcher_other (h : s.Mirrors n t) (hs : s.Reachable) (ht : t.Reachable) :
    (s.wakeWatcher k).Mirrors n t := by
  cases hc : s.scopes[k]? with
  | none =>
    -- there is no such scope, and nobody to wake
    rw [hs.wakeWatcher_cancelled fun c hc' => by rw [hc] at hc'; cases hc']
    exact h
  | some c =>
    have hk := (List.getElem?_eq_some_iff.1 hc).1
    have hkey := owners_getElem? hc
    cases hx : c.isCancelled with
    | true =>
      -- the watchers of cancelled scopes are in line already
      rw [hs.wakeWatcher_cancelled fun c' hc' => by
        obtain rfl := Option.some.inj (hc.symm.trans hc'); exact hx]
      exact h
    | false =>
      -- the scope is live, so its watcher watches, and joins the line if it is not there
      have hwoken : s.wakeWatcher k = { s with ready := joined s.ready ⟨k, .watcher⟩ } := by
        have hw : c.isWatched = true := by
          rw [Scope.isWatched, hs.orderly.watched hc hx]
          rfl
        rw [wakeWatcher, wakeIf_joined, hc, Option.any_some, hw]
        rfl
      have hseated : ∀ a ∈ joined s.ready ⟨k, .watcher⟩, a.scope < s.scopes.length := by
        intro a ha
        rcases eq_or_mem_of_mem_joined ha with rfl | ha
        · exact hk
        · exact h.seated a ha
      rw [hwoken]
      by_cases hown : c.owner = n
      · -- the watcher is one of this registrar's
        have hmine : s.owners[k]? = some n := hkey.trans (congrArg some hown)
        have hc' := h.scope hc hown
        obtain ⟨idlers, hline, hidle⟩ := h.line
        refine ⟨h.now, h.registrar, h.scopes, ?_, h.journal, hseated⟩
        show ∃ idlers, shareOfLine n s.owners (joined s.ready ⟨k, .watcher⟩) = t.ready ++ idlers ∧ _
        rw [shareOfLine_joined_own hmine, hline]
        cases hidle with
        | none =>
          rw [List.append_nil]
          unfold joined
          split
          · -- it is in line
            exact ⟨[], (List.append_nil _).symm, .none⟩
          · -- it joins the line with nothing to do, and nobody joins in the mirror
            rename_i hnot
            exact ⟨_, rfl, .one hc' hx hnot⟩
        | @one j d hd hxd hnot =>
          -- whoever stands there already is the watcher of the one live scope
          have hsame : j = place n s.owners k := ht.orderly.live_unique hd hc'
            ((h.owner hd).trans hown.symm) hxd hx
          subst hsame
          refine ⟨_, ?_, .one hd hxd hnot⟩
          exact if_pos (List.mem_append_right _ (List.mem_singleton.2 rfl))
      · -- the watcher is somebody else's
        refine h.others rfl rfl rfl rfl (shareOfLine_joined_other ?_ _ _) hseated
          (List.append_nil _).symm (.refl n [])
        rw [hkey]
        exact fun heq => hown (Option.some.inj heq)

/-- **Another registrar starts a scope.**  The scope is put at the end, so the numbers of the
    scopes that were there before stay the same in the share, and so does everything that refers
    to them by number. -/
theorem Mirrors.began_other (h : s.Mirrors n t) (hs : s.Reachable) (ht : t.Reachable) {m : Nat}
    (hm : m ≠ n) (i : Identity) : (s.beginScope m r i).Mirrors n t := by
  have hwoken := h.wakeWatcher_other (k := s.scopes.length - 1) hs ht
  obtain ⟨line, hline⟩ := wakeWatcher_eq s (s.scopes.length - 1)
  rw [beginScope_line]
  rw [hline] at hwoken ⊢
  have howners : (s.scopes ++ [s.newScope m r i]).map Scope.owner = s.owners ++ [m] := by
    rw [List.map_append]
    rfl
  constructor
  · -- the time
    exact h.now
  · -- the registrar, which may remember a scope
    show t.registrars[n]? = ((s.registrars.set m _)[n]?).map
      (Registrar.renumbered (place n ((s.scopes ++ [s.newScope m r i]).map Scope.owner)))
    rw [List.getElem?_set_ne hm, howners, h.registrar]
    cases hr : s.registrars[n]? with
    | none => rfl
    | some r₀ =>
      -- the scope that the registrar remembers has begun before
      have hcurrent : r₀.current.map (place n s.owners) =
          r₀.current.map (place n (s.owners ++ [m])) := by
        cases hcur : r₀.current with
        | none => rfl
        | some j =>
          obtain ⟨c, hc, -⟩ := hs.orderly.current_newest (memory?_of hr) hcur
          have hj : j < s.owners.length := by
            rw [owners_length]
            exact (List.getElem?_eq_some_iff.1 hc).1
          rw [Option.map_some, Option.map_some, place_append (Nat.le_of_lt hj)]
      exact congrArg some (congrArg (fun cur => { r₀ with current := cur }) hcurrent)
  · -- the scopes
    exact h.scopes.trans (shareOfScopes_concat_other hm).symm
  · -- the line, at the end of which the new workers stand
    show ∃ idlers, shareOfLine n ((s.scopes ++ [s.newScope m r i]).map Scope.owner) (s.ready ++ line ++
      [⟨s.scopes.length, .watcher⟩, ⟨s.scopes.length, .task⟩]) = t.ready ++ idlers ∧ _
    have hlast : (s.owners ++ [m])[s.scopes.length]? ≠ some n := by
      rw [← owners_length, List.getElem?_concat_length]
      exact fun heq => hm (Option.some.inj heq)
    obtain ⟨idlers, hmine, hidle⟩ := hwoken.line
    refine ⟨idlers, ?_, hidle⟩
    rw [howners, shareOfLine_append,
      shareOfLine_owners (fun a ha => by rw [owners_length]; exact hwoken.seated a ha),
      shareOfLine_both_other hlast, List.append_nil]
    exact hmine
  · -- the journal
    exact h.journal.append_left ⟨rfl, rfl⟩
  · -- everybody in line has a scope
    intro a ha
    show a.scope < (s.scopes ++ [s.newScope m r i]).length
    rw [List.length_append, List.length_singleton]
    rcases List.mem_append.1 ha with ha | ha
    · exact Nat.lt_succ_of_lt (hwoken.seated a ha)
    · simp only [List.mem_cons, List.not_mem_nil, or_false] at ha
      rcases ha with rfl | rfl <;> exact Nat.lt_succ_self _

/-- **An operation on another registrar** leaves the mirror alone: enabling it changes nothing,
    or fails, or starts a scope, and each of them is about somebody else. -/
theorem Mirrors.enable_other (h : s.Mirrors n t) (hs : s.Reachable) (ht : t.Reachable) {m : Nat}
    (hm : m ≠ n) : (s.enable m).Mirrors n t := by
  have hmoved := s.moved (.enable m)
  show (s.move (.enable m)).Mirrors n t
  generalize s.move (.enable m) = s' at hmoved ⊢
  cases hmoved with
  | idle => exact h
  | failed _ _ _ e =>
    refine (h.setRegistrar_other hm _).tell_other ?_
    constructor <;> simp [Journal.exits, Journal.calls, hm]
  | began _ _ _ i => exact h.began_other hs ht hm i
  | ended _ _ _ hwhat => rcases hwhat with ⟨hwhat, -⟩ | ⟨hwhat, -⟩ <;> cases hwhat
  | turned hwhat => rcases hwhat with hwhat | hwhat <;> cases hwhat

/-- Another registrar is disabled or dropped while it has a scope, which is the newest of that
    registrar and so not one of this share. -/
theorem Mirrors.ended_other (h : s.Mirrors n t) (hs : s.Orderly) {m : Nat} (hm : m ≠ n)
    (hr : s.registrars[m]? = some r) (hcur : r.current = some k) (cause : CancelCause) :
    ((s.setRegistrar m (r.ending cause)).cancel k cause).Mirrors n t := by
  obtain ⟨c, hc, hown, -⟩ := hs.current_newest (memory?_of hr) hcur
  refine (h.setRegistrar_other hm (r.ending cause)).cancel_other (c := c) hc ?_ (hs.watched hc) cause
  rw [hown]
  exact hm

/-- Another registrar is disabled: it has a scope that ends, or nothing happens. -/
theorem Mirrors.disable_other (h : s.Mirrors n t) (hs : s.Orderly) {m : Nat} (hm : m ≠ n) :
    (s.disable m).Mirrors n t := by
  unfold Keeper.disable
  split
  · exact h
  · rename_i r hr
    split
    · rename_i k _ hcur
      exact (h.ended_other hs hm hr hcur .disabled).tell_other ⟨rfl, rfl⟩
    · exact h

/-- Another registrar is dropped, with a scope or without one. -/
theorem Mirrors.drop_other (h : s.Mirrors n t) (hs : s.Orderly) {m : Nat} (hm : m ≠ n) :
    (s.dropRegistrar m).Mirrors n t := by
  unfold dropRegistrar
  split
  · exact h
  · rename_i r hr
    split
    · exact h
    · split
      · exact h.setRegistrar_other hm (r.ending .dropped)
      · rename_i k hcur
        exact h.ended_other hs hm hr hcur .dropped

/-- The registry of another registrar is replaced. -/
theorem Mirrors.modify_other (h : s.Mirrors n t) {m : Nat} (hm : m ≠ n)
    (f : ScriptedRegistry → ScriptedRegistry) : (s.modifyRegistry m f).Mirrors n t := by
  unfold modifyRegistry
  split
  · exact h
  · rename_i r hr
    exact h.setRegistrar_other hm (r.withRegistry (f r.registry))

/-! ## The share itself -/

/-- **Replacing the registrar in both**, in the mirror with its numbers translated. -/
theorem Mirrors.setRegistrar_own (h : s.Mirrors n t) (hr : s.registrars[n]? = some r)
    (r' : Registrar) :
    (s.setRegistrar n r').Mirrors n (t.setRegistrar n (r'.renumbered (place n s.owners))) := by
  have hr' := h.registrar_of hr
  refine ⟨h.now, ?_, h.scopes, h.line.imp fun idlers => ?_, h.journal, h.seated⟩
  · show (t.registrars.set n _)[n]? = (s.registrars.set n r')[n]?.map _
    rw [List.getElem?_set_self (List.getElem?_eq_some_iff.1 hr).1,
      List.getElem?_set_self (List.getElem?_eq_some_iff.1 hr').1]
    rfl
  · exact And.imp_right fun hidle => hidle.congr rfl rfl

/-- Saying the same of both. -/
theorem Mirrors.tell_own (h : s.Mirrors n t) (es : Journal) :
    (s.tell es).Mirrors n (t.tell es) := by
  refine ⟨h.now, h.registrar, h.scopes, h.line.imp fun idlers => ?_, h.journal.append (.refl n es),
    h.seated⟩
  exact And.imp_right fun hidle => hidle.congr rfl rfl

/-- **Cancelling a scope in both.**  If a watcher has nothing to do, it is the watcher of this
    scope, and is woken in the mirror too; so after it no watcher is left that the mirror lacks. -/
theorem Mirrors.cancel_own (h : s.Mirrors n t) (hc : s.scopes[k]? = some c) (hown : c.owner = n)
    (hw : c.isCancelled = false → c.watcher = .watching)
    (hlive : ∀ j d, t.scopes[j]? = some d → d.isCancelled = false → j = place n s.owners k)
    (cause : CancelCause) :
    (s.cancel k cause).Mirrors n (t.cancel (place n s.owners k) cause) := by
  have hc' := h.scope hc hown
  cases hx : c.isCancelled with
  -- it was cancelled before, in the mirror too
  | true =>
    rw [cancel_done hc hx, cancel_done hc' hx]
    exact h
  | false =>
    have hmine : s.owners[k]? = some n := (owners_getElem? hc).trans (congrArg some hown)
    have howners : (s.scopes.set k { c with isCancelled := true }).map Scope.owner = s.owners :=
      owners_set hc rfl
    rw [cancel_live hc hx (hw hx), cancel_live hc' hx (hw hx)]
    constructor
    · -- the time
      exact h.now
    · -- the registrar
      show t.registrars[n]? = s.registrars[n]?.map (Registrar.renumbered
        (place n ((s.scopes.set k { c with isCancelled := true }).map Scope.owner)))
      rw [howners]
      exact h.registrar
    · -- the scopes
      show t.scopes.set _ _ = shareOfScopes n (s.scopes.set k _)
      have hset : shareOfScopes n (s.scopes.set k { c with isCancelled := true }) =
          (shareOfScopes n s.scopes).set (place n (s.scopes.map Scope.owner) k)
            { c with isCancelled := true } := shareOfScopes_set_own hc hown rfl
      rw [hset, h.scopes]
      rfl
    · -- the line: whoever joins here joins there
      refine ⟨[], ?_, .none⟩
      show shareOfLine n ((s.scopes.set k { c with isCancelled := true }).map Scope.owner)
        (c.alarmed k s.ready) = c.alarmed (place n s.owners k) t.ready ++ []
      rw [howners, shareOfLine_alarmed_own hmine, List.append_nil]
      obtain ⟨idlers, hline, hidle⟩ := h.line
      rw [hline]
      cases hidle with
      | none => rw [List.append_nil]
      | @one j d hd hxd hnot =>
        obtain rfl := hlive j d hd hxd
        exact Scope.alarmed_concat hnot c
    · -- the journal
      show Journal.Agree n (s.journal ++ [.cancelled s.now c.owner k cause])
        (t.journal ++ [.cancelled t.now c.owner (place n s.owners k) cause])
      exact h.journal.append ⟨rfl, rfl⟩
    · -- everybody in line has a scope
      intro a ha
      show a.scope < (s.scopes.set k _).length
      rw [List.length_set]
      rcases Scope.alarmed_scope ha with hk | ha
      · rw [hk]
        exact (List.getElem?_eq_some_iff.1 hc).1
      · exact h.seated a ha

/-- **The registrar starts a scope in both.**  All its scopes are cancelled, so no watcher has
    nothing to do, and nobody is woken who is not in line.  The new scope is the last on both
    sides, so the number that it has here is translated to the number that it has there. -/
theorem Mirrors.began_own (h : s.Mirrors n t) (hs : s.Reachable) (ht : t.Reachable)
    (hr : s.registrars[n]? = some r) (hcur : r.current = none) (r' : Registrar) (i : Identity) :
    (s.beginScope n r' i).Mirrors n
      (t.beginScope n (r'.renumbered (place n s.owners)) i) := by
  have hr' := h.registrar_of hr
  have hcur' : (r.renumbered (place n s.owners)).current = none := by
    show r.current.map _ = none
    rw [hcur]
    rfl
  have hcancelled' : ∀ {j : Nat} {d : Scope}, t.scopes[j]? = some d → d.isCancelled = true :=
    fun hd => ht.orderly.all_cancelled hr' hcur' hd (h.owner hd)
  have hquiet' : t.wakeWatcher (t.scopes.length - 1) = t :=
    ht.wakeWatcher_cancelled fun _ hd => hcancelled' hd
  have hwoken := h.wakeWatcher_other (k := s.scopes.length - 1) hs ht
  obtain ⟨line, hline⟩ := wakeWatcher_eq s (s.scopes.length - 1)
  rw [beginScope_line, beginScope_line, hquiet']
  rw [hline] at hwoken ⊢
  have howners : (s.scopes ++ [s.newScope n r' i]).map Scope.owner = s.owners ++ [n] := by
    rw [List.map_append]
    rfl
  have hlength : place n (s.owners ++ [n]) s.scopes.length = t.scopes.length := by
    rw [place_append (Nat.le_of_eq (owners_length s).symm), ← owners_length, place_length, h.scopes,
      shareOfScopes_length]
    rfl
  constructor
  · -- the time
    exact h.now
  · -- the registrar, which remembers the new scope
    show (t.registrars.set n _)[n]? = ((s.registrars.set n _)[n]?).map
      (Registrar.renumbered (place n ((s.scopes ++ [s.newScope n r' i]).map Scope.owner)))
    rw [List.getElem?_set_self (List.getElem?_eq_some_iff.1 hr).1,
      List.getElem?_set_self (List.getElem?_eq_some_iff.1 hr').1, howners, ← hlength]
    rfl
  · -- the scopes, of which the new ones are alike
    show t.scopes ++ [t.newScope n _ i] = shareOfScopes n (s.scopes ++ [s.newScope n r' i])
    have hnew : t.newScope n (r'.renumbered (place n s.owners)) i = s.newScope n r' i := by
      unfold newScope
      rw [h.now]
      rfl
    rw [shareOfScopes_concat_own (show (s.newScope n r' i).owner = n from rfl), hnew, h.scopes]
  · -- the line: the new workers stand at its end, and no watcher is lacking in the mirror
    obtain ⟨idlers, hmine, hidle⟩ := hwoken.line
    have hlast : (s.owners ++ [n])[s.scopes.length]? = some n := by
      rw [← owners_length, List.getElem?_concat_length]
    refine ⟨[], ?_, .none⟩
    show shareOfLine n ((s.scopes ++ [s.newScope n r' i]).map Scope.owner) (s.ready ++ line ++
      [⟨s.scopes.length, .watcher⟩, ⟨s.scopes.length, .task⟩]) =
        (t.ready ++ [⟨t.scopes.length, .watcher⟩, ⟨t.scopes.length, .task⟩]) ++ []
    rw [howners, shareOfLine_append,
      shareOfLine_owners (fun a ha => by rw [owners_length]; exact hwoken.seated a ha),
      shareOfLine_both_own hlast, hlength, List.append_nil]
    refine congrArg (· ++ _) (hmine.trans ?_)
    cases hidle with
    | none => rw [List.append_nil]
    | one hd hx =>
      rw [hcancelled' hd] at hx
      cases hx
  · -- the journal
    exact h.journal.append ⟨rfl, rfl⟩
  · -- everybody in line has a scope
    intro a ha
    show a.scope < (s.scopes ++ [s.newScope n r' i]).length
    rw [List.length_append, List.length_singleton]
    rcases List.mem_append.1 ha with ha | ha
    · exact Nat.lt_succ_of_lt (hwoken.seated a ha)
    · simp only [List.mem_cons, List.not_mem_nil, or_false] at ha
      rcases ha with rfl | rfl <;> exact Nat.lt_succ_self _

theorem Mirrors.registrar_none (h : s.Mirrors n t) (hr : s.registrars[n]? = none) :
    t.registrars[n]? = none := by
  rw [h.registrar, hr]
  rfl

/-- **Enabling the registrar in both**: whether it may be enabled, and what is refused, does not
    depend on the numbers of scopes, so both sides take the same way. -/
theorem Mirrors.enable_own (h : s.Mirrors n t) (hs : s.Reachable) (ht : t.Reachable) :
    (s.enable n).Mirrors n (t.enable n) := by
  unfold Keeper.enable
  cases hr : s.registrars[n]? with
  | none =>
    rw [h.registrar_none hr]
    exact h
  | some r =>
    rw [h.registrar_of hr]
    have hfree : ((r.renumbered (place n s.owners)).isDropped ||
        (r.renumbered (place n s.owners)).isEnabled) = (r.isDropped || r.isEnabled) :=
      congrArg (r.isDropped || ·) Option.isSome_map
    have hclient : (r.renumbered (place n s.owners)).clientFault? = r.clientFault? := rfl
    have hidentity : (r.renumbered (place n s.owners)).identity = r.identity := rfl
    have hsignal : (r.renumbered (place n s.owners)).signalFault? = r.signalFault? := rfl
    simp only [hfree, hclient, hidentity, hsignal]
    split
    · -- it is dropped or enabled
      exact h
    · rename_i hnot
      simp only [Bool.or_eq_true, not_or, Bool.not_eq_true, Registrar.isEnabled,
        Option.isSome_eq_false_iff, Option.isNone_iff_eq_none] at hnot
      split
      · -- no client
        exact (h.setRegistrar_own hr r.acquiring).tell_own _
      · -- no identity
        exact (h.setRegistrar_own hr r.acquiring).tell_own _
      · -- no subscription
        exact (h.setRegistrar_own hr r.acquiring.subscribing).tell_own _
      · -- nothing is refused
        exact h.began_own hs ht hr hnot.2 r.acquiring.subscribing _

/-- The registrar is disabled or dropped while it has a scope.  It remembers that scope on both
    sides, so a live scope in the mirror can only be this one. -/
theorem Mirrors.ended_own (h : s.Mirrors n t) (hs : s.Orderly) (ht : t.Orderly)
    (hr : s.registrars[n]? = some r) (hcur : r.current = some k) (cause : CancelCause) :
    ((s.setRegistrar n (r.ending cause)).cancel k cause).Mirrors n
      ((t.setRegistrar n ((r.ending cause).renumbered (place n s.owners))).cancel
        (place n s.owners k) cause) := by
  obtain ⟨c, hc, hown, -⟩ := hs.current_newest (memory?_of hr) hcur
  refine (h.setRegistrar_own hr (r.ending cause)).cancel_own (c := c) hc hown (hs.watched hc) ?_ cause
  intro j d hd hx
  have hr' := h.registrar_of hr
  have howner : d.owner = n := h.owner hd
  subst howner
  have hj : (r.renumbered (place d.owner s.owners)).current = some j :=
    (ht.live_newest hd (memory?_of hr') hx).1
  have hk : (r.renumbered (place d.owner s.owners)).current =
      some (place d.owner s.owners k) := by
    show r.current.map _ = _
    rw [hcur]
    rfl
  exact Option.some.inj (hj.symm.trans hk)

/-- What disabling does to a registrar that has a scope: one equation for both sides. -/
theorem disable_scope (hr : s.registrars[n]? = some r) (hd : r.isDropped = false)
    (hcur : r.current = some k) : s.disable n =
      ((s.setRegistrar n (r.ending .disabled)).cancel k .disabled).tell [.logged .disabled] := by
  show _ = ((s.setRegistrar n { r with current := none }).cancel k .disabled).tell _
  simp only [Keeper.disable, hr, hd, hcur]

/-- A registrar that was dropped, or has no scope, is not changed by disabling it. -/
theorem disable_idle (hr : s.registrars[n]? = some r)
    (hidle : r.isDropped = true ∨ r.current = none) : s.disable n = s := by
  rcases hidle with hd | hcur
  · simp only [Keeper.disable, hr, hd]
  · simp only [Keeper.disable, hr, hcur]
    cases r.isDropped <;> rfl

/-- **Disabling the registrar in both.** -/
theorem Mirrors.disable_own (h : s.Mirrors n t) (hs : s.Orderly) (ht : t.Orderly) :
    (s.disable n).Mirrors n (t.disable n) := by
  cases hr : s.registrars[n]? with
  | none =>
    have hr' := h.registrar_none hr
    simp only [Keeper.disable, hr, hr']
    exact h
  | some r =>
    have hr' := h.registrar_of hr
    have hcurrent : (r.renumbered (place n s.owners)).current =
      r.current.map (place n s.owners) := rfl
    cases hd : r.isDropped with
    | true =>
      rw [disable_idle hr (.inl hd), disable_idle hr' (.inl hd)]
      exact h
    | false =>
      cases hcur : r.current with
      | none =>
        rw [disable_idle hr (.inr hcur), disable_idle hr' (.inr (by rw [hcurrent, hcur]; rfl))]
        exact h
      | some k =>
        rw [disable_scope hr hd hcur, disable_scope hr' hd (by rw [hcurrent, hcur]; rfl)]
        exact (h.ended_own hs ht hr hcur .disabled).tell_own _

/-- What dropping does to a registrar, with a scope or without one. -/
theorem drop_scope (hr : s.registrars[n]? = some r) (hd : r.isDropped = false) :
    s.dropRegistrar n = match r.current with
      | none => s.setRegistrar n (r.ending .dropped)
      | some k => (s.setRegistrar n (r.ending .dropped)).cancel k .dropped := by
  simp only [dropRegistrar, hr, hd, Bool.false_eq_true, if_false]
  rfl

/-- A registrar is dropped once. -/
theorem drop_idle (hr : s.registrars[n]? = some r) (hd : r.isDropped = true) :
    s.dropRegistrar n = s := by
  simp only [dropRegistrar, hr, hd, if_true]

/-- **Dropping the registrar in both.** -/
theorem Mirrors.drop_own (h : s.Mirrors n t) (hs : s.Orderly) (ht : t.Orderly) :
    (s.dropRegistrar n).Mirrors n (t.dropRegistrar n) := by
  cases hr : s.registrars[n]? with
  | none =>
    have hr' := h.registrar_none hr
    simp only [dropRegistrar, hr, hr']
    exact h
  | some r =>
    have hr' := h.registrar_of hr
    have hcurrent : (r.renumbered (place n s.owners)).current =
      r.current.map (place n s.owners) := rfl
    cases hd : r.isDropped with
    | true =>
      rw [drop_idle hr hd, drop_idle hr' hd]
      exact h
    | false =>
      rw [drop_scope hr hd, drop_scope hr' hd, hcurrent]
      cases hcur : r.current with
      | none => exact h.setRegistrar_own hr (r.ending .dropped)
      | some k => exact h.ended_own hs ht hr hcur .dropped

/-- **Replacing the registry in both.** -/
theorem Mirrors.modify_own (h : s.Mirrors n t) (f : ScriptedRegistry → ScriptedRegistry) :
    (s.modifyRegistry n f).Mirrors n (t.modifyRegistry n f) := by
  unfold modifyRegistry
  cases hr : s.registrars[n]? with
  | none =>
    rw [h.registrar_none hr]
    exact h
  | some r =>
    rw [h.registrar_of hr]
    exact h.setRegistrar_own hr (r.withRegistry (f r.registry))

end

end Keeper

end LeaseKeeper

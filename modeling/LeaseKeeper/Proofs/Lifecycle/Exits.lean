/-
  Why the process is asked to end.

  A registrar asks the process to end for two reasons: it could not be enabled, or its watcher has
  taken a signal and has then deregistered.  So the requests of a registrar can be counted
  (`Accounted`): one for every time that enabling it failed, and one for every scope that was
  signalled and has deregistered.  What is counted is kept by every move; only a move that fails
  to enable and the last deed of a watcher make an entry.

    1. REASONS are read off the journal.  An entry that asks must have the entries of its reason
       right in front of it (`Journal.Reasoned`), for a scope the four that close it: the result,
       its counter, its log line, and the release.
    2. THE COUNT of scopes that ended with a signal grows by one in exactly one deed, the last one
       of a watcher (`Accounted.deed`), and in this deed the request is written.
    3. EVERY MOVE is a case of `Moved`; all but turns and failures add nothing that is counted
       (`Accounted.own`), so the books stay balanced along every run (`Reachable.accounted`).
    4. WHAT THE BOOKS MEAN is told last: a scope that ended with a signal is released, took a
       signal of its own, and was not ended from outside.

  The crux is in 2: the deed counts the scope and asks at once, and whether it does either hangs
  on what the watcher remembers (`Scope.Marked`), which is what the journal says of the signal.
-/
import LeaseKeeper.Proofs.Lifecycle.Signalling
import Mathlib.Data.List.Perm.Subperm

namespace LeaseKeeper

/-! ## Requests in a journal -/

namespace Journal

/-- What was written last: that a registrar could not be enabled. -/
def JustFailed (j : Journal) : Prop := ∃ p e, j = p ++ [.logged (.enableFailed e)]

/-- **What was written last: that scope number `k` has deregistered and is released**, in the name of
    registrar number `n`, and it was signalled before.  The four entries stand in the order in which
    they were made: the call ends, its result is counted and logged, and the registrar lets go. -/
def JustDeregistered (j : Journal) (n k : Nat) : Prop :=
  ∃ (p : Journal) (t : Nat) (i : Identity) (ok : Bool) (line : LogLine), p.signalled k = true ∧
    j = p ++ [.answered t n k .deregister i ok, .counted .deregister ok, .logged line,
      .released t n k]

/-- **Every request to end the process has its reason**, and the code is always the same.  It is
    said of every place where the journal can be split at a request, so the reason is what stands
    right in front of it and not merely somewhere before. -/
def Reasoned (j : Journal) : Prop :=
  ∀ (p q : Journal) (n code : Nat), j = p ++ .exited n code :: q →
    code = 1 ∧ (p.JustFailed ∨ ∃ k, p.JustDeregistered n k)

variable {j es : Journal}

theorem exits_append (n : Nat) : (j ++ es : Journal).exits n = j.exits n ++ es.exits n :=
  List.filterMap_append

/-- Where nobody asks, nothing is added. -/
theorem exits_eq_nil (h : ∀ n code, .exited n code ∉ es) (n : Nat) : es.exits n = [] := by
  refine List.filterMap_eq_nil_iff.2 fun e he => ?_
  cases e with
  | exited m code => exact absurd he (h m code)
  | _ => rfl

/-- **What is added must have its reason**: only requests in the new part are new.  The reason may
    reach back into the old part, so it is asked of what stands before the request altogether. -/
theorem Reasoned.append (h : j.Reasoned)
    (hes : ∀ (p q : Journal) (n code : Nat), es = p ++ .exited n code :: q →
      code = 1 ∧ ((j ++ p : Journal).JustFailed ∨ ∃ k, (j ++ p : Journal).JustDeregistered n k)) :
    Reasoned (j ++ es) := by
  intro p q n code hsplit
  rcases List.append_eq_append_iff.1 hsplit with ⟨a, rfl, ha⟩ | ⟨a, rfl, ha⟩
  · -- the request is in the new part
    exact hes a q n code ha
  · cases a with
    | nil =>
      -- it is the first entry of the new part
      have hreason := hes [] q n code ha.symm
      rw [List.append_nil, List.append_nil] at hreason
      exact hreason
    | cons e a =>
      -- it is in the old part
      obtain ⟨rfl, -⟩ := List.cons.inj ha
      exact h p a n code rfl

/-- A task ends no deregistration: that is the watcher's to do, so such an entry is foreign to
    it. -/
theorem ends_of_own (h : ∀ e ∈ es, e.isForeign = false) (k : Nat) :
    es.ends k .deregister = 0 := by
  refine Decidable.byContradiction fun hends => ?_
  obtain ⟨t, n, i, ok, he⟩ := exists_answered hends
  cases h _ he

/-- Where nobody asks, no reason is needed. -/
theorem Reasoned.quiet (h : j.Reasoned) (hes : ∀ n code, .exited n code ∉ es) :
    Reasoned (j ++ es) := by
  refine h.append fun p q n code hsplit => ?_
  exact absurd (by rw [hsplit]; exact List.mem_append_right _ (List.mem_cons_self ..)) (hes n code)

section

variable (c : Scope) (now k : Nat) (failure : Option String) (signalled : Bool)

/-- What closes a scope does not signal it. -/
theorem signalled_closing : Journal.signalled (.answered now c.owner k .deregister c.identity
    failure.isNone :: c.closing now k failure signalled) k = false := by
  cases signalled <;> rfl

/-- **What closes a scope asks once** if the scope was signalled, in the name of its registrar. -/
theorem exits_closing (n : Nat) : (c.closing now k failure signalled).exits n =
    List.replicate (c.owner == n && signalled).toNat 1 := by
  cases signalled with
  | false => simp [Scope.closing, exits]
  | true => by_cases hn : c.owner = n <;> simp [Scope.closing, exits, hn, Turn.signalExitCode]

/-- **The end of a deregistration is reason enough**: the request comes last, and in front of it stand
    the four entries that it must follow. -/
theorem Reasoned.closed (h : j.Reasoned) (hmark : signalled = true → j.signalled k = true) :
    (j ++ .answered now c.owner k .deregister c.identity failure.isNone ::
      c.closing now k failure signalled : Journal).Reasoned := by
  cases signalled with
  | false => exact h.quiet (by simp)
  | true =>
    refine h.append fun p q n code hsplit => ?_
    -- only the fifth entry is a request, so that four stand before it
    rcases p with _ | ⟨e₁, _ | ⟨e₂, _ | ⟨e₃, _ | ⟨e₄, _ | ⟨e₅, p⟩⟩⟩⟩⟩
    · cases hsplit
    · cases hsplit
    · cases hsplit
    · cases hsplit
    · cases hsplit
      exact ⟨rfl, .inr ⟨k, j, _, _, _, _, hmark rfl, rfl⟩⟩
    · -- nothing comes after it
      simp [Scope.closing] at hsplit

end

/-- A scope of which it is written that it is released has ended its deregistration. -/
theorem Lawful.ends_of_released {t n k : Nat} (h : j.Lawful) (he : .released t n k ∈ j) :
    j.ends k .deregister ≠ 0 := by
  obtain ⟨p, q, rfl⟩ := split_of_mem he
  have hbefore : p.ends k .deregister ≠ 0 := h.warranted
  rw [ends_append]
  omega

/-- **A scope is cancelled for one cause.**  A cancellation is warranted only where the scope was
    not cancelled before, so of two entries about one scope the later would have no warrant. -/
theorem Lawful.one_cause {t t' n n' k : Nat} {cause cause' : CancelCause} (h : j.Lawful)
    (he : .cancelled t n k cause ∈ j) (he' : .cancelled t' n' k cause' ∈ j) : cause = cause' := by
  have hpos : ∀ {p : Journal} {u m : Nat} {cause : CancelCause},
      .cancelled u m k cause ∈ p → p.cancellations k ≠ 0 := fun hmem =>
    Nat.ne_of_gt (List.countP_pos_iff.2 ⟨_, hmem, by simp⟩)
  rcases split_of_two he he' with heq | ⟨p, q, rfl, hp⟩ | ⟨p, q, rfl, hp⟩
  · -- they are the same entry
    cases heq
    rfl
  · exact absurd h.warranted.2 (hpos hp)
  · exact absurd h.warranted.2 (hpos hp)

end Journal

/-! ## Counting -/

/-- A number comes to those that are counted: the count grows by one if the number counts now, as
    it did not before.  Induction on the size, where the number is the last one or is not. -/
theorem filter_range_length {p p' : Nat → Bool} {k size : Nat} (hk : k < size)
    (hsame : ∀ j, j ≠ k → p' j = p j) (hnot : p k = false) :
    ((List.range size).filter p').length = ((List.range size).filter p).length + (p' k).toNat := by
  induction size with
  | zero => exact absurd hk (Nat.not_lt_zero k)
  | succ size ih =>
    rw [List.range_succ, List.filter_append, List.filter_append, List.length_append,
      List.length_append]
    rcases Nat.lt_succ_iff_lt_or_eq.1 hk with hlt | rfl
    · -- the last number counts as before
      have hlast : p' size = p size := hsame size (Nat.ne_of_gt hlt)
      have hrest : [size].filter p' = [size].filter p := by simp only [List.filter, hlast]
      rw [ih hlt, hrest]
      omega
    · -- the last number is the one that may have come
      have hfirst : (List.range k).filter p' = (List.range k).filter p :=
        List.filter_congr fun j hj => hsame j (Nat.ne_of_lt (List.mem_range.1 hj))
      rw [hfirst]
      cases hp' : p' k <;> simp [hp', hnot]

namespace Keeper

/-- **Scope number `k` ended with a signal**: registrar number `n` started it, it was signalled, and it
    has deregistered. -/
def hasSignalEnd (s : Keeper) (n k : Nat) : Bool :=
  s.scopes[k]?.any (·.owner == n) && s.journal.signalled k && s.journal.ends k .deregister != 0

/-- The scopes of a registrar that ended with a signal. -/
def signalEnds (s : Keeper) (n : Nat) : List Nat :=
  (List.range s.scopes.length).filter (s.hasSignalEnd n)

/-- **The registrar that a move fails to enable.**  -/
def failures (s : Keeper) : Move → List Nat
  | .enable n => if s.failsToEnable n then [n] else []
  | _ => []

/-- **The requests to end the process are accounted for**: those of registrar number `n` are as
    many as its scopes that ended with a signal, and `failed n` more.  Every one of them has its
    reason. -/
structure Accounted (s : Keeper) (failed : Nat → Nat) : Prop where
  exits : ∀ n, s.journal.exits n = List.replicate (failed n + (s.signalEnds n).length) 1
  reasoned : s.journal.Reasoned

section

variable {s s' : Keeper} {failed : Nat → Nat} {k : Nat} {c c' : Scope} {r r' : Registrar}
  {found : Reception} {es : Journal}

/-- Scopes that are not there have not ended: the list of scopes may have grown, but no number
    beyond the old ones is counted. -/
theorem signalEnds_eq (hle : s.scopes.length ≤ s'.scopes.length) {n : Nat}
    (hsame : ∀ k, s'.hasSignalEnd n k = s.hasSignalEnd n k) : s'.signalEnds n = s.signalEnds n := by
  obtain ⟨d, hd⟩ := Nat.exists_eq_add_of_le hle
  unfold signalEnds
  rw [hd, List.range_add, List.filter_append, funext hsame]
  refine List.append_right_eq_self.2 (List.filter_eq_nil_iff.2 fun j hj => ?_)
  obtain ⟨i, -, rfl⟩ := List.mem_map.1 hj
  rw [hasSignalEnd, List.getElem?_eq_none (Nat.le_add_right _ _)]
  nofun

/-- **Where nobody asks** and no scope ends with a signal, the account is as before. -/
theorem Accounted.quiet (h : s.Accounted failed) (hle : s.scopes.length ≤ s'.scopes.length)
    (hj : s'.journal = s.journal ++ es) (hes : ∀ n code, .exited n code ∉ es)
    (hsame : ∀ n k, s'.hasSignalEnd n k = s.hasSignalEnd n k) : s'.Accounted failed where
  exits n := by
    rw [hj, Journal.exits_append, Journal.exits_eq_nil hes, List.append_nil, h.exits,
      signalEnds_eq hle (hsame n)]
  reasoned := by
    rw [hj]
    exact h.reasoned.quiet hes

/-- What matters of a scope is who owns it and what is written about it: where no signal and no
    end of a deregistration is among the new entries, it counts as before. -/
theorem hasSignalEnd_eq {n : Nat}
    (howner : s'.scopes[k]?.map Scope.owner = s.scopes[k]?.map Scope.owner)
    (hj : s'.journal = s.journal ++ es) (hsignalled : es.signalled k = false)
    (hends : es.ends k .deregister = 0) : s'.hasSignalEnd n k = s.hasSignalEnd n k := by
  have hany : ∀ u : Keeper, u.scopes[k]?.any (·.owner == n) =
      (u.scopes[k]?.map Scope.owner).any (· == n) := by
    intro u
    cases u.scopes[k]? <;> rfl
  rw [hasSignalEnd, hasSignalEnd, hany, hany, howner, hj, Journal.signalled_append, hsignalled,
    Journal.ends_append, hends, Bool.or_false, Nat.add_zero]

/-- Replacing a scope by what it has become leaves the owners alone. -/
theorem owner_set (hc : s.scopes[k]? = some c) (howner : c'.owner = c.owner) (j : Nat) :
    (s.scopes.set k c')[j]?.map Scope.owner = s.scopes[j]?.map Scope.owner := by
  by_cases hjk : k = j
  · subst hjk
    rw [List.getElem?_set_self (List.getElem?_eq_some_iff.1 hc).1, hc]
    exact congrArg some howner
  · rw [List.getElem?_set_ne hjk]

/-- **What anybody but a watcher does** leaves the account as it is: it changes no owner, signals
    no scope, ends no deregistration and asks for nothing. -/
theorem Accounted.own (h : s.Accounted failed)
    (howner : ∀ k : Nat, s'.scopes[k]?.map Scope.owner = s.scopes[k]?.map Scope.owner)
    (hj : s'.journal = s.journal ++ es) (hsignalled : ∀ k, es.signalled k = false)
    (hends : ∀ k, es.ends k .deregister = 0) (hes : ∀ n code, .exited n code ∉ es) :
    s'.Accounted failed := by
  refine h.quiet ?_ hj hes fun n k => hasSignalEnd_eq (howner k) hj (hsignalled k) (hends k)
  -- where there was a scope, there is one
  refine Nat.le_of_not_lt fun hlt => ?_
  have hlast := howner s'.scopes.length
  rw [List.getElem?_eq_none (Nat.le_refl _), List.getElem?_eq_getElem hlt] at hlast
  cases hlast

/-- Where nothing is written and the scopes are as before. -/
theorem Accounted.congr (h : s.Accounted failed) (hscopes : s'.scopes = s.scopes)
    (hj : s'.journal = s.journal) : s'.Accounted failed :=
  h.own (fun k => by rw [hscopes]) (hj.trans (List.append_nil _).symm) (fun _ => rfl)
    (fun _ => rfl) fun _ _ => List.not_mem_nil

/-! ## What a watcher does -/

/-- A scope whose watcher has not finished has not deregistered, so it is not counted yet. -/
theorem hasSignalEnd_unfinished {n : Nat} (hrec : c.Recorded k s.journal)
    (hw : c.watcher ≠ .finished) : s.hasSignalEnd n k = false := by
  rw [hasSignalEnd, hrec.deregisterEnds, Scope.deregistered, if_neg hw]
  exact Bool.and_false _

/-- **A deed of a watcher**: a scope that ends with a signal and a request to end the process
    come together.  The count of a registrar grows by one if the scope counts afterwards
    (`hcount`), since it did not before (`hbefore`).  It remains to see that the deed asks exactly
    then (`hgrow`): the two deeds that only lead up to the deregistration do not ask, and the one
    that ends it asks if the watcher remembers a signal. -/
theorem Accounted.deed (h : s.Accounted failed) (hc : s.scopes[k]? = some c)
    (hrec : c.Recorded k s.journal) (hmark : c.Marked k s.journal)
    (hd : WatcherDeed s.now k found c r c' r' es) (hscopes : s'.scopes = s.scopes.set k c')
    (hj : s'.journal = s.journal ++ es) : s'.Accounted failed := by
  have hk : k < s.scopes.length := (List.getElem?_eq_some_iff.1 hc).1
  have hc' : s'.scopes[k]? = some c' := by
    rw [hscopes]
    exact List.getElem?_set_self hk
  have hrec' : c'.Recorded k s'.journal := by
    rw [hj]
    exact hd.recorded hrec
  have hlength : s'.scopes.length = s.scopes.length := by
    rw [hscopes]
    exact List.length_set ..
  have hbefore : ∀ n, s.hasSignalEnd n k = false := by
    refine fun n => hasSignalEnd_unfinished hrec fun hfin => ?_
    cases hd with
    | signalled hwatch => rw [hwatch] at hfin; cases hfin
    | began hwatch => rw [hwatch] at hfin; cases hfin
    | ended hder => rw [hder] at hfin; cases hfin
  -- only this scope can have ended, and so the count grows with the requests
  have hcount : ∀ n, (s'.signalEnds n).length =
      (s.signalEnds n).length + (s'.hasSignalEnd n k).toNat := by
    intro n
    unfold signalEnds
    rw [hlength]
    refine filter_range_length hk (fun j hjk => ?_) (hbefore n)
    have hne : ∀ e ∈ es, e.scope? ≠ some j := hd.about.ne (Ne.symm hjk)
    refine hasSignalEnd_eq ?_ hj (Journal.signalled_of_ne hne) (Journal.ends_eq_zero hne _)
    rw [hscopes]
    exact owner_set hc hd.same.owner j
  have hgrow : (∀ n, es.exits n = List.replicate (s'.hasSignalEnd n k).toNat 1) →
      ∀ n, s'.journal.exits n = List.replicate (failed n + (s'.signalEnds n).length) 1 := by
    intro hexits n
    rw [hj, Journal.exits_append, h.exits, hexits, hcount, List.replicate_append_replicate,
      Nat.add_assoc]
  have hnone : c'.watcher ≠ .finished → (∀ n, es.exits n = []) → ∀ n,
      es.exits n = List.replicate (s'.hasSignalEnd n k).toNat 1 := by
    intro hw hexits n
    rw [hexits, hasSignalEnd_unfinished hrec' hw]
    rfl
  cases hd with
  | signalled =>
    -- the scope takes a signal, and has not deregistered yet
    refine ⟨hgrow (hnone nofun fun _ => rfl), ?_⟩
    rw [hj]
    exact h.reasoned.quiet (by simp)
  | began =>
    -- the deregistration starts
    refine ⟨hgrow (hnone nofun fun _ => rfl), ?_⟩
    rw [hj]
    exact h.reasoned.quiet (by simp)
  | @ended due failure signalled hder =>
    have hmarked : s.journal.signalled k = signalled := hmark.deregistering hder
    -- the scope has ended with a signal if it was signalled before
    have hend : ∀ n, s'.hasSignalEnd n k = (c.owner == n && signalled) := by
      intro n
      have hends : s'.journal.ends k .deregister = 1 := by
        rw [hrec'.deregisterEnds]
        rfl
      have hsame : s'.journal.signalled k = signalled := by
        rw [hj, Journal.signalled_append, hmarked, Journal.signalled_closing, Bool.or_false]
      rw [hasSignalEnd, hc', hends, hsame]
      simp
    refine ⟨hgrow fun n => ?_, ?_⟩
    · rw [hend, ← Journal.exits_closing c s.now k failure signalled n]
      rfl
    · rw [hj]
      exact h.reasoned.closed c s.now k failure signalled hmarked.trans

end

/-! ## What a move does -/

section

variable {s : Keeper} {failed : Nat → Nat}

theorem failures_eq_nil {m : Move} (hf : ∀ n, m = .enable n → s.failsToEnable n = false) :
    s.failures m = [] := by
  cases m with
  | enable n => rw [failures, hf n rfl]; rfl
  | _ => rfl

/-- A scope that begins has not ended: its number is new, so nothing was written about it, and
    the scopes before it are as they were. -/
theorem Accounted.began (h : s.Accounted failed) (hj : s.Documented) (n : Nat) (r : Registrar)
    (i : Identity) : (s.beginScope n r i).Accounted failed := by
  obtain ⟨line, hline⟩ := beginScope_eq s n r i
  have hjournal : (s.beginScope n r i).journal = s.journal ++ [.began s.now n s.scopes.length i,
      .logged (.enabled i r.pacing.retryInterval)] := by rw [hline]
  have hscopes : (s.beginScope n r i).scopes = s.scopes ++ [s.newScope n r i] := by rw [hline]
  refine h.quiet (by rw [hscopes, List.length_append]; exact Nat.le_add_right _ _) hjournal
    (by simp) fun n' k => ?_
  by_cases hk : k = s.scopes.length
  · -- nothing was written about it
    have hunknown : ∀ e ∈ s.journal, e.scope? ≠ some k := by
      intro e he hek
      exact absurd (hj.known e he k hek) (by omega)
    have hsignalled : (s.beginScope n r i).journal.signalled k = false := by
      rw [hjournal, Journal.signalled_append, Journal.signalled_of_ne hunknown]
      rfl
    rw [hasSignalEnd, hasSignalEnd, hsignalled, Journal.signalled_of_ne hunknown, Bool.and_false,
      Bool.and_false, Bool.false_and, Bool.false_and]
  · -- a scope that was there before, or a number that is no scope even now
    refine hasSignalEnd_eq ?_ hjournal rfl rfl
    rw [hscopes]
    rcases Nat.lt_or_ge k s.scopes.length with hlt | hge
    · rw [List.getElem?_append_left hlt]
    · rw [List.getElem?_eq_none hge, List.getElem?_eq_none]
      rw [List.length_append, List.length_singleton]
      omega

/-- A scope that is cancelled from outside was not signalled: the cancellation is written with
    its cause, and that is another one. -/
theorem Accounted.cancelled {k n : Nat} {c : Scope} (h : s.Accounted failed)
    (hc : s.scopes[k]? = some c) (r : Registrar) (cause : CancelCause) (hcause : cause ≠ .signalled)
    {rest : Journal} (hrest : rest.Silent) (hasks : ∀ n code, .exited n code ∉ rest) :
    (((s.setRegistrar n r).cancel k cause).tell rest).Accounted failed := by
  obtain ⟨line, hline⟩ := cancel_eq (s := s.setRegistrar n r) hc cause
  have hjournal : (((s.setRegistrar n r).cancel k cause).tell rest).journal =
      s.journal ++ (c.cancellation s.now k cause ++ rest) := by
    rw [hline]
    exact List.append_assoc ..
  have hscopes : (((s.setRegistrar n r).cancel k cause).tell rest).scopes =
      s.scopes.set k { c with isCancelled := true } := by
    rw [hline]
    rfl
  refine h.own (fun j => ?_) hjournal (fun j => ?_) (fun j => ?_) fun n code hmem => ?_
  · -- the owners are the same
    rw [hscopes]
    exact owner_set hc (show ({ c with isCancelled := true } : Scope).owner = c.owner from rfl) j
  · -- nobody is signalled, as the cause is another one
    rw [Journal.signalled_append, Journal.signalled_of_ne (hrest.ne j), Bool.or_false]
    unfold Scope.cancellation
    split
    · rfl
    · refine Bool.eq_false_iff.2 fun hsignalled => hcause ?_
      obtain ⟨t, m, he⟩ := Journal.signalled_iff.1 hsignalled
      cases List.mem_singleton.1 he
      rfl
  · -- no deregistration ends
    rw [Journal.ends_append, hrest.ends]
    unfold Scope.cancellation
    split <;> rfl
  · -- nobody asks
    rcases List.mem_append.1 hmem with hmem | hmem
    · unfold Scope.cancellation at hmem
      split at hmem
      · cases hmem
      · cases List.mem_singleton.1 hmem
    · exact hasks n code hmem

/-- **A turn** leaves the account balanced.  A task makes only entries of its own, none of which
    counts; a watcher does nothing, one deed, or two of them, each balanced by itself. -/
theorem Accounted.turn (h : s.Accounted failed) (hj : s.Documented)
    (hmarked : ∀ {k : Nat} {c : Scope}, s.scopes[k]? = some c → c.Marked k s.journal) (a : Actor) :
    (s.turn a).Accounted failed := by
  rcases turn_cases s a with hself | ⟨c, r, hc, hr⟩
  · rw [hself]
    exact h
  · obtain ⟨subscriptions, line, hturn, -⟩ := turn_eq hc hr
    have hput : (s.put a.scope (s.worked a c r)).Accounted failed → (s.turn a).Accounted failed := by
      rw [hturn]
      exact fun hworked => hworked.congr rfl rfl
    refine hput ?_
    obtain ⟨k, w⟩ := a
    cases w with
    | task =>
      have hown : ∀ e ∈ (s.worked ⟨k, .task⟩ c r).report, e.isForeign = false :=
        Turn.runTask_own c r
      refine h.own (owner_set hc (Turn.run_owner .task c r)) rfl (Journal.signalled_of_own hown)
        (Journal.ends_of_own hown) fun n code hmem => ?_
      cases hown _ hmem
    | watcher =>
      rcases Turn.runWatcher_deeds (t := s.worked ⟨k, .watcher⟩ c r) rfl with
        ⟨hidle, -⟩ | ⟨c₁, r₁, es₁, hd, hrest⟩
      · -- the watcher has nothing to do
        rw [hidle]
        exact h.own (owner_set hc rfl) rfl (fun _ => rfl) (fun _ => rfl) fun _ _ => List.not_mem_nil
      · -- its first deed, after which it may do another
        have hfirst : (s.put k ⟨c₁, r₁, es₁⟩).Accounted failed :=
          h.deed hc (hj.recorded hc) (hmarked hc) hd rfl rfl
        rcases hrest with hone | ⟨c₂, r₂, es₂, hd', htwo⟩
        · rw [hone]
          exact hfirst
        · -- the second deed starts from the state that the first one has left
          have hk : k < s.scopes.length := (List.getElem?_eq_some_iff.1 hc).1
          rw [htwo, ← put_put s k ⟨c₁, r₁, es₁⟩ r₂ es₂ hd'.same.owner]
          exact hfirst.deed (put_scope hk) (hd.recorded (hj.recorded hc))
            (hd.marked (hmarked hc)) hd' rfl rfl

/-- **Every move leaves the requests accounted for**, and adds to the failures what it fails to
    enable.  This is the step of the induction over runs, with one case for each kind of move. -/
theorem Accounted.move (h : s.Accounted failed) (hs : s.Reachable) (m : Move) :
    (s.move m).Accounted fun n => failed n + (s.failures m).count n := by
  have hmoved := s.moved m
  generalize s.move m = s' at hmoved ⊢
  have hnone : s.failures m = [] → s'.Accounted failed →
      s'.Accounted fun n => failed n + (s.failures m).count n := by
    intro hnil h'
    rw [hnil]
    exact h'
  cases hmoved with
  | idle hf => exact hnone (failures_eq_nil hf) h
  | @failed n r r' hr hf hsame e =>
    -- the only move that asks by itself: one failure more, and one request more
    have hone : s.failures (.enable n) = [n] := by rw [failures, hf]; rfl
    have hjournal : (s.failEnabling n r' e).journal =
        s.journal ++ [.logged (.enableFailed e), .exited n startupExitCode] := rfl
    have hends : ∀ m, (s.failEnabling n r' e).signalEnds m = s.signalEnds m := by
      have hlength : s.scopes.length ≤ (s.failEnabling n r' e).scopes.length := Nat.le_refl _
      exact fun m => signalEnds_eq hlength fun k => hasSignalEnd_eq rfl hjournal rfl rfl
    refine ⟨fun m => ?_, ?_⟩
    · rw [hjournal, Journal.exits_append, h.exits, hone, hends]
      -- only the registrar that failed has asked
      by_cases hm : n = m
      · subst hm
        have hexits : Journal.exits [.logged (.enableFailed e), .exited n startupExitCode] n =
            List.replicate 1 1 := by
          simp [Journal.exits, startupExitCode]
        rw [hexits, List.replicate_append_replicate, List.count_singleton_self]
        congr 1
        omega
      · have hexits : Journal.exits [.logged (.enableFailed e), .exited n startupExitCode] m =
            [] := by
          simp [Journal.exits, hm]
        rw [hexits, List.append_nil, List.count_singleton, if_neg (by simpa using hm)]
        rfl
    · rw [hjournal]
      -- the request is the second new entry, and the failure stands in front of it
      refine h.reasoned.append fun p q m code hsplit => ?_
      rcases p with _ | ⟨e₁, _ | ⟨e₂, p⟩⟩
      · cases hsplit
      · cases hsplit
        exact ⟨rfl, .inl ⟨s.journal, e, rfl⟩⟩
      · simp at hsplit
  | began hr hf hsame i =>
    exact hnone (failures_eq_nil fun n hn => by cases hn; exact hf) (h.began hs.documented _ _ i)
  | @ended m n k r cause rest hr hd hcur hm =>
    -- the registrar is disabled or dropped, and its newest scope is cancelled
    obtain ⟨c, hc, -⟩ := hs.orderly.current_newest (memory?_of hr) hcur
    rcases hm with ⟨rfl, rfl, rfl⟩ | ⟨rfl, rfl, rfl⟩
    · exact hnone rfl (h.cancelled hc _ .disabled nofun (Journal.silent_nil.cons rfl) (by simp))
    · exact hnone rfl (h.cancelled hc _ .dropped nofun Journal.silent_nil (by simp))
  | retired => exact hnone rfl (h.congr rfl rfl)
  | raised signal =>
    obtain ⟨line, hline⟩ := deliver_eq s signal
    refine hnone rfl (h.congr ?_ ?_) <;> rw [hline]
  | supplied => exact hnone rfl (h.congr rfl rfl)
  | @turned m a line hm =>
    -- whose turn it is was taken from the line before, which is no matter for the account
    have hbefore : ({ s with ready := line } : Keeper).Accounted failed := h.congr rfl rfl
    refine hnone (failures_eq_nil ?_) (hbefore.turn ?_ hs.marked a)
    · rintro n rfl
      rcases hm with h | h <;> cases h
    · exact ⟨hs.documented.recorded, hs.documented.known, hs.documented.lawful⟩
  | passed d =>
    obtain ⟨line, hline⟩ := advance_eq s (s.now + d.millis)
    refine hnone rfl (h.congr ?_ ?_) <;> rw [hline]

end

/-- **The requests of every run are accounted for**: induction on the moves, the last one split
    off. -/
theorem Reachable.accounted {registrars : List Registrar} (hnew : ∀ r ∈ registrars, r.IsNew)
    (ms : List Move) : (Keeper.after { registrars := registrars } ms).Accounted fun n =>
      (Keeper.observed failures { registrars := registrars } ms).count n := by
  have hstart : Reachable { registrars := registrars } := reachable_start hnew
  induction ms using List.reverseRecOn with
  | nil =>
    -- nothing is written at the start
    refine ⟨fun _ => rfl, fun p q n code hsplit => ?_⟩
    cases p <;> cases hsplit
  | append_singleton ms m ih =>
    rw [after_concat]
    simp only [observed_concat, List.count_append]
    exact ih.move (hstart.after ms) m

/-! ## What a signal end means -/

section

variable {s : Keeper} {n k : Nat}

/-- What it is for a scope to have ended with a signal, said of the scope itself. -/
theorem mem_signalEnds : k ∈ s.signalEnds n ↔ ∃ c, s.scopes[k]? = some c ∧ c.owner = n ∧
    s.journal.signalled k = true ∧ s.journal.ends k .deregister ≠ 0 := by
  rw [signalEnds, List.mem_filter, List.mem_range, hasSignalEnd]
  constructor
  · rintro ⟨hk, hend⟩
    rw [List.getElem?_eq_getElem hk, Option.any_some] at hend
    simp only [Bool.and_eq_true, beq_iff_eq, bne_iff_ne] at hend
    exact ⟨_, List.getElem?_eq_getElem hk, hend.1.1, hend.1.2, hend.2⟩
  · rintro ⟨c, hc, howner, hsignalled, hends⟩
    refine ⟨(List.getElem?_eq_some_iff.1 hc).1, ?_⟩
    rw [hc, hsignalled, Option.any_some, howner]
    simpa using hends

/-- **Registrar number `n` has let go of scope number `k`**: it could not cancel that scope any more,
    and it announces nobody if it has started no other since. -/
def Released (s : Keeper) (n k : Nat) : Prop :=
  ∀ r, s.registrars[n]? = some r → r.current ≠ some k ∧
    ∀ c, s.scopes[k]? = some c → c.count = r.scopeCount → r.current = none ∧ r.shown = none

/-- **A scope that has deregistered is released.**  Its watcher has finished.  If the scope is the
    newest of its registrar, the registrar remembers nothing of it (`Memory.Matches`); if it is
    not, what the registrar remembers is a later one. -/
theorem Reachable.released (h : s.Reachable) {c : Scope} (hc : s.scopes[k]? = some c)
    (hends : s.journal.ends k .deregister ≠ 0) : s.Released c.owner k := by
  intro r hr
  have ho := h.orderly
  have hfinished : c.watcher = .finished := by
    rw [(h.documented.recorded hc).deregisterEnds, Scope.deregistered] at hends
    exact Decidable.byContradiction fun hw => hends (if_neg hw)
  have hnewest : c.count = r.scopeCount → r.current = none ∧ r.shown = none := by
    intro hcount
    have hmatch := ho.newest hc (memory?_of hr) hcount
    have hshown : r.shown = _ := hmatch.shown
    rw [if_pos hfinished] at hshown
    exact ⟨hmatch.released hfinished, hshown⟩
  refine ⟨fun hcur => ?_, fun c' hc' hcount => ?_⟩
  · -- only the newest scope could be cancelled
    obtain ⟨c', hc', -, hcount⟩ := ho.current_newest (memory?_of hr) hcur
    obtain rfl := Option.some.inj (hc'.symm.trans hc)
    rw [(hnewest hcount).1] at hcur
    cases hcur
  · -- and as many scopes were started as the registrar has counted
    obtain rfl := Option.some.inj (hc'.symm.trans hc)
    exact hnewest hcount

/-- The scope of which it was written that it has deregistered after a signal has ended so: the
    entries stay in the journal, and they name the scope and its owner. -/
theorem Documented.signalEnd {p q : Journal} (hj : s.Documented) (hsplit : s.journal = p ++ q)
    (hjust : p.JustDeregistered n k) : k ∈ s.signalEnds n := by
  obtain ⟨p', t, i, ok, line, hsignalled, rfl⟩ := hjust
  have hmem : .answered t n k .deregister i ok ∈ s.journal := by
    rw [hsplit]
    simp
  obtain ⟨c, hc, rfl, rfl⟩ := hj.scope_of hmem rfl
  refine mem_signalEnds.2 ⟨c, hc, rfl, ?_, ?_⟩
  · rw [hsplit, Journal.signalled_append, Journal.signalled_append, hsignalled]
    rfl
  · exact Nat.ne_of_gt (List.countP_pos_iff.2 ⟨_, hmem, by simp⟩)

/-- **A scope that was ended from outside** while it was live is never signalled: it was
    cancelled then, for another cause, and a scope is cancelled for one cause only. -/
theorem Ends.unsignalled {m : Move} (h : s.Ends k m) (hs : s.Reachable)
    (hm : ∀ signal, m ≠ .raise signal) {u : Keeper} (hu : Reaches (s.move m) u) :
    u.journal.signalled k = false := by
  obtain ⟨c, r, cause, rest, hc, hx, hcause, hmove⟩ := h.cancels hs.orderly hm
  obtain ⟨line, hline⟩ := cancel_eq (s := s.setRegistrar c.owner r) hc cause
  have hcancelled : .cancelled s.now c.owner k cause ∈ (s.move m).journal := by
    rw [hmove, hline]
    simp [tell, Scope.cancellation, hx, setRegistrar]
  have hscope : (s.move m).scopes[k]? = some { c with isCancelled := true } := by
    rw [hmove, hline]
    exact List.getElem?_set_self (List.getElem?_eq_some_iff.1 hc).1
  obtain ⟨c', later, -, hj, -⟩ := hu.fate hscope (fun _ _ => True) trivial fun _ _ _ _ _ _ _ => trivial
  refine Bool.eq_false_iff.2 fun hsignalled => hcause ?_
  obtain ⟨t, n, hmem⟩ := Journal.signalled_iff.1 hsignalled
  have hearlier : .cancelled s.now c.owner k cause ∈ u.journal := by
    rw [hj]
    exact List.mem_append_left _ hcancelled
  exact ((hs.move m).reaches hu).documented.lawful.one_cause hearlier hmem

end

/-! ## Accounting -/

/-- **Signals that were accepted are at least as many as scopes that ended with one**: the scopes
    that count are different numbers, and each of them is the number of a subscription that was
    filled, of which no two are alike. -/
theorem Reachable.signalEnds_le {start : Keeper} (hstart : start.Reachable)
    (hnone : start.scopes = []) (ms : List Move) (registrars : Nat) :
    ((List.range registrars).flatMap (start.after ms).signalEnds).length ≤
      (start.observed acceptances ms).length := by
  refine (List.Nodup.subperm ?_ ?_).length_le
  · -- no scope is counted twice, since each has one owner
    refine List.nodup_flatMap.2 ⟨fun n _ => List.nodup_range.filter _, ?_⟩
    refine List.nodup_range.imp fun {n n'} hne k hk hk' => hne ?_
    obtain ⟨c, hc, rfl, -⟩ := mem_signalEnds.1 hk
    obtain ⟨c', hc', rfl, -⟩ := mem_signalEnds.1 hk'
    exact congrArg Scope.owner (Option.some.inj (hc.symm.trans hc'))
  · -- each was signalled, so a signal was accepted for it
    intro k hk
    obtain ⟨n, -, hk⟩ := List.mem_flatMap.1 hk
    obtain ⟨c, -, -, hsignalled, -⟩ := mem_signalEnds.1 hk
    exact hstart.signalled_accepted hnone ms hsignalled

/-- **Why and how often the process is asked to end.**  In every run:

    * A registrar asks with code 1, once for every time that enabling it failed and once for every scope
      of its that was signalled and has deregistered, and never otherwise.
    * Each request follows its reason in the journal.  For a scope this is that its deregistration has
      ended, with whatever result, that the result was counted and logged, and that the registrar has
      let go of the scope; nothing stands between this and the request.
    * What is written of a release is the case: a scope that was released, and every scope that has
      ended with a signal, cannot be cancelled any more, and its registrar announces nobody if it has
      started no other scope since.
    * A scope whose registrar was disabled or dropped while it was live is never the reason, whatever
      its subscription holds.
    * A signal that is accepted is put in the subscription that is then the newest; no two are put in
      one, and no scope is signalled without one.  So there are no more scopes that ended with a signal
      than signals that were accepted. -/
theorem exits_accounted {registrars : List Registrar} (hnew : ∀ r ∈ registrars, r.IsNew)
    (ms : List Move) :
    let start : Keeper := { registrars := registrars }
    let s := start.after ms
    let failed := start.observed failures ms
    let taken := start.observed acceptances ms
    (∀ n, s.journal.exits n = List.replicate (failed.count n + (s.signalEnds n).length) 1) ∧
    (∀ (p q : Journal) (n code : Nat), s.journal = p ++ .exited n code :: q →
      code = 1 ∧ (p.JustFailed ∨ ∃ k ∈ s.signalEnds n, p.JustDeregistered n k)) ∧
    (∀ t n k, .released t n k ∈ s.journal → s.Released n k) ∧
    (∀ n, ∀ k ∈ s.signalEnds n, s.Released n k) ∧
    (∀ ms₁ m ms₂ k, ms = ms₁ ++ m :: ms₂ → (start.after ms₁).Ends k m →
      (∀ signal, m ≠ .raise signal) → ∀ n, k ∉ s.signalEnds n) ∧
    (∀ k, s.journal.signalled k = true → k ∈ taken) ∧ taken.Nodup ∧
    ((List.range registrars.length).flatMap s.signalEnds).length ≤ taken.length := by
  have hstart : Reachable { registrars := registrars } := reachable_start hnew
  have hs := hstart.after ms
  have haccounted := Reachable.accounted hnew ms
  refine ⟨haccounted.exits, ?_, ?_, ?_, ?_,
    fun k => hstart.signalled_accepted rfl ms, hstart.acceptances_nodup rfl ms,
    hstart.signalEnds_le rfl ms registrars.length⟩
  · -- the reasons are as written; that the scope has ended with a signal is in the entries themselves
    intro p q n code hsplit
    obtain ⟨hcode, hreason⟩ := haccounted.reasoned p q n code hsplit
    exact ⟨hcode, hreason.imp_right fun ⟨k, hjust⟩ =>
      ⟨k, hs.documented.signalEnd hsplit hjust, hjust⟩⟩
  · -- a release is written only after the deregistration, and then the watcher has finished
    intro t n k he
    obtain ⟨c, hc, rfl⟩ := hs.documented.scope_of he rfl
    exact hs.released hc (hs.documented.lawful.ends_of_released he)
  · -- so it is with a scope that ended with a signal
    intro n k hk
    obtain ⟨c, hc, rfl, -, hends⟩ := mem_signalEnds.1 hk
    exact hs.released hc hends
  · -- a scope that was ended from outside was cancelled, and is cancelled for one cause only
    rintro ms₁ m ms₂ k rfl hends hm n hk
    obtain ⟨c, -, -, hsignalled, -⟩ := mem_signalEnds.1 hk
    have hlater : Reaches ((after { registrars := registrars } ms₁).move m)
        (after { registrars := registrars } (ms₁ ++ m :: ms₂)) := by
      rw [after_append]
      exact reaches_after _ ms₂
    rw [hends.unsignalled (hstart.after ms₁) hm hlater] at hsignalled
    cases hsignalled

/-- Two registrars that have not been used, of which the second cannot get a client. -/
def oneFaulty : List Registrar :=
  [{ identity := .ok someone }, { identity := .ok someone, clientFaults := [some "no registry"] }]

/-- The second cannot be enabled; the first is, and then it takes the first of two signals. -/
def signalledMoves : List Move :=
  [.enable 1, .enable 0, .raise .terminate, .raise .hangup, .step, .step]

/-- Each of the two asks once: the one for the signal that it took first, the other for its
    failure. -/
theorem signalledMoves_exits : (∀ r ∈ oneFaulty, r.IsNew) ∧
    (after { registrars := oneFaulty } signalledMoves).journal.exits 0 = [1] ∧
    (after { registrars := oneFaulty } signalledMoves).journal.exits 1 = [1] := by
  have hnew : ∀ r ∈ oneFaulty, r.IsNew := by decide
  have hexits := (exits_accounted hnew signalledMoves).1
  have hzero : (observed failures { registrars := oneFaulty } signalledMoves).count 0 +
      ((after { registrars := oneFaulty } signalledMoves).signalEnds 0).length = 1 := by
    decide +kernel
  have hone : (observed failures { registrars := oneFaulty } signalledMoves).count 1 +
      ((after { registrars := oneFaulty } signalledMoves).signalEnds 1).length = 1 := by
    decide +kernel
  exact ⟨hnew, by rw [hexits, hzero]; rfl, by rw [hexits, hone]; rfl⟩

end Keeper

end LeaseKeeper

/-
  What becomes of one scope.

  A change is about all registrars and scopes at once.  Who asks for one scope sees four things
  happen to it (`Scope.Fate`): nothing, a cancellation from outside, a deed of its task, or a deed
  of its watcher; and with each goes what is written about it.  `Change.fate` says so once, so
  that a property of one scope along a run is proved by four cases and not by nine.

  That nothing happens to it does not mean that nothing is written: other scopes write about
  themselves meanwhile.  So the first case says that no entry is about this scope, and what is
  asked of such entries follows from it.
-/
import LeaseKeeper.Proofs.Lifecycle.Record

namespace LeaseKeeper

/-- **What becomes of scope number `k`** in one change, and what is written meanwhile. -/
inductive Scope.Fate (now k : Nat) (c : Scope) : Scope → Journal → Prop where
  | untouched {es : Journal} (h : ∀ e ∈ es, e.scope? ≠ some k) : Fate now k c c es
  | cancelled (cause : CancelCause) (h : cause ≠ .signalled) :
      Fate now k c { c with isCancelled := true } (c.cancellation now k cause)
  | task {c' : Scope} {r r' : Registrar} {es : Journal} (h : TaskDeed now k c r c' r' es) :
      Fate now k c c' es
  | watcher {found : Reception} {c' : Scope} {r r' : Registrar} {es : Journal}
      (h : WatcherDeed now k found c r c' r' es) : Fate now k c c' es

/-- Entries about one scope are not about another. -/
theorem Journal.About.ne {es : Journal} {j k : Nat} (h : es.About j) (hjk : j ≠ k) :
    ∀ e ∈ es, e.scope? ≠ some k := by
  intro e he hk
  exact hjk (h e he k hk).symm

namespace Scope

variable {now k : Nat} {c c' : Scope} {es : Journal}

/-- Whatever becomes of a scope, it stays the same scope: its owner, its count and its identity
    never change. -/
theorem Fate.same (h : c.Fate now k c' es) : c.SameScope c' := by
  cases h with
  | untouched => exact ⟨rfl, rfl, rfl⟩
  | cancelled => exact ⟨rfl, rfl, rfl⟩
  | task hd => exact hd.same
  | watcher hd => exact hd.same

/-- Nothing revives a scope. -/
theorem Fate.stays_cancelled (h : c.Fate now k c' es) (hx : c.isCancelled = true) :
    c'.isCancelled = true := by
  cases h with
  | untouched => exact hx
  | cancelled => rfl
  | task hd =>
    rw [hd.scope_eq]
    exact hx
  | watcher hd => exact hd.stays_cancelled hx

end Scope

namespace Keeper

/-- **A change is a fate for every scope.**  Either the change is about this scope, and then it
    is one of the three; or it is about another one, and then that one writes about itself. -/
theorem Change.fate {s t : Keeper} (h : Change s t) {k : Nat} {c : Scope}
    (hc : s.scopes[k]? = some c) :
    ∃ c' es, t.scopes[k]? = some c' ∧ t.journal = s.journal ++ es ∧ c.Fate s.now k c' es := by
  have hk : k < s.scopes.length := (List.getElem?_eq_some_iff.1 hc).1
  -- a scope goes on and writes about itself: that is `c` or another
  have hput : ∀ {j : Nat} {a a' : Scope} {r' : Registrar} {es : Journal},
      s.scopes[j]? = some a → es.About j → (j = k → a = c → c.Fate s.now k a' es) →
      ∃ c' es', (s.put j ⟨a', r', es⟩).scopes[k]? = some c' ∧
        (s.put j ⟨a', r', es⟩).journal = s.journal ++ es' ∧ c.Fate s.now k c' es' := by
    intro j a a' r' es ha habout hfate
    by_cases hjk : j = k
    · subst hjk
      exact ⟨a', es, put_scope hk, rfl, hfate rfl (Option.some.inj (ha.symm.trans hc))⟩
    · have hother : (s.scopes.set j a')[k]? = some c := by
        rw [List.getElem?_set_ne hjk]
        exact hc
      exact ⟨c, es, hother, rfl, .untouched (habout.ne hjk)⟩
  cases h with
  | aside _ hscopes hj =>
    -- Nothing that a scope has is touched.
    exact ⟨c, [], by rw [hscopes]; exact hc, by rw [hj, List.append_nil],
      .untouched (Journal.silent_nil.ne k)⟩
  | logged line =>
    exact ⟨c, [.logged line], hc, rfl, .untouched ((Journal.silent_nil.cons rfl).ne k)⟩
  | supplied => exact ⟨c, [], hc, (List.append_nil _).symm, .untouched (Journal.silent_nil.ne k)⟩
  | @refused n r r' hr hm e =>
    exact ⟨c, [.logged (.enableFailed e), .exited n startupExitCode], hc, rfl,
      .untouched (((Journal.silent_nil.cons rfl).cons rfl).ne k)⟩
  -- Another scope begins, with a number of its own.
  | @began n r r' hr hm hd hcur i =>
    obtain ⟨line, hline⟩ := beginScope_eq s n r' i
    rw [hline]
    have habout : Journal.About [.began s.now n s.scopes.length i,
        .logged (.enabled i r'.pacing.retryInterval)] s.scopes.length :=
      ((Journal.silent_nil.cons rfl).about _).cons rfl
    exact ⟨c, _, (List.getElem?_append_left hk).trans hc, rfl,
      .untouched (habout.ne (Nat.ne_of_gt hk))⟩
  | @ended n j r hr hcur cause hx =>
    -- The scope that is ended is this one, another, or none.
    cases ha : s.scopes[j]? with
    | none =>
      have hnone : (s.setRegistrar n (r.ending cause)).scopes[j]? = none := ha
      rw [cancel_none hnone]
      exact ⟨c, [], hc, (List.append_nil _).symm, .untouched (Journal.silent_nil.ne k)⟩
    | some a =>
      obtain ⟨line, hline⟩ := cancel_eq (s := s.setRegistrar n (r.ending cause)) ha cause
      rw [hline]
      by_cases hjk : j = k
      · subst hjk
        obtain rfl := Option.some.inj (ha.symm.trans hc)
        exact ⟨_, _, List.getElem?_set_self hk, rfl, .cancelled cause hx⟩
      · exact ⟨c, _, (List.getElem?_set_ne hjk).trans hc, rfl,
          .untouched ((a.cancellation_about s.now j cause).ne hjk)⟩
  | retired => exact ⟨c, [], hc, (List.append_nil _).symm, .untouched (Journal.silent_nil.ne k)⟩
  | task ha hr hd =>
    -- A worker does its deed, in this scope or in another.
    refine hput ha hd.about ?_
    rintro rfl rfl
    exact .task hd
  | watcher ha hr hd =>
    refine hput ha hd.about ?_
    rintro rfl rfl
    exact .watcher hd

/-- **A property of one scope along a run** is proved of one change at a time: of the scope as it
    has become, and of what has been written since.  Induction on the changes. -/
theorem Reaches.fate {s t : Keeper} (h : Reaches s t) {k : Nat} {c : Scope}
    (hc : s.scopes[k]? = some c) (Holds : Scope → Journal → Prop) (base : Holds c [])
    (step : ∀ now c' c'' later es, Holds c' later → c'.Fate now k c'' es →
      Holds c'' (later ++ es)) :
    ∃ c' later, t.scopes[k]? = some c' ∧ t.journal = s.journal ++ later ∧ Holds c' later := by
  have hchanges := h.changes
  clear h
  induction hchanges with
  | refl => exact ⟨c, [], hc, (List.append_nil _).symm, base⟩
  | tail _ hlast ih =>
    obtain ⟨c', later, hc', hj, hholds⟩ := ih
    obtain ⟨c'', es, hc'', hj', hfate⟩ := hlast.fate hc'
    exact ⟨c'', later ++ es, hc'', by rw [hj', hj, List.append_assoc],
      step _ c' c'' later es hholds hfate⟩

end Keeper

end LeaseKeeper

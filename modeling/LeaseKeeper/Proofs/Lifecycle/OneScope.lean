/-
  A registrar has one scope at a time.

  Scopes overlap: disabling does not wait for the deregistration, so a watcher may release its scope
  long after a later one was started.  All the same, of the scopes that a registrar has ever started
  at most one is not cancelled, and what the registrar remembers always belongs to the last one
  (`reachable_consistent`).

  Everything is read off the order of the scopes (`Keeper.Orderly`) and the journal
  (`Keeper.Documented`).  That a late release touches nothing is a fact about turns: a worker whose
  scope is not the last leaves the memory of the registrar as it was (`turn_late`).
-/
import LeaseKeeper.Proofs.Lifecycle.Turns

namespace LeaseKeeper

/-! ## A late worker -/

/-- The watcher of an older scope does not change what the registrar remembers. -/
theorem Turn.runWatcher_memory {now index : Nat} {found : Reception} {t : Turn}
    (h : t.scope.count ≠ t.registrar.scopeCount) :
    (t.runWatcher now index found).registrar.memory = t.registrar.memory := by
  refine (Turn.runWatcher_keeps (fun u => u.scope.count = t.scope.count ∧
    u.registrar.memory = t.registrar.memory) ?_ ⟨rfl, rfl⟩).2
  intro found u ⟨hcount, hmemory⟩
  rcases Turn.stepWatcher_deed now index found u with hu | ⟨c, r, es, hd, hu⟩
  · rw [hu]
    exact ⟨hcount, hmemory⟩
  · have hlate : u.scope.count ≠ u.registrar.scopeCount := by
      rw [hcount, show u.registrar.scopeCount = t.registrar.scopeCount from
        congrArg Memory.scopeCount hmemory]
      exact h
    rw [hu]
    exact ⟨hd.same.count.trans hcount, (hd.memory_eq hlate).trans hmemory⟩

namespace Keeper

/-- **A late worker**: a turn in a scope that is not the last changes nothing that its registrar
    remembers. -/
theorem turn_late {s : Keeper} {a : Actor} {c : Scope} {r : Registrar}
    (hc : s.scopes[a.scope]? = some c) (hr : s.registrars[c.owner]? = some r)
    (hlate : c.count ≠ r.scopeCount) : (s.turn a).memory? c.owner = some r.memory := by
  obtain ⟨subscriptions, line, hturn, -⟩ := turn_eq hc hr
  have hkeeps : (s.worked a c r).scope.owner = c.owner ∧
      (s.worked a c r).registrar.memory = r.memory := by
    obtain ⟨k, w⟩ := a
    cases w with
    | task =>
      obtain ⟨hscope, hmemory⟩ := Turn.stepsOfTask_keeps s.now k
        (Turn.taskSteps ⟨c, r, []⟩) ⟨c, r, []⟩
      exact ⟨(congrArg Scope.owner hscope :), hmemory⟩
    | watcher =>
      exact ⟨runWatcher_owner _ _ _ _, Turn.runWatcher_memory (t := ⟨c, r, []⟩) hlate⟩
  have hset : (s.turn a).registrars = s.registrars.set c.owner (s.worked a c r).registrar := by
    rw [hturn, ← hkeeps.1]
    rfl
  rw [memory?_set hr hset, if_pos rfl, hkeeps.2]

/-! ## One scope at a time -/

/-- **What registrar number `n` remembers agrees with its scopes.** -/
structure Consistent (s : Keeper) (n : Nat) (r : Registrar) : Prop where
  /-- At most one of its scopes is not cancelled. -/
  unique : ∀ {j k : Nat} {a b : Scope}, s.scopes[j]? = some a → s.scopes[k]? = some b →
    a.owner = n → b.owner = n → a.isCancelled = false → b.isCancelled = false → j = k
  /-- That is the last one that was started, and the one that the registrar would cancel. -/
  live : ∀ {k : Nat} {c : Scope}, s.scopes[k]? = some c → c.owner = n → c.isCancelled = false →
    r.current = some k ∧ c.count = r.scopeCount
  /-- An identity is announced exactly while the last scope has been started and not released; it is
      the one that the scope began with. -/
  shown : ∀ i, r.shown = some i ↔ ∃ k c t, s.scopes[k]? = some c ∧ c.owner = n ∧
    c.count = r.scopeCount ∧ c.watcher ≠ .finished ∧ .began t n k i ∈ s.journal
  /-- The scope that the registrar would cancel is the last one.  It may be cancelled already: after
      a drop, or from the signal that its watcher took until the release. -/
  current : ∀ {k : Nat}, r.current = some k → ∃ c, s.scopes[k]? = some c ∧ c.owner = n ∧
    c.count = r.scopeCount ∧ (c.isCancelled = true →
      r.isDropped = true ∨ ∃ due failure, c.watcher = .deregistering due failure true)
  /-- Nothing that a worker of an older scope does is noticed. -/
  late : ∀ {k : Nat} {c : Scope}, s.scopes[k]? = some c → c.owner = n → c.count ≠ r.scopeCount →
    ∀ w, (s.turn ⟨k, w⟩).memory? n = some r.memory

/-- **One scope at a time**: in every reachable state, what a registrar remembers agrees with its
    scopes. -/
theorem reachable_consistent {s : Keeper} (h : s.Reachable) {n : Nat} {r : Registrar}
    (hr : s.registrars[n]? = some r) : s.Consistent n r := by
  have ho := h.orderly
  have hj := h.documented
  have hm : s.memory? n = some r.memory := memory?_of hr
  have hlive : ∀ {k : Nat} {c : Scope}, s.scopes[k]? = some c → c.owner = n →
      c.isCancelled = false → r.current = some k ∧ c.count = r.scopeCount := by
    intro k c hc howner hx
    exact ho.live_newest hc (howner ▸ hm) hx
  have hmatch : ∀ {k : Nat} {c : Scope}, s.scopes[k]? = some c → c.owner = n →
      c.count = r.scopeCount → r.memory.Matches k c := by
    intro k c hc howner hcount
    exact ho.newest hc (howner ▸ hm) hcount
  refine ⟨?_, hlive, ?_, ?_, ?_⟩
  · intro j k a b ha hb hao hbo hax hbx
    have hja := (hlive ha hao hax).1
    have hkb := (hlive hb hbo hbx).1
    rw [hja] at hkb
    exact Option.some.inj hkb
  · intro i
    constructor
    · intro hshown
      rcases ho.started hm with ⟨-, hnone, -⟩ | ⟨k, c, hc, howner, hcount⟩
      · rw [show r.memory.shown = r.shown from rfl, hshown] at hnone
        cases hnone
      · have hsh : r.shown = _ := (hmatch hc howner hcount).shown
        rw [hshown] at hsh
        split at hsh
        · cases hsh
        · rename_i hwatcher
          obtain ⟨t, ht⟩ := (hj.recorded hc).began
          rw [howner, ← Option.some.inj hsh] at ht
          exact ⟨k, c, t, hc, howner, hcount, hwatcher, ht⟩
    · rintro ⟨k, c, t, hc, howner, hcount, hwatcher, ht⟩
      have hsh : r.shown = _ := (hmatch hc howner hcount).shown
      rw [if_neg hwatcher] at hsh
      obtain ⟨-, hi⟩ : n = c.owner ∧ i = c.identity := (hj.recorded hc).names _ ht rfl
      rw [hsh, hi]
  · intro k hk
    obtain ⟨c, hc, howner, hcount⟩ := ho.current_newest hm hk
    exact ⟨c, hc, howner, hcount, (hmatch hc howner hcount).cancelled hk⟩
  · intro k c hc howner hlate w
    subst howner
    exact turn_late (a := ⟨k, w⟩) hc hr hlate

/-- A registrar that was disabled and, while its first scope had not been released, enabled. -/
def enabledAgain : Keeper := ((((alone {}).enable 0).sleep ⟨50⟩).disable 0).enable 0

/-- The second scope is the one that is remembered. -/
theorem enabledAgain_consistent : enabledAgain.Reachable ∧
    ∃ r, enabledAgain.registrars[0]? = some r ∧ r.scopeCount = 2 ∧ r.current = some 1 ∧
      enabledAgain.Consistent 0 r := by
  have hs : enabledAgain.Reachable :=
    ((((alone_reachable {}).enable 0).sleep ⟨50⟩).disable 0).enable 0
  have hvalues : enabledAgain.registrars[0]?.map (fun r => (r.scopeCount, r.current)) =
      some (2, some 1) := by
    decide +kernel
  obtain ⟨r, hr, hpair⟩ := Option.map_eq_some_iff.1 hvalues
  obtain ⟨hcount, hcurrent⟩ := Prod.mk.inj hpair
  exact ⟨hs, r, hr, hcount, hcurrent, reachable_consistent hs hr⟩

end Keeper

end LeaseKeeper

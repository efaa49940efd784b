/-
  The scopes of a registrar come one after the other.

  Five things change what a registrar remembers of its scopes: enabling and disabling it, dropping
  it, a watcher that finds a signal, and a watcher that has deregistered, perhaps long after a
  later scope was started.  The invariant that survives all of them in every order is `Orderly`:

    * the scopes of a registrar are counted upwards, and the registrar knows the last count;

    * every scope but the newest is cancelled;

    * what the registrar remembers MATCHES its newest scope (`Memory.Matches`).

  Only the newest scope can change the memory: a watcher that releases an older one finds another
  count there.  So a change replaces one scope and at most what its owner remembers, and
  `Orderly.replace` says once what such a replacement must keep.

    1. What follows from the order alone: the scope a registrar could cancel is its newest, and a
       scope that is not cancelled is that one (`current_newest`, `live_newest`).

    2. One lemma for each way to touch scopes and memories: neither (`congr`), one scope and its
       owner's memory (`replace`), one scope more (`began`).

    3. One lemma for each change (`Orderly.change`), and from it by induction every run
       (`Reaches.invariant`).  The later modules prove their invariants through this last one, so
       each of their steps may take the order of the scopes as given.
-/
import LeaseKeeper.Proofs.Lifecycle.Change

namespace LeaseKeeper

/-- **A registrar's memory matches its newest scope**, number `k`.  The fields are exactly what a
    change to a scope has to restore: which scope can be cancelled, and which identity is shown. -/
structure Memory.Matches (m : Memory) (k : Nat) (c : Scope) : Prop where
  current : m.current = none ∨ m.current = some k
  live : c.isCancelled = false → m.current = some k
  shown : m.shown = if c.watcher = .finished then none else some c.identity
  released : c.watcher = .finished → m.current = none
  /-- A cancelled scope is remembered only until it is released after a signal, or for good by a
      registrar that was dropped. -/
  cancelled : m.current = some k → c.isCancelled = true →
    m.isDropped = true ∨ ∃ due failure, c.watcher = .deregistering due failure true

namespace Keeper

/-- What a registrar remembers.  Most steps replace a registrar by one that differs in its
    counters or its identity source only; the memory leaves these out, so such steps need no
    argument. -/
def memory? (s : Keeper) (n : Nat) : Option Memory := s.registrars[n]?.map Registrar.memory

/-- **The scopes of every registrar come one after the other.**  A registrar that has started no
    scope remembers nothing (`started`), and one that has is answerable for its newest
    (`newest`). -/
structure Orderly (s : Keeper) : Prop where
  owned : ∀ {k : Nat} {c : Scope}, s.scopes[k]? = some c →
    ∃ m, s.memory? c.owner = some m ∧ 0 < c.count ∧ c.count ≤ m.scopeCount
  rising : ∀ {i j : Nat} {a b : Scope}, i < j → s.scopes[i]? = some a →
    s.scopes[j]? = some b → a.owner = b.owner → a.count < b.count
  older : ∀ {k : Nat} {c : Scope} {m : Memory}, s.scopes[k]? = some c →
    s.memory? c.owner = some m → c.count < m.scopeCount → c.isCancelled = true
  newest : ∀ {k : Nat} {c : Scope} {m : Memory}, s.scopes[k]? = some c →
    s.memory? c.owner = some m → c.count = m.scopeCount → m.Matches k c
  started : ∀ {n : Nat} {m : Memory}, s.memory? n = some m →
    (m.current = none ∧ m.shown = none ∧ m.scopeCount = 0) ∨
      ∃ (k : Nat) (c : Scope), s.scopes[k]? = some c ∧ c.owner = n ∧ c.count = m.scopeCount
  watched : ∀ {k : Nat} {c : Scope}, s.scopes[k]? = some c → c.isCancelled = false →
    c.watcher = .watching

/-! ## Looking at memories -/

theorem memory?_of {s : Keeper} {n : Nat} {r : Registrar} (h : s.registrars[n]? = some r) :
    s.memory? n = some r.memory := by
  rw [memory?, h, Option.map_some]

/-- After a registrar was replaced, its memory is the new one's. -/
theorem memory?_set {s s' : Keeper} {n : Nat} {r r' : Registrar}
    (h : s.registrars[n]? = some r) (hs : s'.registrars = s.registrars.set n r') (m : Nat) :
    s'.memory? m = if m = n then some r'.memory else s.memory? m := by
  have hn : n < s.registrars.length := (List.getElem?_eq_some_iff.1 h).1
  unfold memory?
  rw [hs]
  by_cases hm : m = n
  · rw [if_pos hm, hm, List.getElem?_set_self hn, Option.map_some]
  · rw [if_neg hm, List.getElem?_set_ne (Ne.symm hm)]

/-- A replacement that remembers the same changes no memory. -/
theorem memory?_set_same {s s' : Keeper} {n : Nat} {r r' : Registrar}
    (h : s.registrars[n]? = some r) (hm : r'.memory = r.memory)
    (hs : s'.registrars = s.registrars.set n r') (m : Nat) : s'.memory? m = s.memory? m := by
  rw [memory?_set h hs]
  split
  · rename_i hmn
    rw [hmn, memory?_of h, hm]
  · rfl

/-- A scope of a list with one scope replaced is the new one, or an old one elsewhere. -/
theorem getElem?_set_cases {scopes : List Scope} {k i : Nat} {c a : Scope}
    (h : (scopes.set k c)[i]? = some a) :
    (i = k ∧ a = c) ∨ (i ≠ k ∧ scopes[i]? = some a) := by
  by_cases hik : i = k
  · subst hik
    rw [List.getElem?_set] at h
    by_cases hi : i < scopes.length
    · rw [if_pos rfl, if_pos hi] at h
      exact .inl ⟨rfl, (Option.some.inj h).symm⟩
    · rw [if_pos rfl, if_neg hi] at h
      cases h
  · rw [List.getElem?_set_ne (Ne.symm hik)] at h
    exact .inr ⟨hik, h⟩

/-- A scope of a longer list is an old one or the one at the end. -/
theorem getElem?_append_cases {scopes : List Scope} {i : Nat} {c a : Scope}
    (h : (scopes ++ [c])[i]? = some a) :
    (i < scopes.length ∧ scopes[i]? = some a) ∨ (i = scopes.length ∧ a = c) := by
  rcases Nat.lt_trichotomy i scopes.length with hi | hi | hi
  · rw [List.getElem?_append_left hi] at h
    exact .inl ⟨hi, h⟩
  · subst hi
    rw [List.getElem?_concat_length] at h
    exact .inr ⟨rfl, (Option.some.inj h).symm⟩
  · rw [List.getElem?_eq_none (by rw [List.length_append, List.length_singleton]; omega)] at h
    cases h

/-! ## What the order says -/

/-- The registrar of a scope is there. -/
theorem Orderly.registrar {s : Keeper} (hs : s.Orderly) {k : Nat} {c : Scope}
    (hc : s.scopes[k]? = some c) : ∃ r, s.registrars[c.owner]? = some r := by
  obtain ⟨m, hm, -⟩ := hs.owned hc
  obtain ⟨r, hr, -⟩ := Option.map_eq_some_iff.1 hm
  exact ⟨r, hr⟩

/-- The scope that a registrar could cancel is its newest, so cancelling from outside never meets
    an older one. -/
theorem Orderly.current_newest {s : Keeper} (hs : s.Orderly) {n k : Nat} {m : Memory}
    (hm : s.memory? n = some m) (hk : m.current = some k) :
    ∃ c, s.scopes[k]? = some c ∧ c.owner = n ∧ c.count = m.scopeCount := by
  rcases hs.started hm with ⟨hnone, -⟩ | ⟨j, c, hc, howner, hcount⟩
  · rw [hnone] at hk
    cases hk
  · have hmatch := hs.newest hc (howner ▸ hm) hcount
    rcases hmatch.current with hnone | hj
    · rw [hnone] at hk
      cases hk
    · obtain rfl : j = k := Option.some.inj (hj.symm.trans hk)
      exact ⟨c, hc, howner, hcount⟩

/-- Two scopes of a registrar with one count are one scope. -/
theorem Orderly.count_inj {s : Keeper} (hs : s.Orderly) {i j : Nat} {a b : Scope}
    (ha : s.scopes[i]? = some a) (hb : s.scopes[j]? = some b) (howner : a.owner = b.owner)
    (hcount : a.count = b.count) : i = j := by
  rcases Nat.lt_trichotomy i j with h | h | h
  · have := hs.rising h ha hb howner
    omega
  · exact h
  · have := hs.rising h hb ha howner.symm
    omega

/-- The scopes of a registrar stand in the order of their counts. -/
theorem Orderly.index_lt {s : Keeper} (hs : s.Orderly) {i j : Nat} {a b : Scope}
    (ha : s.scopes[i]? = some a) (hb : s.scopes[j]? = some b) (howner : a.owner = b.owner)
    (hcount : a.count < b.count) : i < j := by
  rcases Nat.lt_trichotomy i j with hlt | heq | hgt
  · exact hlt
  · subst heq
    obtain rfl := Option.some.inj (ha.symm.trans hb)
    omega
  · have := hs.rising hgt hb ha howner.symm
    omega

/-- A scope that is not cancelled is the newest of its registrar, which could cancel it.  So at
    most one scope of a registrar is live. -/
theorem Orderly.live_newest {s : Keeper} (hs : s.Orderly) {k : Nat} {c : Scope} {m : Memory}
    (hc : s.scopes[k]? = some c) (hm : s.memory? c.owner = some m)
    (hx : c.isCancelled = false) : m.current = some k ∧ c.count = m.scopeCount := by
  obtain ⟨m', hm', -, hle⟩ := hs.owned hc
  obtain rfl : m' = m := Option.some.inj (hm'.symm.trans hm)
  have hcount : c.count = m'.scopeCount := by
    rcases Nat.lt_or_eq_of_le hle with hlt | heq
    · rw [hs.older hc hm hlt] at hx
      cases hx
    · exact heq
  exact ⟨(hs.newest hc hm hcount).live hx, hcount⟩

/-! ## Replacing scopes and memories -/

/-- Whatever leaves the scopes and the memories alone keeps the order. -/
theorem Orderly.congr {s s' : Keeper} (hs : s.Orderly) (hscopes : s'.scopes = s.scopes)
    (hmem : ∀ n, s'.memory? n = s.memory? n) : s'.Orderly where
  owned hc := by
    rw [hmem]
    exact hs.owned (hscopes ▸ hc)
  rising hij ha hb := hs.rising hij (hscopes ▸ ha) (hscopes ▸ hb)
  older hc hm := hs.older (hscopes ▸ hc) (hmem _ ▸ hm)
  newest hc hm := hs.newest (hscopes ▸ hc) (hmem _ ▸ hm)
  started hm := by
    rw [hscopes]
    exact hs.started (hmem _ ▸ hm)
  watched hc := hs.watched (hscopes ▸ hc)

section

variable {s s' : Keeper} {k : Nat} {c c' : Scope} {m m' : Memory}

/-- **Replacing a scope**, and what its owner remembers.  The memory may change only if the scope is
    the newest, and must match it again. -/
theorem Orderly.replace (hs : s.Orderly) (hc : s.scopes[k]? = some c)
    (hm : s.memory? c.owner = some m) (hsame : c.SameScope c')
    (hscopes : s'.scopes = s.scopes.set k c')
    (hmem : ∀ n, s'.memory? n = if n = c.owner then some m' else s.memory? n)
    (hcount : m'.scopeCount = m.scopeCount)
    (hkept : c.isCancelled = true → c'.isCancelled = true)
    (hwatched : c'.isCancelled = false → c'.watcher = .watching)
    (hnew : c.count = m.scopeCount → m.Matches k c → m'.Matches k c')
    (hold : c.count ≠ m.scopeCount → m' = m) : s'.Orderly := by
  -- a scope after the replacement: where it was before, and what its owner remembers now
  have look : ∀ {i : Nat} {a : Scope}, s'.scopes[i]? = some a → ∃ b : Scope, s.scopes[i]? = some b ∧
      a.owner = b.owner ∧ a.count = b.count ∧ (b.isCancelled = true → a.isCancelled = true) ∧
      ((i = k ∧ b = c ∧ a = c') ∨ (i ≠ k ∧ a = b)) := by
    intro i a ha
    rw [hscopes] at ha
    rcases getElem?_set_cases ha with ⟨rfl, rfl⟩ | ⟨hik, ha⟩
    · exact ⟨c, hc, hsame.owner, hsame.count, hkept, .inl ⟨rfl, rfl, rfl⟩⟩
    · exact ⟨a, ha, rfl, rfl, id, .inr ⟨hik, rfl⟩⟩
  -- a memory after the replacement: the owner's is the new one, every other is as before
  have remembered : ∀ {n : Nat} {p' : Memory}, s'.memory? n = some p' → ∃ p, s.memory? n = some p ∧
      p'.scopeCount = p.scopeCount ∧
        ((n = c.owner ∧ p = m ∧ p' = m') ∨ (n ≠ c.owner ∧ p' = p)) := by
    intro n p' hp
    rw [hmem] at hp
    split at hp
    · rename_i hn
      obtain rfl := Option.some.inj hp
      exact ⟨m, hn ▸ hm, hcount, .inl ⟨hn, rfl, rfl⟩⟩
    · rename_i hn
      exact ⟨p', hp, rfl, .inr ⟨hn, rfl⟩⟩
  refine ⟨?_, ?_, ?_, ?_, ?_, ?_⟩
  · -- counts stay within what the registrars have counted
    intro i a ha
    obtain ⟨b, hb, howner, hcnt, -⟩ := look ha
    obtain ⟨p, hp, hpos, hle⟩ := hs.owned hb
    rw [howner, hcnt, hmem]
    split
    · rename_i hn
      rw [hn, hm] at hp
      exact ⟨m', rfl, hpos, by rw [hcount, Option.some.inj hp]; exact hle⟩
    · exact ⟨p, hp, hpos, hle⟩
  · -- neither owners nor counts have changed
    intro i j a b hij ha hb hown
    obtain ⟨a₀, ha₀, hao, hac, -⟩ := look ha
    obtain ⟨b₀, hb₀, hbo, hbc, -⟩ := look hb
    rw [hac, hbc]
    exact hs.rising hij ha₀ hb₀ (by rw [← hao, ← hbo, hown])
  · -- an older scope was cancelled, and the replacement keeps that
    intro i a p' ha hp hlt
    obtain ⟨b, hb, howner, hcnt, hx, -⟩ := look ha
    obtain ⟨p, hp₀, hpc, -⟩ := remembered hp
    exact hx (hs.older hb (howner ▸ hp₀) (by omega))
  · -- the newest scope is the replaced one, or neither it nor its memory was touched
    intro i a p' ha hp heq
    obtain ⟨b, hb, howner, hcnt, -, hcase⟩ := look ha
    obtain ⟨p, hp₀, hpc, hpcase⟩ := remembered hp
    rw [howner] at hp₀ hpcase
    have hmatch : p.Matches i b := hs.newest hb hp₀ (by omega)
    rcases hcase with ⟨rfl, rfl, rfl⟩ | ⟨hik, rfl⟩
    · rcases hpcase with ⟨-, rfl, rfl⟩ | ⟨hne, -⟩
      · exact hnew (by omega) hmatch
      · exact absurd rfl hne
    · rcases hpcase with ⟨hown, rfl, rfl⟩ | ⟨-, rfl⟩
      · -- another scope of the same owner is the newest, so the replaced one is not
        have hne : c.count ≠ p.scopeCount := fun h =>
          hik (hs.count_inj hb hc hown (by omega))
        rw [hold hne]
        exact hmatch
      · exact hmatch
  · -- a registrar that owns the replaced scope has started one
    intro n p' hp
    obtain ⟨p, hp₀, hpc, hpcase⟩ := remembered hp
    rcases hs.started hp₀ with ⟨hcur, hsh, hzero⟩ | ⟨i, a, ha, howner, hcnt⟩
    -- the registrar had started nothing, or its newest scope is still there
    · rcases hpcase with ⟨rfl, rfl, rfl⟩ | ⟨-, rfl⟩
      · obtain ⟨q, hq, hpos, hle⟩ := hs.owned hc
        obtain rfl := Option.some.inj (hq.symm.trans hp₀)
        omega
      · exact .inl ⟨hcur, hsh, hzero⟩
    · refine .inr ?_
      by_cases hik : i = k
      · subst hik
        obtain rfl := Option.some.inj (ha.symm.trans hc)
        have hi : i < s.scopes.length := (List.getElem?_eq_some_iff.1 hc).1
        exact ⟨i, c', by rw [hscopes, List.getElem?_set_self hi], by rw [hsame.owner, howner],
          by rw [hsame.count, hcnt, hpc]⟩
      · exact ⟨i, a, by rw [hscopes, List.getElem?_set_ne (Ne.symm hik), ha], howner,
          by rw [hcnt, hpc]⟩
  · -- a live scope is watched, by hypothesis if it is the new one
    intro i a ha hx
    obtain ⟨b, hb, -, -, -, hcase⟩ := look ha
    rcases hcase with ⟨-, -, rfl⟩ | ⟨-, rfl⟩
    · exact hwatched hx
    · exact hs.watched hb hx

end

end Keeper

/-! ## What matches -/

section

variable {m : Memory} {k : Nat} {c : Scope}

/-- The phase of the task does not matter. -/
theorem Memory.Matches.withTask (h : m.Matches k c) (phase : TaskPhase) :
    m.Matches k { c with task := phase } := ⟨h.1, h.2, h.3, h.4, h.5⟩

/-- A registrar that starts a scope remembers that one. -/
theorem Memory.matches_begin (r : Registrar) (s : Keeper) (n k : Nat) (i : Identity) :
    (r.begin k i).memory.Matches k (s.newScope n r i) where
  current := .inr rfl
  live _ := rfl
  shown := rfl
  released h := nomatch h
  cancelled _ h := nomatch h

/-- A scope that was cancelled from outside matches, as long as nothing has been released.
    Disabling forgets the scope but goes on showing its identity; dropping forgets nothing. -/
theorem Memory.Matches.ending {r : Registrar} (h : r.memory.Matches k c)
    (hk : r.current = some k) {cause : CancelCause} (hx : cause ≠ .signalled) :
    (r.ending cause).memory.Matches k { c with isCancelled := true } := by
  have hrest : c.watcher ≠ .finished := fun hfin => by
    have hnone : r.current = none := h.released hfin
    rw [hnone] at hk
    cases hk
  have hshown : r.shown = if c.watcher = .finished then none else some c.identity := h.shown
  cases cause with
  | disabled => exact ⟨.inl rfl, nofun, hshown, fun _ => rfl, nofun⟩
  | dropped => exact ⟨.inr hk, nofun, hshown, fun hfin => absurd hfin hrest, fun _ _ => .inl rfl⟩
  | signalled => exact absurd rfl hx

end

/-- A release forgets the newest scope and no other: it compares the counts. -/
theorem Registrar.memory_release (r : Registrar) (count : Nat) :
    (r.release count).memory =
      if r.scopeCount = count then { r.memory with current := none, shown := none }
      else r.memory := by
  unfold Registrar.release
  split <;> rfl

section

variable {now k : Nat} {found : Reception} {c c' : Scope} {r r' : Registrar} {es : Journal}

/-- A watcher's deed keeps the memory matched.  Only the end of a deregistration touches the
    memory, by releasing the scope, and then nothing is remembered and nothing is shown. -/
theorem WatcherDeed.matches (h : WatcherDeed now k found c r c' r' es)
    (hw : c.isCancelled = false → c.watcher = .watching) (hcount : c.count = r.scopeCount)
    (hm : r.memory.Matches k c) : r'.memory.Matches k c' := by
  cases h with
  | signalled hwatch hx hf =>
    have hshown := hm.shown
    rw [hwatch] at hshown
    exact ⟨hm.current, nofun, hshown, nofun, fun _ _ => .inr ⟨_, _, rfl⟩⟩
  | began hwatch hx =>
    have hshown := hm.shown
    rw [hwatch] at hshown
    refine ⟨hm.current, fun hlive => ?_, hshown, nofun, fun hk _ => ?_⟩
    · -- it began because the scope was cancelled
      rw [show c.isCancelled = false from hlive] at hx
      cases hx
    · -- remembered although cancelled: of the two reasons only the drop is left, since this watcher
      -- was not deregistering yet
      rcases hm.cancelled hk hx with hd | ⟨due, failure, hder⟩
      · exact .inl hd
      · rw [hwatch] at hder
        cases hder
  | ended hder hd =>
    rw [Registrar.memory_release]
    rw [if_pos (show (r.afterAnswer .deregister _).scopeCount = c.count from hcount.symm)]
    refine ⟨.inl rfl, fun hlive => ?_, rfl, fun _ => rfl, fun hk _ => ?_⟩
    · -- a live scope is watched, and this one was deregistering
      rw [show c.watcher = .watching from hw hlive] at hder
      cases hder
    · -- nothing is remembered any more
      cases hk

theorem WatcherDeed.scopeCount_eq (h : WatcherDeed now k found c r c' r' es) :
    r'.memory.scopeCount = r.memory.scopeCount := by
  cases h with
  | signalled => rfl
  | began => rfl
  | ended =>
    rw [Registrar.memory_release]
    split <;> rfl

/-- No watcher revives a scope. -/
theorem WatcherDeed.stays_cancelled (h : WatcherDeed now k found c r c' r' es) :
    c.isCancelled = true → c'.isCancelled = true := by
  cases h with
  | signalled => exact fun _ => rfl
  | began => exact id
  | ended => exact id

/-- A watcher that has done something has found its scope cancelled, or cancelled it. -/
theorem WatcherDeed.watched (h : WatcherDeed now k found c r c' r' es)
    (hw : c.isCancelled = false → c.watcher = .watching) :
    c'.isCancelled = false → c'.watcher = .watching := by
  cases h with
  | signalled => exact nofun
  | began _ hx =>
    intro hlive
    rw [show c.isCancelled = false from hlive] at hx
    cases hx
  | ended hder =>
    intro hlive
    rw [show c.watcher = .watching from hw hlive] at hder
    cases hder

/-- A watcher of an older scope changes nothing that its registrar remembers.  This is what the
    count in a release is for: without it a late deregistration would forget the scope that took
    over. -/
theorem WatcherDeed.memory_eq (h : WatcherDeed now k found c r c' r' es)
    (hcount : c.count ≠ r.scopeCount) : r'.memory = r.memory := by
  cases h with
  | signalled => rfl
  | began => rfl
  | ended =>
    rw [Registrar.memory_release]
    exact if_neg (Ne.symm hcount)

end

/-! ## Every change keeps the order -/

namespace Keeper

section

variable {s s' : Keeper}

/-- Nothing has been started yet. -/
theorem orderly_start {registrars : List Registrar} (h : ∀ r ∈ registrars, r.IsNew) :
    Orderly { registrars := registrars } where
  owned hc := nomatch hc
  rising _ ha := nomatch ha
  older hc := nomatch hc
  newest hc := nomatch hc
  started {n m} hm := by
    obtain ⟨r, hr, rfl⟩ := Option.map_eq_some_iff.1 hm
    have hnew : r.memory = ⟨none, none, 0, false⟩ := h r (List.mem_of_getElem? hr)
    rw [hnew]
    exact .inl ⟨rfl, rfl, rfl⟩
  watched hc := nomatch hc

/-- What a task does is seen in its own phase only. -/
theorem Orderly.task (hs : s.Orderly) {k : Nat} {c c' : Scope} {r r' : Registrar} {es : Journal}
    (hc : s.scopes[k]? = some c) (hr : s.registrars[c.owner]? = some r)
    (hd : TaskDeed s.now k c r c' r' es) : (s.put k ⟨c', r', es⟩).Orderly := by
  have hmem : ∀ n, (s.put k ⟨c', r', es⟩).memory? n =
      if n = c.owner then some r'.memory else s.memory? n :=
    memory?_set hr (show _ = s.registrars.set c.owner r' from hd.same.owner ▸ rfl)
  refine hs.replace hc (memory?_of hr) hd.same rfl hmem ?_ ?_ ?_ ?_ ?_
  · rw [hd.memory_eq]
  · rw [hd.scope_eq]
    exact id
  · have hw := hs.watched hc
    rw [hd.scope_eq]
    exact hw
  · intro _ hm
    rw [hd.memory_eq, hd.scope_eq]
    exact hm.withTask _
  · exact fun _ => hd.memory_eq

/-- What a watcher does is seen in its scope, and in the memory of its registrar if the scope is
    the newest. -/
theorem Orderly.watcher (hs : s.Orderly) {k : Nat} {found : Reception} {c c' : Scope}
    {r r' : Registrar} {es : Journal} (hc : s.scopes[k]? = some c)
    (hr : s.registrars[c.owner]? = some r) (hd : WatcherDeed s.now k found c r c' r' es) :
    (s.put k ⟨c', r', es⟩).Orderly := by
  have hmem : ∀ n, (s.put k ⟨c', r', es⟩).memory? n =
      if n = c.owner then some r'.memory else s.memory? n :=
    memory?_set hr (show _ = s.registrars.set c.owner r' from hd.same.owner ▸ rfl)
  refine hs.replace hc (memory?_of hr) hd.same rfl hmem hd.scopeCount_eq hd.stays_cancelled ?_
    (fun hcount hm => hd.matches (hs.watched hc) hcount hm) (fun hcount => hd.memory_eq hcount)
  exact hd.watched (hs.watched hc)

/-- A scope is started where nothing can be cancelled, so every scope before it is cancelled.
    The newest one would be remembered if it were live. -/
theorem Orderly.began (hs : s.Orderly) {n : Nat} {r r' : Registrar}
    (hr : s.registrars[n]? = some r) (hm : r'.memory = r.memory) (hnone : r.current = none)
    (i : Identity) : (s.beginScope n r' i).Orderly := by
  obtain ⟨line, hline⟩ := beginScope_eq s n r' i
  have hscopes : (s.beginScope n r' i).scopes = s.scopes ++ [s.newScope n r' i] := by rw [hline]
  have hmem : ∀ m, (s.beginScope n r' i).memory? m =
      if m = n then some (r'.begin s.scopes.length i).memory else s.memory? m :=
    memory?_set hr (by rw [hline])
  have hcount : r'.scopeCount = r.scopeCount := congrArg Memory.scopeCount hm
  have hmr : s.memory? n = some r.memory := memory?_of hr
  -- the scopes of this registrar were counted up to the count before the new one
  have hle : ∀ {k : Nat} {c : Scope}, s.scopes[k]? = some c → c.owner = n →
      c.count ≤ r.scopeCount := by
    intro k c hc howner
    obtain ⟨m, hm', -, hle⟩ := hs.owned hc
    rw [howner, hmr] at hm'
    rw [← Option.some.inj hm'] at hle
    exact hle
  have hcancelled : ∀ {k : Nat} {c : Scope}, s.scopes[k]? = some c → c.owner = n →
      c.isCancelled = true := by
    intro k c hc howner
    rcases Nat.lt_or_eq_of_le (hle hc howner) with hlt | heq
    · exact hs.older hc (howner ▸ hmr) hlt
    · have hlive := (hs.newest hc (howner ▸ hmr) heq).live
      rw [show r.memory.current = none from hnone] at hlive
      cases hx : c.isCancelled with
      | true => rfl
      | false => cases hlive hx
  refine ⟨?_, ?_, ?_, ?_, ?_, ?_⟩
  · -- counts stay within the new count
    intro k c hc
    rw [hscopes] at hc
    rw [hmem]
    rcases getElem?_append_cases hc with ⟨-, hc⟩ | ⟨-, rfl⟩
    · obtain ⟨m, hm', hpos, hcm⟩ := hs.owned hc
      split
      · rename_i howner
        refine ⟨_, rfl, hpos, Nat.le_trans (hle hc howner) ?_⟩
        show r.scopeCount ≤ r'.scopeCount + 1
        omega
      · exact ⟨m, hm', hpos, hcm⟩
    · exact ⟨_, if_pos rfl, Nat.succ_pos _, Nat.le_refl _⟩
  · -- the new scope has a count above all others of this registrar, and stands behind them
    intro a b c d hab hc hd howner
    rw [hscopes] at hc hd
    rcases getElem?_append_cases hd with ⟨hb, hd⟩ | ⟨rfl, rfl⟩
    · rcases getElem?_append_cases hc with ⟨-, hc⟩ | ⟨rfl, -⟩
      · exact hs.rising hab hc hd howner
      · omega
    · rcases getElem?_append_cases hc with ⟨-, hc⟩ | ⟨rfl, -⟩
      · have := hle hc howner
        show c.count < r'.scopeCount + 1
        omega
      · omega
  · -- all scopes of this registrar are older now
    intro k c m hc hm' hlt
    rw [hscopes] at hc
    rw [hmem] at hm'
    rcases getElem?_append_cases hc with ⟨-, hc⟩ | ⟨-, rfl⟩
    · split at hm'
      · rename_i howner
        exact hcancelled hc howner
      · exact hs.older hc hm' hlt
    · rw [if_pos (show (s.newScope n r' i).owner = n from rfl)] at hm'
      rw [← Option.some.inj hm'] at hlt
      exact absurd hlt (Nat.lt_irrefl _)
  · -- an old scope of this registrar is no longer the newest
    intro k c m hc hm' heq
    rw [hscopes] at hc
    rw [hmem] at hm'
    rcases getElem?_append_cases hc with ⟨-, hc⟩ | ⟨rfl, rfl⟩
    · split at hm'
      · rename_i howner
        have := hle hc howner
        rw [← Option.some.inj hm'] at heq
        have heq' : c.count = r'.scopeCount + 1 := heq
        omega
      · exact hs.newest hc hm' heq
    · rw [if_pos (show (s.newScope n r' i).owner = n from rfl)] at hm'
      rw [← Option.some.inj hm']
      exact Memory.matches_begin r' s n _ i
  · -- the registrar has started the new scope, and the others what they had started
    intro m p hp
    rw [hmem] at hp
    split at hp
    · rename_i hmn
      rw [← Option.some.inj hp]
      exact .inr ⟨s.scopes.length, s.newScope n r' i, by rw [hscopes, List.getElem?_concat_length],
        hmn.symm, rfl⟩
    · rcases hs.started hp with hfresh | ⟨k, c, hc, howner, hcnt⟩
      · exact .inl hfresh
      · have hk : k < s.scopes.length := (List.getElem?_eq_some_iff.1 hc).1
        exact .inr ⟨k, c, by rw [hscopes, List.getElem?_append_left hk, hc], howner, hcnt⟩
  · -- the new scope is watched from its start
    intro k c hc hx
    rw [hscopes] at hc
    rcases getElem?_append_cases hc with ⟨-, hc⟩ | ⟨-, rfl⟩
    · exact hs.watched hc hx
    · rfl

/-- Only the newest scope can be cancelled from outside: it is the one the registrar remembers. -/
theorem Orderly.ended (hs : s.Orderly) {n k : Nat} {r : Registrar}
    (hr : s.registrars[n]? = some r) (hk : r.current = some k) {cause : CancelCause}
    (hx : cause ≠ .signalled) :
    ((s.setRegistrar n (r.ending cause)).cancel k cause).Orderly := by
  obtain ⟨c, hc, howner, hcount⟩ := hs.current_newest (memory?_of hr) hk
  subst howner
  obtain ⟨line, hline⟩ := cancel_eq (s := s.setRegistrar c.owner (r.ending cause)) hc cause
  have hmem : ∀ m, ((s.setRegistrar c.owner (r.ending cause)).cancel k cause).memory? m =
      if m = c.owner then some (r.ending cause).memory else s.memory? m :=
    memory?_set hr (by rw [hline]; rfl)
  have hscopes : ((s.setRegistrar c.owner (r.ending cause)).cancel k cause).scopes =
      s.scopes.set k { c with isCancelled := true } := by
    rw [hline]
    rfl
  have hsame : c.SameScope { c with isCancelled := true } := ⟨rfl, rfl, rfl⟩
  refine hs.replace hc (memory?_of hr) hsame hscopes hmem ?_ (fun _ => rfl) nofun
    (fun _ hm => hm.ending hk hx) ?_
  · cases cause <;> rfl
  · exact fun hne => absurd hcount hne

/-- A registrar that is dropped still matches its newest scope.  It has nothing to cancel here,
    and the only thing that changes is that it counts as dropped, which allows more. -/
theorem Orderly.retired (hs : s.Orderly) {n : Nat} {r : Registrar}
    (hr : s.registrars[n]? = some r) : (s.setRegistrar n (r.ending .dropped)).Orderly := by
  have hmem : ∀ m, (s.setRegistrar n (r.ending .dropped)).memory? m =
      if m = n then some (r.ending .dropped).memory else s.memory? m := memory?_set hr rfl
  have hmr : s.memory? n = some r.memory := memory?_of hr
  have remembered : ∀ {m : Nat} {p' : Memory},
      (s.setRegistrar n (r.ending .dropped)).memory? m = some p' →
      ∃ p, s.memory? m = some p ∧ p'.current = p.current ∧ p'.shown = p.shown ∧
        p'.scopeCount = p.scopeCount ∧ (p.isDropped = true → p'.isDropped = true) := by
    intro m p' hp
    rw [hmem] at hp
    split at hp
    · rename_i hmn
      rw [← Option.some.inj hp]
      exact ⟨r.memory, hmn ▸ hmr, rfl, rfl, rfl, fun _ => rfl⟩
    · exact ⟨p', hp, rfl, rfl, rfl, id⟩
  refine ⟨?_, hs.rising, ?_, ?_, ?_, hs.watched⟩
  · intro k c hc
    obtain ⟨m, hm, hpos, hle⟩ := hs.owned hc
    rw [hmem]
    split
    · rename_i howner
      rw [howner, hmr] at hm
      rw [← Option.some.inj hm] at hle
      exact ⟨_, rfl, hpos, hle⟩
    · exact ⟨m, hm, hpos, hle⟩
  · intro k c m hc hm hlt
    obtain ⟨p, hp, -, -, hcount, -⟩ := remembered hm
    exact hs.older hc hp (by omega)
  · intro k c m hc hm heq
    obtain ⟨p, hp, hcur, hshown, hcount, hdrop⟩ := remembered hm
    have hmatch := hs.newest hc hp (by omega)
    refine ⟨hcur ▸ hmatch.current, ?_, hshown ▸ hmatch.shown, hcur ▸ hmatch.released, ?_⟩
    · rw [hcur]
      exact hmatch.live
    · rw [hcur]
      exact fun hk hx => (hmatch.cancelled hk hx).imp_left hdrop
  · intro m p' hp'
    obtain ⟨p, hp, hcur, hshown, hcount, -⟩ := remembered hp'
    rw [hcur, hshown, hcount]
    exact hs.started hp

/-- **Every change keeps the scopes in order.**  One case for each constructor of `Change`, each
    by its own lemma above. -/
theorem Orderly.change (hs : s.Orderly) (h : Change s s') : s'.Orderly := by
  cases h with
  | aside hr hscopes _ => exact hs.congr hscopes fun n => by rw [memory?, hr]; rfl
  | logged line => exact hs.congr rfl fun _ => rfl
  | supplied hr hm => exact hs.congr rfl (memory?_set_same hr hm rfl)
  | refused hr hm e => exact hs.congr rfl (memory?_set_same hr hm rfl)
  | began hr hm _ hnone i => exact hs.began hr hm hnone i
  | ended hr hk cause hx => exact hs.ended hr hk hx
  | retired hr _ => exact hs.retired hr
  | task hc hr hd => exact hs.task hc hr hd
  | watcher hc hr hd => exact hs.watcher hc hr hd

end

/-! ## Every run keeps the order -/

/-- An invariant may be proved change by change, and each change may rely on the order of the
    scopes. -/
theorem Changes.invariant {s t : Keeper} (h : Changes s t) (hs : s.Orderly)
    (Holds : Keeper → Prop) (base : Holds s)
    (change : ∀ u v, u.Orderly → Holds u → Change u v → Holds v) : t.Orderly ∧ Holds t := by
  induction h with
  | refl => exact ⟨hs, base⟩
  | tail _ hlast ih => exact ⟨ih.1.change hlast, change _ _ ih.1 ih.2 hlast⟩

/-- **Invariants of orderly keepers hold along every run.** -/
theorem Reaches.invariant {s t : Keeper} (h : Reaches s t) (hs : s.Orderly)
    (Holds : Keeper → Prop) (base : Holds s)
    (change : ∀ u v, u.Orderly → Holds u → Change u v → Holds v) : t.Orderly ∧ Holds t :=
  Changes.invariant h.changes hs Holds base change

theorem Reaches.orderly {s t : Keeper} (h : Reaches s t) (hs : s.Orderly) : t.Orderly :=
  (h.invariant hs (fun _ => True) trivial fun _ _ _ _ _ => trivial).1

theorem Reachable.orderly {s : Keeper} (h : s.Reachable) : s.Orderly := by
  obtain ⟨registrars, hnew, hreaches⟩ := h
  exact hreaches.orderly (orderly_start hnew)

/-- **Invariants hold in every reachable state.** -/
theorem Reachable.invariant {s : Keeper} (h : s.Reachable) (Holds : Keeper → Prop)
    (start : ∀ registrars : List Registrar, Holds { registrars := registrars })
    (change : ∀ u v, u.Orderly → Holds u → Change u v → Holds v) : Holds s := by
  obtain ⟨registrars, hnew, hreaches⟩ := h
  exact (hreaches.invariant (orderly_start hnew) Holds (start registrars) change).2

end Keeper

end LeaseKeeper

/-
  What the gauge reads.

  There is one gauge for the whole process.  A task sets it when it has registered, and resets it
  when a sign of life fails or when it stops being alive because its scope is cancelled.  It does
  so at its own pace: a sign of life that is in flight at the cancellation is waited for.

  So the gauge reads 1 exactly if the task of some scope is alive and nobody has reset the gauge
  since that scope registered (`gauge_reads`).  Nobody asks whose task resets it: the task of an
  earlier scope that ends late resets the gauge of a later scope that is alive, and until it ends
  the gauge may read 1 although no live scope is registered.  There is a run in which it goes
  wrong.

  That the gauge is in step (`InStep`) is an invariant, and an entry of the journal is the only
  thing that could break it.  There are three kinds of change.  Where the gauge is not touched and
  nobody registers for a scope that is alive, the old witness is the new one (`InStep.quiet`).
  Where it is reset, it reads 0, and nobody can have registered after the last entry
  (`inStep_reset`).  Where it is set, the task that sets it has just registered and is alive: it
  is itself the witness.

  The one entry that registers without setting the gauge is that of a call which ends after its
  scope was cancelled; its task stops then, so it is not alive.
-/
import LeaseKeeper.Proofs.Lifecycle.Stopping
import Mathlib.Data.List.Induction

namespace LeaseKeeper

namespace Journal

variable {j es : Journal} {k : Nat}

/-! ## The gauge of a journal -/

/-- The last setting counts: induction on what is added, from its end. -/
theorem gauge?_append (j es : Journal) :
    (j ++ es : Journal).gauge? = es.gauge?.or j.gauge? := by
  unfold gauge?
  rw [List.foldl_append]
  generalize List.foldl _ none j = before
  induction es using List.reverseRecOn with
  | nil => rfl
  | append_singleton es e ih =>
    rw [List.foldl_append, List.foldl_append]
    cases e with
    | gauged b => rfl
    | _ => exact ih

theorem gauge?_concat (j : Journal) (b : Bool) : (j ++ [.gauged b] : Journal).gauge? = some b :=
  gauge?_append j [.gauged b]

/-- Where nothing is set, nothing is read. -/
theorem gauge?_eq_none (h : ∀ b, .gauged b ∉ es) : es.gauge? = none := by
  induction es with
  | nil => rfl
  | cons e es ih =>
    have hrest := ih fun b hb => h b (List.mem_cons_of_mem _ hb)
    refine (gauge?_append [e] es).trans ?_
    rw [hrest, Option.none_or]
    cases e with
    | gauged b => exact absurd (List.mem_cons_self ..) (h b)
    | _ => rfl

/-- **Scope number `k` has registered**, and the gauge was not reset since. -/
def RegisteredSinceReset (j : Journal) (k : Nat) : Prop :=
  ∃ p q t n i, j = p ++ .answered t n k .register i true :: q ∧ .gauged false ∉ q

/-- The registration stands in the new part, or in the old one and the new part does not reset
    the gauge. -/
theorem registeredSinceReset_append :
    (j ++ es : Journal).RegisteredSinceReset k ↔
      es.RegisteredSinceReset k ∨ (j.RegisteredSinceReset k ∧ .gauged false ∉ es) := by
  constructor
  · rintro ⟨p, q, t, n, i, hsplit, hq⟩
    rcases List.append_eq_append_iff.1 hsplit with ⟨a, -, hes⟩ | ⟨a, hj, hrest⟩
    · -- The registration stands in the new part.
      exact .inl ⟨a, q, t, n, i, hes, hq⟩
    · -- It stands in the old part, or the split falls between the two.
      cases a with
      | nil => exact .inl ⟨[], q, t, n, i, hrest.symm, hq⟩
      | cons e a =>
        obtain ⟨rfl, rfl⟩ := List.cons.inj hrest
        exact .inr ⟨⟨p, a, t, n, i, hj, fun h => hq (List.mem_append_left _ h)⟩,
          fun h => hq (List.mem_append_right _ h)⟩
  · rintro (⟨p, q, t, n, i, rfl, hq⟩ | ⟨⟨p, q, t, n, i, rfl, hq⟩, hes⟩)
    · exact ⟨j ++ p, q, t, n, i, by rw [List.append_assoc], hq⟩
    · refine ⟨p, q ++ es, t, n, i, by rw [List.append_assoc, List.cons_append], ?_⟩
      exact fun h => (List.mem_append.1 h).elim hq hes

/-- Where the gauge was just reset, nobody has registered since. -/
theorem not_registeredSinceReset_concat :
    ¬ (j ++ [.gauged false] : Journal).RegisteredSinceReset k := by
  rintro hsince
  rcases registeredSinceReset_append.1 hsince with ⟨p, q, t, n, i, hsplit, -⟩ | ⟨-, hnot⟩
  · rcases p with _ | ⟨e, p⟩
    · cases hsplit
    · cases p <;> cases hsplit
  · exact hnot (List.mem_singleton.2 rfl)

/-- Who has registered since the last reset has registered. -/
theorem RegisteredSinceReset.registered (h : es.RegisteredSinceReset k) :
    ∃ t n i, .answered t n k .register i true ∈ es := by
  obtain ⟨p, q, t, n, i, rfl, -⟩ := h
  exact ⟨t, n, i, List.mem_append_right _ (List.mem_cons_self ..)⟩

end Journal

namespace Keeper

/-! ## Every change keeps the gauge in step -/

/-- Whether the task of scope number `k` is alive. -/
def aliveAt (s : Keeper) (k : Nat) : Bool := s.scopes[k]?.any Scope.isAlive

/-- **The gauge is in step** with the tasks: it reads 1 exactly if one of them
    is alive that has registered since the last reset. -/
def InStep (s : Keeper) : Prop :=
  s.journal.gauge? = some true ↔ ∃ k, s.aliveAt k = true ∧ s.journal.RegisteredSinceReset k

section

variable {s s' : Keeper} {es : Journal}

/-- Where nobody touches the gauge, and whoever registers is not alive for it: the scope that
    kept the gauge at 1 still does, and no new one could. -/
theorem InStep.quiet (h : s.InStep) (halive : ∀ k, s'.aliveAt k = s.aliveAt k)
    (hj : s'.journal = s.journal ++ es) (hes : ∀ b, .gauged b ∉ es)
    (hnew : ∀ t n k i, .answered t n k .register i true ∈ es → s'.aliveAt k = false) :
    s'.InStep := by
  unfold InStep
  rw [hj, Journal.gauge?_append, Journal.gauge?_eq_none hes, Option.none_or]
  refine h.trans ⟨?_, ?_⟩
  · rintro ⟨k, hk, hsince⟩
    exact ⟨k, (halive k).trans hk, Journal.registeredSinceReset_append.2 (.inr ⟨hsince, hes false⟩)⟩
  · rintro ⟨k, hk, hsince⟩
    rcases Journal.registeredSinceReset_append.1 hsince with hsince | ⟨hsince, -⟩
    -- A new registration would be one of a scope that is not alive.
    · obtain ⟨t, n, i, hmem⟩ := hsince.registered
      rw [hnew t n k i hmem] at hk
      cases hk
    · exact ⟨k, (halive k).symm.trans hk, hsince⟩

/-- Where the gauge is reset, as the last thing that happens. -/
theorem inStep_reset (es : Journal) (hj : s'.journal = s.journal ++ es ++ [.gauged false]) :
    s'.InStep := by
  unfold InStep
  rw [hj, Journal.gauge?_concat]
  exact ⟨nofun, fun ⟨_, _, hsince⟩ => absurd hsince Journal.not_registeredSinceReset_concat⟩

/-- Where only the scopes that are alive matter, and they stay so. -/
theorem InStep.congr (h : s.InStep) (hscopes : s'.scopes = s.scopes)
    (hj : s'.journal = s.journal ++ es) (hes : es.Silent) (hquiet : ∀ b, .gauged b ∉ es) :
    s'.InStep := by
  refine h.quiet (fun k => by rw [aliveAt, aliveAt, hscopes]) hj hquiet ?_
  intro t n k i hmem
  cases hes _ hmem

/-- Replacing a scope changes whether it is alive, and no other. -/
theorem aliveAt_set {k : Nat} {c c' : Scope} (hc : s.scopes[k]? = some c)
    (hscopes : s'.scopes = s.scopes.set k c') (j : Nat) :
    s'.aliveAt j = if j = k then c'.isAlive else s.aliveAt j := by
  rw [aliveAt, hscopes]
  split
  · rename_i hjk
    rw [hjk, List.getElem?_set_self (List.getElem?_eq_some_iff.1 hc).1]
    rfl
  · rename_i hjk
    rw [List.getElem?_set_ne (Ne.symm hjk)]
    rfl

/-- A scope goes on as alive as it was. -/
theorem InStep.same (h : s.InStep) {k : Nat} {c c' : Scope} (hc : s.scopes[k]? = some c)
    (hscopes : s'.scopes = s.scopes.set k c') (halive : c'.isAlive = c.isAlive)
    (hj : s'.journal = s.journal ++ es) (hes : ∀ b, .gauged b ∉ es)
    (hnew : ∀ t n j i, .answered t n j .register i true ∈ es → j = k ∧ c'.isAlive = false) :
    s'.InStep := by
  refine h.quiet (fun j => ?_) hj hes fun t n j i hmem => ?_
  · rw [aliveAt_set hc hscopes]
    split
    · rename_i hjk
      rw [hjk, halive, aliveAt, hc]
      rfl
    · rfl
  · obtain ⟨rfl, hdead⟩ := hnew t n j i hmem
    rw [aliveAt_set hc hscopes, if_pos rfl, hdead]

/-- **What a task does** keeps the gauge in step: it sets it as it comes to be alive, and resets
    it as it ceases to be.  A call that starts, a registration that fails and a sign of life that
    succeeds leave the gauge alone, and the task as alive as it was. -/
theorem InStep.task (h : s.InStep) {k : Nat} {c c' : Scope} {r r' : Registrar}
    (hc : s.scopes[k]? = some c) (hd : TaskDeed s.now k c r c' r' es) :
    (s.put k ⟨c', r', es⟩).InStep := by
  -- a task that stops resets the gauge if it was alive
  have hstop : ∀ (before : Journal) {u : Keeper},
      u.scopes = s.scopes.set k { c with task := .stopped } →
      u.journal = s.journal ++ (before ++ c.gaugeReset) → (∀ b, .gauged b ∉ before) →
      (∀ t n j i, .answered t n j .register i true ∈ before → j = k) → u.InStep := by
    intro before u hscopes hj hbefore hnew
    cases hlive : c.isAlive with
    | true =>
      rw [Scope.gaugeReset, if_pos hlive, ← List.append_assoc] at hj
      exact inStep_reset _ hj
    | false =>
      rw [Scope.gaugeReset, if_neg (Bool.eq_false_iff.1 hlive), List.append_nil] at hj
      exact h.same hc hscopes hlive.symm hj hbefore
        fun t n j i hmem => ⟨hnew t n j i hmem, rfl⟩
  cases hd with
  | stopped => exact hstop [] rfl rfl nofun nofun
  | @started due call hwait =>
    -- A task is as alive while it calls as while it waits for that call.
    refine h.same hc rfl ?_ rfl ?_ ?_
    · simp only [Scope.isAlive, hwait]
    · simp
    · simp
  | @discarded due call failure =>
    -- A registration may be among what was discarded, but the task has stopped.
    refine hstop [.answered s.now c.owner k call.call c.identity failure.isNone] rfl rfl
      (by simp) fun t n j i hmem => ?_
    obtain ⟨-, -, rfl, -⟩ := JournalEntry.answered.inj (List.mem_singleton.1 hmem)
    rfl
  | @concluded due call failure hcall hx =>
    cases call with
    | register =>
      cases failure with
      | none =>
        -- it has registered, and sets the gauge
        refine iff_of_true ((congrArg Journal.gauge? (List.append_assoc s.journal
          [_, _, _] [.gauged true]).symm).trans (Journal.gauge?_concat _ true)) ⟨k, ?_, ?_⟩
        · rw [aliveAt_set hc rfl, if_pos rfl]
          rfl
        · exact Journal.registeredSinceReset_append.2
            (.inl ⟨[], _, _, _, _, rfl, by simp [TaskCall.remarks]⟩)
      | some reason =>
        -- It was not alive and is not now.
        refine h.same hc rfl ?_ rfl ?_ ?_
        · simp [Scope.isAlive, hcall, TaskCall.following]
        · simp [TaskCall.remarks]
        · simp [TaskCall.remarks]
    | heartbeat =>
      cases failure with
      | none =>
        -- It was alive and stays so.
        refine h.same hc rfl ?_ rfl ?_ ?_
        · simp [Scope.isAlive, hcall, TaskCall.following]
        · simp [TaskCall.remarks]
        · simp [TaskCall.remarks, TaskCall.call]
      | some reason =>
        -- It says that it is no longer alive.
        exact inStep_reset [_, _, _] (List.append_assoc s.journal [_, _, _] _).symm

/-- A watcher leaves the gauge alone, and the task. -/
theorem InStep.watcher (h : s.InStep) {k : Nat} {found : Reception} {c c' : Scope}
    {r r' : Registrar} (hc : s.scopes[k]? = some c)
    (hd : WatcherDeed s.now k found c r c' r' es) : (s.put k ⟨c', r', es⟩).InStep := by
  have halive : c'.isAlive = c.isAlive := by
    unfold Scope.isAlive
    rw [hd.task_eq]
  refine h.same hc rfl halive rfl ?_ ?_
  · intro b hmem
    cases hd with
    | signalled => simp at hmem
    | began => simp at hmem
    | ended => simp at hmem
  · intro t n j i hmem
    cases hd with
    | signalled => simp at hmem
    | began => simp at hmem
    | ended => simp at hmem

/-- A scope that begins is not alive: its first call is a registration. -/
theorem InStep.began (h : s.InStep) (n : Nat) (r : Registrar) (i : Identity) :
    (s.beginScope n r i).InStep := by
  obtain ⟨line, hline⟩ := beginScope_eq s n r i
  have hscopes : (s.beginScope n r i).scopes = s.scopes ++ [s.newScope n r i] := by rw [hline]
  refine h.quiet (fun k => ?_) (by rw [hline]) (by simp) (by simp)
  rw [aliveAt, aliveAt, hscopes]
  rcases Nat.lt_trichotomy k s.scopes.length with hk | rfl | hk
  · rw [List.getElem?_append_left hk]
  · rw [List.getElem?_concat_length, List.getElem?_eq_none (Nat.le_refl _)]
    rfl
  · rw [List.getElem?_eq_none (Nat.le_of_lt hk), List.getElem?_eq_none]
    rw [List.length_append]
    exact hk

/-- **Every change keeps the gauge in step.**  Only tasks touch it, so what is left to see in all
    other changes is that nothing is written about it and that no task changes. -/
theorem InStep.change (h : s.InStep) (ho : s.Orderly) (hchange : Change s s') : s'.InStep := by
  cases hchange with
  | aside _ hscopes hj =>
    exact h.congr hscopes (by rw [hj, List.append_nil]) Journal.silent_nil nofun
  | logged line => exact h.congr rfl rfl (Journal.silent_nil.cons rfl) (by simp)
  | supplied => exact h.congr rfl (List.append_nil _).symm Journal.silent_nil nofun
  | refused => exact h.congr rfl rfl ((Journal.silent_nil.cons rfl).cons rfl) (by simp)
  | @began n r r' _ _ _ _ i => exact h.began n r' i
  | @ended n k r hr hk cause hx =>
    obtain ⟨c, hc, -⟩ := ho.current_newest (memory?_of hr) hk
    obtain ⟨line, hline⟩ := cancel_eq (s := s.setRegistrar n (r.ending cause)) hc cause
    -- Cancelling writes at most that the scope is cancelled.
    have hquiet : ∀ e ∈ c.cancellation s.now k cause, ∃ t n, e = .cancelled t n k cause := by
      intro e he
      unfold Scope.cancellation at he
      split at he
      · cases he
      · exact ⟨_, _, List.mem_singleton.1 he⟩
    rw [hline]
    refine h.same hc rfl rfl rfl ?_ ?_
    · intro b hmem
      obtain ⟨t, n, heq⟩ := hquiet _ hmem
      cases heq
    · intro t n j i hmem
      obtain ⟨t, n, heq⟩ := hquiet _ hmem
      cases heq
  | retired => exact h.congr rfl (List.append_nil _).symm Journal.silent_nil nofun
  | task hc _ hd => exact h.task hc hd
  | watcher hc _ hd => exact h.watcher hc hd

end

/-- **In every reachable state the gauge is in step**: at the beginning it reads nothing and
    there are no scopes. -/
theorem Reachable.inStep {s : Keeper} (h : s.Reachable) : s.InStep := by
  refine h.invariant InStep (fun _ => ?_) fun _ _ ho hs hchange => hs.change ho hchange
  exact iff_of_false nofun fun ⟨_, hk, _⟩ => by cases hk

/-! ## What the gauge reads -/

/-- **What the gauge reads.**  It reads 1 exactly if the task of a scope is alive and the gauge was not
    reset since that scope registered.  If it reads 1 where nobody is in line, then a live scope is
    alive, or a sign of life of a cancelled scope is still in flight. -/
theorem gauge_reads {s : Keeper} (h : s.Reachable) :
    (s.journal.gauge? = some true ↔ ∃ k c, s.scopes[k]? = some c ∧ c.isAlive = true ∧
      s.journal.RegisteredSinceReset k) ∧
    (s.ready = [] → s.journal.gauge? = some true → ∃ (k : Nat) (c : Scope),
      s.scopes[k]? = some c ∧ c.isAlive = true ∧ (c.isCancelled = false ∨
        ∃ due failure, c.task = .calling due .heartbeat failure)) := by
  have hiff : s.journal.gauge? = some true ↔ ∃ k c, s.scopes[k]? = some c ∧ c.isAlive = true ∧
      s.journal.RegisteredSinceReset k := by
    refine h.inStep.trans ⟨?_, ?_⟩
    · rintro ⟨k, hk, hsince⟩
      obtain ⟨c, hc, halive⟩ := Option.any_eq_true _ _ |>.1 hk
      exact ⟨k, c, hc, halive, hsince⟩
    · rintro ⟨k, c, hc, halive, hsince⟩
      exact ⟨k, by rw [aliveAt, hc]; exact halive, hsince⟩
  -- A cancelled scope that is alive has not been told yet; as nobody is in line, its task waits for
  -- the end of a call.
  refine ⟨hiff, fun hready hgauge => ?_⟩
  obtain ⟨k, c, hc, halive, -⟩ := hiff.1 hgauge
  refine ⟨k, c, hc, halive, ?_⟩
  cases hx : c.isCancelled with
  | false => exact .inl rfl
  | true =>
    right
    cases htask : c.task with
    | waiting due call =>
      -- it would be in line
      have hmem := h.attentive k c hc hx ((Scope.taskIsWaiting_iff c).2 ⟨due, call, htask⟩)
      rw [hready] at hmem
      cases hmem
    | calling due call failure =>
      cases call with
      | register =>
        rw [Scope.isAlive, htask] at halive
        cases halive
      | heartbeat => exact ⟨due, failure, rfl⟩
    | stopped =>
      rw [Scope.isAlive, htask] at halive
      cases halive

/-- A registrar that is disabled while a sign of life is in flight, and enabled again. -/
def overtakingRun : Keeper :=
  ((((alone { heartbeat := { queued := [{ latency := ⟨100⟩ }] }, interval := ⟨100⟩ }).enable 0).sleep
    ⟨115⟩).disable 0).enable 0

theorem overtakingRun_reachable : overtakingRun.Reachable :=
  ((((alone_reachable _).enable 0).sleep ⟨115⟩).disable 0).enable 0

/-- When the second scope has registered, the gauge reads 1. -/
theorem overtakingRun_reads : (overtakingRun.sleep ⟨45⟩).Reachable ∧
    ∃ (k : Nat) (c : Scope), (overtakingRun.sleep ⟨45⟩).scopes[k]? = some c ∧ c.isAlive = true ∧
      (overtakingRun.sleep ⟨45⟩).journal.RegisteredSinceReset k := by
  have hs : (overtakingRun.sleep ⟨45⟩).Reachable := overtakingRun_reachable.sleep ⟨45⟩
  have hgauge : (overtakingRun.sleep ⟨45⟩).journal.gauge? = some true := by decide +kernel
  exact ⟨hs, (gauge_reads hs).1.1 hgauge⟩

/-- **The gauge does not always tell the truth**, not even of one registrar: when the sign of life of
    the first scope has ended, the gauge does not read 1 though the second scope is live and alive. -/
theorem gauge_not_always_true : ¬ ∀ s : Keeper, s.Reachable → s.registrars.length = 1 →
    s.ready = [] → (s.journal.gauge? = some true ↔ ∃ (k : Nat) (c : Scope),
      s.scopes[k]? = some c ∧ c.isCancelled = false ∧ c.isAlive = true) := by
  intro htrue
  have hs : (overtakingRun.sleep ⟨135⟩).Reachable := overtakingRun_reachable.sleep ⟨135⟩
  have hone : (overtakingRun.sleep ⟨135⟩).registrars.length = 1 := by decide +kernel
  have hready : (overtakingRun.sleep ⟨135⟩).ready = [] := by decide +kernel
  have hgauge : (overtakingRun.sleep ⟨135⟩).journal.gauge? = some false := by decide +kernel
  have hscope : (overtakingRun.sleep ⟨135⟩).scopes[1]?.map (fun c => (c.isCancelled, c.isAlive)) =
      some (false, true) := by
    decide +kernel
  obtain ⟨c, hc, hpair⟩ := Option.map_eq_some_iff.1 hscope
  obtain ⟨hx, halive⟩ := Prod.mk.inj hpair
  have hreads := (htrue _ hs hone hready).2 ⟨1, c, hc, hx, halive⟩
  rw [hgauge] at hreads
  cases hreads

end Keeper

end LeaseKeeper

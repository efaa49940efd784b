/-
  Everything that happens is recorded.

  Here `Scope.Recorded` and `Journal.Lawful` are proved of every deed of a worker, of a
  cancellation from outside and of the beginning of a scope, and then of every change
  (`Documented.change`).  So in every reachable state the journal fits the scopes
  (`Reachable.documented`).

  A deed writes about its own scope only, and what it writes adds up to how far it takes the
  scope; everything else in a report is a remark about no scope, which changes no count.  So does
  what closes a scope (`Scope.closing`): it says of the scope that it is released, and counts for
  nothing.

    1. REMARKS are about no scope (`Journal.Silent`), so they are counted nowhere and need no
       warrant.
    2. A DEED is taken case by case: the counts before it are known from the scope before it, the
       new entries are few, and the sums are the counts that the scope after it should have
       (`TaskDeed.recorded`, `WatcherDeed.recorded`).
    3. ITS ENTRIES ARE WARRANTED by the same counts: a call that ends is one that was in flight,
       because the scope says so, and a deregistration starts once, because the watcher was
       watching until then (`TaskDeed.lawful`, `WatcherDeed.lawful`).
    4. OTHER SCOPES do not notice (`Journal.About`), so what was recorded of them stays recorded.

  The two invariants need each other: without the counts no entry would be known to be warranted,
  and without the warrants the counts would not be known to be those of one call after the other.
-/
import LeaseKeeper.Proofs.Lifecycle.History

namespace LeaseKeeper

/-! ## Remarks -/

namespace Scope

/-- Resetting the gauge is about no scope. -/
theorem gaugeReset_silent (c : Scope) : c.gaugeReset.Silent := by
  unfold gaugeReset
  split
  · exact Journal.silent_nil.cons rfl
  · exact Journal.silent_nil

end Scope

/-- Neither is what a task remarks on a result, whatever the result is. -/
theorem TaskCall.remarks_silent (call : TaskCall) (failure : Option String) (i : Identity)
    (r : Registrar) : (call.remarks failure i r).Silent := by
  cases call with
  | register =>
    cases failure with
    | none => exact (Journal.silent_nil.cons rfl).cons rfl
    | some reason => exact Journal.silent_nil.cons rfl
  | heartbeat =>
    cases failure with
    | none => exact Journal.silent_nil
    | some reason => exact (Journal.silent_nil.cons rfl).cons rfl

namespace Scope

variable (c : Scope) (now index : Nat) (failure : Option String) (signalled : Bool)

/-- What closes a scope says of this scope that it is released, and is else about none.  The
    result of the call is not part of it; that entry is about the scope and stands before. -/
theorem scope?_of_closing {e : JournalEntry} (he : e ∈ c.closing now index failure signalled) :
    e = .released now c.owner index ∨ e.scope? = none := by
  rcases mem_closing.1 he with rfl | rfl | rfl | ⟨-, rfl⟩
  · exact .inr rfl
  · exact .inr rfl
  · exact .inl rfl
  · exact .inr rfl

/-- It cancels no scope. -/
theorem closing_cancellations (k : Nat) :
    (c.closing now index failure signalled).cancellations k = 0 := by
  cases signalled <;> rfl

/-- It starts no call. -/
theorem closing_starts (k : Nat) (call : RegistryCall) :
    (c.closing now index failure signalled).starts k call = 0 := by
  cases signalled <;> rfl

/-- It ends no call. -/
theorem closing_ends (k : Nat) (call : RegistryCall) :
    (c.closing now index failure signalled).ends k call = 0 := by
  cases signalled <;> rfl

end Scope

/-! ## Deeds are recorded, and warranted -/

section

variable {now k : Nat} {found : Reception} {c c' : Scope} {r r' : Registrar} {j es tail : Journal}

/-- **What a task does is recorded.**  There are six things to see of each deed: its entries name
    the scope as it is, and the counts of cancellations, of deregistrations started and ended,
    and of calls in flight come out right; and a task is alive only after a registration. -/
theorem TaskDeed.recorded (h : TaskDeed now k c r c' r' es) (hc : c.Recorded k j) :
    c'.Recorded k (j ++ es) := by
  cases h with
  | stopped hwait hx =>
    -- the gauge may be reset, and that is all
    have hs := c.gaugeReset_silent
    refine hc.extend ⟨rfl, rfl, rfl⟩ (fun e he hk => absurd hk (hs.ne k e he)) ?_ ?_ ?_ ?_ nofun
    · rw [hs.cancellations, Nat.add_zero]
    · rw [hs.starts, Nat.add_zero]
      rfl
    · rw [hs.ends, Nat.add_zero]
      rfl
    · intro call
      simp [hs.starts, hs.ends, Scope.callsInFlight, hwait]
  | @started due call hwait hx hd =>
    -- one call more has started, and it is in flight now
    refine hc.extend ⟨rfl, rfl, rfl⟩ ?_ ?_ ?_ ?_ ?_ ?_
    · intro e he _
      rw [List.mem_singleton.1 he]
      exact ⟨rfl, rfl⟩
    · simp
    · cases call <;> simp [TaskCall.call, Scope.deregistrations]
    · simp [Scope.deregistered]
    · intro call'
      cases call <;> cases call' <;> simp [TaskCall.call, Scope.callsInFlight, hwait]
    · intro hlive
      left
      simpa [Scope.isAlive, hwait] using hlive
  | @discarded due call failure hcall hx hd =>
    -- a call that was in flight has ended, and the gauge may be reset
    have hs := c.gaugeReset_silent
    refine hc.extend ⟨rfl, rfl, rfl⟩ ?_ ?_ ?_ ?_ ?_ nofun
    · intro e he hk
      rcases List.mem_cons.1 he with rfl | he
      · exact ⟨rfl, rfl⟩
      · exact absurd hk (hs.ne k e he)
    · simp [hs.cancellations]
    · simp [hs.starts, Scope.deregistrations]
    · cases call <;> simp [hs.ends, TaskCall.call, Scope.deregistered]
    · intro call'
      cases call <;> cases call' <;>
        simp [hs.starts, hs.ends, TaskCall.call, Scope.callsInFlight, hcall]
  | @concluded due call failure hcall hx hd =>
    -- everything after the answer is a remark
    have hs := (call.remarks_silent failure c.identity (r.afterAnswer call.call failure)).cons
      (show (JournalEntry.counted call.call failure.isNone).scope? = none from rfl)
    refine hc.extend ⟨rfl, rfl, rfl⟩ ?_ ?_ ?_ ?_ ?_ ?_
    · intro e he hk
      rcases List.mem_cons.1 he with rfl | he
      · exact ⟨rfl, rfl⟩
      · exact absurd hk (hs.ne k e he)
    · rw [Journal.cancellations_cons, hs.cancellations]
      simp
    · rw [Journal.starts_cons, hs.starts]
      simp [Scope.deregistrations]
    · rw [Journal.ends_cons, hs.ends]
      cases call <;> simp [TaskCall.call, Scope.deregistered]
    · intro call'
      rw [Journal.starts_cons, Journal.ends_cons, hs.starts, hs.ends]
      cases call <;> cases call' <;> simp [TaskCall.call, Scope.callsInFlight, hcall]
    · -- alive after a registration that succeeded just now, or as before
      intro hlive
      cases call with
      | heartbeat => exact .inl (by simp [Scope.isAlive, hcall])
      | register =>
        cases failure with
        | none => exact .inr ⟨now, List.mem_cons_self ..⟩
        | some reason => cases hlive

/-- **What a watcher does is recorded**: the same six things.  It changes nothing of the task, so
    the last of them is as before. -/
theorem WatcherDeed.recorded (h : WatcherDeed now k found c r c' r' es) (hc : c.Recorded k j) :
    c'.Recorded k (j ++ es) := by
  cases h with
  | signalled hwatch hx hf =>
    -- the scope is cancelled, and one deregistration has started
    refine hc.extend ⟨rfl, rfl, rfl⟩ ?_ ?_ ?_ ?_ ?_ .inl
    · intro e he _
      simp only [List.mem_cons, List.not_mem_nil, or_false] at he
      rcases he with rfl | rfl | rfl
      · trivial
      · rfl
      · exact ⟨rfl, rfl⟩
    · simp [hx]
    · simp [Scope.deregistrations, hwatch]
    · simp [Scope.deregistered, hwatch]
    · intro call
      cases call <;> simp [TaskCall.call, Scope.callsInFlight]
  | began hwatch hx =>
    -- one deregistration has started, as the scope was cancelled before
    refine hc.extend ⟨rfl, rfl, rfl⟩ ?_ ?_ ?_ ?_ ?_ .inl
    · intro e he _
      rw [List.mem_singleton.1 he]
      exact ⟨rfl, rfl⟩
    · simp
    · simp [Scope.deregistrations, hwatch]
    · simp [Scope.deregistered, hwatch]
    · intro call
      cases call <;> simp [TaskCall.call, Scope.callsInFlight]
  | @ended due failure signalled hder hd =>
    -- of what closes the scope nothing counts
    refine hc.extend ⟨rfl, rfl, rfl⟩ ?_ ?_ ?_ ?_ ?_ .inl
    · intro e he hk
      rcases List.mem_cons.1 he with rfl | he
      · exact ⟨rfl, rfl⟩
      · rcases c.scope?_of_closing now k failure signalled he with rfl | hnone
        · rfl
        · rw [hnone] at hk
          cases hk
    · rw [Journal.cancellations_cons, c.closing_cancellations]
      simp
    · rw [Journal.starts_cons, c.closing_starts]
      simp [Scope.deregistrations, hder]
    · rw [Journal.ends_cons, c.closing_ends]
      simp [Scope.deregistered, hder]
    · intro call
      rw [Journal.starts_cons, Journal.ends_cons, c.closing_starts, c.closing_ends]
      cases call <;> simp [TaskCall.call, Scope.callsInFlight]

/-- **A cancellation from outside is recorded**, unless the scope was cancelled before, when
    nothing happens. -/
theorem Scope.Recorded.cancelled_by (hc : c.Recorded k j) (cause : CancelCause) :
    ({ c with isCancelled := true } : Scope).Recorded k (j ++ c.cancellation now k cause) := by
  cases hx : c.isCancelled with
  | true =>
    have hself : ({ c with isCancelled := true } : Scope) = c := by rw [← hx]
    have hnone : c.cancellation now k cause = [] := if_pos hx
    rw [hself, hnone, List.append_nil]
    exact hc
  | false =>
    have hone : c.cancellation now k cause = [.cancelled now c.owner k cause] :=
      if_neg (Bool.eq_false_iff.1 hx)
    rw [hone]
    refine hc.extend ⟨rfl, rfl, rfl⟩ ?_ ?_ ?_ ?_ ?_ .inl
    · intro e he _
      rw [List.mem_singleton.1 he]
      rfl
    · simp [hx]
    · simp [Scope.deregistrations]
    · simp [Scope.deregistered]
    · intro call
      simp [Scope.callsInFlight]

/-- **What a task does is warranted.**  A call starts only if none is in flight and the scope is
    live, and one ends only if it was in flight; both are read off the counts of the scope. -/
theorem TaskDeed.lawful (h : TaskDeed now k c r c' r' es) (hc : c.Recorded k j) :
    Journal.LawfulFrom j es := by
  -- an answer ends the call that is in flight
  have hanswer : ∀ {due : Nat} {call : TaskCall} {failure : Option String},
      c.task = .calling due call failure →
      (JournalEntry.answered now c.owner k call.call c.identity failure.isNone).Warranted j := by
    intro due call failure hcall
    have hcalls := hc.calls call
    have hone : c.callsInFlight call = 1 := by simp [Scope.callsInFlight, hcall]
    exact ⟨hc.caller (by omega), show _ < _ by omega⟩
  cases h with
  | stopped => exact c.gaugeReset_silent.lawfulFrom j
  | @started due call hwait hx hd =>
    refine ⟨?_, trivial⟩
    -- the task waits, so none of its calls is in flight
    have hidle : ∀ call : TaskCall, ¬ j.InFlight k call.call := by
      intro call hflight
      have hcalls := hc.calls call
      have hzero : c.callsInFlight call = 0 := by simp [Scope.callsInFlight, hwait]
      have : j.ends k call.call < j.starts k call.call := hflight
      omega
    have hlive : j.cancellations k = 0 := by rw [hc.cancelled, hx]; rfl
    cases call <;> exact ⟨hc.began, hlive, hidle⟩
  | discarded hcall => exact ⟨hanswer hcall, c.gaugeReset_silent.lawfulFrom _⟩
  | concluded hcall =>
    exact ⟨hanswer hcall, ((TaskCall.remarks_silent _ _ _ _).cons rfl).lawfulFrom _⟩

/-- **What a watcher does is warranted.**  Whoever watches has not started a deregistration; and
    one that is in flight was started once, and has not ended. -/
theorem WatcherDeed.lawful (h : WatcherDeed now k found c r c' r' es) (hc : c.Recorded k j) :
    Journal.LawfulFrom j es := by
  have hnone : c.watcher = .watching → j.starts k .deregister = 0 := by
    intro hwatch
    rw [hc.deregisterStarts, Scope.deregistrations, if_pos hwatch]
  cases h with
  | @signalled signal hwatch hx hf =>
    -- the cancellation comes before the call that it gives warrant to
    obtain ⟨t, hbegan⟩ := hc.began
    have hlive : j.cancellations k = 0 := by rw [hc.cancelled, hx]; rfl
    refine ⟨trivial, ⟨⟨t, _, List.mem_append_left _ hbegan⟩, ?_⟩, ⟨⟨t, ?_⟩, ?_, ?_⟩, trivial⟩
    · rw [Journal.cancellations_append, hlive]
      rfl
    · exact List.mem_append_left _ (List.mem_append_left _ hbegan)
    · rw [Journal.cancellations_append]
      simp
    · rw [Journal.starts_append, Journal.starts_append, hnone hwatch]
      rfl
  | began hwatch hx =>
    have hcancelled : j.cancellations k ≠ 0 := by rw [hc.cancelled, hx]; exact Nat.one_ne_zero
    exact ⟨⟨hc.began, hcancelled, hnone hwatch⟩, trivial⟩
  | @ended due failure signalled hder hd =>
    -- then the result is told, and the release comes behind it
    have hstarts : j.starts k .deregister = 1 := by
      rw [hc.deregisterStarts, Scope.deregistrations, hder]
      rfl
    have hends : j.ends k .deregister = 0 := by
      rw [hc.deregisterEnds, Scope.deregistered, hder]
      rfl
    refine ⟨⟨hc.caller (by omega), show _ < _ by omega⟩, trivial, trivial, ?_, ?_⟩
    · -- the call has ended two entries before
      show Journal.ends _ k .deregister ≠ 0
      rw [Journal.ends_append, Journal.ends_append, Journal.ends_append]
      simp
    · -- the request to end the process is about no scope
      refine Journal.Silent.lawfulFrom ?_ _
      cases signalled with
      | true => exact Journal.silent_nil.cons rfl
      | false => exact Journal.silent_nil

/-- **A cancellation from outside is warranted**: the scope has begun, and was not cancelled
    before. -/
theorem Scope.Recorded.cancellation_lawful (hc : c.Recorded k j) (cause : CancelCause) :
    Journal.LawfulFrom j (c.cancellation now k cause) := by
  unfold Scope.cancellation
  split
  · trivial
  · rename_i hx
    have hlive : j.cancellations k = 0 := by rw [hc.cancelled, Bool.eq_false_iff.2 hx]; rfl
    exact ⟨⟨hc.began.imp fun t ht => ⟨_, ht⟩, hlive⟩, trivial⟩

/-! ### Deeds are about one scope -/

/-- Entries about one scope, or none: what is needed to leave all other scopes alone. -/
def Journal.About (es : Journal) (k : Nat) : Prop := ∀ e ∈ es, ∀ i, e.scope? = some i → i = k

/-- Remarks are about whatever scope one likes. -/
theorem Journal.Silent.about (h : es.Silent) (k : Nat) : es.About k := by
  intro e he i hi
  rw [h e he] at hi
  cases hi

theorem Journal.about_nil (k : Nat) : Journal.About [] k := Journal.silent_nil.about k

/-- One entry more about the scope. -/
theorem Journal.About.cons {e : JournalEntry} (h : es.About k) (he : e.scope? = some k) :
    Journal.About (e :: es) k := by
  intro e' he' i hi
  rcases List.mem_cons.1 he' with rfl | he'
  · exact Option.some.inj (hi.symm.trans he)
  · exact h e' he' i hi

/-- **A task writes about its scope.** -/
theorem TaskDeed.about (h : TaskDeed now k c r c' r' es) : es.About k := by
  cases h with
  | stopped => exact c.gaugeReset_silent.about k
  | started => exact (Journal.about_nil k).cons rfl
  | discarded => exact (c.gaugeReset_silent.about k).cons rfl
  | concluded => exact (((TaskCall.remarks_silent _ _ _ _).cons rfl).about k).cons rfl

/-- **A watcher writes about its scope.** -/
theorem WatcherDeed.about (h : WatcherDeed now k found c r c' r' es) : es.About k := by
  cases h with
  | signalled =>
    intro e he i hi
    rcases List.mem_cons.1 he with rfl | he
    · cases hi
    · exact (((Journal.about_nil k).cons rfl).cons rfl) e he i hi
  | began => exact (Journal.about_nil k).cons rfl
  | ended =>
    intro e he i hi
    rcases List.mem_cons.1 he with rfl | he
    · exact (Option.some.inj hi).symm
    · rcases c.scope?_of_closing now k _ _ he with rfl | hnone
      · exact (Option.some.inj hi).symm
      · rw [hnone] at hi
        cases hi

/-- Whoever cancels a scope writes about that scope. -/
theorem Scope.cancellation_about (c : Scope) (now k : Nat) (cause : CancelCause) :
    (c.cancellation now k cause).About k := by
  unfold Scope.cancellation
  split
  · exact Journal.about_nil k
  · exact (Journal.about_nil k).cons rfl

end

/-! ## Every change is documented -/

namespace Keeper

/-- **The journal of a keeper fits its scopes**: each scope is what the journal says of it, the
    journal is about no scope that is not there, and every entry of it was warranted. -/
structure Documented (s : Keeper) : Prop where
  recorded : ∀ {k : Nat} {c : Scope}, s.scopes[k]? = some c → c.Recorded k s.journal
  known : ∀ e ∈ s.journal, ∀ k, e.scope? = some k → k < s.scopes.length
  lawful : s.journal.Lawful

/-- The scope that an entry is about is there, and the entry names its owner and its identity. -/
theorem Documented.scope_of {s : Keeper} (hs : s.Documented) {e : JournalEntry} {k : Nat}
    (he : e ∈ s.journal) (hk : e.scope? = some k) :
    ∃ c, s.scopes[k]? = some c ∧ e.Names c.owner c.identity :=
  have hc := List.getElem?_eq_getElem (hs.known e he k hk)
  ⟨_, hc, (hs.recorded hc).names e he hk⟩

/-- The scope of which an entry tells that it began. -/
theorem Documented.of_began {s : Keeper} (hs : s.Documented) {t n k : Nat} {i : Identity}
    (h : .began t n k i ∈ s.journal) :
    ∃ c, s.scopes[k]? = some c ∧ c.owner = n ∧ c.identity = i := by
  obtain ⟨c, hc, rfl, rfl⟩ := hs.scope_of h rfl
  exact ⟨c, hc, rfl, rfl⟩

section

variable {s s' : Keeper} {k : Nat} {c c' : Scope} {es : Journal}

/-- Nothing has been written yet. -/
theorem documented_start (registrars : List Registrar) :
    Documented { registrars := registrars } :=
  ⟨nofun, fun _ he => absurd he List.not_mem_nil, trivial⟩

/-- Remarks about no scope may be made at any time. -/
theorem Documented.remark (hs : s.Documented) (es : Journal) (hes : es.Silent)
    (hscopes : s'.scopes = s.scopes) (hj : s'.journal = s.journal ++ es) : s'.Documented where
  recorded hc := by
    rw [hj]
    rw [hscopes] at hc
    exact (hs.recorded hc).other (hes.ne _)
  known e he i hi := by
    rw [hj] at he
    rw [hscopes]
    rcases List.mem_append.1 he with he | he
    · exact hs.known e he i hi
    · exact absurd hi (hes.ne i e he)
  lawful := by
    rw [hj]
    exact hs.lawful.append (hes.lawfulFrom _)

/-- **A scope goes on**, and everything that is written is about it.  Of the other scopes the
    same is said as before, since no new entry is about them. -/
theorem Documented.replace (hs : s.Documented) (hc : s.scopes[k]? = some c)
    (hscopes : s'.scopes = s.scopes.set k c') (hj : s'.journal = s.journal ++ es)
    (habout : es.About k) (hrecorded : c'.Recorded k (s.journal ++ es))
    (hlawful : Journal.LawfulFrom s.journal es) : s'.Documented where
  recorded {i a} ha := by
    rw [hj]
    rw [hscopes] at ha
    rcases getElem?_set_cases ha with ⟨rfl, rfl⟩ | ⟨hik, ha⟩
    · exact hrecorded
    · exact (hs.recorded ha).other fun e he hi => hik (habout e he i hi)
  known e he i hi := by
    rw [hscopes, List.length_set]
    rw [hj] at he
    rcases List.mem_append.1 he with he | he
    · exact hs.known e he i hi
    · rw [habout e he i hi]
      exact (List.getElem?_eq_some_iff.1 hc).1
  lawful := by
    rw [hj]
    exact hs.lawful.append hlawful

/-- A scope that has just begun is recorded: of its number nothing was known before, so all
    counts are zero, as they should be. -/
theorem recorded_begin (hs : s.Documented) (n : Nat) (r : Registrar) (i : Identity) :
    (s.newScope n r i).Recorded s.scopes.length (s.journal ++ [.began s.now n s.scopes.length i,
      .logged (.enabled i r.pacing.retryInterval)]) := by
  -- so far nothing was written about it
  have hunknown : ∀ e ∈ s.journal, e.scope? ≠ some s.scopes.length := by
    intro e he hk
    exact absurd (hs.known e he _ hk) (Nat.lt_irrefl _)
  refine ⟨?_, ⟨s.now, ?_⟩, ?_, ?_, ?_, ?_, nofun⟩
  · intro e he hk
    rcases List.mem_append.1 he with he | he
    · exact absurd hk (hunknown e he)
    · simp only [List.mem_cons, List.not_mem_nil, or_false] at he
      rcases he with rfl | rfl
      · exact ⟨rfl, rfl⟩
      · trivial
  · exact List.mem_append_right _ (List.mem_cons_self ..)
  · rw [Journal.cancellations_append, Journal.cancellations_eq_zero hunknown]
    rfl
  · rw [Journal.starts_append, Journal.starts_eq_zero hunknown]
    rfl
  · rw [Journal.ends_append, Journal.ends_eq_zero hunknown]
    rfl
  · intro call
    rw [Journal.starts_append, Journal.ends_append, Journal.starts_eq_zero hunknown,
      Journal.ends_eq_zero hunknown]
    rfl

/-- A scope begins where every earlier scope of its registrar is cancelled.  That is the warrant
    for the beginning; it holds because the registrar remembers no live scope. -/
theorem Documented.began (hs : s.Documented) (ho : s.Orderly) {n : Nat} {r r' : Registrar}
    (hr : s.registrars[n]? = some r) (hnone : r.current = none) (i : Identity) :
    (s.beginScope n r' i).Documented := by
  obtain ⟨line, hline⟩ := beginScope_eq s n r' i
  have hscopes : (s.beginScope n r' i).scopes = s.scopes ++ [s.newScope n r' i] := by rw [hline]
  have hj : (s.beginScope n r' i).journal = s.journal ++ [.began s.now n s.scopes.length i,
      .logged (.enabled i r'.pacing.retryInterval)] := by rw [hline]
  have hother : ∀ j ≠ s.scopes.length, ∀ e ∈ ([.began s.now n s.scopes.length i,
      .logged (.enabled i r'.pacing.retryInterval)] : Journal), e.scope? ≠ some j := by
    intro j hj e he
    simp only [List.mem_cons, List.not_mem_nil, or_false] at he
    rcases he with rfl | rfl
    · exact fun h => hj (Option.some.inj h).symm
    · nofun
  -- a scope that is not cancelled would be current, and there is none
  have hcancelled : ∀ t j l, .began t n j l ∈ s.journal → s.journal.cancellations j ≠ 0 := by
    intro t j l hb
    obtain ⟨a, ha, howner, -⟩ := hs.of_began hb
    rw [(hs.recorded ha).cancelled]
    cases hx : a.isCancelled with
    | true => exact Nat.one_ne_zero
    | false =>
      have hcurrent := (ho.live_newest ha (howner ▸ memory?_of hr) hx).1
      rw [show r.memory.current = none from hnone] at hcurrent
      cases hcurrent
  refine ⟨?_, ?_, ?_⟩
  · -- an earlier scope, or the new one
    intro k c hc
    rw [hscopes] at hc
    rw [hj]
    rcases getElem?_append_cases hc with ⟨hk, hc⟩ | ⟨rfl, rfl⟩
    · exact (hs.recorded hc).other (hother k (Nat.ne_of_lt hk))
    · exact recorded_begin hs n r' i
  · -- the journal is about scopes that are there
    intro e he k hk
    rw [hj] at he
    rw [hscopes, List.length_append]
    rcases List.mem_append.1 he with he | he
    · exact Nat.lt_succ_of_lt (hs.known e he k hk)
    · by_cases hlast : k = s.scopes.length
      · rw [hlast]
        exact Nat.lt_succ_self _
      · exact absurd hk (hother k hlast e he)
  · -- the beginning is warranted, and the remark behind it is about no scope
    rw [hj]
    exact hs.lawful.append ⟨⟨fun e he => hs.known e he, hcancelled⟩, trivial, trivial⟩

/-- **Every change is documented**: one case for each kind of change, by the lemmas above. -/
theorem Documented.change (hs : s.Documented) (ho : s.Orderly) (h : Change s s') :
    s'.Documented := by
  cases h with
  | aside _ hscopes hj =>
    exact hs.remark [] Journal.silent_nil hscopes (by rw [hj, List.append_nil])
  | logged line =>
    exact hs.remark [.logged line] (Journal.silent_nil.cons rfl) rfl rfl
  | supplied => exact hs.remark [] Journal.silent_nil rfl (List.append_nil _).symm
  | @refused n r r' hr hm e =>
    exact hs.remark [.logged (.enableFailed e), .exited n startupExitCode]
      ((Journal.silent_nil.cons rfl).cons rfl) rfl rfl
  | began hr _ _ hnone i => exact hs.began ho hr hnone i
  | @ended n k r hr hk cause hx =>
    obtain ⟨c, hc, -⟩ := ho.current_newest (memory?_of hr) hk
    obtain ⟨line, hline⟩ := cancel_eq (s := s.setRegistrar n (r.ending cause)) hc cause
    rw [hline]
    have hrec := hs.recorded hc
    exact hs.replace hc rfl rfl (c.cancellation_about s.now k cause) (hrec.cancelled_by cause)
      (hrec.cancellation_lawful cause)
  | retired => exact hs.remark [] Journal.silent_nil rfl (List.append_nil _).symm
  | task hc _ hd =>
    have hrec := hs.recorded hc
    exact hs.replace hc rfl rfl hd.about (hd.recorded hrec) (hd.lawful hrec)
  | watcher hc _ hd =>
    have hrec := hs.recorded hc
    exact hs.replace hc rfl rfl hd.about (hd.recorded hrec) (hd.lawful hrec)

end

/-- **Every reachable state is documented**: it holds at the start, and is kept by every change
    of an orderly keeper. -/
theorem Reachable.documented {s : Keeper} (h : s.Reachable) : s.Documented :=
  h.invariant Documented documented_start fun _ _ ho hs hc => hs.change ho hc

end Keeper

end LeaseKeeper

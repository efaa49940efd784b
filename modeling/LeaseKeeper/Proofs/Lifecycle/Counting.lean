/-
  What the counters count.

  Three pairs of counters are shared by all registrars and all scopes.  A task counts what a call
  brought only if its scope is not cancelled when the call ends; a watcher counts the result of
  its deregistration whatever has happened meanwhile.

  So the counters of registrations and signs of life say how many results were OBSERVED, which is
  read off the journal alone: an answer was observed if no cancellation of its scope stands before
  it.  The counters of deregistrations say how many of them have ended (`counters_account`).  The
  rest adds up: a call that was started is counted once, or was thrown away, or is in flight.

  What counts depends on what came before, so the journal is counted entry by entry with the
  entries before it (`Journal.tally`).  That a counter keeps up with what it should count is
  proved report by report, as `Journal.Balances`; that no call ends twice is taken from
  `Documented`, scope by scope, and summed up over the scopes.

  There are two kinds of statements here, and they are proved in two ways.  That a counter reads
  what it should is about the order of entries: a result and its count are written in one report,
  and whether the count is there depends on whether the scope was cancelled before.  That the
  numbers add up is about how many there are, and the order no longer matters: for each scope what
  was started has ended or is in flight, and every call is a call of some scope.
-/
import LeaseKeeper.Proofs.Lifecycle.Stopping
import Mathlib.Algebra.BigOperators.Fin

namespace LeaseKeeper

/-! ## Results, in time and late -/

namespace JournalEntry

/-- A call of a kind starts. -/
def isCall (call : RegistryCall) : JournalEntry → Bool
  | called _ _ _ call' _ => call' = call
  | _ => false

/-- A call of a kind ends. -/
def isAnswer (call : RegistryCall) : JournalEntry → Bool
  | answered _ _ _ call' _ _ => call' = call
  | _ => false

/-- A call of a kind ends with a result. -/
def isResult (call : RegistryCall) (success : Bool) : JournalEntry → Bool
  | answered _ _ _ call' _ success' => call' = call ∧ success' = success
  | _ => false

/-- An entry about a scope that was cancelled before. -/
def isLate (before : Journal) (e : JournalEntry) : Bool :=
  e.scope?.any fun k => before.cancellations k ≠ 0

/-- **A result that counts**: any result of a deregistration, and that of another call if it comes
    before the cancellation. -/
def countsFor (call : RegistryCall) (success : Bool) (before : Journal) (e : JournalEntry) : Bool :=
  e.isResult call success && (call == .deregister || !e.isLate before)

/-- An entry that is neither a result nor counts one. -/
def isPlain : JournalEntry → Bool
  | answered .. => false
  | counted .. => false
  | _ => true

end JournalEntry

namespace Journal

/-! ## Counting with the past in view -/

/-- How many entries have a property that depends on the entries before them. -/
def tally (p : Journal → JournalEntry → Bool) (before : Journal) : Journal → Nat
  | [] => 0
  | e :: rest => tally p (before ++ [e]) rest + if p before e then 1 else 0

section

variable {p q : Journal → JournalEntry → Bool}

/-- The second part is counted with the first one in its past. -/
theorem tally_append (before a b : Journal) :
    tally p before (a ++ b) = tally p before a + tally p (before ++ a) b := by
  induction a generalizing before with
  | nil => simp [tally]
  | cons e a ih =>
    have hrest := ih (before ++ [e])
    rw [List.append_assoc, List.singleton_append] at hrest
    rw [List.cons_append, tally, tally, hrest]
    omega

/-- Properties that agree count alike. -/
theorem tally_congr (h : ∀ before e, p before e = q before e) (before es : Journal) :
    tally p before es = tally q before es := by
  rw [show p = q from funext fun before => funext (h before)]

/-- Where the past does not matter. -/
theorem tally_const (r : JournalEntry → Bool) (before es : Journal) :
    tally (fun _ e => r e) before es = es.countP r := by
  induction es generalizing before with
  | nil => rfl
  | cons e es ih => rw [tally, ih, List.countP_cons]

/-- The past divides the entries of a kind in two: those that it lets count and those that it
    does not. -/
theorem tally_divide (r : JournalEntry → Bool) (before es : Journal) :
    tally (fun past e => r e && p past e) before es +
      tally (fun past e => r e && !p past e) before es = es.countP r := by
  induction es generalizing before with
  | nil => rfl
  | cons e es ih =>
    have hrest := ih (before ++ [e])
    rw [tally, tally, List.countP_cons]
    cases r e <;> cases p before e <;> simp <;> omega

end

/-- How many calls of a kind were started. -/
def callCount (j : Journal) (call : RegistryCall) : Nat := j.countP (·.isCall call)

/-- How many calls of a kind ended with a result. -/
def results (j : Journal) (call : RegistryCall) (success : Bool) : Nat :=
  j.countP (·.isResult call success)

/-- **How many results were observed**: they came before their scope was cancelled. -/
def observed (j : Journal) (call : RegistryCall) (success : Bool) : Nat :=
  tally (fun before e => e.isResult call success && !e.isLate before) [] j

/-- **How many results were thrown away**: they came after their scope was cancelled. -/
def discarded (j : Journal) (call : RegistryCall) (success : Bool) : Nat :=
  tally (fun before e => e.isResult call success && e.isLate before) [] j

/-- A result was thrown away or observed. -/
theorem discarded_add_observed (j : Journal) (call : RegistryCall) (success : Bool) :
    j.discarded call success + j.observed call success = j.results call success :=
  tally_divide _ [] j

/-- A call ends with success or with a failure, and every end is one of the two. -/
theorem answers_eq (j : Journal) (call : RegistryCall) :
    j.countP (·.isAnswer call) = j.results call true + j.results call false := by
  have hone : ∀ e : JournalEntry, (if e.isAnswer call then 1 else 0) =
      (if e.isResult call true then 1 else 0) + if e.isResult call false then 1 else 0 := by
    intro e
    cases e with
    | answered _ _ _ call' _ success =>
      cases success <;> by_cases hcall : call' = call <;>
        simp [JournalEntry.isAnswer, JournalEntry.isResult, hcall]
    | _ => rfl
  induction j with
  | nil => rfl
  | cons e j ih =>
    have hsum := hone e
    rw [results, results] at ih ⊢
    rw [List.countP_cons, List.countP_cons, List.countP_cons]
    omega

/-! ## Counters among the metrics -/

/-- What a metric reads, or 0 if it was never touched. -/
def reading (j : Journal) (name : String) : Nat := (j.metrics.lookup name).getD 0

/-- Counters have different names. -/
theorem counterName_inj {call call' : RegistryCall} {success success' : Bool}
    (h : counterName call success = counterName call' success') :
    call = call' ∧ success = success' := by
  revert h
  cases call <;> cases call' <;> cases success <;> cases success' <;> decide +kernel

/-- No counter is called as the gauge is. -/
theorem counterName_ne_gauge (call : RegistryCall) (success : Bool) :
    counterName call success ≠ "registrar_registered" := by
  cases call <;> cases success <;> decide +kernel

/-- A counter is found under its own name, once it has gone up. -/
theorem lookup_counterReading (j : Journal) (call call' : RegistryCall) (success success' : Bool) :
    (j.counterReading call' success').lookup (counterName call success) =
      if call = call' ∧ success = success' ∧ j.counter call' success' ≠ 0 then
        some (j.counter call' success') else none := by
  unfold counterReading
  split
  · rename_i hzero
    simp [hzero]
  · rename_i n hn
    rw [List.lookup_cons]
    split
    · rename_i hname
      obtain ⟨rfl, rfl⟩ := counterName_inj (beq_iff_eq.1 hname)
      rw [if_pos ⟨rfl, rfl, hn⟩]
    · rename_i hname
      rw [if_neg, List.lookup_nil]
      rintro ⟨rfl, rfl, -⟩
      simp at hname

/-- **A metric reads what its counter has counted.**  Its name is one of six in a list, and only
    its own entry is found under it; a counter that never went up has no entry, and that reads as
    0. -/
theorem reading_counterName (j : Journal) (call : RegistryCall) (success : Bool) :
    j.reading (counterName call success) = j.counter call success := by
  have hcounters : List.lookup (counterName call success)
      ([RegistryCall.register, .heartbeat, .deregister].flatMap fun call =>
        [true, false].flatMap fun success => j.counterReading call success) =
      if j.counter call success ≠ 0 then some (j.counter call success) else none := by
    simp only [List.flatMap_cons, List.flatMap_nil, List.append_nil, List.lookup_append,
      lookup_counterReading]
    cases call <;> cases success <;> simp
  have hgauge : ∀ n : Nat, List.lookup (counterName call success)
      [("registrar_registered", n)] = none := by
    intro n
    rw [List.lookup_cons, beq_false_of_ne (counterName_ne_gauge call success)]
    rfl
  unfold reading metrics
  rw [List.lookup_append, hcounters]
  cases j.gauge? <;>
  · simp only [List.lookup_nil, hgauge, Option.or_none]
    split
    · rfl
    · rename_i hzero
      exact (not_ne_iff.1 hzero).symm

/-! ## Reports that keep the counters in balance -/

/-- **The counters go up by what counts.** -/
def Balances (before es : Journal) : Prop :=
  ∀ call success, es.counter call success =
    tally (fun past e => e.countsFor call success past) before es

section

variable {before es : Journal}

/-- Counters go up report by report. -/
theorem counter_append (a b : Journal) (call : RegistryCall) (success : Bool) :
    (a ++ b : Journal).counter call success = a.counter call success + b.counter call success :=
  List.countP_append

/-- So does the balance: the second report is judged with the first in its past. -/
theorem Balances.append {a b : Journal} (ha : Balances before a) (hb : Balances (before ++ a) b) :
    Balances before (a ++ b) := by
  intro call success
  rw [counter_append, tally_append, ha, hb]

/-- Where nothing is a result or counts one. -/
theorem balances_of_plain (h : ∀ e ∈ es, e.isPlain = true) (before : Journal) :
    Balances before es := by
  intro call success
  induction es generalizing before with
  | nil => rfl
  | cons e es ih =>
    have hrest := ih (fun e he => h e (List.mem_cons_of_mem _ he)) (before ++ [e])
    have hplain := h e (List.mem_cons_self ..)
    rw [counter] at hrest ⊢
    rw [List.countP_cons, tally, hrest]
    cases e with
    | answered => cases hplain
    | counted => cases hplain
    | _ => rfl

variable {t n k : Nat} {i : Identity}

/-- A result that counts is counted: the count in the same report has the same kind and the same
    result. -/
theorem balances_counted (call : RegistryCall) (success : Bool)
    (h : call = .deregister ∨ before.cancellations k = 0) :
    Balances before [.answered t n k call i success, .counted call success] := by
  intro call' success'
  have hcounts : (JournalEntry.answered t n k call i success).countsFor call' success' before =
      (JournalEntry.counted call success == .counted call' success') := by
    rw [Bool.eq_iff_iff, beq_iff_eq, JournalEntry.counted.injEq]
    simp only [JournalEntry.countsFor, JournalEntry.isResult, JournalEntry.isLate,
      JournalEntry.scope?, Option.any_some, Bool.and_eq_true, decide_eq_true_eq]
    refine ⟨And.left, ?_⟩
    rintro ⟨rfl, rfl⟩
    refine ⟨⟨rfl, rfl⟩, ?_⟩
    rcases h with rfl | h
    · rfl
    · simp [h]
  show _ = (0 + 0) + if (JournalEntry.answered ..).countsFor call' success' before then 1 else 0
  rw [hcounts, counter, List.countP_cons, List.countP_cons]
  rfl

/-- The result of a task's call that comes too late is not counted, and it does not count. -/
theorem balances_late (call : TaskCall) (success : Bool) (h : before.cancellations k ≠ 0) :
    Balances before [.answered t n k call.call i success] := by
  intro call' success'
  have hnot : (JournalEntry.answered t n k call.call i success).countsFor call' success' before =
      false := by
    cases call <;> cases call' <;> simp [JournalEntry.countsFor, JournalEntry.isResult,
      JournalEntry.isLate, JournalEntry.scope?, TaskCall.call, h]
  show _ = 0 + if (JournalEntry.answered ..).countsFor call' success' before then 1 else 0
  rw [hnot]
  rfl

end

end Journal

/-! ## Every report keeps the balance -/

theorem Scope.gaugeReset_plain (c : Scope) : ∀ e ∈ c.gaugeReset, e.isPlain = true := by
  unfold gaugeReset
  split <;> simp [JournalEntry.isPlain]

theorem TaskCall.remarks_plain (call : TaskCall) (failure : Option String) (i : Identity)
    (r : Registrar) : ∀ e ∈ call.remarks failure i r, e.isPlain = true := by
  cases call <;> cases failure <;> simp [remarks, JournalEntry.isPlain]

theorem Scope.cancellation_plain (c : Scope) (now k : Nat) (cause : CancelCause) :
    ∀ e ∈ c.cancellation now k cause, e.isPlain = true := by
  unfold cancellation
  split <;> simp [JournalEntry.isPlain]

section

variable {now k : Nat} {found : Reception} {c c' : Scope} {r r' : Registrar} {j es : Journal}

/-- **A task counts what it observes**, and nothing else.  Whether its scope is cancelled is the
    same as whether the journal says so. -/
theorem TaskDeed.balances (h : TaskDeed now k c r c' r' es) (hc : c.Recorded k j) :
    Journal.Balances j es := by
  cases h with
  | stopped => exact Journal.balances_of_plain c.gaugeReset_plain j
  | started => exact Journal.balances_of_plain (by simp [JournalEntry.isPlain]) j
  -- The call ended after the cancellation.
  | @discarded due call failure hcall hx =>
    have hlate : j.cancellations k ≠ 0 := by
      rw [hc.cancelled, hx]
      exact Nat.one_ne_zero
    exact (Journal.balances_late call failure.isNone hlate).append
      (Journal.balances_of_plain c.gaugeReset_plain _)
  | @concluded due call failure hcall hx =>
    -- The call ended in time.
    have hlive : j.cancellations k = 0 := by
      rw [hc.cancelled, hx]
      rfl
    exact (Journal.balances_counted call.call failure.isNone (.inr hlive)).append
      (Journal.balances_of_plain (call.remarks_plain failure _ _) _)

/-- **A watcher counts the result of its deregistration**, and this counts whenever it comes. -/
theorem WatcherDeed.balances (h : WatcherDeed now k found c r c' r' es) (j : Journal) :
    Journal.Balances j es := by
  cases h with
  | signalled => exact Journal.balances_of_plain (by simp [JournalEntry.isPlain]) j
  | began => exact Journal.balances_of_plain (by simp [JournalEntry.isPlain]) j
  | @ended due failure signalled =>
    refine (Journal.balances_counted .deregister failure.isNone (.inl rfl)).append
      (Journal.balances_of_plain ?_ _)
    cases signalled <;> simp [JournalEntry.isPlain]

end

namespace Keeper

section

variable {s s' : Keeper}

/-- **Every change keeps the balance.**  Only workers write results, so everything else is plain. -/
theorem Documented.balances (hs : s.Documented) (ho : s.Orderly) (h : Change s s') :
    ∃ es, s'.journal = s.journal ++ es ∧ Journal.Balances s.journal es := by
  have hplain : ∀ es : Journal, s'.journal = s.journal ++ es → (∀ e ∈ es, e.isPlain = true) →
      ∃ es, s'.journal = s.journal ++ es ∧ Journal.Balances s.journal es :=
    fun es hj hes => ⟨es, hj, Journal.balances_of_plain hes s.journal⟩
  cases h with
  | aside _ _ hj => exact hplain [] (by rw [hj, List.append_nil]) nofun
  | logged line => exact hplain [.logged line] rfl (by simp [JournalEntry.isPlain])
  | supplied => exact hplain [] (List.append_nil _).symm nofun
  | @refused n r r' hr hm e =>
    exact hplain [.logged (.enableFailed e), .exited n startupExitCode] rfl
      (by simp [JournalEntry.isPlain])
  | @began n r r' hr hm hd hnone i =>
    obtain ⟨line, hline⟩ := beginScope_eq s n r' i
    refine hplain [.began s.now n s.scopes.length i, .logged (.enabled i r'.pacing.retryInterval)]
      (by rw [hline]) (by simp [JournalEntry.isPlain])
  | @ended n k r hr hk cause hx =>
    obtain ⟨c, hc, -⟩ := ho.current_newest (memory?_of hr) hk
    obtain ⟨line, hline⟩ := cancel_eq (s := s.setRegistrar n (r.ending cause)) hc cause
    exact hplain (c.cancellation s.now k cause) (by rw [hline]; rfl)
      (c.cancellation_plain s.now k cause)
  | retired => exact hplain [] (List.append_nil _).symm nofun
  | task hc _ hd => exact ⟨_, rfl, hd.balances (hs.recorded hc)⟩
  | watcher hc _ hd => exact ⟨_, rfl, hd.balances s.journal⟩

end

/-- **In every reachable state the counters are in balance**: induction on the changes, together
    with what the journal says of the scopes. -/
theorem Reachable.balances {s : Keeper} (h : s.Reachable) : Journal.Balances [] s.journal := by
  refine (h.invariant (fun s => s.Documented ∧ Journal.Balances [] s.journal)
    (fun registrars => ⟨documented_start registrars, fun _ _ => rfl⟩) ?_).2
  rintro u v ho ⟨hs, hbalances⟩ hchange
  obtain ⟨es, hj, hes⟩ := hs.balances ho hchange
  rw [hj]
  exact ⟨hs.change ho hchange, hbalances.append hes⟩

end Keeper

/-! ## Summing up over the scopes -/

/-- Entries that are about scopes can be counted scope by scope: each is counted for one scope
    and no other. -/
theorem Journal.countP_eq_sum {j : Journal} {p : JournalEntry → Bool} {n : Nat}
    (h : ∀ e ∈ j, p e = true → ∃ k : Fin n, e.scope? = some k.val) :
    j.countP p = ∑ k : Fin n, j.countP fun e => p e && e.scope? == some k.val := by
  induction j with
  | nil => simp
  | cons e j ih =>
    have hrest := ih fun e he => h e (List.mem_cons_of_mem _ he)
    -- the first entry is counted for one scope if it is counted at all
    have hone : (if p e then 1 else 0) =
        ∑ k : Fin n, if (p e && e.scope? == some k.val) = true then 1 else 0 := by
      cases hp : p e with
      | false => simp
      | true =>
        obtain ⟨k, hk⟩ := h e (List.mem_cons_self ..) hp
        simp [hk, Fin.val_inj]
    simp only [List.countP_cons, Finset.sum_add_distrib]
    rw [hrest, hone]

namespace Keeper

/-- How many calls the tasks of all scopes have in flight. -/
def callsInFlight (s : Keeper) (call : TaskCall) : Nat :=
  (s.scopes.map (·.callsInFlight call)).sum

/-- How many deregistrations are in flight. -/
def deregistrationsInFlight (s : Keeper) : Nat :=
  s.scopes.countP fun c => c.watcher matches .deregistering ..

section

variable {s : Keeper}

/-- The calls of a kind that were started are those that were started for some scope. -/
theorem Documented.calls_eq (hs : s.Documented) (call : RegistryCall) :
    s.journal.callCount call = ∑ k : Fin s.scopes.length, s.journal.starts k call := by
  rw [Journal.callCount, Journal.countP_eq_sum (n := s.scopes.length)]
  · refine Finset.sum_congr rfl fun k _ => List.countP_congr fun e _ => ?_
    cases e <;> simp [JournalEntry.isCall, JournalEntry.scope?, and_comm]
  · intro e he hp
    cases e with
    | called t n k call' i => exact ⟨⟨k, hs.known _ he k rfl⟩, rfl⟩
    | _ => cases hp

/-- The calls of a kind that ended are those that ended for some scope. -/
theorem Documented.results_eq (hs : s.Documented) (call : RegistryCall) :
    s.journal.results call true + s.journal.results call false =
      ∑ k : Fin s.scopes.length, s.journal.ends k call := by
  rw [← Journal.answers_eq, Journal.countP_eq_sum (n := s.scopes.length)]
  · refine Finset.sum_congr rfl fun k _ => List.countP_congr fun e _ => ?_
    cases e <;> simp [JournalEntry.isAnswer, JournalEntry.scope?, and_comm]
  · intro e he hp
    cases e with
    | answered t n k call' i success => exact ⟨⟨k, hs.known _ he k rfl⟩, rfl⟩
    | _ => cases hp

/-- A scope by its number. -/
theorem Documented.recorded_fin (hs : s.Documented) (k : Fin s.scopes.length) :
    (s.scopes[k.val]).Recorded k s.journal :=
  hs.recorded (List.getElem?_eq_getElem k.isLt)

/-- **A call of a task** has ended or is in flight: so it is for each scope. -/
theorem Documented.calls_add (hs : s.Documented) (call : TaskCall) :
    s.journal.callCount call.call = s.journal.results call.call true +
      s.journal.results call.call false + s.callsInFlight call := by
  rw [hs.calls_eq, hs.results_eq, callsInFlight, ← Fin.sum_univ_fun_getElem,
    ← Finset.sum_add_distrib]
  exact Finset.sum_congr rfl fun k _ => (hs.recorded_fin k).calls call

/-- Scopes with a property, one by one. -/
theorem countP_scopes (scopes : List Scope) (p : Scope → Bool) :
    scopes.countP p = ∑ k : Fin scopes.length, if p scopes[k.val] then 1 else 0 := by
  rw [Fin.sum_univ_fun_getElem scopes fun c => if p c then 1 else 0]
  induction scopes with
  | nil => rfl
  | cons c scopes ih => rw [List.countP_cons, ih, List.map_cons, List.sum_cons, Nat.add_comm]

/-- **A deregistration** has ended or is in flight. -/
theorem Documented.deregistrations_add (hs : s.Documented) :
    s.journal.callCount .deregister = s.journal.results .deregister true +
      s.journal.results .deregister false + s.deregistrationsInFlight := by
  rw [hs.calls_eq, hs.results_eq, deregistrationsInFlight, countP_scopes,
    ← Finset.sum_add_distrib]
  refine Finset.sum_congr rfl fun k _ => ?_
  rw [(hs.recorded_fin k).deregisterStarts, (hs.recorded_fin k).deregisterEnds]
  unfold Scope.deregistrations Scope.deregistered
  cases (s.scopes[k.val]).watcher <;> rfl

/-- The deregistrations that ended are those of the watchers that are done, one for each. -/
theorem Documented.results_deregister (hs : s.Documented) :
    s.journal.results .deregister true + s.journal.results .deregister false =
      s.scopes.countP fun c => c.watcher = .finished := by
  rw [hs.results_eq, countP_scopes]
  refine Finset.sum_congr rfl fun k _ => ?_
  rw [(hs.recorded_fin k).deregisterEnds, Scope.deregistered]
  simp

/-- A watcher is done only after its scope was cancelled: its deregistration has ended, and it
    could not start before. -/
theorem Documented.cancelled_of_finished (hs : s.Documented) {k : Nat} {c : Scope}
    (hc : s.scopes[k]? = some c) (hfin : c.watcher = .finished) : c.isCancelled = true := by
  have hrec := hs.recorded hc
  have hends : s.journal.ends k .deregister ≠ 0 := by
    rw [hrec.deregisterEnds, Scope.deregistered, if_pos hfin]
    exact Nat.one_ne_zero
  obtain ⟨t, n, i, ok, hmem⟩ := Journal.exists_answered hends
  obtain ⟨p, q, hsplit⟩ := Journal.split_of_mem hmem
  have hbefore := Journal.Lawful.cancelled_before_answer (hsplit ▸ hs.lawful)
  have hone := hrec.cancelled
  rw [hsplit, Journal.cancellations_append] at hone
  cases hx : c.isCancelled with
  | true => rfl
  | false =>
    rw [hx, Bool.toNat_false] at hone
    omega

end

/-! ## What the counters count -/

/-- **The counters add up.**  Those of registrations and signs of life say how many results the tasks
    have observed before the cancellation of their scopes, and those of deregistrations how many have
    ended.  Every call that was started is counted once, or was thrown away after the cancellation, or
    is in flight; and there are at most as many results of deregistrations as cancelled scopes. -/
theorem counters_account {s : Keeper} (h : s.Reachable) :
    (∀ (call : TaskCall) (success : Bool),
      s.journal.reading (Journal.counterName call.call success) =
        s.journal.observed call.call success) ∧
    (∀ success : Bool, s.journal.reading (Journal.counterName .deregister success) =
      s.journal.results .deregister success) ∧
    (∀ call : TaskCall, s.journal.callCount call.call =
      s.journal.reading (Journal.counterName call.call true) +
        s.journal.reading (Journal.counterName call.call false) +
        s.journal.discarded call.call true + s.journal.discarded call.call false +
        s.callsInFlight call) ∧
    s.journal.callCount .deregister =
      s.journal.reading (Journal.counterName .deregister true) +
        s.journal.reading (Journal.counterName .deregister false) + s.deregistrationsInFlight ∧
    s.journal.reading (Journal.counterName .deregister true) +
        s.journal.reading (Journal.counterName .deregister false) ≤
      s.scopes.countP (·.isCancelled) := by
  have hs := h.documented
  have htask : ∀ (call : TaskCall) (success : Bool),
      s.journal.reading (Journal.counterName call.call success) =
        s.journal.observed call.call success := by
    intro call success
    rw [Journal.reading_counterName, h.balances]
    refine Journal.tally_congr (fun before e => ?_) [] s.journal
    cases call <;> rfl
  have hderegister : ∀ success : Bool,
      s.journal.reading (Journal.counterName .deregister success) =
        s.journal.results .deregister success := by
    intro success
    rw [Journal.reading_counterName, h.balances, Journal.results,
      ← Journal.tally_const _ [] s.journal]
    exact Journal.tally_congr (fun before e => Bool.and_true _) [] s.journal
  refine ⟨htask, hderegister, fun call => ?_, ?_, ?_⟩
  · -- Started is ended and in flight, and what has ended was observed or thrown away.
    have hcalls := hs.calls_add call
    have htrue := s.journal.discarded_add_observed call.call true
    have hfalse := s.journal.discarded_add_observed call.call false
    rw [htask, htask]
    omega
  · rw [hderegister, hderegister]
    exact hs.deregistrations_add
  · -- A watcher that is done has a cancelled scope.
    rw [hderegister, hderegister, hs.results_deregister]
    refine List.countP_mono_left fun c hc hfin => ?_
    obtain ⟨k, hk⟩ := List.mem_iff_getElem?.1 hc
    exact hs.cancelled_of_finished hk (of_decide_eq_true hfin)

/-- A registrar that is disabled while a sign of life is in flight, and enabled again.  Its first
    deregistration fails. -/
def lateAnswerRun : Keeper :=
  (((((alone
    { heartbeat := { queued := [{ latency := ⟨100⟩ }] }
      deregister := { queued := [{ failure := some "unavailable" }] }
      interval := ⟨100⟩ }).enable 0).sleep ⟨115⟩).disable 0).enable 0).sleep ⟨135⟩

theorem lateAnswerRun_reachable : lateAnswerRun.Reachable :=
  (((((alone_reachable _).enable 0).sleep ⟨115⟩).disable 0).enable 0).sleep ⟨135⟩

/-- The sign of life of the first scope was thrown away, that of the second was counted. -/
theorem lateAnswerRun_counters : lateAnswerRun.Reachable ∧
    lateAnswerRun.journal.reading (Journal.counterName .heartbeat true) = 1 ∧
    lateAnswerRun.journal.observed .heartbeat true = 1 ∧
    lateAnswerRun.journal.discarded .heartbeat true = 1 ∧
    lateAnswerRun.journal.callCount .heartbeat = 2 ∧
    lateAnswerRun.journal.reading (Journal.counterName .deregister false) = 1 := by
  obtain ⟨htask, hderegister, -⟩ := counters_account lateAnswerRun_reachable
  have hobserved : lateAnswerRun.journal.observed .heartbeat true = 1 := by decide +kernel
  have hdiscarded : lateAnswerRun.journal.discarded .heartbeat true = 1 := by decide +kernel
  have hcalls : lateAnswerRun.journal.callCount .heartbeat = 2 := by decide +kernel
  have hresults : lateAnswerRun.journal.results .deregister false = 1 := by decide +kernel
  exact ⟨lateAnswerRun_reachable, (htask .heartbeat true).trans hobserved, hobserved, hdiscarded,
    hcalls, (hderegister false).trans hresults⟩

end Keeper

end LeaseKeeper

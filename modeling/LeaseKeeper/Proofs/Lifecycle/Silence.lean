/-
  Silence after a cancellation.

  Once a scope is cancelled, no matter by whom, its task starts no call any more: not when its time
  comes at the very instant, and not when the registration that is in flight succeeds.  It ends at
  most that one call and then stops for good.  The order of turns does not matter.

  The proof follows the scope through the run (`Reaches.fate`).  What is kept is `Scope.Silenced`:
  the task is as it was at the cancellation and has ended nothing since, or it has stopped and has
  ended exactly what was in flight.  That it does stop, as soon as time has passed beyond the end of
  the call, is a fact about the line (`AboutToStop.settle`).

  So the calls of two scopes of one registrar never mix: a scope begins only when all earlier ones
  are cancelled (`Documented.calls_in_order`).
-/
import LeaseKeeper.Proofs.Lifecycle.Fate
import LeaseKeeper.Proofs.Lifecycle.Stopping

namespace LeaseKeeper

/-! ## The scope after its cancellation -/

/-- **A scope that was cancelled as `c`** has become `c'`, and `later` was written meanwhile. -/
structure Scope.Silenced (k : Nat) (c c' : Scope) (later : Journal) : Prop where
  cancelled : c'.isCancelled = true
  /-- No registration and no sign of life has started. -/
  starts : ∀ call : TaskCall, later.starts k call.call = 0
  /-- The task has done nothing, or it has stopped and has ended the call that was in flight. -/
  task : (c'.task = c.task ∧ ∀ call : TaskCall, later.ends k call.call = 0) ∨
    (c'.task = .stopped ∧ ∀ call : TaskCall, later.ends k call.call = c.callsInFlight call)

section

variable {now k : Nat} {found : Reception} {c c' c'' : Scope} {r r' : Registrar}
  {later es : Journal}

/-- A watcher makes no calls but deregistrations. -/
theorem WatcherDeed.quiet (h : WatcherDeed now k found c r c' r' es) (call : TaskCall) :
    es.starts k call.call = 0 ∧ es.ends k call.call = 0 := by
  cases h with
  | signalled => cases call <;> simp [TaskCall.call]
  | began => cases call <;> simp [TaskCall.call]
  | @ended due failure signalled =>
    rw [Journal.starts_cons, Journal.ends_cons, c.closing_starts, c.closing_ends]
    cases call <;> simp [TaskCall.call]

/-- Where nothing is written about the calls of a task, and the task does nothing, the silence goes
    on. -/
theorem Scope.Silenced.quiet (h : c.Silenced k c' later) (hx : c''.isCancelled = true)
    (htask : c''.task = c'.task)
    (hes : ∀ call : TaskCall, es.starts k call.call = 0 ∧ es.ends k call.call = 0) :
    c.Silenced k c'' (later ++ es) where
  cancelled := hx
  starts call := by rw [Journal.starts_append, h.starts, (hes call).1]
  task := by
    rw [htask]
    refine h.task.imp ?_ ?_
    · rintro ⟨hsame, hends⟩
      exact ⟨hsame, fun call => by rw [Journal.ends_append, hends, (hes call).2]⟩
    · rintro ⟨hstop, hends⟩
      exact ⟨hstop, fun call => by rw [Journal.ends_append, hends, (hes call).2, Nat.add_zero]⟩

/-- The task of a cancelled scope can only stop. -/
theorem Scope.Silenced.task_deed (h : c.Silenced k c' later)
    (hd : TaskDeed now k c' r c'' r' es) : c.Silenced k c'' (later ++ es) := by
  have hcancelled : c''.isCancelled = true := by
    rw [hd.scope_eq]
    exact h.cancelled
  have hreset := c'.gaugeReset_silent
  cases hd with
  | stopped hwait =>
    refine ⟨hcancelled, ?_, .inr ⟨rfl, ?_⟩⟩
    · intro call
      rw [Journal.starts_append, h.starts, hreset.starts]
    · intro call
      rcases h.task with ⟨hsame, hends⟩ | ⟨hstop, -⟩
      · have hnone : c.callsInFlight call = 0 := by
          simp only [Scope.callsInFlight, ← hsame, hwait]
        rw [Journal.ends_append, hends, hreset.ends, hnone]
      · rw [hwait] at hstop
        cases hstop
  | started _ hlive =>
    rw [h.cancelled] at hlive
    cases hlive
  | @discarded due call' failure hcall =>
    refine ⟨hcancelled, ?_, .inr ⟨rfl, ?_⟩⟩
    · intro call
      rw [Journal.starts_append, h.starts, Journal.starts_cons, hreset.starts]
      rfl
    · intro call
      rcases h.task with ⟨hsame, hends⟩ | ⟨hstop, -⟩
      · have hflight : c.callsInFlight call = if call' = call then 1 else 0 := by
          simp only [Scope.callsInFlight, ← hsame, hcall]
        rw [Journal.ends_append, hends, Journal.ends_cons, hreset.ends, hflight]
        cases call' <;> cases call <;> simp [TaskCall.call]
      · rw [hcall] at hstop
        cases hstop
  | concluded _ hlive =>
    rw [h.cancelled] at hlive
    cases hlive

/-- **Silence goes on**, whatever becomes of the scope. -/
theorem Scope.Silenced.fate (h : c.Silenced k c' later) (hf : c'.Fate now k c'' es) :
    c.Silenced k c'' (later ++ es) := by
  have hcancelled := hf.stays_cancelled h.cancelled
  cases hf with
  | untouched hes =>
    exact h.quiet hcancelled rfl fun call =>
      ⟨Journal.starts_eq_zero hes call.call, Journal.ends_eq_zero hes call.call⟩
  | cancelled cause =>
    have hnone : c'.cancellation now k cause = [] := if_pos h.cancelled
    rw [hnone]
    exact h.quiet hcancelled rfl fun _ => ⟨rfl, rfl⟩
  | task hd => exact h.task_deed hd
  | watcher hd => exact h.quiet hcancelled hd.task_eq hd.quiet

end

namespace Keeper

/-- **No call starts after the cancellation**, in any later state. -/
theorem Reaches.silenced {s t : Keeper} (h : Reaches s t) {k : Nat} {c : Scope}
    (hc : s.scopes[k]? = some c) (hx : c.isCancelled = true) :
    ∃ c' later, t.scopes[k]? = some c' ∧ t.journal = s.journal ++ later ∧
      c.Silenced k c' later :=
  h.fate hc (c.Silenced k) ⟨hx, fun _ => rfl, .inl ⟨rfl, fun _ => rfl⟩⟩
    fun _ _ _ _ _ hsilenced hfate => hsilenced.fate hfate

/-! ## The task stops -/

/-- **The task of a cancelled scope stops** when time has passed, beyond the end of the call that
    was in flight if there was one. -/
theorem Reaches.task_stops {s t : Keeper} (h : Reaches s t) (hs : s.Reachable) {k : Nat} {c : Scope}
    (hc : s.scopes[k]? = some c) (hx : c.isCancelled = true) {d : Duration} (hd : 0 < d.millis)
    (hdue : ∀ due call failure, c.task = .calling due call failure → due ≤ t.now + d.millis) :
    ∃ c', (t.sleep d).settle.scopes[k]? = some c' ∧ c'.task = .stopped := by
  obtain ⟨u, hu, -, hsleep⟩ := sleep_eq t hd
  -- before the clock moves for the last time, nobody is in line
  have hv : Reaches s u.settle := (h.trans hu).trans (reaches_settle u)
  obtain ⟨c', later, hc', -, hsilenced⟩ := hv.silenced hc hx
  have hready : u.settle.ready = [] := settle_ready u
  have hnotWaiting : c'.taskIsWaiting = true → False := by
    intro hwaiting
    have hmem := (hs.reaches hv).attentive k c' hc' hsilenced.cancelled hwaiting
    rw [hready] at hmem
    cases hmem
  obtain ⟨line, hline⟩ := advance_eq u.settle (t.now + d.millis)
  have hscope : (t.sleep d).scopes[k]? = some c' := by
    rw [hsleep, hline]
    exact hc'
  have hnow : (t.sleep d).now = t.now + d.millis := by
    rw [hsleep]
    exact advance_now _ _
  have ho : (t.sleep d).Orderly := ((hs.reaches h).sleep d).orderly
  refine AboutToStop.settle ho ⟨c', hscope, hsilenced.cancelled, ?_⟩
  cases htask : c'.task with
  | waiting due call =>
    exact absurd ((Scope.taskIsWaiting_iff c').2 ⟨due, call, htask⟩) hnotWaiting
  | stopped => exact .inl rfl
  | calling due call failure =>
    right
    have hsame : c.task = .calling due call failure := by
      rcases hsilenced.task with ⟨hsame, -⟩ | ⟨hstop, -⟩
      · rw [← hsame, htask]
      · rw [htask] at hstop
        cases hstop
    have hle : due ≤ t.now + d.millis := hdue due call failure hsame
    constructor
    · rw [hnow, TaskPhase.ended, if_neg (Nat.not_lt.2 hle)]
    · rw [hsleep]
      exact mem_advance hc' (by rw [Scope.taskDue?, htask]) hle

/-! ## The calls of two scopes do not mix -/

/-- A scope was cancelled when a later one of its registrar began. -/
theorem Documented.cancelled_before {s : Keeper} (hs : s.Documented) {p q : Journal}
    {t t' n i j : Nat} {l l' : Identity} (hsplit : s.journal = p ++ .began t n j l :: q)
    (hij : i < j) (hbegan : .began t' n i l' ∈ s.journal) : p.cancellations i ≠ 0 := by
  have hlawful := hs.lawful
  rw [hsplit] at hlawful hbegan
  obtain ⟨-, hcancelled⟩ := hlawful.warranted
  rcases List.mem_append.1 hbegan with hp | hq
  · exact hcancelled t' i l' hp
  · rcases List.mem_cons.1 hq with heq | hq
    · cases heq
      exact absurd hij (Nat.lt_irrefl _)
    · -- the earlier scope would have begun after the later one
      obtain ⟨u, v, rfl⟩ := Journal.split_of_mem hq
      have hlater : ((p ++ .began t n j l :: u) ++ .began t' n i l' :: v : Journal).Lawful := by
        rw [List.append_assoc, List.cons_append]
        exact hlawful
      have hless := hlater.warranted.1 (.began t n j l)
        (List.mem_append_right _ (List.mem_cons_self ..)) j rfl
      omega

/-- **The calls of tasks come scope by scope**: after a call of a scope there is none of an earlier
    scope of its registrar. -/
def CallsInOrder (s : Keeper) : Prop :=
  ∀ {i j : Nat} {a b : Scope}, s.scopes[i]? = some a → s.scopes[j]? = some b →
    a.owner = b.owner → a.count < b.count →
    ∀ {p q : Journal} {e : JournalEntry}, s.journal = p ++ e :: q →
    ∀ call call' : TaskCall, e.starts j call.call = true → q.starts i call'.call = 0

theorem Documented.calls_in_order {s : Keeper} (hs : s.Documented) (ho : s.Orderly) :
    s.CallsInOrder := by
  intro i j a b ha hb howner hcount p q e hsplit call call' he
  have hij : i < j := ho.index_lt ha hb howner hcount
  have hlawful := hs.lawful
  obtain ⟨t, n, l, rfl⟩ := JournalEntry.eq_called he
  -- the later scope had begun when it made its call, and the earlier one was cancelled then
  rw [hsplit] at hlawful
  obtain ⟨⟨u, hbegan⟩, -⟩ := Journal.warranted_call hlawful.warranted
  obtain ⟨p₁, p₂, rfl⟩ := Journal.split_of_mem hbegan
  have hn : n = b.owner :=
    ((hs.recorded hb).names (.began u n j l) (by rw [hsplit]; simp) rfl).1
  obtain ⟨v, hbegan'⟩ := (hs.recorded ha).began
  rw [howner, ← hn] at hbegan'
  have hcancelled : p₁.cancellations i ≠ 0 :=
    hs.cancelled_before (by rw [hsplit, List.append_assoc, List.cons_append]) hij hbegan'
  -- so none of its calls starts from then on
  rw [List.append_assoc] at hlawful
  have hnone := hlawful.no_start hcancelled call'
  rw [Journal.starts_append, Journal.starts_cons, Journal.starts_cons] at hnone
  omega

/-! ## Silence -/

/-- **Silence after a cancellation.**  In every later state of the run, no call of the task of a
    cancelled scope has started since, and the task has at most ended the call that was in flight
    and stopped; it stops when time has passed beyond that call.  So the calls come scope
    by scope. -/
theorem silence_after_cancellation {s : Keeper} (h : s.Reachable) :
    (∀ {k : Nat} {c : Scope}, s.scopes[k]? = some c → c.isCancelled = true →
      ∀ {t : Keeper}, Reaches s t →
        (∃ c' later, t.scopes[k]? = some c' ∧ t.journal = s.journal ++ later ∧
          c.Silenced k c' later) ∧
        ∀ d : Duration, 0 < d.millis →
          (∀ due call failure, c.task = .calling due call failure → due ≤ t.now + d.millis) →
          ∃ c', (t.sleep d).settle.scopes[k]? = some c' ∧ c'.task = .stopped) ∧
    s.CallsInOrder := by
  refine ⟨?_, h.documented.calls_in_order h.orderly⟩
  intro k c hc hx t ht
  exact ⟨ht.silenced hc hx, fun d hd hdue => ht.task_stops h hc hx hd hdue⟩

/-- A registrar that was disabled while its first registration was in flight. -/
def disabledInCall : Keeper :=
  (((alone { register := { queued := [{ latency := ⟨100⟩ }] } }).enable 0).sleep ⟨50⟩).disable 0

/-- The registration may end, and nothing follows. -/
theorem disabledInCall_silent : disabledInCall.Reachable ∧
    ∃ c, disabledInCall.scopes[0]? = some c ∧ c.isCancelled = true ∧
      c.task = .calling 110 .register none ∧
      ∃ c', (disabledInCall.sleep ⟨60⟩).settle.scopes[0]? = some c' ∧ c'.task = .stopped := by
  have hs : disabledInCall.Reachable := (((alone_reachable _).enable 0).sleep ⟨50⟩).disable 0
  have hvalues : disabledInCall.scopes[0]?.map (fun c => (c.isCancelled, c.task)) =
      some (true, .calling 110 .register none) := by
    decide +kernel
  obtain ⟨c, hc, hpair⟩ := Option.map_eq_some_iff.1 hvalues
  obtain ⟨hx, htask⟩ := Prod.mk.inj hpair
  refine ⟨hs, c, hc, hx, htask, ?_⟩
  refine ((silence_after_cancellation hs).1 hc hx .refl).2 ⟨60⟩ (by decide) ?_
  intro due call failure hcall
  rw [htask] at hcall
  cases hcall
  have hnow : disabledInCall.now = 50 := by decide +kernel
  rw [hnow]
  exact Nat.le_refl _

end Keeper

end LeaseKeeper

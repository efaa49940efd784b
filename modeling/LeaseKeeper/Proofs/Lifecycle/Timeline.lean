/-
  The calls that a task should make, and when.

  A TIMELINE lists the calls of one task as the pacing asks for them.  It is computed from three
  things alone: when the first call is due, how every call turned out, and which interval the
  registry asked for at the end of each.  It knows nothing of keepers, turns or lines.

  A scope is ON TRACK (`Scope.OnTrack`) if its calls so far, together with the one thing that is
  to come next, are its timeline.  A deed that the task does at the very time it has waited for is
  the next step of the timeline (`TaskDeed.onTrack`).

  What comes next depends on where the task is, so there are three ways to be on track.  While it
  waits, every call has ended and the next one is to start; while it calls, there is one outcome
  more than there are intervals, and the end of this call is to come; once it has stopped, the
  timeline goes on without it, and what would have come next is not before the cancellation.

  The step is the same in each case: the timeline computed from one more outcome, or from one more
  interval, is the old timeline with one more entry (`timeline_concat`), and that entry is the one
  the deed writes.  This is where `now` must be the time the task has waited for, since the
  timeline computes its times and knows nothing of the clock.
-/
import LeaseKeeper.Proofs.Lifecycle.Deregistration

namespace LeaseKeeper

/-! ## The timeline -/

/-- **The wait after a call**: what the registry asks for after a success, the retry interval after a
    failure. -/
def waitAfter (retry interval : Duration) : Option String → Duration
  | none => interval
  | some _ => retry

/-- **The calls of scope number `k`** of registrar number `n`, from the one that is due, up to what is to
    come next.  Each call takes an outcome, and at its end an interval is read; if there are more
    outcomes than intervals, the last call has yet to end. -/
def timeline (n k : Nat) (i : Identity) (retry : Duration) (due : Nat) (call : TaskCall) :
    List CallOutcome → List Duration → Journal
  | [], _ => [.called due n k call.call i]
  | o :: os, hs =>
    let ended := due + o.latency.millis
    .called due n k call.call i :: .answered ended n k call.call i o.failure.isNone ::
      match hs with
      | [] => []
      | h :: hs => timeline n k i retry (ended + (waitAfter retry h o.failure).millis)
          (.following o.failure) os hs

/-- When an entry was made; remarks have no time. -/
def JournalEntry.time? : JournalEntry → Option Nat
  | .began t .. => some t
  | .cancelled t .. => some t
  | .called t .. => some t
  | .answered t .. => some t
  | .released t .. => some t
  | _ => none

/-- A call of a task starts or ends. -/
def JournalEntry.isTaskCall (k : Nat) : JournalEntry → Bool
  | .called _ _ j call _ => j = k ∧ call ≠ .deregister
  | .answered _ _ j call _ _ => j = k ∧ call ≠ .deregister
  | _ => false

/-- **The calls that the task of scope number `k` made.** -/
def Journal.taskCalls (j : Journal) (k : Nat) : Journal := j.filter (·.isTaskCall k)

theorem Journal.taskCalls_append (j es : Journal) (k : Nat) :
    (j ++ es : Journal).taskCalls k = j.taskCalls k ++ es.taskCalls k := List.filter_append j es

/-- A task never deregisters; that is the watcher's call. -/
theorem TaskCall.call_ne (call : TaskCall) : call.call ≠ .deregister := by
  cases call <;> nofun

/-- The two calls of a task are different calls. -/
theorem TaskCall.call_inj {call call' : TaskCall} (h : call.call = call'.call) : call = call' := by
  cases call <;> cases call' <;> first | rfl | cases h

section

variable {n k : Nat} {i : Identity} {retry : Duration}

/-- **The timeline goes on**: once the next call has an outcome, it is in the timeline, and so is its
    end; once an interval is read at its end, so is the next call.  Induction on the outcomes. -/
theorem timeline_concat {os : List CallOutcome} {hs : List Duration} {due₀ due : Nat}
    {call₀ call : TaskCall} {before : Journal} (hlength : os.length = hs.length)
    (h : timeline n k i retry due₀ call₀ os hs = before ++ [.called due n k call.call i])
    (o : CallOutcome) :
    timeline n k i retry due₀ call₀ (os ++ [o]) hs =
      before ++ [.called due n k call.call i,
        .answered (due + o.latency.millis) n k call.call i o.failure.isNone] ∧
    ∀ interval : Duration, timeline n k i retry due₀ call₀ (os ++ [o]) (hs ++ [interval]) =
      before ++ [.called due n k call.call i,
        .answered (due + o.latency.millis) n k call.call i o.failure.isNone,
        .called (due + o.latency.millis + (waitAfter retry interval o.failure).millis) n k
          (TaskCall.following o.failure).call i] := by
  induction os generalizing due₀ call₀ hs before with
  | nil =>
    obtain rfl := List.eq_nil_of_length_eq_zero hlength.symm
    have hone : [] ++ [.called due₀ n k call₀.call i] =
        -- The first call is the last one.
        before ++ [.called due n k call.call i] := h
    obtain ⟨rfl, hlast⟩ := List.append_inj' hone rfl
    obtain ⟨rfl, -, -, hcall, -⟩ := JournalEntry.called.inj (List.cons.inj hlast).1
    obtain rfl := TaskCall.call_inj hcall
    exact ⟨rfl, fun _ => rfl⟩
  | cons o₁ os ih =>
    cases hs with
    -- There are as many intervals as outcomes.
    | nil => cases hlength
    | cons h₁ hs =>
      -- the first call and its end stand before
      rcases before with _ | ⟨e, _ | ⟨e', before⟩⟩
      · exact absurd (List.cons.inj h).2 nofun
      · exact absurd (List.cons.inj (List.cons.inj h).2).1 nofun
      · have hfirst := (List.cons.inj h).1
        have hsecond := (List.cons.inj (List.cons.inj h).2).1
        have hrest := (List.cons.inj (List.cons.inj h).2).2
        subst hfirst hsecond
        obtain ⟨hcalled, hread⟩ := ih (Nat.succ.inj hlength) hrest
        refine ⟨?_, fun interval => ?_⟩
        · show _ :: _ :: timeline _ _ _ _ _ _ (os ++ [o]) hs = _
          rw [hcalled]
          rfl
        · show _ :: _ :: timeline _ _ _ _ _ _ (os ++ [o]) (hs ++ [interval]) = _
          rw [hread]
          rfl

end

/-! ## What calls take and bring -/

namespace JournalEntry

variable {k : Nat} {e : JournalEntry}

/-- **The outcome that a call takes** if it is a call of the task of scope number `k` that starts. -/
def outcome? (k : Nat) (registrars : List Registrar) : JournalEntry → Option CallOutcome
  | .called _ n j call _ =>
    if j = k ∧ call ≠ .deregister then registrars[n]?.map (·.outcome call) else none
  | _ => none

/-- **The interval that is read** where a call of that task ends. -/
def interval? (k : Nat) (registrars : List Registrar) : JournalEntry → Option Duration
  | .answered _ n j call _ _ =>
    if j = k ∧ call ≠ .deregister then registrars[n]?.map (·.registry.interval) else none
  | _ => none

/-- What is no call of the task takes no outcome. -/
theorem outcome?_eq_none (h : e.isTaskCall k = false) (registrars : List Registrar) :
    e.outcome? k registrars = none := by
  cases e with
  | called => exact if_neg (of_decide_eq_false h)
  | _ => rfl

/-- Nor is an interval read there. -/
theorem interval?_eq_none (h : e.isTaskCall k = false) (registrars : List Registrar) :
    e.interval? k registrars = none := by
  cases e with
  | answered => exact if_neg (of_decide_eq_false h)
  | _ => rfl

/-- A call of a task is about its scope. -/
theorem scope?_of_isTaskCall (h : e.isTaskCall k = true) : e.scope? = some k := by
  cases e with
  | called => exact congrArg some (of_decide_eq_true h).1
  | answered => exact congrArg some (of_decide_eq_true h).1
  | _ => cases h

end JournalEntry

namespace Journal

variable {k : Nat} {es : Journal}

/-- No call of the task of scope number `k` starts or ends. -/
def Still (es : Journal) (k : Nat) : Prop := ∀ e ∈ es, e.isTaskCall k = false

/-- Whoever writes about other scopes only makes no call of this one. -/
theorem still_of_ne (h : ∀ e ∈ es, e.scope? ≠ some k) : es.Still k :=
  fun e he => Bool.eq_false_iff.2 fun hcall => h e he (JournalEntry.scope?_of_isTaskCall hcall)

/-- So nothing is added to its calls, its outcomes or its intervals. -/
theorem Still.taskCalls (h : es.Still k) : es.taskCalls k = [] :=
  List.filter_eq_nil_iff.2 fun e he => by rw [h e he]; nofun

/-- The outcomes that calls take. -/
def outcomes (es : Journal) (k : Nat) (registrars : List Registrar) : List CallOutcome :=
  es.filterMap (·.outcome? k registrars)

/-- The intervals that are read. -/
def intervals (es : Journal) (k : Nat) (registrars : List Registrar) : List Duration :=
  es.filterMap (·.interval? k registrars)

theorem Still.outcomes (h : es.Still k) (registrars : List Registrar) :
    es.outcomes k registrars = [] :=
  List.filterMap_eq_nil_iff.2 fun e he => JournalEntry.outcome?_eq_none (h e he) registrars

theorem Still.intervals (h : es.Still k) (registrars : List Registrar) :
    es.intervals k registrars = [] :=
  List.filterMap_eq_nil_iff.2 fun e he => JournalEntry.interval?_eq_none (h e he) registrars

end Journal

/-! ## A scope on its timeline -/

/-- **Scope number `k` is on track**: what it has called so far and what is to come next are its
    timeline from its first call on. -/
inductive Scope.OnTrack (k : Nat) (retry : Duration) (first : Nat) (c : Scope) (j : Journal) :
    List CallOutcome → List Duration → Prop where
  | waiting {due : Nat} {call : TaskCall} {os : List CallOutcome} {hs : List Duration}
      (h : c.task = .waiting due call) (hlength : os.length = hs.length)
      (hline : timeline c.owner k c.identity retry first .register os hs =
        j.taskCalls k ++ [.called due c.owner k call.call c.identity]) :
      OnTrack k retry first c j os hs
  | calling {started : Nat} {call : TaskCall} {o : CallOutcome} {os : List CallOutcome}
      {hs : List Duration} (before : Journal)
      (h : c.task = .calling (started + o.latency.millis) call o.failure)
      (hlength : os.length = hs.length)
      (hline : timeline c.owner k c.identity retry first .register os hs =
        before ++ [.called started c.owner k call.call c.identity])
      (hcalls : j.taskCalls k = before ++ [.called started c.owner k call.call c.identity]) :
      OnTrack k retry first c j (os ++ [o]) hs
  | stopped {os : List CallOutcome} {hs : List Duration} {time : Nat} (next : JournalEntry)
      (h : c.task = .stopped) (hx : c.isCancelled = true)
      (hline : timeline c.owner k c.identity retry first .register os hs = j.taskCalls k ++ [next])
      (htime : next.time? = some time)
      (hlate : ∀ t n cause, .cancelled t n k cause ∈ j → t ≤ time) :
      OnTrack k retry first c j os hs

section

variable {now k first : Nat} {found : Reception} {c c' : Scope} {r r' : Registrar}
  {retry : Duration} {j es : Journal} {os : List CallOutcome} {hs : List Duration}

/-- Where its task makes no call, a scope stays on track.  It may be cancelled on the way, but
    only if it was not before: a stopped scope is compared with its one cancellation. -/
theorem Scope.OnTrack.still (h : c.OnTrack k retry first j os hs) (hsame : c.SameScope c')
    (htask : c'.task = c.task) (hx : c.isCancelled = true → c'.isCancelled = true)
    (hes : es.Still k)
    (hlate : c.isCancelled = true → ∀ t n cause, .cancelled t n k cause ∉ es) :
    c'.OnTrack k retry first (j ++ es) os hs := by
  have hcalls : (j ++ es : Journal).taskCalls k = j.taskCalls k := by
    rw [Journal.taskCalls_append, hes.taskCalls, List.append_nil]
  cases h with
  | waiting hwait hlength hline =>
    -- Still waiting for the same call.
    refine .waiting (htask.trans hwait) hlength ?_
    rw [hcalls, hsame.owner, hsame.identity]
    exact hline
  | calling before hcall hlength hline hj =>
    -- Still waiting for the end of the same call.
    refine .calling before (htask.trans hcall) hlength ?_ ?_
    · rw [hsame.owner, hsame.identity]
      exact hline
    · rw [hcalls, hsame.owner, hsame.identity]
      exact hj
  | stopped next hstop hcancelled hline htime hpast =>
    -- Still stopped, and nobody cancels it again.
    refine .stopped next (htask.trans hstop) (hx hcancelled) ?_ htime ?_
    · rw [hcalls, hsame.owner, hsame.identity]
      exact hline
    · intro t n cause hmem
      exact hpast t n cause
        ((List.mem_append.1 hmem).resolve_right (hlate hcancelled t n cause))

/-- **The end of a call and what follows** are the next steps of the timeline, whichever interval
    is read.  Only a task that is calling can be on track so, and then it has one outcome more
    than it has intervals. -/
theorem Scope.OnTrack.answered (h : c.OnTrack k retry first j os hs) {due : Nat} {call : TaskCall}
    {failure : Option String} (hcall : c.task = .calling due call failure) (interval : Duration) :
    os.length = (hs ++ [interval]).length ∧
      timeline c.owner k c.identity retry first .register os (hs ++ [interval]) =
        j.taskCalls k ++ [.answered due c.owner k call.call c.identity failure.isNone] ++
          [.called (due + (waitAfter retry interval failure).millis) c.owner k
            (TaskCall.following failure).call c.identity] := by
  cases h with
  | waiting hwait => rw [hcall] at hwait; cases hwait
  | @calling _ _ o _ _ before hcall' hlength hline hcalls =>
    rw [hcall] at hcall'
    cases hcall'
    refine ⟨by rw [List.length_append, List.length_append, hlength]; rfl, ?_⟩
    rw [(timeline_concat hlength hline o).2 interval, hcalls, List.append_assoc, List.append_assoc]
    rfl
  | stopped _ hstop => rw [hcall] at hstop; cases hstop

/-- What the end of a call adds to the calls, and the interval that is read then. -/
theorem answered_adds (now : Nat) (call : TaskCall) (i : Identity) (success : Bool) (n : Nat)
    {rest : Journal} (hrest : rest.Still k) (before : List Registrar) {later : List Registrar}
    (hlater : later[n]? = some r) :
    Journal.taskCalls (.answered now n k call.call i success :: rest) k =
        [.answered now n k call.call i success] ∧
      Journal.outcomes (.answered now n k call.call i success :: rest) k before = [] ∧
      Journal.intervals (.answered now n k call.call i success :: rest) k later =
        [r.registry.interval] := by
  have hown : (JournalEntry.answered now n k call.call i success).isTaskCall k = true :=
    decide_eq_true ⟨rfl, call.call_ne⟩
  refine ⟨?_, ?_, ?_⟩
  · rw [Journal.taskCalls, List.filter_cons_of_pos hown]
    exact congrArg _ hrest.taskCalls
  · exact hrest.outcomes before
  · have hread : (JournalEntry.answered now n k call.call i success).interval? k later =
        some r.registry.interval := by
      rw [JournalEntry.interval?, if_pos ⟨rfl, call.call_ne⟩, hlater]
      rfl
    rw [Journal.intervals, List.filterMap_cons_some hread]
    exact congrArg _ (hrest.intervals later)

/-- **A deed is the next step of the timeline**, if the task does it at the time it has waited
    for.  A call takes its outcome from the registry `before`; the interval is read `later`.  The
    deeds are those of a task: to stop where it waited, to start its call, and to end its call,
    cancelled or not. -/
theorem TaskDeed.onTrack (hd : TaskDeed now k c r c' r' es)
    (h : c.OnTrack k retry first j os hs) (hretry : r.pacing.retryInterval = retry)
    (hnow : ∀ due, c.taskDue? = some due → now ≤ due)
    (hpast : ∀ t n cause, .cancelled t n k cause ∈ j → t ≤ now) (before later : List Registrar)
    (hbefore : c.taskIsWaiting = true → before[c.owner]? = some r)
    (hlater : c.taskIsWaiting = false → later[c.owner]? = some r') :
    c'.OnTrack k retry first (j ++ es) (os ++ es.outcomes k before)
      (hs ++ es.intervals k later) := by
  -- no task writes of cancellations
  have hpast' : ∀ t n cause, .cancelled t n k cause ∈ j ++ es → t ≤ now := by
    intro t n cause hmem
    refine hpast t n cause ((List.mem_append.1 hmem).resolve_right fun hmem => ?_)
    cases hd.own hmem
  cases hd with
  | @stopped due call hwait hx =>
    -- It has found itself cancelled: nothing is called, and the call that was due is the one that
    -- does not come.
    have hstill : c.gaugeReset.Still k := Journal.still_of_ne (c.gaugeReset_silent.ne k)
    have hdue := hnow due (by rw [Scope.taskDue?, hwait])
    rw [hstill.outcomes, hstill.intervals, List.append_nil, List.append_nil]
    cases h with
    | @waiting _ _ _ _ hwait' _ hline =>
      rw [hwait] at hwait'
      cases hwait'
      refine .stopped (.called due c.owner k call.call c.identity) rfl hx ?_ rfl ?_
      · rw [Journal.taskCalls_append, hstill.taskCalls, List.append_nil]
        exact hline
      · intro t n cause hmem
        exact Nat.le_trans (hpast' t n cause hmem) hdue
    | calling _ hcall => rw [hwait] at hcall; cases hcall
    | stopped _ hstop => rw [hwait] at hstop; cases hstop
  | @started due call hwait hx hd =>
    -- It starts its call: the time it has waited for is now, so the entry is the one of the
    -- timeline.
    have hdue := hnow due (by rw [Scope.taskDue?, hwait])
    obtain rfl : due = now := Nat.le_antisymm hd hdue
    have htaken : Journal.outcomes [.called due c.owner k call.call c.identity] k before =
        [r.outcome call.call] := by
      have hr := hbefore (by rw [Scope.taskIsWaiting, hwait])
      simp [Journal.outcomes, JournalEntry.outcome?, call.call_ne, hr]
    have hread : Journal.intervals [.called due c.owner k call.call c.identity] k later = [] := rfl
    rw [htaken, hread, List.append_nil]
    cases h with
    | @waiting _ _ _ _ hwait' hlength hline =>
      rw [hwait] at hwait'
      cases hwait'
      refine .calling (j.taskCalls k) rfl hlength hline ?_
      rw [Journal.taskCalls_append]
      simp [Journal.taskCalls, JournalEntry.isTaskCall, call.call_ne]
    | calling _ hcall => rw [hwait] at hcall; cases hcall
    | stopped _ hstop => rw [hwait] at hstop; cases hstop
  | @discarded due call failure hcall hx hd =>
    -- Its call has ended and it finds itself cancelled: the end is in the timeline, and the call
    -- after that does not come.
    have hdue := hnow due (by rw [Scope.taskDue?, hcall])
    obtain rfl : due = now := Nat.le_antisymm hd hdue
    obtain ⟨-, hline⟩ := h.answered hcall (r.afterAnswer call.call failure).registry.interval
    obtain ⟨hcalls, htaken, hread⟩ := answered_adds due call c.identity failure.isNone
      c.owner (Journal.still_of_ne (c.gaugeReset_silent.ne k)) before
      (hlater (by rw [Scope.taskIsWaiting, hcall]))
    rw [htaken, hread, List.append_nil]
    refine .stopped (.called (due + (waitAfter retry
      (r.afterAnswer call.call failure).registry.interval failure).millis) c.owner k
      (TaskCall.following failure).call c.identity) rfl hx ?_ rfl ?_
    · rw [Journal.taskCalls_append, hcalls]
      exact hline
    · intro t n cause hmem
      exact Nat.le_trans (hpast' t n cause hmem) (Nat.le_add_right ..)
  | @concluded due call failure hcall hx hd =>
    -- Its call has ended and it goes on: the end is in the timeline, and the next call is to come.
    have hdue := hnow due (by rw [Scope.taskDue?, hcall])
    obtain rfl : due = now := Nat.le_antisymm hd hdue
    obtain ⟨hlength, hline⟩ := h.answered hcall (r.afterAnswer call.call failure).registry.interval
    have hremarks := (call.remarks_silent failure c.identity (r.afterAnswer call.call failure)).cons
      (show (JournalEntry.counted call.call failure.isNone).scope? = none from rfl)
    obtain ⟨hcalls, htaken, hread⟩ := answered_adds due call c.identity failure.isNone
      c.owner (Journal.still_of_ne (hremarks.ne k)) before
      (hlater (by rw [Scope.taskIsWaiting, hcall]))
    -- The wait is the one of the timeline, as the registry is asked at the end of the call.
    have hpause : (r.afterAnswer call.call failure).pause failure =
        waitAfter retry (r.afterAnswer call.call failure).registry.interval failure := by
      cases failure with
      | none => rfl
      | some _ => exact hretry
    rw [htaken, hread, List.append_nil]
    refine .waiting rfl hlength ?_
    rw [Journal.taskCalls_append, hcalls, hpause]
    exact hline

end

end LeaseKeeper

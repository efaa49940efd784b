/-
  A scope makes its calls when it should.

  What the timeline of a scope is computed from is collected on the way: the outcome that each
  call takes from its registry as it starts, and the interval that the registry asks for as it
  ends (`outcomesTaken`, `intervalsRead`).

  In a timely run nothing that is due is passed over: whenever a task acts, it is the very time it
  has waited for (`Punctual`).  So every deed is the next step of the timeline, and it is taken in
  time unless the scope is cancelled before (`paced_calls`).

  There are two invariants of a scope, and the second rests on the first.  That it is PUNCTUAL is
  about the clock: nothing that its task waits for is past.  It is kept because the clock stands
  still while anybody is in line and never jumps over a time that somebody waits for; and a deed
  leaves a time to wait for that is later than now, since a patient registrar waits some time
  after every call.  Without that a task could act twice at one instant, and nothing could be said
  of when.

  That it is ON TRACK is about what is written: the calls so far, and the one thing to come, are
  the timeline of the outcomes and intervals collected so far.  Only a deed of the task changes
  anything of it, and `TaskDeed.onTrack` has that step; everything else that happens is none of
  its business (`hstill` below).
-/
import LeaseKeeper.Proofs.Lifecycle.Patience

namespace LeaseKeeper

namespace Keeper

/-! ## Nothing that is due is passed over -/

/-- **Scope number `k` has missed nothing**: what its task waits for is not past, and the task is in
    line if it is there; nor does a cancellation lie ahead. -/
structure Punctual (s : Keeper) (k : Nat) (c : Scope) : Prop where
  due : ∀ due, c.taskDue? = some due →
    s.now ≤ due ∧ (due ≤ s.now → ⟨k, .task⟩ ∈ s.ready)
  past : ∀ t n cause, .cancelled t n k cause ∈ s.journal → t ≤ s.now

section

variable {registrars : List Registrar} {s : Keeper} {m : Move} {k : Nat} {c c' : Scope}
  {b b' : Mailbox} {es : Journal}

/-- The clock never goes back. -/
theorem Episode.now_le (he : s.Episode m k c b c' b' es) : s.now ≤ (s.move m).now := by
  have hincident := he.incident
  generalize s.move m = s' at hincident ⊢
  cases hincident with
  | untouched _ hnow => exact Nat.le_of_eq hnow.symm
  | superseded hnow => exact Nat.le_of_eq hnow.symm
  | posted _ hnow => exact Nat.le_of_eq hnow.symm
  | ended _ _ hnow => exact Nat.le_of_eq hnow.symm
  | passed hnow => exact hnow ▸ Nat.le_add_right ..
  | task _ _ _ _ hnow => exact Nat.le_of_eq hnow.symm
  | watcher _ _ _ _ hnow => exact Nat.le_of_eq hnow.symm

/-- A scope is cancelled now, and was not before.  There are two who write a cancellation, the
    registrar and the watcher, and neither does it twice. -/
theorem Episode.of_cancelled (he : s.Episode m k c b c' b' es) {t n : Nat} {cause : CancelCause}
    (hmem : .cancelled t n k cause ∈ es) : t = s.now ∧ c.isCancelled = false := by
  have hincident := he.incident
  generalize s.move m = s' at hincident
  cases hincident with
  | untouched _ _ _ hes => exact absurd rfl (hes _ hmem)
  | superseded _ _ hes => exact absurd rfl (hes _ hmem)
  | posted => cases hmem
  | ended _ hlive _ _ _ _ hrest =>
    rcases List.mem_cons.1 hmem with heq | hmem
    · cases heq
      exact ⟨rfl, hlive⟩
    · cases hrest _ hmem
  | passed => cases hmem
  | task ht =>
    rw [← ht] at hmem
    cases Turn.runTask_own c _ _ hmem
  | watcher ht =>
    obtain ⟨rfl, -, -, -, hlive, -⟩ := Turn.runWatcher_of_cancelled ht hmem
    exact ⟨rfl, hlive⟩

/-- **Whatever is allowed leaves a scope punctual.**  Of all that may happen only two things
    matter to what its task waits for: the clock moves, or the task acts. -/
theorem Punctual.episode (h : s.Punctual k c) (hm : s.Allows m) (hpace : s.KeepsPace registrars)
    (he : s.Episode m k c b c' b' es) : (s.move m).Punctual k c' := by
  refine ⟨?_, fun t n cause hmem => ?_⟩
  · -- What its task waits for.
    have hincident := he.incident
    generalize s.move m = s' at hincident ⊢
    -- the task is left alone
    have hkept : ∀ {a : Scope} {u : Keeper}, a.task = c.task → u.now = s.now →
        (⟨k, .task⟩ ∈ s.ready → ⟨k, .task⟩ ∈ u.ready) → ∀ due, a.taskDue? = some due →
        u.now ≤ due ∧ (due ≤ u.now → ⟨k, .task⟩ ∈ u.ready) := by
      intro a u htask hnow hline due hdue
      have hsame : a.taskDue? = c.taskDue? := by simp only [Scope.taskDue?, htask]
      obtain ⟨hle, hready⟩ := h.due due (hsame ▸ hdue)
      rw [hnow]
      exact ⟨hle, fun hge => hline (hready hge)⟩
    cases hincident with
    | untouched _ hnow hline => exact hkept rfl hnow (hline .task)
    | superseded hnow hline => exact hkept rfl hnow (hline .task)
    | posted _ hnow hline => exact hkept rfl hnow (hline .task)
    | ended _ _ hnow hline => exact hkept rfl hnow (hline .task)
    | @passed d s' hnow _ hwoken =>
      intro due hdue
      refine ⟨?_, hwoken due hdue⟩
      have hmem : due ∈ s.dues := List.mem_flatMap.2 ⟨c, List.mem_of_getElem? he.scope,
        List.mem_append_right _ (by rw [hdue]; exact List.mem_singleton.2 rfl)⟩
      rw [hnow]
      refine (hm.ahead due hmem).resolve_left fun hle => ?_
      -- time does not pass while the task is in line
      have hline := (h.due due hdue).2 hle
      rw [hm.idle] at hline
      cases hline
    | task ht hr _ _ hnow =>
      intro due hdue
      -- Acting leaves a time that lies ahead, so there is nothing yet to be in line for.
      have hlater := (Turn.runTask_deeds (hpace.patient hr) ht).1.lt hdue
      rw [hnow]
      exact ⟨Nat.le_of_lt hlater, fun hge => absurd hge (Nat.not_le.2 hlater)⟩
    | watcher ht _ _ _ hnow hline =>
      refine hkept ?_ hnow hline
      rw [← ht]
      exact Turn.runWatcher_task _
  · -- A cancellation is written at the time it happens, and time only passes.
    rw [he.journal] at hmem
    refine Nat.le_trans ?_ he.now_le
    rcases List.mem_append.1 hmem with hmem | hmem
    · exact h.past t n cause hmem
    · exact Nat.le_of_eq (he.of_cancelled hmem).1

/-! ## Every scope is on track -/

/-- What is written in a move. -/
def news (s : Keeper) (m : Move) : Journal := (s.move m).journal.drop s.journal.length

/-- **The outcomes that calls of scope number `k` take** in a move, each from the registry as it
    is when the call starts. -/
def outcomesTaken (k : Nat) (s : Keeper) (m : Move) : List CallOutcome :=
  (s.news m).outcomes k s.registrars

/-- **The intervals that are read** where calls of scope number `k` end in a move. -/
def intervalsRead (k : Nat) (s : Keeper) (m : Move) : List Duration :=
  (s.news m).intervals k (s.move m).registrars

/-- What is written in a move is what its episode writes. -/
theorem Episode.news (he : s.Episode m k c b c' b' es) : s.news m = es := by
  rw [Keeper.news, he.journal, List.drop_left]

/-- **Every scope stays on track**, whatever is allowed.  The deed of the task is the step of the
    timeline; it finds its registrar as it was before the move and leaves it as it is after. -/
theorem Episode.onTrack (he : s.Episode m k c b c' b' es) (hp : s.Punctual k c)
    (hpace : s.KeepsPace registrars) {retry : Duration} {first : Nat} {os : List CallOutcome}
    {hs : List Duration} (h : c.OnTrack k retry first s.journal os hs)
    (hretry : ∀ r, s.registrars[c.owner]? = some r → r.pacing.retryInterval = retry) :
    c'.OnTrack k retry first (s.move m).journal (os ++ s.outcomesTaken k m)
      (hs ++ s.intervalsRead k m) := by
  have hsame := he.incident.same
  have hincident := he.incident
  -- A cancelled scope is not cancelled again.
  have hnever : c.isCancelled = true → ∀ t n cause, .cancelled t n k cause ∉ es := by
    intro hx t n cause hmem
    rw [(he.of_cancelled hmem).2] at hx
    cases hx
  rw [outcomesTaken, intervalsRead, he.news, he.journal]
  generalize s.move m = s' at hincident ⊢
  -- the task makes no call
  have hstill : c'.task = c.task → (c.isCancelled = true → c'.isCancelled = true) →
      es.Still k → c'.OnTrack k retry first (s.journal ++ es) (os ++ es.outcomes k s.registrars)
        (hs ++ es.intervals k s'.registrars) := by
    intro htask hx hes
    rw [hes.outcomes, hes.intervals, List.append_nil, List.append_nil]
    exact h.still hsame htask hx hes hnever
  cases hincident with
  | untouched _ _ _ hes => exact hstill rfl id (Journal.still_of_ne hes)
  | superseded _ _ hes => exact hstill rfl id (Journal.still_of_ne hes)
  | posted => exact hstill rfl id nofun
  | ended _ _ _ _ _ _ hrest =>
    refine hstill rfl (fun _ => rfl) fun e hmem => ?_
    rcases List.mem_cons.1 hmem with rfl | hmem
    · rfl
    · exact Journal.still_of_ne (hrest.ne k) e hmem
  | passed => exact hstill rfl id nofun
  | @task m s' r t ht hr hr' =>
    obtain rfl := hretry r hr
    exact Turn.runTask_onTrack (hpace.patient hr) ht h (fun due hdue => (hp.due due hdue).1)
      hp.past hr hr'
  | watcher ht =>
    refine hstill ?_ ?_ ?_
    · rw [← ht]
      exact Turn.runWatcher_task _
    · intro hx
      rw [← ht]
      exact Turn.runWatcher_cancelled hx
    · rcases Turn.runWatcher_deeds ht with
        ⟨rfl, -⟩ | ⟨c₁, r₁, es₁, hd, rfl | ⟨c₂, r₂, es₂, hd', rfl⟩⟩
      · -- The watcher does nothing.
        nofun
      · exact hd.still
      · exact fun e hmem => (List.mem_append.1 hmem).elim (hd.still e) (hd'.still e)

end

section

variable {registrars : List Registrar} {k : Nat}

/-- A scope that is not there makes no calls. -/
theorem Documented.still {s : Keeper} (hs : s.Documented) (hk : s.scopes.length ≤ k) :
    s.journal.Still k :=
  Journal.still_of_ne fun e he hscope => absurd (hs.known e he k hscope) (Nat.not_lt.2 hk)

/-- So nothing is seen of its calls in a run. -/
theorem Reachable.observed_unknown {α : Type} {look : Keeper → Move → List α}
    (hlook : ∀ s m, (s.news m).Still k → look s m = []) {start : Keeper}
    (hstart : start.Reachable) {ms : List Move} (hk : (start.after ms).scopes.length ≤ k) :
    start.observed look ms = [] := by
  induction ms using List.reverseRecOn with
  | nil => rfl
  | append_singleton ms m ih =>
    have hs := hstart.after ms
    rw [after_concat] at hk
    rw [observed_concat, ih (Nat.le_trans (hs.scopes_le m) hk), hlook]
    · rfl
    · exact fun e he => (hs.move m).documented.still hk e (List.mem_of_mem_drop he)

/-- A scope that begins is in line. -/
theorem beginScope_wakes (s : Keeper) (n : Nat) (r : Registrar) (i : Identity) :
    ⟨s.scopes.length, .task⟩ ∈ (s.beginScope n r i).ready := by
  simp [beginScope, setRegistrar, tell]

/-- **A scope that begins** has missed nothing, and its first call is to come, after the startup
    delay.  Nothing can have been written about it: its number is new. -/
theorem Beginning.onTrack {s : Keeper} {n : Nat} {r r' : Registrar} {i : Identity}
    (h : s.Beginning n r r' i) (hj : s.Documented) :
    (s.enable n).Punctual s.scopes.length (s.newScope n r' i) ∧
      (s.newScope n r' i).OnTrack s.scopes.length r.pacing.retryInterval
        (s.now + r.pacing.startupDelay.millis) (s.enable n).journal [] [] ∧
      .began s.now n s.scopes.length i ∈ (s.enable n).journal ∧
      (s.news (.enable n)).Still s.scopes.length := by
  -- Its task is in line at once, though the delay may not be over.
  have hready := beginScope_wakes s n r' i
  rw [← h.move_eq] at hready
  obtain ⟨line, hline⟩ := beginScope_eq s n r' i
  rw [← h.move_eq] at hline
  have hnow : (s.enable n).now = s.now := by rw [hline]
  have hjournal : (s.enable n).journal = s.journal ++ [.began s.now n s.scopes.length i,
      .logged (.enabled i r'.pacing.retryInterval)] := by rw [hline]
  have hnews : Journal.Still [.began s.now n s.scopes.length i,
      .logged (.enabled i r'.pacing.retryInterval)] s.scopes.length := by
    intro e he
    simp only [List.mem_cons, List.not_mem_nil, or_false] at he
    rcases he with rfl | rfl <;> rfl
  refine ⟨⟨?_, ?_⟩, ?_, ?_, ?_⟩
  · -- What its task waits for is the end of the delay.
    intro due hdue
    cases hdue
    exact ⟨hnow ▸ Nat.le_add_right .., fun _ => hready⟩
  · -- Nobody can have cancelled it.
    intro t n' cause hmem
    rw [hjournal] at hmem
    rcases List.mem_append.1 hmem with hmem | hmem
    · exact absurd (hj.known _ hmem _ rfl) (Nat.lt_irrefl _)
    · simp at hmem
  · -- Its timeline is the first call, which is to come.
    have hwait : (s.newScope n r' i).task =
        .waiting (s.now + r.pacing.startupDelay.millis) .register := by
      rw [newScope, h.setup.pacing]
    refine .waiting hwait rfl ?_
    rw [hjournal, Journal.taskCalls_append, (hj.still (Nat.le_refl _)).taskCalls, hnews.taskCalls]
    rfl
  · rw [hjournal]
    exact List.mem_append_right _ (List.mem_cons_self ..)
  · rw [Keeper.news, show (s.move (.enable n)).journal = _ from hjournal, List.drop_left]
    exact hnews

/-- **In a timely run every scope has missed nothing and is on track** from when it began:
    induction on the run, from the beginning of the scope. -/
theorem Timely.onTrack (hnew : ∀ r ∈ registrars, r.IsNew) (hpatient : ∀ r ∈ registrars, r.Patient)
    {ms : List Move} (htimely : Timely { registrars := registrars } ms)
    (hms : ∀ m ∈ ms, m.IsPatient) {c : Scope} {b : Mailbox}
    (hc : (after { registrars := registrars } ms).scopes[k]? = some c)
    (hb : (after { registrars := registrars } ms).mailbox? k = some b) :
    (after { registrars := registrars } ms).Punctual k c ∧
      ∃ r t, registrars[c.owner]? = some r ∧
        .began t c.owner k c.identity ∈ (after { registrars := registrars } ms).journal ∧
        c.OnTrack k r.pacing.retryInterval (t + r.pacing.startupDelay.millis)
          (after { registrars := registrars } ms).journal
          (observed (outcomesTaken k) { registrars := registrars } ms)
          (observed (intervalsRead k) { registrars := registrars } ms) := by
  have hstart : Reachable { registrars := registrars } := reachable_start hnew
  generalize hs₀ : ({ registrars := registrars } : Keeper) = start at htimely hstart hc hb ⊢
  have hnone : start.scopes = [] := by rw [← hs₀]
  have hpace : start.KeepsPace registrars := hs₀ ▸ keepsPace_start hpatient
  -- Where a scope makes no calls, nothing is collected.
  have houtcomes : ∀ k s m, (news s m).Still k → outcomesTaken k s m = [] :=
    fun k s m hstill => hstill.outcomes _
  have hintervals : ∀ k s m, (news s m).Still k → intervalsRead k s m = [] :=
    fun k s m hstill => hstill.intervals _
  refine hstart.follow hnone (fun ms => start.Timely ms ∧ ∀ m ∈ ms, m.IsPatient)
    (fun ms k c _ => (start.after ms).Punctual k c ∧ ∃ r t, registrars[c.owner]? = some r ∧
      .began t c.owner k c.identity ∈ (start.after ms).journal ∧
      c.OnTrack k r.pacing.retryInterval (t + r.pacing.startupDelay.millis)
        (start.after ms).journal (start.observed (outcomesTaken k) ms)
        (start.observed (intervalsRead k) ms)) ?_ ?_ ?_ ⟨htimely, hms⟩ hc hb
  · -- What is allowed in the run is allowed in its beginning.
    exact fun ms m hgood => ⟨(timely_concat.1 hgood.1).1,
      fun m' hm' => hgood.2 m' (List.mem_append_left _ hm')⟩
  · -- The scope begins: nothing has been collected for it, and the pacing of its registrar is the
    -- one it had from the start.
    intro ms n r r' i hgood hbegin
    have hs := hstart.after ms
    obtain ⟨hpunctual, htrack, hbegan, hnews⟩ := hbegin.onTrack hs.documented
    obtain ⟨r₀, hr₀, hpacing⟩ :=
      (hpace.after fun m hm => hgood.2 m (List.mem_append_left _ hm)).pacing hbegin.registrar
    rw [after_concat, observed_concat, observed_concat, houtcomes _ _ _ hnews,
      hintervals _ _ _ hnews, hstart.observed_unknown (houtcomes _) (Nat.le_refl _),
      hstart.observed_unknown (hintervals _) (Nat.le_refl _)]
    rw [hpacing] at htrack
    exact ⟨hpunctual, r₀, (start.after ms).now, hr₀, hbegan, htrack⟩
  · -- Something happens to it.
    rintro ms m k c b c' b' es hgood he ⟨hpunctual, r, t, hr, hbegan, htrack⟩
    have hpace' := hpace.after fun m hm => hgood.2 m (List.mem_append_left _ hm)
    have hsame := he.incident.same
    rw [after_concat, observed_concat, observed_concat]
    refine ⟨hpunctual.episode (timely_concat.1 hgood.1).2 hpace' he, r, t, ?_, ?_, ?_⟩
    · rw [hsame.owner]
      exact hr
    · rw [he.journal, hsame.owner, hsame.identity]
      exact List.mem_append_left _ hbegan
    · refine he.onTrack hpunctual hpace' htrack fun a ha => ?_
      obtain ⟨r₀, hr₀, hpacing⟩ := hpace'.pacing ha
      obtain rfl := Option.some.inj (hr₀.symm.trans hr)
      rw [hpacing]

end

/-! ## Every call in time -/

/-- **Scope number `k` keeps to a timeline**: its calls are those of the timeline but for the one thing
    that is to come next.  That is not overdue while the scope lives, and once the scope is cancelled it
    is not one that was due before; nor does a call start any more. -/
structure KeepsTo (s : Keeper) (k : Nat) (line : Journal) : Prop where
  calls : ∃ next time, line = s.journal.taskCalls k ++ [next] ∧ next.time? = some time ∧
    (s.journal.cancellations k = 0 → s.now ≤ time) ∧
    ∀ t n cause, .cancelled t n k cause ∈ s.journal → t ≤ time
  silent : ∀ p q : Journal, s.journal = p ++ q → p.cancellations k ≠ 0 →
    ∀ call : TaskCall, q.starts k call.call = 0

/-- A scope that has missed nothing and is on track keeps to its timeline.  What is to come next
    is what its task waits for; if the task has stopped, it is what it would have waited for. -/
theorem Punctual.keepsTo {s : Keeper} {k first : Nat} {c : Scope} {retry : Duration}
    {os : List CallOutcome} {hs : List Duration} (h : s.Punctual k c) (hj : s.Documented)
    (hc : s.scopes[k]? = some c) (htrack : c.OnTrack k retry first s.journal os hs) :
    s.KeepsTo k (timeline c.owner k c.identity retry first .register os hs) := by
  refine ⟨?_, fun p q hsplit hx call => ?_⟩
  · cases htrack with
    | @waiting due call _ _ hwait _ hline =>
      -- The next thing is the start of a call.
      have hdue := (h.due due (by rw [Scope.taskDue?, hwait])).1
      exact ⟨_, due, hline, rfl, fun _ => hdue,
        fun t n cause hmem => Nat.le_trans (h.past t n cause hmem) hdue⟩
    | @calling started call o os _ before hcall hlength hline hcalls =>
      -- It is the end of the call that is under way.
      have hdue := (h.due _ (by rw [Scope.taskDue?, hcall])).1
      refine ⟨.answered (started + o.latency.millis) c.owner k call.call c.identity
        o.failure.isNone, started + o.latency.millis, ?_, rfl, fun _ => hdue,
        fun t n cause hmem => Nat.le_trans (h.past t n cause hmem) hdue⟩
      rw [(timeline_concat hlength hline o).1, hcalls, List.append_assoc]
      rfl
    | @stopped _ _ time next _ hx hline htime hlate =>
      -- Nothing comes any more; the timeline goes on without the scope.
      refine ⟨next, time, hline, htime, fun hlive => ?_, hlate⟩
      rw [(hj.recorded hc).cancelled, hx] at hlive
      cases hlive
  · -- It is cancelled, and no call starts after a cancellation.
    have hlawful := hj.lawful
    rw [hsplit] at hlawful
    exact hlawful.no_start hx call

/-- **Every scope makes its calls when it should.**  In a timely run in which a registrar must wait some
    time after every call, the calls of every scope are those of its timeline, which starts with a
    registration when the startup delay has passed.  After a call that fails at some time a registration
    follows when the retry interval has passed; after a call that succeeds a sign of life, when the
    interval has passed that the registry asked for at the end of that call.  All are made under the
    identity with which the scope began, and there is no other. -/
theorem paced_calls {registrars : List Registrar} (hnew : ∀ r ∈ registrars, r.IsNew)
    (hpatient : ∀ r ∈ registrars, r.Patient) {ms : List Move}
    (htimely : Timely { registrars := registrars } ms) (hms : ∀ m ∈ ms, m.IsPatient) :
    let s := after { registrars := registrars } ms
    ∀ t n k i, .began t n k i ∈ s.journal → ∃ r, registrars[n]? = some r ∧
      s.KeepsTo k (timeline n k i r.pacing.retryInterval (t + r.pacing.startupDelay.millis)
        .register (observed (outcomesTaken k) { registrars := registrars } ms)
        (observed (intervalsRead k) { registrars := registrars } ms)) := by
  intro s t n k i hbegan
  have hs : s.Reachable := (reachable_start hnew).after ms
  have hj := hs.documented
  obtain ⟨c, hc, rfl, rfl⟩ := hj.of_began hbegan
  obtain ⟨b, hb⟩ := hs.posted.mailbox hc
  obtain ⟨hpunctual, r, t', hr, hbegan', htrack⟩ := htimely.onTrack hnew hpatient hms hc hb
  -- The scope is the one that is there, and what it began with is what was written then.
  obtain rfl := hj.lawful.began_once hbegan hbegan'
  exact ⟨r, hr, hpunctual.keepsTo hj hc htrack⟩

/-- A registrar whose first registration fails, and whose registry then asks for more frequent signs of
    life. -/
def failingFirst : List Registrar :=
  [{ identity := .ok someone
     pacing := { retryInterval := ⟨30⟩ }
     registry := {
       register := { queued := [{ latency := ⟨5⟩, failure := some "down" }] }
       interval := ⟨100⟩
       laterIntervals := [⟨50⟩] } }]

/-- The registrar is enabled, and everything is done when it is due. -/
def failingFirstMoves : List Move :=
  [.enable 0, .step, .step, .pass ⟨10⟩, .step, .pass ⟨5⟩, .step, .pass ⟨30⟩, .step, .pass ⟨50⟩,
    .step]

/-- What it calls until then.  The first attempt fails after 5 ms, the second comes 30 ms later
    and the first sign of life 50 ms after that. -/
theorem failingFirst_calls : (∀ r ∈ failingFirst, r.IsNew) ∧ (∀ r ∈ failingFirst, r.Patient) ∧
    Timely { registrars := failingFirst } failingFirstMoves ∧
    (∀ m ∈ failingFirstMoves, m.IsPatient) ∧
    (after { registrars := failingFirst } failingFirstMoves).journal.taskCalls 0 =
      [.called 10 0 0 .register someone, .answered 15 0 0 .register someone false,
        .called 45 0 0 .register someone, .answered 45 0 0 .register someone true,
        .called 95 0 0 .heartbeat someone, .answered 95 0 0 .heartbeat someone true] := by
  have hnew : ∀ r ∈ failingFirst, r.IsNew := by decide
  have hpatient : ∀ r ∈ failingFirst, r.Patient := by decide
  have htimely : Timely { registrars := failingFirst } failingFirstMoves := by decide +kernel
  have hms : ∀ m ∈ failingFirstMoves, m.IsPatient := by decide
  have hbegan : .began 0 0 0 someone ∈
      (after { registrars := failingFirst } failingFirstMoves).journal := by decide +kernel
  refine ⟨hnew, hpatient, htimely, hms, ?_⟩
  obtain ⟨r, hr, ⟨next, time, hline, -⟩, -⟩ :=
    paced_calls hnew hpatient htimely hms 0 0 0 someone hbegan
  obtain rfl := Option.some.inj hr
  have hknown : timeline 0 0 someone ⟨30⟩ 10 .register
      (observed (outcomesTaken 0) { registrars := failingFirst } failingFirstMoves)
      (observed (intervalsRead 0) { registrars := failingFirst } failingFirstMoves) =
      [.called 10 0 0 .register someone, .answered 15 0 0 .register someone false,
        .called 45 0 0 .register someone, .answered 45 0 0 .register someone true,
        .called 95 0 0 .heartbeat someone, .answered 95 0 0 .heartbeat someone true] ++
        [.called 145 0 0 .heartbeat someone] := by
    decide +kernel
  exact (List.append_inj' (hline.symm.trans hknown) rfl).1

end Keeper

end LeaseKeeper

/-
  Who takes a signal.

  A signal that is accepted is put in the newest subscription, and only the watcher of the scope
  with that number can take it out (`FilledOnce`).  A subscription is filled at most once: it is
  dropped when its signal is taken, and closed for good when another scope begins.  So accepted
  signals go to different scopes, and no scope is signalled without one.

  That a scope was signalled is read off the journal (`Journal.signalled`), and a watcher that is
  deregistering remembers it (`Scope.Marked`).

  Both invariants are about one scope and its mailbox, followed through a run by
  `Reachable.follow`.  So each needs two things: that it holds of a scope that begins, about which
  nothing has been written yet, and that an episode keeps it, by the cases of `Incident`.  The
  crux of the second one is that the count of fillings and the state of the mailbox determine each
  other: while there is room the count is 0, and once it is 1 there is never room again.
-/
import LeaseKeeper.Proofs.Lifecycle.Deregistration
import Mathlib.Data.List.Nodup

namespace LeaseKeeper

/-! ## Scopes that were signalled -/

/-- A watcher cancels its scope because of a signal. -/
def JournalEntry.signals (k : Nat) : JournalEntry → Bool
  | .cancelled _ _ j .signalled => j = k
  | _ => false

/-- **Scope number `k` was signalled**: its watcher has taken a signal while the scope was live.
    A signal that finds its scope cancelled is taken too, but it cancels nothing and is not
    counted here. -/
def Journal.signalled (j : Journal) (k : Nat) : Bool := j.any (·.signals k)

theorem JournalEntry.eq_cancelled {k : Nat} {e : JournalEntry} (h : e.signals k = true) :
    ∃ t n, e = .cancelled t n k .signalled := by
  unfold JournalEntry.signals at h
  split at h
  · rename_i t n j
    obtain rfl : j = k := of_decide_eq_true h
    exact ⟨t, n, rfl⟩
  · cases h

namespace Journal

variable {j es : Journal} {k : Nat}

theorem signalled_append : (j ++ es : Journal).signalled k = (j.signalled k || es.signalled k) :=
  List.any_append

theorem signalled_iff : j.signalled k = true ↔ ∃ t n, .cancelled t n k .signalled ∈ j := by
  refine List.any_eq_true.trans ⟨?_, ?_⟩
  · rintro ⟨e, he, hsignals⟩
    obtain ⟨t, n, rfl⟩ := JournalEntry.eq_cancelled hsignals
    exact ⟨t, n, he⟩
  · rintro ⟨t, n, he⟩
    exact ⟨_, he, decide_eq_true rfl⟩

/-- Entries that are not about a scope do not signal it. -/
theorem signalled_of_ne (h : ∀ e ∈ es, e.scope? ≠ some k) : es.signalled k = false := by
  refine Bool.eq_false_iff.2 fun hsignalled => ?_
  obtain ⟨t, n, he⟩ := signalled_iff.1 hsignalled
  exact h _ he rfl

/-- Neither does a task. -/
theorem signalled_of_own (h : ∀ e ∈ es, e.isForeign = false) (k : Nat) :
    es.signalled k = false := by
  refine Bool.eq_false_iff.2 fun hsignalled => ?_
  obtain ⟨t, n, he⟩ := signalled_iff.1 hsignalled
  cases h _ he

/-- A cancellation from outside is no signal. -/
theorem signalled_of_outside {t n : Nat} {cause : CancelCause} (hcause : cause ≠ .signalled)
    (hes : es.Silent) : Journal.signalled (.cancelled t n k cause :: es) k = false := by
  refine Bool.eq_false_iff.2 fun hsignalled => ?_
  obtain ⟨u, l, he⟩ := signalled_iff.1 hsignalled
  rcases List.mem_cons.1 he with heq | he
  · cases heq
    exact hcause rfl
  · cases hes _ he

end Journal

/-- **A watcher knows whether its scope was signalled**, until it has finished.  After that it
    has no need to, since what it knew has decided whether it asked for the end of the process. -/
structure Scope.Marked (k : Nat) (c : Scope) (j : Journal) : Prop where
  watching : c.watcher = .watching → j.signalled k = false
  deregistering : ∀ {due failure signalled},
    c.watcher = .deregistering due failure signalled → j.signalled k = signalled

section

variable {now k : Nat} {found : Reception} {c c' : Scope} {r r' : Registrar} {j es : Journal}

/-- Where nothing was written that signals the scope, its watcher knows what it knew. -/
theorem Scope.Marked.quiet (h : c.Marked k j) (hw : c'.watcher = c.watcher)
    (hes : es.signalled k = false) : c'.Marked k (j ++ es) where
  watching hwatch := by
    rw [Journal.signalled_append, h.watching (hw ▸ hwatch), hes]
    rfl
  deregistering hder := by
    rw [Journal.signalled_append, h.deregistering (hw ▸ hder), hes, Bool.or_false]

/-- A watcher begins to deregister in two ways, and in each it writes down what it remembers. -/
theorem WatcherDeed.marked (h : WatcherDeed now k found c r c' r' es) (hc : c.Marked k j) :
    c'.Marked k (j ++ es) := by
  cases h with
  | signalled =>
    refine ⟨nofun, fun hder => ?_⟩
    cases hder
    rw [Journal.signalled_append]
    simp [Journal.signalled, JournalEntry.signals]
  | began hwatch =>
    refine ⟨nofun, fun hder => ?_⟩
    cases hder
    rw [Journal.signalled_append, hc.watching hwatch]
    rfl
  | ended => exact ⟨nofun, nofun⟩

end

namespace Keeper

section

variable {s : Keeper} {m : Move} {k : Nat} {c c' : Scope} {b b' : Mailbox} {es : Journal}

/-- Only the watcher's own turn can signal its scope: in all other cases what is written is about
    other scopes, or it is a cancellation from outside, or it comes from the task. -/
theorem Episode.marked (he : s.Episode m k c b c' b' es) (h : c.Marked k s.journal) :
    c'.Marked k (s.move m).journal := by
  have hincident := he.incident
  rw [he.journal]
  generalize s.move m = s' at hincident ⊢
  cases hincident with
  | untouched _ _ _ hes => exact h.quiet rfl (Journal.signalled_of_ne hes)
  | superseded _ _ hes => exact h.quiet rfl (Journal.signalled_of_ne hes)
  | posted => exact h.quiet rfl rfl
  | ended hm _ _ _ _ _ hrest =>
    refine h.quiet rfl (Journal.signalled_of_outside ?_ hrest)
    rcases hm with ⟨-, rfl⟩ | ⟨-, rfl⟩ <;> nofun
  | passed => exact h.quiet rfl rfl
  | task ht =>
    rw [← ht]
    exact h.quiet (by rw [Turn.runTask_scope]) (Journal.signalled_of_own (Turn.runTask_own _ _) k)
  | @watcher m s' r t ht =>
    -- a turn of the watcher takes steps as long as it can, and each of them keeps the mark
    rw [← ht]
    refine Turn.runWatcher_keeps (fun u => u.scope.Marked k (s.journal ++ u.report)) ?_
      (h.quiet rfl rfl)
    intro found u hu
    rcases Turn.stepWatcher_deed s.now k found u with hsame | ⟨c₁, r₁, es₁, hd, hstep⟩
    · rw [hsame]
      exact hu
    · rw [hstep, ← List.append_assoc]
      exact hd.marked hu

end

/-- **In every reachable state the watchers know.**  An invariant of each scope from its start
    on. -/
theorem Reachable.marked {s : Keeper} (h : s.Reachable) {k : Nat} {c : Scope}
    (hc : s.scopes[k]? = some c) : c.Marked k s.journal := by
  obtain ⟨b, hb⟩ := h.posted.mailbox hc
  obtain ⟨registrars, hnew, hreaches⟩ := h
  obtain ⟨ms, rfl⟩ := hreaches.exists_after
  have hstart : Reachable { registrars := registrars } := reachable_start hnew
  refine hstart.follow rfl (fun _ => True)
    (fun ms k c _ => c.Marked k (Keeper.after { registrars := registrars } ms).journal)
    (fun _ _ _ => trivial) ?_ ?_ trivial hc hb
  · -- nothing was written about a scope that begins
    intro ms n r r' i _ hbegin
    have hj := (hstart.after ms).documented
    obtain ⟨line, hline⟩ := beginScope_eq (Keeper.after { registrars := registrars } ms) n r' i
    rw [after_concat, show Keeper.move _ (.enable n) = _ from hbegin.move_eq, hline]
    refine ⟨fun _ => ?_, nofun⟩
    rw [Journal.signalled_append]
    refine Bool.or_eq_false_iff.2 ⟨Journal.signalled_of_ne fun e he hk => ?_, rfl⟩
    exact absurd (hj.known e he _ hk) (Nat.lt_irrefl _)
  · intro ms m k c b c' b' es _ he hmarked
    rw [after_concat]
    exact he.marked hmarked

/-! ## Signals that were accepted -/

/-- **The subscription that a move fills**: that which is the newest when a signal is raised, if
    the signal is accepted.  It is given as a list, so that over a run the fillings can be
    counted. -/
def acceptances (s : Keeper) : Move → List Nat
  | .raise _ => if s.acceptsSignal then s.subscriptions.newest?.toList else []
  | _ => []

section

variable {s : Keeper} {m : Move} {k : Nat} {c c' : Scope} {b b' : Mailbox} {es : Journal}
  {taken : List Nat}

/-- A signal that is accepted is put in the newest subscription: there is one, because one has
    room, and subscriptions are numbered like the scopes. -/
theorem acceptances_raise (hp : s.Posted) (h : s.acceptsSignal = true)
    (signal : TerminationSignal) : s.acceptances (.raise signal) = [s.scopes.length - 1] := by
  obtain ⟨b, hb, -⟩ := Subscriptions.hasRoom_iff.1 h
  have hpos := (List.getElem?_eq_some_iff.1 hb).1
  have hne : s.subscriptions.mailboxes ≠ [] := fun hnil => by
    rw [hnil] at hpos
    exact absurd hpos (Nat.not_lt_zero _)
  rw [acceptances, if_pos h, Subscriptions.newest?, if_neg (by simpa using hne), hp.length]
  rfl

/-- What has no room is not filled.  A mailbox without room may still be the newest, but then the
    signal is not accepted. -/
theorem acceptances_untouched (hp : s.Posted) (hb : s.mailbox? k = some b)
    (hm : ∀ signal, m = .raise signal → b.hasRoom = false) : (s.acceptances m).count k = 0 := by
  cases m with
  | raise signal =>
    cases haccepts : s.acceptsSignal with
    | false => simp [acceptances, haccepts]
    | true =>
      rw [acceptances_raise hp haccepts]
      refine List.count_eq_zero.2 fun hmem => ?_
      -- then it would be the newest, which has room
      obtain ⟨b', hb', hroom⟩ := Subscriptions.hasRoom_iff.1 haccepts
      rw [hp.length, ← List.mem_singleton.1 hmem] at hb'
      obtain rfl := Option.some.inj (hb'.symm.trans hb)
      rw [hm signal rfl] at hroom
      cases hroom
  | _ => rfl

/-- **How the subscription of scope number `k` was filled**: at most once, not while it has room,
    and exactly once if it holds a signal or its watcher has taken one.  `taken` are the
    subscriptions that were filled so far, in order. -/
structure FilledOnce (k : Nat) (b : Mailbox) (j : Journal) (taken : List Nat) : Prop where
  once : taken.count k ≤ 1
  room : b.hasRoom = true → taken.count k = 0
  held : ∀ {signal}, b.held = some signal → taken.count k = 1
  signalled : j.signalled k = true → taken.count k = 1

/-- Where nothing is accepted and the subscription is as before or has less: it may have been
    closed, but not emptied. -/
theorem FilledOnce.quiet {j : Journal} (h : FilledOnce k b j taken) (hes : es.signalled k = false)
    (hheld : b'.held = b.held) (hroom : b'.hasRoom = true → b.hasRoom = true)
    (haccepts : (s.acceptances m).count k = 0) :
    FilledOnce k b' (j ++ es) (taken ++ s.acceptances m) where
  once := by
    rw [List.count_append, haccepts]
    exact h.once
  room hr := by rw [List.count_append, haccepts, h.room (hroom hr)]
  held hb := by rw [List.count_append, haccepts, h.held (hheld ▸ hb)]
  signalled hj := by
    rw [Journal.signalled_append, hes, Bool.or_false] at hj
    rw [List.count_append, haccepts, h.signalled hj]

/-- Every case but two is quiet: the one in which the signal is put, and the turn of the watcher,
    which may take it out. -/
theorem Episode.filledOnce (he : s.Episode m k c b c' b' es) (hp : s.Posted)
    (h : FilledOnce k b s.journal taken) :
    FilledOnce k b' (s.move m).journal (taken ++ s.acceptances m) := by
  have hincident := he.incident
  have hb := he.mailbox
  rw [he.journal]
  generalize s.move m = s' at hincident ⊢
  cases hincident with
  | untouched hm _ _ hes =>
    exact h.quiet (Journal.signalled_of_ne hes) rfl id (acceptances_untouched hp hb hm)
  | superseded _ _ hes =>
    exact h.quiet (Journal.signalled_of_ne hes) rfl nofun (acceptances_untouched hp hb nofun)
  | @posted signal s' hroom =>
    -- the mailbox had room, so it is filled for the first time, and it has no room now
    obtain ⟨hnewest, haccepts⟩ := hp.accepts_of_room hb hroom
    have hone : (taken ++ s.acceptances (.raise signal)).count k = 1 := by
      rw [List.count_append, h.room hroom, acceptances_raise hp haccepts, ← hnewest,
        Nat.add_sub_cancel, List.count_singleton_self]
    refine ⟨Nat.le_of_eq hone, fun hr => ?_, fun _ => hone, fun _ => hone⟩
    simp [Mailbox.hasRoom, Mailbox.put] at hr
  | ended hm _ _ _ _ _ hrest =>
    refine h.quiet (Journal.signalled_of_outside ?_ hrest) rfl id
      (acceptances_untouched hp hb (by
        rintro signal rfl; rcases hm with ⟨h, -⟩ | ⟨h, -⟩ <;> cases h))
    rcases hm with ⟨-, rfl⟩ | ⟨-, rfl⟩ <;> nofun
  | passed => exact h.quiet rfl rfl id (acceptances_untouched hp hb nofun)
  | task ht _ _ hm =>
    rw [← ht]
    exact h.quiet (Journal.signalled_of_own (Turn.runTask_own _ _) k) rfl id
      (acceptances_untouched hp hb (by rintro signal rfl; rcases hm with h | h <;> cases h))
  | @watcher m s' r t ht _ _ hm =>
    -- the watcher may take what the mailbox holds; what is left neither has room nor holds more
    have hnone : (s.acceptances m).count k = 0 :=
      acceptances_untouched hp hb (by rintro signal rfl; rcases hm with h | h <;> cases h)
    have hcount : (taken ++ s.acceptances m).count k = taken.count k := by
      rw [List.count_append, hnone, Nat.add_zero]
    refine ⟨by rw [hcount]; exact h.once, fun hr => ?_, fun hheld => ?_, fun hj => ?_⟩
    · rw [hcount]
      split at hr
      · cases hr
      · exact h.room hr
    · rw [hcount]
      split at hheld
      · cases hheld
      · exact h.held hheld
    · -- a scope that is signalled now has found a signal
      rw [hcount]
      rw [Journal.signalled_append, Bool.or_eq_true] at hj
      rcases hj with hj | hj
      · exact h.signalled hj
      · obtain ⟨u, n, hmem⟩ := Journal.signalled_iff.1 hj
        obtain ⟨-, -, -, -, -, -, signal, hfound⟩ := Turn.runWatcher_of_cancelled ht hmem
        exact h.held (Mailbox.reception_eq_signal.1 hfound)

end

section

variable {start : Keeper}

/-- Every signal that was accepted was put in the subscription of a scope that is there.  So a
    scope that begins has a number that was never filled, which starts the invariant for it. -/
theorem Reachable.acceptances_lt (hstart : start.Reachable) (ms : List Move) :
    ∀ k ∈ start.observed acceptances ms, k < (start.after ms).scopes.length := by
  induction ms using List.reverseRecOn with
  | nil => exact nofun
  | append_singleton ms m ih =>
    intro k hk
    have hs := hstart.after ms
    rw [observed_concat] at hk
    rw [after_concat]
    refine Nat.lt_of_lt_of_le ?_ (hs.scopes_le m)
    rcases List.mem_append.1 hk with hk | hk
    · exact ih k hk
    · -- what was accepted was put in the newest
      refine Decidable.byContradiction fun hge => ?_
      cases m with
      | raise signal =>
        cases haccepts : (start.after ms).acceptsSignal with
        | false => simp [acceptances, haccepts] at hk
        | true =>
          rw [acceptances_raise hs.posted haccepts] at hk
          obtain ⟨b, hb, -⟩ := Subscriptions.hasRoom_iff.1 haccepts
          have hpos := (List.getElem?_eq_some_iff.1 hb).1
          rw [hs.posted.length, ← List.mem_singleton.1 hk] at hpos
          exact hge hpos
      | _ => cases hk

/-- **Every subscription was filled as it and the journal say.**  A new scope has a mailbox with
    room, which nothing has been put in and about which nothing is written. -/
theorem Reachable.filledOnce (hstart : start.Reachable) (hnone : start.scopes = []) (ms : List Move)
    {k : Nat} {b : Mailbox} (hk : k < (start.after ms).scopes.length)
    (hb : (start.after ms).mailbox? k = some b) :
    FilledOnce k b (start.after ms).journal (start.observed acceptances ms) := by
  refine hstart.follow hnone (fun _ => True)
    (fun ms k _ b => FilledOnce k b (start.after ms).journal (start.observed acceptances ms))
    (fun _ _ _ => trivial) ?_ ?_ trivial (List.getElem?_eq_getElem hk) hb
  · -- a scope that begins: its number is new
    intro ms n r r' i _ hbegin
    have hj := (hstart.after ms).documented
    have hzero : (start.observed acceptances (ms ++ [.enable n])).count
        (start.after ms).scopes.length = 0 := by
      rw [observed_concat]
      show List.count _ (start.observed acceptances ms ++ []) = 0
      rw [List.append_nil]
      exact List.count_eq_zero.2 fun hmem =>
        absurd (hstart.acceptances_lt ms _ hmem) (Nat.lt_irrefl _)
    obtain ⟨line, hline⟩ := beginScope_eq (start.after ms) n r' i
    rw [after_concat, show Keeper.move _ (.enable n) = _ from hbegin.move_eq, hline]
    refine ⟨by rw [hzero]; exact Nat.zero_le _, fun _ => hzero, nofun, fun hsignalled => ?_⟩
    rw [Journal.signalled_append, Journal.signalled_of_ne fun e he hk =>
      absurd (hj.known e he _ hk) (Nat.lt_irrefl _)] at hsignalled
    cases hsignalled
  · -- an episode of the scope
    intro ms m k c b c' b' es _ he hfilled
    rw [after_concat, observed_concat]
    exact he.filledOnce (hstart.after ms).posted hfilled

/-- **Signals that are accepted go to different scopes.**  A number that occurs is that of a
    scope, and its subscription was filled at most once. -/
theorem Reachable.acceptances_nodup (hstart : start.Reachable) (hnone : start.scopes = [])
    (ms : List Move) : (start.observed acceptances ms).Nodup := by
  refine List.nodup_iff_count_le_one.2 fun k => ?_
  by_cases hk : k ∈ start.observed acceptances ms
  · have hlt := hstart.acceptances_lt ms k hk
    obtain ⟨b, hb⟩ := (hstart.after ms).posted.mailbox (List.getElem?_eq_getElem hlt)
    exact (hstart.filledOnce hnone ms hlt hb).once
  · rw [List.count_eq_zero.2 hk]
    exact Nat.zero_le _

/-- **No scope is signalled without a signal that was accepted for it.**  The journal tells of
    known scopes only, so there is a subscription whose count the invariant gives. -/
theorem Reachable.signalled_accepted (hstart : start.Reachable) (hnone : start.scopes = [])
    (ms : List Move) {k : Nat} (h : (start.after ms).journal.signalled k = true) :
    k ∈ start.observed acceptances ms := by
  obtain ⟨t, n, hmem⟩ := Journal.signalled_iff.1 h
  have hlt := (hstart.after ms).documented.known _ hmem k rfl
  obtain ⟨b, hb⟩ := (hstart.after ms).posted.mailbox (List.getElem?_eq_getElem hlt)
  have hone := (hstart.filledOnce hnone ms hlt hb).signalled h
  exact List.count_pos_iff.1 (by omega)

end

end Keeper

end LeaseKeeper

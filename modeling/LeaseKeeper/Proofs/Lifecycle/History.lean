/-
  What the journal says of the scopes.

  The journal only grows, and an entry is made where something happens; so whatever was once true
  of a scope can be read off later.  Two things are proved together, change by change
  (`Documented`):

    * a scope is RECORDED (`Scope.Recorded`): how far it has come is what the entries about it add
      up to.  A cancelled scope has one cancellation; a watcher has started and ended as many
      deregistrations as its phase says; a task has started one call more than it has ended
      exactly while a call is in flight;

    * the journal is LAWFUL (`Journal.Lawful`): every entry was warranted by the entries before
      it.  No scope begins before its predecessors are cancelled, no task starts a call after the
      cancellation, no watcher before it, no call ends that was not in flight, and no scope is
      released that has not deregistered.

  The first says what is the case now, and proves the second at every change; the second says what
  has been the case at every moment before.

  Here are the two notions and what follows from each by itself; that changes keep them is proved
  where changes are known.  What is counted is counted scope by scope, so entries about others and
  entries about none fall out of every sum (`cancellations_eq_zero` and its siblings, `Silent`).
-/
import LeaseKeeper.Proofs.Lifecycle.Order

namespace LeaseKeeper

/-! ## Entries about a scope -/

namespace JournalEntry

/-- The scope that an entry is about. -/
def scope? : JournalEntry → Option Nat
  | began _ _ k _ => some k
  | cancelled _ _ k _ => some k
  | called _ _ k _ _ => some k
  | answered _ _ k _ _ _ => some k
  | released _ _ k => some k
  | _ => none

/-- An entry names the registrar and the identity of a scope, as far as it names any. -/
def Names (n : Nat) (i : Identity) : JournalEntry → Prop
  | began _ m _ l => m = n ∧ l = i
  | cancelled _ m _ _ => m = n
  | called _ m _ _ l => m = n ∧ l = i
  | answered _ m _ _ l _ => m = n ∧ l = i
  | released _ m _ => m = n
  | _ => True

/-- A scope is cancelled. -/
@[simp]
def cancels (k : Nat) : JournalEntry → Bool
  | cancelled _ _ j _ => j = k
  | _ => false

/-- A call of a scope starts. -/
@[simp]
def starts (k : Nat) (call : RegistryCall) : JournalEntry → Bool
  | called _ _ j call' _ => j = k ∧ call' = call
  | _ => false

/-- A call of a scope ends. -/
@[simp]
def ends (k : Nat) (call : RegistryCall) : JournalEntry → Bool
  | answered _ _ j call' _ _ => j = k ∧ call' = call
  | _ => false

/-- What is about a scope names it. -/
theorem scope?_of_cancels {k : Nat} {e : JournalEntry} (h : e.cancels k = true) :
    e.scope? = some k := by
  cases e <;> simp_all [cancels, scope?]

theorem scope?_of_starts {k : Nat} {call : RegistryCall} {e : JournalEntry}
    (h : e.starts k call = true) : e.scope? = some k := by
  cases e <;> simp_all [starts, scope?]

theorem scope?_of_ends {k : Nat} {call : RegistryCall} {e : JournalEntry}
    (h : e.ends k call = true) : e.scope? = some k := by
  cases e <;> simp_all [ends, scope?]

/-- An entry for the start of a call, written out. -/
theorem eq_called {k : Nat} {call : RegistryCall} {e : JournalEntry} (h : e.starts k call = true) :
    ∃ t n i, e = .called t n k call i := by
  cases e with
  | called t n j call' i =>
    obtain ⟨rfl, rfl⟩ : j = k ∧ call' = call := by simpa using h
    exact ⟨t, n, i, rfl⟩
  | _ => cases h

end JournalEntry

namespace Journal

/-- How often a scope was cancelled. -/
def cancellations (j : Journal) (k : Nat) : Nat := j.countP (·.cancels k)

/-- How many calls of a kind were started for a scope. -/
def starts (j : Journal) (k : Nat) (call : RegistryCall) : Nat := j.countP (·.starts k call)

/-- How many calls of a kind ended for a scope. -/
def ends (j : Journal) (k : Nat) (call : RegistryCall) : Nat := j.countP (·.ends k call)

/-- **A call is in flight**: one more was started than has ended. -/
def InFlight (j : Journal) (k : Nat) (call : RegistryCall) : Prop := j.ends k call < j.starts k call

/-- Entries that are about no scope. -/
def Silent (es : Journal) : Prop := ∀ e ∈ es, e.scope? = none

section

variable (j es : Journal) (k : Nat) (call : RegistryCall)

/-- Counts add up over reports. -/
theorem cancellations_append :
    (j ++ es : Journal).cancellations k = j.cancellations k + es.cancellations k :=
  List.countP_append

theorem starts_append : (j ++ es : Journal).starts k call = j.starts k call + es.starts k call :=
  List.countP_append

theorem ends_append : (j ++ es : Journal).ends k call = j.ends k call + es.ends k call :=
  List.countP_append

variable (e : JournalEntry)

@[simp]
theorem cancellations_nil : cancellations [] k = 0 := rfl

@[simp]
theorem starts_nil : starts [] k call = 0 := rfl

@[simp]
theorem ends_nil : ends [] k call = 0 := rfl

@[simp]
theorem cancellations_cons :
    cancellations (e :: es) k = es.cancellations k + if e.cancels k then 1 else 0 :=
  List.countP_cons

@[simp]
theorem starts_cons :
    starts (e :: es) k call = es.starts k call + if e.starts k call then 1 else 0 :=
  List.countP_cons

@[simp]
theorem ends_cons : ends (e :: es) k call = es.ends k call + if e.ends k call then 1 else 0 :=
  List.countP_cons

end

section

variable {es : Journal} {k : Nat}

/-- Entries about other scopes do not count. -/
theorem cancellations_eq_zero (h : ∀ e ∈ es, e.scope? ≠ some k) : es.cancellations k = 0 :=
  List.countP_eq_zero.2 fun e he hx => h e he (JournalEntry.scope?_of_cancels hx)

theorem starts_eq_zero (h : ∀ e ∈ es, e.scope? ≠ some k) (call : RegistryCall) :
    es.starts k call = 0 :=
  List.countP_eq_zero.2 fun e he hx => h e he (JournalEntry.scope?_of_starts hx)

theorem ends_eq_zero (h : ∀ e ∈ es, e.scope? ≠ some k) (call : RegistryCall) :
    es.ends k call = 0 :=
  List.countP_eq_zero.2 fun e he hx => h e he (JournalEntry.scope?_of_ends hx)

/-- What is about no scope is not about this one. -/
theorem Silent.ne (h : es.Silent) (k : Nat) : ∀ e ∈ es, e.scope? ≠ some k := by
  intro e he hk
  rw [h e he] at hk
  cases hk

theorem silent_nil : Silent [] := fun _ he => absurd he List.not_mem_nil

theorem Silent.cons (h : es.Silent) {e : JournalEntry} (he : e.scope? = none) :
    Silent (e :: es) := by
  intro e' he'
  rcases List.mem_cons.1 he' with rfl | he'
  · exact he
  · exact h e' he'

/-- Entries about no scope count for none. -/
theorem Silent.cancellations (h : es.Silent) (k : Nat) : es.cancellations k = 0 :=
  cancellations_eq_zero (h.ne k)

theorem Silent.starts (h : es.Silent) (k : Nat) (call : RegistryCall) : es.starts k call = 0 :=
  starts_eq_zero (h.ne k) call

theorem Silent.ends (h : es.Silent) (k : Nat) (call : RegistryCall) : es.ends k call = 0 :=
  ends_eq_zero (h.ne k) call

/-- The journal before and after an entry. -/
theorem split_of_mem {j : Journal} {e : JournalEntry} (h : e ∈ j) :
    ∃ p q : Journal, j = p ++ e :: q := List.append_of_mem h

/-- Of two entries one stands before the other, unless they are the same. -/
theorem split_of_two {j : Journal} {e e' : JournalEntry} (h : e ∈ j) (h' : e' ∈ j) :
    e = e' ∨ (∃ p q : Journal, j = p ++ e :: q ∧ e' ∈ p) ∨
      ∃ p q : Journal, j = p ++ e' :: q ∧ e ∈ p := by
  obtain ⟨p, q, rfl⟩ := split_of_mem h
  rcases List.mem_append.1 h' with hp | hq
  · exact .inr (.inl ⟨p, q, rfl, hp⟩)
  · rcases List.mem_cons.1 hq with rfl | hq
    · exact .inl rfl
    · obtain ⟨a, b, rfl⟩ := split_of_mem hq
      refine .inr (.inr ⟨p ++ e :: a, b, ?_, List.mem_append_right _ (List.mem_cons_self ..)⟩)
      rw [List.append_assoc, List.cons_append]

/-- Where a call was started, there is an entry that says so. -/
theorem exists_called {call : RegistryCall} (h : es.starts k call ≠ 0) :
    ∃ t n i, .called t n k call i ∈ es := by
  obtain ⟨e, he, hx⟩ := List.countP_pos_iff.1 (Nat.pos_of_ne_zero h)
  obtain ⟨t, n, i, rfl⟩ := JournalEntry.eq_called hx
  exact ⟨t, n, i, he⟩

/-- Where a call has ended, there is an entry that says so. -/
theorem exists_answered {call : RegistryCall} (h : es.ends k call ≠ 0) :
    ∃ t n i ok, .answered t n k call i ok ∈ es := by
  obtain ⟨e, he, hx⟩ := List.countP_pos_iff.1 (Nat.pos_of_ne_zero h)
  cases e with
  | answered t n j call' i ok =>
    obtain ⟨rfl, rfl⟩ : j = k ∧ call' = call := by simpa using hx
    exact ⟨t, n, i, ok, he⟩
  | _ => cases hx

/-- Where a scope was cancelled, there is an entry that says so. -/
theorem exists_cancelled (hx : es.cancellations k ≠ 0) :
    ∃ (a b : Journal) (u m : Nat) (cause : CancelCause), es = a ++ .cancelled u m k cause :: b := by
  obtain ⟨e, he, hcancels⟩ := List.countP_pos_iff.1 (Nat.pos_of_ne_zero hx)
  cases e with
  | cancelled u m j cause =>
    obtain rfl : j = k := by simpa using hcancels
    obtain ⟨a, b, h⟩ := split_of_mem he
    exact ⟨a, b, u, m, cause, h⟩
  | _ => cases hcancels

end

/-! ## Lawful journals -/

end Journal

/-- **What must have happened before an entry is made.** -/
def JournalEntry.Warranted (before : Journal) : JournalEntry → Prop
  | .began _ n k _ =>
    (∀ e ∈ before, ∀ j, e.scope? = some j → j < k) ∧
      ∀ t j i, .began t n j i ∈ before → before.cancellations j ≠ 0
  | .cancelled _ n k _ => (∃ t i, .began t n k i ∈ before) ∧ before.cancellations k = 0
  | .called _ n k .deregister i =>
    (∃ t, .began t n k i ∈ before) ∧ before.cancellations k ≠ 0 ∧ before.starts k .deregister = 0
  | .called _ n k _ i =>
    (∃ t, .began t n k i ∈ before) ∧ before.cancellations k = 0 ∧
      ∀ call : TaskCall, ¬ before.InFlight k call.call
  | .answered _ n k call i _ => (∃ t, .called t n k call i ∈ before) ∧ before.InFlight k call
  | .released _ _ k => before.ends k .deregister ≠ 0
  | _ => True

namespace Journal

/-- Entries that are warranted one after the other. -/
def LawfulFrom (before : Journal) : Journal → Prop
  | [] => True
  | e :: rest => e.Warranted before ∧ LawfulFrom (before ++ [e]) rest

/-- **Every entry was warranted** by the entries before it. -/
def Lawful (j : Journal) : Prop := LawfulFrom [] j

/-- The second part is warranted with the first one before it. -/
theorem lawfulFrom_append (before p q : Journal) :
    LawfulFrom before (p ++ q) ↔ LawfulFrom before p ∧ LawfulFrom (before ++ p) q := by
  induction p generalizing before with
  | nil => simp [LawfulFrom]
  | cons e p ih => simp [LawfulFrom, ih, and_assoc]

/-- A report that is warranted by all before it keeps a journal lawful. -/
theorem Lawful.append {j es : Journal} (hj : j.Lawful) (hes : LawfulFrom j es) :
    (j ++ es : Journal).Lawful :=
  (lawfulFrom_append [] j es).2 ⟨hj, hes⟩

/-- Any entry of a lawful journal was warranted. -/
theorem Lawful.warranted {p q : Journal} {e : JournalEntry}
    (h : (p ++ e :: q : Journal).Lawful) : e.Warranted p :=
  ((lawfulFrom_append [] p (e :: q)).1 h).2.1

/-- A scope begins once: its number is greater than all that were written before. -/
theorem Lawful.began_once {j : Journal} {t t' n n' k : Nat} {i i' : Identity} (h : j.Lawful)
    (hb : .began t n k i ∈ j) (hb' : .began t' n' k i' ∈ j) : t = t' := by
  rcases split_of_two hb hb' with heq | ⟨p, q, rfl, hp⟩ | ⟨p, q, rfl, hp⟩
  · cases heq
    rfl
  · exact absurd (h.warranted.1 _ hp k rfl) (Nat.lt_irrefl _)
  · exact absurd (h.warranted.1 _ hp k rfl) (Nat.lt_irrefl _)

/-- An entry that is about no scope needs no warrant. -/
theorem warranted_of_silent {before : Journal} {e : JournalEntry} (h : e.scope? = none) :
    e.Warranted before := by
  cases e with
  | began => cases h
  | cancelled => cases h
  | called => cases h
  | answered => cases h
  | released => cases h
  | counted => trivial
  | gauged => trivial
  | logged => trivial
  | exited => trivial

/-- So is a whole report about no scope. -/
theorem Silent.lawfulFrom {es : Journal} (h : es.Silent) (before : Journal) :
    LawfulFrom before es := by
  induction es generalizing before with
  | nil => trivial
  | cons e es ih =>
    exact ⟨warranted_of_silent (h e (List.mem_cons_self ..)),
      ih (fun e he => h e (List.mem_cons_of_mem _ he)) _⟩

/-- A task starts a call only for a scope that began before and is not cancelled. -/
theorem warranted_call {before : Journal} {t n k : Nat} {call : TaskCall} {i : Identity}
    (h : (JournalEntry.called t n k call.call i).Warranted before) :
    (∃ t, .began t n k i ∈ before) ∧ before.cancellations k = 0 := by
  cases call with
  | register => exact ⟨h.1, h.2.1⟩
  | heartbeat => exact ⟨h.1, h.2.1⟩

section

variable {p q : Journal} {t n k : Nat} {i : Identity}

/-- A scope was cancelled before it deregistered: this call needs a cancellation to start, and it
    had to start to end. -/
theorem Lawful.cancelled_before_answer {ok : Bool}
    (h : (p ++ .answered t n k .deregister i ok :: q : Journal).Lawful) :
    p.cancellations k ≠ 0 := by
  obtain ⟨u, hcalled⟩ := h.warranted.1
  obtain ⟨a, b, rfl⟩ := split_of_mem hcalled
  rw [List.append_assoc, List.cons_append] at h
  obtain ⟨-, hcancelled, -⟩ := h.warranted
  rw [cancellations_append]
  omega

/-- After its cancellation no call of a task starts, as such a start would not be warranted. -/
theorem Lawful.no_start (h : (p ++ q : Journal).Lawful) (hx : p.cancellations k ≠ 0)
    (call : TaskCall) : q.starts k call.call = 0 := by
  refine Decidable.byContradiction fun hstarts => ?_
  obtain ⟨u, m, l, hcalled⟩ := exists_called hstarts
  obtain ⟨a, b, rfl⟩ := split_of_mem hcalled
  rw [← List.append_assoc] at h
  obtain ⟨-, hzero⟩ := warranted_call h.warranted
  rw [cancellations_append] at hzero
  omega

end

end Journal

/-! ## Recorded scopes -/

namespace Scope

/-- How many calls of a kind a task has in flight. -/
def callsInFlight (c : Scope) (call : TaskCall) : Nat :=
  match c.task with
  | .calling _ call' _ => if call' = call then 1 else 0
  | _ => 0

/-- How many deregistrations a watcher has started. -/
def deregistrations (c : Scope) : Nat := if c.watcher = .watching then 0 else 1

/-- How many deregistrations a watcher has ended. -/
def deregistered (c : Scope) : Nat := if c.watcher = .finished then 1 else 0

/-- **Scope number `k` is what a journal says of it.** -/
structure Recorded (k : Nat) (c : Scope) (j : Journal) : Prop where
  names : ∀ e ∈ j, e.scope? = some k → e.Names c.owner c.identity
  began : ∃ t, .began t c.owner k c.identity ∈ j
  cancelled : j.cancellations k = c.isCancelled.toNat
  deregisterStarts : j.starts k .deregister = c.deregistrations
  deregisterEnds : j.ends k .deregister = c.deregistered
  calls : ∀ call : TaskCall, j.starts k call.call = j.ends k call.call + c.callsInFlight call
  alive : c.isAlive = true → ∃ t, .answered t c.owner k .register c.identity true ∈ j

namespace Recorded

variable {k : Nat} {c c' : Scope} {j es : Journal}

/-- A call that was started for a scope was started in its name. -/
theorem caller (h : c.Recorded k j) {call : RegistryCall} (hcall : j.starts k call ≠ 0) :
    ∃ t, .called t c.owner k call c.identity ∈ j := by
  obtain ⟨t, n, i, he⟩ := Journal.exists_called hcall
  obtain ⟨rfl, rfl⟩ := h.names _ he rfl
  exact ⟨t, he⟩

/-- Entries about other scopes do not matter. -/
theorem other (h : c.Recorded k j) (hes : ∀ e ∈ es, e.scope? ≠ some k) :
    c.Recorded k (j ++ es) where
  names e he hk := by
    rcases List.mem_append.1 he with he | he
    · exact h.names e he hk
    · exact absurd hk (hes e he)
  began := h.began.imp fun _ => List.mem_append_left _
  cancelled := by
    rw [Journal.cancellations_append, Journal.cancellations_eq_zero hes, h.cancelled, Nat.add_zero]
  deregisterStarts := by
    rw [Journal.starts_append, Journal.starts_eq_zero hes, h.deregisterStarts, Nat.add_zero]
  deregisterEnds := by
    rw [Journal.ends_append, Journal.ends_eq_zero hes, h.deregisterEnds, Nat.add_zero]
  calls call := by
    rw [Journal.starts_append, Journal.ends_append, Journal.starts_eq_zero hes,
      Journal.ends_eq_zero hes, Nat.add_zero, Nat.add_zero, h.calls]
  alive hx := (h.alive hx).imp fun _ => List.mem_append_left _

/-- **A scope that goes on** is recorded if the new entries add up to how far it went.  Each
    hypothesis is about the report alone: what it adds to a count is what the scope has gone on
    by. -/
theorem extend (h : c.Recorded k j) (hsame : c.SameScope c')
    (hnames : ∀ e ∈ es, e.scope? = some k → e.Names c.owner c.identity)
    (hx : c.isCancelled.toNat + es.cancellations k = c'.isCancelled.toNat)
    (hstarts : c.deregistrations + es.starts k .deregister = c'.deregistrations)
    (hends : c.deregistered + es.ends k .deregister = c'.deregistered)
    (hcalls : ∀ call : TaskCall, c.callsInFlight call + es.starts k call.call =
      es.ends k call.call + c'.callsInFlight call)
    (halive : c'.isAlive = true →
      c.isAlive = true ∨ ∃ t, .answered t c.owner k .register c.identity true ∈ es) :
    c'.Recorded k (j ++ es) where
  names e he hk := by
    rw [hsame.owner, hsame.identity]
    rcases List.mem_append.1 he with he | he
    · exact h.names e he hk
    · exact hnames e he hk
  began := by
    rw [hsame.owner, hsame.identity]
    exact h.began.imp fun _ => List.mem_append_left _
  cancelled := by
    rw [Journal.cancellations_append, h.cancelled, hx]
  deregisterStarts := by
    rw [Journal.starts_append, h.deregisterStarts, hstarts]
  deregisterEnds := by
    rw [Journal.ends_append, h.deregisterEnds, hends]
  calls call := by
    -- started = ended + in flight, before and after
    have hold := h.calls call
    have hnew := hcalls call
    rw [Journal.starts_append, Journal.ends_append]
    omega
  alive hlive := by
    rw [hsame.owner, hsame.identity]
    rcases halive hlive with hold | ⟨t, ht⟩
    · exact (h.alive hold).imp fun _ => List.mem_append_left _
    · exact ⟨t, List.mem_append_right _ ht⟩

end Recorded

end Scope

end LeaseKeeper

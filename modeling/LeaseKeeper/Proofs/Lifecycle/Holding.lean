/-
  What the registry holds.

  A registry holds an identity from the moment a registration of it succeeds until a
  deregistration of it succeeds (`Journal.holds`).  The two workers of a scope do not wait for
  each other, and disabling waits for neither, so two races can be lost:

    * a registration that was in flight when its scope was cancelled may succeed after the scope
      has deregistered, and then the registry holds an identity though nobody keeps it alive;

    * a deregistration of an earlier scope may succeed after the current scope has registered, and
      then the registry does not hold the identity until it is registered again.

  These are the only ways.  When everything has come to rest, the registry holds exactly what the
  first race has left behind (`holds_at_rest`), and while a scope is alive, the registry lacks its
  identity exactly after the second (`lacks_while_alive`).  For each race there is a run that
  loses it.

  Both start from the last entry that had an effect on the identity (`foldl_effect`), and ask what
  it can be.  At rest it is a registration, and its scope has deregistered with success; that came
  before, or it would be the last.  A deregistration is preceded by a cancellation and no call
  starts after that, so the registration was in flight.  While a scope is alive the last one is a
  deregistration, and the scope has registered before; a live scope has not deregistered, so it
  was another one, and an earlier one as the live one is the newest.
-/
import LeaseKeeper.Proofs.Lifecycle.Silence

namespace LeaseKeeper

/-! ## Holding -/

/-- **What an entry does to the registration** of an identity by registrar number `n`: a
    registration that succeeds makes it, a deregistration that succeeds ends it. -/
def JournalEntry.effect? (n : Nat) (i : Identity) : JournalEntry → Option Bool
  | .answered _ m _ .register l true => if m = n ∧ l = i then some true else none
  | .answered _ m _ .deregister l true => if m = n ∧ l = i then some false else none
  | _ => none

/-- Only a registration that succeeds makes an identity known. -/
theorem JournalEntry.registers {n : Nat} {i : Identity} {e : JournalEntry}
    (h : e.effect? n i = some true) : ∃ t k, e = .answered t n k .register i true := by
  unfold JournalEntry.effect? at h
  split at h
  · rename_i t m k l
    split at h
    · rename_i heq
      exact ⟨t, k, by rw [heq.1, heq.2]⟩
    · cases h
  · split at h <;> cases h
  · cases h

/-- Only a deregistration that succeeds ends it. -/
theorem JournalEntry.deregisters {n : Nat} {i : Identity} {e : JournalEntry}
    (h : e.effect? n i = some false) : ∃ t k, e = .answered t n k .deregister i true := by
  unfold JournalEntry.effect? at h
  split at h
  · split at h <;> cases h
  · rename_i t m k l
    split at h
    · rename_i heq
      exact ⟨t, k, by rw [heq.1, heq.2]⟩
    · cases h
  · cases h

theorem JournalEntry.effect_register (t n k : Nat) (i : Identity) :
    (JournalEntry.answered t n k .register i true).effect? n i = some true := if_pos ⟨rfl, rfl⟩

theorem JournalEntry.effect_deregister (t n k : Nat) (i : Identity) :
    (JournalEntry.answered t n k .deregister i true).effect? n i = some false := if_pos ⟨rfl, rfl⟩

/-- A deregistration by a registrar fails. -/
def JournalEntry.failsToDeregister (n : Nat) : JournalEntry → Bool
  | .answered _ m _ .deregister _ false => m = n
  | _ => false

namespace Journal

/-- **Whether the registry holds an identity** that a registrar has registered. -/
def holds (j : Journal) (n : Nat) (i : Identity) : Bool :=
  j.foldl (fun held e => (e.effect? n i).getD held) false

/-- Nothing since an entry has had the opposite effect. -/
def Lasts (q : Journal) (n : Nat) (i : Identity) (held : Bool) : Prop :=
  ∀ e ∈ q, e.effect? n i ≠ some (!held)

/-- The last effect counts: induction on the journal, and the first entry either has an effect, from
    which the rest starts, or has none. -/
theorem foldl_effect (n : Nat) (i : Identity) (j : Journal) (before held : Bool) :
    j.foldl (fun held e => (e.effect? n i).getD held) before = held ↔
      (before = held ∧ j.Lasts n i held) ∨
        ∃ p q e, j = p ++ e :: q ∧ e.effect? n i = some held ∧ Lasts q n i held := by
  induction j generalizing before with
  | nil =>
    constructor
    · exact fun h => .inl ⟨h, fun _ he => absurd he List.not_mem_nil⟩
    · rintro (⟨h, -⟩ | ⟨p, q, e, h, -⟩)
      · exact h
      · cases p <;> cases h
  | cons e j ih =>
    rw [List.foldl_cons, ih]
    constructor
    · rintro (⟨hstart, hlasts⟩ | ⟨p, q, e', rfl, heffect, hlasts⟩)
      · cases heffect : e.effect? n i with
        | none =>
          rw [heffect] at hstart
          refine .inl ⟨hstart, ?_⟩
          intro e' he'
          rcases List.mem_cons.1 he' with rfl | he'
          · rw [heffect]
            nofun
          · exact hlasts e' he'
        | some b =>
          rw [heffect] at hstart
          exact .inr ⟨[], j, e, rfl, heffect.trans (congrArg some hstart), hlasts⟩
      · exact .inr ⟨e :: p, q, e', rfl, heffect, hlasts⟩
    · rintro (⟨hstart, hlasts⟩ | ⟨p, q, e', hsplit, heffect, hlasts⟩)
      · -- No entry undoes what was there before.
        refine .inl ⟨?_, fun e' he' => hlasts e' (List.mem_cons_of_mem _ he')⟩
        have hfirst := hlasts e (List.mem_cons_self ..)
        cases heffect : e.effect? n i with
        | none => exact hstart
        | some b =>
          rw [heffect] at hfirst
          show b = held
          cases b <;> cases held <;> first | rfl | exact absurd rfl hfirst
      · cases p with
        | nil =>
          obtain ⟨rfl, rfl⟩ := List.cons.inj hsplit
          exact .inl ⟨by rw [heffect]; rfl, hlasts⟩
        | cons e₀ p =>
          obtain ⟨rfl, rfl⟩ := List.cons.inj hsplit
          exact .inr ⟨p, q, e', rfl, heffect, hlasts⟩

/-- The registry starts with nothing, so what it holds was registered. -/
theorem holds_iff (j : Journal) (n : Nat) (i : Identity) : j.holds n i = true ↔
    ∃ p q e, j = p ++ e :: q ∧ e.effect? n i = some true ∧ Lasts q n i true := by
  unfold holds
  rw [foldl_effect]
  constructor
  · rintro (⟨hstart, -⟩ | h)
    · cases hstart
    · exact h
  · exact .inr

/-- Where an identity was registered once and is not held, a deregistration counted last. -/
theorem lacks_iff {j : Journal} {n : Nat} {i : Identity} {e₀ : JournalEntry} (he₀ : e₀ ∈ j)
    (heffect₀ : e₀.effect? n i = some true) : j.holds n i = false ↔
    ∃ p q e, j = p ++ e :: q ∧ e.effect? n i = some false ∧ Lasts q n i false := by
  unfold holds
  rw [foldl_effect]
  constructor
  · rintro (⟨-, hlasts⟩ | h)
    · exact absurd heffect₀ (hlasts e₀ he₀)
    · exact h
  · exact .inr

/-- What had the opposite effect came before the last effect: it is not the same entry, and not a
    later one. -/
theorem mem_before {p q : Journal} {e e₀ : JournalEntry} {n : Nat} {i : Identity} {held : Bool}
    (hmem : e₀ ∈ p ++ e :: q) (he : e.effect? n i = some held) (hlasts : q.Lasts n i held)
    (he₀ : e₀.effect? n i = some (!held)) : e₀ ∈ p := by
  rcases List.mem_append.1 hmem with hp | hq
  · exact hp
  · rcases List.mem_cons.1 hq with rfl | hq
    · rw [he] at he₀
      cases held <;> cases he₀
    · exact absurd he₀ (hlasts e₀ hq)

end Journal

/-! ## A registration that ends late -/

section

variable {p q : Journal} {t n k : Nat} {i : Identity}

/-- **A call of a task that ends after its scope has deregistered** was in flight when the scope was
    cancelled. -/
theorem Journal.Lawful.in_flight_at_cancellation {u m : Nat} {l : Identity} (call : TaskCall)
    {ok ok' : Bool} (h : (p ++ .answered t n k call.call i ok :: q : Journal).Lawful)
    (hmem : .answered u m k .deregister l ok' ∈ p) :
    ∃ (a b : Journal) (v m' : Nat) (cause : CancelCause), p = a ++ .cancelled v m' k cause :: b ∧
      a.InFlight k call.call ∧ .answered u m k .deregister l ok' ∈ b := by
  have hflight : p.ends k call.call < p.starts k call.call := h.warranted.2
  obtain ⟨p₁, p₂, rfl⟩ := Journal.split_of_mem hmem
  have hanswer : (p₁ ++ .answered u m k .deregister l ok' ::
      (p₂ ++ .answered t n k call.call i ok :: q) : Journal).Lawful := by
    rw [List.append_assoc, List.cons_append] at h
    exact h
  obtain ⟨a, b, v, m', cause, rfl⟩ :=
    Journal.exists_cancelled hanswer.cancelled_before_answer
  refine ⟨a, b ++ .answered u m k .deregister l ok' :: p₂, v, m', cause, by simp, ?_, by simp⟩
  -- nothing has started since, so what ended was in flight
  have hcancelled : (a ++ [.cancelled v m' k cause] : Journal).cancellations k ≠ 0 := by
    rw [Journal.cancellations_append]
    simp
  have hnone := Journal.Lawful.no_start (p := a ++ [.cancelled v m' k cause])
    (q := b ++ .answered u m k .deregister l ok' :: p₂ ++ .answered t n k call.call i ok :: q)
    (by simpa using h) hcancelled call
  rw [Journal.starts_append, Journal.starts_append, Journal.starts_cons] at hnone
  rw [Journal.starts_append, Journal.starts_append, Journal.starts_cons, Journal.starts_cons,
    Journal.ends_append, Journal.ends_append, Journal.ends_cons, Journal.ends_cons] at hflight
  show a.ends k call.call < a.starts k call.call
  simp only [JournalEntry.starts, Bool.false_eq_true, if_false] at hnone hflight
  omega

end

namespace Keeper

/-! ## Coming to rest -/

/-- **Registrar number `n` has come to rest**: all its scopes are cancelled, no call is in flight,
    all watchers have finished, and no deregistration has failed. -/
structure AtRest (s : Keeper) (n : Nat) : Prop where
  cancelled : ∀ c ∈ s.scopes, c.owner = n → c.isCancelled = true
  idle : ∀ c ∈ s.scopes, c.owner = n →
    c.callsInFlight .register = 0 ∧ c.callsInFlight .heartbeat = 0
  finished : ∀ c ∈ s.scopes, c.owner = n → c.watcher = .finished
  deregistered : ∀ e ∈ s.journal, e.failsToDeregister n = false

instance (s : Keeper) (n : Nat) : Decidable (s.AtRest n) :=
  decidable_of_iff ((∀ c ∈ s.scopes, c.owner = n → c.isCancelled = true) ∧
    (∀ c ∈ s.scopes, c.owner = n →
      c.callsInFlight .register = 0 ∧ c.callsInFlight .heartbeat = 0) ∧
    (∀ c ∈ s.scopes, c.owner = n → c.watcher = .finished) ∧
    (∀ e ∈ s.journal, e.failsToDeregister n = false))
    ⟨fun ⟨hx, hi, hf, hd⟩ => ⟨hx, hi, hf, hd⟩, fun ⟨hx, hi, hf, hd⟩ => ⟨hx, hi, hf, hd⟩⟩

/-- At rest, every scope has deregistered, and with success. -/
theorem AtRest.has_deregistered {s : Keeper} {n : Nat} (hrest : s.AtRest n) (hj : s.Documented)
    {k : Nat} {c : Scope} (hc : s.scopes[k]? = some c) (howner : c.owner = n) :
    ∃ u, .answered u n k .deregister c.identity true ∈ s.journal := by
  have hrec := hj.recorded hc
  have hends : s.journal.ends k .deregister ≠ 0 := by
    have hfinished := hrest.finished c (List.mem_of_getElem? hc) howner
    rw [hrec.deregisterEnds, Scope.deregistered, if_pos hfinished]
    exact Nat.one_ne_zero
  obtain ⟨u, m, l, ok, hanswer⟩ := Journal.exists_answered hends
  obtain ⟨rfl, rfl⟩ := hrec.names _ hanswer rfl
  rw [howner] at hanswer
  have hgood := hrest.deregistered _ hanswer
  cases ok with
  | true => exact ⟨u, hanswer⟩
  | false => exact absurd hgood (by simp [JournalEntry.failsToDeregister])

/-- **A registration of scope number `k` came late**: it was in flight when the scope was cancelled,
    it succeeded after the scope's deregistration had, and nothing has taken it off since. -/
def CameLate (s : Keeper) (n k : Nat) (i : Identity) : Prop :=
  ∃ a b q : Journal, ∃ t u v cause,
    s.journal = (a ++ .cancelled t n k cause :: b) ++ .answered v n k .register i true :: q ∧
      a.InFlight k .register ∧ .answered u n k .deregister i true ∈ b ∧ q.Lasts n i true

/-- **What the registry holds when a registrar has come to rest**: exactly the identities of
    which a registration came late. -/
theorem holds_at_rest {s : Keeper} (h : s.Reachable) {n : Nat} (hrest : s.AtRest n)
    (i : Identity) : s.journal.holds n i = true ↔ ∃ k, s.CameLate n k i := by
  have hj := h.documented
  rw [Journal.holds_iff]
  constructor
  · rintro ⟨p, q, e, hsplit, heffect, hlasts⟩
    obtain ⟨v, k, rfl⟩ := JournalEntry.registers heffect
    have hlawful := hj.lawful
    rw [hsplit] at hlawful
    -- the scope of this registration has deregistered, and that was before
    have hmem : .answered v n k .register i true ∈ s.journal := by
      rw [hsplit]
      exact List.mem_append_right _ (List.mem_cons_self ..)
    have hk := hj.known _ hmem k rfl
    have hrec := hj.recorded (List.getElem?_eq_getElem hk)
    obtain ⟨howner, hidentity⟩ := hrec.names _ hmem rfl
    obtain ⟨u, hanswer⟩ :=
      hrest.has_deregistered hj (List.getElem?_eq_getElem hk) howner.symm
    rw [← hidentity, hsplit] at hanswer
    have hbefore := Journal.mem_before hanswer heffect hlasts
      (JournalEntry.effect_deregister u n k i)
    -- so it was cancelled before, and the registration was in flight
    obtain ⟨a, b, t, m', cause, rfl, hflight, hb⟩ :=
      Journal.Lawful.in_flight_at_cancellation .register hlawful hbefore
    have hm' : m' = n := by
      have hc := hrec.names (.cancelled t m' k cause) (by rw [hsplit]; simp) rfl
      exact hc.trans howner.symm
    subst hm'
    exact ⟨k, a, b, q, t, u, v, cause, hsplit, hflight, hb, hlasts⟩
  · -- A registration that came late is the last entry with an effect.
    rintro ⟨k, a, b, q, t, u, v, cause, hsplit, -, -, hlasts⟩
    exact ⟨_, q, _, hsplit, JournalEntry.effect_register v n k i, hlasts⟩

/-- A registrar that was disabled while its first registration was in flight, and a while later. -/
def overtakenRun : Keeper :=
  ((((alone { register := { queued := [{ latency := ⟨100⟩ }] } }).enable 0).sleep ⟨50⟩).disable
    0).sleep ⟨100⟩

/-- **A registration may be left behind**: it was in flight while its scope deregistered. -/
theorem not_always_clean :
    ¬ ∀ (s : Keeper) (n : Nat) (i : Identity), s.Reachable → s.AtRest n →
      s.journal.holds n i = false := by
  intro h
  have hs : overtakenRun.Reachable :=
    (((((alone_reachable _).enable 0).sleep ⟨50⟩).disable 0).sleep ⟨100⟩)
  have hrest : overtakenRun.AtRest 0 := by decide +kernel
  have hheld : overtakenRun.journal.holds 0 someone = true := by decide +kernel
  rw [h overtakenRun 0 someone hs hrest] at hheld
  cases hheld

/-- A registrar that was disabled when its first registration had ended, and a while later. -/
def finishedRun : Keeper := ((((alone {}).enable 0).sleep ⟨50⟩).disable 0).sleep ⟨100⟩

theorem finishedRun_holds : finishedRun.Reachable ∧ finishedRun.AtRest 0 ∧
    ∀ i, finishedRun.journal.holds 0 i = true ↔ ∃ k, finishedRun.CameLate 0 k i := by
  have hs : finishedRun.Reachable :=
    (((((alone_reachable _).enable 0).sleep ⟨50⟩).disable 0).sleep ⟨100⟩)
  have hrest : finishedRun.AtRest 0 := by decide +kernel
  exact ⟨hs, hrest, fun i => holds_at_rest hs hrest i⟩

/-! ## While a scope is alive -/

/-- **Scope number `j` deregistered after scope number `k` had registered**, and the identity has
    not been registered since. -/
def TookOff (s : Keeper) (n j k : Nat) (i : Identity) : Prop :=
  ∃ a b q : Journal, ∃ t u,
    s.journal = (a ++ .answered t n k .register i true :: b) ++
      .answered u n j .deregister i true :: q ∧ q.Lasts n i false

/-- **What the registry lacks while a scope is alive**: exactly the identity that an earlier
    scope has taken off since. -/
theorem lacks_while_alive {s : Keeper} (h : s.Reachable) {k : Nat} {c : Scope}
    (hc : s.scopes[k]? = some c) (hx : c.isCancelled = false) (halive : c.isAlive = true) :
    s.journal.holds c.owner c.identity = false ↔
      ∃ j a, s.scopes[j]? = some a ∧ a.owner = c.owner ∧ a.count < c.count ∧
        a.identity = c.identity ∧ s.TookOff c.owner j k c.identity := by
  have ho := h.orderly
  have hj := h.documented
  have hrec := hj.recorded hc
  obtain ⟨t, hregistered⟩ := hrec.alive halive
  rw [Journal.lacks_iff hregistered (JournalEntry.effect_register t c.owner k c.identity)]
  constructor
  · rintro ⟨p, q, e, hsplit, heffect, hlasts⟩
    obtain ⟨u, j, rfl⟩ := JournalEntry.deregisters heffect
    -- the registration of the live scope came before
    have hbefore : .answered t c.owner k .register c.identity true ∈ p := by
      rw [hsplit] at hregistered
      exact Journal.mem_before hregistered heffect hlasts
        (JournalEntry.effect_register t c.owner k c.identity)
    have hmem : .answered u c.owner j .deregister c.identity true ∈ s.journal := by
      rw [hsplit]
      exact List.mem_append_right _ (List.mem_cons_self ..)
    have hlt := hj.known _ hmem j rfl
    have ha : s.scopes[j]? = some s.scopes[j] := List.getElem?_eq_getElem hlt
    obtain ⟨howner, hidentity⟩ := (hj.recorded ha).names _ hmem rfl
    -- the one that deregistered is another scope, for it was cancelled
    have hjk : j ≠ k := by
      rintro rfl
      have hlawful := hj.lawful
      rw [hsplit] at hlawful
      have hcancelled := hlawful.cancelled_before_answer
      have hlive := hrec.cancelled
      rw [hsplit, Journal.cancellations_append, hx] at hlive
      exact hcancelled (Nat.eq_zero_of_add_eq_zero_right hlive)
    have hcount : s.scopes[j].count < c.count := by
      obtain ⟨m, hm, -, hle⟩ := ho.owned ha
      rw [← howner] at hm
      have hnewest := (ho.live_newest hc hm hx).2
      have hne : s.scopes[j].count ≠ c.count := fun heq =>
        hjk (ho.count_inj ha hc howner.symm heq)
      omega
    obtain ⟨a, b, rfl⟩ := Journal.split_of_mem hbefore
    exact ⟨j, s.scopes[j], ha, howner.symm, hcount, hidentity.symm, a, b, q, t, u, hsplit, hlasts⟩
  · -- The deregistration is the last entry with an effect.
    rintro ⟨j, -, -, -, -, -, a, b, q, t, u, hsplit, hlasts⟩
    exact ⟨_, q, _, hsplit, JournalEntry.effect_deregister u c.owner j c.identity, hlasts⟩

/-- A registrar that was disabled and enabled again while its first deregistration was in flight,
    and a while later. -/
def takenOffRun : Keeper :=
  (((((alone { deregister := { queued := [{ latency := ⟨100⟩ }] } }).enable 0).sleep ⟨30⟩).disable
    0).enable 0).sleep ⟨130⟩

/-- **An earlier scope may take off what the current one has registered.** -/
theorem not_always_held :
    ¬ ∀ (s : Keeper) (k : Nat) (c : Scope), s.Reachable →
      (∀ a ∈ s.scopes, a.owner = c.owner → a.identity = c.identity) → s.scopes[k]? = some c →
      c.isCancelled = false → c.isAlive = true → (∀ call, c.callsInFlight call = 0) →
      s.journal.holds c.owner c.identity = true := by
  intro h
  have hs : takenOffRun.Reachable :=
    ((((((alone_reachable _).enable 0).sleep ⟨30⟩).disable 0).enable 0).sleep ⟨130⟩)
  have hvalues : takenOffRun.scopes[1]?.map (fun c =>
      (c.owner, c.identity, c.isCancelled, c.task)) =
      some (0, someone, false, .waiting 30040 .heartbeat) := by
    decide +kernel
  obtain ⟨c, hc, hpair⟩ := Option.map_eq_some_iff.1 hvalues
  simp only [Prod.mk.injEq] at hpair
  obtain ⟨howner, hidentity, hx, htask⟩ := hpair
  have hsame : ∀ a ∈ takenOffRun.scopes, a.identity = someone := by decide +kernel
  have hlacks : takenOffRun.journal.holds 0 someone = false := by decide +kernel
  have hholds := h takenOffRun 1 c hs (fun a ha _ => by rw [hsame a ha, hidentity]) hc hx
    (by rw [Scope.isAlive, htask]; rfl) (fun call => by rw [Scope.callsInFlight, htask])
  rw [howner, hidentity, hlacks] at hholds
  cases hholds

/-- A registrar that was disabled, and enabled again when its first scope had been released. -/
def registeredAgain : Keeper :=
  (((((alone {}).enable 0).sleep ⟨30⟩).disable 0).sleep ⟨10⟩).enable 0 |>.sleep ⟨30⟩

theorem registeredAgain_lacks : registeredAgain.Reachable ∧
    ∃ c, registeredAgain.scopes[1]? = some c ∧ c.isCancelled = false ∧ c.isAlive = true ∧
      (registeredAgain.journal.holds c.owner c.identity = false ↔
        ∃ j a, registeredAgain.scopes[j]? = some a ∧ a.owner = c.owner ∧ a.count < c.count ∧
          a.identity = c.identity ∧ registeredAgain.TookOff c.owner j 1 c.identity) := by
  have hs : registeredAgain.Reachable :=
    ((((((alone_reachable _).enable 0).sleep ⟨30⟩).disable 0).sleep ⟨10⟩).enable 0).sleep ⟨30⟩
  have hvalues : registeredAgain.scopes[1]?.map (fun c => (c.isCancelled, c.isAlive)) =
      some (false, true) := by
    decide +kernel
  obtain ⟨c, hc, hpair⟩ := Option.map_eq_some_iff.1 hvalues
  obtain ⟨hx, halive⟩ := Prod.mk.inj hpair
  exact ⟨hs, c, hc, hx, halive, lacks_while_alive hs hc hx halive⟩

end Keeper

end LeaseKeeper

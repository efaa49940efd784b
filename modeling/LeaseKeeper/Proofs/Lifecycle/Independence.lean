/-
  Registrars do not notice each other.

  A keeper is used by OPERATIONS: enabling, disabling and dropping a registrar, changing its registry,
  raising a signal, and letting time pass.  Whatever one registrar shows after each operation that
  concerns it (`Keeper.showings`) stays the same if all operations on others are left out, as long
  as no signal is raised (`registrars_independent`).

  The proof keeps a mirror of the registrar's share while the operations go on: an operation on
  another registrar leaves it alone, and one that concerns the registrar is done in both keepers.
-/
import LeaseKeeper.Proofs.Lifecycle.Interplay

namespace LeaseKeeper

/-! ## Operations -/

/-- **What is done with a keeper from outside.** -/
inductive Operation where
  | enable (number : Nat)
  | disable (number : Nat)
  | drop (number : Nat)
  /-- Another outcome of calls, or another interval between signs of life. -/
  | modify (number : Nat) (change : ScriptedRegistry → ScriptedRegistry)
  | raise (signal : TerminationSignal)
  | sleep (d : Duration)

/-- Whether an operation concerns a registrar: it is about this one, or about all. -/
def Operation.concerns (n : Nat) : Operation → Bool
  | .enable m => m == n
  | .disable m => m == n
  | .drop m => m == n
  | .modify m _ => m == n
  | .raise _ => true
  | .sleep _ => true

def Operation.isRaise : Operation → Bool
  | .raise _ => true
  | _ => false

/-- **What a registrar shows.** -/
structure Showing where
  time : Nat
  isEnabled : Bool
  isDropped : Bool
  identity : Option Identity
  acquired : Nat
  /-- The codes with which it asked the process to end. -/
  exits : List Nat
  calls : List (Nat × RegistryCall × Identity)
  deriving DecidableEq

namespace Keeper

/-- The keeper after an operation. -/
def perform (s : Keeper) : Operation → Keeper
  | .enable m => s.enable m
  | .disable m => s.disable m
  | .drop m => s.dropRegistrar m
  | .modify m change => s.modifyRegistry m change
  | .raise signal => s.raise signal
  | .sleep d => s.sleep d

/-- What registrar number `n` shows now. -/
def showing? (s : Keeper) (n : Nat) : Option Showing :=
  s.registrars[n]?.map fun r =>
    { time := s.now
      isEnabled := r.isEnabled
      isDropped := r.isDropped
      identity := r.shown
      acquired := r.acquired
      exits := s.journal.exits n
      calls := s.journal.calls n }

/-- **What a registrar shows after each operation that concerns it.** -/
def showings (n : Nat) (s : Keeper) : List Operation → List (Option Showing)
  | [] => []
  | op :: ops =>
    (if op.concerns n then [(s.perform op).showing? n] else []) ++ (s.perform op).showings n ops

section

variable {n : Nat} {s t : Keeper}

theorem showings_cons (n : Nat) (s : Keeper) (op : Operation) (ops : List Operation) :
    s.showings n (op :: ops) =
      (if op.concerns n then [(s.perform op).showing? n] else []) ++
        (s.perform op).showings n ops := rfl

/-- Changing a registry is a supply. -/
theorem modifyRegistry_move (s : Keeper) (m : Nat) (change : ScriptedRegistry → ScriptedRegistry) :
    s.modifyRegistry m change = s ∨ ∃ p, s.modifyRegistry m change = s.move (.supply m p) := by
  cases hr : s.registrars[m]? with
  | none =>
    left
    simp only [modifyRegistry, hr]
  | some r =>
    right
    refine ⟨⟨r.identity, change r.registry, r.clientFaults, r.signalFaults⟩, ?_⟩
    show _ = s.supply m _
    simp only [modifyRegistry, supply, hr]
    rfl

/-- **Whatever is done but raising a signal, no signal waits.** -/
theorem NoSignalWaits.perform (h : s.NoSignalWaits) {op : Operation} (hop : op.isRaise = false) :
    (s.perform op).NoSignalWaits := by
  cases op with
  | enable m => exact h.move (m := .enable m) nofun
  | disable m => exact h.move (m := .disable m) nofun
  | drop m => exact h.move (m := .drop m) nofun
  | modify m change =>
    show (s.modifyRegistry m change).NoSignalWaits
    rcases modifyRegistry_move s m change with hself | ⟨p, hmove⟩
    · rw [hself]
      exact h
    · rw [hmove]
      exact h.move nofun
  | raise signal => cases hop
  | sleep d => exact h.sleep d

/-- **An operation on others** leaves the mirror alone. -/
theorem Mirrors.perform_other (h : s.Mirrors n t) (hs : s.NoSignalWaits) (ht : t.NoSignalWaits)
    {op : Operation} (hop : op.concerns n = false) : (s.perform op).Mirrors n t := by
  cases op with
  | enable m => exact h.enable_other hs.reachable ht.reachable (beq_eq_false_iff_ne.1 hop)
  | disable m => exact h.disable_other hs.reachable.orderly (beq_eq_false_iff_ne.1 hop)
  | drop m => exact h.drop_other hs.reachable.orderly (beq_eq_false_iff_ne.1 hop)
  | modify m change => exact h.modify_other (beq_eq_false_iff_ne.1 hop) change
  | raise signal => cases hop
  | sleep d => cases hop

/-- **An operation that concerns the registrar** is mirrored. -/
theorem Mirrors.perform_own (h : s.Mirrors n t) (hs : s.NoSignalWaits) (ht : t.NoSignalWaits)
    {op : Operation} (hop : op.concerns n = true) (hraise : op.isRaise = false) :
    (s.perform op).Mirrors n (t.perform op) := by
  cases op with
  | enable m =>
    obtain rfl := beq_iff_eq.1 hop
    exact h.enable_own hs.reachable ht.reachable
  | disable m =>
    obtain rfl := beq_iff_eq.1 hop
    exact h.disable_own hs.reachable.orderly ht.reachable.orderly
  | drop m =>
    obtain rfl := beq_iff_eq.1 hop
    exact h.drop_own hs.reachable.orderly ht.reachable.orderly
  | modify m change =>
    obtain rfl := beq_iff_eq.1 hop
    exact h.modify_own change
  | raise signal => cases hraise
  | sleep d => exact h.sleep hs ht d

/-- The mirror shows what the registrar shows. -/
theorem Mirrors.showing (h : s.Mirrors n t) : t.showing? n = s.showing? n := by
  unfold showing?
  rw [h.registrar, h.now, h.journal.exits, h.journal.calls]
  cases s.registrars[n]? with
  | none => rfl
  | some r =>
    have henabled : (r.renumbered (place n s.owners)).isEnabled = r.isEnabled := Option.isSome_map
    simp only [Option.map_some, henabled]
    rfl

/-- A keeper in which nothing has happened mirrors itself. -/
theorem mirrors_start {registrars : List Registrar} (h : ∀ r ∈ registrars, r.IsNew) (n : Nat) :
    Mirrors n { registrars := registrars } { registrars := registrars } := by
  refine ⟨rfl, ?_, rfl, ⟨[], rfl, .none⟩, .refl n [], nofun⟩
  show registrars[n]? = registrars[n]?.map _
  cases hr : registrars[n]? with
  | none => rfl
  | some r =>
    have hcur : r.current = none := congrArg Memory.current (h r (List.mem_of_getElem? hr))
    rw [Option.map_some, Registrar.renumbered, hcur, Option.map_none, ← hcur]

/-- What is shown is the same along all operations: by induction on them. -/
theorem Mirrors.showings (h : s.Mirrors n t) (hs : s.NoSignalWaits) (ht : t.NoSignalWaits)
    {ops : List Operation} (hops : ∀ op ∈ ops, op.isRaise = false) :
    s.showings n ops = t.showings n (ops.filter (·.concerns n)) := by
  induction ops generalizing s t with
  | nil => rfl
  | cons op ops ih =>
    have hop := hops op (List.mem_cons_self ..)
    have hrest : ∀ op ∈ ops, op.isRaise = false := fun op' hop' =>
      hops op' (List.mem_cons_of_mem _ hop')
    cases hc : op.concerns n with
    | true =>
      have hboth := h.perform_own hs ht hc hop
      rw [List.filter_cons_of_pos hc, showings_cons, showings_cons, hboth.showing,
        ih hboth (hs.perform hop) (ht.perform hop) hrest]
    | false =>
      rw [List.filter_cons_of_neg (by rw [hc]; exact Bool.false_ne_true), showings_cons, hc]
      exact ih (h.perform_other hs ht hc) (hs.perform hop) ht hrest

/-- **Registrars are independent.**  Without signals a registrar shows the same after every operation
    that concerns it, whether or not others are enabled, disabled and dropped meanwhile and their
    registries changed: whether it is enabled, whom it announces, how many clients it has asked for,
    what it has asked of the process, and its calls with their times. -/
theorem registrars_independent {registrars : List Registrar} (hnew : ∀ r ∈ registrars, r.IsNew)
    {ops : List Operation} (hops : ∀ op ∈ ops, op.isRaise = false) (n : Nat) :
    showings n { registrars := registrars } ops =
      showings n { registrars := registrars } (ops.filter (·.concerns n)) :=
  (mirrors_start hnew n).showings (noSignalWaits_start hnew)
    (noSignalWaits_start hnew) hops

/-- The second registrar is enabled while the first waits for its first heartbeat, and is disabled and
    dropped before the first is disabled. -/
def interleavedOperations : List Operation :=
  [.enable 0, .sleep ⟨20⟩, .enable 1, .modify 1 (·.withInterval ⟨7⟩), .sleep ⟨29990⟩, .disable 1,
    .sleep ⟨5⟩, .drop 1, .disable 0, .sleep ⟨5⟩]

/-- What the first of two registrars shows in the end is what it shows alone, its calls included. -/
theorem interleavedOperations_independent :
    (∀ r ∈ twoRegistrars, r.IsNew) ∧ (∀ op ∈ interleavedOperations, op.isRaise = false) ∧
      (interleavedOperations.filter (·.concerns 0)).length = 6 ∧
      showings 0 { registrars := twoRegistrars } interleavedOperations =
        showings 0 { registrars := twoRegistrars } (interleavedOperations.filter (·.concerns 0)) ∧
      (showings 0 { registrars := twoRegistrars } interleavedOperations)[5]? =
        some (some ⟨30020, false, false, none, 1, [],
          [(10, .register, someone), (30010, .heartbeat, someone),
            (30015, .deregister, someone)]⟩) := by
  have hnew : ∀ r ∈ twoRegistrars, r.IsNew := by decide
  have hops : ∀ op ∈ interleavedOperations, op.isRaise = false := by decide
  have heq := registrars_independent hnew hops 0
  refine ⟨hnew, hops, by decide, heq, ?_⟩
  rw [heq]
  decide +kernel

end

end Keeper

end LeaseKeeper

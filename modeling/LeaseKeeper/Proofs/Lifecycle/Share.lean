/-
  The share of one registrar.

  The scopes of several registrars stand in one list, and their workers in one line.  The SHARE of
  a registrar is what is its own: its scopes, numbered among themselves (`place`), and the places
  of its workers in the line (`shareOfLine`).  Here is how a share follows the whole when a scope
  is replaced, when one begins and when the clock moves.

  Each change of the whole is one of two things to a share.  If it is about a scope of the
  registrar, the share makes the same change, at the place of that scope; if it is about somebody
  else's scope, the share stays as it is.  The lemmas come in such pairs (`_own` and `_other`).
  That the share makes the SAME change rests on `place_inj`: two scopes of one registrar never
  have one place, so renumbering neither merges nor splits them.

  Looking at the clock goes through all scopes in the order of their numbers and puts in line
  whoever must act (`advance_idle`).  Filtering keeps the order, so the share of that line is the
  line of the share (`shareOfLine_dueLine`): this is what lets a registrar run by itself exactly
  as it runs among others.
-/
import LeaseKeeper.Proofs.Lifecycle.Turns
import Mathlib.Data.List.Basic
import Mathlib.Data.List.Induction

namespace LeaseKeeper

/-! ## Places among the scopes of one registrar -/

/-- **The place of number `k`** among the numbers that belong to registrar number `n`: how many
    of them come before it. -/
def place (n : Nat) (owners : List Nat) (k : Nat) : Nat := (owners.take k).count n

section

variable {n i j k : Nat} {owners : List Nat}

/-- Numbers that are given out later do not change it. -/
theorem place_append (hk : k ≤ owners.length) (more : List Nat) :
    place n (owners ++ more) k = place n owners k := by
  unfold place
  rw [List.take_append_of_le_length hk]

/-- The next number will have the place after the last one. -/
theorem place_length (n : Nat) (owners : List Nat) :
    place n owners owners.length = owners.count n := by
  unfold place
  rw [List.take_length]

/-- Places are in the order of the numbers, as long as the smaller one belongs to the registrar. -/
theorem place_lt (hi : owners[i]? = some n) (hij : i < j) :
    place n owners i < place n owners j := by
  have hnext : (owners.take (i + 1)).count n = place n owners i + 1 := by
    rw [List.take_add_one, List.count_append, hi]
    simp [place]
  have hle : (owners.take (i + 1)).count n ≤ place n owners j :=
    (List.take_sublist_take_left hij).count_le n
  omega

/-- Two numbers of one registrar with one place are one number. -/
theorem place_inj (hi : owners[i]? = some n) (hj : owners[j]? = some n)
    (h : place n owners i = place n owners j) : i = j := by
  rcases Nat.lt_trichotomy i j with hij | hij | hij
  · have := place_lt hi hij
    omega
  · exact hij
  · have := place_lt hj hij
    omega

end

/-- The scopes of one registrar. -/
def shareOfScopes (n : Nat) (scopes : List Scope) : List Scope := scopes.filter (·.owner == n)

section

variable {n k : Nat} {scopes : List Scope} {c c' : Scope}

/-- There are as many as the registrar has numbers. -/
theorem shareOfScopes_length (n : Nat) (scopes : List Scope) :
    (shareOfScopes n scopes).length = (scopes.map Scope.owner).count n := by
  unfold shareOfScopes
  rw [← List.countP_eq_length_filter, List.count, List.countP_map]
  rfl

theorem shareOfScopes_concat_own (hown : c.owner = n) :
    shareOfScopes n (scopes ++ [c]) = shareOfScopes n scopes ++ [c] := by
  simp [shareOfScopes, List.filter_append, hown]

theorem shareOfScopes_concat_other (hother : c.owner ≠ n) :
    shareOfScopes n (scopes ++ [c]) = shareOfScopes n scopes := by
  simp [shareOfScopes, List.filter_append, hother]

/-- A scope of the registrar stands at its place: induction on the scopes before it, of which
    each either belongs to the registrar and takes one place, or takes none. -/
theorem shareOfScopes_getElem? (hc : scopes[k]? = some c) (hown : c.owner = n) :
    (shareOfScopes n scopes)[place n (scopes.map Scope.owner) k]? = some c := by
  induction scopes generalizing k with
  | nil => cases hc
  | cons d scopes ih =>
    cases k with
    | zero =>
      obtain rfl := Option.some.inj hc
      simp [shareOfScopes, place, hown]
    | succ k =>
      have hrest := ih (k := k) hc
      -- Whether the first scope takes a place.
      by_cases hd : d.owner = n
      · simp only [shareOfScopes, place, List.map_cons, List.take_succ_cons, hd, List.count_cons_self,
          beq_self_eq_true, List.filter_cons_of_pos, List.getElem?_cons_succ]
        exact hrest
      · simp only [shareOfScopes, place, List.map_cons, List.take_succ_cons]
        rw [List.count_cons_of_ne hd, List.filter_cons_of_neg (by simpa using hd)]
        exact hrest

/-- Who replaces a scope replaces it at its place: induction as before.  The replacement has the
    same owner, so the first scope counts as it did. -/
theorem shareOfScopes_set_own (hc : scopes[k]? = some c) (hown : c.owner = n)
    (hsame : c'.owner = c.owner) :
    shareOfScopes n (scopes.set k c') =
      (shareOfScopes n scopes).set (place n (scopes.map Scope.owner) k) c' := by
  induction scopes generalizing k with
  | nil => cases hc
  | cons d scopes ih =>
    cases k with
    | zero =>
      obtain rfl := Option.some.inj hc
      simp [shareOfScopes, place, hown, hsame]
    | succ k =>
      have hrest := ih (k := k) hc
      by_cases hd : d.owner = n
      · simp only [shareOfScopes, place, List.map_cons, List.take_succ_cons, hd, List.count_cons_self,
          beq_self_eq_true, List.filter_cons_of_pos, List.set_cons_succ]
        exact congrArg _ hrest
      · simp only [shareOfScopes, place, List.map_cons, List.take_succ_cons, List.set_cons_succ]
        rw [List.count_cons_of_ne hd, List.filter_cons_of_neg (by simpa using hd),
          List.filter_cons_of_neg (by simpa using hd)]
        exact hrest

/-- Replacing a scope of somebody else does nothing to the share. -/
theorem shareOfScopes_set_other (hc : scopes[k]? = some c) (hother : c.owner ≠ n)
    (hsame : c'.owner = c.owner) : shareOfScopes n (scopes.set k c') = shareOfScopes n scopes := by
  induction scopes generalizing k with
  | nil => cases hc
  | cons d scopes ih =>
    cases k with
    | zero =>
      obtain rfl := Option.some.inj hc
      simp [shareOfScopes, hother, hsame]
    | succ k =>
      have hrest := ih (k := k) hc
      by_cases hd : d.owner = n
      · simp only [shareOfScopes, List.set_cons_succ, hd, beq_self_eq_true, List.filter_cons_of_pos]
        exact congrArg _ hrest
      · simp only [shareOfScopes, List.set_cons_succ]
        rw [List.filter_cons_of_neg (by simpa using hd), List.filter_cons_of_neg (by simpa using hd)]
        exact hrest

/-- Replacing a scope by one of the same owner leaves the owners alone. -/
theorem owners_set (hc : scopes[k]? = some c) (hsame : c'.owner = c.owner) :
    (scopes.set k c').map Scope.owner = scopes.map Scope.owner := by
  obtain ⟨hk, rfl⟩ := List.getElem?_eq_some_iff.1 hc
  rw [List.map_set, hsame]
  have hk' : k < (scopes.map Scope.owner).length := by
    rw [List.length_map]
    exact hk
  have hget : (scopes.map Scope.owner)[k] = scopes[k].owner := List.getElem_map ..
  rw [← hget, List.set_getElem_self]

end

/-! ## The share of the line

A worker is named by the number of its scope, so the share of a line is filtered and renumbered. -/

/-- **A worker of registrar number `n`**, as that one counts its scopes; nobody else's worker. -/
def Actor.among? (n : Nat) (owners : List Nat) (a : Actor) : Option Actor :=
  if owners[a.scope]? = some n then some ⟨place n owners a.scope, a.worker⟩ else none

/-- **The workers of one registrar in a line.** -/
def shareOfLine (n : Nat) (owners : List Nat) (line : List Actor) : List Actor :=
  line.filterMap (Actor.among? n owners)

section

variable {n k : Nat} {w : Worker} {owners : List Nat} {line line' : List Actor}

theorem shareOfLine_append (n : Nat) (owners : List Nat) (line line' : List Actor) :
    shareOfLine n owners (line ++ line') = shareOfLine n owners line ++ shareOfLine n owners line' :=
  List.filterMap_append

theorem shareOfLine_own (hown : owners[k]? = some n) (w : Worker) :
    shareOfLine n owners [⟨k, w⟩] = [⟨place n owners k, w⟩] := by
  simp [shareOfLine, Actor.among?, hown]

theorem shareOfLine_other (hother : owners[k]? ≠ some n) (w : Worker) :
    shareOfLine n owners [⟨k, w⟩] = [] := by
  simp [shareOfLine, Actor.among?, hother]

/-- Both workers of a scope. -/
theorem shareOfLine_both_own (hown : owners[k]? = some n) :
    shareOfLine n owners [⟨k, .watcher⟩, ⟨k, .task⟩] =
      [⟨place n owners k, .watcher⟩, ⟨place n owners k, .task⟩] := by
  simp [shareOfLine, Actor.among?, hown]

theorem shareOfLine_both_other (hother : owners[k]? ≠ some n) :
    shareOfLine n owners [⟨k, .watcher⟩, ⟨k, .task⟩] = [] := by
  simp [shareOfLine, Actor.among?, hother]

/-- A worker of the registrar is in the line if it is in the share.  Only one worker of the line
    can be behind a worker of the share, as places belong to one number each. -/
theorem mem_shareOfLine (hown : owners[k]? = some n) :
    ⟨place n owners k, w⟩ ∈ shareOfLine n owners line ↔ ⟨k, w⟩ ∈ line := by
  constructor
  · -- Whoever is in the share was renumbered; there is one who could have been.
    intro h
    obtain ⟨⟨i, v⟩, hmem, hamong⟩ := List.mem_filterMap.1 h
    unfold Actor.among? at hamong
    split at hamong
    · rename_i hi
      obtain ⟨hplace, rfl⟩ := Actor.mk.inj (Option.some.inj hamong)
      obtain rfl := place_inj hi hown hplace
      exact hmem
    · cases hamong
  · intro h
    exact List.mem_filterMap.2 ⟨_, h, if_pos hown⟩

/-- Later scopes change nothing of the share of those who are in line: these have numbers that
    were given out before. -/
theorem shareOfLine_owners (hseated : ∀ a ∈ line, a.scope < owners.length) (more : List Nat) :
    shareOfLine n (owners ++ more) line = shareOfLine n owners line := by
  refine List.filterMap_congr fun a ha => ?_
  have hlt := hseated a ha
  unfold Actor.among?
  rw [List.getElem?_append_left hlt, place_append (Nat.le_of_lt hlt)]

end

/-! ## Joining a line -/

/-- The line after an actor has joined it, if he was not there. -/
def joined (line : List Actor) (a : Actor) : List Actor := if a ∈ line then line else line ++ [a]

section

variable {n k : Nat} {w : Worker} {owners : List Nat} {line : List Actor} {a a' : Actor}

theorem eq_or_mem_of_mem_joined (h : a' ∈ joined line a) : a' = a ∨ a' ∈ line := by
  unfold joined at h
  split at h
  · exact .inr h
  · exact (List.mem_append.1 h).symm.imp_left List.mem_singleton.1

/-- Who stands at the end of a line might as well join it. -/
theorem joined_concat (h : a ∉ line) : joined (line ++ [a]) a = joined line a := by
  unfold joined
  rw [if_pos (List.mem_append_right _ (List.mem_singleton.2 rfl)), if_neg h]

/-- Whoever joins the line joins the share, if he belongs to it: he is in the one if he is in the
    other. -/
theorem shareOfLine_joined_own (hown : owners[k]? = some n) (w : Worker) (line : List Actor) :
    shareOfLine n owners (joined line ⟨k, w⟩) =
      joined (shareOfLine n owners line) ⟨place n owners k, w⟩ := by
  unfold joined
  by_cases h : ⟨k, w⟩ ∈ line
  · rw [if_pos h, if_pos ((mem_shareOfLine hown).2 h)]
  · rw [if_neg h, if_neg fun hmem => h ((mem_shareOfLine hown).1 hmem), shareOfLine_append,
      shareOfLine_own hown]

theorem shareOfLine_joined_other (hother : owners[k]? ≠ some n) (w : Worker) (line : List Actor) :
    shareOfLine n owners (joined line ⟨k, w⟩) = shareOfLine n owners line := by
  unfold joined
  split
  · rfl
  · rw [shareOfLine_append, shareOfLine_other hother, List.append_nil]

end

/-! ## Those who must act by a time -/

/-- The workers of a scope that must act by a time. -/
def Scope.dueWorkers (now : Nat) (c : Scope) : List Worker :=
  (if c.watcherDue?.any (· ≤ now) then [.watcher] else []) ++
    (if c.taskDue?.any (· ≤ now) then [.task] else [])

/-- **The line of all who must act by a time**, in the order of the scopes, the watcher of each
    before its task. -/
def dueLine (now : Nat) (scopes : List Scope) : List Actor :=
  scopes.zipIdx.flatMap fun (c, k) => (c.dueWorkers now).map (Actor.mk k)

/-- The newest scope is looked at last. -/
theorem dueLine_concat (now : Nat) (scopes : List Scope) (c : Scope) :
    dueLine now (scopes ++ [c]) =
      dueLine now scopes ++ (c.dueWorkers now).map (Actor.mk scopes.length) := by
  simp [dueLine, List.zipIdx_append]

/-- Who is in it belongs to one of the scopes. -/
theorem dueLine_seated {now : Nat} {scopes : List Scope} {a : Actor}
    (ha : a ∈ dueLine now scopes) : a.scope < scopes.length := by
  obtain ⟨⟨c, k⟩, hc, ha⟩ := List.mem_flatMap.1 ha
  obtain ⟨w, -, rfl⟩ := List.mem_map.1 ha
  exact (List.getElem?_eq_some_iff.1 (List.mem_zipIdx_iff_getElem?.1 hc)).1

/-- **The share of all who must act** is all who must act of the share: induction on the scopes, the
    newest last. -/
theorem shareOfLine_dueLine (n now : Nat) (scopes : List Scope) :
    shareOfLine n (scopes.map Scope.owner) (dueLine now scopes) =
      dueLine now (shareOfScopes n scopes) := by
  induction scopes using List.reverseRecOn with
  | nil => rfl
  | append_singleton scopes c ih =>
    -- The new scope changes neither the numbers of those before it nor their places.
    have hold : shareOfLine n ((scopes ++ [c]).map Scope.owner) (dueLine now scopes) =
        dueLine now (shareOfScopes n scopes) := by
      rw [List.map_append, shareOfLine_owners, ih]
      intro a ha
      rw [List.length_map]
      exact dueLine_seated ha
    have hlast : ((scopes ++ [c]).map Scope.owner)[scopes.length]? = some c.owner := by
      rw [List.getElem?_map, List.getElem?_concat_length]
      rfl
    have hplace : place n ((scopes ++ [c]).map Scope.owner) scopes.length =
        (shareOfScopes n scopes).length := by
      rw [List.map_append, place_append (Nat.le_of_eq (List.length_map _).symm),
        shareOfScopes_length, ← place_length, List.length_map]
    rw [dueLine_concat, shareOfLine_append, hold]
    unfold shareOfLine
    rw [List.filterMap_map]
    by_cases hc : c.owner = n
    · -- The new scope belongs to the registrar: its workers go to the end of the share, at the
      -- place that is next.
      have hall : (c.dueWorkers now).filterMap
          (Actor.among? n ((scopes ++ [c]).map Scope.owner) ∘ Actor.mk scopes.length) =
          (c.dueWorkers now).filterMap (some ∘ Actor.mk (shareOfScopes n scopes).length) := by
        refine List.filterMap_congr fun w _ => ?_
        show Actor.among? n _ ⟨scopes.length, w⟩ = some ⟨_, w⟩
        unfold Actor.among?
        rw [if_pos (hlast.trans (congrArg some hc)), hplace]
      rw [shareOfScopes_concat_own hc, dueLine_concat, hall, List.filterMap_eq_map]
    · -- It does not: none of its workers is in the share.
      rw [shareOfScopes_concat_other hc, List.filterMap_eq_nil_iff.2, List.append_nil]
      intro w _
      exact if_neg fun h => hc (Option.some.inj (hlast.symm.trans h))

namespace Keeper

/-- To wake somebody is to let him join the line. -/
theorem wakeIf_joined (s : Keeper) (b : Bool) (a : Actor) :
    s.wakeIf b a = { s with ready := if b then joined s.ready a else s.ready } := by
  unfold wakeIf wake joined
  cases b with
  | false => rfl
  | true =>
    simp only [if_true]
    split <;> rfl

/-- Who must act in a scope is put in line, if nobody of it is there.  As nobody is, joining is
    going to the end. -/
theorem wakeDueIn_fresh {s : Keeper} {k : Nat} {c : Scope} (hc : s.scopes[k]? = some c)
    (hnew : ∀ a ∈ s.ready, a.scope ≠ k) :
    s.wakeDueIn k = { s with ready := s.ready ++ (c.dueWorkers s.now).map (Actor.mk k) } := by
  have hnot : ∀ w : Worker, ⟨k, w⟩ ∉ s.ready := fun w hw => hnew _ hw rfl
  simp only [wakeDueIn, hc, Scope.dueWorkers]
  cases c.watcherDue?.any (· ≤ s.now) <;> cases c.taskDue?.any (· ≤ s.now) <;>
    simp [wakeIf, wake, hnot]

/-- **When nobody is in line, the clock puts exactly those in line who must act**: induction on
    how many scopes have been looked at.  Those in line so far belong to scopes already looked
    at, so the next one finds nobody of its own there. -/
theorem advance_idle {s : Keeper} (hready : s.ready = []) (time : Nat) :
    s.advance time = { s with now := time, ready := dueLine time s.scopes } := by
  have hfold : ∀ i ≤ s.scopes.length, (List.range i).foldl wakeDueIn { s with now := time } =
      { s with now := time, ready := dueLine time (s.scopes.take i) } := by
    intro i hi
    induction i with
    | zero =>
      simp only [List.range_zero, List.foldl_nil, hready]
      rfl
    | succ i ih =>
      have hlength : (s.scopes.take i).length = i := List.length_take_of_le (Nat.le_of_lt hi)
      rw [List.range_succ, List.foldl_append, ih (Nat.le_of_lt hi), List.foldl_cons, List.foldl_nil,
        List.take_succ_eq_append_getElem hi, dueLine_concat, hlength]
      -- Nobody of this scope is in line yet.
      refine wakeDueIn_fresh (List.getElem?_eq_getElem hi) fun a ha => ?_
      have := dueLine_seated ha
      omega
  have hall := hfold s.scopes.length (Nat.le_refl _)
  rw [List.take_length] at hall
  exact hall

end Keeper

end LeaseKeeper

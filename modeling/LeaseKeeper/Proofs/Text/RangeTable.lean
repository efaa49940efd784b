/-
  What a table holds.

  A look-up is a binary search, so it finds nothing in a range of code points that every run
  leaves out (`Skips`), and everything in a range that one run holds, if the other runs are in
  order around it (`Spans`).  Both are read off the words of the table's text, one by one.

  Nothing here asks that a whole table is sorted, which would have to be checked for tables of
  hundreds of runs.  For a range that is left out no order is needed at all: whatever run the
  search ends at, it does not hold the character.  For a range that is held it is enough that the
  other runs lie on their sides of it, since the search only compares the character with runs; the
  place of the one that holds it is never left behind (`search_eq_some`).
-/
import LeaseKeeper.Text.RangeTable

namespace LeaseKeeper.Text.RangeTable

/-! ## Searching -/

/-- A run that is found holds the character: the search only ever ends with one that does. -/
theorem covers_of_search {runs : Array Run} {c lo hi : Nat} {r : Run}
    (h : search runs c lo hi = some r) : r ∈ runs ∧ r.covers c = true := by
  fun_induction search runs c lo hi with
  | case1 => cases h
  | case2 lo hi _ found hfound _ ih => exact ih h
  | case3 lo hi _ found hfound _ _ ih => exact ih h
  | case4 lo hi _ found hfound _ _ hcovers =>
    cases h
    exact ⟨Array.mem_of_getElem? hfound, hcovers⟩
  | case5 => cases h
  | case6 => cases h

/-- The ends of a run that holds a character. -/
theorem ends_of_covers {r : Run} {c : Nat} (h : r.covers c = true) : r.first ≤ c ∧ c ≤ r.last := by
  obtain ⟨hends, -⟩ := Bool.and_eq_true_iff.1 h
  obtain ⟨hfirst, hlast⟩ := Bool.and_eq_true_iff.1 hends
  exact ⟨of_decide_eq_true hfirst, of_decide_eq_true hlast⟩

/-- **A run that holds a character is found** if the runs in front of it lie before the character
    and those behind it lie after it.  Its place `k` stays between the two ends of the search:
    induction on the search. -/
theorem search_eq_some {runs : Array Run} {c k : Nat} {r : Run} (hr : runs[k]? = some r)
    (hcovers : r.covers c = true)
    (hbefore : ∀ (i : Nat) (q : Run), i < k → runs[i]? = some q → q.first ≤ c ∧ q.last < c)
    (hafter : ∀ (i : Nat) (q : Run), k < i → runs[i]? = some q → c < q.first) {lo hi : Nat}
    (hlo : lo ≤ k) (hhi : k < hi) (hsize : hi ≤ runs.size) : search runs c lo hi = some r := by
  have hends := ends_of_covers hcovers
  -- a run that is neither before nor after the character is the one
  have hplace : ∀ (i : Nat) (q : Run), runs[i]? = some q → q.first ≤ c → c ≤ q.last → q = r := by
    intro i q hq hfirst hlast
    rcases Nat.lt_trichotomy i k with hi | rfl | hi
    · have := hbefore i q hi hq
      omega
    · rw [hr] at hq
      exact (Option.some.inj hq).symm
    · have := hafter i q hi hq
      omega
  fun_induction search runs c lo hi with
  | case1 lo hi hlt hnone =>
    -- There is a run in the middle, as the middle is between the two ends.
    have := Array.getElem?_eq_none_iff.1 hnone
    omega
  | case2 lo hi hlt q hq hless ih =>
    -- The run in the middle lies before the character, so it is in front of the place.
    refine ih hlo ?_ (by omega)
    rcases Nat.lt_trichotomy ((lo + hi) / 2) k with hmid | hmid | hmid
    · have := hbefore _ q hmid hq
      omega
    · rw [hmid, hr] at hq
      cases hq
      omega
    · exact hmid
  | case3 lo hi hlt q hq _ hmore ih =>
    -- It lies after the character, so it is behind the place.
    refine ih ?_ hhi hsize
    rcases Nat.lt_trichotomy ((lo + hi) / 2) k with hmid | hmid | hmid
    · exact hmid
    · rw [hmid, hr] at hq
      cases hq
      omega
    · have := hafter _ q hmid hq
      omega
  | case4 lo hi hlt q hq hless hmore hholds =>
    -- It is neither, so it is the one.
    rw [hplace _ q hq (by omega) (by omega)]
  | case5 lo hi hlt q hq hless hmore hholds =>
    rw [hplace _ q hq (by omega) (by omega)] at hholds
    exact absurd hcovers hholds
  | case6 lo hi hge => omega

/-! ## Ranges -/

/-- The words of a table's text. -/
def words (cs : List Char) : List (List Char) :=
  (cs.splitOnP Char.isWhitespace).filter fun w => !w.isEmpty

/-- The runs of a table are its words, each read by itself. -/
theorem runs_ofText {text : String} {cs : List Char} (htext : text = String.ofList cs) :
    (ofText text).runs.toList = (words cs).map Run.ofWord := by
  unfold ofText
  rw [htext, String.toList_ofList]
  rfl

/-- A property of all runs can be checked word by word, without building the table. -/
theorem forall_ofText {p : Run → Bool} {text : String} {cs : List Char}
    (htext : text = String.ofList cs) (h : ((words cs).map Run.ofWord).all p = true) :
    ∀ r ∈ (ofText text).runs.toList, p r = true := by
  rw [runs_ofText htext]
  exact List.all_eq_true.1 h

/-- **A table without a range**: every run ends before it or begins after it. -/
def Skips (t : RangeTable) (lo hi : Nat) : Prop := ∀ r ∈ t.runs, r.last < lo ∨ hi < r.first

/-- **A table that holds a range** in one run, with the others in order around it. -/
def Spans (t : RangeTable) (lo hi : Nat) : Prop :=
  ∃ front r back, t.runs.toList = front ++ r :: back ∧
    (∀ q ∈ front, q.first < lo ∧ q.last < lo) ∧ (∀ c, lo ≤ c → c ≤ hi → r.covers c = true) ∧
    ∀ q ∈ back, hi < q.first

section

variable {t : RangeTable} {lo hi : Nat} {c : Char}

/-- What a search finds holds the character, and no run does. -/
theorem Skips.run?_eq_none (h : t.Skips lo hi) (hlo : lo ≤ c.toNat) (hhi : c.toNat ≤ hi) :
    t.run? c = none := by
  cases hrun : t.run? c with
  | none => rfl
  | some r =>
    obtain ⟨hmem, hcovers⟩ := covers_of_search hrun
    have hends := ends_of_covers hcovers
    have := h r hmem
    omega

theorem Skips.not_contains (h : t.Skips lo hi) (hlo : lo ≤ c.toNat) (hhi : c.toNat ≤ hi) :
    t.contains c = false := by
  unfold contains
  rw [h.run?_eq_none hlo hhi]
  rfl

theorem Skips.assigned?_eq_none (h : t.Skips lo hi) (hlo : lo ≤ c.toNat) (hhi : c.toNat ≤ hi) :
    t.assigned? c = none := by
  unfold assigned?
  rw [h.run?_eq_none hlo hhi]
  rfl

/-- The search goes through an array and the range was found in a list, so the run is looked up
    by how many stand in front of it. -/
theorem Spans.contains (h : t.Spans lo hi) (hlo : lo ≤ c.toNat) (hhi : c.toNat ≤ hi) :
    t.contains c = true := by
  obtain ⟨front, r, back, hruns, hfront, hcovers, hback⟩ := h
  have hat : ∀ i : Nat, t.runs[i]? = (front ++ r :: back)[i]? := by
    intro i
    rw [← hruns, Array.getElem?_toList]
  have hfound : t.run? c = some r := by
    refine search_eq_some (k := front.length) ?_ (hcovers _ hlo hhi) ?_ ?_ (Nat.zero_le _) ?_ ?_
    · -- The run itself.
      rw [hat, List.getElem?_append_right (Nat.le_refl _), Nat.sub_self]
      rfl
    · -- The runs in front of it.
      intro i q hi hq
      rw [hat, List.getElem?_append_left hi] at hq
      have := hfront q (List.mem_of_getElem? hq)
      omega
    · -- The runs behind it.
      intro i q hi hq
      rw [hat, List.getElem?_append_right (by omega)] at hq
      obtain ⟨j, hj⟩ := Nat.exists_eq_add_of_lt hi
      rw [hj, show front.length + j + 1 - front.length = j + 1 by omega,
        List.getElem?_cons_succ] at hq
      have := hback q (List.mem_of_getElem? hq)
      omega
    · -- All places are in the array.
      rw [← Array.length_toList, hruns, List.length_append, List.length_cons]
      omega
    · exact Nat.le_refl _
  unfold RangeTable.contains
  rw [hfound]
  rfl

/-- Whether all runs leave out a range. -/
def skips (lo hi : Nat) (runs : List Run) : Bool := runs.all fun r => r.last < lo || hi < r.first

/-- Whether one of the runs holds a range, and the others are in order around it.  The run is the
    first that does not lie before the range. -/
def spans (lo hi : Nat) : List Run → Bool
  | [] => false
  | r :: rest =>
    if r.first < lo && r.last < lo then spans lo hi rest
    else r.first ≤ lo && hi ≤ r.last && r.step == 1 && rest.all fun q => hi < q.first

/-- **A table leaves out a range** if the words of its text do. -/
theorem skips_ofText {text : String} {cs : List Char} (htext : text = String.ofList cs)
    (h : skips lo hi ((words cs).map Run.ofWord) = true) : (ofText text).Skips lo hi := by
  intro r hr
  have hword := forall_ofText htext h r (Array.mem_toList_iff.2 hr)
  simpa using hword

/-- The run is found by going through the list: induction on it. -/
theorem exists_of_spans {runs : List Run} (h : spans lo hi runs = true) :
    ∃ front r back, runs = front ++ r :: back ∧
      (∀ q ∈ front, q.first < lo ∧ q.last < lo) ∧ (∀ c, lo ≤ c → c ≤ hi → r.covers c = true) ∧
      ∀ q ∈ back, hi < q.first := by
  induction runs with
  | nil => cases h
  | cons r rest ih =>
    unfold spans at h
    split at h
    · -- The run lies before the range.
      rename_i hless
      obtain ⟨front, found, back, rfl, hfront, hfound, hback⟩ := ih h
      have hless : r.first < lo ∧ r.last < lo := by simpa using hless
      exact ⟨r :: front, found, back, rfl, List.forall_mem_cons.2 ⟨hless, hfront⟩, hfound, hback⟩
    · -- It is the one, and since it leaves nothing out it holds every character between its ends.
      simp only [Bool.and_eq_true, decide_eq_true_eq, beq_iff_eq, List.all_eq_true] at h
      obtain ⟨⟨⟨hfirst, hlast⟩, hstep⟩, hrest⟩ := h
      refine ⟨[], r, rest, rfl, nofun, fun c hlo hhi => ?_, hrest⟩
      unfold Run.covers
      rw [hstep, Nat.mod_one]
      simp only [Bool.and_eq_true, decide_eq_true_eq, beq_self_eq_true, and_true]
      omega

/-- **A table holds a range** if the words of its text do. -/
theorem spans_ofText {text : String} {cs : List Char} (htext : text = String.ofList cs)
    (h : spans lo hi ((words cs).map Run.ofWord) = true) : (ofText text).Spans lo hi := by
  obtain ⟨front, r, back, hruns, hparts⟩ := exists_of_spans h
  exact ⟨front, r, back, (runs_ofText htext).trans hruns, hparts⟩

end

end LeaseKeeper.Text.RangeTable

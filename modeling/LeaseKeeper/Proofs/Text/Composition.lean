/-
  Texts that are composed as they stand.

  A character that does not decompose, that is no combining mark and that composes with nothing behind
  it is left alone by all three steps (`IsStill`), and so is a text of such characters
  (`compose_still`).
-/
import LeaseKeeper.Proofs.Text.RangeTable
import LeaseKeeper.Text.Composition

namespace LeaseKeeper.Text

namespace Composition

/-- **A character that composition leaves alone.** -/
structure IsStill (c : Char) : Prop where
  whole : decomposeChar c = [c]
  starts : combiningClass c = 0
  apart : ∀ d, compose? c d = none

/-! ## The three steps -/

section

variable {cs : List Char}

theorem flatMap_decomposeChar (h : ∀ c ∈ cs, IsStill c) : cs.flatMap decomposeChar = cs := by
  induction cs with
  | nil => rfl
  | cons c cs ih =>
    rw [List.flatMap_cons, (h c (List.mem_cons_self ..)).whole,
      ih fun d hd => h d (List.mem_cons_of_mem _ hd)]
    rfl

/-- Without marks there is nothing to put in order: induction on the text. -/
theorem orderMarks_still (h : ∀ c ∈ cs, IsStill c) : orderMarks [] cs = cs.map fun c => (c, 0) := by
  induction cs with
  | nil => rfl
  | cons c cs ih =>
    unfold orderMarks
    dsimp only
    rw [if_pos (h c (List.mem_cons_self ..)).starts, ih fun d hd => h d (List.mem_cons_of_mem _ hd)]
    rfl

/-- A character that composes with nothing is passed: induction on what follows. -/
theorem joinFrom_still {c : Char} (hc : IsStill c) (h : ∀ d ∈ cs, IsStill d) :
    joinFrom c [] 0 (cs.map fun d => (d, 0)) = c :: cs := by
  induction cs generalizing c with
  | nil => rfl
  | cons d cs ih =>
    have hrest := ih (h d (List.mem_cons_self ..)) fun e he => h e (List.mem_cons_of_mem _ he)
    rw [List.map_cons]
    unfold joinFrom
    simp only [List.isEmpty_nil, Bool.not_true, Bool.false_and, Bool.false_eq_true, if_false,
      hc.apart d, if_true, List.reverse_nil, List.nil_append, hrest]

end

end Composition

/-- **A text of such characters is its own composed form.** -/
theorem compose_still {cs : List Char} (h : ∀ c ∈ cs, Composition.IsStill c) : compose cs = cs := by
  unfold compose
  split
  · rfl
  · rw [Composition.flatMap_decomposeChar h, Composition.orderMarks_still h]
    cases cs with
    | nil => rfl
    | cons c cs =>
      exact Composition.joinFrom_still (h c (List.mem_cons_self ..))
        fun d hd => h d (List.mem_cons_of_mem _ hd)

namespace Composition

/-! ## Pairs -/

/-- A pair that is found begins with the first character. -/
theorem first_of_searchPair {entries : Array Pair} {a b lo hi n : Nat}
    (h : searchPair entries a b lo hi = some n) : ∃ p ∈ entries, p.first = a := by
  fun_induction searchPair entries a b lo hi with
  | case1 => cases h
  | case2 lo hi _ p hp heq => exact ⟨p, Array.mem_of_getElem? hp, heq.1⟩
  | case3 lo hi _ p _ _ _ ih => exact ih h
  | case4 lo hi _ p _ _ _ ih => exact ih h
  | case5 => cases h

/-- The first characters of the pairs are written in their table. -/
theorem exists_run_of_pair {p : Pair} (h : p ∈ sortedPairs) :
    ∃ r ∈ (RangeTable.ofText Table.pairs).runs.toList, r.assigned.headD 0 = p.first := by
  unfold sortedPairs at h
  have hpair : p ∈ composedPairs := List.mem_mergeSort.1 (List.mem_toArray.1 h)
  unfold composedPairs at hpair
  obtain ⟨r, hr, hassigned⟩ := List.mem_filterMap.1 hpair
  refine ⟨r, hr, ?_⟩
  split at hassigned
  · rename_i a b heq
    cases hassigned
    rw [heq]
    rfl
  · cases hassigned

end Composition

end LeaseKeeper.Text

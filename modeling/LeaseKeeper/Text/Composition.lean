/-
  Canonical composition (normalization form C).

  Two texts that differ only in how accented characters are spelled have one composed form.  It is
  found in three steps: every character is decomposed as far as possible, runs of combining marks
  are put in order of their classes, and each character is then joined with the marks that follow
  it wherever a composed character exists.
-/
import LeaseKeeper.Text.Composition.Table

namespace LeaseKeeper.Text

namespace Composition

/-- Combining classes. -/
@[irreducible] def classTable : RangeTable := .ofText Table.combiningClasses

/-- Full decompositions. -/
@[irreducible] def decompositionTable : RangeTable := .ofText Table.decompositions

/-- A pair of characters and the character composed of them. -/
structure Pair where
  first : Nat
  second : Nat
  composed : Nat
  deriving Inhabited

/-- The pairs that compose, in the order of the composed characters. -/
def composedPairs : List Pair :=
  (RangeTable.ofText Table.pairs).runs.toList.filterMap fun r =>
    match r.assigned with
    | [a, b] => some ⟨a, b, r.first⟩
    | _ => none

/-- The order in which pairs are searched: by first character, then by second. -/
def Pair.before (p q : Pair) : Bool :=
  p.first < q.first || (p.first == q.first && p.second < q.second)

/-- The pairs that compose, sorted for searching. -/
@[irreducible] def sortedPairs : Array Pair := (composedPairs.mergeSort fun p q => !(q.before p)).toArray

/-- The combining class of a character; zero for a character that starts a new cluster. -/
def combiningClass (c : Char) : Nat := ((classTable.assigned? c).map (·.headD 0)).getD 0

/-! ## Hangul syllables

A syllable is made of a leading consonant, a vowel and perhaps a trailing consonant, and its code
point follows from theirs. -/

/-- First syllable. -/
def syllableBase : Nat := 0xAC00
/-- First leading consonant. -/
def leadBase : Nat := 0x1100
/-- First vowel. -/
def vowelBase : Nat := 0x1161
/-- One before the first trailing consonant. -/
def trailBase : Nat := 0x11A7

/-- The parts of a syllable. -/
def syllableParts (c : Char) : Option (List Char) :=
  let n := c.toNat
  if syllableBase ≤ n ∧ n < syllableBase + 11172 then
    let i := n - syllableBase
    let lead := Char.ofNat (leadBase + i / 588)
    let vowel := Char.ofNat (vowelBase + i % 588 / 28)
    some (if i % 28 = 0 then [lead, vowel] else [lead, vowel, Char.ofNat (trailBase + i % 28)])
  else none

/-- The syllable, or part of one, that two characters make. -/
def joinSyllable? (a b : Char) : Option Char :=
  let x := a.toNat
  let y := b.toNat
  if leadBase ≤ x ∧ x < leadBase + 19 ∧ vowelBase ≤ y ∧ y < vowelBase + 21 then
    some (Char.ofNat (syllableBase + (x - leadBase) * 588 + (y - vowelBase) * 28))
  else if syllableBase ≤ x ∧ x < syllableBase + 11172 ∧ (x - syllableBase) % 28 = 0 ∧
      trailBase < y ∧ y < trailBase + 28 then
    some (Char.ofNat (x + (y - trailBase)))
  else none

/-! ## The three steps -/

/-- A character, decomposed. -/
def decomposeChar (c : Char) : List Char :=
  match syllableParts c with
  | some parts => parts
  | none =>
    match decompositionTable.assigned? c with
    | some cs => cs.map Char.ofNat
    | none => [c]

/-- Put a mark behind all marks of its class or a lower one. -/
def insertMark (c : Char) (cls : Nat) : List (Char × Nat) → List (Char × Nat)
  | [] => [(c, cls)]
  | (d, k) :: rest =>
    if cls < k then (c, cls) :: (d, k) :: rest else (d, k) :: insertMark c cls rest

/-- Put the marks of each cluster in order.  `held` are the marks of the current cluster. -/
def orderMarks (held : List (Char × Nat)) : List Char → List (Char × Nat)
  | [] => held
  | c :: cs =>
    let cls := combiningClass c
    if cls = 0 then held ++ (c, 0) :: orderMarks [] cs
    else orderMarks (insertMark c cls held) cs

/-- The composed character of a pair, searched among the entries from `lo` up to `hi`. -/
def searchPair (entries : Array Pair) (a b lo hi : Nat) : Option Nat :=
  if _h : lo < hi then
    match entries[(lo + hi) / 2]? with
    | none => none
    | some p =>
      if p.first = a ∧ p.second = b then some p.composed
      else if p.before ⟨a, b, 0⟩ then searchPair entries a b ((lo + hi) / 2 + 1) hi
      else searchPair entries a b lo ((lo + hi) / 2)
  else none
termination_by hi - lo
decreasing_by all_goals omega

/-- The character composed of two. -/
def compose? (a b : Char) : Option Char :=
  match joinSyllable? a b with
  | some c => some c
  | none => (searchPair sortedPairs a.toNat b.toNat 0 sortedPairs.size).map Char.ofNat

/-- Join the characters after `starter`.  `passed` are the marks that did not join, last first, and
    `lastClass` the class of the last of them; a mark is blocked by a mark of its own class or a
    higher one. -/
def joinFrom (starter : Char) (passed : List Char) (lastClass : Nat) :
    List (Char × Nat) → List Char
  | [] => starter :: passed.reverse
  | (c, cls) :: rest =>
    let blocked := !passed.isEmpty && (cls ≤ lastClass)
    match if blocked then none else compose? starter c with
    | some s => joinFrom s passed lastClass rest
    | none =>
      if cls = 0 then starter :: (passed.reverse ++ joinFrom c [] 0 rest)
      else joinFrom starter (c :: passed) cls rest

/-- Join the characters of a text; marks before the first starter stay as they are. -/
def joinAll : List (Char × Nat) → List Char
  | [] => []
  | (c, 0) :: rest => joinFrom c [] 0 rest
  | (c, _) :: rest => c :: joinAll rest

end Composition

/-- **The composed form of a text.** -/
def compose (cs : List Char) : List Char :=
  if cs.all fun c => c.toNat < 0xC0 then cs
  else Composition.joinAll (Composition.orderMarks [] (cs.flatMap Composition.decomposeChar))

end LeaseKeeper.Text

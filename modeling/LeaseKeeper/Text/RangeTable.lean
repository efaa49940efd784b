/-
  Tables of character properties.

  A table is a list of runs of code points in increasing order.  Its text holds one word for each
  run, with blank space between the words and all numbers in hexadecimal:

      first            one code point
      first-last       all code points from `first` to `last`
      first-last/step  every `step`-th of them

  and, where the table assigns something, an equals sign and one or more numbers with points
  between them.  A look-up is a binary search.
-/

namespace LeaseKeeper.Text

/-- **A run of code points** and what the table assigns to them. -/
structure Run where
  first : Nat
  last : Nat
  step : Nat
  assigned : List Nat
  deriving DecidableEq, Repr, Inhabited

/-- A table, sorted by code point. -/
structure RangeTable where
  runs : Array Run
  deriving Inhabited

/-- The number that a word of hexadecimal digits spells; other characters count as zero. -/
def hexNumber (cs : List Char) : Nat :=
  cs.foldl (fun n c =>
    n * 16 + (if c.isDigit then c.toNat - '0'.toNat else c.toNat - 'A'.toNat + 10)) 0

/-- One word of a table's text. -/
def Run.ofWord (word : List Char) : Run :=
  let parts := word.splitOn '='
  let assigned := match parts[1]? with
    | none => []
    | some p => (p.splitOn '.').map hexNumber
  let range := (parts.headD []).splitOn '/'
  let ends := ((range.headD []).splitOn '-').map hexNumber
  let first := ends.headD 0
  ⟨first, ends.getD 1 first, (range[1]?.map hexNumber).getD 1, assigned⟩

/-- Whether a run holds a code point. -/
def Run.covers (r : Run) (c : Nat) : Bool :=
  r.first ≤ c && c ≤ r.last && (c - r.first) % r.step == 0

namespace RangeTable

/-- **The table that a text spells.** -/
def ofText (text : String) : RangeTable :=
  let words := (text.toList.splitOnP Char.isWhitespace).filter fun w => !w.isEmpty
  ⟨(words.map Run.ofWord).toArray⟩

/-- The run among those from `lo` up to `hi` that holds `c`. -/
def search (runs : Array Run) (c lo hi : Nat) : Option Run :=
  if _h : lo < hi then
    match runs[(lo + hi) / 2]? with
    | none => none
    | some r =>
      if c < r.first then search runs c lo ((lo + hi) / 2)
      else if r.last < c then search runs c ((lo + hi) / 2 + 1) hi
      else if r.covers c then some r
      else none
  else none
termination_by hi - lo
decreasing_by all_goals omega

/-- The run that holds a character. -/
def run? (t : RangeTable) (c : Char) : Option Run := search t.runs c.toNat 0 t.runs.size

/-- **Whether a character is in the table.** -/
def contains (t : RangeTable) (c : Char) : Bool := (t.run? c).isSome

/-- **What the table assigns to a character.** -/
def assigned? (t : RangeTable) (c : Char) : Option (List Nat) := (t.run? c).map (·.assigned)

/-- **The character at the same place of the run that starts at the assigned one.** -/
def shifted? (t : RangeTable) (c : Char) : Option Char :=
  (t.run? c).map fun r => Char.ofNat (r.assigned.headD 0 + (c.toNat - r.first))

end RangeTable

end LeaseKeeper.Text

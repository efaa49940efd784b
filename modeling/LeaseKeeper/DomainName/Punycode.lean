/-
  Punycode: any text in ASCII letters, digits and hyphens.

  The ASCII characters of a text come first, then a hyphen, then one number for each of the other
  characters in the order of their code points.  A number is the distance to the place and value of
  the next character, written in digits of a base that adapts to the sizes seen so far.
-/

namespace LeaseKeeper.DomainName.Punycode

/-- Number of digits. -/
def base : Nat := 36
/-- Least and greatest threshold of a digit. -/
def tMin : Nat := 1
def tMax : Nat := 26
/-- Weights of the adaptation. -/
def skew : Nat := 38
def damp : Nat := 700
/-- The bias before anything is known. -/
def initialBias : Nat := 72
/-- The first code point that is not ASCII. -/
def firstExtended : Nat := 128
/-- Numbers above this one are refused. -/
def maxNumber : Nat := 4294967295

/-- The threshold of the digit at position `k`. -/
def threshold (bias k : Nat) : Nat :=
  if k ≤ bias + tMin then tMin else if bias + tMax ≤ k then tMax else k - bias

/-- Divide until the number is small, and count. -/
def scaleDown (delta k : Nat) : Nat × Nat :=
  if ((base - tMin) * tMax) / 2 < delta then scaleDown (delta / (base - tMin)) (k + base)
  else (delta, k)
termination_by delta
decreasing_by simp only [base, tMin, tMax] at *; omega

/-- **The bias after a number.**  `points` counts the characters placed so far. -/
def adapt (delta points : Nat) (isFirst : Bool) : Nat :=
  let delta := if isFirst then delta / damp else delta / 2
  let (delta, k) := scaleDown (delta + delta / points) 0
  k + (base - tMin + 1) * delta / (delta + skew)

/-! ## Writing -/

/-- The character of a digit. -/
def digitChar (d : Nat) : Char :=
  if d < 26 then Char.ofNat ('a'.toNat + d) else Char.ofNat ('0'.toNat + (d - 26))

/-- The digits of a number from position `k` on. -/
def writeNumber (bias q k : Nat) : List Char :=
  let t := threshold bias k
  if q < t ∨ t = 0 ∨ base ≤ t + 1 then [digitChar q]
  else digitChar (t + (q - t) % (base - t)) :: writeNumber bias ((q - t) / (base - t)) (k + base)
termination_by q
decreasing_by
  rename_i h
  simp only [not_or, Nat.not_lt, Nat.not_le] at h
  have h1 : (q - threshold bias k) / (base - threshold bias k) ≤ q - threshold bias k :=
    Nat.div_le_self ..
  omega

/-- What is known while the characters of one text are written. -/
structure Writer where
  delta : Nat
  bias : Nat
  placed : Nat
  isFirst : Bool
  /-- Digits so far, last first. -/
  digits : List Char

/-- Go past one character while those with code point `n` are placed. -/
def Writer.pass (n : Nat) (w : Writer) (c : Nat) : Writer :=
  if c < n then { w with delta := w.delta + 1 }
  else if c = n then
    { delta := 0
      bias := adapt w.delta (w.placed + 1) w.isFirst
      placed := w.placed + 1
      isFirst := false
      digits := (writeNumber w.bias w.delta base).reverse ++ w.digits }
  else w

/-- Place the characters with each of the code points `ns`, which increase; `start` is the first
    code point not yet considered. -/
def Writer.placeAll (text : List Nat) (w : Writer) (start : Nat) : List Nat → Writer
  | [] => w
  | n :: ns =>
    let w := { w with delta := w.delta + (n - start) * (w.placed + 1) }
    let w := text.foldl (Writer.pass n) w
    Writer.placeAll text { w with delta := w.delta + 1 } (n + 1) ns

/-- Put a number into an increasing list that does not hold it yet. -/
def insertDistinct (n : Nat) : List Nat → List Nat
  | [] => [n]
  | m :: ms => if n < m then n :: m :: ms else if n = m then m :: ms else m :: insertDistinct n ms

/-- **The Punycode form of a text.** -/
def encode (cs : List Char) : List Char :=
  let text := cs.map Char.toNat
  let ascii := cs.filter fun c => c.toNat < firstExtended
  let extended := (text.filter fun n => firstExtended ≤ n).foldr insertDistinct []
  let writer : Writer := ⟨0, initialBias, ascii.length, true, []⟩
  let w := writer.placeAll text firstExtended extended
  (if ascii.isEmpty then [] else ascii ++ ['-']) ++ w.digits.reverse

/-! ## Reading -/

/-- The value of a digit. -/
def digitValue? (c : Char) : Option Nat :=
  if 'a' ≤ c ∧ c ≤ 'z' then some (c.toNat - 'a'.toNat)
  else if 'A' ≤ c ∧ c ≤ 'Z' then some (c.toNat - 'A'.toNat)
  else if c.isDigit then some (c.toNat - '0'.toNat + 26)
  else none

/-- What is known while the digits of one text are read. -/
structure Reader where
  /-- Characters placed so far. -/
  text : List Char
  /-- The code point last placed. -/
  codePoint : Nat
  bias : Nat
  /-- Where the last number ended. -/
  lastIndex : Nat
  /-- The number being read, its next weight and position. -/
  index : Nat
  weight : Nat
  position : Nat
  /-- Whether a number has been begun and not ended. -/
  inside : Bool

/-- Before the first digit. -/
def Reader.initial (ascii : List Char) : Reader :=
  ⟨ascii, firstExtended, initialBias, 0, 0, 1, base, false⟩

/-- The number is complete: place its character. -/
def Reader.place (r : Reader) : Option Reader :=
  let points := r.text.length + 1
  let n := r.codePoint + r.index / points
  let spot := r.index % points
  if h : n.isValidChar then
    some {
      text := r.text.take spot ++ Char.ofNatAux n h :: r.text.drop spot
      codePoint := n
      bias := adapt (r.index - r.lastIndex) points (r.lastIndex == 0)
      lastIndex := spot + 1
      index := spot + 1
      weight := 1
      position := base
      inside := false }
  else none

/-- One more digit. -/
def Reader.step (r : Reader) (c : Char) : Option Reader := do
  let d ← digitValue? c
  let index := r.index + d * r.weight
  if maxNumber < index then none
  let t := threshold r.bias r.position
  if d < t then Reader.place { r with index := index }
  else
    let weight := r.weight * (base - t)
    if maxNumber < weight then none
    some { r with index := index, weight := weight, position := r.position + base, inside := true }

/-- All digits. -/
def Reader.run (r : Reader) : List Char → Option Reader
  | [] => if r.inside then none else some r
  | c :: cs => do (← r.step c).run cs

/-- Split at the last hyphen, unless it comes first or not at all. -/
def splitAscii (cs : List Char) : List Char × List Char :=
  let digits := (cs.reverse.takeWhile (· != '-')).reverse
  let front := cs.take (cs.length - digits.length)
  if front.length ≤ 1 then ([], cs) else (front.dropLast, digits)

/-- **The text of a Punycode form.** -/
def decode? (cs : List Char) : Option (List Char) :=
  let (ascii, digits) := splitAscii cs
  if ascii.all (·.toNat < firstExtended) then ((Reader.initial ascii).run digits).map (·.text)
  else none

end LeaseKeeper.DomainName.Punycode

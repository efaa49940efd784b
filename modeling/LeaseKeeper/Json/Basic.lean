/-
  JSON values.

  `Json` is the tree a JSON text denotes.  Two things are kept that a looser reading drops: an
  object keeps every member in the order written, repeated keys included (a record must refuse a
  key given twice, a map lets the last one win), and a number keeps how it was written, because
  only a plain run of digits counts as an unsigned integer.

  A text may be well formed and still hold a literal that denotes nothing: half a surrogate pair,
  a number beyond the range of a double, a container nested too deep.  Such a literal becomes the
  leaf `unreadable`.  It does no harm where the value is ignored and spoils the value everywhere
  else (`Json.isReadable`).
-/

namespace LeaseKeeper

/-- **A number as written**: digits only, a minus sign before digits, or a literal with a point or
    an exponent, whose value is `coefficient * 10 ^ exponent`. -/
inductive Number where
  | natural (value : Nat)
  | negated (value : Nat)
  | scientific (negative : Bool) (coefficient : Nat) (exponent : Int)
  deriving DecidableEq, Repr, Inhabited

/-- **A JSON value.** -/
inductive Json where
  | null
  | bool (value : Bool)
  | num (value : Number)
  | str (value : String)
  | arr (items : List Json)
  | obj (members : List (String × Json))
  | unreadable
  deriving Repr, Inhabited

namespace Number

/-- The largest integer a reader keeps exactly; longer digit strings are rounded. -/
def maxExact : Nat := 18446744073709551615

/-- The leading digits of `c * 10 ^ e` that fit into 64 bits, with the exponent that goes with
    them. -/
def leading (c : Nat) (e : Int) : Nat × Int :=
  if c ≤ maxExact then (c, e) else leading (c / 10) (e + 1)
termination_by c
decreasing_by simp only [maxExact] at *; omega

/-- `n` rounded to 53 significant bits, a tie to the even neighbour: the double nearest to `n`. -/
def toDouble (n : Nat) : Nat :=
  if n < 9007199254740992 then n
  else
    let unit := Nat.pow 2 (n.log2 - 52)
    let low := n % unit
    let floor := n - low
    if 2 * low < unit then floor
    else if unit < 2 * low then floor + unit
    else if (n / unit) % 2 = 0 then floor else floor + unit

/-- The least value that rounds to infinity. -/
def infinityBound : Nat := Nat.pow 2 1024 - Nat.pow 2 970

/-- Whether `c * 10 ^ e`, computed as a product of two doubles, leaves the range of doubles.  The
    power of ten must itself be a double, so an exponent above 308 overflows unless `c` is zero. -/
def productOverflows (c : Nat) (e : Int) : Bool :=
  if e ≤ 0 then false
  else if 308 < e then c != 0
  else infinityBound ≤ toDouble c * toDouble (Nat.pow 10 e.toNat)

/-- **A number out of range**: its magnitude does not fit a double. -/
def overflows : Number → Bool
  | natural n => let (c, e) := leading n 0; productOverflows c e
  | negated n => let (c, e) := leading n 0; productOverflows c e
  | scientific _ n x => let (c, e) := leading n x; productOverflows c e

end Number

namespace Json

/-- How many containers may stand one inside the other before the innermost is unreadable. -/
def maxDepth : Nat := 127

mutual

/-- **Readable**: no part of the value is a literal without meaning. -/
def isReadable : Json → Bool
  | arr items => allReadable items
  | obj members => allMembersReadable members
  | unreadable => false
  | null => true
  | bool _ => true
  | num _ => true
  | str _ => true

/-- Every item of a list is readable. -/
def allReadable : List Json → Bool
  | [] => true
  | v :: vs => isReadable v && allReadable vs

/-- Every member of an object is readable. -/
def allMembersReadable : List (String × Json) → Bool
  | [] => true
  | (_, v) :: ms => isReadable v && allMembersReadable ms

end

/-- The member under `key`; of several, the last. -/
def lastMember? (key : String) : List (String × Json) → Option Json
  | [] => none
  | (k, v) :: ms => (lastMember? key ms).orElse fun _ => if k = key then some v else none

end Json

end LeaseKeeper

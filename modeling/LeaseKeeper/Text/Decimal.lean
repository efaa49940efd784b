/-
  Unsigned decimal numbers in free text.

  A number is one or more ASCII digits, leading zeros allowed, after at most one plus sign.  It
  must be below a bound that the caller names.
-/

namespace LeaseKeeper.Text

/-- The value of a run of ASCII digits, read on top of `value`; `none` at any other character. -/
def digitsValue? (value : Nat) : List Char → Option Nat
  | [] => some value
  | c :: cs => if c.isDigit then digitsValue? (value * 10 + (c.toNat - '0'.toNat)) cs else none

/-- **The number below `bound` that a text spells.** -/
def decimalBelow? (bound : Nat) (cs : List Char) : Option Nat :=
  let digits := match cs with
    | '+' :: rest => rest
    | _ => cs
  if digits.isEmpty then none
  else (digitsValue? 0 digits).bind fun n => if n < bound then some n else none

end LeaseKeeper.Text

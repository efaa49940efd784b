/-
  Upper case of any text.

  The full mapping: a character may become several (`ß` becomes `SS`).  The tables hold the
  characters that change; ASCII letters are among them.
-/
import LeaseKeeper.Text.UpperCase.Table

namespace LeaseKeeper.Text

/-- The code points a character becomes. -/
def UpperCase.ofCodePoint (c : Nat) : List Nat :=
  match expansions.lookup c with
  | some us => us
  | none =>
    match shiftRanges.find? (·.covers c) with
    | some r => [((c : Int) + r.distance).toNat]
    | none => [c]

/-- The upper case of one character. -/
def upperChar (c : Char) : List Char :=
  if c.toNat < 0x80 then [c.toUpper] else (UpperCase.ofCodePoint c.toNat).map Char.ofNat

/-- **The text in upper case.** -/
def upperCase (s : String) : String := String.ofList (s.toList.flatMap upperChar)

end LeaseKeeper.Text

/-
  Blank space.

  `isBlank` holds of the characters with the Unicode property White_Space; `trim` removes them
  from both ends of a text.
-/

namespace LeaseKeeper.Text

/-- The runs of blank characters, as first and last code point. -/
def blankRuns : List (Nat × Nat) :=
  [(0x09, 0x0D), (0x20, 0x20), (0x85, 0x85), (0xA0, 0xA0), (0x1680, 0x1680), (0x2000, 0x200A),
    (0x2028, 0x2029), (0x202F, 0x202F), (0x205F, 0x205F), (0x3000, 0x3000)]

/-- **A blank character.** -/
def isBlank (c : Char) : Bool := blankRuns.any fun r => r.1 ≤ c.toNat && c.toNat ≤ r.2

/-- **The characters without the blank ones at either end.** -/
def trim (cs : List Char) : List Char :=
  ((cs.dropWhile isBlank).reverse.dropWhile isBlank).reverse

end LeaseKeeper.Text

/-
  Labels written from right to left.

  A domain name that holds a right-to-left character anywhere must be readable in one way only, so
  each of its labels has to keep to one direction (the Bidi rule).
-/
import LeaseKeeper.DomainName.Direction.Table

namespace LeaseKeeper.DomainName

/-- **The direction class of a character.** -/
inductive Direction where
  | leftToRight | rightToLeft | arabicLetter | arabicNumber | europeanNumber | europeanSeparator
  | commonSeparator | europeanTerminator | otherNeutral | boundaryNeutral | nonspacingMark
  deriving DecidableEq, Repr

namespace Direction

/-- The classes other than left to right, with their tables. -/
@[irreducible] def tables : List (Direction × Text.RangeTable) :=
  [(.rightToLeft, .ofText Table.rightToLeft), (.arabicLetter, .ofText Table.arabicLetter),
    (.arabicNumber, .ofText Table.arabicNumber), (.europeanNumber, .ofText Table.europeanNumber),
    (.europeanSeparator, .ofText Table.europeanSeparator), (.commonSeparator, .ofText Table.commonSeparator),
    (.europeanTerminator, .ofText Table.europeanTerminator), (.otherNeutral, .ofText Table.otherNeutral),
    (.boundaryNeutral, .ofText Table.boundaryNeutral), (.nonspacingMark, .ofText Table.nonspacingMark)]

/-- The class of a character. -/
def ofChar (c : Char) : Direction :=
  match tables.find? fun t => t.2.contains c with
  | some t => t.1
  | none => leftToRight

/-- Classes that make a whole domain name subject to the rule. -/
def marksName (d : Direction) : Bool := d matches .rightToLeft | .arabicLetter | .arabicNumber

/-- Classes that a right-to-left label may hold. -/
def allowedRightToLeft (d : Direction) : Bool := d != .leftToRight

/-- Classes that a left-to-right label may hold. -/
def allowedLeftToRight (d : Direction) : Bool :=
  d matches .leftToRight | .europeanNumber | .europeanSeparator | .commonSeparator
    | .europeanTerminator | .otherNeutral | .boundaryNeutral | .nonspacingMark

/-- The last class of a label that is not a mark. -/
def lastBase? (ds : List Direction) : Option Direction :=
  (ds.reverse.dropWhile (· == .nonspacingMark)).head?

/-- **The Bidi rule** for one label, given by the classes of its characters. -/
def keepsOneDirection (ds : List Direction) : Bool :=
  match ds with
  | [] => true
  | first :: _ =>
    match first with
    | .rightToLeft | .arabicLetter =>
      ds.all allowedRightToLeft &&
      (lastBase? ds).any (· matches .rightToLeft | .arabicLetter | .europeanNumber | .arabicNumber)
      && !(ds.contains .europeanNumber && ds.contains .arabicNumber)
    | .leftToRight =>
      ds.all allowedLeftToRight &&
      (lastBase? ds).any (· matches .leftToRight | .europeanNumber)
    | _ => false

end Direction

end LeaseKeeper.DomainName

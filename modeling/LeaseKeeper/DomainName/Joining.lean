/-
  Invisible joiners.

  The zero-width joiner and non-joiner are allowed only where they change how a word is written:
  after a virama, and the non-joiner also between two letters that would join without it.
-/
import LeaseKeeper.DomainName.Joining.Table
import LeaseKeeper.Text.Composition

namespace LeaseKeeper.DomainName

namespace Joining

@[irreducible] def leftTable : Text.RangeTable := .ofText Table.joinsLeft
@[irreducible] def rightTable : Text.RangeTable := .ofText Table.joinsRight
@[irreducible] def bothTable : Text.RangeTable := .ofText Table.joinsBoth
@[irreducible] def transparentTable : Text.RangeTable := .ofText Table.transparent

/-- Zero-width non-joiner. -/
def nonJoiner : Char := '\u200c'
/-- Zero-width joiner. -/
def joiner : Char := '\u200d'
/-- The combining class of viramas. -/
def viramaClass : Nat := 9

/-- Whether the text before a joiner, last character first, ends in a virama. -/
def afterVirama : List Char → Bool
  | c :: _ => Text.Composition.combiningClass c == viramaClass
  | [] => false

/-- Whether the nearest character that is not transparent is in one of two tables. -/
def nearest (one other : Text.RangeTable) (cs : List Char) : Bool :=
  match cs.dropWhile transparentTable.contains with
  | c :: _ => one.contains c || other.contains c
  | [] => false

/-- Whether the joiners of a label stand where they may.  `before` is the text already passed, last
    character first. -/
def allowedFrom (before : List Char) : List Char → Bool
  | [] => true
  | c :: rest =>
    (if c = nonJoiner then
      afterVirama before || (nearest leftTable bothTable before && nearest rightTable bothTable rest)
    else if c = joiner then afterVirama before
    else true) && allowedFrom (c :: before) rest

end Joining

/-- **Whether every joiner of a label stands where it may.** -/
def joinersAllowed (label : List Char) : Bool := Joining.allowedFrom [] label

end LeaseKeeper.DomainName

/-
  Mapping the characters of a domain name.

  Names that look alike are one name: letters go to lower case, compatibility characters to plain
  ones, invisible characters disappear.  A character that may not occur at all makes the whole name
  invalid.
-/
import LeaseKeeper.DomainName.Mapping.Table

namespace LeaseKeeper.DomainName

namespace Mapping

@[irreducible] def keptTable : Text.RangeTable := .ofText Table.kept
@[irreducible] def droppedTable : Text.RangeTable := .ofText Table.dropped
@[irreducible] def replacedTable : Text.RangeTable := .ofText Table.replaced
@[irreducible] def expandedTable : Text.RangeTable := .ofText Table.expanded

/-- What becomes of a character that is not ASCII; `none` if it may not occur. -/
def extended? (c : Char) : Option (List Char) :=
  if keptTable.contains c then some [c]
  else match replacedTable.shifted? c with
    | some d => some [d]
    | none =>
      match expandedTable.assigned? c with
      | some ds => some (ds.map Char.ofNat)
      | none => if droppedTable.contains c then some [] else none

end Mapping

/-- **What becomes of a character**; `none` if it may not occur. -/
def mapChar? (c : Char) : Option (List Char) :=
  if c.toNat < 0x80 then some [c.toLower] else Mapping.extended? c

/-- Whether a character stands for itself. -/
def isKept (c : Char) : Bool :=
  if c.toNat < 0x80 then !c.isUpper else Mapping.keptTable.contains c

/-- What becomes of a text. -/
def mapText? : List Char → Option (List Char)
  | [] => some []
  | c :: cs => do
    let front ← mapChar? c
    let rest ← mapText? cs
    return front ++ rest

end LeaseKeeper.DomainName

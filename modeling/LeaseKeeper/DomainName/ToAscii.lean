/-
  The ASCII form of a domain name.

  A name is mapped and composed, cut at its points, and every label that is not ASCII is written in
  Punycode behind the mark `xn--`.  A label that already carries the mark must be what this process
  would have written: its decoded form is composed, maps to itself, is not ASCII and is a valid
  label.

  Names are not limited in length and hyphens may stand anywhere, but a few ASCII characters that
  mean something else in an address may not occur (`isForbidden`).
-/
import LeaseKeeper.DomainName.Direction
import LeaseKeeper.DomainName.Joining
import LeaseKeeper.DomainName.Mapping
import LeaseKeeper.DomainName.Mark.Table
import LeaseKeeper.DomainName.Punycode

namespace LeaseKeeper.DomainName

/-- An ASCII character that may not occur in a domain name. -/
def isForbidden (c : Char) : Bool :=
  c.toNat ≤ 0x20 || c.toNat == 0x7F || "#%/:<>?@[\\]^|".toList.contains c

/-- Whether all characters are ASCII. -/
def isAscii (cs : List Char) : Bool := cs.all fun c => c.toNat < 0x80

/-- The mark of a label in Punycode. -/
def mark : List Char := ['x', 'n', '-', '-']

/-- Combining marks. -/
@[irreducible] def markTable : Text.RangeTable := .ofText Mark.Table.marks

/-- The longest label that is written in Punycode, in characters. -/
def maxEncoded : Nat := 1000
/-- The longest Punycode form that is read, in characters. -/
def maxDecoded : Nat := 2000

/-- **A valid label**, apart from its direction: it does not begin with a combining mark, its
    characters stand for themselves, and its joiners stand where they may. -/
def isValidLabel (label : List Char) : Bool :=
  !(label.head?.any markTable.contains) && label.all isKept && joinersAllowed label

/-- The text that a label spells; `none` if it is not valid. -/
def spelled? (label : List Char) : Option (List Char) :=
  if mark.isPrefixOf label then
    let code := label.drop mark.length
    if maxDecoded < code.length then none
    else match Punycode.decode? code with
      | none => none
      | some text =>
        if !isAscii text && !mark.isPrefixOf text && Text.compose text == text && isValidLabel text
        then some text
        else none
  else if isValidLabel label then some label
  else none

/-- The written form of a label that spells `text`; `none` if it would be too long. -/
def written? (label text : List Char) : Option (List Char) :=
  if isAscii label then some label
  else if maxEncoded < text.length then none
  else some (mark ++ Punycode.encode text)

/-- **The ASCII form of a domain name**; `none` if the name is not valid. -/
def toAscii? (name : List Char) : Option (List Char) := do
  let mapped ← mapText? name
  let labels := (Text.compose mapped).splitOn '.'
  if (labels.any fun l => l.any isForbidden) then none
  let texts ← labels.mapM spelled?
  let directions := texts.map fun t => t.map Direction.ofChar
  let isBidi := directions.any fun ds => ds.any Direction.marksName
  if isBidi && !directions.all Direction.keepsOneDirection then none
  let parts ← (labels.zip texts).mapM fun (l, t) => written? l t
  return ['.'].intercalate parts

end LeaseKeeper.DomainName

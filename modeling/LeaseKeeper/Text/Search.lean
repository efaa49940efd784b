/-
  Finding a text inside another.
-/

namespace LeaseKeeper.Text

/-- **Whether `part` occurs in a text.** -/
def occursIn (part : List Char) : List Char → Bool
  | [] => part.isEmpty
  | c :: cs => part.isPrefixOf (c :: cs) || occursIn part cs

end LeaseKeeper.Text

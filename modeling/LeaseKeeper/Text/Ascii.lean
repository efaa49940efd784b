/-
  Comparing text without regard to ASCII case.

  Only the 26 letters have two forms here; `é` and `É` stay different.
-/

namespace LeaseKeeper.Text

/-- **The text with its ASCII letters in lower case.** -/
def foldCase (s : String) : List Char := s.toList.map Char.toLower

/-- **Equal up to ASCII case.** -/
def sameIgnoringCase (s t : String) : Bool := foldCase s == foldCase t

/-- Queries that differ only in case match the same texts. -/
theorem sameIgnoringCase_congr {s t : String} (h : foldCase s = foldCase t) (u : String) :
    sameIgnoringCase u s = sameIgnoringCase u t := by
  simp [sameIgnoringCase, h]

end LeaseKeeper.Text

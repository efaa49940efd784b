/-
  JSON as a format for structured data.
-/
import LeaseKeeper.DataFormat
import LeaseKeeper.Json.Decode

namespace LeaseKeeper.Json

/-- The items of an array. -/
def items? : Json → Option (List Json)
  | .arr items => some items
  | _ => none

/-- Whether a value is `null`. -/
def isNull (j : Json) : Bool := j matches .null

/-- **JSON as a data format.** -/
def format : DataFormat Json where
  record? := record?
  text? := str?
  flag? := bool?
  natBelow? := natBelow?
  items? := items?
  isNull := isNull
  choice? := choice?

end LeaseKeeper.Json

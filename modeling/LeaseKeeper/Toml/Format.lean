/-
  TOML as a format for structured data.

  A record is a table, or an array of its fields in their declared order, of which more than the
  record has are ignored.  A date where a record is expected is a record without fields.  Nothing is
  written for a value that is not there.
-/
import LeaseKeeper.DataFormat
import LeaseKeeper.Toml.Table

namespace LeaseKeeper.Toml

/-- The items of an array or list of tables. -/
def items? : Toml → Option (List Toml)
  | .array items => some items
  | .tables elements => some elements
  | _ => none

/-- **The fields of a record.** -/
def record? (names : List String) : Toml → Option (String → Option Toml)
  | .table _ entries => some fun n => if n ∈ names then entries.lookup n else none
  | .array items => some fun n => (names.zip items).lookup n
  | .tables elements => some fun n => (names.zip elements).lookup n
  | .dateTime _ => some fun _ => none
  | _ => none

/-- A text. -/
def text? : Toml → Option String
  | .string s => some s
  | _ => none

/-- A truth value. -/
def flag? : Toml → Option Bool
  | .boolean b => some b
  | _ => none

/-- An unsigned integer below a bound. -/
def natBelow? (bound : Nat) : Toml → Option Nat
  | .integer n => if 0 ≤ n ∧ n < bound then some n.toNat else none
  | _ => none

/-- A table or array that holds nothing. -/
def isEmpty : Toml → Bool
  | .table _ [] => true
  | .array [] => true
  | _ => false

/-- **A choice of names**: a string, or a table whose only key is the name and whose value is
    empty. -/
def choice? : Toml → Option String
  | .string s => some s
  | .table _ ((k, v) :: rest) => if rest.isEmpty && v.isEmpty then some k else none
  | _ => none

/-- **TOML as a data format.** -/
def format : DataFormat Toml where
  record? := record?
  text? := text?
  flag? := flag?
  natBelow? := natBelow?
  items? := items?
  isNull := fun _ => false
  choice? := choice?

end LeaseKeeper.Toml

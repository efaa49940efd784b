/-
  TOML values.

  Besides the value of each table it matters how the table came to be, because a table may be
  written in several places but not twice in the same way (`TableOrigin`).
-/

namespace LeaseKeeper

namespace Toml

/-- **How a table came to be.** -/
inductive TableOrigin where
  /-- It has a header of its own, or is an element of a list of tables. -/
  | header
  /-- It was named on the way to another header. -/
  | implied
  /-- It was named by a dotted key. -/
  | dotted
  /-- It was written between braces, and is closed. -/
  | inline
  deriving DecidableEq, Repr, Inhabited

end Toml

/-- **A TOML value.**  Floats and times are kept as written. -/
inductive Toml where
  | string (value : String)
  | integer (value : Int)
  | float (text : String)
  | boolean (value : Bool)
  | dateTime (text : String)
  | array (items : List Toml)
  | table (origin : Toml.TableOrigin) (entries : List (String × Toml))
  /-- A list of tables with headers. -/
  | tables (elements : List Toml)
  deriving Inhabited

namespace Toml

/-- The entries of a table. -/
abbrev Entries := List (String × Toml)

end Toml

end LeaseKeeper

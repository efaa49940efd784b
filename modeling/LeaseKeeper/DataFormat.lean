/-
  Formats for structured data.

  A `DataFormat V` says how to take values of the type `V` apart, so that a record can be read in
  the same way from any format that has one.  Every function answers `none` when a value is not of
  the kind asked for.
-/

namespace LeaseKeeper

/-- **How to take values of one format apart.** -/
structure DataFormat (V : Type) where
  /-- The fields of a record that declares the given names, by name. -/
  record? : List String → V → Option (String → Option V)
  text? : V → Option String
  flag? : V → Option Bool
  /-- An unsigned integer below a bound. -/
  natBelow? : Nat → V → Option Nat
  items? : V → Option (List V)
  /-- Whether a value says that there is none. -/
  isNull : V → Bool
  /-- One of several names. -/
  choice? : V → Option String

namespace DataFormat

variable {V : Type} {α : Type} (F : DataFormat V)

/-- A list of texts. -/
def texts? (v : V) : Option (List String) := (F.items? v).bind fun vs => vs.mapM F.text?

/-- A 16-bit unsigned integer. -/
def uint16? (v : V) : Option UInt16 := (F.natBelow? UInt16.size v).map UInt16.ofNat

/-- A 64-bit unsigned integer. -/
def uint64? (v : V) : Option UInt64 := (F.natBelow? UInt64.size v).map UInt64.ofNat

/-- A value that may be none. -/
def nullable? (read : V → Option α) (v : V) : Option (Option α) :=
  if F.isNull v then some none else (read v).map some

end DataFormat

/-- **A field that has a default.** -/
def fieldOr {V α : Type} (field : Option V) (default : α) (read : V → Option α) : Option α :=
  match field with
  | none => some default
  | some v => read v

end LeaseKeeper

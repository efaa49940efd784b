/-
  Taking JSON values apart.

  A decoder is a function `Json → Option α`: it succeeds exactly on the values that spell an `α`.
  Records are taken apart by `Json.record?`, which knows the two forms a record may have:

    * an object, in which no known key may appear twice and unknown keys are ignored;
    * an array of the fields in their declared order, from whose end fields may be missing, and
      which may not be longer than the record.

  A field that is absent in either form is the same `none`; `required` refuses it and `orDefault`
  fills it in.
-/
import LeaseKeeper.Json.Basic
import LeaseKeeper.SortedMap

namespace LeaseKeeper.Json

variable {α : Type}

/-! ## Single values -/

/-- A string. -/
def str? : Json → Option String
  | .str s => some s
  | _ => none

/-- A truth value. -/
def bool? : Json → Option Bool
  | .bool b => some b
  | _ => none

/-- An unsigned integer below `bound`, written without sign, point and exponent. -/
def natBelow? (bound : Nat) : Json → Option Nat
  | .num (.natural n) => if n < bound then some n else none
  | _ => none

/-- A 16-bit unsigned integer. -/
def uint16? (j : Json) : Option UInt16 := (j.natBelow? UInt16.size).map UInt16.ofNat

/-- A 32-bit unsigned integer. -/
def uint32? (j : Json) : Option UInt32 := (j.natBelow? UInt32.size).map UInt32.ofNat

/-- A 64-bit unsigned integer. -/
def uint64? (j : Json) : Option UInt64 := (j.natBelow? UInt64.size).map UInt64.ofNat

/-- A list, each item decoded by `decode`. -/
def list? (decode : Json → Option α) : Json → Option (List α)
  | .arr items => items.mapM decode
  | _ => none

/-- `null`, or what `decode` accepts. -/
def nullable? (decode : Json → Option α) : Json → Option (Option α)
  | .null => some none
  | j => (decode j).map some

/-- Decode the value of every member. -/
def members? (decode : Json → Option α) : List (String × Json) → Option (List (String × α))
  | [] => some []
  | (k, j) :: ms => do
    let v ← decode j
    let rest ← members? decode ms
    return (k, v) :: rest

/-- A map: any keys; of a repeated key the last value wins. -/
def map? (decode : Json → Option α) : Json → Option (SortedMap α)
  | .obj ms => (members? decode ms).map SortedMap.ofList
  | _ => none

/-- Any value that has a meaning throughout. -/
def value? (j : Json) : Option Json := if j.isReadable then some j else none

/-- **A choice of names**: a string, or an object whose only member has the name as its key and
    `null` as its value. -/
def choice? : Json → Option String
  | .str s => some s
  | .obj [(k, .null)] => some k
  | _ => none

/-! ## Records -/

/-- The fields of a record, by name. -/
abbrev Fields := String → Option Json

/-- The members under `key`, in order. -/
def membersNamed (key : String) (ms : List (String × Json)) : List Json :=
  ms.filterMap fun m => if m.1 = key then some m.2 else none

/-- **The fields of a record** that declares `names`, from either of its forms. -/
def record? (names : List String) : Json → Option Fields
  | .obj ms =>
    if names.all fun n => (membersNamed n ms).length ≤ 1 then
      some fun n => if n ∈ names then (membersNamed n ms).head? else none
    else none
  | .arr items =>
    if items.length ≤ names.length then some fun n => (names.zip items).lookup n else none
  | _ => none

/-- A field that must be there. -/
def required (field : Option Json) (decode : Json → Option α) : Option α := field.bind decode

/-- A field that has a default. -/
def orDefault (field : Option Json) (default : α) (decode : Json → Option α) : Option α :=
  match field with
  | none => some default
  | some j => decode j

end LeaseKeeper.Json

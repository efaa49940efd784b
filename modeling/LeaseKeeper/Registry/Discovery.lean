/-
  What the registry says about other applications.

  The registry's JSON comes from a format in which a list of one element looks like the element
  itself, so wherever a list is expected a single value will do (`OneOrMany`).  A single value is
  tried first.
-/
import LeaseKeeper.Json.Decode

namespace LeaseKeeper

/-- **A single value, or a list.** -/
inductive OneOrMany (α : Type) where
  | one (value : α)
  | many (values : List α)
  deriving DecidableEq, Repr

namespace OneOrMany

variable {α : Type}

/-- **The values**, as a list in either case. -/
def toList : OneOrMany α → List α
  | one value => [value]
  | many values => values

/-- **Read a single value or a list.**  Every part of the JSON must have a meaning, whether it is
    used or not. -/
def ofJson? (decode : Json → Option α) (j : Json) : Option (OneOrMany α) :=
  if j.isReadable then
    match decode j with
    | some value => some (one value)
    | none => (Json.list? decode j).map many
  else none

end OneOrMany

/-- **A registered instance**: the host it runs on. -/
structure RegisteredInstance where
  hostName : String
  deriving DecidableEq, Repr

/-- **A registered application.** -/
structure Application where
  name : String
  instances : OneOrMany RegisteredInstance := .many []
  deriving DecidableEq, Repr

def RegisteredInstance.ofJson? (j : Json) : Option RegisteredInstance := do
  let f ← j.record? ["hostName"]
  return { hostName := ← Json.required (f "hostName") Json.str? }

def Application.ofJson? (j : Json) : Option Application := do
  let f ← j.record? ["name", "instance"]
  return {
    name := ← Json.required (f "name") Json.str?
    instances := ← Json.orDefault (f "instance") (.many [])
      (OneOrMany.ofJson? RegisteredInstance.ofJson?) }

/-- **The hosts** of an application's instances. -/
def Application.hostNames (a : Application) : List String := a.instances.toList.map (·.hostName)

/-- **Read the answer about one application.** -/
def applicationOfJson? (j : Json) : Option Application := do
  let f ← j.record? ["application"]
  Json.required (f "application") Application.ofJson?

/-- The list of applications inside the answer about all of them. -/
def applicationListOfJson? (j : Json) : Option (OneOrMany Application) := do
  let f ← j.record? ["application"]
  Json.orDefault (f "application") (.many []) (OneOrMany.ofJson? Application.ofJson?)

/-- **Read the answer about all applications.**  What is missing is an empty list. -/
def applicationsOfJson? (j : Json) : Option (OneOrMany Application) := do
  let f ← j.record? ["applications"]
  Json.orDefault (f "applications") (.many []) applicationListOfJson?

/-- **The hosts of all applications by name**; of applications with one name the last counts. -/
def directory (apps : List Application) : SortedMap (List String) :=
  SortedMap.ofList (apps.map fun a => (a.name, a.hostNames))

end LeaseKeeper

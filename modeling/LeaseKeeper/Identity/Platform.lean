/-
  The identity that the platform hands to a process.

  The platform describes the application in one JSON variable and the instance in a handful of
  plain ones.  The instance id is the instance's GUID; without one it is the application id, a
  colon and the index in decimal, so siblings differ as long as their indices do.
-/
import LeaseKeeper.Environment
import LeaseKeeper.Identity
import LeaseKeeper.Json.Reader
import LeaseKeeper.Text.Blank
import LeaseKeeper.Text.Decimal

namespace LeaseKeeper.Platform

/-- The variable that describes the application. -/
def applicationVar : String := "VCAP_APPLICATION"

/-- The variable that holds the instance's index. -/
def indexVar : String := "CF_INSTANCE_INDEX"

/-- The variable that holds the address at which the instance is seen from outside. -/
def addrVar : String := "CF_INSTANCE_ADDR"

/-- The variable that holds the instance's GUID. -/
def guidVar : String := "CF_INSTANCE_GUID"

/-- All variables that say who is running. -/
def variableNames : List String := [applicationVar, indexVar, addrVar, guidVar]

/-- The part of an application's description that goes into an identity. -/
structure Application where
  applicationId : String := ""
  name : String := ""
  uris : Option (List String) := none
  version : String := ""
  host : String := ""
  port : UInt16 := 0
  spaceName : String := ""
  deriving DecidableEq, Repr, Inhabited

/-- The fields of a description, in their declared order. -/
def Application.fieldNames : List String :=
  ["application_id", "name", "uris", "version", "host", "port", "space_name"]

/-- **Read a description.**  Every field has a default; no routes may be written as `null`. -/
def Application.ofJson? (j : Json) : Option Application := do
  let f ← j.record? fieldNames
  return {
    applicationId := ← Json.orDefault (f "application_id") "" Json.str?
    name := ← Json.orDefault (f "name") "" Json.str?
    uris := ← Json.orDefault (f "uris") none (Json.nullable? (Json.list? Json.str?))
    version := ← Json.orDefault (f "version") "" Json.str?
    host := ← Json.orDefault (f "host") "" Json.str?
    port := ← Json.orDefault (f "port") 0 Json.uint16?
    spaceName := ← Json.orDefault (f "space_name") "" Json.str? }

/-- **What tells an instance from its siblings.** -/
structure Instance where
  index : UInt32
  addr : String
  guid : Option String
  deriving DecidableEq, Repr

/-- **Read the instance variables.**  An index that is absent, malformed or too large is zero, and
    an empty GUID is none. -/
def Instance.ofEnvironment (env : Environment) : Instance where
  index := ((env indexVar).bind fun raw =>
    Text.decimalBelow? UInt32.size (Text.trim raw.toList)).elim 0 UInt32.ofNat
  addr := (env addrVar).getD ""
  guid := env.nonEmpty? guidVar

/-- **The instance id**: the GUID, or the application id and the index. -/
def instanceId (app : Application) (inst : Instance) : String :=
  inst.guid.getD (app.applicationId ++ ":" ++ toString inst.index.toNat)

/-- The identity of an instance of an application. -/
def assemble (app : Application) (inst : Instance) : Identity where
  name := app.name
  instanceId := instanceId app inst
  addr := app.host ++ ":" ++ toString app.port.toNat
  uris := app.uris.getD []
  instanceAddr := inst.addr
  instanceIndex := inst.index
  appId := app.applicationId
  version := app.version
  spaceName := app.spaceName

/-- The description of the application in an environment. -/
def application? (env : Environment) : Except IdentityError Application :=
  match env.nonEmpty? applicationVar with
  | none => .error (.notSet applicationVar)
  | some raw =>
    match (Json.parse? raw).bind Application.ofJson? with
    | none => .error (.malformed applicationVar)
    | some app => .ok app

/-- **The identity of the current process.**  An application without a name has none. -/
def identity? (env : Environment) : Except IdentityError Identity := do
  let app ← application? env
  if app.name = "" then throw (.incomplete .name)
  return assemble app (Instance.ofEnvironment env)

end LeaseKeeper.Platform

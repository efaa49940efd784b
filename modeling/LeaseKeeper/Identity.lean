/-
  Who is announced.

  An `Identity` names one running instance of an application.  Three of its fields decide how a
  registry addresses it: `uri` (the first route, or the listen address of an application without
  routes), `appKey` (the name in upper case) and `instanceKey` (`uri`, a colon, the instance id).

  An identity can be announced only if it has a name and an instance id (`Identity.complete?`).
-/
import LeaseKeeper.Json.Decode
import LeaseKeeper.Text.UpperCase

namespace LeaseKeeper

/-- **One instance of an application.** -/
structure Identity where
  /-- Logical application name. -/
  name : String
  /-- Id of this instance, different from that of its siblings. -/
  instanceId : String
  /-- The address the application listens on. -/
  addr : String
  /-- Routes under which the application can be reached. -/
  uris : List String := []
  /-- Address of this instance as seen from outside. -/
  instanceAddr : String := ""
  /-- Index of this instance among its siblings. -/
  instanceIndex : UInt32 := 0
  /-- The platform's id of the application. -/
  appId : String := ""
  version : String := ""
  spaceName : String := ""
  deriving DecidableEq, Repr, Inhabited

/-- What an identity must have and may lack. -/
inductive MissingPart where
  | name
  | instanceId
  deriving DecidableEq, Repr

/-- **Why there is no identity.** -/
inductive IdentityError where
  /-- A required variable is unset or empty. -/
  | notSet (var : String)
  /-- A variable holds something other than the JSON it should. -/
  | malformed (var : String)
  /-- The identity lacks a part. -/
  | incomplete (part : MissingPart)
  deriving DecidableEq, Repr

/-- How a missing part is named in a message. -/
def MissingPart.label : MissingPart → String
  | name => "name"
  | instanceId => "instance id"

/-- The wording of an error. -/
def IdentityError.message : IdentityError → String
  | notSet var => var ++ " not set"
  | malformed var => "Error parsing " ++ var
  | incomplete part => "Identity has no " ++ part.label

namespace Identity

/-- **An identity of the three required parts.**  It is reached from outside where it listens. -/
def ofAddress (name instanceId addr : String) : Identity :=
  { name, instanceId, addr, instanceAddr := addr }

/-- **The primary URI**: the first route, or the listen address if there is none. -/
def uri (i : Identity) : String := i.uris.headD i.addr

/-- **The name under which a registry files the application.** -/
def appKey (i : Identity) : String := Text.upperCase i.name

/-- **The name under which a registry files the instance.** -/
def instanceKey (i : Identity) : String := i.uri ++ ":" ++ i.instanceId

/-- **The identity itself, if it can be announced.** -/
def complete? (i : Identity) : Except IdentityError Identity :=
  if i.name = "" then .error (.incomplete .name)
  else if i.instanceId = "" then .error (.incomplete .instanceId)
  else .ok i

/-- The fields of a written identity, in their declared order. -/
def fieldNames : List String :=
  ["name", "instance_id", "addr", "uris", "instance_addr", "instance_index", "app_id", "version",
    "space_name"]

/-- **The JSON of an identity.** -/
def toJson (i : Identity) : Json := .obj [
  ("name", .str i.name),
  ("instance_id", .str i.instanceId),
  ("addr", .str i.addr),
  ("uris", .arr (i.uris.map .str)),
  ("instance_addr", .str i.instanceAddr),
  ("instance_index", .num (.natural i.instanceIndex.toNat)),
  ("app_id", .str i.appId),
  ("version", .str i.version),
  ("space_name", .str i.spaceName)]

/-- **Read an identity.**  The first three fields are required. -/
def ofJson? (j : Json) : Option Identity := do
  let f ← j.record? fieldNames
  return {
    name := ← Json.required (f "name") Json.str?
    instanceId := ← Json.required (f "instance_id") Json.str?
    addr := ← Json.required (f "addr") Json.str?
    uris := ← Json.orDefault (f "uris") [] (Json.list? Json.str?)
    instanceAddr := ← Json.orDefault (f "instance_addr") "" Json.str?
    instanceIndex := ← Json.orDefault (f "instance_index") 0 Json.uint32?
    appId := ← Json.orDefault (f "app_id") "" Json.str?
    version := ← Json.orDefault (f "version") "" Json.str?
    spaceName := ← Json.orDefault (f "space_name") "" Json.str? }

end Identity

end LeaseKeeper

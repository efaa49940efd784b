/-
  Bound services.

  The platform lists the services bound to an application in one JSON variable: a map from labels
  to lists of bindings.  A binding is looked up by name or by tag, without regard to ASCII case;
  labels are visited in the order of their bytes and each list in its own order, and the first match
  counts.  So it does not matter in which order the platform wrote the labels.
-/
import LeaseKeeper.Environment
import LeaseKeeper.Json.Decode
import LeaseKeeper.Json.Reader
import LeaseKeeper.Registry.Error
import LeaseKeeper.Text.Ascii

namespace LeaseKeeper

/-- **One bound service.** -/
structure ServiceBinding where
  name : String := ""
  label : String := ""
  tags : List String := []
  plan : String := ""
  credentials : SortedMap Json := .empty
  deriving Inhabited

namespace ServiceBinding

/-- **Read a binding.**  Every field has a default. -/
def ofJson? (j : Json) : Option ServiceBinding := do
  let f ← j.record? ["name", "label", "tags", "plan", "credentials"]
  return {
    name := ← Json.orDefault (f "name") "" Json.str?
    label := ← Json.orDefault (f "label") "" Json.str?
    tags := ← Json.orDefault (f "tags") [] (Json.list? Json.str?)
    plan := ← Json.orDefault (f "plan") "" Json.str?
    credentials := ← Json.orDefault (f "credentials") .empty (Json.map? Json.value?) }

/-- Whether the binding goes by a name. -/
def isNamed (b : ServiceBinding) (name : String) : Bool := Text.sameIgnoringCase b.name name

/-- Whether the binding carries a tag. -/
def hasTag (b : ServiceBinding) (tag : String) : Bool :=
  b.tags.any fun t => Text.sameIgnoringCase t tag

end ServiceBinding

/-- **All bound services**, by label. -/
structure ServiceBindings where
  byLabel : SortedMap (List ServiceBinding)

namespace ServiceBindings

/-- The variable that lists the bindings. -/
def servicesVar : String := "VCAP_SERVICES"

/-- Read the bindings of all labels. -/
def ofJson? (j : Json) : Option ServiceBindings :=
  (Json.map? (Json.list? ServiceBinding.ofJson?) j).map ServiceBindings.mk

/-- **The services bound in an environment.** -/
def ofEnvironment (env : Environment) : Except BindingError ServiceBindings :=
  match env.nonEmpty? servicesVar with
  | none => .error (.notSet servicesVar)
  | some raw =>
    match (Json.parse? raw).bind ofJson? with
    | none => .error (.malformed servicesVar)
    | some bindings => .ok bindings

/-- All bindings in the order in which they are searched. -/
def all (b : ServiceBindings) : List ServiceBinding := b.byLabel.values.flatten

/-- **The first binding with a name.** -/
def named (b : ServiceBindings) (name : String) : Except BindingError ServiceBinding :=
  match b.all.find? (·.isNamed name) with
  | some s => .ok s
  | none => .error (.nameNotFound name)

/-- **The first binding with a tag.** -/
def tagged (b : ServiceBindings) (tag : String) : Except BindingError ServiceBinding :=
  match b.all.find? (·.hasTag tag) with
  | some s => .ok s
  | none => .error (.tagNotFound tag)

end ServiceBindings

end LeaseKeeper

/-
  Environment variables.

  An environment is what a process can ask of it: the value of a variable, or nothing.  A variable
  that is set to the empty text counts as unset wherever a value is required
  (`Environment.nonEmpty?`).
-/

namespace LeaseKeeper

/-- **The environment of a process**: the value of each variable that is set. -/
abbrev Environment := String → Option String

namespace Environment

/-- An environment given as a list of variables; the first entry of a name counts. -/
def ofList (vars : List (String × String)) : Environment :=
  fun name => vars.lookup name

/-- **The value of a variable that is set and not empty.** -/
def nonEmpty? (env : Environment) (name : String) : Option String :=
  (env name).filter fun value => value != ""

end Environment

end LeaseKeeper

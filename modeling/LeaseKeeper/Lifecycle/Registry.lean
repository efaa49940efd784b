/-
  A registry whose answers are known in advance.

  To say what a registrar does, one must say what it is told.  A `ScriptedRegistry` has a script for
  each kind of call: every call takes the next outcome, and when none is left the fallback stands for
  all that follow.  An outcome has a latency, which passes before the call ends.

  The registry also says how often it wants a sign of life; each registration that succeeds may
  change that.
-/
import LeaseKeeper.Duration
import LeaseKeeper.Registry.Error

namespace LeaseKeeper

/-- **A call to a registry** on behalf of an instance. -/
inductive RegistryCall where
  | register
  | heartbeat
  | deregister
  deriving DecidableEq, Repr, Inhabited

/-- The name of a call. -/
def RegistryCall.label : RegistryCall → String
  | register => "register"
  | heartbeat => "heartbeat"
  | deregister => "deregister"

/-- **A call that a registration task makes.** -/
inductive TaskCall where
  | register
  | heartbeat
  deriving DecidableEq, Repr, Inhabited

/-- The call to the registry that it is. -/
def TaskCall.call : TaskCall → RegistryCall
  | register => .register
  | heartbeat => .heartbeat

/-- **How a call ends**: after a while, and perhaps with a failure. -/
structure CallOutcome where
  latency : Duration := ⟨0⟩
  failure : Option String := none
  deriving DecidableEq, Repr, Inhabited

/-- **The outcomes of calls of one kind**, in order. -/
structure Script where
  queued : List CallOutcome := []
  fallback : CallOutcome := {}
  deriving DecidableEq, Repr, Inhabited

/-- The outcome of the next call. -/
def Script.outcome (s : Script) : CallOutcome := s.queued.headD s.fallback

/-- The script after the next call. -/
def Script.rest (s : Script) : Script := { s with queued := s.queued.tail }

/-- **A registry that follows scripts.** -/
structure ScriptedRegistry where
  register : Script := {}
  heartbeat : Script := {}
  deregister : Script := {}
  /-- The time between two signs of life. -/
  interval : Duration := ⟨30000⟩
  /-- The intervals after the next successful registrations. -/
  laterIntervals : List Duration := []
  deriving DecidableEq, Repr, Inhabited

namespace ScriptedRegistry

/-- The script for calls of one kind. -/
def script (g : ScriptedRegistry) : RegistryCall → Script
  | .register => g.register
  | .heartbeat => g.heartbeat
  | .deregister => g.deregister

/-- Change the script for calls of one kind. -/
def modifyScript (g : ScriptedRegistry) (call : RegistryCall) (f : Script → Script) :
    ScriptedRegistry :=
  match call with
  | .register => { g with register := f g.register }
  | .heartbeat => { g with heartbeat := f g.heartbeat }
  | .deregister => { g with deregister := f g.deregister }

/-- The registry after a call was started. -/
def called (g : ScriptedRegistry) (call : RegistryCall) : ScriptedRegistry :=
  g.modifyScript call Script.rest

/-- The registry after a call ended: a successful registration moves on to the next interval. -/
def answered (g : ScriptedRegistry) (call : RegistryCall) (failure : Option String) :
    ScriptedRegistry :=
  match call, failure, g.laterIntervals with
  | .register, none, i :: rest => { g with interval := i, laterIntervals := rest }
  | _, _, _ => g

/-- The registry with another fallback for calls of one kind. -/
def withFallback (g : ScriptedRegistry) (call : RegistryCall) (o : CallOutcome) :
    ScriptedRegistry :=
  g.modifyScript call fun s => { s with fallback := o }

/-- The registry with an outcome for the next call of one kind. -/
def withNext (g : ScriptedRegistry) (call : RegistryCall) (o : CallOutcome) : ScriptedRegistry :=
  g.modifyScript call fun s => { s with queued := o :: s.queued }

/-- The registry with an interval that stays. -/
def withInterval (g : ScriptedRegistry) (d : Duration) : ScriptedRegistry :=
  { g with interval := d, laterIntervals := [] }

/-- **A registry that does not answer**: every call fails at once, for one reason. -/
def unreachable (reason : String) : ScriptedRegistry :=
  let script : Script := { fallback := { failure := some reason } }
  { register := script, heartbeat := script, deregister := script }

/-- How many outcomes are queued for the calls of a registration task. -/
def queuedCount (g : ScriptedRegistry) : Nat :=
  g.register.queued.length + g.heartbeat.queued.length

end ScriptedRegistry

end LeaseKeeper

/-
  What happened.

  A journal has one entry for everything that happens to the scopes of registrars and for all that
  others can notice of it: a scope begins and is cancelled, calls start and end, the registrar lets go
  of a scope, log lines, counters and the gauge, and requests to end the process.  The metrics are read
  off the journal.
-/
import LeaseKeeper.Identity
import LeaseKeeper.Lifecycle.Registry
import LeaseKeeper.Signal.Basic

namespace LeaseKeeper

/-! ## Log lines -/

/-- **Why a registrar could not be enabled.** -/
inductive StartupError where
  | client (cause : RegistryError)
  | identity (cause : IdentityError)
  | signals (cause : String)
  deriving DecidableEq, Repr

/-- The wording of an error. -/
def StartupError.message : StartupError → String
  | client cause => "Error getting registry client: " ++ cause.message
  | identity cause => "Error getting app identity: " ++ cause.message
  | signals cause => "Error subscribing to termination signals: " ++ cause

/-- How serious a log line is. -/
inductive LogLevel where
  | info
  | warn
  | error
  deriving DecidableEq, Repr

/-- The name of a level. -/
def LogLevel.label : LogLevel → String
  | info => "INFO"
  | warn => "WARN"
  | error => "ERROR"

/-- **A log line.** -/
inductive LogLine where
  | enabled (identity : Identity) (retryInterval : Duration)
  | enableFailed (error : StartupError)
  | disabled
  | registered (identity : Identity) (heartbeatInterval : Duration)
  | registrationFailed (identity : Identity) (error : RegistryError) (retryInterval : Duration)
  | heartbeatFailed (identity : Identity) (error : RegistryError)
  | signalReceived (identity : Identity) (signal : TerminationSignal)
  | deregistered (identity : Identity)
  | deregistrationFailed (identity : Identity) (error : RegistryError)
  deriving DecidableEq, Repr

/-- A value in a log line. -/
inductive LogValue where
  | text (s : String)
  | number (n : Nat)
  deriving DecidableEq, Repr

namespace LogLine

/-- The level of a line. -/
def level : LogLine → LogLevel
  | registrationFailed .. => .warn
  | heartbeatFailed .. => .warn
  | enableFailed .. => .error
  | deregistrationFailed .. => .error
  | _ => .info

/-- The text of a line. -/
def message : LogLine → String
  | enabled .. => "Service registration enabled"
  | enableFailed _ => "Failed to enable service registration"
  | disabled => "Service registration disabled"
  | registered .. => "Registered with service registry"
  | registrationFailed .. => "Registration failed"
  | heartbeatFailed .. => "Heartbeat failed, registering again"
  | signalReceived .. => "Termination signal received"
  | deregistered _ => "Deregistered from service registry"
  | deregistrationFailed .. => "Deregistration failed"

/-- The values in a line, by name. -/
def values : LogLine → List (String × LogValue)
  | enabled i retry => [("app", .text i.name), ("instance_id", .text i.instanceId),
      ("uri", .text i.uri), ("retry_interval_ms", .number retry.millis)]
  | enableFailed e => [("error", .text e.message)]
  | disabled => []
  | registered i interval => [("app", .text i.name), ("instance_id", .text i.instanceId),
      ("heartbeat_interval_ms", .number interval.millis)]
  | registrationFailed i e retry => [("app", .text i.name), ("error", .text e.message),
      ("retry_in_ms", .number retry.millis)]
  | heartbeatFailed i e => [("app", .text i.name), ("error", .text e.message)]
  | signalReceived i s => [("signal", .text s.label), ("app", .text i.name)]
  | deregistered i => [("app", .text i.name), ("instance_id", .text i.instanceId)]
  | deregistrationFailed i e => [("app", .text i.name), ("error", .text e.message)]

/-- The text of a value. -/
def valueText : LogValue → String
  | .text s => s
  | .number n => toString n

/-- **A line as it is printed.** -/
def render (l : LogLine) : String :=
  l.level.label ++ " " ++ l.message ++
    String.join (l.values.map fun (name, value) => " " ++ name ++ "=" ++ valueText value)

end LogLine

/-! ## The journal -/

/-- **Why a scope was cancelled.** -/
inductive CancelCause where
  | disabled
  | dropped
  | signalled
  deriving DecidableEq, Repr

/-- **Something that happened.**  Registrars and scopes go by their numbers. -/
inductive JournalEntry where
  /-- A scope was started. -/
  | began (time registrar scope : Nat) (identity : Identity)
  /-- A scope was cancelled. -/
  | cancelled (time registrar scope : Nat) (cause : CancelCause)
  /-- A call started. -/
  | called (time registrar scope : Nat) (call : RegistryCall) (identity : Identity)
  /-- A call ended. -/
  | answered (time registrar scope : Nat) (call : RegistryCall) (identity : Identity)
      (success : Bool)
  /-- A registrar let go of a scope that has deregistered. -/
  | released (time registrar scope : Nat)
  /-- A counter went up. -/
  | counted (call : RegistryCall) (success : Bool)
  /-- The gauge was set. -/
  | gauged (isRegistered : Bool)
  | logged (line : LogLine)
  /-- The process was asked to end. -/
  | exited (registrar code : Nat)
  deriving DecidableEq, Repr

/-- What happened so far, in order. -/
abbrev Journal := List JournalEntry

namespace Journal

/-- **A counter**: how many calls of a kind were counted with a result. -/
def counter (j : Journal) (call : RegistryCall) (success : Bool) : Nat :=
  j.countP (· == .counted call success)

/-- **The gauge**, if it was ever set. -/
def gauge? (j : Journal) : Option Bool :=
  j.foldl (fun g e => match e with | .gauged b => some b | _ => g) none

/-- The codes with which a registrar asked the process to end. -/
def exits (j : Journal) (registrar : Nat) : List Nat :=
  j.filterMap fun e => match e with
    | .exited r code => if r = registrar then some code else none
    | _ => none

/-- The log lines. -/
def lines (j : Journal) : List LogLine :=
  j.filterMap fun e => match e with | .logged line => some line | _ => none

/-- The name of a counter. -/
def counterName (call : RegistryCall) (success : Bool) : String :=
  "registrar_" ++ call.label ++ "_total\x7boutcome=" ++ (if success then "success" else "failure") ++
    "\x7d"

/-- A counter with its name, once it has gone up. -/
def counterReading (j : Journal) (call : RegistryCall) (success : Bool) : List (String × Nat) :=
  match j.counter call success with
  | 0 => []
  | n => [(counterName call success, n)]

/-- **All metrics that were ever touched**, by name. -/
def metrics (j : Journal) : List (String × Nat) :=
  ([RegistryCall.register, .heartbeat, .deregister].flatMap fun call =>
    [true, false].flatMap fun success => j.counterReading call success) ++
  (match j.gauge? with
    | none => []
    | some b => [("registrar_registered", if b then 1 else 0)])

end Journal

end LeaseKeeper

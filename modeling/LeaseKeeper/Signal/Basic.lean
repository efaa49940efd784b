/-
  Termination signals.
-/

namespace LeaseKeeper

/-- **A signal that ends the process.** -/
inductive TerminationSignal where
  | interrupt
  | hangup
  | terminate
  deriving DecidableEq, Repr, Inhabited

/-- The name of a signal. -/
def TerminationSignal.label : TerminationSignal → String
  | interrupt => "SIGINT"
  | hangup => "SIGHUP"
  | terminate => "SIGTERM"

/-- The signal with a name. -/
def TerminationSignal.ofLabel? : String → Option TerminationSignal
  | "SIGINT" => some interrupt
  | "SIGHUP" => some hangup
  | "SIGTERM" => some terminate
  | _ => none

end LeaseKeeper

/-
  Keeping this process registered.

  The daemon reads its configuration, finds out who it is and where the registry is, and enables one
  registrar.  It ends when it is asked to: at once if it could not start, otherwise after a signal.
-/
import LeaseKeeper.Config.File
import LeaseKeeper.Identity.Platform
import LeaseKeeper.Lifecycle.Keeper
import LeaseKeeper.Registry.Client

namespace LeaseKeeper.Daemon

/-- **Who is announced**: the configured identity, or the one that the platform gave this process. -/
def identity (c : Config) (env : Environment) : Except IdentityError Identity :=
  match c.identity.identity? with
  | some i => i.complete?
  | none => Platform.identity? env

/-- Why there is no client, if there is none. -/
def clientFault? (c : Config) (env : Environment) : Option String :=
  match RegistryClient.ofConfig c.registry env with
  | .ok _ => none
  | .error reason => some reason

/-- **The daemon's registrar.** -/
def registrar (c : Config) (env : Environment) (registry : ScriptedRegistry) : Registrar where
  identity := identity c env
  pacing := c.registration.pacing
  registry := registry
  clientFaults := [clientFault? c env]

/-- **The daemon after its start.** -/
def start (c : Config) (env : Environment) (registry : ScriptedRegistry) : Keeper :=
  ({ registrars := [registrar c env registry] } : Keeper).enable 0

/-- **The call that the next turn will start**, if it starts one.  Whoever carries calls out for real
    does so before that turn and tells the registry its outcome. -/
def nextCall? (s : Keeper) : Option RegistryCall :=
  (s.step.journal.drop s.journal.length).findSome? fun e => match e with
    | .called _ _ _ call _ => some call
    | _ => none

/-- The code with which the daemon ends, once it is to end. -/
def exitCode? (s : Keeper) : Option Nat := (s.journal.exits 0).head?

/-- The code with which a daemon ends that has no configuration. -/
def configExitCode : Nat := 1

/-- **The exit code** of a daemon that is sent a signal after some time, if it ends within `patience`
    from then. -/
def run (config : Except ConfigError Config) (env : Environment) (registry : ScriptedRegistry)
    (uptime : Duration) (signal : TerminationSignal) (patience : Duration) : Option Nat :=
  match config with
  | .error _ => some configExitCode
  | .ok c => exitCode? ((((start c env registry).sleep uptime).raise signal).sleep patience)

end LeaseKeeper.Daemon

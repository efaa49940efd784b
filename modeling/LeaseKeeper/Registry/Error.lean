/-
  What can go wrong on the way to a registry.

  `BindingError` says why the endpoint of a registry is not known, `RegistryError` why a call to it
  failed.  Callers only report these errors, so each carries what its message needs.
-/
import LeaseKeeper.Url.Error

namespace LeaseKeeper

/-- **Why a service cannot be found or used.** -/
inductive BindingError where
  /-- The variable with the bindings is unset or empty. -/
  | notSet (var : String)
  /-- The variable holds something other than the JSON it should. -/
  | malformed (var : String)
  | nameNotFound (name : String)
  | tagNotFound (tag : String)
  /-- The credentials name no usable URI. -/
  | invalidUris
  | emptyUri
  | malformedUri (cause : UrlError)
  deriving DecidableEq, Repr

/-- The wording of an error. -/
def BindingError.message : BindingError → String
  | notSet var => var ++ " not set"
  | malformed var => "Error parsing " ++ var
  | nameNotFound name => "Service with name '" ++ name ++ "' not found"
  | tagNotFound tag => "Service with tag '" ++ tag ++ "' not found"
  | invalidUris => "Missing or invalid service URIs"
  | emptyUri => "Empty service URI"
  | malformedUri cause => "Error parsing service URI: " ++ cause.message

/-- **Why a call to the registry failed.** -/
inductive RegistryError where
  | register (reason : String)
  | deregister (reason : String)
  | heartbeat (reason : String)
  | apps (reason : String)
  | app (name reason : String)
  /-- There is no client to call with. -/
  | unavailable (reason : String)
  deriving DecidableEq, Repr

/-- The wording of an error. -/
def RegistryError.message : RegistryError → String
  | register reason => "Error registering app with registry: " ++ reason
  | deregister reason => "Error deregistering app with registry: " ++ reason
  | heartbeat reason => "Error sending heartbeat for app to registry: " ++ reason
  | apps reason => "Error retrieving apps from registry: " ++ reason
  | app name reason => "Error retrieving app '" ++ name ++ "' from registry: " ++ reason
  | unavailable reason => "Registry client unavailable: " ++ reason

end LeaseKeeper

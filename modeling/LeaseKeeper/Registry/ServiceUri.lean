/-
  The address of a registry, as people write it.

  Operators name a registry by host alone as often as by URL.  `ServiceUri.normalize` turns either
  into a URL: a text without a scheme gets `http`, and a URL without a path gets `/eureka`.
-/
import LeaseKeeper.Registry.Error
import LeaseKeeper.Text.Search
import LeaseKeeper.Url.Reader

namespace LeaseKeeper.ServiceUri

/-- What separates a scheme from a host. -/
def separator : List Char := [':', '/', '/']

/-- The scheme of an address that names none. -/
def defaultScheme : String := "http"

/-- The path of an address that names none, as segments. -/
def defaultPath : List String := ["eureka"]

/-- A text with a scheme: itself, or behind the default scheme. -/
def withScheme (text : String) : String :=
  if Text.occursIn separator text.toList then text else defaultScheme ++ "://" ++ text

/-- A URL with a path: itself, or with the default path. -/
def withDefaultPath (u : Url) : Url :=
  if u.path.isTrivial then u.withPath defaultPath else u

/-- **The URL that an address stands for.** -/
def normalize (text : String) : Except BindingError String :=
  if text = "" then .error .emptyUri
  else
    match Url.parse (withScheme text) with
    | .error e => .error (.malformedUri e)
    | .ok u => .ok (withDefaultPath u).render

end LeaseKeeper.ServiceUri

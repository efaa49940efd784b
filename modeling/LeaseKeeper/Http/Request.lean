/-
  HTTP requests.

  A request is a method, a URL and perhaps a JSON body; everything else in it follows.  A user name
  or password in the URL is sent as a header, and the URL is then used without them.
-/
import LeaseKeeper.Duration
import LeaseKeeper.Json.Basic
import LeaseKeeper.Text.Base64
import LeaseKeeper.Url.Basic

namespace LeaseKeeper

/-- The method of a request. -/
inductive HttpMethod where
  | get
  | post
  | put
  | delete
  deriving DecidableEq, Repr, Inhabited

/-- The name of a method. -/
def HttpMethod.label : HttpMethod → String
  | get => "GET"
  | post => "POST"
  | put => "PUT"
  | delete => "DELETE"

/-- **A user name, and perhaps a password.** -/
structure Credentials where
  user : String
  password : Option String
  deriving DecidableEq, Repr

/-- The header value that conveys credentials. -/
def Credentials.basic (c : Credentials) : String :=
  "Basic " ++ String.ofList (Text.base64 (c.user ++ ":" ++ c.password.getD "").toUTF8.toList)

namespace Url

/-- A part of a URL without its encoding, if it is text. -/
def plainText? (part : String) : Option String :=
  (utf8Decode? (percentDecode part.toList)).map String.ofList

/-- **The credentials in a URL.**  Those that are not text are left where they are. -/
def credentials? (u : Url) : Option Credentials :=
  match u.host, plainText? u.username with
  | some _, some user =>
    let password := if u.password = "" then none else plainText? u.password
    if user ≠ "" ∨ password.isSome then some ⟨user, password⟩ else none
  | _, _ => none

/-- A URL without the credentials that are sent as a header. -/
def withoutCredentials (u : Url) : Url :=
  if u.credentials?.isSome then { u with username := "", password := "" } else u

end Url

/-- **A request.** -/
structure HttpRequest where
  method : HttpMethod
  url : Url
  body : Option Json := none
  /-- How long to wait for the answer. -/
  timeout : Duration := .ofSeconds 10
  deriving Inhabited

namespace HttpRequest

/-- The URL that is asked. -/
def wireUrl (r : HttpRequest) : Url := r.url.withoutCredentials

/-- What stands in the request line: the path, and the query. -/
def target (r : HttpRequest) : String :=
  String.ofList (r.wireUrl.writePath ++ Url.writeMarked '?' r.wireUrl.query)

/-- The kind of answer that is asked for. -/
def accept : String := "application/json"

/-- The kind of the body. -/
def contentType? (r : HttpRequest) : Option String := r.body.map fun _ => "application/json"

/-- The credentials header. -/
def authorization? (r : HttpRequest) : Option String := r.url.credentials?.map Credentials.basic

/-- The length from which a URL is too long. -/
def maxUrlLength : Nat := 65534

/-- The characters that a host may hold and a request may not. -/
def isRefusedInHost (c : Char) : Bool := "\"`\x7b\x7d".toList.contains c

/-- **Whether a request can be made at all**: its URL must be HTTP, not too long, and have a host
    that can be asked. -/
def isSendable (r : HttpRequest) : Bool :=
  (r.url.scheme = "http" || r.url.scheme = "https") &&
    r.wireUrl.render.utf8ByteSize ≤ maxUrlLength &&
    !((r.url.host.elim [] Url.Host.write).any isRefusedInHost)

end HttpRequest

/-- **What became of a request.** -/
inductive HttpOutcome where
  | reply (status : Nat) (body : String)
  /-- The connection was refused, or closed before an answer. -/
  | unanswered
  deriving DecidableEq, Repr, Inhabited

end LeaseKeeper

/-
  URLs.

  A `Url` holds the parts of a URL in their written, percent-encoded form, so writing it is joining
  them (`Url.render`).  Its path is a list of segments, each with a slash before it, or a plain text
  for URLs such as `mailto:` that have no hierarchy (`Path.rootless`).
-/
import LeaseKeeper.Url.Host
import LeaseKeeper.Url.Scheme

namespace LeaseKeeper

namespace Url

/-- **A path.** -/
inductive Path where
  | rootless (text : String)
  | segments (list : List String)
  deriving DecidableEq, Repr, Inhabited

/-- The written form of a path. -/
def Path.write : Path → List Char
  | rootless text => text.toList
  | segments list => list.flatMap fun s => '/' :: s.toList

/-- A path that says nothing: none at all, or the root alone. -/
def Path.isTrivial (p : Path) : Bool := p.write == [] || p.write == ['/']

end Url

/-- **A URL in its parts**, all percent-encoded.  Without an authority `host` is `none`; an
    authority without a host has the empty name. -/
structure Url where
  scheme : String
  username : String := ""
  password : String := ""
  host : Option Url.Host
  port : Option UInt16 := none
  path : Url.Path
  query : Option String := none
  fragment : Option String := none
  deriving DecidableEq, Repr, Inhabited

namespace Url

/-- The kind of the URL's scheme. -/
def kind (u : Url) : SchemeKind := .ofScheme u.scheme

/-- Whether there is a host, and not only a place for one. -/
def hasHost (u : Url) : Bool :=
  match u.host with
  | none => false
  | some h => h != .absent

/-- Whether the path has segments, so that more can be added. -/
def isHierarchical (u : Url) : Bool := u.path matches .segments _

/-- User name and password, with their marks. -/
def writeUserInfo (u : Url) : List Char :=
  if u.username = "" ∧ u.password = "" then []
  else u.username.toList ++ (if u.password = "" then [] else ':' :: u.password.toList) ++ ['@']

/-- The authority, with its two slashes. -/
def writeAuthority (u : Url) : List Char :=
  match u.host with
  | none => []
  | some h =>
    ['/', '/'] ++ u.writeUserInfo ++ h.write ++
      (match u.port with
      | none => []
      | some p => ':' :: Nat.toDigits 10 p.toNat)

/-- The path.  Without an authority, two slashes at its front would be read as one, so a point is put
    between. -/
def writePath (u : Url) : List Char :=
  let p := u.path.write
  if u.host.isNone && ['/', '/'].isPrefixOf p then '/' :: '.' :: p else p

/-- A part with its mark in front, if it is there. -/
def writeMarked (mark : Char) : Option String → List Char
  | none => []
  | some s => mark :: s.toList

/-- **The characters of a URL.** -/
def write (u : Url) : List Char :=
  u.scheme.toList ++ ':' :: (u.writeAuthority ++ u.writePath ++ writeMarked '?' u.query ++
    writeMarked '#' u.fragment)

/-- **The text of a URL.** -/
def render (u : Url) : String := String.ofList u.write

end Url

end LeaseKeeper

/-
  Schemes.

  A few schemes are special: their URLs always have a host and a path, treat a backslash as a
  slash, and have a default port that is never written.  `file` is special without having a port.
-/

namespace LeaseKeeper.Url

/-- **What kind of URL a scheme makes.** -/
inductive SchemeKind where
  | file
  | special
  | general
  deriving DecidableEq, Repr

namespace SchemeKind

/-- The kind of a scheme in lower case. -/
def ofScheme (scheme : String) : SchemeKind :=
  if scheme = "file" then file
  else if scheme ∈ ["http", "https", "ws", "wss", "ftp"] then special
  else general

/-- Whether a backslash is a slash. -/
def isSpecial : SchemeKind → Bool
  | general => false
  | _ => true

/-- Whether a character separates path segments. -/
def isSlash (k : SchemeKind) (c : Char) : Bool := c == '/' || (k.isSpecial && c == '\\')

end SchemeKind

/-- The port that a scheme uses when none is written. -/
def defaultPort? (scheme : String) : Option UInt16 :=
  if scheme = "http" ∨ scheme = "ws" then some 80
  else if scheme = "https" ∨ scheme = "wss" then some 443
  else if scheme = "ftp" then some 21
  else none

end LeaseKeeper.Url

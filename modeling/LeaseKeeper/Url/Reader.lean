/-
  Reading URLs.

  A text is read part by part, each up to the first character that ends it: the scheme up to a
  colon, the authority up to a slash, and so on.  Blank space and control characters around the
  text and tabs and line breaks anywhere in it are ignored.  There is no base, so the text has to
  name its scheme.
-/
import LeaseKeeper.Url.Segments

namespace LeaseKeeper.Url

/-- Blank space and control characters. -/
def isTrimmed (c : Char) : Bool := c.toNat ≤ 0x20

/-- Tabs and line breaks. -/
def isSkipped (c : Char) : Bool := c == '\t' || c == '\n' || c == '\r'

/-- The characters of a text that count. -/
def significant (text : String) : List Char :=
  (((text.toList.dropWhile isTrimmed).reverse.dropWhile isTrimmed).reverse).filter
    fun c => !isSkipped c

/-- A character of a scheme after its first. -/
def isSchemeChar (c : Char) : Bool := c.isAlphanum || c == '+' || c == '-' || c == '.'

/-- The scheme of a text, in lower case, and what follows its colon. -/
def takeScheme? (cs : List Char) : Option (String × List Char) :=
  match cs with
  | c :: _ =>
    if c.isAlpha then
      match cs.dropWhile isSchemeChar with
      | ':' :: rest => some (String.ofList ((cs.takeWhile isSchemeChar).map Char.toLower), rest)
      | _ => none
    else none
  | [] => none

/-- The start of the query or fragment. -/
def isTailMark (c : Char) : Bool := c == '?' || c == '#'

/-- The end of an authority. -/
def endsAuthority (kind : SchemeKind) (c : Char) : Bool := kind.isSlash c || isTailMark c

/-! ## Query and fragment -/

/-- **Query and fragment** of a text that begins with the mark of either, or is empty. -/
def readTail (kind : SchemeKind) (cs : List Char) : Option String × Option String :=
  let fragmentOf : List Char → Option String := fun cs =>
    match cs with
    | '#' :: rest => some (String.ofList (percentEncode inFragment rest))
    | _ => none
  match cs with
  | '?' :: rest =>
    let set := if kind.isSpecial then inSpecialQuery else inQuery
    (some (String.ofList (percentEncode set (rest.takeWhile (· != '#')))),
      fragmentOf (rest.dropWhile (· != '#')))
  | _ => (none, fragmentOf cs)

/-- Add query and fragment to a URL. -/
def withTail (u : Url) (cs : List Char) : Url :=
  let (query, fragment) := readTail u.kind cs
  { u with query, fragment }

/-! ## Authority -/

/-- User name and password of the text before an at sign. -/
def readUserInfo (cs : List Char) : String × String :=
  let encode := fun cs => String.ofList (percentEncode inUserInfo cs)
  (encode (cs.takeWhile (· != ':')), encode (cs.dropWhile (· != ':')).tail)

/-- The text of the user information, if there is any, and what follows it.  An at sign with nothing
    before it is passed over. -/
def takeUserInfo (kind : SchemeKind) (cs : List Char) :
    Except UrlError (List Char × List Char) :=
  let authority := cs.takeWhile fun c => !endsAuthority kind c
  let rest := cs.dropWhile fun c => !endsAuthority kind c
  if authority.contains '@' then
    let host := (authority.reverse.takeWhile (· != '@')).reverse
    let info := authority.take (authority.length - host.length - 1)
    if info.isEmpty ∧ host.isEmpty ∧ !rest.isEmpty then .error .emptyHost
    else .ok (info, host ++ rest)
  else .ok ([], cs)

/-- Whether a character ends a host.  A colon inside brackets does not. -/
def takeHost (kind : SchemeKind) (inBrackets : Bool) : List Char → List Char × List Char
  | [] => ([], [])
  | c :: cs =>
    if endsAuthority kind c || (c == ':' && !inBrackets) then ([], c :: cs)
    else
      let inside := if c == '[' then true else if c == ']' then false else inBrackets
      let (host, rest) := takeHost kind inside cs
      (c :: host, rest)

/-- **A port** and what follows it; no digits are no port. -/
def takePort (cs : List Char) : Except UrlError (Option UInt16 × List Char) :=
  let digits := cs.takeWhile Char.isDigit
  let rest := cs.dropWhile Char.isDigit
  let value := digits.foldl (fun n c => n * 10 + (c.toNat - '0'.toNat)) 0
  let ends := match rest with
    | [] => true
    | c :: _ => c == '/' || c == '\\' || isTailMark c
  if 65535 < value || !ends then .error .port
  else .ok (if digits.isEmpty then none else some (UInt16.ofNat value), rest)

/-- The path of a URL with an authority, and what follows it. -/
def takePath (kind : SchemeKind) (cs : List Char) : Descent × List Char :=
  let text := cs.takeWhile fun c => !isTailMark c
  let rest := cs.dropWhile fun c => !isTailMark c
  match text with
  | [] => (if kind.isSpecial then descend kind [] else ⟨[], false⟩, rest)
  | c :: cs' => (descend kind (if kind.isSlash c then cs' else text), rest)

/-- **The host** that a text names; that of a special URL is not empty. -/
def readHost (kind : SchemeKind) (cs : List Char) : Except UrlError Host :=
  if kind.isSpecial then
    if cs.isEmpty then .error .emptyHost else Host.parse cs
  else Host.parseGeneral cs

/-- The port after a host, and what follows it.  Where there is no host there is no port either. -/
def readPort (host : Host) (cs : List Char) : Except UrlError (Option UInt16 × List Char) :=
  match cs with
  | ':' :: rest => if host = .absent then .error .emptyHost else takePort rest
  | _ => .ok (none, cs)

/-- The URL with an authority, and with the path and the tail that a text spells. -/
def withAuthority (scheme username password : String) (host : Host) (port : Option UInt16)
    (cs : List Char) : Url :=
  let (d, tail) := takePath (.ofScheme scheme) cs
  withTail {
    scheme, username, password
    host := some host
    port := if port = defaultPort? scheme then none else port
    path := .segments d.segments } tail

/-- **A URL from its authority on**; the two slashes are already passed. -/
def readAuthority (scheme : String) (cs : List Char) : Except UrlError Url := do
  let kind := SchemeKind.ofScheme scheme
  let (info, cs) ← takeUserInfo kind cs
  let (hostText, cs) := takeHost kind false cs
  let host ← readHost kind hostText
  let (port, cs) ← readPort host cs
  let (username, password) := readUserInfo info
  if host = .absent ∧ (username ≠ "" ∨ password ≠ "") then .error .emptyHost
  else .ok (withAuthority scheme username password host port cs)

/-! ## Files -/

/-- A `file` URL with the given host and path. -/
def fileUrl (host : Host) (path tail : List Char) : Url :=
  let d := descend .file path
  withTail {
    scheme := "file"
    host := some (if d.dropsHost then .absent else host)
    path := .segments d.segments } tail

/-- **A `file` URL**, its scheme already passed.  Two slashes announce a host; a drive in its place
    belongs to the path, and the local host is none at all. -/
def readFile (cs : List Char) : Except UrlError Url := do
  let isSlash := SchemeKind.isSlash .file
  let body := cs.takeWhile fun c => !isTailMark c
  let tail := cs.dropWhile fun c => !isTailMark c
  match body with
  | a :: b :: rest =>
    if isSlash a && isSlash b then
      let hostText := rest.takeWhile fun c => !isSlash c
      let path := rest.dropWhile fun c => !isSlash c
      if isDrive hostText then return fileUrl .absent rest tail
      if hostText.isEmpty then return fileUrl .absent path tail
      let host ← Host.parse hostText
      if host = .name "localhost" then return fileUrl .absent path tail
      return fileUrl host path.tail tail
    else if isSlash a then return fileUrl .absent (b :: rest) tail
    else return fileUrl .absent body tail
  | [a] => return fileUrl .absent (if isSlash a then [] else [a]) tail
  | [] => return fileUrl .absent [] tail

/-! ## Other schemes -/

/-- **A URL of a general scheme**, the scheme already passed.  Two slashes announce an authority, one
    a path; anything else has no hierarchy. -/
def readGeneral (scheme : String) (cs : List Char) : Except UrlError Url :=
  match cs with
  | '/' :: '/' :: rest => readAuthority scheme rest
  | _ =>
    let body := cs.takeWhile fun c => !isTailMark c
    let tail := cs.dropWhile fun c => !isTailMark c
    let path : Path := match body with
      | '/' :: rest => .segments (descend .general rest).segments
      | _ => .rootless (String.ofList (percentEncode inControls body))
    .ok (withTail { scheme, host := none, path } tail)

/-- **Read a URL.** -/
def parse (text : String) : Except UrlError Url :=
  match takeScheme? (significant text) with
  | none => .error .noBase
  | some (scheme, cs) =>
    match SchemeKind.ofScheme scheme with
    | .file => readFile cs
    | .special => readAuthority scheme (cs.dropWhile (SchemeKind.isSlash .special))
    | .general => readGeneral scheme cs

end LeaseKeeper.Url

/-
  HTTP messages on the wire.

  A request is written with a blank line after its headers, and asks for the connection to be closed
  after the answer, so that the answer ends where the bytes end.  The body of an answer may come in
  chunks, each with its length in front.
-/
import LeaseKeeper.Http.Request
import LeaseKeeper.Json.Writer
import LeaseKeeper.Text.Ascii
import LeaseKeeper.Text.Blank
import LeaseKeeper.Text.Decimal

namespace LeaseKeeper

/-! ## Writing -/

namespace HttpRequest

/-- The host and port that are asked for. -/
def authority (r : HttpRequest) : String :=
  String.ofList ({ r.wireUrl with username := "", password := "" } : Url).writeAuthority.tail.tail

/-- The text of the body. -/
def bodyText (r : HttpRequest) : String := (r.body.map Json.render).getD ""

/-- **The header lines.** -/
def headers (r : HttpRequest) : List (String × String) :=
  [("host", r.authority), ("accept", accept)] ++
  (r.authorization?.map ("authorization", ·)).toList ++
  (r.contentType?.map ("content-type", ·)).toList ++
  [("content-length", toString r.bodyText.utf8ByteSize), ("connection", "close")]

/-- **The text of a request.** -/
def message (r : HttpRequest) : String :=
  r.method.label ++ " " ++ r.target ++ " HTTP/1.1\r\n" ++
  String.join (r.headers.map fun (name, value) => name ++ ": " ++ value ++ "\r\n") ++
  "\r\n" ++ r.bodyText

end HttpRequest

/-! ## Reading -/

namespace HttpOutcome

/-- The lines up to the first empty one, and the bytes after it. -/
def splitHead (line : List UInt8) (lines : List (List UInt8)) :
    List UInt8 → Option (List (List UInt8) × List UInt8)
  | [] => none
  | 13 :: 10 :: rest =>
    if line.isEmpty then some (lines, rest) else splitHead [] (lines ++ [line]) rest
  | b :: rest => splitHead (line ++ [b]) lines rest

/-- The characters of bytes, one for each. -/
def charsOf (bytes : List UInt8) : List Char := bytes.map fun b => Char.ofNat b.toNat

/-- A header line, its name without regard to case. -/
def headerOf (line : List UInt8) : List Char × List Char :=
  let cs := charsOf line
  ((cs.takeWhile (· ≠ ':')).map Char.toLower, Text.trim ((cs.dropWhile (· ≠ ':')).drop 1))

/-- The status in the first line. -/
def statusOf? (line : List UInt8) : Option Nat :=
  Text.decimalBelow? 1000 ((((charsOf line).dropWhile (· ≠ ' ')).drop 1).takeWhile (· ≠ ' '))

/-- The value of hexadecimal digits. -/
def hexLength? (cs : List Char) : Option Nat :=
  if cs.isEmpty then none
  else cs.foldl (fun n c => n.bind fun n => (Url.hexValue? c).map fun d => n * 16 + d) (some 0)

/-- The bytes in chunks; `fuel` is more than the number of chunks. -/
def joinChunks : Nat → List UInt8 → Option (List UInt8)
  | 0, _ => none
  | fuel + 1, bytes => do
    let line := bytes.takeWhile (· ≠ 13)
    let length ← hexLength? ((charsOf line).takeWhile (· ≠ ';'))
    let rest := bytes.drop (line.length + 2)
    if length = 0 then return []
    if rest.length < length then none
    return rest.take length ++ (← joinChunks fuel (rest.drop (length + 2)))

/-- The bytes of the body. -/
def bodyOf? (headers : List (List Char × List Char)) (bytes : List UInt8) : Option (List UInt8) :=
  if headers.lookup "transfer-encoding".toList = some "chunked".toList then
    joinChunks (bytes.length + 1) bytes
  else
    match headers.lookup "content-length".toList with
    | none => some bytes
    | some text => do
      let length ← Text.decimalBelow? 18446744073709551616 text
      if bytes.length < length then none else some (bytes.take length)

/-- An answer, if the bytes are one.  Its status counts even if the body is cut off or is no text;
    such a body says nothing. -/
def reply? (bytes : List UInt8) : Option HttpOutcome := do
  let (lines, rest) ← splitHead [] [] bytes
  let status ← lines.head?.bind statusOf?
  let body := (bodyOf? (lines.tail.map headerOf) rest).bind fun body =>
    String.fromUTF8? ⟨body.toArray⟩
  return .reply status (body.getD "")

/-- **What became of a request** to which these bytes came back. -/
def ofBytes (bytes : List UInt8) : HttpOutcome := (reply? bytes).getD .unanswered

end HttpOutcome

end LeaseKeeper

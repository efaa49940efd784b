/-
  Hosts.

  The host of a special URL is a domain name in its ASCII form or a numeric address.  Any other URL
  takes its host as it is written, percent-encoded where necessary; it may be empty.
-/
import LeaseKeeper.DomainName.ToAscii
import LeaseKeeper.Url.Address

namespace LeaseKeeper.Url

/-- **A host.** -/
inductive Host where
  | name (text : String)
  | ipv4 (address : UInt32)
  | ipv6 (pieces : List UInt16)
  deriving DecidableEq, Repr, Inhabited

namespace Host

/-- The host that is not there. -/
def absent : Host := .name ""

/-- The written form of a host. -/
def write : Host → List Char
  | name text => text.toList
  | ipv4 a => writeIpv4 a
  | ipv6 pieces => '[' :: (writeIpv6 pieces ++ [']'])

/-- An address between brackets. -/
def bracketed? (cs : List Char) : Except UrlError Host :=
  match cs.getLast? with
  | some ']' =>
    match parseIpv6? cs.tail.dropLast with
    | some pieces => .ok (.ipv6 pieces)
    | none => .error .ipv6
  | _ => .error .ipv6

/-- **The host of a special URL.** -/
def parse (cs : List Char) : Except UrlError Host :=
  if cs.head? = some '[' then bracketed? cs
  else
    match (utf8Decode? (percentDecode cs)).bind DomainName.toAscii? with
    | none => .error .domainName
    | some domain =>
      if domain.isEmpty then .error .emptyHost
      else if endsInNumber domain then
        match parseIpv4? domain with
        | some a => .ok (.ipv4 a)
        | none => .error .ipv4
      else .ok (.name (String.ofList domain))

/-- A character that may not occur in the host of a general URL. -/
def isRefused (c : Char) : Bool := "\x00\t\n\r #/:<>?@[\\]^|".toList.contains c

/-- **The host of a general URL.** -/
def parseGeneral (cs : List Char) : Except UrlError Host :=
  if cs.head? = some '[' then bracketed? cs
  else if cs.any isRefused then .error .hostCharacter
  else .ok (.name (String.ofList (percentEncode inControls cs)))

end Host

end LeaseKeeper.Url

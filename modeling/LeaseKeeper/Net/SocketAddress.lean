/-
  Socket addresses.

  An address to listen on: an IPv4 address, or an IPv6 address in brackets with perhaps a scope,
  then a colon and a port.  Nothing may be left out and nothing may stand around it; numbers of an
  IPv4 address have no leading zeros.
-/

namespace LeaseKeeper

/-- **A socket address.** -/
inductive SocketAddress where
  | v4 (bytes : List Nat) (port : Nat)
  | v6 (pieces : List Nat) (scope port : Nat)
  deriving DecidableEq, Repr, Inhabited

namespace SocketAddress

/-- The value of a digit in a radix. -/
def digit? (radix : Nat) (c : Char) : Option Nat :=
  let v? :=
    if c.isDigit then some (c.toNat - '0'.toNat)
    else if 'a' ≤ c ∧ c ≤ 'f' then some (c.toNat - 'a'.toNat + 10)
    else if 'A' ≤ c ∧ c ≤ 'F' then some (c.toNat - 'A'.toNat + 10)
    else none
  v?.filter fun v => v < radix

/-- The digits at the front of a text, and the rest. -/
def takeDigits (radix : Nat) (cs : List Char) : List Char × List Char :=
  cs.span fun c => (digit? radix c).isSome

/-- The number that digits spell. -/
def valueOf (radix : Nat) (digits : List Char) : Nat :=
  digits.foldl (fun n c => n * radix + (digit? radix c).getD 0) 0

/-- **A number below `bound`** at the front of a text, with at most `maxDigits` digits. -/
def takeNumber? (radix bound : Nat) (maxDigits : Option Nat) (leadingZeros : Bool)
    (cs : List Char) : Option (Nat × List Char) :=
  let (digits, rest) := takeDigits radix cs
  if digits.isEmpty then none
  else if maxDigits.any (· < digits.length) then none
  else if !leadingZeros && digits.head? == some '0' && 1 < digits.length then none
  else if bound ≤ valueOf radix digits then none
  else some (valueOf radix digits, rest)

/-- A character at the front of a text. -/
def skip? (c : Char) : List Char → Option (List Char)
  | d :: cs => if c = d then some cs else none
  | [] => none

/-- A byte of an IPv4 address. -/
def takeByte? (cs : List Char) : Option (Nat × List Char) := takeNumber? 10 256 (some 3) false cs

/-- An IPv4 address at the front of a text. -/
def takeIpv4? (cs : List Char) : Option (List Nat × List Char) := do
  let (a, cs) ← takeByte? cs
  let (b, cs) ← (skip? '.' cs).bind takeByte?
  let (c, cs) ← (skip? '.' cs).bind takeByte?
  let (d, cs) ← (skip? '.' cs).bind takeByte?
  return ([a, b, c, d], cs)

/-- Up to `room` pieces of an IPv6 address with colons between them; where two are left, an IPv4
    address may take their place and ends the list.  The result also says whether it did. -/
def takePieces (isFirst : Bool) : (room : Nat) → List Char → List Nat × Bool × List Char
  | 0, cs => ([], false, cs)
  | room + 1, cs =>
    let start := if isFirst then some cs else skip? ':' cs
    match if room = 0 then none else start.bind takeIpv4? with
    | some ([a, b, c, d], rest) => ([a * 256 + b, c * 256 + d], true, rest)
    | _ =>
      match start.bind (takeNumber? 16 65536 (some 4) true) with
      | none => ([], false, cs)
      | some (p, rest) =>
        let (ps, dotted, rest) := takePieces false room rest
        (p :: ps, dotted, rest)

/-- An IPv6 address at the front of a text. -/
def takeIpv6? (cs : List Char) : Option (List Nat × List Char) := do
  let (head, dotted, cs) := takePieces true 8 cs
  if head.length = 8 then return (head, cs)
  if dotted then none
  let cs ← skip? ':' cs
  let cs ← skip? ':' cs
  let (tail, _, cs) := takePieces true (7 - head.length) cs
  return (head ++ List.replicate (8 - head.length - tail.length) 0 ++ tail, cs)

/-- A port after its colon, at the end of a text. -/
def takePort? (cs : List Char) : Option Nat := do
  let (port, rest) ← (skip? ':' cs).bind (takeNumber? 10 65536 none true)
  if rest.isEmpty then some port else none

/-- An address with an IPv4 address. -/
def parseV4? (cs : List Char) : Option SocketAddress := do
  let (bytes, rest) ← takeIpv4? cs
  return .v4 bytes (← takePort? rest)

/-- An address with an IPv6 address. -/
def parseV6? (cs : List Char) : Option SocketAddress := do
  let cs ← skip? '[' cs
  let (pieces, cs) ← takeIpv6? cs
  let (scope, cs) := ((skip? '%' cs).bind (takeNumber? 10 4294967296 none true)).getD (0, cs)
  let cs ← skip? ']' cs
  return .v6 pieces scope (← takePort? cs)

/-- **Read a socket address.** -/
def parse? (text : String) : Option SocketAddress :=
  (parseV4? text.toList).orElse fun _ => parseV6? text.toList

end SocketAddress

end LeaseKeeper

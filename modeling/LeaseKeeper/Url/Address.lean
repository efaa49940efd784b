/-
  Numeric addresses in URLs.

  An IPv4 address may be written with one to four numbers, each in decimal, octal or hexadecimal;
  the last number fills the bytes that are left.  An IPv6 address has eight pieces; one run of zero
  pieces may be left out, and the last two pieces may be written as an IPv4 address.

  Both are written back in one form: four decimal numbers, and eight hexadecimal pieces with the
  longest run of zeros left out.
-/
import LeaseKeeper.Url.Error
import LeaseKeeper.Url.Percent

namespace LeaseKeeper.Url

/-! ## IPv4 -/

/-- **A number of an IPv4 address.**  `none` if the text is not a number. -/
def ipv4Number? (cs : List Char) : Option Nat :=
  let radixAndDigits : Nat × List Char := match cs with
    | '0' :: 'x' :: ds => (16, ds)
    | '0' :: 'X' :: ds => (16, ds)
    | '0' :: d :: ds => (8, d :: ds)
    | ds => (10, ds)
  let (radix, digits) := radixAndDigits
  if cs.isEmpty then none
  else digits.foldl (fun n c =>
    n.bind fun n => (hexValue? c).bind fun d => if d < radix then some (n * radix + d) else none)
    (some 0)

/-- Whether the last part of a host is a number, so that the host must be an IPv4 address. -/
def endsInNumber (host : List Char) : Bool :=
  let last := match (host.splitOn '.').reverse with
    | [] :: part :: _ => part
    | [] :: [] => []
    | part :: _ => part
    | [] => []
  !last.isEmpty && (last.all Char.isDigit || (ipv4Number? last).isSome)

/-- The address of its numbers, first byte first; `used` bytes are already filled. -/
def ipv4OfNumbers? (used : Nat) : List Nat → Option Nat
  | [] => none
  | [n] => if n < Nat.pow 256 (4 - used) then some n else none
  | n :: ns => do
    if 255 < n then none
    let rest ← ipv4OfNumbers? (used + 1) ns
    return n * Nat.pow 256 (3 - used) + rest

/-- **Read an IPv4 address.**  One point at the end is allowed. -/
def parseIpv4? (host : List Char) : Option UInt32 := do
  let parts := host.splitOn '.'
  let parts := if parts.getLast? = some [] then parts.dropLast else parts
  if 4 < parts.length then none
  let numbers ← parts.mapM ipv4Number?
  let value ← ipv4OfNumbers? 0 numbers
  return UInt32.ofNat value

/-- **Write an IPv4 address.** -/
def writeIpv4 (a : UInt32) : List Char :=
  let n := a.toNat
  ['.'].intercalate ([n / 16777216, n / 65536 % 256, n / 256 % 256, n % 256].map
    (Nat.toDigits 10))

/-! ## IPv6 -/

/-- Up to four hexadecimal digits and the number they spell. -/
def takeHex (budget value : Nat) : List Char → Nat × Nat × List Char
  | [] => (value, budget, [])
  | c :: cs =>
    match budget, hexValue? c with
    | b + 1, some d => takeHex b (value * 16 + d) cs
    | b, _ => (value, b, c :: cs)

/-- A decimal number below 256 without leading zeros, at the front of a text. -/
def takeByte? (cs : List Char) : Option (Nat × List Char) :=
  let digits := cs.takeWhile Char.isDigit
  let value := digits.foldl (fun n c => n * 10 + (c.toNat - '0'.toNat)) 0
  if digits.isEmpty ∨ (digits.head? = some '0' ∧ 1 < digits.length) ∨ 255 < value then none
  else some (value, cs.dropWhile Char.isDigit)

/-- The four numbers of an IPv4 address at the end of an IPv6 address. -/
def trailingIpv4? (cs : List Char) : Option (Nat × Nat) := do
  let (a, cs) ← takeByte? cs
  let .cons '.' cs := cs | none
  let (b, cs) ← takeByte? cs
  let .cons '.' cs := cs | none
  let (c, cs) ← takeByte? cs
  let .cons '.' cs := cs | none
  let (d, cs) ← takeByte? cs
  if cs.isEmpty then some (a * 256 + b, c * 256 + d) else none

/-- **The pieces of an IPv6 address** from somewhere after its start.  `pieces` are those already
    read, last first, and `gap` says after how many of them a run was left out.  `room` bounds the
    pieces still to come. -/
def ipv6Pieces? (pieces : List Nat) (gap : Option Nat) :
    (room : Nat) → List Char → Option (List Nat × Option Nat)
  | _, [] => some (pieces, gap)
  | 0, _ :: _ => none
  | room + 1, ':' :: cs =>
    if gap.isSome then none else ipv6Pieces? pieces (some pieces.length) room cs
  | room + 1, cs =>
    match takeHex 4 0 cs with
    | (v, _, []) => if 8 ≤ pieces.length then none else some (v :: pieces, gap)
    | (v, budget, ':' :: rest) =>
      if 8 ≤ pieces.length ∨ rest.isEmpty ∨ (budget = 4) then none
      else ipv6Pieces? (v :: pieces) gap room rest
    | (_, budget, '.' :: _) =>
      if budget = 4 ∨ 6 < pieces.length then none
      else (trailingIpv4? cs).map fun (x, y) => (y :: x :: pieces, gap)
    | _ => none

/-- **Read an IPv6 address**, without its brackets. -/
def parseIpv6? (cs : List Char) : Option (List UInt16) := do
  let start ← match cs with
    | ':' :: ':' :: rest => ipv6Pieces? [] (some 0) 9 rest
    | ':' :: _ => none
    | [] => none
    | _ => ipv6Pieces? [] none 9 cs
  let (pieces, gap) := start
  let pieces := pieces.reverse
  match gap with
  | some g =>
    if 8 ≤ pieces.length then none
    else some ((pieces.take g ++ List.replicate (8 - pieces.length) 0 ++ pieces.drop g).map
      UInt16.ofNat)
  | none => if pieces.length = 8 then some (pieces.map UInt16.ofNat) else none

/-- The length of the run of zeros at the front. -/
def zeroRun (pieces : List UInt16) : Nat := (pieces.takeWhile (· == 0)).length

/-- The longest run of zeros, as start and length; of several the first. -/
def longestZeroRun (start : Nat) : List UInt16 → Nat × Nat
  | [] => (start, 0)
  | p :: ps =>
    let here := zeroRun (p :: ps)
    let later := longestZeroRun (start + 1) ps
    if later.2 ≤ here then (start, here) else later

/-- Pieces with colons between them. -/
def writePieces (pieces : List UInt16) : List Char :=
  [':'].intercalate (pieces.map fun p => Nat.toDigits 16 p.toNat)

/-- **Write an IPv6 address**, without its brackets. -/
def writeIpv6 (pieces : List UInt16) : List Char :=
  let (start, length) := longestZeroRun 0 pieces
  if length < 2 then writePieces pieces
  else writePieces (pieces.take start) ++ [':', ':'] ++ writePieces (pieces.drop (start + length))

end LeaseKeeper.Url

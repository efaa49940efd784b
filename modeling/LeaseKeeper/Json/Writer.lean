/-
  Writing JSON text.

  The compact form: no blank space, members in the order of the value, and in strings only what
  must be escaped is escaped.  Reading a written value gives the value back.
-/
import LeaseKeeper.Json.Basic

namespace LeaseKeeper.Json

/-- A hexadecimal digit, lower case. -/
def hexChar (n : Nat) : Char :=
  if n < 10 then Char.ofNat ('0'.toNat + n) else Char.ofNat ('a'.toNat + (n - 10))

/-- **How one character of a string is written.**  Quotes, backslashes and control characters are
    escaped, all else stands for itself. -/
def escapeChar (c : Char) : List Char :=
  if c = '"' then ['\\', '"']
  else if c = '\\' then ['\\', '\\']
  else if c = '\x08' then ['\\', 'b']
  else if c = '\x0c' then ['\\', 'f']
  else if c = '\n' then ['\\', 'n']
  else if c = '\r' then ['\\', 'r']
  else if c = '\t' then ['\\', 't']
  else if c.toNat < 0x20 then ['\\', 'u', '0', '0', hexChar (c.toNat / 16), hexChar (c.toNat % 16)]
  else [c]

/-- A string between quotes. -/
def writeString (s : String) : List Char :=
  '"' :: (s.toList.flatMap escapeChar ++ ['"'])

/-- The decimal digits of a number, most significant first. -/
def writeNat (n : Nat) : List Char := Nat.toDigits 10 n

/-- A number, in the form in which it was written up to the choice of exponent. -/
def writeNumber : Number → List Char
  | .natural n => writeNat n
  | .negated n => '-' :: writeNat n
  | .scientific neg c e =>
    (if neg then ['-'] else []) ++ writeNat c ++ 'e' ::
      (if e < 0 then '-' :: writeNat e.natAbs else writeNat e.natAbs)

mutual

/-- The characters of a value.  A literal without meaning has no text of its own and is written as
    `null`. -/
def write : Json → List Char
  | null => ['n', 'u', 'l', 'l']
  | bool true => ['t', 'r', 'u', 'e']
  | bool false => ['f', 'a', 'l', 's', 'e']
  | num n => writeNumber n
  | str s => writeString s
  | arr items => '[' :: (writeItems items ++ [']'])
  | obj members => '\x7b' :: (writeMembers members ++ ['\x7d'])
  | unreadable => ['n', 'u', 'l', 'l']

/-- Items with commas between them. -/
def writeItems : List Json → List Char
  | [] => []
  | [v] => write v
  | v :: vs => write v ++ ',' :: writeItems vs

/-- Members with commas between them. -/
def writeMembers : List (String × Json) → List Char
  | [] => []
  | [(k, v)] => writeString k ++ ':' :: write v
  | (k, v) :: ms => writeString k ++ ':' :: (write v ++ ',' :: writeMembers ms)

end

/-- **The text of a value.** -/
def render (v : Json) : String := String.ofList (write v)

end LeaseKeeper.Json

/-
  Strings, numbers and times in TOML.

  Each reader takes the characters of a value from the front of a text and returns the value and
  the rest; `none` says that no such value stands there.
-/
import LeaseKeeper.Json.Basic
import LeaseKeeper.Toml.Basic

namespace LeaseKeeper.Toml

/-- The rest of a text after `part`. -/
def skip? (part : List Char) (cs : List Char) : Option (List Char) :=
  if part.isPrefixOf cs then some (cs.drop part.length) else none

/-- Space and tab. -/
def isSpace (c : Char) : Bool := c == ' ' || c == '\t'

/-- The rest of a text after its spaces. -/
def skipSpace (cs : List Char) : List Char := cs.dropWhile isSpace

/-- The rest of a text after a line break. -/
def newline? : List Char → Option (List Char)
  | '\n' :: cs => some cs
  | '\r' :: '\n' :: cs => some cs
  | _ => none

/-- A character that may stand in a comment or string: no control character but the tab. -/
def isPlain (c : Char) : Bool := c == '\t' || (0x20 ≤ c.toNat && c.toNat != 0x7F)

/-! ## Strings -/

/-- The value of a hexadecimal digit. -/
def hexDigit? (c : Char) : Option Nat :=
  if c.isDigit then some (c.toNat - '0'.toNat)
  else if 'a' ≤ c ∧ c ≤ 'f' then some (c.toNat - 'a'.toNat + 10)
  else if 'A' ≤ c ∧ c ≤ 'F' then some (c.toNat - 'A'.toNat + 10)
  else none

/-- The character with the code point spelled by `n` digits. -/
def codePoint? (n : Nat) (cs : List Char) : Option (Char × List Char) := do
  let digits ← (cs.take n).mapM hexDigit?
  if digits.length < n then none
  let v := digits.foldl (fun v d => v * 16 + d) 0
  if h : v.isValidChar then some (Char.ofNatAux v h, cs.drop n) else none

/-- The character that an escape stands for; the backslash is already passed. -/
def escape? : List Char → Option (Char × List Char)
  | 'b' :: cs => some ('\x08', cs)
  | 't' :: cs => some ('\t', cs)
  | 'n' :: cs => some ('\n', cs)
  | 'f' :: cs => some ('\x0c', cs)
  | 'r' :: cs => some ('\r', cs)
  | '"' :: cs => some ('"', cs)
  | '\\' :: cs => some ('\\', cs)
  | 'u' :: cs => codePoint? 4 cs
  | 'U' :: cs => codePoint? 8 cs
  | _ => none

/-- The rest of a text after its spaces and line breaks. -/
def skipBlank : List Char → List Char
  | '\r' :: '\n' :: cs => skipBlank cs
  | c :: cs => if isSpace c || c == '\n' then skipBlank cs else c :: cs
  | [] => []

/-- The rest of a text after a line that ends in a backslash and the blank lines that follow; the
    backslash is already passed. -/
def continuation? (cs : List Char) : Option (List Char) :=
  (newline? (skipSpace cs)).map skipBlank

/-- The characters up to the closing quote.  `room` bounds their number. -/
def quoted? (read : List Char) : (room : Nat) → List Char → Option (String × List Char)
  | 0, _ => none
  | room + 1, cs =>
    match cs with
    | '"' :: rest => some (String.ofList read.reverse, rest)
    | '\\' :: rest => (escape? rest).bind fun (c, rest) => quoted? (c :: read) room rest
    | c :: rest => if isPlain c then quoted? (c :: read) room rest else none
    | [] => none

/-- The characters of a literal string up to its closing apostrophe. -/
def literal? (cs : List Char) : Option (String × List Char) :=
  match cs.dropWhile fun c => isPlain c && c != '\'' with
  | '\'' :: rest => some (String.ofList (cs.takeWhile fun c => isPlain c && c != '\''), rest)
  | _ => none

/-- A run of closing marks: how many of them belong to the text, and what follows the string.
    Fewer than three do not close it, and at most two may stand before the closing three. -/
def closing? (mark : Char) (cs : List Char) : Option (Nat × List Char) :=
  let n := (cs.takeWhile (· == mark)).length
  if n < 3 then none else
    let inner := min (n - 3) 2
    some (inner, cs.drop (inner + 3))

/-- The characters of a string of several lines up to its closing marks.  `escapes` says whether a
    backslash means anything. -/
def lines? (mark : Char) (escapes : Bool) (read : List Char) :
    (room : Nat) → List Char → Option (String × List Char)
  | 0, _ => none
  | room + 1, cs =>
    match closing? mark cs with
    | some (inner, rest) =>
      some (String.ofList (List.replicate inner mark ++ read).reverse, rest)
    | none =>
      match newline? cs with
      | some rest => lines? mark escapes ('\n' :: read) room rest
      | none =>
        match cs with
        | [] => none
        | c :: rest =>
          if escapes && c == '\\' then
            match continuation? rest with
            | some rest => lines? mark escapes read room rest
            | none => (escape? rest).bind fun (c, rest) =>
                lines? mark escapes (c :: read) room rest
          else if isPlain c then lines? mark escapes (c :: read) room rest
          else none

/-- A string of several lines; its opening marks are already passed.  A line break right after them
    does not count. -/
def linesFrom? (mark : Char) (escapes : Bool) (cs : List Char) : Option (String × List Char) :=
  lines? mark escapes [] (cs.length + 1) ((newline? cs).getD cs)

/-- A string on one line. -/
def singleLine? : List Char → Option (String × List Char)
  | '"' :: cs => quoted? [] (cs.length + 1) cs
  | '\'' :: cs => literal? cs
  | _ => none

/-- **A string** of any of the four kinds. -/
def string? (cs : List Char) : Option (String × List Char) :=
  match skip? ['"', '"', '"'] cs, skip? ['\'', '\'', '\''] cs with
  | some rest, _ => linesFrom? '"' true rest
  | _, some rest => linesFrom? '\'' false rest
  | none, none => singleLine? cs

/-! ## Numbers -/

/-- Digits with single underscores between them, at the front of a text. -/
def moreDigits (isDigit : Char → Bool) : List Char → List Char × List Char
  | '_' :: c :: cs =>
    if isDigit c then
      let (ds, rest) := moreDigits isDigit cs
      (c :: ds, rest)
    else ([], '_' :: c :: cs)
  | c :: cs =>
    if isDigit c then
      let (ds, rest) := moreDigits isDigit cs
      (c :: ds, rest)
    else ([], c :: cs)
  | [] => ([], [])

/-- One or more digits. -/
def digits? (isDigit : Char → Bool) (cs : List Char) : Option (List Char × List Char) :=
  match cs with
  | c :: _ => if isDigit c then some (moreDigits isDigit cs) else none
  | [] => none

/-- The number that digits spell. -/
def valueOf (radix : Nat) (ds : List Char) : Nat :=
  ds.foldl (fun n c => n * radix + (hexDigit? c).getD 0) 0

/-- A sign, if there is one: whether it is a minus, and the rest. -/
def sign : List Char → Bool × List Char
  | '+' :: cs => (false, cs)
  | '-' :: cs => (true, cs)
  | cs => (false, cs)

/-- Decimal digits without a leading zero. -/
def decimal? (cs : List Char) : Option (List Char × List Char) :=
  match cs with
  | '0' :: rest => some (['0'], rest)
  | _ => digits? Char.isDigit cs

/-- An integer that fits 64 bits. -/
def fit (n : Int) : Option Toml :=
  if -9223372036854775808 ≤ n ∧ n ≤ 9223372036854775807 then some (.integer n) else none

/-- An integer in another radix; its mark is already passed. -/
def radixInteger? (radix : Nat) (cs : List Char) : Option (Toml × List Char) := do
  let (ds, rest) ← digits? (fun c => (hexDigit? c).any (· < radix)) cs
  return (← fit (valueOf radix ds), rest)

/-- **An integer.** -/
def integer? (cs : List Char) : Option (Toml × List Char) :=
  match cs with
  | '0' :: 'x' :: rest => radixInteger? 16 rest
  | '0' :: 'o' :: rest => radixInteger? 8 rest
  | '0' :: 'b' :: rest => radixInteger? 2 rest
  | _ => do
    let (negative, body) := sign cs
    let (ds, rest) ← decimal? body
    let n : Int := valueOf 10 ds
    return (← fit (if negative then -n else n), rest)

/-- The exponent of a float. -/
def exponent? (cs : List Char) : Option (Int × List Char) :=
  match cs with
  | c :: rest =>
    if c = 'e' ∨ c = 'E' then do
      let (negative, body) := sign rest
      let (ds, rest) ← digits? Char.isDigit body
      let n : Int := valueOf 10 ds
      return (if negative then -n else n, rest)
    else none
  | [] => none

/-- The digits of a float after its point. -/
def fraction? (cs : List Char) : Option (List Char × List Char) :=
  match cs with
  | '.' :: rest => digits? Char.isDigit rest
  | _ => none

/-- Whether `digits * 10 ^ e` is beyond the range of doubles. -/
def isInfinite (ds : List Char) (e : Int) : Bool :=
  let c := valueOf 10 ds
  let magnitude : Int := (Nat.toDigits 10 c).length + e
  if c = 0 ∨ magnitude < 300 then false
  else if 320 < magnitude then true
  else if 0 ≤ e then Number.infinityBound ≤ c * Nat.pow 10 e.toNat
  else Number.infinityBound * Nat.pow 10 e.natAbs ≤ c

/-- The words for values that are not numbers. -/
def specialFloat? (cs : List Char) : Option (List Char) :=
  let body := (sign cs).2
  (skip? ['i', 'n', 'f'] body).orElse fun _ => skip? ['n', 'a', 'n'] body

/-- The characters of a text up to `rest`, its end. -/
def upTo (cs rest : List Char) : String := String.ofList (cs.take (cs.length - rest.length))

/-- **A float**: a point or an exponent is needed.  A positive one must be finite. -/
def float? (cs : List Char) : Option (Toml × List Char) :=
  match specialFloat? cs with
  | some rest => some (.float (upTo cs rest), rest)
  | none => do
    let (negative, body) := sign cs
    let (whole, rest) ← decimal? body
    let part := fraction? rest
    let (after, rest') := part.getD ([], rest)
    let power := exponent? rest'
    if part.isNone && power.isNone then none
    let (e, rest'') := power.getD (0, rest')
    if !negative && isInfinite (whole ++ after) (e - after.length) then none
    return (.float (upTo cs rest''), rest'')

/-! ## Times -/

/-- A number of exactly `n` digits between two bounds. -/
def fixed? (n low high : Nat) (cs : List Char) : Option (Nat × List Char) :=
  let ds := cs.take n
  let v := valueOf 10 ds
  if ds.length = n ∧ ds.all Char.isDigit ∧ low ≤ v ∧ v ≤ high then some (v, cs.drop n) else none

/-- The days of a month. -/
def daysIn (year month : Nat) : Nat :=
  if month = 2 then
    if year % 4 = 0 ∧ (year % 100 ≠ 0 ∨ year % 400 = 0) then 29 else 28
  else if month ∈ [4, 6, 9, 11] then 30 else 31

/-- The rest of a text after a date. -/
def date? (cs : List Char) : Option (List Char) := do
  let (year, cs) ← fixed? 4 0 9999 cs
  let (month, cs) ← (skip? ['-'] cs).bind (fixed? 2 1 12)
  let (_, cs) ← (skip? ['-'] cs).bind (fixed? 2 1 (daysIn year month))
  return cs

/-- The rest of a text after a time of day.  The last second of a day may be a leap second, and
    parts of a second may follow. -/
def time? (cs : List Char) : Option (List Char) := do
  let (_, cs) ← fixed? 2 0 23 cs
  let (_, cs) ← (skip? [':'] cs).bind (fixed? 2 0 59)
  let (_, cs) ← (skip? [':'] cs).bind (fixed? 2 0 60)
  match cs with
  | '.' :: d :: rest => return if d.isDigit then rest.dropWhile Char.isDigit else cs
  | _ => return cs

/-- The rest of a text after the distance to universal time, if there is one. -/
def skipOffset (cs : List Char) : List Char :=
  match cs with
  | c :: rest =>
    if c = 'Z' ∨ c = 'z' then rest
    else if c = '+' ∨ c = '-' then
      (do
        let (_, cs) ← fixed? 2 0 23 rest
        let (_, cs) ← (skip? [':'] cs).bind (fixed? 2 0 59)
        return cs : Option (List Char)).getD cs
    else cs
  | [] => []

/-- The rest of a text after the time that follows a date, if there is one. -/
def skipTimeOfDay (cs : List Char) : List Char :=
  match cs with
  | c :: rest =>
    if c = 'T' ∨ c = 't' ∨ c = ' ' then ((time? rest).map skipOffset).getD cs else cs
  | [] => []

/-- **A date, a time, or both.** -/
def dateTime? (cs : List Char) : Option (Toml × List Char) :=
  (((date? cs).map skipTimeOfDay).orElse fun _ => time? cs).map fun rest =>
    (.dateTime (upTo cs rest), rest)

/-! ## All scalars -/

/-- **Any value without parts.** -/
def scalar? (cs : List Char) : Option (Toml × List Char) :=
  match cs with
  | [] => none
  | c :: _ =>
    if c = '"' ∨ c = '\'' then (string? cs).map fun (s, rest) => (.string s, rest)
    else if c = 't' then (skip? "true".toList cs).map fun rest => (.boolean true, rest)
    else if c = 'f' then (skip? "false".toList cs).map fun rest => (.boolean false, rest)
    else (dateTime? cs).orElse fun _ => (float? cs).orElse fun _ => integer? cs

end LeaseKeeper.Toml

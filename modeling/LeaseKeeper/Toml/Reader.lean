/-
  Reading TOML.

  A text is a list of lines, each empty or a statement and perhaps a comment; values may go on over
  several lines.  Values nest at most 79 deep and keys have fewer than 80 parts, so that a text
  cannot exhaust whoever walks through the result.
-/
import LeaseKeeper.Toml.Scalar
import LeaseKeeper.Toml.Table

namespace LeaseKeeper.Toml

/-- How deep values nest, and how many parts a key has, at most. -/
def maxNesting : Nat := 79

/-- The rest of a text after a comment, if one begins it. -/
def skipComment (cs : List Char) : List Char :=
  match cs with
  | '#' :: rest => rest.dropWhile isPlain
  | _ => cs

/-- The rest of a text after the end of a line: spaces and perhaps a comment, then a line break or
    the end of the text. -/
def endOfLine? (cs : List Char) : Option (List Char) :=
  match skipComment (skipSpace cs) with
  | [] => some []
  | rest => newline? rest

/-- The rest of a text after everything that may stand between the items of an array: spaces, line
    breaks and comments. -/
def skipBetween : (room : Nat) → List Char → List Char
  | 0, cs => cs
  | room + 1, cs =>
    match skipBlank cs with
    | '#' :: rest => skipBetween room (skipComment ('#' :: rest))
    | rest => rest

/-! ## Keys -/

/-- A character of a key without quotes. -/
def isBare (c : Char) : Bool := c.isAlphanum || c == '-' || c == '_'

/-- One part of a key. -/
def simpleKey? (cs : List Char) : Option (String × List Char) :=
  match cs with
  | '"' :: _ => singleLine? cs
  | '\'' :: _ => singleLine? cs
  | c :: _ =>
    if isBare c then some (String.ofList (cs.takeWhile isBare), cs.dropWhile isBare) else none
  | [] => none

/-- The parts of a dotted key. -/
def keyParts? : (room : Nat) → List Char → Option (List String × List Char)
  | 0, _ => none
  | room + 1, cs => do
    let (part, rest) ← simpleKey? (skipSpace cs)
    match skipSpace rest with
    | '.' :: rest =>
      let (parts, rest) ← keyParts? room rest
      return (part :: parts, rest)
    | rest => return ([part], rest)

/-- **A key**: the tables on its way and its last part. -/
def key? (cs : List Char) : Option (List String × String × List Char) := do
  let (parts, rest) ← keyParts? maxNesting cs
  let last ← parts.getLast?
  return (parts.dropLast, last, rest)

/-! ## Values -/

/-- A reader of values. -/
abbrev ValueReader := List Char → Option (Toml × List Char)

/-- The items of an array up to its closing bracket.  `room` bounds their number. -/
def arrayItems? (value : ValueReader) : (room : Nat) → List Char → Option (List Toml × List Char)
  | 0, _ => none
  | room + 1, cs =>
    match skipBetween cs.length cs with
    | ']' :: rest => some ([], rest)
    | cs => do
      let (v, rest) ← value cs
      match skipBetween rest.length rest with
      | ',' :: rest =>
        let (vs, rest) ← arrayItems? value room rest
        return (v :: vs, rest)
      | ']' :: rest => return ([v], rest)
      | _ => none

/-- The assignments of an inline table up to its closing brace.  They stand on one line, and no comma
    follows the last. -/
def inlineEntries? (value : ValueReader) :
    (room : Nat) → List Char → Option (List (List String × String × Toml) × List Char)
  | 0, _ => none
  | room + 1, cs => do
    let (path, key, rest) ← key? cs
    let rest ← skip? ['='] rest
    let (v, rest) ← value (skipSpace rest)
    match skipSpace rest with
    | ',' :: rest =>
      let (es, rest) ← inlineEntries? value room rest
      return ((path, key, v) :: es, rest)
    | '\x7d' :: rest => return ([(path, key, v)], rest)
    | _ => none

/-- An inline table; its opening brace is already passed. -/
def inlineTable? (value : ValueReader) : ValueReader := fun cs =>
  match skipSpace cs with
  | '\x7d' :: rest => some (.table .inline [], rest)
  | cs => do
    let (entries, rest) ← inlineEntries? value cs.length cs
    return (← ofAssignments entries, rest)

/-- **A value** in which at most `room` arrays and inline tables stand one inside the other. -/
def value? : (room : Nat) → ValueReader
  | 0, cs =>
    match cs with
    | '[' :: _ => none
    | '\x7b' :: _ => none
    | _ => scalar? cs
  | room + 1, cs =>
    match cs with
    | '[' :: rest => do
      let (items, rest) ← arrayItems? (value? room) (rest.length + 1) rest
      return (.array items, rest)
    | '\x7b' :: rest => inlineTable? (value? room) rest
    | _ => scalar? cs

/-! ## Statements -/

/-- A header; its opening bracket or brackets are already passed. -/
def header? (close : List Char) (make : List String → String → Statement) (cs : List Char) :
    Option (Statement × List Char) := do
  let (path, key, rest) ← key? cs
  let rest ← skip? close rest
  return (make path key, ← endOfLine? rest)

/-- An assignment. -/
def assignment? (cs : List Char) : Option (Statement × List Char) := do
  let (path, key, rest) ← key? cs
  let rest ← skip? ['='] rest
  let (v, rest) ← value? maxNesting (skipSpace rest)
  return (.assignment path key v, ← endOfLine? rest)

/-- **One statement** with the end of its line. -/
def statement? (cs : List Char) : Option (Statement × List Char) :=
  match cs with
  | '[' :: '[' :: rest => header? [']', ']'] .element rest
  | '[' :: rest => header? [']'] .header rest
  | _ => assignment? cs

/-- All statements of a text.  `room` bounds the number of its lines. -/
def statements? : (room : Nat) → List Char → Option (List Statement)
  | 0, _ => none
  | room + 1, cs =>
    match skipSpace cs with
    | [] => some []
    | cs =>
      match cs.head? with
      | some '#' => (endOfLine? cs).bind (statements? room)
      | some '\n' => (endOfLine? cs).bind (statements? room)
      | some '\r' => (endOfLine? cs).bind (statements? room)
      | _ => do
        let (s, rest) ← statement? cs
        return s :: (← statements? room rest)

/-- A text without the mark of its byte order. -/
def dropByteOrderMark : List Char → List Char
  | '\ufeff' :: cs => cs
  | cs => cs

/-- **Read a TOML document**: its root table. -/
def parse? (text : String) : Option Toml :=
  let cs := dropByteOrderMark text.toList
  (statements? (cs.length + 1) cs).bind ofStatements

end LeaseKeeper.Toml

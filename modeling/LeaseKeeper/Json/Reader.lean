/-
  Reading JSON text.

  A text is read in one pass from left to right by two machines, both plain functions of a state
  and the next piece of input:

    * the **scanner** turns characters into tokens (`Scanner.step`, one character at a time);
    * the **builder** turns tokens into a value (`Builder.step`, one token at a time), with the
      containers that are still open on a stack.

  Neither needs a bound on its running time: reading is a fold over the text, so it is total by
  construction, and the nesting of a value costs stack entries, never recursion.
-/
import LeaseKeeper.Json.Basic

namespace LeaseKeeper.Json

/-! ## Tokens -/

/-- **A token.**  A string without meaning (half a surrogate pair) is `str none`. -/
inductive Token where
  | openArray | closeArray | openObject | closeObject | colon | comma
  | null
  | bool (value : Bool)
  | num (value : Number)
  | str (value : Option String)
  deriving DecidableEq, Repr

/-! ## Text between quotes

While a string is read its content is a list of code units, last first: characters written plainly
and the four-digit escapes, of which two may be needed for one character. -/

/-- Characters of a list of code units; `none` if a surrogate stands alone. -/
def decodeUnits : List Nat → Option (List Char)
  | [] => some []
  | u :: rest =>
    if 0xD800 ≤ u ∧ u < 0xDC00 then
      match rest with
      | v :: rest' =>
        if 0xDC00 ≤ v ∧ v < 0xE000 then
          (decodeUnits rest').map (Char.ofNat (0x10000 + (u - 0xD800) * 0x400 + (v - 0xDC00)) :: ·)
        else none
      | [] => none
    else if 0xDC00 ≤ u ∧ u < 0xE000 then none
    else (decodeUnits rest).map (Char.ofNat u :: ·)

/-- Value of a hexadecimal digit. -/
def hexDigit? (c : Char) : Option Nat :=
  if '0' ≤ c ∧ c ≤ '9' then some (c.toNat - '0'.toNat)
  else if 'a' ≤ c ∧ c ≤ 'f' then some (c.toNat - 'a'.toNat + 10)
  else if 'A' ≤ c ∧ c ≤ 'F' then some (c.toNat - 'A'.toNat + 10)
  else none

/-- Value of a decimal digit. -/
def digit? (c : Char) : Option Nat :=
  if '0' ≤ c ∧ c ≤ '9' then some (c.toNat - '0'.toNat) else none

/-- The character a one-letter escape stands for. -/
def shortEscape? : Char → Option Char
  | '"' => some '"'
  | '\\' => some '\\'
  | '/' => some '/'
  | 'b' => some '\x08'
  | 'f' => some '\x0c'
  | 'n' => some '\n'
  | 'r' => some '\r'
  | 't' => some '\t'
  | _ => none

/-! ## The scanner -/

/-- **What has been read of a number.**  `coefficient` holds the digits before and after the point
    and `scale` how many of them came after it. -/
inductive NumberState where
  | minus
  | zero (negative : Bool)
  | integer (negative : Bool) (value : Nat)
  | point (negative : Bool) (coefficient : Nat)
  | fraction (negative : Bool) (coefficient scale : Nat)
  | mark (negative : Bool) (coefficient scale : Nat)
  | sign (negative : Bool) (coefficient scale : Nat) (exponentNegative : Bool)
  | exponent (negative : Bool) (coefficient scale : Nat) (exponentNegative : Bool) (value : Nat)
  deriving DecidableEq, Repr

/-- The number read, if what has been read is one. -/
def NumberState.finish? : NumberState → Option Number
  | .minus => none
  | .zero false => some (.natural 0)
  | .zero true => some (.negated 0)
  | .integer false n => some (.natural n)
  | .integer true n => some (.negated n)
  | .point .. => none
  | .fraction neg c scale => some (.scientific neg c (-(scale : Int)))
  | .mark .. => none
  | .sign .. => none
  | .exponent neg c scale true e => some (.scientific neg c (-(e : Int) - scale))
  | .exponent neg c scale false e => some (.scientific neg c ((e : Int) - scale))

/-- One more character of a number; `none` if the number ends before it. -/
def NumberState.step? (s : NumberState) (c : Char) : Option NumberState :=
  match digit? c with
  | some d =>
    match s with
    | .minus => some (if d = 0 then .zero true else .integer true d)
    | .zero _ => none
    | .integer neg n => some (.integer neg (n * 10 + d))
    | .point neg n => some (.fraction neg (n * 10 + d) 1)
    | .fraction neg n k => some (.fraction neg (n * 10 + d) (k + 1))
    | .mark neg n k => some (.exponent neg n k false d)
    | .sign neg n k en => some (.exponent neg n k en d)
    | .exponent neg n k en e => some (.exponent neg n k en (e * 10 + d))
  | none =>
    if c = '.' then
      match s with
      | .zero neg => some (.point neg 0)
      | .integer neg n => some (.point neg n)
      | _ => none
    else if c = 'e' ∨ c = 'E' then
      match s with
      | .zero neg => some (.mark neg 0 0)
      | .integer neg n => some (.mark neg n 0)
      | .fraction neg n k => some (.mark neg n k)
      | _ => none
    else if c = '+' ∨ c = '-' then
      match s with
      | .mark neg n k => some (.sign neg n k (c = '-'))
      | _ => none
    else none

/-- **State of the scanner** between two characters. -/
inductive Scanner where
  /-- Between tokens. -/
  | idle
  /-- Inside quotes; code units read, last first. -/
  | quoted (units : List Nat)
  /-- After a backslash. -/
  | escape (units : List Nat)
  /-- After a backslash and `u`: `missing` digits to come. -/
  | unicode (units : List Nat) (missing value : Nat)
  /-- Inside a number. -/
  | number (state : NumberState)
  /-- Inside one of the three words, of which `missing` is still to come. -/
  | word (missing : List Char) (token : Token)
  deriving DecidableEq, Repr

namespace Scanner

/-- First character of a token, or blank space. -/
def start (c : Char) : Option (Scanner × List Token) :=
  match c with
  | ' ' | '\n' | '\t' | '\r' => some (idle, [])
  | '[' => some (idle, [.openArray])
  | ']' => some (idle, [.closeArray])
  | '\x7b' => some (idle, [.openObject])
  | '\x7d' => some (idle, [.closeObject])
  | ':' => some (idle, [.colon])
  | ',' => some (idle, [.comma])
  | '"' => some (quoted [], [])
  | '-' => some (number .minus, [])
  | 't' => some (word ['r', 'u', 'e'] (.bool true), [])
  | 'f' => some (word ['a', 'l', 's', 'e'] (.bool false), [])
  | 'n' => some (word ['u', 'l', 'l'] .null, [])
  | c =>
    match digit? c with
    | some d => some (number (if d = 0 then .zero false else .integer false d), [])
    | none => none

/-- One more character: the next state and the tokens it completes; `none` if no JSON text goes on
    this way. -/
def step (s : Scanner) (c : Char) : Option (Scanner × List Token) :=
  match s with
  | idle => start c
  | quoted us =>
    if c = '"' then some (idle, [.str ((decodeUnits us.reverse).map String.ofList)])
    else if c = '\\' then some (escape us, [])
    else if c.toNat < 0x20 then none
    else some (quoted (c.toNat :: us), [])
  | escape us =>
    if c = 'u' then some (unicode us 4 0, [])
    else (shortEscape? c).map fun e => (quoted (e.toNat :: us), [])
  | unicode us missing v =>
    match hexDigit? c with
    | none => none
    | some d =>
      let v' := v * 16 + d
      if missing ≤ 1 then some (quoted (v' :: us), []) else some (unicode us (missing - 1) v', [])
  | number n =>
    match n.step? c with
    | some n' => some (number n', [])
    | none => do
      let x ← n.finish?
      let (s', ts) ← start c
      return (s', .num x :: ts)
  | word [] _ => none
  | word [w] t => if c = w then some (idle, [t]) else none
  | word (w :: ws) t => if c = w then some (word ws t, []) else none

/-- The end of the text: the tokens it completes. -/
def finish : Scanner → Option (List Token)
  | idle => some []
  | number n => n.finish?.map fun x => [.num x]
  | _ => none

/-- All tokens of a text that goes on from state `s`. -/
def tokens (s : Scanner) : List Char → Option (List Token)
  | [] => s.finish
  | c :: cs => do
    let (s', ts) ← s.step c
    let rest ← s'.tokens cs
    return ts ++ rest

end Scanner

/-! ## The builder -/

/-- **An open container**: what it holds so far, last first, and for an object the key whose value
    is being read.  A key without meaning is `none`. -/
inductive Frame where
  | items (done : List Json)
  | members (done : List (Option String × Json)) (key : Option String)
  deriving Repr

/-- **What the builder waits for.** -/
inductive Expecting where
  | value
  | firstItem
  | firstKey
  | key
  | colon
  | separator
  | nothing (result : Json)
  deriving Repr

/-- **State of the builder**: the open containers, innermost first, and what may come next. -/
structure Builder where
  stack : List Frame
  expecting : Expecting
  deriving Repr

namespace Builder

/-- Before the first token. -/
def initial : Builder := ⟨[], .value⟩

/-- A value is complete: it goes into the innermost open container. -/
def push (stack : List Frame) (v : Json) : Builder :=
  match stack with
  | [] => ⟨[], .nothing v⟩
  | .items done :: fs => ⟨.items (v :: done) :: fs, .separator⟩
  | .members done key :: fs => ⟨.members ((key, v) :: done) none :: fs, .separator⟩

/-- The members of an object, in the order written; `none` if a key has no meaning. -/
def memberList? : List (Option String × Json) → Option (List (String × Json))
  | [] => some []
  | (none, _) :: _ => none
  | (some k, v) :: ms => (memberList? ms).map ((k, v) :: ·)

/-- The value of a container that closes with `outer` containers around it. -/
def closed (outer : Nat) (v : Json) : Json :=
  if outer < maxDepth then v else .unreadable

/-- Start of a value. -/
def begin (stack : List Frame) : Token → Option Builder
  | .openArray => some ⟨.items [] :: stack, .firstItem⟩
  | .openObject => some ⟨.members [] none :: stack, .firstKey⟩
  | .null => some (push stack .null)
  | .bool b => some (push stack (.bool b))
  | .num n => some (push stack (if n.overflows then .unreadable else .num n))
  | .str (some s) => some (push stack (.str s))
  | .str none => some (push stack .unreadable)
  | _ => none

/-- End of the innermost container. -/
def close (stack : List Frame) : Token → Option Builder
  | .closeArray =>
    match stack with
    | .items done :: fs => some (push fs (closed fs.length (.arr done.reverse)))
    | _ => none
  | .closeObject =>
    match stack with
    | .members done _ :: fs =>
      some (push fs (match memberList? done.reverse with
        | some ms => closed fs.length (.obj ms)
        | none => .unreadable))
    | _ => none
  | _ => none

/-- A key of the innermost object. -/
def nameMember (stack : List Frame) : Token → Option Builder
  | .str k =>
    match stack with
    | .members done _ :: fs => some ⟨.members done k :: fs, .colon⟩
    | _ => none
  | _ => none

/-- One more token; `none` if no JSON text goes on this way. -/
def step (b : Builder) (t : Token) : Option Builder :=
  match b.expecting with
  | .value => begin b.stack t
  | .firstItem => if t = .closeArray then close b.stack t else begin b.stack t
  | .firstKey => if t = .closeObject then close b.stack t else nameMember b.stack t
  | .key => nameMember b.stack t
  | .colon => if t = .colon then some ⟨b.stack, .value⟩ else none
  | .separator =>
    if t = .comma then
      match b.stack with
      | .items _ :: _ => some ⟨b.stack, .value⟩
      | .members .. :: _ => some ⟨b.stack, .key⟩
      | [] => none
    else close b.stack t
  | .nothing _ => none

/-- The value built, if it is complete. -/
def result? (b : Builder) : Option Json :=
  match b.expecting with
  | .nothing v => some v
  | _ => none

/-- Feed a list of tokens. -/
def run (b : Builder) : List Token → Option Builder
  | [] => some b
  | t :: ts => do (← b.step t).run ts

end Builder

/-- **Read a JSON text**: exactly one value, blank space around it allowed. -/
def parse? (text : String) : Option Json := do
  let ts ← Scanner.idle.tokens text.toList
  (← Builder.initial.run ts).result?

end LeaseKeeper.Json

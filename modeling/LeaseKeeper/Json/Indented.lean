/-
  Writing JSON text for people.

  Every item and member stands on a line of its own, indented by two blanks for every level; what is
  empty stays on one line.
-/
import LeaseKeeper.Json.Writer

namespace LeaseKeeper.Json

/-- A line break and the indentation of a level. -/
def newline (level : Nat) : List Char := '\n' :: List.replicate (2 * level) ' '

mutual

/-- The characters of a value that stands at a level. -/
def writeIndented (level : Nat) : Json → List Char
  | arr [] => ['[', ']']
  | arr (v :: vs) =>
    '[' :: (newline (level + 1) ++ writeIndented (level + 1) v ++ writeMoreItems level vs)
  | obj [] => ['\x7b', '\x7d']
  | obj ((k, v) :: ms) =>
    '\x7b' :: (newline (level + 1) ++ writeString k ++ [':', ' '] ++ writeIndented (level + 1) v ++
      writeMoreMembers level ms)
  | null => write null
  | bool b => write (bool b)
  | num n => write (num n)
  | str s => write (str s)
  | unreadable => write unreadable

/-- Further items, and the end of an array that stands at a level. -/
def writeMoreItems (level : Nat) : List Json → List Char
  | [] => newline level ++ [']']
  | v :: vs => ',' :: (newline (level + 1) ++ writeIndented (level + 1) v ++ writeMoreItems level vs)

/-- Further members, and the end of an object that stands at a level. -/
def writeMoreMembers (level : Nat) : List (String × Json) → List Char
  | [] => newline level ++ ['\x7d']
  | (k, v) :: ms =>
    ',' :: (newline (level + 1) ++ writeString k ++ [':', ' '] ++ writeIndented (level + 1) v ++
      writeMoreMembers level ms)

end

/-- **The text of a value on several lines.** -/
def renderIndented (v : Json) : String := String.ofList (writeIndented 0 v)

end LeaseKeeper.Json

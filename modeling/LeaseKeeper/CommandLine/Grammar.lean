/-
  Command lines.

  A command takes options, then words.  An option has a long name and perhaps a letter; it either is
  a flag or takes a value, which may be attached to it.  Letters can be written together behind one
  dash.  After `--` everything is a word.  A word that names a subcommand, and is not the value of an
  option, hands the rest of the line to it.

  The value of an option is checked when the next thing on the line is read, not before: a request for
  help that comes first is granted even if the line could not be accepted otherwise.
-/

namespace LeaseKeeper.CommandLine

/-- **Why a command line is not carried out**: help is asked for, or it makes no sense. -/
inductive Stop where
  | help
  | misuse
  deriving DecidableEq, Repr

/-- What an option is followed by, and how often it may be given. -/
inductive OptionKind where
  /-- Nothing; asks for help. -/
  | help
  /-- Nothing; given at most once. -/
  | flag
  /-- A value; given at most once. -/
  | single
  /-- A value that is not empty; given at most once. -/
  | path
  /-- A value; given any number of times. -/
  | repeated
  deriving DecidableEq, Repr

/-- Whether an option is followed by a value. -/
def OptionKind.takesValue (k : OptionKind) : Bool := k == .single || k == .path || k == .repeated

/-- **An option.** -/
structure OptionSpec where
  long : String
  letter : Option Char := none
  kind : OptionKind
  deriving DecidableEq, Repr

/-- The option that every command has. -/
def OptionSpec.forHelp : OptionSpec := { long := "help", letter := some 'h', kind := .help }

/-- **A command.** -/
structure CommandSpec where
  options : List OptionSpec := []
  /-- The most words it takes. -/
  maxWords : Nat := 0
  subcommands : List String := []
  deriving DecidableEq, Repr

namespace CommandSpec

/-- The option with a long name. -/
def optionNamed? (c : CommandSpec) (name : String) : Option OptionSpec :=
  (.forHelp :: c.options).find? (·.long = name)

/-- The option with a letter. -/
def optionLettered? (c : CommandSpec) (letter : Char) : Option OptionSpec :=
  (.forHelp :: c.options).find? (·.letter = some letter)

end CommandSpec

/-! ## Reading a line -/

/-- **What was read of a line.** -/
structure Reading where
  /-- Values of options, by long name, in order; a flag has the empty value. -/
  given : List (String × String) := []
  words : List String := []
  /-- An option that is not checked yet, and its value if it has been read. -/
  pending : Option (OptionSpec × Option String) := none
  /-- Whether only words can follow. -/
  isTrailing : Bool := false
  deriving DecidableEq, Repr

namespace Reading

/-- The last value of an option. -/
def value? (r : Reading) (name : String) : Option String := r.given.reverse.lookup name

/-- All values of an option. -/
def values (r : Reading) (name : String) : List String :=
  (r.given.filter (·.1 = name)).map (·.2)

/-- Whether an option was given. -/
def has (r : Reading) (name : String) : Bool := (r.value? name).isSome

/-- Take an option and its value in. -/
def take (r : Reading) (o : OptionSpec) (value : String) : Except Stop Reading :=
  if o.kind = .help then .error .help
  else if o.kind ≠ .repeated ∧ r.has o.long then .error .misuse
  else if o.kind = .path ∧ value = "" then .error .misuse
  else .ok { r with given := r.given ++ [(o.long, value)] }

/-- **Check the pending option.**  One without a value is an error. -/
def settle (r : Reading) : Except Stop Reading :=
  match r.pending with
  | none => .ok r
  | some (_, none) => .error .misuse
  | some (o, some value) => { r with pending := none }.take o value

/-- Whether the next argument is the value of an option, unless it looks like an option itself. -/
def awaitsValue (r : Reading) : Bool := r.pending.any fun p => p.2.isNone

/-- Take in an option whose value, if it needs one, may be attached. -/
def option (r : Reading) (o : OptionSpec) (attached : Option String) : Except Stop Reading := do
  let r ← r.settle
  match o.kind.takesValue, attached with
  | true, some value => r.take o value
  | true, none => return { r with pending := some (o, none) }
  | false, some _ => throw .misuse
  | false, none => r.take o ""

/-- Take in letters that stand behind one dash. -/
def letters (c : CommandSpec) (r : Reading) : List Char → Except Stop Reading
  | [] => .ok r
  | letter :: rest =>
    match c.optionLettered? letter with
    | none => .error .misuse
    | some o =>
      if o.kind.takesValue then
        r.option o (match rest with
          | [] => none
          | '=' :: value => some (String.ofList value)
          | value => some (String.ofList value))
      else do
        let r ← r.option o none
        letters c r rest

/-- Take in a long option. -/
def long (c : CommandSpec) (r : Reading) (text : List Char) : Except Stop Reading :=
  let name := text.takeWhile (· ≠ '=')
  let attached : Option String := match text.dropWhile (· ≠ '=') with
    | [] => none
    | _ :: value => some (String.ofList value)
  match c.optionNamed? (String.ofList name) with
  | none => .error .misuse
  | some o => r.option o attached

/-- Take in a word. -/
def word (c : CommandSpec) (r : Reading) (text : String) : Except Stop Reading := do
  let r ← r.settle
  if r.words.length < c.maxWords then return { r with words := r.words ++ [text] }
  else throw .misuse

/-- **Take in one argument** that does not name a subcommand. -/
def argument (c : CommandSpec) (r : Reading) (text : String) : Except Stop Reading :=
  if r.isTrailing then r.word c text
  else
    match text.toList with
    | ['-', '-'] => .ok { r with isTrailing := true }
    | '-' :: '-' :: rest => r.long c rest
    | '-' :: letter :: rest => r.letters c (letter :: rest)
    | _ =>
      match r.pending with
      | some (o, none) => .ok { r with pending := some (o, some text) }
      | _ => r.word c text

end Reading

/-- **Read a line up to a subcommand**: what was read, and the subcommand with its own line. -/
def readLine (c : CommandSpec) (r : Reading) :
    List String → Except Stop (Reading × Option (String × List String))
  | [] => .ok (r, none)
  | text :: rest =>
    if !r.isTrailing && !r.awaitsValue && c.subcommands.contains text then
      .ok (r, some (text, rest))
    else do
      let r ← r.argument c text
      readLine c r rest

/-- **Read the line of a command without subcommands.** -/
def readAll (c : CommandSpec) (line : List String) : Except Stop Reading := do
  let (r, _) ← readLine c {} line
  r.settle

end LeaseKeeper.CommandLine

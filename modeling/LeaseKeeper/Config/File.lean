/-
  Configuration files.

  A configuration file is TOML text in UTF-8.  It is accepted if it can be read and has no faults;
  otherwise the error says which step failed, and for faults names all of them.
-/
import LeaseKeeper.Config.Read
import LeaseKeeper.Config.Validation
import LeaseKeeper.Toml.Format
import LeaseKeeper.Toml.Reader

namespace LeaseKeeper

/-- Why a file has no text. -/
inductive FileError where
  | missing
  | notText
  deriving DecidableEq, Repr

/-- The wording of a file error. -/
def FileError.message : FileError → String
  | missing => "No such file or directory (os error 2)"
  | notText => "stream did not contain valid UTF-8"

/-- **Why there is no configuration.** -/
inductive ConfigError where
  | file (cause : FileError)
  /-- The text is not TOML, or not a configuration. -/
  | malformed
  | invalid (faults : List ConfigFault)
  deriving DecidableEq, Repr

/-- The wording of an error. -/
def ConfigError.message : ConfigError → String
  | file cause => "IO error: " ++ cause.message
  | malformed => "Parse error"
  | invalid faults => "Validation failed: " ++ ", ".intercalate (faults.map ConfigFault.message)

namespace Config

/-- A configuration without faults. -/
def checked (c : Config) : Except ConfigError Config :=
  if c.isValid then .ok c else .error (.invalid c.faults)

/-- **The configuration that a text spells.** -/
def ofText (text : String) : Except ConfigError Config :=
  match (Toml.parse? text).bind (Config.read? Toml.format) with
  | none => .error .malformed
  | some c => c.checked

/-- **The configuration in a file**, given by its bytes if it exists. -/
def ofFile (bytes : Option ByteArray) : Except ConfigError Config :=
  match bytes with
  | none => .error (.file .missing)
  | some bytes =>
    match String.fromUTF8? bytes with
    | none => .error (.file .notText)
    | some text => ofText text

end Config

end LeaseKeeper

import PathRouter.Config.Check
import PathRouter.Config.Decode
import PathRouter.FileTree
import PathRouter.Toml.Document

/-!
# Loading configurations

A configuration is read from TOML, from a file or from a JSON value, and accepted if it has no
faults.
-/

namespace PathRouter

/-- Why a configuration is refused: its file cannot be read, it cannot be decoded, or it has faults.
-/
inductive ConfigError where
  | file (cause : FileError)
  | undecodable
  | invalid (faults : List ConfigFault)
deriving DecidableEq, Repr

/-- The wording of an error. -/
def ConfigError.message : ConfigError → String
  | file cause => s!"IO error: {cause.word}"
  | undecodable => "Parse error"
  | invalid faults =>
    "Validation failed: " ++ ", ".intercalate (faults.map ConfigFault.message)

namespace Config

/-- The configuration that was decoded, if it has no faults. -/
def accept : Option Config → Except ConfigError Config
  | none => .error .undecodable
  | some c => if c.faults.isEmpty then .ok c else .error (.invalid c.faults)

/-- The configuration that a JSON value gives. -/
def ofJson (v : Json) : Except ConfigError Config := accept (ofJson? .json v)

/-- The configuration that a TOML text gives. -/
def ofText (s : String) : Except ConfigError Config := accept ((Toml.read? s).bind (ofJson? .toml))

/-- The configuration in a file. -/
def load (files : FileTree) (path : String) : Except ConfigError Config := do
  let s ← (files.readText path).mapError ConfigError.file
  ofText s

end Config

end PathRouter

/-!
# Errors of cached texts

Why a cached route or a cached table is refused: the text is no JSON, a field is missing or
malformed, the version or format is another one, or the stored pattern cannot be read.
-/

namespace PathRouter

/-- The fields of cached routes and tables, and the two as wholes. -/
inductive CacheField where
  | entry
  | v
  | base
  | segments
  | matcher
  | callback
  | document
  | format
  | version
  | priority
  | routes
  | home
  | error
deriving DecidableEq, Repr

/-- The name of a field. -/
def CacheField.name : CacheField → String
  | entry => "entry"
  | v => "v"
  | base => "base"
  | segments => "segments"
  | matcher => "matcher"
  | callback => "callback"
  | document => "document"
  | format => "format"
  | version => "version"
  | priority => "priority"
  | routes => "routes"
  | home => "home"
  | error => "error"

/-- What is wrong with a field. -/
inductive Defect where
  | notObject
  | notUnsigned
  | notText
  | notList
  | notTexts
  | undecodable
  | otherBase
  | baseWithoutSegments
  | groupCount (groups params : Nat)
  | rootShaped
  | tooManySegments (count limit : Nat)
deriving DecidableEq, Repr

/-- The wording of a defect. -/
def Defect.message : Defect → String
  | notObject => "expected an object"
  | notUnsigned => "expected an unsigned integer"
  | notText => "expected a string"
  | notList => "expected an array"
  | notTexts => "expected entry blobs as strings"
  | undecodable => "value cannot be decoded"
  | otherBase => "does not match the first literal segment"
  | baseWithoutSegments => "set on a route without segments"
  | groupCount groups params => s!"has {groups} capture groups for {params} parameters"
  | rootShaped => "home/error shaped entries cannot be bucketed"
  | tooManySegments count limit => s!"{count} segments exceed the limit of {limit}"

/-- Why a cached text is refused. -/
inductive CacheError where
  | notJson
  | missing (field : CacheField)
  | malformed (field : CacheField) (defect : Defect)
  | version (found expected : Nat)
  | format (tag : String)
  | unreadableMatcher
deriving DecidableEq, Repr

/-- The wording of an error. -/
def CacheError.message : CacheError → String
  | notJson => "cache blob is not valid JSON"
  | missing field => s!"cache blob is missing required field '{field.name}'"
  | malformed field defect => s!"cache field '{field.name}' is malformed: {defect.message}"
  | version found expected =>
    s!"cache version {found} is not supported (expected {expected})"
  | format tag => s!"cache blob has unknown format tag '{tag}'"
  | unreadableMatcher => "cached matcher is invalid"

end PathRouter

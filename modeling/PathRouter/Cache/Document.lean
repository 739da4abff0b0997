import PathRouter.Cache.Field
import PathRouter.Json.Printer
import PathRouter.Table.Options

/-!
# Cache documents

A cached table is one JSON record: a format tag, a version, the priority that the table had, and the
exported texts of its routes, of its home route and of its error route. Every field is required.
-/

namespace PathRouter

/-- The contents of a cached table. -/
structure CacheDocument where
  format : String
  version : Nat
  priority : Priority
  routes : List String
  home : String
  error : String
deriving DecidableEq, Repr

namespace CacheDocument

/-- The tag of the format. -/
def formatTag : String := "segment-router-cache"

/-- The version of the format. -/
def formatVersion : Nat := 1

/-- The JSON form of a document. -/
def toJson (d : CacheDocument) : Json :=
  .record [("format", .text d.format), ("version", .ofNat d.version),
    ("priority", .text d.priority.word), ("routes", .ofTexts d.routes), ("home", .text d.home),
    ("error", .text d.error)]

/-- The text of a document. -/
def encode (d : CacheDocument) : String := d.toJson.compact

/-- The priority with a JSON form. -/
def priorityOfJson? (v : Json) : Option Priority := (v.choice? Json.isNull).bind Priority.ofWord?

/-- The document with a JSON form. The fields are checked in the order in which they are written. -/
def ofJson (v : Json) : Except CacheError CacheDocument := do
  let fields ← Cache.recordFields .document v
  let format ← Cache.requiredText fields .format
  if format ≠ formatTag then throw (.format format)
  Cache.requiredVersion fields .version formatVersion
  let priority ← Cache.required fields .priority
  let priority ← Cache.shaped .priority .undecodable (priorityOfJson? priority)
  let routes ← Cache.required fields .routes
  let routes ← Cache.shaped .routes .notList routes.asList?
  let routes ← Cache.shaped .routes .notTexts (routes.mapM Json.asText?)
  let home ← Cache.requiredText fields .home
  let error ← Cache.requiredText fields .error
  .ok ⟨format, formatVersion, priority, routes, home, error⟩

/-- The document with a text. -/
def decode (blob : String) : Except CacheError CacheDocument := do
  let v ← Cache.readText blob
  ofJson v

end CacheDocument

end PathRouter

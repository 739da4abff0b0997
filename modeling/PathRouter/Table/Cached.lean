import PathRouter.Cache.Document
import PathRouter.Table.Basic

/-!
# Cached tables

A table is exported as a cache document with the texts of its routes, bucket after bucket. Loading
it keeps their order; the priority in the options counts for routes that are added later.
-/

namespace PathRouter.Table

/-- The document of a table whose home and error routes are set. -/
def document (t : Table) : Except Slot CacheDocument := do
  let home ← t.homeRoute
  let error ← t.errorRoute
  .ok ⟨CacheDocument.formatTag, CacheDocument.formatVersion, t.options.priority,
    t.buckets.routes.map Route.exported, home.exported, error.exported⟩

/-- The text of a table whose home and error routes are set. -/
def exported (t : Table) : Except Slot String := t.document.map CacheDocument.encode

/-- The table with one more route in a bucket, tried after those that are there. -/
def append (t : Table) (r : Route) : Table :=
  { t with buckets := t.buckets.insert .firstWins (key r.base) r }

/-- The table with the routes of some exported texts, in their order. -/
def appendAll (t : Table) : List String → Except CacheError Table
  | [] => .ok t
  | blob :: blobs => do
    let r ← importRoute t.options.maxSegments blob
    appendAll (t.append r) blobs

/-- The table with some options and the contents of a document. -/
def ofDocument (options : TableOptions) (d : CacheDocument) : Except CacheError Table := do
  let t ← appendAll { options } d.routes
  let home ← Route.imported d.home
  let error ← Route.imported d.error
  .ok { t with home := some home, error := some error }

/-- The table with some options and the contents of an exported text. -/
def imported (options : TableOptions) (blob : String) : Except CacheError Table := do
  let d ← CacheDocument.decode blob
  ofDocument options d

end PathRouter.Table

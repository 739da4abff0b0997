import PathRouter.Cache.Field
import PathRouter.Json.Printer
import PathRouter.Route.Basic

/-!
# Cached routes

A route is exported as the text of a JSON record with the fields `base`, `callback`, `matcher`,
`segments` and `v`, the version of the form. A route that was imported and not changed since exports
the text it was read from, and one that was exported keeps its text until it is changed.
-/

namespace PathRouter.Route

/-- The version of the exported form. -/
def exportVersion : Nat := 1

/-- The JSON form of a route. -/
def toJson (r : Route) : Json :=
  .record [
    ("base", .text r.base), ("callback", r.callback.toJson), ("matcher", .text r.matcher.text),
    ("segments", .list (r.segments.map Segment.toJson)), ("v", .ofNat exportVersion)]

/-- The exported text of a route. -/
def exported (r : Route) : String := r.source.getD r.toJson.compact

/-- The route with its exported text kept: what it is after it was exported, and what is read from
the text. -/
def reloaded (r : Route) : Route := { r with source := some r.exported }

/-- The segments with a JSON form. -/
def segmentsOfJson? (v : Json) : Option (List Segment) := do
  let items ← v.asList?
  items.mapM Segment.ofJson?

/-- The base must be the first segment, which is a literal; without segments it is empty. -/
def checkBase (base : String) : List Segment → Except CacheError Unit
  | [] => if base.isEmpty then .ok () else .error (.malformed .base .baseWithoutSegments)
  | s :: _ =>
    if s.kind = .literal ∧ s.name = base then .ok () else .error (.malformed .base .otherBase)

/-- The route with a JSON form. Its pattern has one group for every parameter. -/
def ofJson (v : Json) : Except CacheError Route := do
  let fields ← Cache.recordFields .entry v
  Cache.requiredVersion fields .v exportVersion
  let base ← Cache.requiredText fields .base
  let segments ← Cache.required fields .segments
  let segments ← Cache.shaped .segments .undecodable (segmentsOfJson? segments)
  let text ← Cache.requiredText fields .matcher
  let callback ← Cache.required fields .callback
  let callback ← Cache.shaped .callback .undecodable (Callback.ofJson? callback)
  checkBase base segments
  match Matcher.ofText? text with
  | none => .error .unreadableMatcher
  | some matcher =>
    let params := (Template.paramNames segments).length
    if matcher.groupCount = params then .ok ⟨base, segments, matcher, callback, none⟩
    else .error (.malformed .matcher (.groupCount matcher.groupCount params))

/-- The route with an exported text. -/
def imported (blob : String) : Except CacheError Route := do
  let v ← Cache.readText blob
  let r ← ofJson v
  .ok { r with source := some blob }

end PathRouter.Route

import PathRouter.Path
import PathRouter.Route.Cached
import PathRouter.Route.Match
import PathRouter.Table.Buckets

/-!
# Route tables

A table holds compiled routes in buckets by the lower case of their bases, and two routes apart: the
home route for the root path and the error route for what no route takes. `Table.resolve` normalizes
a raw path and tries the routes of the bucket of its first segment in order.
-/

namespace PathRouter

/-- The two places of a table for routes without segments. -/
inductive Slot where
  | home
  | error
deriving DecidableEq, Repr

/-- The word for a slot. -/
def Slot.word : Slot → String
  | home => "home"
  | error => "error"

/-- The wording of the error that a slot is needed and not set. -/
def Slot.message (s : Slot) : String := s!"router misconfigured: {s.word} route is not set"

/-- Whether a template stands for the root path: it consists of slashes. -/
def Template.isRoot (template : String) : Bool :=
  template != "" && template.toList.all (· == '/')

/-- A route table. -/
structure Table where
  options : TableOptions := {}
  buckets : Buckets := []
  home : Option Route := none
  error : Option Route := none

namespace Table

/-- The key of the bucket for a base. -/
def key (base : String) : String := Text.lowercase base

/-- The bucket for a base. -/
def bucket? (t : Table) (base : String) : Option (List Route) := t.buckets.lookup (key base)

/-- How many routes are in buckets. -/
def size (t : Table) : Nat := t.buckets.routes.length

/-- Whether there is no bucket. -/
def isEmpty (t : Table) : Bool := t.buckets.isEmpty

/-- The home route, which has to be set. -/
def homeRoute (t : Table) : Except Slot Route :=
  match t.home with
  | some r => .ok r
  | none => .error .home

/-- The error route, which has to be set. -/
def errorRoute (t : Table) : Except Slot Route :=
  match t.error with
  | some r => .ok r
  | none => .error .error

/-- The table with a home route for a callback. -/
def setHome (t : Table) (callback : Callback) : Table := { t with home := some (.special callback) }

/-- The table with an error route for a callback. -/
def setError (t : Table) (callback : Callback) : Table :=
  { t with error := some (.special callback) }

/-- The table with one more route in a bucket. -/
def insert (t : Table) (r : Route) : Table :=
  { t with buckets := t.buckets.insert t.options.priority (key r.base) r }

/-- The route that a template describes and the table with it: the home route if the template stands
for the root path, else a route in a bucket. -/
def addRoute (t : Table) (template : String) (callback : Callback) :
    Except CompileError (Route × Table) :=
  if Template.isRoot template then .ok (.special callback, t.setHome callback)
  else do
    let r ← Route.compile t.options.maxSegments template callback
    .ok (r, t.insert r)

/-- A route in a bucket has segments, and not more than the limit. -/
def checked (limit : Nat) (r : Route) : Except CacheError Route :=
  if r.segments.isEmpty then .error (.malformed .segments .rootShaped)
  else if limit < r.segments.length then
    .error (.malformed .segments (.tooManySegments r.segments.length limit))
  else .ok r

/-- The route with an exported text, if it may stand in a bucket. -/
def importRoute (limit : Nat) (blob : String) : Except CacheError Route := do
  let r ← Route.imported blob
  checked limit r

/-- The route with an exported text and the table with it. -/
def addCached (t : Table) (blob : String) : Except CacheError (Route × Table) := do
  let r ← importRoute t.options.maxSegments blob
  .ok (r, t.insert r)

/-- The status that a match of the error route carries. -/
def notFoundStatus : Nat := 404

/-- The match of what no route takes. -/
def notFound (t : Table) : Except Slot RouteMatch := do
  let r ← t.errorRoute
  .ok (RouteMatch.setParam ⟨r, .notFound, []⟩ RouteMatch.statusParam (Text.digits notFoundStatus))

/-- The match of the root path. -/
def atRoot (t : Table) : Except Slot RouteMatch := do
  let r ← t.homeRoute
  .ok ⟨r, .home, []⟩

/-- The match of a raw path. -/
def resolve (t : Table) (raw : String) : Except Slot RouteMatch :=
  let path := Path.normalize raw t.options.baseUrl
  match Path.firstSegment? path with
  | none => t.atRoot
  | some first =>
    match ((t.bucket? first).getD []).findSome? (·.match? path) with
    | some m => .ok m
    | none => t.notFound

end Table

end PathRouter

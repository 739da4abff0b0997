import PathRouter.Callback
import PathRouter.Template.Matcher

/-!
# Routes

A route has a base, which is the text of its first segment, segments, a matcher for the paths it
takes, and a callback. A route that was read from a cached text or exported as one keeps this text
until the route is changed.
-/

namespace PathRouter

/-- A compiled route. `source` is the text that the route was read from or exported as, if it was. -/
structure Route where
  base : String
  segments : List Segment
  matcher : Matcher
  callback : Callback
  source : Option String := none

namespace Route

/-- Whether two routes have the same base, segments, matcher and callback, whatever they were read
from. -/
def same (r s : Route) : Bool :=
  r.base == s.base && r.segments == s.segments && r.matcher == s.matcher && r.callback == s.callback

/-- The route with given segments. -/
def ofSegments (segments : List Segment) (callback : Callback) : Route :=
  ⟨(segments.head?.map Segment.name).getD "", segments, Template.matcher segments, callback, none⟩

/-- The route that a template of at most `limit` segments describes. -/
def compile (limit : Nat) (template : String) (callback : Callback) :
    Except CompileError Route := do
  let segments ← Template.read limit template
  .ok (ofSegments segments callback)

/-- A route without segments, for the root path and for unmatched paths. -/
def special (callback : Callback) : Route := ofSegments [] callback

/-- The template that the segments make. -/
def template (r : Route) : String := Template.text r.segments

/-- The names of the parameters, in order. -/
def paramNames (r : Route) : List String := Template.paramNames r.segments

/-- The route with another callback. -/
def setCallback (r : Route) (callback : Callback) : Route := { r with callback, source := none }

/-- The route with the shape of another template. -/
def recompile (limit : Nat) (template : String) (r : Route) : Except CompileError Route :=
  compile limit template r.callback

/-- The names of parameters with the values of the groups. A group without a value takes no part in
the match, so that nothing is bound. -/
def bind? : List String → List (Option String) → Option (List (String × String))
  | [], _ => some []
  | n :: ns, some v :: vs => (bind? ns vs).map ((n, v) :: ·)
  | _ :: _, _ => none

/-- The parameters that a path binds, if the route takes it. -/
def verify? (r : Route) (path : String) : Option (List (String × String)) := do
  let values ← r.matcher.captures? path
  bind? r.paramNames values

end Route

end PathRouter

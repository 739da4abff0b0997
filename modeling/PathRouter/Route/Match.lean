import PathRouter.Assoc
import PathRouter.Route.Basic

/-!
# Matches

What resolving a path gives: the route, how it was found, and the parameters bound for this request.
Parameters can be added and replaced; their order is the order in which their names came up.
-/

namespace PathRouter

/-- How a path was resolved: by the home route, by a matching route, or by the error route. -/
inductive Outcome where
  | home
  | matched
  | notFound
deriving DecidableEq, Repr

/-- The word for an outcome. -/
def Outcome.word : Outcome → String
  | home => "home"
  | matched => "matched"
  | notFound => "not_found"

/-- A route with the parameters bound for one request. -/
structure RouteMatch where
  route : Route
  outcome : Outcome
  params : List (String × String) := []

namespace RouteMatch

/-- The value of a parameter. -/
def param? (m : RouteMatch) (name : String) : Option String := m.params.lookup name

/-- The match with one parameter set. -/
def setParam (m : RouteMatch) (name value : String) : RouteMatch :=
  { m with params := Assoc.put name value m.params }

/-- The parameter that holds the status of an answer. -/
def statusParam : String := "status"

/-- The status of the answer, if a parameter gives one: a whole number below `2 ^ 16`. -/
def status? (m : RouteMatch) : Option Nat := (m.param? statusParam).bind (Text.unsigned? 16)

end RouteMatch

/-- The match of a path by a route, if the route takes it. -/
def Route.match? (r : Route) (path : String) : Option RouteMatch :=
  (r.verify? path).map fun params => ⟨r, .matched, params⟩

end PathRouter

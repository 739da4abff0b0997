import PathRouter.Template.Basic

/-!
# Table options

What a route table is set up with: a base URL that request paths are stripped of, which of two
routes with one base is tried first, and how many segments a route may have.
-/

namespace PathRouter

/-- Which of the routes with one base is tried first: the one that was added first, or the one that
was added last. -/
inductive Priority where
  | firstWins
  | lastWins
deriving DecidableEq, Repr

namespace Priority

/-- The word for a priority. -/
def word : Priority → String
  | firstWins => "first_wins"
  | lastWins => "last_wins"

/-- The priority with a word. -/
def ofWord? (w : String) : Option Priority :=
  if w = "first_wins" then some firstWins
  else if w = "last_wins" then some lastWins
  else none

/-- A list in the order of trying, with one more item. -/
def insert {α : Type} : Priority → α → List α → List α
  | firstWins, a, as => as ++ [a]
  | lastWins, a, as => a :: as

end Priority

/-- What a table is set up with. -/
structure TableOptions where
  baseUrl : Option String := none
  priority : Priority := .firstWins
  maxSegments : Nat := Template.defaultLimit
deriving DecidableEq, Repr

end PathRouter

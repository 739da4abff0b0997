import PathRouter.Pattern.CharSet

/-!
# Patterns

A pattern says which texts it matches and which parts of them its groups take. Groups are numbered
from one in the order of their opening brackets, and a repetition keeps one copy of what it repeats,
so that every group stands in a pattern once.
-/

namespace PathRouter

/-- The edge of a word that a look-around asks for. The half edges look to one side only. -/
inductive WordEdge where
  | any
  | no
  | start
  | stop
  | startHalf
  | stopHalf
deriving DecidableEq, Repr

/-- A condition on the two characters around a position. Lines end at a line feed, or, if `crlf`
holds, at any of `\r`, `\n` and `\r\n`. -/
inductive LookAround where
  | textStart
  | textEnd
  | lineStart (crlf : Bool)
  | lineEnd (crlf : Bool)
  | word (edge : WordEdge) (unicode : Bool)
deriving DecidableEq, Repr

/-- A pattern. A repetition takes its pattern `least` times or more, up to `most` times if that is
given, and prefers more rounds if it is greedy. -/
inductive Pattern where
  | empty
  | one (set : CharSet)
  | look (condition : LookAround)
  | seq (first second : Pattern)
  | alt (first second : Pattern)
  | repeated (least : Nat) (most : Option Nat) (greedy : Bool) (body : Pattern)
  | group (index : Nat) (body : Pattern)

namespace Pattern

/-- Patterns one after another. -/
def seqAll : List Pattern → Pattern
  | [] => empty
  | [p] => p
  | p :: q :: ps => seq p (seqAll (q :: ps))

/-- Patterns to choose from, the first preferred. -/
def altAll : List Pattern → Pattern
  | [] => empty
  | [p] => p
  | p :: q :: ps => alt p (altAll (q :: ps))

/-- The numbers of the groups, in the order of their opening brackets. -/
def groups : Pattern → List Nat
  | empty | one _ | look _ => []
  | seq p q | alt p q => p.groups ++ q.groups
  | repeated _ _ _ p => p.groups
  | group i p => i :: p.groups

end Pattern

end PathRouter

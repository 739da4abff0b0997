import PathRouter.Route.Match

/-!
# Aliases and handlers

An alias stands for a callback, which must be no alias itself. The handlers of a host are registered
under the names of functions and methods, and a match is fired by running the handler of its route's
callback, after one step through the aliases if the callback is one.
-/

namespace PathRouter

/-- Callbacks by alias. -/
abbrev Aliases := List (String × Callback)

/-- Handlers, which make an answer from a match, by function and by class and method. -/
structure Handlers (α : Type) where
  functions : List (String × (RouteMatch → α)) := []
  methods : List ((String × String) × (RouteMatch → α)) := []

/-- Why a callback cannot be fired. -/
inductive FireError where
  | unresolvedAlias (name : String)
  | unresolvedHandler (callback : String)
deriving DecidableEq, Repr

/-- The wording of an error. -/
def FireError.message : FireError → String
  | unresolvedAlias name => s!"no callback registered for alias '{name}'"
  | unresolvedHandler callback => s!"no handler registered for callback '{callback}'"

namespace Handlers

variable {α : Type}

/-- The handlers with one for a function. -/
def function (h : Handlers α) (name : String) (run : RouteMatch → α) : Handlers α :=
  { h with functions := Assoc.put name run h.functions }

/-- The handlers with one for a method. -/
def method (h : Handlers α) (className methodName : String) (run : RouteMatch → α) : Handlers α :=
  { h with methods := Assoc.put (className, methodName) run h.methods }

/-- The handler of a callback that is no alias. -/
def find? (h : Handlers α) : Callback → Option (RouteMatch → α)
  | .direct name => h.functions.lookup name
  | .method className methodName => h.methods.lookup (className, methodName)
  | .aliased _ => none

/-- Whether a callback that is no alias has a handler. -/
def contains (h : Handlers α) (c : Callback) : Bool := (h.find? c).isSome

end Handlers

/-- The callback that is run for a callback: the target of an alias, which must not be an alias, or
the callback itself. -/
def Callback.concrete (aliases : Aliases) : Callback → Except FireError Callback
  | .aliased name =>
    match aliases.lookup name with
    | some target => if target.isAlias then .error (.unresolvedAlias name) else .ok target
    | none => .error (.unresolvedAlias name)
  | c => .ok c

variable {α : Type}

/-- The handler that is run for a callback. -/
def Handlers.handlerFor (h : Handlers α) (aliases : Aliases) (c : Callback) :
    Except FireError (RouteMatch → α) := do
  let target ← c.concrete aliases
  match h.find? target with
  | some run => .ok run
  | none => .error (.unresolvedHandler target.text)

/-- The answer of the handler of a match. -/
def RouteMatch.fire (m : RouteMatch) (h : Handlers α) (aliases : Aliases) : Except FireError α := do
  let run ← h.handlerFor aliases m.route.callback
  .ok (run m)

end PathRouter

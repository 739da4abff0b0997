import PathRouter.Registry
import PathRouter.Table.Basic

/-!
# Dispatch

A raw path is dispatched by resolving it and firing the match.
-/

namespace PathRouter

/-- Why a path is not dispatched. -/
inductive DispatchError where
  | unset (slot : Slot)
  | fire (cause : FireError)
deriving DecidableEq, Repr

/-- The wording of an error. -/
def DispatchError.message : DispatchError → String
  | unset slot => slot.message
  | fire cause => cause.message

/-- The match of a raw path and the answer of its handler. -/
def Table.dispatch {α : Type} (t : Table) (handlers : Handlers α) (aliases : Aliases)
    (raw : String) :
    Except DispatchError α := do
  let m ← (t.resolve raw).mapError DispatchError.unset
  (m.fire handlers aliases).mapError DispatchError.fire

end PathRouter

import PathRouter.Json.Basic
import PathRouter.Text.Blank
import PathRouter.Text.Pieces

/-!
# Callbacks

What a route dispatches to is given by name: a function, a method of a class, or an alias for one of
them. A callback has a text form, `name`, `Class::method` or `@alias`, and a form as a JSON value.
-/

namespace PathRouter

/-- What a route dispatches to. -/
inductive Callback where
  | direct (name : String)
  | method (className methodName : String)
  | aliased (name : String)
deriving DecidableEq, Repr

namespace Callback

/-- The callback that a text names. Blanks around the text do not count; a class and a method have
to be there on both sides of the first `::`, else the whole is the name of a function. -/
def ofText (written : String) : Callback :=
  let t := Text.trim written
  match t.toList with
  | '@' :: name => aliased (String.ofList name)
  | cs =>
    match Text.cutAt? [':', ':'] cs with
    | some (c :: cs, m :: ms) => method (String.ofList (c :: cs)) (String.ofList (m :: ms))
    | _ => direct t

/-- The text form of a callback. -/
def text : Callback → String
  | direct name => name
  | method className methodName => s!"{className}::{methodName}"
  | aliased name => s!"@{name}"

/-- Whether a callback is an alias. -/
def isAlias : Callback → Bool
  | aliased _ => true
  | _ => false

/-- The JSON form of a callback. -/
def toJson : Callback → Json
  | direct name => .record [("direct", .text name)]
  | method className methodName =>
    .record [("static_method", .record [("class", .text className), ("method", .text methodName)])]
  | aliased name => .record [("alias", .text name)]

/-- The callback with a JSON form. Fields of a method that are not known are passed over. -/
def ofJson? : Json → Option Callback
  | .record [("direct", .text name)] => some (direct name)
  | .record [("alias", .text name)] => some (aliased name)
  | .record [("static_method", .record fields)] => do
    let className ← (fields.lookup "class").bind Json.asText?
    let methodName ← (fields.lookup "method").bind Json.asText?
    some (method className methodName)
  | _ => none

end Callback

end PathRouter

import PathRouter.Text.Decimal

/-!
# JSON values

A number keeps the text it was written as, so that `1`, `1.0` and `1e0` stay apart. A record holds
its fields in the order in which their names first came up, each name once.
-/

namespace PathRouter

/-- A JSON value. -/
inductive Json where
  | null
  | flag (value : Bool)
  | number (written : String)
  | text (value : String)
  | list (items : List Json)
  | record (fields : List (String × Json))
deriving Inhabited

namespace Json

/-- The field of a record under a name. -/
def field? (key : String) : Json → Option Json
  | record fields => fields.lookup key
  | _ => none

/-- The whole number from 0 up to but not including `2 ^ 64` that is written with digits only. -/
def asUnsigned? : Json → Option Nat
  | number written => do
    let n ← Text.natural? written.toList
    if n < Nat.pow 2 64 then some n else none
  | _ => none

/-- The text of a text value. -/
def asText? : Json → Option String
  | text s => some s
  | _ => none

/-- The value of a truth value. -/
def asFlag? : Json → Option Bool
  | flag b => some b
  | _ => none

/-- The items of a list. -/
def asList? : Json → Option (List Json)
  | list items => some items
  | _ => none

/-- The fields of a record. -/
def asRecord? : Json → Option (List (String × Json))
  | record fields => some fields
  | _ => none

/-- A whole number as a value. -/
def ofNat (n : Nat) : Json := number (Text.digits n)

/-- A list of texts as a value. -/
def ofTexts (texts : List String) : Json := list (texts.map text)

end Json

end PathRouter

import PathRouter.Cache.Error
import PathRouter.Json.Reader

/-!
# Fields of cached records

Reading the required fields of a cached record, with the error that a missing or malformed one
gives.
-/

namespace PathRouter.Cache

/-- The fields of a record. -/
def recordFields (whole : CacheField) : Json → Except CacheError (List (String × Json))
  | .record fields => .ok fields
  | _ => .error (.malformed whole .notObject)

/-- A field that must be there. -/
def required (fields : List (String × Json)) (field : CacheField) : Except CacheError Json :=
  match fields.lookup field.name with
  | some v => .ok v
  | none => .error (.missing field)

/-- A value that must be there in the right shape. -/
def shaped {α : Type} (field : CacheField) (defect : Defect) : Option α → Except CacheError α
  | some a => .ok a
  | none => .error (.malformed field defect)

/-- A field that must be a text. -/
def requiredText (fields : List (String × Json)) (field : CacheField) :
    Except CacheError String := do
  let v ← required fields field
  shaped field .notText v.asText?

/-- A field that must be the version that is supported. -/
def requiredVersion (fields : List (String × Json)) (field : CacheField) (expected : Nat) :
    Except CacheError Unit := do
  let v ← required fields field
  let found ← shaped field .notUnsigned v.asUnsigned?
  if found = expected then .ok () else .error (.version found expected)

/-- The value that a cached text writes. -/
def readText (blob : String) : Except CacheError Json :=
  match Json.read? blob with
  | some v => .ok v
  | none => .error .notJson

end PathRouter.Cache

import PathRouter.Json.Basic
import PathRouter.Text.Lowercase

/-!
# Template segments

A segment of a route template is a literal or a parameter; a parameter may be of a type that
restricts its values. A segment has a text form and a form as a JSON value.
-/

namespace PathRouter

/-- Whether a segment stands for itself or binds a parameter. -/
inductive SegmentKind where
  | literal
  | param
deriving DecidableEq, Repr

/-- Which values a parameter takes: any, words of letters, digits and some marks, digits, or digits
and points. -/
inductive ValueType where
  | untyped
  | str
  | int
  | float
deriving DecidableEq, Repr

/-- One segment of a template: a literal with its text, or a parameter with its name. -/
structure Segment where
  kind : SegmentKind
  name : String
  type : ValueType := .untyped
deriving DecidableEq, Repr

namespace SegmentKind

/-- The word for a kind of segment. -/
def word : SegmentKind → String
  | literal => "static"
  | param => "dynamic"

/-- The kind of segment with a word. -/
def ofWord? (w : String) : Option SegmentKind :=
  if w = "static" then some literal else if w = "dynamic" then some param else none

end SegmentKind

namespace ValueType

/-- The word for a type of value. -/
def word : ValueType → String
  | untyped => "none"
  | str => "str"
  | int => "int"
  | float => "float"

/-- The type of value with a word. -/
def ofWord? (w : String) : Option ValueType :=
  if w = "none" then some untyped
  else if w = "str" then some str
  else if w = "int" then some int
  else if w = "float" then some float
  else none

/-- The type that a suffix in a template asks for, in any letter case. -/
def ofSuffix? (suffix : String) : Option ValueType :=
  let w := Text.asciiLowercase suffix
  if w = "str" ∨ w = "string" then some str
  else if w = "int" ∨ w = "integer" then some int
  else if w = "float" then some float
  else none

end ValueType

/-- The word for a choice without content: a text, or a record with the word as its only field and a
value that counts as nothing. -/
def Json.choice? (isNothing : Json → Bool) : Json → Option String
  | .text w => some w
  | .record [(w, v)] => if isNothing v then some w else none
  | _ => none

/-- Whether a JSON value is `null`. -/
def Json.isNull : Json → Bool
  | .null => true
  | _ => false

namespace Segment

/-- A literal segment. -/
def ofLiteral (text : String) : Segment := ⟨.literal, text, .untyped⟩

/-- A parameter. -/
def ofParam (name : String) (type : ValueType) : Segment := ⟨.param, name, type⟩

/-- Whether a segment binds a parameter. -/
def isParam (s : Segment) : Bool := s.kind == .param

/-- The text form of a segment. -/
def text (s : Segment) : String :=
  match s.kind, s.type with
  | .literal, _ => s.name
  | .param, .untyped => s!"${s.name}"
  | .param, type => s!"${s.name}:{type.word}"

/-- The JSON form of a segment. -/
def toJson (s : Segment) : Json :=
  .record [("kind", .text s.kind.word), ("name", .text s.name), ("value_type", .text s.type.word)]

/-- The segment with a kind, a name and perhaps a type, given as JSON values. -/
def ofParts? (kind name : Json) (type : Option Json) : Option Segment := do
  let kind ← (kind.choice? Json.isNull).bind SegmentKind.ofWord?
  let name ← name.asText?
  let type ← match type with
    | none => some .untyped
    | some t => (t.choice? Json.isNull).bind ValueType.ofWord?
  some ⟨kind, name, type⟩

/-- The segment with a JSON form: a record, whose unknown fields are passed over, or a list of a
kind, a name and perhaps a type. -/
def ofJson? : Json → Option Segment
  | .record fields => do
    let kind ← fields.lookup "kind"
    let name ← fields.lookup "name"
    ofParts? kind name (fields.lookup "value_type")
  | .list [kind, name] => ofParts? kind name none
  | .list [kind, name, type] => ofParts? kind name (some type)
  | _ => none

end Segment

end PathRouter

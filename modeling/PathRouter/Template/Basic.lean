import PathRouter.Template.Segment
import PathRouter.Text.Pieces

/-!
# Route templates

A template is read into segments (`Template.read`): the non-empty pieces between slashes, at least
one and at most as many as a limit allows. A piece that begins with `$` is a parameter, `$name` or
`$name:type`, and is neither the first piece nor named like an earlier parameter. `Template.text`
writes segments as a template.
-/

namespace PathRouter

/-- Why a template is refused. Positions count the segments from zero. A template that is well
formed always gets its matcher: that one could be refused for its size is left out. -/
inductive CompileError where
  | empty
  | leadingParam (template : String)
  | unnamedParam (template : String) (position : Nat)
  | duplicateParam (template name : String)
  | unsupportedType (name type : String)
  | tooManySegments (count limit : Nat)
deriving DecidableEq, Repr

/-- The wording of an error. -/
def CompileError.message : CompileError → String
  | empty => "route template is empty"
  | leadingParam template => s!"route template '{template}' must begin with a literal segment"
  | unnamedParam template position =>
    s!"route template '{template}' has an unnamed variable at segment {position}"
  | duplicateParam template name => s!"route template '{template}' binds '{name}' more than once"
  | unsupportedType name type => s!"unsupported segment type '{type}' for variable '{name}'"
  | tooManySegments count limit => s!"route template has {count} segments, limit is {limit}"

namespace Template

/-- The default for the number of segments that a template may have. -/
def defaultLimit : Nat := 15

/-- The name and the type of a parameter, from what stands behind its `$`. -/
def readParam (cs : List Char) : Except CompileError (String × ValueType) :=
  match Text.cutAt? [':'] cs with
  | none => .ok (String.ofList cs, .untyped)
  | some (name, suffix) =>
    match ValueType.ofSuffix? (String.ofList suffix) with
    | some type => .ok (String.ofList name, type)
    | none => .error (.unsupportedType (String.ofList name) (String.ofList suffix))

/-- Reads the piece of a template that comes after the segments `earlier`. -/
def readPiece (template : String) (earlier : List Segment) :
    List Char → Except CompileError Segment
  | '$' :: cs =>
    if earlier.isEmpty then .error (.leadingParam template)
    else do
      let (name, type) ← readParam cs
      if name.isEmpty then .error (.unnamedParam template earlier.length)
      else if earlier.any fun s => s.isParam && s.name == name then
        .error (.duplicateParam template name)
      else .ok (.ofParam name type)
  | cs => .ok (.ofLiteral (String.ofList cs))

/-- Reads the pieces of a template that come after the segments `earlier`. -/
def readPieces (template : String) (earlier : List Segment) :
    List (List Char) → Except CompileError (List Segment)
  | [] => .ok earlier
  | p :: ps => do
    let s ← readPiece template earlier p
    readPieces template (earlier ++ [s]) ps

/-- The segments of a template with at most `limit` of them. -/
def read (limit : Nat) (template : String) : Except CompileError (List Segment) :=
  let pieces := Text.segments template.toList
  if pieces.isEmpty then .error .empty
  else if limit < pieces.length then .error (.tooManySegments pieces.length limit)
  else readPieces template [] pieces

/-- Segments written as a template; no segment at all is written `/`. -/
def text : List Segment → String
  | [] => "/"
  | segments => "/".intercalate (segments.map Segment.text)

/-- The names of the parameters, in order. -/
def paramNames (segments : List Segment) : List String :=
  (segments.filter Segment.isParam).map Segment.name

end Template

end PathRouter

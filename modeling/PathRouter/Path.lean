import PathRouter.Text.Lowercase
import PathRouter.Text.Pieces

/-!
# Request paths

A raw request path is brought into a normal form: what follows the first `?` or `#` is cut off,
empty segments are dropped, and so are the segments of the base URL if the path begins with them up
to letter case. The normal form is a slash followed by the segments with slashes between them.
-/

namespace PathRouter.Path

/-- A raw path up to its query or fragment. -/
def location (raw : String) : String :=
  String.ofList (raw.toList.takeWhile fun c => c != '?' && c != '#')

/-- What is left of some segments without those of a base in front, if they begin with them up to
letter case. -/
def dropBase? : List String → List String → Option (List String)
  | [], segments => some segments
  | _ :: _, [] => none
  | b :: base, s :: segments =>
    if Text.lowercase s = Text.lowercase b then dropBase? base segments else none

/-- The segments of a raw path, without those of the base URL. -/
def segments (raw : String) (baseUrl : Option String) : List String :=
  let all := Text.segmentsOf (location raw)
  match baseUrl with
  | none => all
  | some base => (dropBase? (Text.segmentsOf base) all).getD all

/-- The path that some segments make. -/
def ofSegments (segments : List String) : String :=
  String.ofList ('/' :: Text.joined '/' (segments.map String.toList))

/-- The normal form of a raw path. -/
def normalize (raw : String) (baseUrl : Option String) : String :=
  ofSegments (segments raw baseUrl)

/-- The first segment of a path: what stands between its leading slashes and the next one. -/
def firstSegment? (path : String) : Option String :=
  match (path.toList.dropWhile (· == '/')).takeWhile (· != '/') with
  | [] => none
  | cs => some (String.ofList cs)

end PathRouter.Path

import PathRouter.Assoc
import PathRouter.Text.Pieces

/-!
# File trees

Files and folders, without links between them. A path is a text of names with slashes between them,
which leads on from the working folder, or from the outermost one if it begins with a slash. Every
name but the last has to lead to a folder, a point stays in a folder, and two points lead to the one
around it. A file that is written takes the time of the tree's clock; a new one is accessible. One
that is not can be neither read nor written, but another file can take its place: there is no file
that can be written and not read. The device below the files may fail while one of them is replaced.
-/

namespace PathRouter

/-- What is in a file, when it was last changed, and whether it can be read and written. -/
structure File where
  content : ByteArray
  modified : Nat
  isAccessible : Bool := true

/-- A file, or a folder with the time at which it was made. -/
inductive FileNode where
  | folder (made : Nat)
  | file (f : File)

/-- Why something cannot be done with a path. -/
inductive FileError where
  | notFound
  | alreadyExists
  | isADirectory
  | notADirectory
  | permissionDenied
  | invalidData
  | device (word : String)
deriving DecidableEq, Repr

/-- The word for an error. One of the device has its own, such as `StorageFull`. -/
def FileError.word : FileError → String
  | notFound => "NotFound"
  | alreadyExists => "AlreadyExists"
  | isADirectory => "IsADirectory"
  | notADirectory => "NotADirectory"
  | permissionDenied => "PermissionDenied"
  | invalidData => "InvalidData"
  | device word => word

/-- How the device fails while a file is replaced: the temporary file is not opened, or it is given
up with so many bytes in it, at the latest when it would take the place of the other file. -/
inductive Fault where
  | opening (cause : FileError)
  | writing (cause : FileError) (taken : Nat)
deriving DecidableEq, Repr

/-- A place: the names that lead to it from the outermost folder. -/
abbrev Place := List String

/-- What there is, by place, the place of the working folder, the time, and how the device fails if
it does. -/
structure FileTree where
  nodes : List (Place × FileNode) := []
  working : Place := []
  clock : Nat := 0
  fault : Option Fault := none

namespace FileTree

/-- The names between the slashes of a path; where no name stands, it is empty. -/
def namesOf (path : String) : List String := (Text.pieces '/' path.toList).map String.ofList

/-- What is at a place. The outermost folder is always there. -/
def node? (t : FileTree) (p : Place) : Option FileNode :=
  if p = [] then some (.folder 0) else t.nodes.lookup p

/-- The place that some names lead to from a folder. -/
def walk (t : FileTree) (here : Place) : List String → Except FileError Place
  | [] => .ok here
  | name :: names =>
    match t.node? here with
    | some (.folder _) =>
      if name = "." ∨ name = "" then walk t here names
      else if name = ".." then walk t here.dropLast names
      else walk t (here ++ [name]) names
    | some (.file _) => .error .notADirectory
    | none => .error .notFound

/-- The place that a path leads to. -/
def locate (t : FileTree) (path : String) : Except FileError Place :=
  if path.isEmpty then .error .notFound
  else t.walk (if path.startsWith "/" then [] else t.working) (namesOf path)

/-- Whether a path ends in a slash, so that it names a folder. -/
def namesFolder (path : String) : Bool := path.endsWith "/"

/-- A path without the slashes at its end. -/
def withoutEndSlashes (path : String) : String :=
  String.ofList (path.toList.reverse.dropWhile (· == '/')).reverse

/-- The place that a path leads to, where a folder need not be there yet. -/
def locateNew (t : FileTree) (path : String) : Except FileError Place :=
  let file := withoutEndSlashes path
  t.locate (if file.isEmpty then path else file)

/-- The content of a file. -/
def read (t : FileTree) (path : String) : Except FileError ByteArray := do
  match t.node? (← t.locate path) with
  | some (.file f) => if f.isAccessible then .ok f.content else .error .permissionDenied
  | some (.folder _) => .error .isADirectory
  | none => .error .notFound

/-- The content of a file that holds text. -/
def readText (t : FileTree) (path : String) : Except FileError String := do
  match String.fromUTF8? (← t.read path) with
  | some s => .ok s
  | none => .error .invalidData

/-- The tree with something put at a place. -/
def put (t : FileTree) (p : Place) (n : FileNode) : FileTree :=
  { t with nodes := Assoc.put p n t.nodes }

/-- The tree without what is at a place. -/
def erase (t : FileTree) (p : Place) : FileTree :=
  { t with nodes := t.nodes.filter fun q => q.1 != p }

/-- Writes a file, which is made if it is not there. -/
def write (t : FileTree) (path : String) (content : ByteArray) : Except FileError FileTree := do
  let p ← t.locateNew path
  match t.node? p with
  | some (.folder _) => .error .isADirectory
  | some (.file f) =>
    if namesFolder path then .error .notADirectory
    else if f.isAccessible then .ok (t.put p (.file { f with content, modified := t.clock }))
    else .error .permissionDenied
  | none =>
    if namesFolder path then .error .isADirectory
    else .ok (t.put p (.file ⟨content, t.clock, true⟩))

/-- Makes a folder. -/
def makeFolder (t : FileTree) (path : String) : Except FileError FileTree := do
  let p ← t.locateNew path
  match t.node? p with
  | some _ => .error .alreadyExists
  | none => .ok (t.put p (.folder t.clock))

/-- Removes a file. -/
def remove (t : FileTree) (path : String) : Except FileError FileTree := do
  let p ← t.locate path
  match t.node? p with
  | some (.file _) => .ok (t.erase p)
  | some (.folder _) => .error .isADirectory
  | none => .error .notFound

/-- Gives a file another path, where it replaces the file that is there. -/
def rename (t : FileTree) (path newPath : String) : Except FileError FileTree := do
  let p ← t.locate path
  match t.node? p with
  | some (.file f) =>
    let q ← t.locateNew newPath
    match t.node? q with
    | some (.folder _) => .error (if namesFolder newPath then .notADirectory else .isADirectory)
    | _ =>
      if namesFolder newPath then .error .notADirectory
      else .ok ((t.erase p).put q (.file f))
  | some (.folder _) => .error .isADirectory
  | none => .error .notFound

/-- Sets the time at which a file was last changed. -/
def touch (t : FileTree) (path : String) (time : Nat) : Except FileError FileTree := do
  let p ← t.locate path
  match t.node? p with
  | some (.file f) => .ok (t.put p (.file { f with modified := time }))
  | some (.folder _) => .error .isADirectory
  | none => .error .notFound

/-- The time at which a file or folder was last changed. -/
def modified? (t : FileTree) (path : String) : Option Nat :=
  match t.locate path with
  | .error _ => none
  | .ok p =>
    match t.node? p with
    | some (.file f) => some f.modified
    | some (.folder made) => some made
    | none => none

/-- The names in the working folder, in ascending order. -/
def names (t : FileTree) : List String :=
  (Assoc.sorted (t.nodes.filterMap fun q =>
    match q.1.getLast? with
    | some name => if q.1.dropLast = t.working then some (name, ()) else none
    | none => none)).map (·.1)

/-- The path with another ending behind the last point of its last name, unless that point is the
first character. A path that ends in no name stays as it is. -/
def withEnding (ending path : String) : String :=
  let names := ((namesOf path).reverse.dropWhile fun n => n = "" ∨ n = ".").reverse
  match names.getLast? with
  | none | some ".." => path
  | some name =>
    let behind := (name.toList.reverse.takeWhile (· != '.')).length
    let stem := String.ofList (name.toList.take (name.length - behind - 1))
    let stem := if stem.isEmpty then name else stem
    "/".intercalate (names.dropLast ++ [s!"{stem}.{ending}"])

/-- The beginning of a content that the device takes. -/
def taken (t : FileTree) (content : ByteArray) : ByteArray :=
  match t.fault with
  | some (.writing _ taken) => content.extract 0 taken
  | _ => content

/-- Replaces a file by way of another one beside it, whose name ends in `tmp`. The tree is given
back also if that fails: the other file may be there then, with a part of the content. -/
def replaceText (t : FileTree) (path content : String) : Except FileError Unit × FileTree :=
  let temporary := withEnding "tmp" path
  match t.write temporary (t.taken content.toUTF8) with
  | .error e => (.error e, t)
  | .ok t' =>
    match t.fault with
    | some (.opening e) => (.error e, t)
    | some (.writing e _) => (.error e, t')
    | none =>
      match t'.rename temporary path with
      | .error e => (.error e, t')
      | .ok t'' => (.ok (), t'')

/-- The text of a file, or nothing if there is no such file. -/
def readText? (t : FileTree) (path : String) : Except FileError (Option String) :=
  match t.readText path with
  | .ok s => .ok (some s)
  | .error .notFound => .ok none
  | .error e => .error e

end FileTree

end PathRouter

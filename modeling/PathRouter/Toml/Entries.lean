import PathRouter.Assoc
import PathRouter.Json.Basic

/-!
# TOML tables

While a document is read, a table remembers how it came about (`Origin`): by a heading of its own or
in braces, as a part of the heading of another table, or as a part of a dotted key. A table takes a
heading once, and only if no dotted key made it; a dotted key goes through tables that have no
heading, and ends in one that dotted keys made.
-/

namespace PathRouter.Toml

/-- How a table came about. -/
inductive Origin where
  | own
  | heading
  | dotted
deriving DecidableEq, Repr

/-- What stands under a key: a value, a table, or a list of tables with headings. -/
inductive Node where
  | value (v : Json)
  | table (origin : Origin) (entries : List (String × Node))
  | tables (items : List (List (String × Node)))

/-- The contents of a table. -/
abbrev Entries := List (String × Node)

mutual

/-- The value of what stands under a key. -/
def Node.toJson : Node → Json
  | .value v => v
  | .table _ entries => .record (fieldsOf entries)
  | .tables items => .list (recordsOf items)

/-- The fields of a table. -/
def fieldsOf : List (String × Node) → List (String × Json)
  | [] => []
  | (key, node) :: entries => (key, node.toJson) :: fieldsOf entries

/-- The values of a list of tables. -/
def recordsOf : List (List (String × Node)) → List Json
  | [] => []
  | entries :: items => .record (fieldsOf entries) :: recordsOf items

end

namespace Entries

/-- The entries with one more, if its key is new. -/
def add? (key : String) (node : Node) (es : Entries) : Option Entries :=
  match es.lookup key with
  | none => some (es ++ [(key, node)])
  | some _ => none

/-- The list with its last item changed. -/
def changeLast? {α : Type} (f : α → Option α) (as : List α) : Option (List α) := do
  let last ← as.getLast?
  let last ← f last
  some (as.dropLast ++ [last])

/-- The entries with a value under a dotted key, given as its first part and the others. -/
def insert? (v : Json) : String → List String → Entries → Option Entries
  | key, [], es => es.add? key (.value v)
  | key, next :: path, es =>
    match es.lookup key with
    | none => do
      let sub ← insert? v next path []
      es.add? key (.table .dotted sub)
    | some (.table origin sub) =>
      if origin = .own ∨ (path.isEmpty ∧ origin ≠ .dotted) then none
      else (insert? v next path sub).map fun sub => Assoc.put key (.table origin sub) es
    | some (.tables items) =>
      if path.isEmpty then none
      else (changeLast? (insert? v next path) items).map fun items =>
        Assoc.put key (.tables items) es
    | some (.value _) => none

/-- The entries with the table under a path changed; a list of tables stands for its last one, and
tables that are missing are made. -/
def changeAt? (f : Entries → Option Entries) : List String → Entries → Option Entries
  | [], es => f es
  | key :: path, es =>
    match es.lookup key with
    | none => do
      let sub ← changeAt? f path []
      es.add? key (.table .heading sub)
    | some (.table origin sub) =>
      (changeAt? f path sub).map fun sub => Assoc.put key (.table origin sub) es
    | some (.tables items) =>
      (changeLast? (changeAt? f path) items).map fun items => Assoc.put key (.tables items) es
    | some (.value _) => none

/-- The entries in which a table takes its heading. -/
def openTable? (key : String) (es : Entries) : Option Entries :=
  match es.lookup key with
  | none => es.add? key (.table .own [])
  | some (.table .heading sub) => some (Assoc.put key (.table .own sub) es)
  | some _ => none

/-- The entries in which a list of tables gets one more. -/
def openItem? (key : String) (es : Entries) : Option Entries :=
  match es.lookup key with
  | none => es.add? key (.tables [[]])
  | some (.tables items) => some (Assoc.put key (.tables (items ++ [[]])) es)
  | some _ => none

end Entries

end PathRouter.Toml

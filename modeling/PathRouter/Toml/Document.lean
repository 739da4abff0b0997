import PathRouter.Toml.Value

/-!
# TOML documents

A document is read line by line: blank lines and comments, headings of tables and of items of lists
of tables, and keys with values, which belong to the table of the last heading. A byte order mark in
front is passed over.
-/

namespace PathRouter.Toml

/-- What was read of a document, and the path of the table that keys go into. -/
structure Reading where
  root : Entries := []
  path : List String := []

namespace Reading

/-- Reads a heading: the table under its path takes it. -/
def heading? (r : Reading) (isItem : Bool) (cs : List Char) : Option (Reading × List Char) := do
  let ((name, names), rest) ← key? cs
  let rest ← after? ']' rest
  let rest ← if isItem then after? ']' rest else some rest
  let rest ← endLine? rest
  let path := name :: names
  let key := path.getLast (List.cons_ne_nil name names)
  let takes := if isItem then Entries.openItem? key else Entries.openTable? key
  let root ← r.root.changeAt? takes path.dropLast
  some (⟨root, path⟩, rest)

/-- Reads a key with its value. -/
def entry? (r : Reading) (cs : List Char) : Option (Reading × List Char) := do
  let ((name, names), rest) ← keyBeforeValue? cs
  let (v, rest) ← value? rest
  let rest ← endLine? rest
  let root ← r.root.changeAt? (Entries.insert? v name names) r.path
  some ({ r with root }, rest)

/-- Reads a line. -/
def step (r : Reading) (cs : List Char) : Option ((Reading ⊕ Json) × List Char) :=
  match dropSpaces cs with
  | [] => some (.inr (.record (fieldsOf r.root)), [])
  | '#' :: rest => (endLine? ('#' :: rest)).map fun rest => (.inl r, rest)
  | '\n' :: rest | '\r' :: '\n' :: rest => some (.inl r, rest)
  | '[' :: '[' :: rest => (r.heading? true rest).map fun (r, rest) => (.inl r, rest)
  | '[' :: rest => (r.heading? false rest).map fun (r, rest) => (.inl r, rest)
  | cs => (r.entry? cs).map fun (r, rest) => (.inl r, rest)

end Reading

/-- The record that a document writes. -/
def read? (s : String) : Option Json :=
  let cs := match s.toList with
    | '\ufeff' :: cs => cs
    | cs => cs
  (Text.iterate Reading.step {} cs).map (·.1)

end PathRouter.Toml

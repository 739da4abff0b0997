import PathRouter.Toml.Entries
import PathRouter.Toml.Moment
import PathRouter.Toml.Number
import PathRouter.Toml.Quoted

/-!
# Keys and values in TOML

A key is a list of names with points between them. A value is a text, a number, a moment, a truth
value, a list in brackets or a table in braces; lists may go over several lines and end with a
comma, tables may not. Values are read with a stack of the lists and tables that are open.
-/

namespace PathRouter.Toml

/-- How many parts a key may not have, and how deep values may not nest. -/
def depthLimit : Nat := 80

/-- Whether a character can stand in a name without quotation marks. -/
def isBare (c : Char) : Bool :=
  Text.isDigit c || ('a' ≤ c && c ≤ 'z') || ('A' ≤ c && c ≤ 'Z') || c == '-' || c == '_'

/-- One name of a key, and what follows. -/
def name? (cs : List Char) : Option (String × List Char) :=
  match cs with
  | '"' :: _ | '\x27' :: _ => lineText? cs
  | _ =>
    match cs.takeWhile isBare with
    | [] => none
    | ds => some (String.ofList ds, cs.drop ds.length)

/-- Takes a name of a key and the point behind it, if there is one. -/
def keyStep (names : List String) (cs : List Char) :
    Option ((List String ⊕ List String) × List Char) := do
  let (name, rest) ← name? (dropSpaces cs)
  match dropSpaces rest with
  | '.' :: rest => some (.inl (names ++ [name]), rest)
  | rest => some (.inr (names ++ [name]), rest)

/-- A key as its first name and the others, and what follows. -/
def key? (cs : List Char) : Option ((String × List String) × List Char) := do
  let (names, rest) ← Text.iterate keyStep [] cs
  match names with
  | [] => none
  | name :: path => if names.length < depthLimit then some ((name, path), rest) else none

/-- A key with the equals sign behind it. -/
def keyBeforeValue? (cs : List Char) : Option ((String × List String) × List Char) := do
  let (key, rest) ← key? cs
  let rest ← after? '=' rest
  some (key, rest)

/-- A value without parts, and what follows. -/
def scalar? (cs : List Char) : Option (Json × List Char) :=
  match cs with
  | '"' :: _ | '\x27' :: _ => (text? cs).map fun (s, rest) => (.text s, rest)
  | 't' :: 'r' :: 'u' :: 'e' :: rest => some (.flag true, rest)
  | 'f' :: 'a' :: 'l' :: 's' :: 'e' :: rest => some (.flag false, rest)
  | cs =>
    match moment? cs with
    | some r => some r
    | none => number? cs

/-- A list that is open, with its items backwards, or a table, with the key that waits for its
value. -/
inductive Frame where
  | list (items : List Json)
  | table (entries : Entries) (key : String × List String)

/-- What comes next: a value, an item or the end of a list, or a key of a table with what is in it,
and perhaps its end. -/
inductive Next where
  | value
  | item (items : List Json)
  | key (entries : Entries) (mayEnd : Bool)

/-- What comes next, and the lists and tables around it. -/
structure Progress where
  next : Next
  stack : List Frame

/-- Puts a complete value into what is open around it. -/
def finish (v : Json) : List Frame → List Char → Option ((Progress ⊕ Json) × List Char)
  | [], cs => some (.inr v, cs)
  | .list items :: stack, cs =>
    match dropGaps false cs with
    | ',' :: rest => some (.inl ⟨.item (v :: items), stack⟩, rest)
    | ']' :: rest => finish (.list (v :: items).reverse) stack rest
    | _ => none
  | .table entries (name, path) :: stack, cs => do
    let entries ← entries.insert? v name path
    match dropSpaces cs with
    | ',' :: rest => some (.inl ⟨.key entries false, stack⟩, rest)
    | '\x7d' :: rest => finish (.record (fieldsOf entries)) stack rest
    | _ => none

/-- Begins a value inside what is open. -/
def begin? (stack : List Frame) (cs : List Char) : Option ((Progress ⊕ Json) × List Char) :=
  match cs with
  | '[' :: rest =>
    if stack.length + 1 < depthLimit then some (.inl ⟨.item [], stack⟩, rest) else none
  | '\x7b' :: rest =>
    if stack.length + 1 < depthLimit then some (.inl ⟨.key [] true, stack⟩, rest) else none
  | cs => do
    let (v, rest) ← scalar? cs
    finish v stack rest

/-- Takes the next part of a value. -/
def valueStep (p : Progress) (cs : List Char) : Option ((Progress ⊕ Json) × List Char) :=
  match p.next with
  | .value => begin? p.stack (dropSpaces cs)
  | .item items =>
    match dropGaps false cs with
    | ']' :: rest => finish (.list items.reverse) p.stack rest
    | cs => begin? (.list items :: p.stack) cs
  | .key entries mayEnd =>
    match mayEnd, dropSpaces cs with
    | true, '\x7d' :: rest => finish (.record (fieldsOf entries)) p.stack rest
    | _, cs => do
      let (key, rest) ← keyBeforeValue? cs
      some (.inl ⟨.value, .table entries key :: p.stack⟩, rest)

/-- A value, and what follows. -/
def value? (cs : List Char) : Option (Json × List Char) := Text.iterate valueStep ⟨.value, []⟩ cs

end PathRouter.Toml

import PathRouter.Pattern.Escape
import PathRouter.Text.Reading

/-!
# Sets in brackets

`[…]` is the set of the characters, ranges, named sets and inner brackets between the brackets, or
its complement if a `^` comes first. `&&`, `--` and `~~` join what stands on their left to what
stands on their right. Under the setting for letter case a set is closed under case before it is
joined or complemented.

`height` counts how deep brackets, lists of items and operations stand inside each other.
-/

namespace PathRouter.Pattern

/-- The operations on sets inside brackets. -/
inductive SetOp where
  | inter
  | diff
  | symmDiff
deriving DecidableEq, Repr

/-- The set that an operation gives. -/
def SetOp.apply : SetOp → CharSet → CharSet → CharSet
  | inter => CharSet.inter
  | diff => CharSet.diff
  | symmDiff => CharSet.symmDiff

/-- A set and its height. -/
structure Side where
  set : CharSet
  height : Nat

/-- The items read since the bracket was opened or the last operation. -/
structure Items where
  set : CharSet := CharSet.empty
  count : Nat := 0
  height : Nat := 0

/-- The items with one more. -/
def Items.add (u : Items) (s : CharSet) (height : Nat) : Items :=
  ⟨u.set.union s, u.count + 1, max u.height height⟩

/-- All items as one set. -/
def Items.side (u : Items) : Side := ⟨u.set, if u.count ≤ 1 then u.height else u.height + 1⟩

/-- A bracket that is open, with the operation that waits for its right side. -/
structure Bracket where
  negated : Bool
  left : Option (SetOp × Side)
  items : Items

/-- A set closed under case, if the settings ask for it. -/
def closeCase (f : Flags) (s : CharSet) : CharSet :=
  if f.ignoreCase then (if f.unicode then s.folded else s.asciiFolded) else s

namespace Bracket

/-- What was read in a bracket so far, as one set. -/
def side (f : Flags) (b : Bracket) : Side :=
  let r := b.items.side
  match b.left with
  | none => r
  | some (op, l) => ⟨op.apply (closeCase f l.set) (closeCase f r.set), max l.height r.height + 1⟩

/-- The set of a bracket. Without the Unicode setting it must hold ASCII characters only. -/
def close? (f : Flags) (b : Bracket) : Option Side :=
  let s := b.side f
  let closed := closeCase f s.set
  let set := if b.negated then closed.compl else closed
  if !f.unicode && !set.isAscii then none else some ⟨set, s.height⟩

/-- A bracket with one more item. -/
def add (b : Bracket) (s : CharSet) (height : Nat) : Bracket :=
  { b with items := b.items.add s height }

/-- A bracket after an operation. -/
def operate (f : Flags) (op : SetOp) (b : Bracket) : Bracket :=
  { b with left := some (op, b.side f), items := {} }

end Bracket

/-- The set that an atom stands for inside brackets. -/
def Atom.set? (f : Flags) : Atom → Option CharSet
  | .char c _ => if f.unicode || c.toNat < 128 then some (CharSet.single c) else none
  | .set s => if f.unicode || s.isAscii then some s else none
  | .look _ => none

/-- The character that an atom stands for at the end of a range. -/
def Atom.char? (f : Flags) : Atom → Option Char
  | .char c _ => if f.unicode || c.toNat < 128 then some c else none
  | _ => none

/-- Reads hyphens that stand for themselves at the start of a bracket. -/
def hyphens (f : Flags) (u : Items) : List Char → Option ((Items ⊕ Items) × List Char)
  | [] => none
  | '-' :: cs => some (.inl (u.add (CharSet.single '-') 0), skip f cs)
  | cs => some (.inr u, cs)

/-- Opens a bracket: a `^` or none, hyphens, and a closing bracket that stands for itself if nothing
is before it. -/
def openBracket? (f : Flags) (cs : List Char) : Option (Bracket × List Char) := do
  let (negated, cs) := match skip f cs with
    | '^' :: cs => (true, skip f cs)
    | cs => (false, cs)
  let (u, cs) ← Text.iterate (hyphens f) {} cs
  match cs with
  | ']' :: cs =>
    if u.count = 0 then
      match skip f cs with
      | [] => none
      | cs => some (⟨negated, none, u.add (CharSet.single ']') 0⟩, cs)
    else some (⟨negated, none, u⟩, ']' :: cs)
  | cs => some (⟨negated, none, u⟩, cs)

/-- A class of POSIX, `[:name:]` or `[:^name:]`, read after its first bracket. -/
def posixItem? (cs : List Char) : Option (CharSet × List Char) := do
  let cs ← match cs with
    | ':' :: cs => some cs
    | _ => none
  let (negated, cs) := match cs with
    | '^' :: cs => (true, cs)
    | cs => (false, cs)
  let s ← CharSet.posix? (String.ofList (cs.takeWhile (· != ':')))
  match cs.dropWhile (· != ':') with
  | ':' :: ']' :: rest => some (if negated then CharSet.compl s else s, rest)
  | _ => none

/-- Reads a character or an escape. -/
def atom? (f : Flags) : List Char → Option (Atom × List Char)
  | [] => none
  | '\\' :: cs => escape? f cs
  | c :: cs => some (.char c false, cs)

/-- Reads a character, a range or a named set. A hyphen makes a range unless a closing bracket or
another hyphen follows it. -/
def rangeItem? (f : Flags) (cs : List Char) : Option (CharSet × List Char) := do
  let (first, rest) ← atom? f cs
  match skip f rest with
  | [] => none
  | '-' :: after =>
    match skip f after with
    | [] => none
    | c :: after =>
      if c = ']' ∨ c = '-' then
        let s ← first.set? f
        some (s, skip f rest)
      else
        let (last, rest) ← atom? f (c :: after)
        let a ← first.char? f
        let b ← last.char? f
        if a ≤ b then some (CharSet.range a b, rest) else none
  | rest =>
    let s ← first.set? f
    some (s, rest)

/-- The operation that a text starts with. -/
def setOp? : List Char → Option (SetOp × List Char)
  | '&' :: '&' :: cs => some (.inter, cs)
  | '-' :: '-' :: cs => some (.diff, cs)
  | '~' :: '~' :: cs => some (.symmDiff, cs)
  | _ => none

/-- Takes one item, operation or bracket inside a bracket. The brackets around it are given from the
inside out. -/
def bracketStep (f : Flags) (open_ : Bracket × List Bracket) (cs : List Char) :
    Option (((Bracket × List Bracket) ⊕ Side) × List Char) :=
  let (b, around) := open_
  match skip f cs with
  | [] => none
  | '[' :: cs =>
    match posixItem? cs with
    | some (s, rest) => some (.inl (b.add s 0, around), rest)
    | none => (openBracket? f cs).map fun (inner, rest) => (.inl (inner, b :: around), rest)
  | ']' :: cs => do
    let s ← b.close? f
    match around with
    | [] => some (.inr ⟨s.set, s.height + 1⟩, cs)
    | o :: around => some (.inl (o.add s.set (s.height + 1), around), cs)
  | cs =>
    match setOp? cs with
    | some (op, rest) => some (.inl (b.operate f op, around), rest)
    | none => (rangeItem? f cs).map fun (s, rest) => (.inl (b.add s 0, around), rest)

/-- Reads a set in brackets after its first bracket. -/
def bracket? (f : Flags) (cs : List Char) : Option (Side × List Char) := do
  let (b, rest) ← openBracket? f cs
  Text.iterate (bracketStep f) (b, []) rest

end PathRouter.Pattern

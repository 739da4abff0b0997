import PathRouter.Pattern.Bracket

/-!
# Reading patterns

A pattern is read from left to right (`Progress.step`). `Level` holds the branches and items of the
innermost open group, and the groups around it wait in `Progress.around`. A setting that is switched
inside a group holds up to the end of that group.

A group has a number and perhaps a name, which no other group has; groups whose pattern is repeated
zero times are left out. Patterns nest at most 250 deep.
-/

namespace PathRouter.Pattern

/-- A part of a branch: a pattern with its height, or a switch of settings, which cannot be
repeated. -/
inductive Item where
  | part (pattern : Pattern) (height : Nat)
  | switch

/-- The pattern of a part and its height. -/
def Item.part? : Item → Option (Pattern × Nat)
  | part p h => some (p, h)
  | switch => none

/-- The branches of a group that were read and the items of the branch being read, both backwards.
-/
structure Level where
  items : List Item := []
  branches : List (Pattern × Nat) := []

/-- A group that is open: what is around it, its number if it has one, and the settings around it.
-/
structure OpenGroup where
  level : Level
  index : Option Nat
  flags : Flags

/-- What was read of a pattern: the innermost open group, the groups around it from the inside out,
the settings in force, and the number and names of the groups opened so far. -/
structure Progress where
  level : Level := {}
  around : List OpenGroup := []
  flags : Flags := {}
  count : Nat := 0
  names : List String := []

namespace Level

/-- A level with one more item. -/
def add (l : Level) (i : Item) : Level := { l with items := i :: l.items }

/-- The branch being read, with its height. -/
def branch (l : Level) : Pattern × Nat :=
  let parts := l.items.reverse.filterMap Item.part?
  let height := parts.foldl (fun h p => max h p.2) 0
  (seqAll (parts.map (·.1)), if 1 < l.items.length then height + 1 else height)

/-- All branches as one pattern, with its height. -/
def close (l : Level) : Pattern × Nat :=
  match l.branches.reverse with
  | [] => l.branch
  | bs =>
    let bs := bs ++ [l.branch]
    (altAll (bs.map (·.1)), bs.foldl (fun h b => max h b.2) 0 + 1)

/-- The last item repeated. -/
def repeat? (l : Level) (least : Nat) (most : Option Nat) (greedy : Bool) : Option Level :=
  match l.items with
  | .part p h :: items =>
    let q := if most = some 0 then empty else repeated least most greedy p
    some { l with items := .part q (h + 1) :: items }
  | _ => none

end Level

/-- The pattern of a character. -/
def charPattern? (f : Flags) (c : Char) (isByte : Bool) : Option Pattern :=
  if !f.unicode && isByte && 128 ≤ c.toNat then none
  else some (one (closeCase f (CharSet.single c)))

/-- The pattern of an atom. -/
def Atom.pattern? (f : Flags) : Atom → Option Pattern
  | .char c isByte => charPattern? f c isByte
  | .set s => if f.unicode || s.isAscii then some (one s) else none
  | .look condition => some (Pattern.look condition)

/-- The pattern of a dot: any character but the end of a line, unless the settings allow that too.
-/
def dotPattern? (f : Flags) : Option Pattern :=
  if !f.unicode then none
  else if f.dotAll then some (one CharSet.all)
  else if f.crlf then some (one (CharSet.ofText "\r\n").compl)
  else some (one (CharSet.single '\n').compl)

/-- A setting switched on or off by its letter. -/
def Flags.set? (f : Flags) (letter : Char) (on : Bool) : Option Flags :=
  if letter = 'i' then some { f with ignoreCase := on }
  else if letter = 'm' then some { f with multiLine := on }
  else if letter = 's' then some { f with dotAll := on }
  else if letter = 'U' then some { f with swapGreed := on }
  else if letter = 'u' then some { f with unicode := on }
  else if letter = 'R' then some { f with crlf := on }
  else if letter = 'x' then some { f with verbose := on }
  else none

/-- Reads the letters of settings up to a colon or closing bracket, which is given back with the
settings and the letters read. No letter and no hyphen comes twice, and a hyphen, behind which
settings are switched off, is not the last of them. -/
def switches? (f : Flags) (seen : List Char) :
    List Char → Option (Flags × List Char × Char × List Char)
  | [] => none
  | c :: cs =>
    if c = ':' ∨ c = ')' then
      if seen.head? = some '-' then none else some (f, seen, c, cs)
    else if seen.contains c then none
    else if c = '-' then switches? f (c :: seen) cs
    else do
      let f ← f.set? c (!seen.contains '-')
      switches? f (c :: seen) cs

/-- Whether a character can stand in the name of a group. -/
def isNameChar (isFirst : Bool) (c : Char) : Bool :=
  c == '_' || Text.isAlphabetic c ||
    (!isFirst && (c == '.' || c == '[' || c == ']' || Text.isNumeric c))

/-- The name of a group, up to its closing angle. -/
def groupName? (cs : List Char) : Option (String × List Char) :=
  match cs.takeWhile (· != '>'), cs.dropWhile (· != '>') with
  | c :: name, _ :: rest =>
    if isNameChar true c && name.all (isNameChar false) then some (String.ofList (c :: name), rest)
    else none
  | _, _ => none

namespace Progress

/-- Opens a group. -/
def openGroup (p : Progress) (index : Option Nat) (flags : Flags) : Progress :=
  { p with level := {}, around := ⟨p.level, index, p.flags⟩ :: p.around, flags }

/-- Opens a group that takes what it matches. -/
def openCapture (p : Progress) (names : List String) : Progress :=
  { p.openGroup (some (p.count + 1)) p.flags with count := p.count + 1, names }

/-- Reads what follows an opening bracket: the name of a group, settings for a group or for what is
left of the one around it, or nothing. Groups that look ahead or behind are refused. -/
def open? (p : Progress) (cs : List Char) : Option (Progress × List Char) :=
  match skip p.flags cs with
  | '?' :: '=' :: _ | '?' :: '!' :: _ | '?' :: '<' :: '=' :: _ | '?' :: '<' :: '!' :: _ => none
  | '?' :: 'P' :: '<' :: cs | '?' :: '<' :: cs => do
    let (name, rest) ← groupName? cs
    if p.names.contains name then none else some (p.openCapture (name :: p.names), rest)
  | '?' :: cs => do
    let (flags, seen, stop, rest) ← switches? p.flags [] cs
    if stop = ':' then some (p.openGroup none flags, rest)
    else if seen.isEmpty then none
    else some ({ p with level := p.level.add .switch, flags }, rest)
  | cs => some (p.openCapture p.names, cs)

/-- Closes the innermost group. -/
def close? (p : Progress) : Option Progress :=
  match p.around with
  | [] => none
  | g :: around =>
    let (body, height) := p.level.close
    let q := match g.index with
      | some i => group i body
      | none => body
    some { p with level := g.level.add (.part q (height + 1)), around, flags := g.flags }

/-- Repeats the last item; `?` after the count takes the other preference. -/
def repeat? (p : Progress) (least : Nat) (most : Option Nat) (lazy : Bool) : Option Progress :=
  (p.level.repeat? least most (lazy == p.flags.swapGreed)).map fun level => { p with level }

/-- Adds an item of height zero. -/
def addPattern (p : Progress) (q : Option Pattern) : Option Progress :=
  q.map fun q => { p with level := p.level.add (.part q 0) }

end Progress

/-- Takes a `?` off the front of a text. -/
def lazyMark : List Char → Bool × List Char
  | '?' :: cs => (true, cs)
  | cs => (false, cs)

/-- Takes one digit of a count. -/
def countStep (f : Flags) (digits : List Char) :
    List Char → Option ((List Char ⊕ List Char) × List Char)
  | [] => some (.inr digits, [])
  | c :: cs =>
    if Text.isDigit c then some (.inl (digits ++ [c]), skip f cs) else some (.inr digits, c :: cs)

/-- A count below `2 ^ 32`, with blanks around it. -/
def count? (f : Flags) (cs : List Char) : Option (Nat × List Char) := do
  let (digits, rest) ← Text.iterate (countStep f) [] (cs.dropWhile Text.isBlank)
  let n ← Text.natural? digits
  if n < Nat.pow 2 32 then some (n, skip f (rest.dropWhile Text.isBlank)) else none

/-- The counts between braces, read after the first brace. -/
def counts? (f : Flags) (cs : List Char) : Option ((Nat × Option Nat) × List Char) := do
  let (least, rest) ← count? f (skip f cs)
  let (most, rest) ← match rest with
    | ',' :: cs =>
      match skip f cs with
      | '\x7d' :: cs => some (none, '\x7d' :: cs)
      | cs => (count? f cs).map fun (n, rest) => (some n, rest)
    | cs => some (some least, cs)
  match rest with
  | '\x7d' :: cs => if most.all (least ≤ ·) then some ((least, most), skip f cs) else none
  | _ => none

/-- Takes one item, operator or bracket of a pattern. -/
def Progress.step (p : Progress) (cs : List Char) :
    Option ((Progress ⊕ (Pattern × Nat)) × List Char) :=
  match skip p.flags cs with
  | [] => if p.around.isEmpty then some (.inr p.level.close, []) else none
  | c :: cs =>
    if c = '(' then (p.open? cs).map fun (p, rest) => (.inl p, rest)
    else if c = ')' then p.close?.map fun p => (.inl p, cs)
    else if c = '|' then
      some (.inl { p with level := ⟨[], p.level.branch :: p.level.branches⟩ }, cs)
    else if c = '[' then
      (bracket? p.flags cs).map fun (s, rest) =>
        (.inl { p with level := p.level.add (.part (one s.set) s.height) }, rest)
    else if c = '?' ∨ c = '*' ∨ c = '+' then
      let (lazy, rest) := lazyMark cs
      (p.repeat? (if c = '+' then 1 else 0) (if c = '?' then some 1 else none) lazy).map
        fun p => (.inl p, rest)
    else if c = '\x7b' then do
      let ((least, most), rest) ← counts? p.flags cs
      let (lazy, rest) := lazyMark rest
      (p.repeat? least most lazy).map fun p => (.inl p, rest)
    else if c = '\\' then do
      let (a, rest) ← escape? p.flags cs
      (p.addPattern (a.pattern? p.flags)).map fun p => (.inl p, rest)
    else
      let q :=
        if c = '.' then dotPattern? p.flags
        else if c = '^' then
          some (look (if p.flags.multiLine then .lineStart p.flags.crlf else .textStart))
        else if c = '$' then
          some (look (if p.flags.multiLine then .lineEnd p.flags.crlf else .textEnd))
        else charPattern? p.flags c false
      (p.addPattern q).map fun p => (.inl p, cs)

/-- How deep the parts of a pattern may stand inside each other. -/
def maxHeight : Nat := 250

/-- The pattern that a text writes. -/
def read? (s : String) : Option Pattern := do
  let ((q, height), _) ← Text.iterate Progress.step {} s.toList
  if height ≤ maxHeight then some q else none

end PathRouter.Pattern

import PathRouter.Pattern.Basic

/-!
# Matching

`Pattern.run` lists the ways in which a pattern can match from a position on, the preferred one
first: alternatives from left to right, greedy repetitions with more rounds before fewer. Two ways
that end at the same position cannot differ in what follows, so that only the first of them is kept
where branches meet (`merged`). `Pattern.search` takes the first way at the leftmost position that
has one.

A round of an unbounded repetition that takes no character is the last one, which bounds the rounds
by the characters left. Rounds that come to a position where earlier rounds have been are not
followed again (`Scan.explore`).
-/

namespace PathRouter

/-- The first so many characters of a text. -/
structure Span where
  text : List Char
  length : Nat

/-- The characters of a span. -/
def Span.value (x : Span) : String := String.ofList (x.text.take x.length)

/-- How many characters a match has taken so far, the character before its position and the text
after it, and what the groups have taken on the way, the latest first. -/
structure Scan where
  position : Nat
  before : Option Char
  rest : List Char
  taken : List (Nat × Span)

namespace LookAround

/-- Whether there is a character of a word. -/
def isWordChar (unicode : Bool) : Option Char → Bool
  | none => false
  | some c => if unicode then Text.isWord c else CharSet.asciiWord c

/-- Whether a condition holds between the character before a position and the one after it. -/
def holds (before after : Option Char) : LookAround → Bool
  | textStart => before.isNone
  | textEnd => after.isNone
  | lineStart false => before.isNone || before == some '\n'
  | lineStart true =>
    before.isNone || before == some '\n' || (before == some '\r' && after != some '\n')
  | lineEnd false => after.isNone || after == some '\n'
  | lineEnd true =>
    after.isNone || after == some '\r' || (after == some '\n' && before != some '\r')
  | word edge unicode =>
    let l := isWordChar unicode before
    let r := isWordChar unicode after
    match edge with
    | .any => l != r
    | .no => l == r
    | .start => !l && r
    | .stop => l && !r
    | .startHalf => !l
    | .stopHalf => !r

end LookAround

namespace Scan

/-- The scans of a list without those that end where an earlier one ends. -/
def firstPerEnd (seen : List Nat) : List Scan → List Scan
  | [] => []
  | t :: ts =>
    if seen.contains t.position then firstPerEnd seen ts
    else t :: firstPerEnd (t.position :: seen) ts

/-- The scans of several branches, the earlier branches preferred. Where there is more than one
branch, one scan is kept for each end. -/
def merged : List (List Scan) → List Scan
  | [ts] => ts
  | branches => firstPerEnd [] branches.flatten

/-- The branch that is preferred and the other one. -/
def choose (first : Bool) (ts us : List Scan) : List Scan :=
  if first then ts ++ us else us ++ ts

/-- One round more after each of some scans. -/
def next (step : Scan → List Scan) (ts : List Scan) : List Scan := merged (ts.map step)

/-- Exactly so many rounds. -/
def exactly (step : Scan → List Scan) (n : Nat) (s : Scan) : List Scan := n.repeat (next step) [s]

/-- At most so many rounds. -/
def atMost (step : Scan → List Scan) (greedy : Bool) : Nat → Scan → List Scan
  | 0, s => [s]
  | n + 1, s => choose greedy (merged ((step s).map (atMost step greedy n))) [s]

/-- Adds the ways that any number of rounds lead to, each of which takes a character, to those
found before, the latest first; at most `n` rounds, for a text of at most `n` characters. -/
def explore (step : Scan → List Scan) (greedy : Bool) : Nat → List Scan → Scan → List Scan
  | 0, found, s => if found.any (·.position == s.position) then found else s :: found
  | n + 1, found, s =>
    if found.any (·.position == s.position) then found
    else
      let next := (step s).filter fun t => s.position < t.position
      if greedy then s :: next.foldl (explore step greedy n) found
      else next.foldl (explore step greedy n) (s :: found)

/-- Any number of rounds, each of which takes a character. -/
def more (step : Scan → List Scan) (greedy : Bool) (s : Scan) : List Scan :=
  (explore step greedy s.rest.length [] s).reverse

/-- One round or more; a first round that takes no character is the only one. -/
def oneOrMore (step : Scan → List Scan) (greedy : Bool) (s : Scan) : List Scan :=
  merged ((step s).map fun t =>
    if s.position < t.position then more step greedy t else [t])

/-- From `least` rounds up to `most`. -/
def rounds (step : Scan → List Scan) (least : Nat) (most : Option Nat) (greedy : Bool) (s : Scan) :
    List Scan :=
  match most, least with
  | some m, _ => merged ((exactly step least s).map (atMost step greedy (m - least)))
  | none, 0 => choose greedy (oneOrMore step greedy s) [s]
  | none, n + 1 => merged ((exactly step n s).map (oneOrMore step greedy))

/-- What a group has taken last. -/
def value? (s : Scan) (i : Nat) : Option String :=
  (s.taken.lookup i).map Span.value

end Scan

namespace Pattern

/-- The ways to match from a position on, the preferred one first. -/
def run : Pattern → Scan → List Scan
  | empty, s => [s]
  | one set, s =>
    match s.rest with
    | [] => []
    | c :: cs => if set c then [⟨s.position + 1, some c, cs, s.taken⟩] else []
  | look condition, s => if condition.holds s.before s.rest.head? then [s] else []
  | seq p q, s => Scan.merged ((p.run s).map q.run)
  | alt p q, s => Scan.merged [p.run s, q.run s]
  | repeated least most greedy p, s => Scan.rounds p.run least most greedy s
  | group i p, s =>
    (p.run s).map fun t =>
      { t with taken := (i, ⟨s.rest, t.position - s.position⟩) :: t.taken }

/-- The preferred match at the leftmost position of a text that has one. -/
def search (p : Pattern) (before : Option Char) : List Char → Option Scan
  | [] => (p.run ⟨0, before, [], []⟩).head?
  | c :: cs =>
    match (p.run ⟨0, before, c :: cs, []⟩).head? with
    | some t => some t
    | none => p.search (some c) cs

/-- What the groups take in the first match of a text, in the order of their numbers, or nothing if
the text has no match. A group that takes no part has no value. -/
def captures? (p : Pattern) (s : String) : Option (List (Option String)) :=
  (p.search none s.toList).map fun t =>
    (List.range (p.groups.foldl max 0)).map fun i => t.value? (i + 1)

end Pattern

end PathRouter

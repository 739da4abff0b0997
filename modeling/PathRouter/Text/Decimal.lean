/-!
# Decimal numbers

Digits and the numbers they write: whole numbers below a power of two, truth values, and binary64
numbers. A decimal `coefficient · 10^exponent` becomes the nearest binary64 number, ties going to
the even neighbour; from `2^1024 - 2^970` on that is an infinity (`Decimal.isHuge`).
-/

namespace PathRouter.Text

/-- Whether a character is one of `0` to `9`. -/
def isDigit (c : Char) : Bool := '0' ≤ c && c ≤ '9'

/-- The number that a digit of some base up to sixteen stands for. -/
def hexValue? (c : Char) : Option Nat :=
  if isDigit c then some (c.toNat - '0'.toNat)
  else if 'a' ≤ c ∧ c ≤ 'f' then some (c.toNat - 'a'.toNat + 10)
  else if 'A' ≤ c ∧ c ≤ 'F' then some (c.toNat - 'A'.toNat + 10)
  else none

/-- The number that digits write in a base, after the digits of `acc`. -/
def ofDigitsFrom (base acc : Nat) : List Char → Nat
  | [] => acc
  | c :: cs => ofDigitsFrom base (acc * base + (hexValue? c).getD 0) cs

/-- The number that digits write in a base. -/
def ofDigits (base : Nat) (cs : List Char) : Nat := ofDigitsFrom base 0 cs

/-- One or more decimal digits, as a number. -/
def natural? (cs : List Char) : Option Nat :=
  if !cs.isEmpty && cs.all isDigit then some (ofDigits 10 cs) else none

/-- The decimal digits of a number. -/
def digits (n : Nat) : String := toString n

/-- A whole number below `2 ^ bits`: digits, after a plus sign or none. -/
def unsigned? (bits : Nat) (s : String) : Option Nat := do
  let n ← natural? (match s.toList with
    | '+' :: cs => cs
    | cs => cs)
  if n < Nat.pow 2 bits then some n else none

/-- A whole number from `-2 ^ (bits - 1)` up to but not including `2 ^ (bits - 1)`: digits, after a
sign or none. -/
def signed? (bits : Nat) (s : String) : Option Int := do
  match s.toList with
  | '-' :: cs =>
    let n ← natural? cs
    if n ≤ Nat.pow 2 (bits - 1) then some (-n) else none
  | cs =>
    let n ← natural? (match cs with
      | '+' :: cs => cs
      | cs => cs)
    if n < Nat.pow 2 (bits - 1) then some n else none

/-- The words `true` and `false`. -/
def flag? (s : String) : Option Bool :=
  if s = "true" then some true else if s = "false" then some false else none

/-- The number `coefficient · 10^exponent`, or its negative. -/
structure Decimal where
  negative : Bool
  coefficient : Nat
  exponent : Int
deriving DecidableEq, Repr

namespace Decimal

/-- The decimal with the digits `whole` before its point, `fraction` after it, and a power of ten.
-/
def ofParts (negative : Bool) (whole fraction : List Char) (power : Int) : Decimal :=
  ⟨negative, ofDigits 10 (whole ++ fraction), power - fraction.length⟩

/-- The exponent of ten of the first digit, counted from one for `1` to `9`. -/
def magnitude (d : Decimal) : Int := (toString d.coefficient).length + d.exponent

/-- Whether the nearest binary64 number is an infinity. -/
def isHuge (d : Decimal) : Bool :=
  if d.coefficient = 0 then false
  else if d.magnitude < 300 then false
  else if 320 < d.magnitude then true
  else
    let limit := Nat.pow 2 1024 - Nat.pow 2 970
    if 0 ≤ d.exponent then limit ≤ d.coefficient * Nat.pow 10 d.exponent.toNat
    else limit * Nat.pow 10 (-d.exponent).toNat ≤ d.coefficient

/-- The nearest binary64 number. -/
def toFloat (d : Decimal) : Float :=
  let x :=
    if d.isHuge then 1.0 / 0.0
    else if d.coefficient = 0 ∨ d.magnitude < -400 then 0.0
    else Float.ofScientific d.coefficient (d.exponent < 0) d.exponent.natAbs
  if d.negative then -x else x

end Decimal

/-- The digits at the start of a text, and the rest. -/
def spanDigits (cs : List Char) : List Char × List Char :=
  (cs.takeWhile isDigit, cs.dropWhile isDigit)

/-- A power of ten written `e` or `E`, a sign or none, and digits; the empty text is the power 0. -/
def power? : List Char → Option Int
  | [] => some 0
  | c :: cs =>
    if c = 'e' ∨ c = 'E' then
      match cs with
      | '-' :: ds => (natural? ds).map fun n => -(n : Int)
      | '+' :: ds => (natural? ds).map fun n => (n : Int)
      | ds => (natural? ds).map fun n => (n : Int)
    else none

/-- A decimal number without sign: digits with a point anywhere among them or none, and a power. -/
def unsignedDecimal? (negative : Bool) (cs : List Char) : Option Decimal := do
  let (whole, rest) := spanDigits cs
  let (fraction, rest) := match rest with
    | '.' :: ds => spanDigits ds
    | ds => ([], ds)
  if whole.isEmpty && fraction.isEmpty then none
  else
    let p ← power? rest
    some (Decimal.ofParts negative whole fraction p)

/-- A binary64 number: a sign or none, then a decimal number or one of the words `inf`, `infinity`
and `nan` in any letter case. -/
def binary64? (s : String) : Option Float :=
  let (negative, cs) := match s.toList with
    | '-' :: cs => (true, cs)
    | '+' :: cs => (false, cs)
    | cs => (false, cs)
  let lower (c : Char) : Char := if 'A' ≤ c ∧ c ≤ 'Z' then Char.ofNat (c.toNat + 32) else c
  let word := String.ofList (cs.map lower)
  if word = "inf" ∨ word = "infinity" then some (if negative then -1.0 / 0.0 else 1.0 / 0.0)
  else if word = "nan" then some (0.0 / 0.0)
  else (unsignedDecimal? negative cs).map Decimal.toFloat

end PathRouter.Text

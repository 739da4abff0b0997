import Mathlib.Algebra.Ring.Nat
import PathRouter.Text.Decimal

/-!
# Written numbers are read again

The digits of a number write it (`natural?_digits`). The first of them is a zero for the number zero
only (`digits_cases`), and a number below `2 ^ 64` has so few that it is in the range of binary64
(`isHuge_digits`). The other way round, the texts that are read as a whole number are those that
write it (`unsigned?_eq_some_iff`).
-/

namespace PathRouter.Text

variable {n : Nat}

theorem toList_digits (n : Nat) : (digits n).toList = Nat.toDigits 10 n := by
  rw [digits, Nat.toString_eq_ofList_toDigits, String.toList_ofList]

theorem isDigit_eq (c : Char) : isDigit c = c.isDigit := by
  rw [isDigit, Char.isDigit]
  rfl

theorem isDigit_of_mem_digits {c : Char} (h : c ∈ (digits n).toList) : isDigit c := by
  rw [toList_digits] at h
  rw [isDigit_eq]
  exact Nat.isDigit_of_mem_toDigits (by decide) (by decide) h

theorem ofDigitsFrom_eq (acc : Nat) {cs : List Char} (h : ∀ c ∈ cs, isDigit c) :
    ofDigitsFrom 10 acc cs = Nat.ofDigitChars 10 cs acc := by
  induction cs generalizing acc with
  | nil => rfl
  | cons c cs ih =>
    have hc : (hexValue? c).getD 0 = c.toNat - '0'.toNat := by
      rw [hexValue?, if_pos (h c List.mem_cons_self), Option.getD_some]
    rw [ofDigitsFrom, hc, ih _ fun d hd => h d (List.mem_cons_of_mem _ hd),
      Nat.ofDigitChars_cons, Nat.mul_comm]

/-- One or more digits are read as the number that they write. -/
theorem natural?_eq_some_iff {cs : List Char} :
    natural? cs = some n ↔ cs ≠ [] ∧ (∀ c ∈ cs, c.isDigit) ∧ Nat.ofDigitChars 10 cs 0 = n := by
  have htest : (!cs.isEmpty && cs.all isDigit) = true ↔ cs ≠ [] ∧ ∀ c ∈ cs, isDigit c := by simp
  simp only [natural?, htest, Option.ite_none_right_eq_some, Option.some.injEq, and_assoc,
    ← isDigit_eq]
  refine and_congr_right fun _ => and_congr_right fun hd => ?_
  rw [ofDigits, ofDigitsFrom_eq 0 hd]

theorem ofDigits_digits (n : Nat) : ofDigits 10 (digits n).toList = n := by
  rw [ofDigits, ofDigitsFrom_eq 0 fun _ => isDigit_of_mem_digits, toList_digits]
  exact Nat.ofDigitChars_ten_toDigits

/-- **The digits of a number write it.** -/
theorem natural?_digits (n : Nat) : natural? (digits n).toList = some n := by
  rw [natural?_eq_some_iff, toList_digits]
  refine ⟨Nat.toDigits_ne_nil, ?_, Nat.ofDigitChars_ten_toDigits⟩
  intro c hc
  exact Nat.isDigit_of_mem_toDigits (by decide) (by decide) hc

/-- The digits of a number are a single zero, or begin with another digit. -/
theorem digits_cases (n : Nat) :
    (digits n).toList = ['0'] ∨ ∃ c cs, (digits n).toList = c :: cs ∧ c ≠ '0' := by
  simp only [toList_digits]
  induction n using Nat.strongRecOn with
  | ind n ih =>
    by_cases hn : n < 10
    · rw [Nat.toDigits_of_lt_base hn]
      by_cases hz : n.digitChar = '0'
      · exact Or.inl (by rw [hz])
      · exact Or.inr ⟨n.digitChar, [], rfl, hz⟩
    · rw [Nat.toDigits_of_base_le (by decide) (Nat.not_lt.mp hn)]
      rcases ih (n / 10) (by omega) with hz | ⟨c, cs, hcs, hc⟩
      · -- no number from ten on is ten times zero and a digit
        have : n / 10 = 0 := by
          have := congrArg (Nat.ofDigitChars 10 · 0) hz
          rw [Nat.ofDigitChars_ten_toDigits] at this
          exact this
        omega
      · exact Or.inr ⟨c, cs ++ [(n % 10).digitChar], by rw [hcs, List.cons_append], hc⟩

/-- A number below `2 ^ 64` is in the range of binary64. -/
theorem isHuge_digits (h : n < 2 ^ 64) :
    (Decimal.ofParts false (digits n).toList [] 0).isHuge = false := by
  have hlength : (Nat.toDigits 10 n).length ≤ 20 :=
    (Nat.length_toDigits_le_iff (by decide) (by decide)).mpr (by omega)
  have hcoefficient : (Decimal.ofParts false (digits n).toList [] 0).coefficient = n := by
    rw [Decimal.ofParts, List.append_nil, ofDigits_digits]
  have hmagnitude : (Decimal.ofParts false (digits n).toList [] 0).magnitude < 300 := by
    rw [Decimal.magnitude, hcoefficient, ← String.length_toList, ← digits, toList_digits]
    show ((Nat.toDigits 10 n).length : Int) + (0 - 0) < 300
    omega
  rw [Decimal.isHuge, if_pos hmagnitude, ite_self]

/-- Whether a text writes a number: by one or more digits, after a plus sign or none. -/
def WritesNumber (s : String) (n : Nat) : Prop :=
  ∃ ds, (s.toList = ds ∨ s.toList = '+' :: ds) ∧ ds ≠ [] ∧ (∀ c ∈ ds, c.isDigit) ∧
    Nat.ofDigitChars 10 ds 0 = n

/-- **What is read as a whole number**: the texts that write one, if it is small enough. -/
theorem unsigned?_eq_some_iff {bits : Nat} {s : String} :
    unsigned? bits s = some n ↔ WritesNumber s n ∧ n < 2 ^ bits := by
  have hbound : ∀ cs : List Char, ((natural? cs).bind fun n =>
      if n < Nat.pow 2 bits then some n else none) = some n ↔
      natural? cs = some n ∧ n < 2 ^ bits := by
    intro cs
    simp only [Option.bind_eq_some_iff, Option.ite_none_right_eq_some, Option.some.injEq]
    constructor
    · rintro ⟨_, hn, hlt, rfl⟩
      exact ⟨hn, hlt⟩
    · rintro ⟨hn, hlt⟩
      exact ⟨n, hn, hlt, rfl⟩
  rw [unsigned?, WritesNumber]
  split
  next cs hs =>
    -- a plus sign is no digit, so the digits are those behind it
    rw [hs]
    refine (hbound cs).trans (and_congr_left fun _ => natural?_eq_some_iff.trans ?_)
    constructor
    · intro h
      exact ⟨cs, Or.inr rfl, h⟩
    · rintro ⟨ds, rfl | hds, h⟩
      · exact absurd (h.2.1 '+' List.mem_cons_self) (by decide)
      · rwa [(List.cons.inj hds).2]
  next hplus =>
    refine (hbound s.toList).trans (and_congr_left fun _ => natural?_eq_some_iff.trans ?_)
    constructor
    · intro h
      exact ⟨s.toList, Or.inl rfl, h⟩
    · rintro ⟨ds, rfl | hds, h⟩
      · exact h
      · exact absurd hds (hplus ds)

end PathRouter.Text

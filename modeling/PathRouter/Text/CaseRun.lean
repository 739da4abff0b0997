/-!
# Case maps as runs

A case map moves few characters, and neighbours by the same distance. `CaseRun` is one such stretch
and a map is a list of them, which is small enough to be read, searched and checked by evaluation.
-/

namespace PathRouter.Text

/-- The characters `first, first + stride, …, last`, mapped to `target, target + stride, …`. -/
structure CaseRun where
  first : Nat
  last : Nat
  stride : Nat
  target : Nat
deriving DecidableEq, Repr

namespace CaseRun

/-- Whether a code point is one of the run's. -/
def covers (r : CaseRun) (n : Nat) : Bool :=
  r.first ≤ n && n ≤ r.last && (n - r.first) % r.stride == 0

/-- Where a run takes one of its code points. -/
def apply (r : CaseRun) (n : Nat) : Nat := n - r.first + r.target

/-- The code point that a run takes to a given one, if there is one. -/
def source? (r : CaseRun) (n : Nat) : Option Nat :=
  let s := n - r.target + r.first
  if r.target ≤ n && r.covers s then some s else none

/-- A character under the first run that covers it; one that no run covers stays. -/
def map (runs : List CaseRun) (c : Char) : Char :=
  match runs.find? (·.covers c.toNat) with
  | some r => Char.ofNat (r.apply c.toNat)
  | none => c

theorem covers_source {r : CaseRun} {n s : Nat} (h : r.source? n = some s) :
    r.covers s ∧ r.apply s = n := by
  simp only [source?, Option.ite_none_right_eq_some, Bool.and_eq_true, decide_eq_true_eq,
    Option.some.injEq] at h
  obtain ⟨⟨ht, hc⟩, rfl⟩ := h
  exact ⟨hc, by simp only [apply]; omega⟩

theorem source_apply {r : CaseRun} {n : Nat} (h : r.covers n) : r.source? (r.apply n) = some n := by
  have hf : r.first ≤ n := by
    simp only [covers, Bool.and_eq_true, decide_eq_true_eq] at h
    exact h.1.1
  simp [source?, apply, Nat.sub_add_cancel hf, h]

end CaseRun

end PathRouter.Text

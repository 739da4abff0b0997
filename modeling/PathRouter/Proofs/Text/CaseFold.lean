import Mathlib.Data.List.Basic
import PathRouter.Pattern.CharSet

/-!
# Equality up to case

Simple case folding is given by runs. A check of the runs (`CaseRun.settled`) says that they ascend,
take characters to characters, and that no run covers what another one leads to; it is made once, by
evaluation (`settled_foldRuns`). From it folding a character twice is folding it once, and the orbit
of a character holds exactly the characters that fold alike (`mem_orbit_iff`), so that a folded set
holds what folds like one of its members (`folded_iff`).
-/

namespace PathRouter

namespace Text

namespace CaseRun

/-- Whether the code points from one to another are characters. -/
def scalars (first last : Nat) : Bool :=
  Nat.blt last 0xD800 || (Nat.blt 0xDFFF first && Nat.blt last 0x110000)

/-- Whether a run takes characters to characters. -/
def proper (r : CaseRun) : Bool := scalars r.first r.last && scalars r.target (r.apply r.last)

/-- Whether each run ends before the next one begins. -/
def ascends : List CaseRun → Bool
  | [] => true
  | [r] => Nat.ble r.first r.last
  | r :: s :: rs => Nat.ble r.first r.last && Nat.blt r.last s.first && ascends (s :: rs)

/-- Whether a run leads to no code point that another one covers: the targets end before it or begin
behind it, or are odd where it is even. -/
def misses (r s : CaseRun) : Bool :=
  Nat.blt (r.apply r.last) s.first || Nat.blt s.last r.target ||
    (Nat.beq s.stride 2 && (Nat.beq r.stride 2 || Nat.beq r.first r.last) &&
      !Nat.beq (r.target % 2) (s.first % 2))

/-- Whether runs ascend, take characters to characters, and cover none that they lead to. -/
def settled (runs : List CaseRun) : Bool :=
  ascends runs && runs.all proper && runs.all fun r => runs.all r.misses

variable {r s : CaseRun} {runs : List CaseRun} {n : Nat} {c : Char}

theorem covers_iff : r.covers n ↔ r.first ≤ n ∧ n ≤ r.last ∧ (n - r.first) % r.stride = 0 := by
  simp [covers, and_assoc]

theorem toNat_ofNat_of_scalars {first last : Nat} (h : scalars first last) (hf : first ≤ n)
    (hl : n ≤ last) : (Char.ofNat n).toNat = n := by
  have hv : n.isValidChar := by
    simp only [scalars, Bool.or_eq_true, Bool.and_eq_true, Nat.blt_eq] at h
    unfold Nat.isValidChar
    omega
  rw [Char.ofNat, dif_pos hv]
  rfl

theorem le_of_ascends : ∀ {runs : List CaseRun}, ascends runs → ∀ r ∈ runs, r.first ≤ r.last
  | [], _, r, hr => by simp at hr
  | [s], h, r, hr => by
    rw [List.mem_singleton] at hr
    subst hr
    exact Nat.le_of_ble_eq_true h
  | s :: t :: rs, h, r, hr => by
    simp only [ascends, Bool.and_eq_true] at h
    rcases List.mem_cons.mp hr with rfl | hr
    · exact Nat.le_of_ble_eq_true h.1.1
    · exact le_of_ascends h.2 r hr

theorem pairwise_of_ascends : ∀ {runs : List CaseRun}, ascends runs →
    runs.Pairwise fun r s => r.last < s.first
  | [], _ => List.Pairwise.nil
  | [_], _ => List.pairwise_singleton _ _
  | r :: s :: rs, h => by
    have hs := h
    simp only [ascends, Bool.and_eq_true, Nat.blt_eq] at hs
    have ih := pairwise_of_ascends hs.2
    have hle := le_of_ascends hs.2 s List.mem_cons_self
    refine List.Pairwise.cons ?_ ih
    intro t ht
    rcases List.mem_cons.mp ht with rfl | ht
    · exact hs.1.2
    · have := List.rel_of_pairwise_cons ih ht
      omega

/-- Of ascending runs the one that covers a code point is found. -/
theorem find?_covers (h : runs.Pairwise fun r s => r.last < s.first) (hr : r ∈ runs)
    (hc : r.covers n) : runs.find? (·.covers n) = some r := by
  induction runs with
  | nil => simp at hr
  | cons t runs ih =>
    rcases List.mem_cons.mp hr with rfl | hr
    · exact List.find?_cons_of_pos hc
    · have ht : ¬ t.covers n := by
        intro ht
        have := List.rel_of_pairwise_cons h hr
        rw [covers_iff] at hc ht
        omega
      show (t :: runs).find? (fun x => x.covers n) = some r
      rw [List.find?_cons, Bool.eq_false_iff.mpr ht]
      exact ih h.of_cons hr

theorem not_covers_of_misses (hm : r.misses s) (hc : r.covers n) : ¬ s.covers (r.apply n) := by
  intro hs
  rw [covers_iff] at hc hs
  simp only [misses, apply, Bool.or_eq_true, Bool.and_eq_true, Nat.blt_eq, Bool.not_eq_true',
    Nat.beq_eq] at hm
  have hne : ∀ a b, Nat.beq a b = false → a ≠ b := by
    intro a b h e
    rw [e, Nat.beq_refl] at h
    exact absurd h (by decide)
  unfold apply at hs
  rcases hm with (hm | hm) | ⟨⟨h2, hr⟩, hp⟩
  · omega
  · omega
  · have hp := hne _ _ hp
    rw [h2] at hs
    rcases hr with hr | hr
    · rw [hr] at hc
      omega
    · have : n = r.first := by omega
      omega

section

variable (h : settled runs)

include h

theorem pairwise_of_settled : runs.Pairwise fun r s => r.last < s.first := by
  simp only [settled, Bool.and_eq_true] at h
  exact pairwise_of_ascends h.1.1

theorem proper_of_settled (hr : r ∈ runs) : r.proper := by
  simp only [settled, Bool.and_eq_true, List.all_eq_true] at h
  exact h.1.2 r hr

theorem misses_of_settled (hr : r ∈ runs) (hs : s ∈ runs) : r.misses s := by
  simp only [settled, Bool.and_eq_true, List.all_eq_true] at h
  exact h.2 r hr s hs

/-- A covered code point is a character. -/
theorem toNat_source (hr : r ∈ runs) (hc : r.covers n) : (Char.ofNat n).toNat = n := by
  have hp := proper_of_settled h hr
  rw [proper, Bool.and_eq_true] at hp
  rw [covers_iff] at hc
  exact toNat_ofNat_of_scalars hp.1 hc.1 hc.2.1

/-- A run takes what it covers to a character. -/
theorem toNat_apply (hr : r ∈ runs) (hc : r.covers n) :
    (Char.ofNat (r.apply n)).toNat = r.apply n := by
  have hp := proper_of_settled h hr
  rw [proper, Bool.and_eq_true] at hp
  rw [covers_iff] at hc
  refine toNat_ofNat_of_scalars hp.2 ?_ ?_ <;> unfold apply <;> omega

theorem map_of_covers (hr : r ∈ runs) (hc : r.covers c.toNat) :
    map runs c = Char.ofNat (r.apply c.toNat) := by
  rw [map, find?_covers (pairwise_of_settled h) hr hc]

omit h in
/-- A character stays, or a run that covers it says where it goes. -/
theorem map_cases (runs : List CaseRun) (c : Char) : map runs c = c ∨
    ∃ r ∈ runs, r.covers c.toNat ∧ map runs c = Char.ofNat (r.apply c.toNat) := by
  rw [map]
  cases hf : runs.find? (·.covers c.toNat) with
  | none => exact Or.inl rfl
  | some r =>
    have hc := List.find?_some hf
    exact Or.inr ⟨r, List.mem_of_find?_eq_some hf, hc, rfl⟩

omit h in
theorem map_eq_self (hn : ∀ r ∈ runs, ¬ r.covers c.toNat) : map runs c = c := by
  rcases map_cases runs c with hc | ⟨r, hr, hc, -⟩
  · exact hc
  · exact absurd hc (hn r hr)

/-- **Settled runs move a character once.** -/
theorem map_map (c : Char) : map runs (map runs c) = map runs c := by
  rcases map_cases runs c with hc | ⟨r, hr, hc, hm⟩
  · rw [hc, hc]
  · refine map_eq_self ?_
    intro s hs
    rw [hm, toNat_apply h hr hc]
    exact not_covers_of_misses (misses_of_settled h hr hs) hc

end

end CaseRun

open CaseRun

theorem settled_foldRuns : settled foldRuns := by decide +kernel

theorem fold_fold (c : Char) : fold (fold c) = fold c := map_map settled_foldRuns c

/-- **The orbit of a character** holds the characters that fold alike. -/
theorem mem_orbit_iff {a c : Char} : a ∈ orbit c ↔ fold a = fold c := by
  rw [orbit, List.mem_cons, List.mem_filterMap]
  constructor
  · rintro (rfl | ⟨r, hr, hs⟩)
    · exact fold_fold c
    · obtain ⟨n, hn, rfl⟩ := Option.map_eq_some_iff.mp hs
      obtain ⟨hc, ha⟩ := covers_source hn
      have hN := toNat_source settled_foldRuns hr hc
      rw [← hN] at hc
      rw [fold, map_of_covers settled_foldRuns hr hc, hN, ha, Char.ofNat_toNat]
  · intro h
    rcases map_cases foldRuns a with ha | ⟨r, hr, hc, hm⟩
    · exact Or.inl (ha.symm.trans h)
    · have hN : (fold c).toNat = r.apply a.toNat := by
        rw [← h, fold, hm, toNat_apply settled_foldRuns hr hc]
      refine Or.inr ⟨r, hr, ?_⟩
      rw [hN, source_apply hc, Option.map_some, Char.ofNat_toNat]

/-- A character that is equal to no other one up to case. -/
theorem fold_eq_iff_of_orbit {a c : Char} (h : orbit a = [a]) : fold c = fold a ↔ c = a := by
  rw [← mem_orbit_iff, h, List.mem_singleton]

end Text

namespace CharSet

open Text

/-- **A folded set** holds what folds like one of its members. -/
theorem folded_iff {s : CharSet} {c : Char} : s.folded c ↔ ∃ a, s a ∧ fold a = fold c := by
  rw [folded, List.any_eq_true]
  constructor
  · rintro ⟨a, ha, hs⟩
    exact ⟨a, hs, mem_orbit_iff.mp ha⟩
  · rintro ⟨a, hs, ha⟩
    exact ⟨a, mem_orbit_iff.mpr ha, hs⟩

theorem folded_single_iff {a c : Char} : (single a).folded c ↔ fold c = fold a := by
  rw [folded_iff]
  constructor
  · rintro ⟨b, hb, h⟩
    rw [single, beq_iff_eq] at hb
    subst hb
    exact h.symm
  · intro h
    exact ⟨a, by simp [single], h.symm⟩

end CharSet

end PathRouter

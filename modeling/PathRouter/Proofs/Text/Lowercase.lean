import Mathlib.Data.List.Forall2
import PathRouter.Proofs.Text.CaseFold
import PathRouter.Text.Lowercase

/-!
# Lower case and equality up to case

Texts that are equal up to case need not have the same lower case. A few characters (`strays`) are
lower case themselves, although the character that they fold to is another one, and a capital sigma
becomes one of two small ones. Of two characters that fold alike the lower case is the same if and
only if they are the same or none of them is stray (`lower_eq_iff`), and so for texts, place by
place, once the capital sigmas are settled (`lowercase_eq_iff`).
-/

namespace PathRouter.Text

open CaseRun

/-- The lower case of one character, if it is one character. -/
def lower (c : Char) : Char := map lowerRuns c

/-- The characters in lower case that fold to another character. -/
def strays : List Char := [
  'µ', 'ſ', '\u0345', 'ς', 'ϐ', 'ϑ', 'ϕ', 'ϖ', 'ϰ', 'ϱ', 'ϵ', '\u1c80', '\u1c81', '\u1c82',
  '\u1c83', '\u1c84', '\u1c85', '\u1c86', '\u1c87', '\u1c88', 'ẛ', '\u1fbe', '\u1fd3', '\u1fe3',
  '\ufb05']

namespace CaseRun

/-- The run from the targets of a run back to it. -/
def inverse (r : CaseRun) : CaseRun := ⟨r.target, r.apply r.last, r.stride, r.first⟩

/-- Whether two runs are the same. -/
def agrees (r s : CaseRun) : Bool :=
  Nat.beq r.first s.first && Nat.beq r.last s.last && Nat.beq r.stride s.stride &&
    Nat.beq r.target s.target

/-- Whether a run covers strays only. -/
def strayed (r : CaseRun) : Bool :=
  (List.range (r.last + 1 - r.first)).all fun i => strays.contains (Char.ofNat (r.first + i))

end CaseRun

theorem settled_lowerRuns : settled lowerRuns := by decide +kernel

/-- The runs of folding are runs of lower case, lead back from where such runs lead, or cover
strays. -/
theorem foldRuns_cases : foldRuns.all fun r =>
    lowerRuns.any r.agrees || lowerRuns.any r.inverse.agrees || r.strayed := by decide +kernel

/-- No run of lower case leads to a stray. -/
theorem source?_strays : strays.all fun c => lowerRuns.all fun r => (r.source? c.toNat).isNone := by
  decide +kernel

theorem all_lower_strays : strays.all fun c => lower c == c := by decide +kernel

namespace CaseRun

variable {r s : CaseRun} {n : Nat}

theorem eq_of_agrees (h : r.agrees s) : r = s := by
  obtain ⟨_, _, _, _⟩ := r
  obtain ⟨_, _, _, _⟩ := s
  simpa [agrees, and_assoc] using h

theorem covers_inverse (h : r.covers n) : r.inverse.covers (r.apply n) := by
  rw [covers_iff] at h ⊢
  simp only [inverse, apply]
  refine ⟨by omega, by omega, ?_⟩
  rw [Nat.add_sub_cancel]
  exact h.2.2

theorem apply_inverse (h : r.covers n) : r.inverse.apply (r.apply n) = n := by
  rw [covers_iff] at h
  simp only [inverse, apply]
  omega

theorem mem_strays_of_strayed (h : r.strayed) (hc : r.covers n) : Char.ofNat n ∈ strays := by
  rw [covers_iff] at hc
  rw [strayed, List.all_eq_true] at h
  have hn := h (n - r.first) (List.mem_range.mpr (by omega))
  rw [Nat.add_sub_cancel' hc.1] at hn
  simpa using hn

end CaseRun

variable {c d : Char}

theorem lower_strays (h : c ∈ strays) : lower c = c := by
  simpa using List.all_eq_true.mp all_lower_strays c h

/-- The lower case of a lower case. -/
theorem lower_lower (c : Char) : lower (lower c) = lower c := map_map settled_lowerRuns c

/-- **A character that is not stray** has the lower case of what it folds to. -/
theorem lower_fold (h : c ∉ strays) : lower (fold c) = lower c := by
  rcases map_cases foldRuns c with hc | ⟨r, hr, hc, hm⟩
  · rw [fold, hc]
  · have hcases := List.all_eq_true.mp foldRuns_cases r hr
    simp only [Bool.or_eq_true, List.any_eq_true] at hcases
    rcases hcases with (⟨s, hs, he⟩ | ⟨s, hs, he⟩) | hstray
    · -- the run lowers as it folds
      obtain rfl := eq_of_agrees he
      have hl : lower c = fold c := by
        rw [lower, map_of_covers settled_lowerRuns hs hc, fold, hm]
      rw [← hl, lower_lower]
    · -- the character is the lower case of what it folds to
      obtain rfl := eq_of_agrees he
      have hN : (fold c).toNat = r.apply c.toNat := by
        rw [fold, hm, toNat_apply settled_foldRuns hr hc]
      have hcov : r.inverse.covers (fold c).toNat := by
        rw [hN]
        exact covers_inverse hc
      have hl : lower (fold c) = c := by
        rw [lower, map_of_covers settled_lowerRuns hs hcov, hN, apply_inverse hc, Char.ofNat_toNat]
      rw [hl, ← hl, lower_lower]
    · have hmem := mem_strays_of_strayed hstray hc
      rw [Char.ofNat_toNat] at hmem
      exact absurd hmem h

theorem mem_strays_of_lower (h : lower c ∈ strays) : c ∈ strays := by
  rcases map_cases lowerRuns c with hc | ⟨r, hr, hc, hm⟩
  · rwa [lower, hc] at h
  · have hN : (lower c).toNat = r.apply c.toNat := by
      rw [lower, hm, toNat_apply settled_lowerRuns hr hc]
    have hnone := List.all_eq_true.mp (List.all_eq_true.mp source?_strays _ h) r hr
    rw [hN, source_apply hc] at hnone
    exact absurd hnone (by simp)

/-- **When characters that fold alike have the same lower case.** -/
theorem lower_eq_iff (h : fold c = fold d) :
    lower c = lower d ↔ c = d ∨ c ∉ strays ∧ d ∉ strays := by
  constructor
  · intro hl
    by_cases hc : c ∈ strays
    · have hd : d ∈ strays := mem_strays_of_lower (hl ▸ (lower_strays hc).symm ▸ hc)
      rw [lower_strays hc, lower_strays hd] at hl
      exact Or.inl hl
    · refine Or.inr ⟨hc, ?_⟩
      intro hd
      rw [lower_strays hd] at hl
      exact hc (mem_strays_of_lower (hl ▸ hd))
  · rintro (rfl | ⟨hc, hd⟩)
    · rfl
    · rw [← lower_fold hc, h, lower_fold hd]

/-! ### Texts -/

/-- A capital sigma as the small one of its place; another character stays. -/
def settleSigma (before : List Char) (c : Char) (after : List Char) : Char :=
  if c = 'Σ' then (if isFinalSigma before after then 'ς' else 'σ') else c

/-- A text with its capital sigmas settled, after the text `before`, which is given backwards. -/
def settleSigmas (before : List Char) : List Char → List Char
  | [] => []
  | c :: cs => settleSigma before c cs :: settleSigmas (c :: before) cs

/-- The lower case of a character that is no capital sigma. -/
def lowerPiece (c : Char) : List Char := if c = 'İ' then ['i', '\u0307'] else [lower c]

/-- Whether two texts have at each place, their sigmas settled, the same character or none of the
strays. -/
def LoweredAlike (s t : String) : Prop :=
  List.Forall₂ (fun c d => c = d ∨ c ∉ strays ∧ d ∉ strays)
    (settleSigmas [] s.toList) (settleSigmas [] t.toList)

instance (s t : String) : Decidable (LoweredAlike s t) :=
  inferInstanceAs (Decidable (List.Forall₂ _ _ _))

theorem lowercaseAfter_eq (before cs : List Char) :
    lowercaseAfter before cs = (settleSigmas before cs).flatMap lowerPiece := by
  induction cs generalizing before with
  | nil => rfl
  | cons c cs ih =>
    have hsmall : lowerPiece 'ς' = ['ς'] ∧ lowerPiece 'σ' = ['σ'] := by decide +kernel
    rw [settleSigmas, List.flatMap_cons, ← ih, settleSigma]
    by_cases hs : c = 'Σ'
    · subst hs
      rw [lowercaseAfter, if_pos rfl]
      split_ifs
      · rw [hsmall.1, List.singleton_append]
      · rw [hsmall.2, List.singleton_append]
    · rw [if_neg hs, lowerPiece]
      by_cases hi : c = 'İ'
      · subst hi
        rfl
      · rw [if_neg hi, lowercaseAfter.eq_def]
        split
        · next h => simp at h
        · next h => exact absurd (List.cons.inj h).1 hs
        · next h => exact absurd (List.cons.inj h).1 hi
        · next h =>
          obtain ⟨rfl, rfl⟩ := List.cons.inj h
          rfl

theorem fold_settleSigma (before : List Char) (c : Char) (after : List Char) :
    fold (settleSigma before c after) = fold c := by
  have hsmall : fold 'ς' = fold 'Σ' ∧ fold 'σ' = fold 'Σ' := by decide +kernel
  unfold settleSigma
  split_ifs with hs hf
  · rw [hs, hsmall.1]
  · rw [hs, hsmall.2]
  · rfl

theorem forall₂_settleSigmas {cs ds : List Char}
    (h : List.Forall₂ (fun c d => fold c = fold d) cs ds) (before before' : List Char) :
    List.Forall₂ (fun c d => fold c = fold d)
      (settleSigmas before cs) (settleSigmas before' ds) := by
  induction h generalizing before before' with
  | nil => exact .nil
  | cons hcd _ ih =>
    refine .cons ?_ (ih _ _)
    rw [fold_settleSigma, fold_settleSigma, hcd]

/-- The dotted capital I is equal to no other character up to case. -/
theorem orbit_dotted : orbit 'İ' = ['İ'] := by decide +kernel

theorem lowerPiece_eq_iff (h : fold c = fold d) :
    lowerPiece c = lowerPiece d ↔ c = d ∨ c ∉ strays ∧ d ∉ strays := by
  have hdotted : c = 'İ' ↔ d = 'İ' := by
    rw [← fold_eq_iff_of_orbit orbit_dotted, ← fold_eq_iff_of_orbit orbit_dotted, h]
  unfold lowerPiece
  by_cases hc : c = 'İ'
  · rw [if_pos hc, if_pos (hdotted.mp hc)]
    exact iff_of_true rfl (Or.inl (hc.trans (hdotted.mp hc).symm))
  · rw [if_neg hc, if_neg (mt hdotted.mpr hc), List.cons.injEq, lower_eq_iff h]
    exact and_iff_left rfl

theorem length_lowerPiece (h : fold c = fold d) :
    (lowerPiece c).length = (lowerPiece d).length := by
  have hdotted : c = 'İ' ↔ d = 'İ' := by
    rw [← fold_eq_iff_of_orbit orbit_dotted, ← fold_eq_iff_of_orbit orbit_dotted, h]
  unfold lowerPiece
  by_cases hc : c = 'İ'
  · rw [if_pos hc, if_pos (hdotted.mp hc)]
  · rw [if_neg hc, if_neg (mt hdotted.mpr hc)]
    rfl

theorem flatMap_lowerPiece_eq_iff {cs ds : List Char}
    (h : List.Forall₂ (fun c d => fold c = fold d) cs ds) :
    cs.flatMap lowerPiece = ds.flatMap lowerPiece ↔
      List.Forall₂ (fun c d => c = d ∨ c ∉ strays ∧ d ∉ strays) cs ds := by
  induction h with
  | nil => simp
  | @cons c d cs ds hcd _ ih =>
    rw [List.flatMap_cons, List.flatMap_cons, List.forall₂_cons, ← ih, ← lowerPiece_eq_iff hcd]
    constructor
    · intro he
      exact List.append_inj he (length_lowerPiece hcd)
    · rintro ⟨hp, hr⟩
      rw [hp, hr]

/-- **When texts that are equal up to case have the same lower case.** -/
theorem lowercase_eq_iff {s t : String}
    (h : List.Forall₂ (fun c d => fold c = fold d) s.toList t.toList) :
    lowercase s = lowercase t ↔ LoweredAlike s t := by
  rw [lowercase, lowercase, String.ofList_inj, lowercaseAfter_eq, lowercaseAfter_eq]
  exact flatMap_lowerPiece_eq_iff (forall₂_settleSigmas h [] [])

end PathRouter.Text

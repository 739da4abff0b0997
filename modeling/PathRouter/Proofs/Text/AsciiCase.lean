import PathRouter.Proofs.Text.Lowercase
import PathRouter.Text.Pieces

/-!
# The case of ASCII letters

A function of characters that gives the same for the capital and the small letter of each of the
twenty-six pairs, which is compared by evaluation, gives the same before and after a character is
lowered (`apply_asciiLower`). Folding, the lower case of one character and the rule for a sigma at
the end of a word are such functions, so the lower case of a text does not depend on the case of its
ASCII letters, whatever stands between them (`lowercase_asciiLowercase`).
-/

namespace PathRouter.Text

/-- **What is the same for both letters of each pair** is the same for a character and its lower
case. -/
theorem apply_asciiLower {α : Type} {f : Char → α}
    (h : ∀ n < 26, f (Char.ofNat (97 + n)) = f (Char.ofNat (65 + n))) (c : Char) :
    f (asciiLower c) = f c := by
  unfold asciiLower
  split_ifs with hc
  · have hlow : 65 ≤ c.toNat := hc.1
    have hhigh : c.toNat ≤ 90 := hc.2
    have hpair := h (c.toNat - 65) (by omega)
    have hsmall : 97 + (c.toNat - 65) = c.toNat + 32 := by omega
    have hcapital : 65 + (c.toNat - 65) = c.toNat := by omega
    rwa [hsmall, hcapital, Char.ofNat_toNat] at hpair
  · rfl

/-- A character that is no letter comes from itself only. -/
theorem asciiLower_eq_iff {a : Char}
    (h : ∀ n < 26, decide (Char.ofNat (97 + n) = a) = decide (Char.ofNat (65 + n) = a)) (c : Char) :
    asciiLower c = a ↔ c = a := by
  have hc := apply_asciiLower (f := fun c => decide (c = a)) h c
  simpa using hc

theorem fold_asciiLower (c : Char) : fold (asciiLower c) = fold c :=
  apply_asciiLower (by decide +kernel) c

theorem lowerPiece_asciiLower (c : Char) : lowerPiece (asciiLower c) = lowerPiece c :=
  apply_asciiLower (by decide +kernel) c

theorem startsCased_map (cs : List Char) :
    startsCased (cs.map asciiLower) = startsCased cs := by
  have hignorable : inRanges caseIgnorableRanges ∘ asciiLower = inRanges caseIgnorableRanges :=
    funext (apply_asciiLower (by decide +kernel))
  have hcased : ∀ c, inRanges casedRanges (asciiLower c) = inRanges casedRanges c :=
    apply_asciiLower (by decide +kernel)
  unfold startsCased
  rw [List.dropWhile_map, hignorable]
  cases cs.dropWhile (inRanges caseIgnorableRanges) with
  | nil => rfl
  | cons c cs => exact hcased c

theorem settleSigma_asciiLower (before : List Char) (c : Char) (after : List Char) :
    settleSigma (before.map asciiLower) (asciiLower c) (after.map asciiLower) =
      asciiLower (settleSigma before c after) := by
  have hsigma : asciiLower c = 'Σ' ↔ c = 'Σ' := asciiLower_eq_iff (by decide) c
  unfold settleSigma isFinalSigma
  rw [startsCased_map, startsCased_map]
  by_cases hc : c = 'Σ'
  · rw [if_pos (hsigma.mpr hc), if_pos hc]
    split_ifs <;> rfl
  · rw [if_neg (mt hsigma.mp hc), if_neg hc]

theorem settleSigmas_map (before cs : List Char) :
    settleSigmas (before.map asciiLower) (cs.map asciiLower) =
      (settleSigmas before cs).map asciiLower := by
  induction cs generalizing before with
  | nil => rfl
  | cons c cs ih =>
    rw [List.map_cons, settleSigmas, settleSigmas, settleSigma_asciiLower, List.map_cons,
      ← List.map_cons, ih]

/-- **The case of ASCII letters does not count** for the lower case of a text. -/
theorem lowercase_asciiLowercase (s : String) : lowercase (asciiLowercase s) = lowercase s := by
  have hsettled := settleSigmas_map [] s.toList
  rw [List.map_nil] at hsettled
  rw [lowercase, lowercase, asciiLowercase, String.toList_ofList, lowercaseAfter_eq,
    lowercaseAfter_eq, hsettled, List.flatMap_map]
  simp only [lowerPiece_asciiLower]

theorem asciiLowercase_ofList (cs : List Char) :
    asciiLowercase (String.ofList cs) = String.ofList (cs.map asciiLower) := by
  rw [asciiLowercase, String.toList_ofList]

theorem toList_asciiLowercase (s : String) :
    (asciiLowercase s).toList = s.toList.map asciiLower := by
  rw [asciiLowercase, String.toList_ofList]

theorem asciiLowercase_append (s t : String) :
    asciiLowercase (s ++ t) = asciiLowercase s ++ asciiLowercase t := by
  rw [asciiLowercase, String.toList_append, List.map_append, String.ofList_append]
  rfl

/-- A text that is put together is lowered part by part. -/
theorem asciiLowercase_intercalate (sep : String) : ∀ texts : List String,
    asciiLowercase (sep.intercalate texts) =
      (asciiLowercase sep).intercalate (texts.map asciiLowercase)
  | [] => rfl
  | [s] => by simp
  | s :: t :: texts => by
    rw [String.intercalate_cons_cons, asciiLowercase_append, asciiLowercase_append,
      asciiLowercase_intercalate sep (t :: texts), List.map_cons, List.map_cons, List.map_cons,
      String.intercalate_cons_cons]

/-! ### Pieces -/

/-- Characters that are mapped one by one are cut where they were cut before, if the separator
comes from itself only. -/
theorem pieces_map {f : Char → Char} {sep : Char} (h : ∀ c, f c = sep ↔ c = sep) (cs : List Char) :
    pieces sep (cs.map f) = (pieces sep cs).map (List.map f) := by
  induction cs with
  | nil => rfl
  | cons c cs ih =>
    rw [List.map_cons, pieces, pieces, ih]
    by_cases hc : c = sep
    · rw [if_pos ((h c).mpr hc), if_pos hc]
      rfl
    · rw [if_neg (mt (h c).mp hc), if_neg hc]
      cases pieces sep cs <;> rfl

/-- The segments of a text with its ASCII letters lowered. -/
theorem segmentsOf_asciiLowercase (s : String) :
    segmentsOf (asciiLowercase s) = (segmentsOf s).map asciiLowercase := by
  have hslash : ∀ c, asciiLower c = '/' ↔ c = '/' := asciiLower_eq_iff (by decide)
  rw [segmentsOf, segmentsOf, toList_asciiLowercase, segments, segments, pieces_map hslash,
    List.filter_map, List.map_map, List.map_map]
  have hempty : ((fun p : List Char => !p.isEmpty) ∘ List.map asciiLower) =
      fun p => !p.isEmpty := by
    funext p
    cases p <;> rfl
  rw [hempty]
  refine List.map_congr_left ?_
  intro p _
  exact (asciiLowercase_ofList p).symm

end PathRouter.Text

/-!
# Cutting texts

Texts are cut at every occurrence of a separator (`pieces`), at the first occurrence of a separating
text (`cutAt?`), or before the first character of a kind (`List.takeWhile`). The pieces of a text,
joined again by the separator, are the text (`joined_pieces`), and no piece holds the separator
(`not_mem_of_mem_pieces`). A text that is cut at the first occurrence has none that comes earlier, not
even one that reaches into it (`cutAt?_eq_some`).
-/

namespace PathRouter.Text

/-- The pieces of a text between the occurrences of a separator; a text without it is one piece. -/
def pieces (sep : Char) : List Char → List (List Char)
  | [] => [[]]
  | c :: cs =>
    if c = sep then [] :: pieces sep cs
    else
      match pieces sep cs with
      | [] => [[c]]
      | p :: ps => (c :: p) :: ps

/-- Pieces put together again, with the separator between any two. -/
def joined (sep : Char) : List (List Char) → List Char
  | [] => []
  | [p] => p
  | p :: q :: ps => p ++ sep :: joined sep (q :: ps)

/-- The pieces between slashes that are not empty. -/
def segments (cs : List Char) : List (List Char) :=
  (pieces '/' cs).filter fun p => !p.isEmpty

/-- The non-empty pieces of a text between slashes, as texts. -/
def segmentsOf (s : String) : List String :=
  (segments s.toList).map String.ofList

/-- What stands before and after the first occurrence of a separating text, if there is one. -/
def cutAt? (sep : List Char) : List Char → Option (List Char × List Char)
  | [] => if sep.isEmpty then some ([], []) else none
  | c :: cs =>
    if sep.isPrefixOf (c :: cs) then some ([], (c :: cs).drop sep.length)
    else (cutAt? sep cs).map fun (before, after) => (c :: before, after)

theorem pieces_ne_nil (sep : Char) (cs : List Char) : pieces sep cs ≠ [] := by
  cases cs with
  | nil => simp [pieces]
  | cons c cs =>
    rw [pieces]
    split
    · simp
    · split <;> simp

@[simp] theorem pieces_cons_sep (sep : Char) (cs : List Char) :
    pieces sep (sep :: cs) = [] :: pieces sep cs := by simp [pieces]

theorem pieces_of_not_mem {sep : Char} {p : List Char} (h : sep ∉ p) : pieces sep p = [p] := by
  induction p with
  | nil => rfl
  | cons c p ih =>
    have hc : c ≠ sep := fun e => h (e ▸ List.mem_cons_self)
    simp [pieces, hc, ih fun m => h (List.mem_cons_of_mem _ m)]

/-- A text is cut at every separator. -/
theorem pieces_append (sep : Char) (cs ds : List Char) :
    pieces sep (cs ++ sep :: ds) = pieces sep cs ++ pieces sep ds := by
  induction cs with
  | nil => simp [pieces]
  | cons c cs ih =>
    rw [List.cons_append, pieces, pieces, ih]
    by_cases hc : c = sep
    · rw [if_pos hc, if_pos hc, List.cons_append]
    · obtain ⟨p, ps, hps⟩ := List.exists_cons_of_ne_nil (pieces_ne_nil sep cs)
      rw [if_neg hc, if_neg hc, hps]
      rfl

/-- A piece without the separator is cut off whole. -/
theorem pieces_append_sep {sep : Char} {p : List Char} (h : sep ∉ p) (cs : List Char) :
    pieces sep (p ++ sep :: cs) = p :: pieces sep cs := by
  rw [pieces_append, pieces_of_not_mem h]
  rfl

theorem not_mem_of_mem_pieces {sep : Char} {cs p : List Char} (hp : p ∈ pieces sep cs) :
    sep ∉ p := by
  induction cs generalizing p with
  | nil => simp_all [pieces]
  | cons c cs ih =>
    rw [pieces] at hp
    split at hp
    · rcases List.mem_cons.mp hp with rfl | hp
      · simp
      · exact ih hp
    · next hc =>
      split at hp
      · next h => exact absurd h (pieces_ne_nil sep cs)
      · next q qs h =>
        rcases List.mem_cons.mp hp with rfl | hp
        · have := ih (p := q) (by simp [h])
          simp [this, Ne.symm hc]
        · exact ih (by simp [h, hp])

theorem joined_pieces (sep : Char) (cs : List Char) : joined sep (pieces sep cs) = cs := by
  induction cs with
  | nil => rfl
  | cons c cs ih =>
    rw [pieces]
    split
    · next h =>
      subst h
      cases hq : pieces c cs with
      | nil => exact absurd hq (pieces_ne_nil c cs)
      | cons q qs => rw [hq] at ih; simp [joined, ih]
    · cases hq : pieces sep cs with
      | nil => exact absurd hq (pieces_ne_nil sep cs)
      | cons q qs =>
        rw [hq] at ih
        cases qs with
        | nil => simpa [joined] using ih
        | cons r rs => simpa [joined] using ih

theorem mem_segments {cs p : List Char} (hp : p ∈ segments cs) : p ≠ [] ∧ '/' ∉ p := by
  obtain ⟨h, hne⟩ := List.mem_filter.mp hp
  exact ⟨by simpa using hne, not_mem_of_mem_pieces h⟩

section Cut

variable {sep cs before after : List Char}

/-- A text that begins with a separating text has its first occurrence there. -/
theorem eq_nil_of_prefix (h : sep <+: before ++ sep ++ after)
    (hfirst : ¬ sep <:+: (before ++ sep).dropLast) : before = [] := by
  cases before with
  | nil => rfl
  | cons d ds =>
    have hdrop : (d :: ds ++ sep).dropLast <+: d :: ds ++ sep ++ after :=
      (List.dropLast_prefix _).trans (List.prefix_append _ _)
    have hlength : sep.length ≤ (d :: ds ++ sep).dropLast.length := by simp
    exact absurd (List.prefix_of_prefix_length_le h hdrop hlength).isInfix hfirst

/-- One more character in front makes an earlier occurrence only if the text begins with it. -/
theorem infix_dropLast_cons_iff {c : Char} (hsep : sep ≠ [])
    (h : ¬ sep <+: c :: (before ++ sep ++ after)) :
    sep <:+: (c :: before ++ sep).dropLast ↔ sep <:+: (before ++ sep).dropLast := by
  have hne : before ++ sep ≠ [] := by simp [hsep]
  have hdrop : c :: (before ++ sep).dropLast <+: c :: (before ++ sep ++ after) :=
    List.cons_prefix_cons.mpr ⟨rfl, (List.dropLast_prefix _).trans (List.prefix_append _ _)⟩
  rw [List.cons_append, List.dropLast_cons_of_ne_nil hne, List.infix_cons_iff]
  exact or_iff_right fun hfront => h (hfront.trans hdrop)

/-- **A text is cut at the first occurrence** of a separating text, so there is none before the last
character of that. -/
theorem cutAt?_eq_some (h : sep ≠ []) : cutAt? sep cs = some (before, after) ↔
    cs = before ++ sep ++ after ∧ ¬ sep <:+: (before ++ sep).dropLast := by
  induction cs generalizing before with
  | nil => simp [cutAt?, h]
  | cons c cs ih =>
    rw [cutAt?]
    split
    · next hp =>
      obtain ⟨rest, hrest⟩ := List.isPrefixOf_iff_prefix.mp hp
      rw [← hrest, List.drop_left, Option.some.injEq, Prod.mk.injEq]
      constructor
      · rintro ⟨rfl, rfl⟩
        refine ⟨rfl, fun hinfix => ?_⟩
        have hlength := hinfix.length_le
        have hpos := List.length_pos_iff.mpr h
        rw [List.nil_append, List.length_dropLast] at hlength
        omega
      · rintro ⟨hcs, hfirst⟩
        obtain rfl := eq_nil_of_prefix ⟨rest, hcs⟩ hfirst
        exact ⟨rfl, List.append_cancel_left hcs⟩
    · next hp =>
      have hp : ¬ sep <+: c :: cs := fun e => hp (List.isPrefixOf_iff_prefix.mpr e)
      rw [Option.map_eq_some_iff]
      constructor
      · rintro ⟨⟨b, a⟩, hba, he⟩
        obtain ⟨rfl, rfl⟩ := Prod.mk.inj he
        obtain ⟨rfl, hfirst⟩ := ih.mp hba
        exact ⟨rfl, mt (infix_dropLast_cons_iff h hp).mp hfirst⟩
      · rintro ⟨hcs, hfirst⟩
        cases before with
        | nil => exact absurd ⟨after, hcs.symm⟩ hp
        | cons d ds =>
          obtain ⟨rfl, rfl⟩ := List.cons.inj hcs
          exact ⟨(ds, after), ih.mpr ⟨rfl, mt (infix_dropLast_cons_iff h hp).mpr hfirst⟩, rfl⟩

/-- A text is not cut if the separating text does not occur in it. -/
theorem cutAt?_eq_none (h : sep ≠ []) : cutAt? sep cs = none ↔ ¬ sep <:+: cs := by
  induction cs with
  | nil => simp [cutAt?, h]
  | cons c cs ih =>
    rw [cutAt?, List.infix_cons_iff, not_or, ← ih, ← List.isPrefixOf_iff_prefix]
    by_cases hp : sep.isPrefixOf (c :: cs) <;> simp [hp]

end Cut

end PathRouter.Text

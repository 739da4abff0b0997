import Mathlib.Data.List.Forall2
import PathRouter.Proofs.Pattern.Match
import PathRouter.Proofs.Template.Values

/-!
# Segments and their patterns

The scans of the patterns of segments go along the segments of a path, each behind a slash: they are
where the segments end (`mem_run_segmentPatterns`), there is one if the segments of the template
take the segments of the path (`run_segmentPatterns_ne_nil`), and there the groups hold what the
parameters take (`value?_along`).
-/

namespace PathRouter.Template

open Pattern Text

variable {s t u : Scan} {ps : List Pattern}

/-- The scan with a slash and some characters taken, the characters by a group. -/
def captured (i : Nat) (x : String) (s : Scan) : Scan :=
  { (s.advance ['/']).advance x.toList with
    taken := (i, ⟨(s.advance ['/']).rest, x.toList.length⟩) :: s.taken }

/-- The scan behind some segments of a path, each with a slash before it, which the segments of a
template take; `index` groups are before them. -/
def along (index : Nat) : List Segment → List String → Scan → Scan
  | s :: ss, x :: xs, t =>
    match s.kind with
    | .literal => along index ss xs (t.advance ('/' :: x.toList))
    | .param => along (index + 1) ss xs (captured (index + 1) x t)
  | _, _, t => t

/-- The text of some segments, each with a slash before it. -/
def slashed (xs : List String) : List Char := xs.flatMap fun x => '/' :: x.toList

theorem mem_run_char {a : Char} : t ∈ (charPattern a).run s ↔
    ∃ c cs, s.rest = c :: cs ∧ fold c = fold a ∧ t = s.advance [c] := by
  simp only [charPattern, mem_run_one, CharSet.folded_single_iff]

theorem mem_run_slash : t ∈ (charPattern '/').run s ↔
    ∃ cs, s.rest = '/' :: cs ∧ t = s.advance ['/'] := by
  rw [mem_run_char]
  constructor
  · rintro ⟨c, cs, hr, hc, rfl⟩
    rw [fold_eq_slash_iff] at hc
    subst hc
    exact ⟨cs, hr, rfl⟩
  · rintro ⟨cs, hr, rfl⟩
    exact ⟨'/', cs, hr, rfl, rfl⟩

/-- Characters in sequence take characters that are equal to them up to case. -/
theorem mem_run_chars {as : List Char} (h : t ∈ (seqAll (as.map charPattern ++ ps)).run s) :
    ∃ x, List.Forall₂ (fun a c => fold a = fold c) as x ∧ x <+: s.rest ∧
      t ∈ (seqAll ps).run (s.advance x) := by
  induction as generalizing s with
  | nil => exact ⟨[], .nil, List.nil_prefix, h⟩
  | cons a as ih =>
    obtain ⟨u, hu, ht⟩ := mem_run_seqAll_cons h
    obtain ⟨c, cs, hr, hc, rfl⟩ := mem_run_char.mp hu
    obtain ⟨x, hx, hp, ht⟩ := ih ht
    refine ⟨c :: x, .cons hc.symm hx, ?_, ?_⟩
    · rw [Scan.advance_rest, hr] at hp
      rw [hr]
      exact (List.prefix_cons_inj c).mpr hp
    · rwa [Scan.advance_cons]

theorem run_chars_ne_nil {as x : List Char} (hx : List.Forall₂ (fun a c => fold a = fold c) as x)
    (hp : x <+: s.rest) (ht : (seqAll ps).run (s.advance x) ≠ []) :
    (seqAll (as.map charPattern ++ ps)).run s ≠ [] := by
  induction hx generalizing s with
  | nil => exact ht
  | @cons a c as x hc hx ih =>
    obtain ⟨cs, hcs⟩ := hp
    have hr : s.rest = c :: (x ++ cs) := hcs.symm
    have hu : s.advance [c] ∈ (charPattern a).run s :=
      mem_run_char.mpr ⟨c, x ++ cs, hr, hc.symm, rfl⟩
    refine run_seqAll_cons_ne_nil hu (ih ?_ ?_)
    · rw [Scan.advance_rest, hr]
      exact List.prefix_append x cs
    · rwa [← Scan.advance_cons]

theorem mem_of_forall₂ {as x : List Char} (h : List.Forall₂ (fun a c => fold a = fold c) as x)
    (hs : '/' ∈ x) : '/' ∈ as := by
  induction h with
  | nil => simp at hs
  | @cons a c as x hc _ ih =>
    rcases List.mem_cons.mp hs with rfl | hs
    · rw [fold_eq_slash_iff] at hc
      exact hc ▸ List.mem_cons_self
    · exact List.mem_cons_of_mem _ (ih hs)

/-- What is equal to a literal up to case can be a segment of a path as the literal can. -/
theorem isSegment_of_forall₂ {name : String} {x : List Char} (hn : Path.IsSegment name)
    (h : List.Forall₂ (fun a c => fold a = fold c) name.toList x) :
    Path.IsSegment (String.ofList x) := by
  rw [Path.IsSegment, String.toList_ofList]
  constructor
  · rintro rfl
    exact hn.1 (List.forall₂_nil_right_iff.mp h)
  · intro hs
    exact hn.2 (mem_of_forall₂ h hs)

/-- A value of a type: a segment of a path whose characters the type allows. -/
theorem mem_run_group_type {i : Nat} {type : ValueType} :
    t ∈ (group i (typePattern type)).run s ↔ ∃ x : String, Path.IsSegment x ∧
      (∀ c ∈ x.toList, type.Allows c) ∧ x.toList <+: s.rest ∧
      t = { s.advance x.toList with taken := (i, ⟨s.rest, x.toList.length⟩) :: s.taken } := by
  rw [mem_run_group]
  constructor
  · rintro ⟨u, hu, rfl⟩
    obtain ⟨x, hne, hx, hp, rfl⟩ := mem_run_oneOrMore.mp hu
    refine ⟨String.ofList x, ⟨?_, ?_⟩, ?_, ?_, ?_⟩
    · simpa using hne
    · rw [String.toList_ofList]
      intro hs
      exact (typeSet_iff.mp (hx _ hs)).1 rfl
    · rw [String.toList_ofList]
      exact fun c hc => (typeSet_iff.mp (hx c hc)).2
    · rwa [String.toList_ofList]
    · simp [Scan.advance]
  · rintro ⟨x, ⟨hne, hs⟩, hx, hp, rfl⟩
    refine ⟨s.advance x.toList, mem_run_oneOrMore.mpr ⟨x.toList, hne, ?_, hp, rfl⟩, ?_⟩
    · intro c hc
      refine typeSet_iff.mpr ⟨?_, hx c hc⟩
      rintro rfl
      exact hs hc
    · simp [Scan.advance]

/-- The patterns of segments take segments of a path. -/
theorem mem_run_segmentPatterns {ss : List Segment} {i : Nat}
    (hl : ∀ g ∈ ss, g.kind = .literal → Path.IsSegment g.name)
    (h : t ∈ (seqAll (segmentPatterns i ss ++ ps)).run s) :
    ∃ xs, List.Forall₂ Segment.Takes ss xs ∧ slashed xs <+: s.rest ∧
      t ∈ (seqAll ps).run (along i ss xs s) := by
  induction ss generalizing i s with
  | nil => exact ⟨[], .nil, List.nil_prefix, h⟩
  | cons g ss ih =>
    have hl' := fun f hf => hl f (List.mem_cons_of_mem _ hf)
    rw [segmentPatterns] at h
    cases hk : g.kind with
    | literal =>
      simp only [hk, List.cons_append, List.append_assoc] at h
      obtain ⟨u, hu, h⟩ := mem_run_seqAll_cons h
      obtain ⟨cs, hr, rfl⟩ := mem_run_slash.mp hu
      obtain ⟨x, hx, hp, h⟩ := mem_run_chars h
      obtain ⟨xs, hxs, hps, h⟩ := ih hl' h
      have hg := hl g List.mem_cons_self hk
      refine ⟨String.ofList x :: xs, .cons ⟨isSegment_of_forall₂ hg hx, ?_⟩ hxs, ?_, ?_⟩
      · simpa [hk] using hx
      · obtain ⟨ds, rfl⟩ : x <+: cs := by simpa [hr] using hp
        simpa [slashed, hr] using hps
      · rw [along]
        simpa [hk, Scan.advance_cons s '/' x] using h
    | param =>
      simp only [hk, List.cons_append] at h
      obtain ⟨u, hu, h⟩ := mem_run_seqAll_cons h
      obtain ⟨cs, hr, rfl⟩ := mem_run_slash.mp hu
      obtain ⟨u, hu, h⟩ := mem_run_seqAll_cons h
      obtain ⟨x, hseg, hx, hp, rfl⟩ := mem_run_group_type.mp hu
      obtain ⟨xs, hxs, hps, h⟩ := ih hl' h
      refine ⟨x :: xs, .cons ⟨hseg, ?_⟩ hxs, ?_, ?_⟩
      · simpa [hk] using hx
      · obtain ⟨ds, rfl⟩ : x.toList <+: cs := by simpa [hr] using hp
        simpa [slashed, hr] using hps
      · rw [along]
        simpa [hk, captured] using h

/-- If the text begins with segments that the template takes, the patterns of its segments have a
way to go along them. -/
theorem run_segmentPatterns_ne_nil {ss : List Segment} {xs : List String} {i : Nat}
    (h : List.Forall₂ Segment.Takes ss xs) (hp : slashed xs <+: s.rest)
    (ht : (seqAll ps).run (along i ss xs s) ≠ []) :
    (seqAll (segmentPatterns i ss ++ ps)).run s ≠ [] := by
  induction h generalizing i s with
  | nil => exact ht
  | @cons g x ss xs hg hxs ih =>
    obtain ⟨cs, hcs⟩ := hp
    have hr : s.rest = '/' :: (x.toList ++ (slashed xs ++ cs)) := by
      rw [← hcs]
      simp [slashed]
    have hu : s.advance ['/'] ∈ (charPattern '/').run s := mem_run_slash.mpr ⟨_, hr, rfl⟩
    have hp : x.toList <+: (s.advance ['/']).rest := by simp [hr]
    obtain ⟨hseg, hg⟩ := hg
    rw [along] at ht
    rw [segmentPatterns]
    cases hk : g.kind with
    | literal =>
      simp only [hk, List.cons_append, List.append_assoc] at hg ht ⊢
      refine run_seqAll_cons_ne_nil hu (run_chars_ne_nil hg hp (ih ?_ ?_))
      · simp [hr]
      · rwa [← Scan.advance_cons]
    | param =>
      simp only [hk, List.cons_append] at hg ht ⊢
      refine run_seqAll_cons_ne_nil hu (run_seqAll_cons_ne_nil
        (mem_run_group_type.mpr ⟨x, hseg, hg, hp, rfl⟩) (ih ?_ ht))
      simp [hr]

theorem rest_along {ss : List Segment} {xs : List String} {i : Nat}
    (h : List.Forall₂ Segment.Takes ss xs) :
    (along i ss xs s).rest = s.rest.drop (slashed xs).length := by
  induction h generalizing i s with
  | nil => rfl
  | @cons g x ss xs _ _ ih =>
    rw [along]
    cases g.kind with
    | literal => simp [ih, slashed, Nat.add_assoc, Nat.add_comm]
    | param => simp [ih, slashed, captured, Nat.add_assoc, Nat.add_comm]

/-! ### What the groups hold -/

/-- The segments of a path that the parameters take. -/
def values : List Segment → List String → List String
  | s :: ss, x :: xs =>
    match s.kind with
    | .literal => values ss xs
    | .param => x :: values ss xs
  | _, _ => []

theorem bound_eq_zip : ∀ (ss : List Segment) (xs : List String),
    Segment.bound ss xs = (paramNames ss).zip (values ss xs)
  | [], xs => rfl
  | g :: ss, [] => by simp [Segment.bound, values]
  | g :: ss, x :: xs => by
    have ih := bound_eq_zip ss xs
    rw [Segment.bound, paramNames] at ih
    have hg : g.isParam = (g.kind == .param) := rfl
    cases hk : g.kind <;> rw [hk] at hg <;> simp [Segment.bound, paramNames, values, hg, hk, ih]

theorem length_values {ss : List Segment} {xs : List String} (h : ss.length = xs.length) :
    (values ss xs).length = (paramNames ss).length := by
  induction ss generalizing xs with
  | nil => simp [values, paramNames]
  | cons g ss ih =>
    obtain ⟨x, xs, rfl⟩ := List.exists_cons_of_length_eq_add_one h.symm
    have hlen : ss.length = xs.length := Nat.succ.inj h
    have ih := ih hlen
    rw [paramNames] at ih
    have hg : g.isParam = (g.kind == .param) := rfl
    cases hk : g.kind <;> rw [hk] at hg <;> simp [values, paramNames, hg, hk, ih]

theorem value?_captured {i j : Nat} {x : String} (hp : '/' :: x.toList <+: s.rest) :
    (captured i x s).value? j = if j = i then some x else s.value? j := by
  obtain ⟨cs, hcs⟩ := hp
  unfold Scan.value? captured
  rw [List.lookup_cons]
  by_cases hj : j = i
  · subst hj
    simp [Span.value, ← hcs]
  · simp [hj, beq_eq_false_iff_ne.mpr hj]

/-- **What the groups hold** behind the segments of a path: those before stay, and each new one
holds the segment that its parameter takes. -/
theorem value?_along {ss : List Segment} {xs : List String} {i : Nat}
    (h : List.Forall₂ Segment.Takes ss xs) (hp : slashed xs <+: s.rest) :
    (∀ j ≤ i, (along i ss xs s).value? j = s.value? j) ∧
      ∀ k < (values ss xs).length, (along i ss xs s).value? (i + 1 + k) = (values ss xs)[k]? := by
  induction h generalizing i s with
  | nil => exact ⟨fun _ _ => rfl, fun k hk => by simp [values] at hk⟩
  | @cons g x ss xs _ _ ih =>
    obtain ⟨cs, hcs⟩ := hp
    have hr : s.rest = '/' :: (x.toList ++ (slashed xs ++ cs)) := by
      rw [← hcs]
      simp [slashed]
    have hx : '/' :: x.toList <+: s.rest := by simp [hr]
    rw [along, values]
    cases hk : g.kind with
    | literal => exact ih (by simp [hr])
    | param =>
      have hlater : slashed xs <+: (captured (i + 1) x s).rest := by simp [captured, hr]
      obtain ⟨hbefore, hnew⟩ := @ih (captured (i + 1) x s) (i + 1) hlater
      constructor
      · intro j hj
        show (along (i + 1) ss xs (captured (i + 1) x s)).value? j = _
        rw [hbefore j (by omega), value?_captured hx, if_neg (by omega)]
      · intro k hk
        show (along (i + 1) ss xs (captured (i + 1) x s)).value? (i + 1 + k) = _
        cases k with
        | zero =>
          rw [Nat.add_zero, hbefore (i + 1) (Nat.le_refl _), value?_captured hx, if_pos rfl]
          rfl
        | succ k =>
          have hk : k < (values ss xs).length := Nat.lt_of_succ_lt_succ hk
          have hindex : i + 1 + (k + 1) = i + 1 + 1 + k := by omega
          rw [hindex, hnew k hk]
          rfl

end PathRouter.Template

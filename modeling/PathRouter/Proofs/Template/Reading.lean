import Mathlib.Data.List.Basic
import PathRouter.Proofs.Path
import PathRouter.Table.Basic

/-!
# What a template is read as

The reader looks at one piece after another. What one piece can be read as is said once
(`readPiece_cases`), and from it what all pieces are read as: the first segment is a literal, and
the name of a literal is not empty and holds no slash (`proper_of_read`). The parameters have
distinct names (`nodup_of_read`). A template is refused (`refusal?`) if it does not stand for the
root path and is not read (`refusal?_eq_none_iff`).
-/

namespace PathRouter

/-- A result comes from a result of the first part. -/
theorem bind_eq_ok {ε α β : Type} {x : Except ε α} {f : α → Except ε β} {b : β} :
    x >>= f = .ok b ↔ ∃ a, x = .ok a ∧ f a = .ok b := by
  cases x <;> simp [bind, Except.bind]

/-- An error is that of the first part, or comes behind a result of it. -/
theorem bind_eq_error {ε α β : Type} {x : Except ε α} {f : α → Except ε β} {e : ε} :
    x >>= f = .error e ↔ x = .error e ∨ ∃ a, x = .ok a ∧ f a = .error e := by
  cases x <;> simp [bind, Except.bind]

theorem map_eq_ok {ε α β : Type} {x : Except ε α} {f : α → β} {b : β} :
    x.map f = .ok b ↔ ∃ a, x = .ok a ∧ f a = b := by
  cases x <;> simp [Except.map]

theorem mapError_eq_ok {ε ε' α : Type} {x : Except ε α} {f : ε → ε'} {a : α} :
    x.mapError f = .ok a ↔ x = .ok a := by
  cases x <;> simp [Except.mapError]

namespace Template

/-- What the segments of a template are like: a literal comes first, and the literals can be
segments of paths. -/
structure Proper (segments : List Segment) : Prop where
  first : ∃ s rest, segments = s :: rest ∧ s.kind = .literal
  literals : ∀ s ∈ segments, s.kind = .literal → Path.IsSegment s.name

variable {template : String} {earlier segments : List Segment} {p : List Char} {s : Segment}

/-- What a piece is read as: a parameter, if it begins with the mark of one and is not the first, or
a literal. -/
theorem readPiece_cases (h : readPiece template earlier p = .ok s) :
    (earlier ≠ [] ∧ ∃ name type, s = .ofParam name type) ∨ s = .ofLiteral (String.ofList p) := by
  unfold readPiece at h
  split at h
  · next cs =>
    split_ifs at h with he
    obtain ⟨⟨name, type⟩, -, h⟩ := bind_eq_ok.mp h
    dsimp only at h
    split_ifs at h
    rw [Except.ok.injEq] at h
    exact Or.inl ⟨by simpa using he, name, type, h.symm⟩
  · rw [Except.ok.injEq] at h
    exact Or.inr h.symm

/-- A property of what is read that one piece keeps holds of all segments. -/
theorem readPieces_induction {P : List Segment → Prop} {template : String}
    (step : ∀ earlier p s, P earlier → p ≠ [] ∧ '/' ∉ p →
      readPiece template earlier p = .ok s → P (earlier ++ [s])) :
    ∀ {ps : List (List Char)} {earlier segments : List Segment},
      (∀ p ∈ ps, p ≠ [] ∧ '/' ∉ p) → P earlier →
      readPieces template earlier ps = .ok segments → P segments
  | [], _, _, _, hP, h => by
    rw [readPieces, Except.ok.injEq] at h
    exact h ▸ hP
  | p :: ps, earlier, segments, hps, hP, h => by
    rw [readPieces] at h
    obtain ⟨s, hs, h⟩ := bind_eq_ok.mp h
    have hp := hps p List.mem_cons_self
    exact readPieces_induction step (fun q hq => hps q (List.mem_cons_of_mem _ hq))
      (step earlier p s hP hp hs) h

theorem length_readPieces : ∀ {ps : List (List Char)} {earlier segments : List Segment},
    readPieces template earlier ps = .ok segments → segments.length = earlier.length + ps.length
  | [], _, _, h => by
    rw [readPieces, Except.ok.injEq] at h
    rw [h]
    rfl
  | p :: ps, earlier, segments, h => by
    rw [readPieces] at h
    obtain ⟨s, -, h⟩ := bind_eq_ok.mp h
    have := length_readPieces h
    rw [List.length_append, List.length_singleton] at this
    rw [List.length_cons]
    omega

/-- A template that is read has pieces, as many as it has segments, and not more than the limit. -/
theorem readPieces_of_read {limit : Nat} (h : read limit template = .ok segments) :
    readPieces template [] (Text.segments template.toList) = .ok segments ∧ segments ≠ [] ∧
      segments.length ≤ limit := by
  unfold read at h
  dsimp only at h
  split_ifs at h with he hl
  have hn := length_readPieces h
  have hp : (Text.segments template.toList).length ≠ 0 := by simpa using he
  rw [List.length_nil, Nat.zero_add] at hn
  refine ⟨h, ?_, by omega⟩
  rintro rfl
  exact hp hn.symm

theorem length_of_read {limit : Nat} (h : read limit template = .ok segments) :
    segments.length = (Text.segments template.toList).length := by
  rw [length_readPieces (readPieces_of_read h).1, List.length_nil, Nat.zero_add]

variable {ps : List (List Char)}

theorem first_of_readPieces (hps : ∀ p ∈ ps, p ≠ [] ∧ '/' ∉ p)
    (h : readPieces template [] ps = .ok segments) :
    ∀ s, segments.head? = some s → s.kind = .literal := by
  refine readPieces_induction (P := fun ss => ∀ s, ss.head? = some s → s.kind = .literal)
    ?_ hps (by simp) h
  intro earlier p s hfirst _ hs u hu
  cases earlier with
  | nil =>
    rw [List.nil_append, List.head?_cons, Option.some.injEq] at hu
    subst hu
    rcases readPiece_cases hs with ⟨he, -⟩ | rfl
    · exact absurd rfl he
    · rfl
  | cons e es => exact hfirst u hu

theorem literals_of_readPieces (hps : ∀ p ∈ ps, p ≠ [] ∧ '/' ∉ p)
    (h : readPieces template [] ps = .ok segments) :
    ∀ s ∈ segments, s.kind = .literal → Path.IsSegment s.name := by
  refine readPieces_induction
    (P := fun ss => ∀ s ∈ ss, s.kind = .literal → Path.IsSegment s.name) ?_ hps (by simp) h
  intro earlier p s hlit hp hs u hu hk
  rcases List.mem_append.mp hu with hu | hu
  · exact hlit u hu hk
  · rw [List.mem_singleton] at hu
    subst hu
    rcases readPiece_cases hs with ⟨-, name, type, rfl⟩ | rfl
    · simp [Segment.ofParam] at hk
    · simpa [Segment.ofLiteral, Path.IsSegment] using hp

/-- **The segments of a template** begin with a literal, and their literals can be segments of
paths. -/
theorem proper_of_read {limit : Nat} (h : read limit template = .ok segments) :
    Proper segments := by
  obtain ⟨hr, hne, -⟩ := readPieces_of_read h
  have hps : ∀ p ∈ Text.segments template.toList, p ≠ [] ∧ '/' ∉ p := fun _ => Text.mem_segments
  obtain ⟨s, rest, rfl⟩ := List.exists_cons_of_ne_nil hne
  exact ⟨⟨s, rest, rfl, first_of_readPieces hps hr s rfl⟩, literals_of_readPieces hps hr⟩

/-! ### Names of parameters -/

theorem paramNames_append (ss ts : List Segment) :
    paramNames (ss ++ ts) = paramNames ss ++ paramNames ts := by
  rw [paramNames, List.filter_append, List.map_append]
  rfl

/-- A parameter is named like no earlier one. -/
theorem not_mem_of_readPiece (h : readPiece template earlier p = .ok s) (hs : s.isParam) :
    s.name ∉ paramNames earlier := by
  unfold readPiece at h
  split at h
  · split_ifs at h
    obtain ⟨⟨name, type⟩, -, h⟩ := bind_eq_ok.mp h
    dsimp only at h
    split_ifs at h with hempty hdup
    obtain rfl : Segment.ofParam name type = s := Except.ok.inj h
    intro hmem
    obtain ⟨e, he, hname⟩ := List.mem_map.mp hmem
    obtain ⟨he, hparam⟩ := List.mem_filter.mp he
    exact hdup (List.any_eq_true.mpr ⟨e, he, by simpa [hparam, Segment.ofParam] using hname⟩)
  · obtain rfl : Segment.ofLiteral (String.ofList p) = s := Except.ok.inj h
    simp [Segment.isParam, Segment.ofLiteral] at hs

/-- **The parameters of a template** have distinct names. -/
theorem nodup_of_read {limit : Nat} (h : read limit template = .ok segments) :
    (paramNames segments).Nodup := by
  have hps : ∀ p ∈ Text.segments template.toList, p ≠ [] ∧ '/' ∉ p := fun _ => Text.mem_segments
  refine readPieces_induction (P := fun ss => (paramNames ss).Nodup) ?_ hps
    (by simp [paramNames]) (readPieces_of_read h).1
  intro earlier p s hnodup _ hs
  rw [paramNames_append]
  by_cases hparam : s.isParam
  · have hnew : s.name ∉ paramNames earlier := not_mem_of_readPiece hs hparam
    have hone : paramNames [s] = [s.name] := by simp [paramNames, hparam]
    rw [hone]
    refine List.nodup_append.mpr ⟨hnodup, by simp, ?_⟩
    rintro a ha b hb rfl
    exact hnew (List.mem_singleton.mp hb ▸ ha)
  · have hnone : paramNames [s] = [] := by simp [paramNames, hparam]
    rwa [hnone, List.append_nil]

/-! ### Templates that are refused -/

variable {limit : Nat}

/-- Why a template is refused, if it is. One that stands for the root path is not read. -/
def refusal? (limit : Nat) (template : String) : Option CompileError :=
  if isRoot template then none
  else
    match read limit template with
    | .ok _ => none
    | .error e => some e

theorem refusal?_eq_none_iff :
    refusal? limit template = none ↔ isRoot template ∨ ∃ ss, read limit template = .ok ss := by
  unfold refusal?
  by_cases hr : isRoot template
  · simp [hr]
  · cases read limit template <;> simp [hr]

/-- Without a limit every template is refused, but those that stand for the root path. -/
theorem refusal?_zero : refusal? 0 template = none ↔ isRoot template := by
  rw [refusal?_eq_none_iff, or_iff_left_iff_imp]
  rintro ⟨ss, hs⟩
  obtain ⟨-, hne, hlen⟩ := readPieces_of_read hs
  exact absurd (List.eq_nil_of_length_eq_zero (Nat.le_zero.mp hlen)) hne

theorem isRoot_iff : isRoot template ↔ template ≠ "" ∧ ∀ c ∈ template.toList, c = '/' := by
  simp [isRoot]

/-- Between slashes only there is nothing. -/
theorem segments_of_isRoot (h : isRoot template) : Text.segments template.toList = [] := by
  obtain ⟨-, h⟩ := isRoot_iff.mp h
  generalize template.toList = cs at h
  induction cs with
  | nil => rfl
  | cons c cs ih =>
    rw [h c List.mem_cons_self, Text.segments_slash]
    exact ih fun d hd => h d (List.mem_cons_of_mem _ hd)

end Template

/-- A compiled route has the segments of its template. -/
theorem Route.compile_eq_ok {limit : Nat} {template : String} {callback : Callback} {r : Route}
    (h : Route.compile limit template callback = .ok r) :
    ∃ segments, Template.read limit template = .ok segments ∧
      r = Route.ofSegments segments callback := by
  obtain ⟨segments, hs, h⟩ := bind_eq_ok.mp h
  rw [Except.ok.injEq] at h
  exact ⟨segments, hs, h.symm⟩

end PathRouter

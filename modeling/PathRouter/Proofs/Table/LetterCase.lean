import PathRouter.Proofs.Table.Index
import PathRouter.Proofs.Text.AsciiCase

/-!
# Answers do not depend on the case of ASCII letters

When the ASCII letters of a raw path are lowered, the segments of its normal form are the lowered
ones (`Path.segments_asciiLowercase`). A segment of a template takes the same of them as before
(`Segment.takes_asciiLowercase`), so a compiled route takes the same paths and binds the lowered
values (`Route.verify?_asciiLowercase`), and the key of the first segment stays as it is. So a table
of compiled routes gives the same answer with lowered values (`Table.resolve_asciiLowercase`), and
two paths that are lowered to the same path cannot be told apart by more than the case of the values
(`Table.resolve_of_asciiLowercase_eq`).
-/

namespace PathRouter

open Text

/-! ### Paths -/

namespace Path

theorem location_asciiLowercase (raw : String) :
    location (asciiLowercase raw) = asciiLowercase (location raw) := by
  have hmark : (fun c => c != '?' && c != '#') ∘ asciiLower = fun c => c != '?' && c != '#' :=
    funext (apply_asciiLower (f := fun c => c != '?' && c != '#') (by decide))
  rw [location, location, toList_asciiLowercase, List.takeWhile_map, hmark, asciiLowercase_ofList]

/-- The segments of a base are removed from lowered segments as from those that they come from. -/
theorem dropBase?_map : ∀ base all : List String,
    dropBase? base (all.map asciiLowercase) = (dropBase? base all).map (List.map asciiLowercase)
  | [], _ => rfl
  | _ :: _, [] => rfl
  | b :: base, s :: all => by
    rw [List.map_cons, dropBase?, dropBase?, lowercase_asciiLowercase, dropBase?_map base all]
    split_ifs <;> rfl

/-- **The segments of a path with lowered letters** are its lowered segments. -/
theorem segments_asciiLowercase (raw : String) (baseUrl : Option String) :
    segments (asciiLowercase raw) baseUrl = (segments raw baseUrl).map asciiLowercase := by
  unfold segments
  rw [location_asciiLowercase, segmentsOf_asciiLowercase]
  cases baseUrl with
  | none => rfl
  | some base =>
    show (dropBase? _ _).getD _ = ((dropBase? _ _).getD _).map _
    rw [dropBase?_map, Option.getD_map]

theorem isSegment_asciiLowercase (x : String) : IsSegment (asciiLowercase x) ↔ IsSegment x := by
  have hslash : ∀ c, asciiLower c = '/' ↔ c = '/' := asciiLower_eq_iff (by decide)
  unfold IsSegment
  rw [toList_asciiLowercase]
  simp only [ne_eq, List.map_eq_nil_iff, List.mem_map, hslash, exists_eq_right]

end Path

/-! ### Segments of templates -/

theorem ValueType.allows_asciiLower (type : ValueType) (c : Char) :
    type.Allows (asciiLower c) ↔ type.Allows c := by
  have hdigit : (asciiLower c).isDigit = c.isDigit := apply_asciiLower (by decide) c
  cases type with
  | untyped => exact Iff.rfl
  | str =>
    have hmark : decide (asciiLower c ∈ ['-', '_', '.', '+', '~', '?', '!']) =
        decide (c ∈ ['-', '_', '.', '+', '~', '?', '!']) :=
      apply_asciiLower (f := fun c => decide (c ∈ ['-', '_', '.', '+', '~', '?', '!']))
        (by decide) c
    simp only [Allows, fold_asciiLower, decide_eq_decide.mp hmark]
  | int => simp only [Allows, hdigit]
  | float =>
    have hpoint : asciiLower c = '.' ↔ c = '.' := asciiLower_eq_iff (by decide) c
    simp only [Allows, hdigit, hpoint]

namespace Segment

/-- **What a segment of a template takes** does not depend on the case of ASCII letters. -/
theorem takes_asciiLowercase (s : Segment) (x : String) :
    s.Takes (asciiLowercase x) ↔ s.Takes x := by
  unfold Takes
  rw [Path.isSegment_asciiLowercase, toList_asciiLowercase]
  cases s.kind with
  | literal => simp only [List.forall₂_map_right_iff, fold_asciiLower]
  | param => simp only [List.forall_mem_map, ValueType.allows_asciiLower]

theorem forall₂_takes_map {ss : List Segment} {xs : List String} :
    List.Forall₂ Takes ss (xs.map asciiLowercase) ↔ List.Forall₂ Takes ss xs := by
  simp only [List.forall₂_map_right_iff, takes_asciiLowercase]

/-- Parameters with their values lowered. -/
def lowered (params : List (String × String)) : List (String × String) :=
  params.map fun p => (p.1, asciiLowercase p.2)

theorem bound_map (ss : List Segment) (xs : List String) :
    bound ss (xs.map asciiLowercase) = lowered (bound ss xs) := by
  unfold bound lowered
  rw [List.zip_map_right, List.filter_map, List.map_map, List.map_map]
  rfl

theorem forall₂_of_lowered_eq : ∀ {ps qs : List (String × String)}, lowered ps = lowered qs →
    List.Forall₂ (fun p q => p.1 = q.1 ∧ asciiLowercase p.2 = asciiLowercase q.2) ps qs
  | [], [], _ => .nil
  | [], _ :: _, h => by simp [lowered] at h
  | _ :: _, [], h => by simp [lowered] at h
  | p :: ps, q :: qs, h => by
    obtain ⟨hp, hps⟩ := List.cons.inj h
    exact .cons (Prod.mk.inj hp) (forall₂_of_lowered_eq hps)

end Segment

/-! ### Routes -/

/-- The match with the values of its parameters lowered. -/
def RouteMatch.lowered (m : RouteMatch) : RouteMatch := { m with params := Segment.lowered m.params }

section Routes
variable {limit : Nat} {r : Route} {ys : List String}

/-- **A compiled route** takes a path with lowered letters if it takes the path, and binds the
lowered values. -/
theorem Route.verify?_asciiLowercase
    (h : ∃ template callback, Route.compile limit template callback = .ok r)
    (hys : ∀ y ∈ ys, Path.IsSegment y) :
    r.verify? (Path.ofSegments (ys.map asciiLowercase)) =
      (r.verify? (Path.ofSegments ys)).map Segment.lowered := by
  obtain ⟨template, callback, hc⟩ := h
  have hlowered : ∀ y ∈ ys.map asciiLowercase, Path.IsSegment y := by
    simpa only [List.forall_mem_map, Path.isSegment_asciiLowercase] using hys
  refine Option.ext fun params => ?_
  rw [verify?_normal hc hlowered, Segment.forall₂_takes_map, Segment.bound_map,
    Option.map_eq_some_iff]
  simp only [verify?_normal hc hys]
  constructor
  · rintro ⟨ht, rfl⟩
    exact ⟨_, ⟨ht, rfl⟩, rfl⟩
  · rintro ⟨bound, ⟨ht, rfl⟩, rfl⟩
    exact ⟨ht, rfl⟩

theorem History.firstTaking_asciiLowercase {rs : List Route}
    (h : ∀ r ∈ rs, ∃ template callback, Route.compile limit template callback = .ok r)
    (hys : ∀ y ∈ ys, Path.IsSegment y) :
    firstTaking (Path.ofSegments (ys.map asciiLowercase)) rs =
      (firstTaking (Path.ofSegments ys) rs).map RouteMatch.lowered := by
  induction rs with
  | nil => rfl
  | cons r rs ih =>
    rw [firstTaking, firstTaking, Route.verify?_asciiLowercase (h r List.mem_cons_self) hys,
      ih fun s hs => h s (List.mem_cons_of_mem _ hs)]
    cases r.verify? (Path.ofSegments ys) <;> rfl

end Routes

/-! ### Tables -/

namespace Table

open History

variable {options : TableOptions} {calls : List Call}

theorem compile_of_mem_candidates (h : ∀ c ∈ calls, ∀ blob, c ≠ .addCached blob) {first : String} :
    ∀ r ∈ candidates options calls first,
      ∃ template callback, Route.compile options.maxSegments template callback = .ok r := by
  intro r hr
  rw [candidates, Priority.mem_order] at hr
  exact compile_of_mem_stored h (List.mem_filter.mp hr).1

/-- **A path with lowered letters** has the answer of the path, with lowered values. -/
theorem resolve_asciiLowercase (h : ∀ c ∈ calls, ∀ blob, c ≠ .addCached blob) (raw : String) :
    (run { options } calls).resolve (asciiLowercase raw) =
      ((run { options } calls).resolve raw).map RouteMatch.lowered := by
  have hys : ∀ y ∈ Path.segments raw options.baseUrl, Path.IsSegment y :=
    fun _ => Path.isSegment_of_mem_segments
  have hlowered : Path.normalize (asciiLowercase raw) options.baseUrl =
      Path.ofSegments ((Path.segments raw options.baseUrl).map asciiLowercase) := by
    rw [Path.normalize, Path.segments_asciiLowercase]
  have hcompiled : ∀ first, ∀ r ∈ candidates options calls first,
      ∃ template callback, Route.compile options.maxSegments template callback = .ok r :=
    fun _ => compile_of_mem_candidates h
  have htaking := firstTaking_asciiLowercase
    (hcompiled ((Path.segments raw options.baseUrl).headD "")) hys
  simp only [resolve_run, answer, firstOf, Path.normalize_eq_root_iff, Path.segmentsOf_normalize,
    Path.segments_asciiLowercase, List.map_eq_nil_iff]
  rw [hlowered]
  cases hs : Path.segments raw options.baseUrl with
  | nil =>
    rw [if_pos rfl, if_pos rfl]
    cases lastHome calls <;> rfl
  | cons first rest =>
    have hkey : candidates options calls (asciiLowercase first) = candidates options calls first := by
      rw [candidates, candidates, lowercase_asciiLowercase]
    have hnormal : Path.normalize raw options.baseUrl = Path.ofSegments (first :: rest) := by
      rw [Path.normalize, hs]
    rw [hs, List.headD_cons] at htaking
    rw [if_neg (by simp), if_neg (by simp), List.map_cons, List.headD_cons, List.headD_cons, hkey,
      hnormal, ← List.map_cons, htaking]
    cases firstTaking (Path.ofSegments (first :: rest)) (candidates options calls first) with
    | some m => rfl
    | none => cases lastError calls <;> rfl

/-- **Paths that differ only in the case of ASCII letters** get the same error, or the same outcome
from the same route, with the same parameters and values that differ in this case only. -/
theorem resolve_of_asciiLowercase_eq (h : ∀ c ∈ calls, ∀ blob, c ≠ .addCached blob)
    {raw raw' : String} (hraw : asciiLowercase raw = asciiLowercase raw') :
    (∃ e, (run { options } calls).resolve raw = .error e ∧
      (run { options } calls).resolve raw' = .error e) ∨
    ∃ m n, (run { options } calls).resolve raw = .ok m ∧
      (run { options } calls).resolve raw' = .ok n ∧
      m.outcome = n.outcome ∧ m.route = n.route ∧
      List.Forall₂ (fun p q => p.1 = q.1 ∧ asciiLowercase p.2 = asciiLowercase q.2)
        m.params n.params := by
  have hsame : ((run { options } calls).resolve raw).map RouteMatch.lowered =
      ((run { options } calls).resolve raw').map RouteMatch.lowered := by
    rw [← resolve_asciiLowercase h, ← resolve_asciiLowercase h, hraw]
  cases hm : (run { options } calls).resolve raw with
  | error e =>
    cases hn : (run { options } calls).resolve raw' with
    | error f =>
      rw [hm, hn] at hsame
      obtain rfl : e = f := Except.error.inj hsame
      exact Or.inl ⟨e, rfl, rfl⟩
    | ok n =>
      rw [hm, hn] at hsame
      cases hsame
  | ok m =>
    cases hn : (run { options } calls).resolve raw' with
    | error f =>
      rw [hm, hn] at hsame
      cases hsame
    | ok n =>
      rw [hm, hn] at hsame
      have hlowered : m.lowered = n.lowered := Except.ok.inj hsame
      obtain ⟨hroute, houtcome, hparams⟩ := RouteMatch.mk.inj hlowered
      exact Or.inr ⟨m, n, rfl, rfl, houtcome, hroute, Segment.forall₂_of_lowered_eq hparams⟩

/-- A base in Greek, whose last sigma stands before an ASCII mark, under a base URL: the values keep
the case that they were written in. -/
theorem resolve_of_asciiLowercase_eq_sigma :
    asciiLowercase "/APP/ΑΣ-K/Xé" = asciiLowercase "/app/ΑΣ-k/xé" ∧
    ∃ m n, (run { options := { baseUrl := some "App" } } [.setHome (.direct "home"),
        .setError (.direct "error"), .addRoute "ΑΣ-k/$v" (.direct "show")]).resolve
          "/APP/ΑΣ-K/Xé" = .ok m ∧
      (run { options := { baseUrl := some "App" } } [.setHome (.direct "home"),
        .setError (.direct "error"), .addRoute "ΑΣ-k/$v" (.direct "show")]).resolve
          "/app/ΑΣ-k/xé" = .ok n ∧
      m.outcome = .matched ∧ n.outcome = .matched ∧ m.route = n.route ∧
      m.params = [("v", "Xé")] ∧ n.params = [("v", "xé")] := by
  have hcalls : ∀ c ∈ [Call.setHome (.direct "home"), .setError (.direct "error"),
      .addRoute "ΑΣ-k/$v" (.direct "show")], ∀ blob, c ≠ .addCached blob := by
    simp
  have hraw : asciiLowercase "/APP/ΑΣ-K/Xé" = asciiLowercase "/app/ΑΣ-k/xé" := by decide +kernel
  have hanswer : ∀ p ∈ [("/APP/ΑΣ-K/Xé", "Xé"), ("/app/ΑΣ-k/xé", "xé")],
      ((run { options := { baseUrl := some "App" } } [.setHome (.direct "home"),
        .setError (.direct "error"), .addRoute "ΑΣ-k/$v" (.direct "show")]).resolve
          p.1).toOption.map (fun m => (m.outcome, m.params)) =
        some (.matched, [("v", p.2)]) := by decide +kernel
  have hupper := hanswer _ List.mem_cons_self
  have hlower := hanswer _ (List.mem_cons_of_mem _ List.mem_cons_self)
  refine ⟨hraw, ?_⟩
  obtain ⟨e, he, -⟩ | ⟨m, n, hm, hn, -, hroute, -⟩ :=
    @resolve_of_asciiLowercase_eq { baseUrl := some "App" } _ hcalls _ _ hraw
  · rw [he] at hupper
    cases hupper
  · rw [hm] at hupper
    rw [hn] at hlower
    obtain ⟨ho, hp⟩ := Prod.mk.inj (Option.some.inj hupper)
    obtain ⟨ho', hp'⟩ := Prod.mk.inj (Option.some.inj hlower)
    exact ⟨m, n, hm, hn, ho, ho', hroute, hp, hp'⟩

end Table

end PathRouter

import PathRouter.Proofs.Route.Verify
import PathRouter.Proofs.Table.History
import PathRouter.Proofs.Text.Lowercase

/-!
# What the buckets hide

A path is looked up in the bucket of its first segment only, by lower case, while routes take paths
up to case folding. A bucket holds exactly the stored routes with its key (`mem_bucket_run_iff`), so
a route that takes a path is found if its base and the first segment have the same lower case. They
are equal up to case in any case (`Route.base_of_verify?`), but a stray character or a sigma can
still keep them apart (`resolve_hides_long_s`): the buckets hide no route from a path if and only if
some route that takes it is lowered like it (`resolve_scan_iff`).
-/

namespace PathRouter

namespace Table

open History

/-- A match that is found among some routes is the match of one of them. -/
theorem matched_of_findSome? {rs : List Route} {path : String} {m : RouteMatch}
    (h : rs.findSome? (·.match? path) = some m) :
    m.outcome = .matched ∧ ∃ r ∈ rs, (r.verify? path).isSome := by
  obtain ⟨r, hr, hm⟩ := List.exists_of_findSome?_eq_some h
  rw [Route.match?, Option.map_eq_some_iff] at hm
  obtain ⟨params, hp, rfl⟩ := hm
  exact ⟨rfl, r, hr, by rw [hp]; rfl⟩

theorem verify?_of_findSome? {rs : List Route} {path : String} {r : Route}
    (h : rs.findSome? (·.match? path) = none) (hr : r ∈ rs) : r.verify? path = none := by
  have hm := List.findSome?_eq_none_iff.mp h r hr
  rwa [Route.match?, Option.map_eq_none_iff] at hm

/-- A path is answered by a matching route if one in its bucket takes it. -/
theorem resolve_matched_iff (t : Table) {raw : String}
    (hraw : Path.normalize raw t.options.baseUrl ≠ "/") :
    (∃ m, t.resolve raw = .ok m ∧ m.outcome = .matched) ↔
      ∃ r ∈ (t.bucket? (firstOf (Path.normalize raw t.options.baseUrl))).getD [],
        (r.verify? (Path.normalize raw t.options.baseUrl)).isSome := by
  rw [ne_eq, Path.normalize_eq_root_iff] at hraw
  obtain ⟨first, rest, hs⟩ := List.exists_cons_of_ne_nil hraw
  simp only [resolve, firstOf, Path.firstSegment?_normalize, Path.segmentsOf_normalize, hs,
    List.head?_cons, List.headD_cons]
  generalize Path.normalize raw t.options.baseUrl = path
  cases hf : ((t.bucket? first).getD []).findSome? (·.match? path) with
  | some m =>
    obtain ⟨ho, hr⟩ := matched_of_findSome? hf
    exact iff_of_true ⟨m, rfl, ho⟩ hr
  | none =>
    refine iff_of_false ?_ ?_
    · rintro ⟨m, hm, ho⟩
      rw [notFound_eq] at hm
      cases he : t.error with
      | none => simp [he] at hm
      | some r =>
        simp only [he, Except.ok.injEq] at hm
        subst hm
        simp at ho
    · rintro ⟨r, hr, hv⟩
      rw [verify?_of_findSome? hf hr] at hv
      simp at hv

variable (options : TableOptions) (calls : List Call)

/-- **A bucket** holds the stored routes with its key and no others. -/
theorem mem_bucket_run_iff (k : String) (r : Route) :
    r ∈ ((run { options } calls).buckets.lookup k).getD [] ↔
      r ∈ stored options calls ∧ key r.base = k := by
  rw [lookup_run, storedUnder, Priority.mem_order, List.mem_filter, beq_iff_eq]

/-- The routes in the buckets are the stored ones. -/
theorem mem_routes_run_iff (r : Route) :
    r ∈ (run { options } calls).buckets.routes ↔ r ∈ stored options calls := by
  rw [Buckets.mem_routes]
  constructor
  · rintro ⟨b, hb, hr⟩
    have hl := Buckets.lookup_of_mem (ascending_run options calls) hb
    exact ((mem_bucket_run_iff options calls b.1 r).mp (by rw [hl]; exact hr)).1
  · intro hr
    have hmem := (mem_bucket_run_iff options calls (key r.base) r).mpr ⟨hr, rfl⟩
    cases hl : (run { options } calls).buckets.lookup (key r.base) with
    | none => simp [hl] at hmem
    | some rs =>
      rw [hl, Option.getD_some] at hmem
      exact ⟨_, Assoc.mem_of_lookup hl, hmem⟩

variable {options calls}

/-- Without cached routes the stored ones are compiled. -/
theorem compile_of_mem_stored (h : ∀ c ∈ calls, ∀ blob, c ≠ .addCached blob) {r : Route}
    (hr : r ∈ stored options calls) :
    ∃ template callback, Route.compile options.maxSegments template callback = .ok r := by
  obtain ⟨c, hc, hs⟩ := List.mem_filterMap.mp hr
  rcases Call.stored?_cases hs with ⟨template, callback, -, hr⟩ | ⟨blob, rfl, -⟩
  · exact ⟨template, callback, hr⟩
  · exact absurd rfl (h _ hc blob)

/-- A path is answered by a matching route if and only if one that takes it is lowered like it. -/
theorem resolve_run_matched_iff (h : ∀ c ∈ calls, ∀ blob, c ≠ .addCached blob) {raw path : String}
    (hpath : Path.normalize raw options.baseUrl = path) (hroot : path ≠ "/") :
    (∃ m, (run { options } calls).resolve raw = .ok m ∧ m.outcome = .matched) ↔
      ∃ r ∈ (run { options } calls).buckets.routes,
        (r.verify? path).isSome ∧ Text.LoweredAlike r.base (firstOf path) := by
  subst hpath
  have ho : (run { options } calls).options = options := run_options _ calls
  have hraw : Path.normalize raw (run { options } calls).options.baseUrl ≠ "/" := by rwa [ho]
  rw [resolve_matched_iff _ hraw, ho]
  have hkey : ∀ r ∈ stored options calls,
      (r.verify? (Path.normalize raw options.baseUrl)).isSome →
      (key r.base = key (firstOf (Path.normalize raw options.baseUrl)) ↔
        Text.LoweredAlike r.base (firstOf (Path.normalize raw options.baseUrl))) := by
    intro r hr hv
    obtain ⟨template, callback, hc⟩ := compile_of_mem_stored h hr
    exact Text.lowercase_eq_iff (Route.base_of_verify? hc hv)
  constructor
  · rintro ⟨r, hr, hv⟩
    obtain ⟨hr, hk⟩ := (mem_bucket_run_iff options calls _ r).mp hr
    exact ⟨r, (mem_routes_run_iff options calls r).mpr hr, hv, (hkey r hr hv).mp hk⟩
  · rintro ⟨r, hr, hv, hl⟩
    have hr := (mem_routes_run_iff options calls r).mp hr
    exact ⟨r, (mem_bucket_run_iff options calls _ r).mpr ⟨hr, (hkey r hr hv).mpr hl⟩, hv⟩

/-- **When the buckets hide no route**: a look-up agrees with a scan of all routes if and only if a
path that some route takes is taken by one that is lowered like it. -/
theorem resolve_scan_iff (h : ∀ c ∈ calls, ∀ blob, c ≠ .addCached blob) {raw path : String}
    (hpath : Path.normalize raw options.baseUrl = path) (hroot : path ≠ "/") :
    ((∃ m, (run { options } calls).resolve raw = .ok m ∧ m.outcome = .matched) ↔
      ∃ r ∈ (run { options } calls).buckets.routes, (r.verify? path).isSome) ↔
    ((∃ r ∈ (run { options } calls).buckets.routes, (r.verify? path).isSome) →
      ∃ r ∈ (run { options } calls).buckets.routes,
        (r.verify? path).isSome ∧ Text.LoweredAlike r.base (firstOf path)) := by
  rw [resolve_run_matched_iff h hpath hroot]
  constructor
  · intro hiff
    exact hiff.mpr
  · intro himp
    refine ⟨?_, himp⟩
    rintro ⟨r, hr, hv, -⟩
    exact ⟨r, hr, hv⟩

/-- A look-up agrees with a scan where the base and the first segment hold no strays and no
sigma. -/
theorem resolve_scan_umlaut :
    (∃ m, (run {} [.setHome (.direct "home"), .setError (.direct "error"),
        .addRoute "Äpfel/$n:int" (.direct "show")]).resolve "/äPFEL/3" = .ok m ∧
      m.outcome = .matched) ↔
    ∃ r ∈ (run {} [.setHome (.direct "home"), .setError (.direct "error"),
        .addRoute "Äpfel/$n:int" (.direct "show")]).buckets.routes,
      (r.verify? "/äPFEL/3").isSome := by
  have hcalls : ∀ c ∈ [Call.setHome (.direct "home"), Call.setError (.direct "error"),
      Call.addRoute "Äpfel/$n:int" (.direct "show")], ∀ blob, c ≠ .addCached blob := by
    simp
  refine (resolve_scan_iff hcalls (by decide) (by decide)).mpr ?_
  intro _
  decide +kernel

/-- **The buckets can hide a route.** The long s folds to `s`, but is in lower case itself. -/
theorem resolve_hides_long_s :
    ¬ ((∃ m, (run {} [.setHome (.direct "home"), .setError (.direct "error"),
          .addRoute "ſ" (.direct "show")]).resolve "/s" = .ok m ∧ m.outcome = .matched) ↔
      ∃ r ∈ (run {} [.setHome (.direct "home"), .setError (.direct "error"),
          .addRoute "ſ" (.direct "show")]).buckets.routes,
        (r.verify? (Path.normalize "/s" none)).isSome) := by
  have hscan : ∃ r ∈ (run {} [.setHome (.direct "home"), .setError (.direct "error"),
      .addRoute "ſ" (.direct "show")]).buckets.routes,
      (r.verify? (Path.normalize "/s" none)).isSome := by decide +kernel
  have hanswer : ((run {} [.setHome (.direct "home"), .setError (.direct "error"),
      .addRoute "ſ" (.direct "show")]).resolve "/s").toOption.map RouteMatch.outcome =
        some .notFound := by decide +kernel
  intro h
  obtain ⟨m, hm, ho⟩ := h.mpr hscan
  rw [hm] at hanswer
  simp [Except.toOption, ho] at hanswer

end Table

end PathRouter

import PathRouter.Proofs.Table.Index
import PathRouter.Proofs.Table.Shape
import PathRouter.Startup

/-!
# Compiled tables

Compiling the routes of a configuration is a run of calls on a new table: the slots are set, and then
the routes are added (`compileTable_eq_ok`). It fails as the first template that is refused
(`compileTable_eq_error_iff`), so it succeeds if every template is read (`exists_compileTable`). The
routes in the buckets are those of the templates (`mem_routes_compileTable`), and the callback of a
match is that of a call (`callback_of_resolve`).
-/

namespace PathRouter

/-- The call that adds the route of a definition. -/
def RouteDefinition.call (r : RouteDefinition) : Call := .addRoute r.path (.ofText r.callback)

/-- The calls that make the table of routing settings and routes. -/
def compileCalls (router : RoutingConfig) (routes : List RouteDefinition) : List Call :=
  .setHome (.ofText router.home) :: .setError (.ofText router.error) ::
    routes.map RouteDefinition.call

theorem mem_compileCalls_iff {router : RoutingConfig} {routes : List RouteDefinition} {c : Call} :
    c ∈ compileCalls router routes ↔
      c = .setHome (.ofText router.home) ∨ c = .setError (.ofText router.error) ∨
        ∃ r ∈ routes, r.call = c := by
  rw [compileCalls, List.mem_cons, List.mem_cons, List.mem_map]

/-- The callback that a call brings in, if it names one. -/
def Call.callback? : Call → Option Callback
  | addRoute _ callback | setHome callback | setError callback => some callback
  | addCached _ => none

namespace Table

variable {t u : Table}

theorem call_of_addRoute {template : String} {callback : Callback} {r : Route}
    (h : t.addRoute template callback = .ok (r, u)) : t.call (.addRoute template callback) = u := by
  rw [call, h]

/-- Adding routes one after another is a run. -/
theorem addRoutes_eq_ok : ∀ {rs : List RouteDefinition} {t u : Table}, t.addRoutes rs = .ok u →
    u = t.run (rs.map RouteDefinition.call)
  | [], t, u, h => by
    rw [addRoutes, Except.ok.injEq] at h
    exact h.symm
  | r :: rs, t, u, h => by
    rw [addRoutes] at h
    obtain ⟨⟨s, t'⟩, ht, h⟩ := bind_eq_ok.mp h
    rw [addRoutes_eq_ok h, ← call_of_addRoute ht]
    rfl

theorem addRoute_eq_error_iff {template : String} {callback : Callback} {e : CompileError} :
    t.addRoute template callback = .error e ↔
      Template.refusal? t.options.maxSegments template = some e := by
  unfold addRoute Template.refusal? Route.compile
  by_cases hr : Template.isRoot template
  · simp [hr]
  · rw [if_neg hr, if_neg hr]
    cases Template.read t.options.maxSegments template <;> simp [bind, Except.bind]

/-- **Adding routes** fails as the first of them whose template is refused. -/
theorem addRoutes_eq_error_iff {e : CompileError} : ∀ {rs : List RouteDefinition} {t : Table},
    t.addRoutes rs = .error e ↔
      rs.findSome? (fun r => Template.refusal? t.options.maxSegments r.path) = some e
  | [], t => by simp [addRoutes]
  | r :: rs, t => by
    rw [addRoutes, List.findSome?_cons]
    cases ht : t.addRoute r.path (.ofText r.callback) with
    | error d =>
      rw [addRoute_eq_error_iff.mp ht]
      simp [bind, Except.bind]
    | ok u =>
      have ho : u.2.options = t.options := by rw [← call_of_addRoute ht, call_options]
      have hr : Template.refusal? t.options.maxSegments r.path = none := by
        rw [Option.eq_none_iff_forall_ne_some]
        intro d hd
        rw [addRoute_eq_error_iff.mpr hd] at ht
        cases ht
      rw [hr, ← ho]
      exact addRoutes_eq_error_iff

/-! ### Callbacks -/

theorem callback_of_stored? {limit : Nat} {c : Call} {r : Route} (h : c.stored? limit = some r)
    (hc : ∀ blob, c ≠ .addCached blob) : c.callback? = some r.callback := by
  rcases Call.stored?_cases h with ⟨template, callback, rfl, hr⟩ | ⟨blob, rfl, -⟩
  · obtain ⟨ss, -, rfl⟩ := Route.compile_eq_ok hr
    rfl
  · exact absurd rfl (hc blob)

theorem callback_of_home? {c : Call} {r : Route} (h : c.home? = some r) :
    c.callback? = some r.callback := by
  cases c with
  | addRoute template callback =>
    rw [Call.home?] at h
    split_ifs at h
    rw [← Option.some.inj h]
    rfl
  | setHome callback => rw [← Option.some.inj h]; rfl
  | addCached blob => simp [Call.home?] at h
  | setError callback => simp [Call.home?] at h

theorem callback_of_error? {c : Call} {r : Route} (h : c.error? = some r) :
    c.callback? = some r.callback := by
  cases c with
  | setError callback => rw [← Option.some.inj h]; rfl
  | addRoute template callback => simp [Call.error?] at h
  | addCached blob => simp [Call.error?] at h
  | setHome callback => simp [Call.error?] at h

/-- **The callback of a match** is that of a call, if no call brings in an exported text. -/
theorem callback_of_resolve {options : TableOptions} {calls : List Call}
    (h : ∀ c ∈ calls, ∀ blob, c ≠ .addCached blob) {raw : String} {m : RouteMatch}
    (hm : (run { options } calls).resolve raw = .ok m) :
    ∃ c ∈ calls, c.callback? = some m.route.callback := by
  rcases resolve_cases hm with ⟨-, hr, -⟩ | ⟨first, -, hr, -⟩ | ⟨-, hr, -⟩
  · rw [run_home, Option.or_none] at hr
    obtain ⟨c, hc, hh⟩ := List.mem_filterMap.mp (List.mem_of_getLast? hr)
    exact ⟨c, hc, callback_of_home? hh⟩
  · obtain ⟨hr, -⟩ := (mem_bucket_run_iff options calls _ _).mp hr
    obtain ⟨c, hc, hs⟩ := List.mem_filterMap.mp hr
    exact ⟨c, hc, callback_of_stored? hs (h c hc)⟩
  · rw [run_error, Option.or_none] at hr
    obtain ⟨c, hc, he⟩ := List.mem_filterMap.mp (List.mem_of_getLast? hr)
    exact ⟨c, hc, callback_of_error? he⟩

end Table

/-! ### The table of a configuration -/

variable {router : RoutingConfig} {routes : List RouteDefinition} {t : Table}

/-- **Compiling is a run of calls.** -/
theorem compileTable_eq_ok (h : compileTable router routes = .ok t) :
    t = Table.run { options := router.tableOptions } (compileCalls router routes) :=
  Table.addRoutes_eq_ok h

/-- **Compiling fails** as the first route whose template is refused. -/
theorem compileTable_eq_error_iff {e : CompileError} : compileTable router routes = .error e ↔
    routes.findSome? (fun r => Template.refusal? router.maxSegments r.path) = some e :=
  Table.addRoutes_eq_error_iff

/-- **Compiling succeeds** if every template is read. -/
theorem exists_compileTable (h : ∀ r ∈ routes, Template.isRoot r.path ∨
      ∃ ss, Template.read router.maxSegments r.path = .ok ss) :
    ∃ t, compileTable router routes = .ok t := by
  cases ht : compileTable router routes with
  | ok t => exact ⟨t, rfl⟩
  | error e =>
    obtain ⟨r, hr, he⟩ := List.exists_of_findSome?_eq_some (compileTable_eq_error_iff.mp ht)
    rw [Template.refusal?_eq_none_iff.mpr (h r hr)] at he
    cases he

/-- When compiling succeeds, every template was read that does not stand for the root path. -/
theorem read_of_compileTable (h : compileTable router routes = .ok t) {d : RouteDefinition}
    (hd : d ∈ routes) :
    Template.isRoot d.path ∨ ∃ ss, Template.read router.maxSegments d.path = .ok ss := by
  have hnone : routes.findSome? (fun r => Template.refusal? router.maxSegments r.path) = none := by
    rw [Option.eq_none_iff_forall_ne_some]
    intro e he
    rw [compileTable_eq_error_iff.mpr he] at h
    cases h
  exact Template.refusal?_eq_none_iff.mp (List.findSome?_eq_none_iff.mp hnone d hd)

theorem reachable_compileTable (h : compileTable router routes = .ok t) : t.Reachable :=
  compileTable_eq_ok h ▸ (Table.Reachable.new _).run _

theorem options_compileTable (h : compileTable router routes = .ok t) :
    t.options = router.tableOptions := by
  rw [compileTable_eq_ok h, Table.run_options]

/-- The slots of a compiled table are set. -/
theorem slots_compileTable (h : compileTable router routes = .ok t) :
    ∃ home error, t.home = some home ∧ t.error = some error := by
  have hhome : t.home ≠ none := by
    rw [compileTable_eq_ok h, Table.run_home]
    simp [History.lastHome, compileCalls, Call.home?]
  have herror : t.error ≠ none := by
    rw [compileTable_eq_ok h, Table.run_error]
    simp [History.lastError, compileCalls, Call.error?]
  obtain ⟨home, hh⟩ := Option.ne_none_iff_exists'.mp hhome
  obtain ⟨error, he⟩ := Option.ne_none_iff_exists'.mp herror
  exact ⟨home, error, hh, he⟩

/-- **The routes of a compiled table** are those of the templates that do not stand for the root
path. -/
theorem mem_routes_compileTable (h : compileTable router routes = .ok t) {r : Route} :
    r ∈ t.buckets.routes ↔ ∃ d ∈ routes, ¬ Template.isRoot d.path ∧
      Route.compile router.maxSegments d.path (.ofText d.callback) = .ok r := by
  rw [compileTable_eq_ok h, Table.mem_routes_run_iff, History.stored, List.mem_filterMap]
  constructor
  · rintro ⟨c, hc, hs⟩
    rcases mem_compileCalls_iff.mp hc with rfl | rfl | ⟨d, hd, rfl⟩
    · cases hs
    · cases hs
    · rw [RouteDefinition.call, Call.stored?] at hs
      split_ifs at hs with hroot
      exact ⟨d, hd, hroot, Call.toOption_eq_some.mp hs⟩
  · rintro ⟨d, hd, hroot, hr⟩
    refine ⟨d.call, mem_compileCalls_iff.mpr (Or.inr (Or.inr ⟨d, hd, rfl⟩)), ?_⟩
    rw [RouteDefinition.call, Call.stored?, if_neg hroot]
    exact Call.toOption_eq_some.mpr hr

theorem not_addCached_compileCalls (router : RoutingConfig) (routes : List RouteDefinition) :
    ∀ c ∈ compileCalls router routes, ∀ blob, c ≠ .addCached blob := by
  intro c hc blob
  rcases mem_compileCalls_iff.mp hc with rfl | rfl | ⟨r, -, rfl⟩ <;> simp [RouteDefinition.call]

end PathRouter

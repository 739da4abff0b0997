import Mathlib.Data.List.Forall2
import PathRouter.Proofs.Cache.Document
import PathRouter.Proofs.Table.Invariant

/-!
# Exported tables are loaded again

A table is loaded from its exported text with the same keys and routes in the same order, each route
now with the text it was read from (`Table.reloaded`). Of the options only the limit of segments
counts for that: all routes have to keep it (`imported_exported_of_le`), and else the whole text is
refused (`imported_exported_of_lt`). The routes are appended bucket after bucket, so that a route
either opens the last bucket or comes to its end (`foldl_routes`), whatever the priority is. A loaded
table therefore answers as the one that was exported, and its exported text is the same
(`Reachable.reload`).
-/

namespace PathRouter

/-- The match with its route as it is read from its exported text. -/
def RouteMatch.reloaded (m : RouteMatch) : RouteMatch := { m with route := m.route.reloaded }

namespace Route

@[simp] theorem exported_reloaded (r : Route) : r.reloaded.exported = r.exported := rfl

theorem same_reloaded (r : Route) : r.same r.reloaded := by simp [same, reloaded]

theorem match?_reloaded (r : Route) (path : String) :
    r.reloaded.match? path = (r.match? path).map RouteMatch.reloaded := by
  have hv : r.reloaded.verify? path = r.verify? path := rfl
  rw [match?, match?, hv]
  cases r.verify? path <;> rfl

theorem findSome?_reloaded (rs : List Route) (path : String) :
    (rs.map reloaded).findSome? (·.match? path) =
      (rs.findSome? (·.match? path)).map RouteMatch.reloaded := by
  induction rs with
  | nil => rfl
  | cons r rs ih =>
    rw [List.map_cons, List.findSome?_cons, List.findSome?_cons, match?_reloaded, ih]
    cases r.match? path <;> rfl

end Route

namespace Buckets

/-- Buckets with their routes as they are read from their exported texts. -/
def reloaded (bs : Buckets) : Buckets := bs.map fun b => (b.1, b.2.map Route.reloaded)

/-- Buckets with one more route, tried after those that are there, as it is read from its exported
text. -/
def reload (bs : Buckets) (r : Route) : Buckets :=
  bs.insert .firstWins (Table.key r.base) r.reloaded

theorem lookup_reloaded (bs : Buckets) (k : String) :
    bs.reloaded.lookup k = (bs.lookup k).map (·.map Route.reloaded) := lookup_map _ bs k

/-- Each route stands where it stood, as it is read from its exported text. -/
theorem forall₂_reloaded {S : Route → Route → Prop} (h : ∀ r, S r r.reloaded) (bs : Buckets) :
    List.Forall₂ (fun b c => b.1 = c.1 ∧ List.Forall₂ S b.2 c.2) bs bs.reloaded := by
  refine List.forall₂_map_right_iff.mpr (List.forall₂_same.mpr fun b _ => ⟨rfl, ?_⟩)
  exact List.forall₂_map_right_iff.mpr (List.forall₂_same.mpr fun r _ => h r)

theorem routes_reloaded (bs : Buckets) : bs.reloaded.routes = bs.routes.map Route.reloaded := by
  simp [routes, reloaded, List.flatMap_map, List.map_flatMap]

/-- Routes of the last bucket come to its end. -/
theorem foldl_last {done : Buckets} {k : String} {rs qs : List Route} (h : ∀ b ∈ done, b.1 < k)
    (hrs : ∀ r ∈ rs, Table.key r.base = k) :
    rs.foldl reload (done ++ [(k, qs)]) = done ++ [(k, qs ++ rs.map Route.reloaded)] := by
  induction rs generalizing qs with
  | nil => simp
  | cons r rs ih =>
    have hr : Table.key r.base = k := hrs r List.mem_cons_self
    have hreload : reload (done ++ [(k, qs)]) r = done ++ [(k, qs ++ [r.reloaded])] := by
      rw [reload, hr, insert_of_last h]
      rfl
    rw [List.foldl_cons, hreload, ih fun s hs => hrs s (List.mem_cons_of_mem _ hs)]
    simp

/-- **Routes appended bucket after bucket make the buckets again.** -/
theorem foldl_routes {done bs : Buckets} (h : bs.Filed)
    (hdone : ∀ d ∈ done, ∀ b ∈ bs, d.1 < b.1) :
    bs.routes.foldl reload done = done ++ bs.reloaded := by
  induction bs generalizing done with
  | nil => simp [routes, reloaded]
  | cons b bs ih =>
    obtain ⟨k, rs⟩ := b
    obtain ⟨r, qs, rfl⟩ := List.exists_cons_of_ne_nil (h.nonempty (k, rs) List.mem_cons_self)
    have hkeys : ∀ s ∈ r :: qs, Table.key s.base = k := h.keys (k, r :: qs) List.mem_cons_self
    have hlt : ∀ d ∈ done, d.1 < k := fun d hd => hdone d hd _ List.mem_cons_self
    have hk := (List.pairwise_cons.mp h.ascending).1
    -- the first route of a bucket opens it, the others come to its end
    have hfirst : reload done r = done ++ [(k, [r.reloaded])] := by
      rw [reload, hkeys r List.mem_cons_self, insert_of_lt hlt]
    have hroutes : routes ((k, r :: qs) :: bs) = r :: (qs ++ routes bs) := by simp [routes]
    rw [hroutes, List.foldl_cons, hfirst, List.foldl_append,
      foldl_last hlt fun s hs => hkeys s (List.mem_cons_of_mem _ hs), ih h.tail]
    · simp [reloaded]
    · intro d hd b hb
      rcases List.mem_append.mp hd with hd | hd
      · exact hdone d hd b (List.mem_cons_of_mem _ hb)
      · rw [List.mem_singleton] at hd
        subst hd
        exact hk b hb

end Buckets

namespace Table

variable {t : Table}

/-- The table with its routes as they are read from their exported texts. -/
def reloaded (t : Table) : Table :=
  { t with
    buckets := t.buckets.reloaded
    home := t.home.map Route.reloaded
    error := t.error.map Route.reloaded }

/-- The exported text of a sound route is imported if the route passes the check. -/
theorem importRoute_exported {limit : Nat} {r : Route} (h : r.Sound) :
    importRoute limit r.exported = checked limit r.reloaded := by
  rw [importRoute, Route.imported_exported h]
  rfl

/-- Exported texts of sound routes are appended one after another, if all pass the check. -/
theorem appendAll_exported {rs : List Route} (h : ∀ r ∈ rs, r.Sound ∧ 1 ≤ r.segments.length)
    (hl : ∀ r ∈ rs, r.segments.length ≤ t.options.maxSegments) :
    appendAll t (rs.map Route.exported) =
      .ok { t with buckets := rs.foldl Buckets.reload t.buckets } := by
  induction rs generalizing t with
  | nil => rfl
  | cons r rs ih =>
    obtain ⟨hr, hlength⟩ := h r List.mem_cons_self
    have hc : checked t.options.maxSegments r.reloaded = .ok r.reloaded :=
      checked_eq_ok_iff.mpr ⟨rfl, hlength, hl r List.mem_cons_self⟩
    rw [List.map_cons, appendAll, importRoute_exported hr, hc]
    exact ih (t := t.append r.reloaded) (fun s hs => h s (List.mem_cons_of_mem _ hs))
      fun s hs => hl s (List.mem_cons_of_mem _ hs)

/-- One route with more segments than the limit keeps all from being appended. -/
theorem appendAll_exported_of_lt {rs : List Route}
    (h : ∀ r ∈ rs, r.Sound ∧ 1 ≤ r.segments.length)
    (hl : ∃ r ∈ rs, t.options.maxSegments < r.segments.length) :
    ∃ n, appendAll t (rs.map Route.exported) =
      .error (.malformed .segments (.tooManySegments n t.options.maxSegments)) := by
  induction rs generalizing t with
  | nil => simp at hl
  | cons r rs ih =>
    obtain ⟨hr, hlength⟩ := h r List.mem_cons_self
    rw [List.map_cons, appendAll, importRoute_exported hr]
    by_cases hlt : t.options.maxSegments < r.segments.length
    · rw [checked_of_lt (r := r.reloaded) hlt]
      exact ⟨_, rfl⟩
    · have hc : checked t.options.maxSegments r.reloaded = .ok r.reloaded :=
        checked_eq_ok_iff.mpr ⟨rfl, hlength, Nat.not_lt.mp hlt⟩
      rw [hc]
      refine ih (t := t.append r.reloaded) (fun s hs => h s (List.mem_cons_of_mem _ hs)) ?_
      obtain ⟨s, hs, hlt'⟩ := hl
      rcases List.mem_cons.mp hs with rfl | hs
      · exact absurd hlt' hlt
      · exact ⟨s, hs, hlt'⟩

/-- What an exported table holds: its two slots are set, and the text is that of its document. -/
theorem exported_eq_ok {blob : String} (h : t.exported = .ok blob) : ∃ home error,
    t.home = some home ∧ t.error = some error ∧
      blob = CacheDocument.encode ⟨CacheDocument.formatTag, CacheDocument.formatVersion,
        t.options.priority, t.buckets.routes.map Route.exported, home.exported,
        error.exported⟩ := by
  unfold exported document homeRoute errorRoute at h
  cases hh : t.home with
  | none => simp [hh, bind, Except.bind, Except.map] at h
  | some home =>
    cases he : t.error with
    | none => simp [hh, he, bind, Except.bind, Except.map] at h
    | some error =>
      simp only [hh, he, bind, Except.bind, Except.map, Except.ok.injEq] at h
      exact ⟨home, error, rfl, rfl, h.symm⟩

theorem exists_exported {home error : Route} (hh : t.home = some home) (he : t.error = some error) :
    ∃ blob, t.exported = .ok blob := by
  unfold exported document homeRoute errorRoute
  rw [hh, he]
  exact ⟨_, rfl⟩

/-- The routes in the buckets of a sound table. -/
theorem Sound.mem_routes (h : t.Sound) {r : Route} (hr : r ∈ t.buckets.routes) :
    r.Sound ∧ 1 ≤ r.segments.length ∧ r.segments.length ≤ t.options.maxSegments := by
  obtain ⟨b, hb, hr⟩ := Buckets.mem_routes.mp hr
  obtain ⟨hsound, hc⟩ := h.routes b hb r hr
  exact ⟨hsound, (checked_eq_ok_iff.mp hc).2⟩

section Options
variable {blob : String} (options : TableOptions)

/-- **A sound table is loaded from its exported text** with all options that allow as many segments
as its routes have. -/
theorem imported_exported_of_le (h : t.Sound) (hb : t.exported = .ok blob)
    (hl : ∀ r ∈ t.buckets.routes, r.segments.length ≤ options.maxSegments) :
    imported options blob = .ok { t.reloaded with options } := by
  obtain ⟨home, error, hh, he, rfl⟩ := exported_eq_ok hb
  have hroutes : ∀ r ∈ t.buckets.routes, r.Sound ∧ 1 ≤ r.segments.length := by
    intro r hr
    obtain ⟨hsound, hlength, -⟩ := h.mem_routes hr
    exact ⟨hsound, hlength⟩
  have hbuckets : t.buckets.routes.foldl Buckets.reload [] = t.buckets.reloaded := by
    rw [Buckets.foldl_routes h.filed (by simp), List.nil_append]
  have happend : appendAll { options } (t.buckets.routes.map Route.exported) =
      .ok { options, buckets := t.buckets.reloaded } := by
    rw [← hbuckets]
    exact appendAll_exported (t := { options }) hroutes hl
  unfold imported ofDocument
  simp only [bind_eq_ok]
  refine ⟨_, CacheDocument.decode_encode rfl rfl, _, happend,
    _, Route.imported_exported (h.home home hh),
    _, Route.imported_exported (h.error error he), ?_⟩
  unfold reloaded
  rw [hh, he]
  rfl

/-- **Options that allow fewer segments than a route has** refuse the whole text. -/
theorem imported_exported_of_lt (h : t.Sound) (hb : t.exported = .ok blob)
    (hl : ∃ r ∈ t.buckets.routes, options.maxSegments < r.segments.length) :
    ∃ n, imported options blob =
      .error (.malformed .segments (.tooManySegments n options.maxSegments)) := by
  obtain ⟨home, error, -, -, rfl⟩ := exported_eq_ok hb
  have hroutes : ∀ r ∈ t.buckets.routes, r.Sound ∧ 1 ≤ r.segments.length := by
    intro r hr
    obtain ⟨hsound, hlength, -⟩ := h.mem_routes hr
    exact ⟨hsound, hlength⟩
  obtain ⟨n, hn⟩ := appendAll_exported_of_lt (t := { options }) hroutes hl
  refine ⟨n, ?_⟩
  rw [imported, CacheDocument.decode_encode rfl rfl]
  show ofDocument options _ = _
  rw [ofDocument, hn]
  rfl

end Options

/-- A sound table is loaded from its exported text with its own options. -/
theorem imported_exported (h : t.Sound) {blob : String} (hb : t.exported = .ok blob) :
    imported t.options blob = .ok t.reloaded :=
  imported_exported_of_le t.options h hb fun _ hr => (h.mem_routes hr).2.2

/-- Exporting the loaded table gives the same text. -/
theorem exported_reloaded (t : Table) : t.reloaded.exported = t.exported := by
  have hroutes : t.reloaded.buckets.routes.map Route.exported =
      t.buckets.routes.map Route.exported := by
    show (t.buckets.reloaded.routes).map Route.exported = _
    rw [Buckets.routes_reloaded, List.map_map]
    rfl
  unfold exported document homeRoute errorRoute
  rw [hroutes]
  unfold reloaded
  cases t.home <;> cases t.error <;> rfl

/-- The loaded table answers as the exported one. -/
theorem resolve_reloaded (t : Table) (raw : String) :
    t.reloaded.resolve raw = (t.resolve raw).map RouteMatch.reloaded := by
  have hbucket : ∀ first, (t.reloaded.bucket? first).getD [] =
      ((t.bucket? first).getD []).map Route.reloaded := by
    intro first
    show (List.lookup _ t.buckets.reloaded).getD [] = _
    rw [Buckets.lookup_reloaded, bucket?]
    cases t.buckets.lookup (key first) <;> rfl
  have ho : t.reloaded.options = t.options := rfl
  unfold resolve
  simp only [ho, hbucket, Route.findSome?_reloaded]
  cases Path.firstSegment? (Path.normalize raw t.options.baseUrl) with
  | none =>
    unfold atRoot homeRoute reloaded
    cases t.home <;> rfl
  | some first =>
    dsimp only
    cases ((t.bucket? first).getD []).findSome?
        (·.match? (Path.normalize raw t.options.baseUrl)) with
    | none =>
      unfold notFound errorRoute reloaded
      cases t.error <;> rfl
    | some m => rfl

/-- Of the options, only the base URL counts for answers. -/
theorem resolve_options (t : Table) {options : TableOptions}
    (h : options.baseUrl = t.options.baseUrl) (raw : String) :
    { t with options }.resolve raw = t.resolve raw := by
  unfold resolve
  rw [h]
  rfl

/-- A table whose slots are set has an answer to every path. -/
theorem exists_resolve {home error : Route} (hh : t.home = some home) (he : t.error = some error)
    (raw : String) : ∃ m, t.resolve raw = .ok m := by
  unfold resolve atRoot homeRoute notFound errorRoute
  rw [hh, he]
  dsimp only
  split
  · exact ⟨_, rfl⟩
  · split
    · exact ⟨_, rfl⟩
    · exact ⟨_, rfl⟩

/-- Whether two tables have the same options, and the same keys with the same routes in the same
order, and the same routes in their slots. What the routes were read from does not count. -/
structure Alike (t u : Table) : Prop where
  options : t.options = u.options
  buckets : List.Forall₂ (fun b c => b.1 = c.1 ∧ List.Forall₂ (fun r s => r.same s) b.2 c.2)
    t.buckets u.buckets
  home : Option.Rel (fun r s => r.same s) t.home u.home
  error : Option.Rel (fun r s => r.same s) t.error u.error

theorem alike_reloaded (t : Table) : t.Alike t.reloaded := by
  have hslot : ∀ o : Option Route, Option.Rel (fun r s => r.same s) o (o.map Route.reloaded) := by
    intro o
    cases o with
    | none => exact .none
    | some r => exact .some (Route.same_reloaded r)
  exact ⟨rfl, Buckets.forall₂_reloaded Route.same_reloaded t.buckets, hslot t.home, hslot t.error⟩

/-- **A reachable table whose slots are set is loaded from its exported text**: the loaded table is
like it, answers every path like it, and has the same exported text. -/
theorem Reachable.reload (h : Reachable t) (hh : t.home ≠ none) (he : t.error ≠ none) :
    ∃ blob u, t.exported = .ok blob ∧ imported t.options blob = .ok u ∧ t.Alike u ∧
      (∀ raw, ∃ m n, t.resolve raw = .ok m ∧ u.resolve raw = .ok n ∧ m.outcome = n.outcome ∧
        m.route.same n.route ∧ m.params = n.params) ∧
      u.exported = .ok blob := by
  obtain ⟨home, hh⟩ := Option.ne_none_iff_exists'.mp hh
  obtain ⟨error, he⟩ := Option.ne_none_iff_exists'.mp he
  obtain ⟨blob, hb⟩ := exists_exported hh he
  refine ⟨blob, t.reloaded, hb, imported_exported h.sound hb, alike_reloaded t, ?_, ?_⟩
  · intro raw
    obtain ⟨m, hm⟩ := exists_resolve hh he raw
    refine ⟨m, m.reloaded, hm, ?_, rfl, Route.same_reloaded m.route, rfl⟩
    rw [resolve_reloaded, hm]
    rfl
  · rw [exported_reloaded, hb]

theorem reload_shop : ∃ blob u,
    (run {} [.setHome (.direct "home"), .setError (.direct "error"),
      .addRoute "shop/$id:int" (.direct "show"), .addRoute "Shop/new" (.direct "new")]).exported =
        .ok blob ∧
    imported {} blob = .ok u ∧ u.exported = .ok blob := by
  have hreach : Reachable (run {} [.setHome (.direct "home"), .setError (.direct "error"),
      .addRoute "shop/$id:int" (.direct "show"), .addRoute "Shop/new" (.direct "new")]) :=
    (Reachable.new {}).run _
  obtain ⟨blob, u, hb, hu, -, -, he⟩ := hreach.reload (by decide) (by decide)
  exact ⟨blob, u, hb, hu, he⟩

end Table

end PathRouter

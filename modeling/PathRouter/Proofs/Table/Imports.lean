import PathRouter.Proofs.Cache.Document
import PathRouter.Proofs.Table.Shape
import PathRouter.Server.Response

/-!
# What exported texts bring into a table

A route that comes in by its exported text is checked, but not as a template is. Two things that
hold of every route made from a template or for a slot are left out.

The parameters of a template have distinct names, those of an imported route need not. A match binds
the names of its route, so its parameters can be told apart if and only if the route names each once
(`Reachable.unambiguous_resolve`), and else values are lost (`resolve_binds_twice`).

The routes of the slots have no segments, those of a document need not have that shape: only the
routes for the buckets are checked for it. So the slots of a loaded table are what the document says
until they are set (`rootShaped_iff`), and a home route can have segments (`imported_home_shop`).
-/

namespace PathRouter

namespace Route

variable {r : Route}

/-- What a route binds has the names of its parameters, in their order. -/
theorem names_of_verify? {path : String} {params : List (String × String)}
    (h : r.verify? path = some params) : params.map Prod.fst = r.paramNames := by
  obtain ⟨values, -, hb⟩ := Option.bind_eq_some_iff.mp h
  exact (bind?_eq_some_iff.mp hb).1

theorem names_of_match? {path : String} {m : RouteMatch} (h : r.match? path = some m) :
    m.params.map Prod.fst = r.paramNames := by
  obtain ⟨params, hv, rfl⟩ := Option.map_eq_some_iff.mp h
  exact names_of_verify? hv

/-- A compiled route names each parameter once. -/
theorem nodup_paramNames {limit : Nat} {template : String} {callback : Callback}
    (h : compile limit template callback = .ok r) : r.paramNames.Nodup := by
  obtain ⟨segments, hs, rfl⟩ := compile_eq_ok h
  exact Template.nodup_of_read hs

/-- Whether a route has the shape of those for the slots: an empty base and no segments, so that it
is written as the root path. -/
structure RootShaped (r : Route) : Prop where
  base : r.base = ""
  segments : r.segments = []
  template : r.template = "/"

theorem rootShaped_special (callback : Callback) : (special callback).RootShaped := ⟨rfl, rfl, rfl⟩

/-- Without segments a route that was imported has no base either. -/
theorem rootShaped_of_imported {blob : String} (h : imported blob = .ok r) :
    r.RootShaped ↔ r.segments = [] := by
  refine ⟨RootShaped.segments, fun hs => ⟨?_, hs, ?_⟩⟩
  · have hbase : checkBase r.base r.segments = .ok () := (sound_imported h).base
    rw [hs, checkBase] at hbase
    split_ifs at hbase with he
    simpa using he
  · rw [Route.template, hs]
    rfl

end Route

/-! ### Parameters -/

/-- Whether the parameters of a match can be told apart: their names are distinct, every value is
found under its name, and the record of the parameters that is written for an answer holds them all.
-/
structure RouteMatch.Unambiguous (m : RouteMatch) : Prop where
  names : (m.params.map Prod.fst).Nodup
  reached : ∀ p ∈ m.params, m.param? p.1 = some p.2
  listed : ∃ fields, Response.paramsJson m = .record fields ∧
    fields.Perm (m.params.map fun p => (p.1, .text p.2))

/-- Distinct names are enough for that. -/
theorem RouteMatch.unambiguous_of_nodup {m : RouteMatch} (h : (m.params.map Prod.fst).Nodup) :
    m.Unambiguous where
  names := h
  reached _ hp := Assoc.lookup_of_mem h hp
  listed := ⟨_, rfl, (Assoc.perm_sorted h).map _⟩

namespace Table

variable {t : Table}

/-- The names that an answer binds are those of the route that matched; otherwise there is at most
one. -/
theorem names_of_resolve {raw : String} {m : RouteMatch} (h : t.resolve raw = .ok m) :
    (m.params.map Prod.fst).Nodup ↔ (m.outcome = .matched → m.route.paramNames.Nodup) := by
  rcases resolve_cases h with ⟨ho, -, hp⟩ | ⟨first, -, -, hm⟩ | ⟨ho, -, hp⟩
  · simp [ho, hp]
  · rw [Route.names_of_match? hm]
    obtain ⟨-, ho⟩ := Route.match?_eq_some hm
    exact ⟨fun hn _ => hn, fun hn => hn ho⟩
  · simp [ho, hp]

/-- A route in a bucket names each parameter once, or it was imported. -/
theorem Reachable.nodup_or_imported (h : Reachable t) {r : Route} (hr : r ∈ t.buckets.routes) :
    r.paramNames.Nodup ∨ ∃ blob, Route.imported blob = .ok r := by
  have hall : ∀ b ∈ t.buckets, ∀ r ∈ b.2,
      r.paramNames.Nodup ∨ ∃ blob, Route.imported blob = .ok r := by
    refine h.buckets_induction (P := fun bs => ∀ b ∈ bs, ∀ r ∈ b.2,
      r.paramNames.Nodup ∨ ∃ blob, Route.imported blob = .ok r) (by simp) ?_
    intro bs priority r hbs hr
    refine Buckets.forall_insert (P := fun _ s =>
      s.paramNames.Nodup ∨ ∃ blob, Route.imported blob = .ok s) hbs ?_
    rcases hr with ⟨template, callback, hc⟩ | ⟨blob, hb⟩
    · exact Or.inl (Route.nodup_paramNames hc)
    · obtain ⟨s, hs, hc⟩ := bind_eq_ok.mp hb
      obtain ⟨rfl, -⟩ := checked_eq_ok_iff.mp hc
      exact Or.inr ⟨blob, hs⟩
  obtain ⟨b, hb, hr⟩ := Buckets.mem_routes.mp hr
  exact hall b hb r hr

/-- **When the parameters of a match can be told apart**: if and only if the route that matched
names each of them once. They can be if this holds of the imported routes in the buckets. -/
theorem Reachable.unambiguous_resolve (h : Reachable t) {raw : String} {m : RouteMatch}
    (hm : t.resolve raw = .ok m) :
    (m.Unambiguous ↔ (m.outcome = .matched → m.route.paramNames.Nodup)) ∧
    ((∀ r ∈ t.buckets.routes, (∃ blob, Route.imported blob = .ok r) → r.paramNames.Nodup) →
      m.Unambiguous) := by
  have hiff : m.Unambiguous ↔ (m.outcome = .matched → m.route.paramNames.Nodup) := by
    rw [← names_of_resolve hm]
    exact ⟨RouteMatch.Unambiguous.names, RouteMatch.unambiguous_of_nodup⟩
  refine ⟨hiff, fun himported => hiff.mpr fun ho => ?_⟩
  rcases resolve_cases hm with ⟨he, -⟩ | ⟨first, -, hr, -⟩ | ⟨he, -⟩
  · simp [ho] at he
  · obtain ⟨b, hb, -, hr⟩ := mem_routes_of_bucket? hr
    have hmem : m.route ∈ t.buckets.routes := Buckets.mem_routes.mpr ⟨b, hb, hr⟩
    rcases h.nodup_or_imported hmem with hn | hi
    · exact hn
    · exact himported _ hmem hi
  · simp [ho] at he

/-- The exported text of a route `pair/$…/$…` with names of its own. -/
def pairText (first second : String) : String :=
  "\x7b\"v\":1,\"base\":\"pair\",\"segments\":[[\"static\",\"pair\"],[\"dynamic\",\"" ++ first ++
  "\"],[\"dynamic\",\"" ++ second ++ "\"]],\"matcher\":\"^/pair/([^/]+)/([^/]+)$\"," ++
  "\"callback\":\x7b\"direct\":\"show\"\x7d\x7d"

/-- A table with such a route. -/
def pairTable (first second : String) : Table :=
  run {}
    [.setHome (.direct "home"), .setError (.direct "error"), .addCached (pairText first second)]

theorem unambiguous_resolve_pair : ∃ m, (pairTable "left" "right").resolve "/pair/1/2" = .ok m ∧
    m.outcome = .matched ∧ m.Unambiguous := by
  have hreach : Reachable (pairTable "left" "right") := (Reachable.new {}).run _
  have houtcome : ((pairTable "left" "right").resolve "/pair/1/2").toOption.map
      RouteMatch.outcome = some .matched := by decide +kernel
  obtain ⟨m, hm, ho⟩ := Option.map_eq_some_iff.mp houtcome
  have hm := Call.toOption_eq_some.mp hm
  have hnames : ∀ r ∈ (pairTable "left" "right").buckets.routes, r.paramNames.Nodup := by
    decide +kernel
  exact ⟨m, hm, ho, (hreach.unambiguous_resolve hm).2 fun r hr _ => hnames r hr⟩

/-- **A match can bind a name twice**, and then one of the values is not found. -/
theorem resolve_binds_twice : ∃ m, Reachable (pairTable "id" "id") ∧
    (pairTable "id" "id").resolve "/pair/1/2" = .ok m ∧
    m.params = [("id", "1"), ("id", "2")] ∧ ¬ (m.params.map Prod.fst).Nodup ∧
    m.param? "id" = some "1" ∧ Response.paramsJson m = .record [("id", .text "2")] := by
  have hanswer : ((pairTable "id" "id").resolve "/pair/1/2").toOption.map RouteMatch.params =
      some [("id", "1"), ("id", "2")] := by decide +kernel
  obtain ⟨m, hm, hparams⟩ := Option.map_eq_some_iff.mp hanswer
  refine ⟨m, (Reachable.new {}).run _, Call.toOption_eq_some.mp hm, hparams, ?_, ?_, ?_⟩
  · rw [hparams]
    decide
  · rw [RouteMatch.param?, hparams]
    rfl
  · rw [Response.paramsJson, hparams]
    rfl

/-! ### Slots -/

open History

/-- A slot that a call has set has the shape of one; else it is what it was. -/
theorem rootShaped_of_or {o : Option Route} {r s : Route}
    (ho : ∀ r, o = some r → ∃ callback, r = .special callback) (h : o.or (some s) = some r) :
    r.RootShaped ↔ o.isSome ∨ s.RootShaped := by
  cases ho' : o with
  | none =>
    obtain rfl : s = r := by simpa [ho'] using h
    simp
  | some q =>
    obtain rfl : q = r := by simpa [ho'] using h
    obtain ⟨callback, rfl⟩ := ho q ho'
    exact iff_of_true (Route.rootShaped_special callback) (Or.inl rfl)

/-- The slots of a new table have the shape of slots, whatever calls it got. -/
theorem rootShaped_run {options : TableOptions} {calls : List Call} {r : Route}
    (h : (run { options } calls).home = some r ∨ (run { options } calls).error = some r) :
    r.RootShaped := by
  rw [run_new_home, run_new_error] at h
  rcases h with h | h
  · obtain ⟨callback, rfl⟩ := special_of_lastHome h
    exact Route.rootShaped_special callback
  · obtain ⟨callback, rfl⟩ := special_of_lastError h
    exact Route.rootShaped_special callback

theorem Reachable.segments_ne_nil (h : Reachable t) {r : Route} (hr : r ∈ t.buckets.routes) :
    r.segments ≠ [] := by
  obtain ⟨b, hb, hr⟩ := Buckets.mem_routes.mp hr
  obtain ⟨hlength, -⟩ := (wellFormed_of_sound h.sound).lengths b hb r hr
  exact List.length_pos_iff.mp hlength

/-- **What shape the routes of a table have**, whatever calls it gets. In a new table the routes of
the slots have no segments, and those in the buckets have some. In a table that was loaded those in
the buckets have some too, but a slot holds a route without if and only if it was set since, or the
route in the document has none. -/
theorem rootShaped_iff (options : TableOptions) (calls : List Call) :
    ((∀ r, (run { options } calls).home = some r ∨ (run { options } calls).error = some r →
        r.RootShaped) ∧
      ∀ r ∈ (run { options } calls).buckets.routes, r.segments ≠ []) ∧
    ∀ blob u, imported options blob = .ok u → ∃ d home error,
      CacheDocument.decode blob = .ok d ∧ Route.imported d.home = .ok home ∧
      Route.imported d.error = .ok error ∧
      (∀ r, (run u calls).home = some r →
        (r.RootShaped ↔ (lastHome calls).isSome ∨ home.segments = [])) ∧
      (∀ r, (run u calls).error = some r →
        (r.RootShaped ↔ (lastError calls).isSome ∨ error.segments = [])) ∧
      ∀ r ∈ (run u calls).buckets.routes, r.segments ≠ [] := by
  have hnew : Reachable (run { options } calls) := (Reachable.new options).run calls
  refine ⟨⟨fun _ => rootShaped_run, fun _ => hnew.segments_ne_nil⟩, fun blob u hu => ?_⟩
  have hloaded : Reachable (run u calls) := (Reachable.loaded hu).run calls
  obtain ⟨d, t, home, error, hd, -, hh, he, rfl⟩ := imported_eq_ok hu
  refine ⟨d, home, error, hd, hh, he, ?_, ?_, fun _ => hloaded.segments_ne_nil⟩
  · intro r hr
    rw [run_home] at hr
    rw [rootShaped_of_or (fun _ => special_of_lastHome) hr, Route.rootShaped_of_imported hh]
  · intro r hr
    rw [run_error] at hr
    rw [rootShaped_of_or (fun _ => special_of_lastError) hr, Route.rootShaped_of_imported he]

/-- A route that is no slot's. -/
def shopRoute : Route := .ofSegments [.ofLiteral "shop"] (.direct "show")

/-- A document with this route as its home route. -/
def shopDocument : CacheDocument :=
  ⟨CacheDocument.formatTag, CacheDocument.formatVersion, .firstWins, [], shopRoute.exported,
    (Route.special (.direct "error")).exported⟩

/-- The table in the document. -/
def shopLoaded : Table :=
  { home := some shopRoute.reloaded, error := some (Route.special (.direct "error")).reloaded }

theorem imported_shopDocument :
    imported {} (CacheDocument.encode shopDocument) = .ok shopLoaded := by
  have hhome : Route.imported shopRoute.exported = .ok shopRoute.reloaded :=
    Route.imported_exported (Route.sound_ofSegments _ rfl)
  have herror : Route.imported (Route.special (.direct "error")).exported =
      .ok (Route.special (.direct "error")).reloaded :=
    Route.imported_exported (Route.sound_special _)
  unfold imported ofDocument
  simp only [bind_eq_ok]
  exact ⟨shopDocument, CacheDocument.decode_encode rfl rfl, { }, rfl, _, hhome, _, herror, rfl⟩

/-- The error route of the document has the shape of one, and its home route gets replaced. -/
theorem rootShaped_iff_shop :
    imported {} (CacheDocument.encode shopDocument) = .ok shopLoaded ∧
    (run shopLoaded [.setHome (.direct "home")]).home = some (.special (.direct "home")) ∧
    (Route.special (.direct "home")).RootShaped ∧
    (run shopLoaded [.setHome (.direct "home")]).error =
      some (Route.special (.direct "error")).reloaded ∧
    (Route.special (.direct "error")).reloaded.RootShaped := by
  obtain ⟨-, hloaded⟩ := rootShaped_iff {} [.setHome (.direct "home")]
  obtain ⟨d, home, error, hd, hh, he, hhome, herror, -⟩ := hloaded _ _ imported_shopDocument
  obtain rfl : shopDocument = d :=
    Except.ok.inj ((CacheDocument.decode_encode rfl rfl).symm.trans hd)
  obtain rfl : (Route.special (.direct "error")).reloaded = error :=
    Except.ok.inj ((Route.imported_exported (Route.sound_special _)).symm.trans he)
  exact ⟨imported_shopDocument, rfl, (hhome _ rfl).mpr (Or.inl rfl), rfl,
    (herror _ rfl).mpr (Or.inr rfl)⟩

/-- **A home route can have segments.** It is loaded as it is and answers the root path. -/
theorem imported_home_shop : ∃ u r m,
    imported {} (CacheDocument.encode shopDocument) = .ok u ∧ Reachable u ∧
    u.home = some r ∧ r.base = "shop" ∧ r.template = "shop" ∧ ¬ r.RootShaped ∧
    u.resolve "/" = .ok m ∧ m.route = r := by
  have hloaded : Reachable shopLoaded := .loaded imported_shopDocument
  have hroot : ¬ shopRoute.reloaded.RootShaped := fun h => List.cons_ne_nil _ _ h.segments
  exact ⟨_, _, _, imported_shopDocument, hloaded, rfl, rfl, by decide, hroot, rfl, rfl⟩

end Table

end PathRouter

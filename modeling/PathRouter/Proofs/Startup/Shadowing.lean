import PathRouter.Proofs.Config.Duplicates
import PathRouter.Proofs.Startup.Compile

/-!
# Routes that are never reached

A raw path that a route answers is found at a position in the table (`Table.position?`): in the
bucket of its first segment, at the first route that takes it (`Table.exists_position?`). In the
table of a configuration, what stands at a position is the entry of the route whose number stands
there (`Config.routeAt?_eq_some_iff`), since numbers are put where the table puts entries. So a route
is never reached if a route that is tried before it has its key and takes whatever it takes
(`Config.numberAt?_ne_of_precedes`). This is so for a route that is reported as a duplicate, or for
the route that it duplicates (`Config.unreached_of_duplicateRoute`).
-/

namespace PathRouter

/-! ### Positions in a table -/

namespace Table

/-- A position in a table: in the bucket of a key, behind so many routes. -/
structure Position where
  key : String
  index : Nat
deriving DecidableEq, Repr

/-- The route at a position. -/
def routeAt? (t : Table) (p : Position) : Option Route :=
  ((t.buckets.lookup p.key).getD [])[p.index]?

/-- The position where a raw path is found: that of the first route that takes it, in the bucket of
its first segment. -/
def position? (t : Table) (raw : String) : Option Position :=
  let path := Path.normalize raw t.options.baseUrl
  (Path.firstSegment? path).bind fun first =>
    (((t.bucket? first).getD []).findIdx? fun r => (r.verify? path).isSome).map fun n =>
      ⟨key first, n⟩

variable {t : Table} {raw : String} {p : Position}

/-- **Where a raw path is found**, there stands a route that takes it, and before it none. -/
theorem routeAt?_of_position? (h : t.position? raw = some p) :
    (∃ r, t.routeAt? p = some r ∧ (r.verify? (Path.normalize raw t.options.baseUrl)).isSome) ∧
    ∀ n < p.index, ∀ r, t.routeAt? ⟨p.key, n⟩ = some r →
      ¬ (r.verify? (Path.normalize raw t.options.baseUrl)).isSome := by
  obtain ⟨first, -, hfirst⟩ := Option.bind_eq_some_iff.mp h
  obtain ⟨index, hindex, rfl⟩ := Option.map_eq_some_iff.mp hfirst
  obtain ⟨hlength, htakes, hbefore⟩ := List.findIdx?_eq_some_iff_getElem.mp hindex
  refine ⟨⟨_, List.getElem?_eq_getElem hlength, htakes⟩, ?_⟩
  intro n hn r hr
  obtain ⟨hn', rfl⟩ := List.getElem?_eq_some_iff.mp hr
  exact hbefore n hn

/-- The first match among some routes is that of the first route that takes the path. -/
theorem findIdx?_of_findSome? {rs : List Route} {path : String} {m : RouteMatch}
    (h : rs.findSome? (·.match? path) = some m) :
    ∃ n, rs.findIdx? (fun r => (r.verify? path).isSome) = some n ∧ rs[n]? = some m.route := by
  induction rs with
  | nil => cases h
  | cons r rs ih =>
    rw [List.findSome?_cons, Route.match?] at h
    rw [List.findIdx?_cons]
    cases hv : r.verify? path with
    | some params =>
      rw [hv] at h
      obtain rfl : ⟨r, .matched, params⟩ = m := Option.some.inj h
      exact ⟨0, rfl, rfl⟩
    | none =>
      rw [hv] at h
      obtain ⟨n, hn, hr⟩ := ih h
      exact ⟨n + 1, by simp [hn], hr⟩

/-- **A path that a route answers is found** at a position where this route stands. -/
theorem exists_position? {m : RouteMatch} (h : t.resolve raw = .ok m) (ho : m.outcome = .matched) :
    ∃ p, t.position? raw = some p ∧ t.routeAt? p = some m.route := by
  rcases resolve_cases_first h with ⟨he, -⟩ | ⟨first, hfirst, hm⟩ | ⟨he, -⟩
  · simp [ho] at he
  · obtain ⟨n, hn, hr⟩ := findIdx?_of_findSome? hm
    refine ⟨⟨key first, n⟩, ?_, hr⟩
    rw [position?, hfirst]
    exact congrArg (Option.map _) hn
  · simp [ho] at he

end Table

/-! ### Orders of trying -/

namespace Priority

variable {α : Type} (p : Priority)

/-- Whether of two things with numbers the first one is tried before the second one. -/
def Precedes (m n : Nat) : Prop :=
  match p with
  | firstWins => m < n
  | lastWins => n < m

variable {p} in
theorem Precedes.asymm {m n : Nat} (h : p.Precedes m n) : ¬ p.Precedes n m := by
  cases p
  · exact Nat.lt_asymm h
  · exact Nat.lt_asymm h

/-- Numbers that ascend are in order if they are put in the order of trying. -/
theorem pairwise_order {ns : List Nat} (h : ns.Pairwise (· < ·)) :
    (p.order ns).Pairwise p.Precedes := by
  cases p
  · exact h
  · exact List.pairwise_reverse.mpr h

/-- Items that are put in one after another are those in the order of trying. -/
theorem foldl_insert_order (P : α → Bool) (bs as : List α) :
    bs.foldl (fun items b => if P b then p.insert b items else items) (p.order as) =
      p.order (as ++ bs.filter P) := by
  induction bs generalizing as with
  | nil => simp
  | cons b bs ih =>
    rw [List.foldl_cons, List.filter_cons]
    split_ifs
    · rw [insert_order, ih, List.append_assoc, List.singleton_append]
    · exact ih as

end Priority

/-! ### The numbers of routes -/

namespace Config

variable (c : Config)

/-- The entry of the route with a number, if its template is read. -/
def compiled? (n : Nat) : Option Route :=
  (c.routes[n]?).bind fun d =>
    (Route.compile c.router.maxSegments d.path (.ofText d.callback)).toOption

/-- Whether the route with a number has an entry with a key. -/
def hasKey (k : String) (n : Nat) : Bool := (c.compiled? n).any fun r => Table.key r.base == k

/-- The numbers of the routes whose entries have a key, put one after another where the priority
puts the entries. -/
def numbers (k : String) : List Nat :=
  (List.range c.routes.length).foldl
    (fun ns n => if c.hasKey k n then c.router.priority.insert n ns else ns) []

/-- The number of the route whose entry stands at a position. -/
def numberAt? (p : Table.Position) : Option Nat := (c.numbers p.key)[p.index]?

variable {c} {k : String} {n : Nat} {ss : List Segment}

theorem compiled?_of_segments? (h : c.segments? n = some ss) :
    ∃ callback, c.compiled? n = some (.ofSegments ss callback) := by
  obtain ⟨d, hd, hread⟩ := Option.bind_eq_some_iff.mp h
  refine ⟨.ofText d.callback, ?_⟩
  rw [compiled?, hd, Option.bind_some, Route.compile, Call.toOption_eq_some.mp hread]
  rfl

theorem proper_of_segments? (h : c.segments? n = some ss) : Template.Proper ss := by
  obtain ⟨d, -, hread⟩ := Option.bind_eq_some_iff.mp h
  exact Template.proper_of_read (Call.toOption_eq_some.mp hread)

theorem hasKey_iff : c.hasKey k n ↔ ∃ r, c.compiled? n = some r ∧ Table.key r.base = k := by
  rw [hasKey, Option.any_eq_true]
  simp only [beq_iff_eq]

theorem numbers_eq : c.numbers k =
    c.router.priority.order ((List.range c.routes.length).filter (c.hasKey k)) := by
  rw [numbers, ← c.router.priority.order_nil, Priority.foldl_insert_order, List.nil_append]

theorem mem_numbers_iff : n ∈ c.numbers k ↔ ∃ r, c.compiled? n = some r ∧ Table.key r.base = k := by
  rw [numbers_eq, Priority.mem_order, List.mem_filter, hasKey_iff, List.mem_range]
  refine and_iff_right_of_imp ?_
  rintro ⟨r, hr, -⟩
  obtain ⟨d, hd, -⟩ := Option.bind_eq_some_iff.mp hr
  exact (List.getElem?_eq_some_iff.mp hd).1

theorem pairwise_numbers : (c.numbers k).Pairwise c.router.priority.Precedes :=
  numbers_eq ▸ c.router.priority.pairwise_order (List.pairwise_lt_range.filter _)

/-! ### What stands in the table of a configuration -/

/-- A template that stands for the root path is refused, so that the route that is stored for a
definition is the compiled one. -/
theorem stored?_call (limit : Nat) (d : RouteDefinition) :
    d.call.stored? limit = (Route.compile limit d.path (.ofText d.callback)).toOption := by
  rw [RouteDefinition.call, Call.stored?]
  split_ifs with hroot
  · cases hc : Route.compile limit d.path (.ofText d.callback) with
    | error e => rfl
    | ok r =>
      obtain ⟨ss, hread, -⟩ := Route.compile_eq_ok hc
      have hskipped := not_skipped_of_read hread
      simp [hroot] at hskipped
  · rfl

/-- The entries of all routes, in order. -/
theorem map_compiled? : (List.range c.routes.length).map c.compiled? = c.routes.map fun d =>
    (Route.compile c.router.maxSegments d.path (.ofText d.callback)).toOption := by
  refine List.ext_getElem (by simp) fun n hn _ => ?_
  rw [List.length_map, List.length_range] at hn
  simp [compiled?, hn]

/-- Of what a function gives on a list, some is there, and some of that is kept. -/
theorem map_some_filter_filterMap {α β : Type} (f : α → Option β) (P : β → Bool) (as : List α) :
    ((as.filterMap f).filter P).map some = (as.map f).filter (Option.any P) := by
  induction as with
  | nil => rfl
  | cons a as ih =>
    cases ha : f a with
    | none => simp [ha, ih]
    | some b => by_cases hb : P b <;> simp [ha, hb, ih]

variable {t : Table} {p : Table.Position}

/-- **The bucket of a key** holds the entries of the routes that have the key, in the order of their
numbers there. -/
theorem map_bucket (h : compileTable c.router c.routes = .ok t) (k : String) :
    ((t.buckets.lookup k).getD []).map some = (c.numbers k).map c.compiled? := by
  -- the calls that set the slots store nothing
  have hstored : History.stored c.router.tableOptions (compileCalls c.router c.routes) =
      c.routes.filterMap fun d =>
        (Route.compile c.router.maxSegments d.path (.ofText d.callback)).toOption := by
    rw [History.stored, compileCalls, List.filterMap_cons_none rfl, List.filterMap_cons_none rfl,
      List.filterMap_map]
    exact List.filterMap_congr fun d _ => stored?_call _ d
  rw [compileTable_eq_ok h, Table.lookup_run, Table.storedUnder, hstored, Priority.map_order,
    map_some_filter_filterMap, ← map_compiled?, List.filter_map, ← Priority.map_order, numbers_eq]
  rfl

/-- **What stands at a position** is the entry of the route whose number stands there. -/
theorem routeAt?_eq_some_iff (h : compileTable c.router c.routes = .ok t) {r : Route} :
    t.routeAt? p = some r ↔ ∃ n, c.numberAt? p = some n ∧ c.compiled? n = some r := by
  have hmap : (t.routeAt? p).map some = (c.numberAt? p).map c.compiled? := by
    rw [Table.routeAt?, numberAt?, ← List.getElem?_map, ← List.getElem?_map, map_bucket h]
  rw [← Option.map_eq_some_iff, ← hmap]
  simp

/-! ### Routes behind others -/

/-- **A route is never reached** if a route that is tried before it has its key and takes whatever
it takes. -/
theorem numberAt?_ne_of_precedes (h : compileTable c.router c.routes = .ok t) {a b : Nat}
    {r s : Route} (hab : c.router.priority.Precedes a b) (hr : c.compiled? a = some r)
    (hs : c.compiled? b = some s) (hkey : Table.key r.base = Table.key s.base)
    (htakes : ∀ path, (s.verify? path).isSome → (r.verify? path).isSome) {raw : String}
    (hp : t.position? raw = some p) : c.numberAt? p ≠ some b := by
  intro hb
  obtain ⟨⟨s', hs', hv⟩, hbefore⟩ := Table.routeAt?_of_position? hp
  obtain ⟨b', hb', hs''⟩ := (routeAt?_eq_some_iff h).mp hs'
  obtain rfl : b = b' := Option.some.inj (hb.symm.trans hb')
  obtain rfl : s = s' := Option.some.inj (hs.symm.trans hs'')
  obtain ⟨u, hu, hk⟩ := mem_numbers_iff.mp (List.mem_of_getElem? hb)
  obtain rfl : s = u := Option.some.inj (hs.symm.trans hu)
  -- the other route has a position in the same bucket: before, there or behind
  obtain ⟨i, hi⟩ := List.getElem?_of_mem (mem_numbers_iff.mpr ⟨r, hr, hkey.trans hk⟩)
  have hat : t.routeAt? ⟨p.key, i⟩ = some r := (routeAt?_eq_some_iff h).mpr ⟨a, hi, hr⟩
  rcases Nat.lt_trichotomy i p.index with hlt | heq | hgt
  · exact hbefore i hlt r hat (htakes _ hv)
  · rw [heq] at hi
    obtain rfl : b = a := Option.some.inj (hb.symm.trans hi)
    exact hab.asymm hab
  · obtain ⟨hi', rfl⟩ := List.getElem?_eq_some_iff.mp hi
    obtain ⟨hp', rfl⟩ := List.getElem?_eq_some_iff.mp hb
    exact hab.asymm (List.pairwise_iff_getElem.mp pairwise_numbers _ _ hp' hi' hgt)

/-- **A reported duplicate is never reached**, or the route that it duplicates is not: an earlier
route has the same key, takes the same paths and binds the same values, and of the two the one that
is tried later answers no raw path. -/
theorem unreached_of_duplicateRoute {j : Nat} {like : String}
    (h : .duplicateRoute j like ∈ c.faults) :
    ∃ i < j, ∃ r s, c.compiled? i = some r ∧ c.compiled? j = some s ∧
      Table.key r.base = Table.key s.base ∧ (∀ path, r.values? path = s.values? path) ∧
      ∀ t, compileTable c.router c.routes = .ok t →
        ∀ raw m, t.resolve raw = .ok m → m.outcome = .matched →
          ∃ p n, t.position? raw = some p ∧ t.routeAt? p = some m.route ∧
            c.numberAt? p = some n ∧ c.compiled? n = some m.route ∧
            (c.router.priority = .firstWins → n ≠ j) ∧
            (c.router.priority = .lastWins → n ≠ i) := by
  obtain ⟨ts, hts, -, i, hij, ss, hss, halike⟩ := (duplicateRoute_mem_faults_iff c).mp h
  obtain ⟨a, hr⟩ := compiled?_of_segments? hss
  obtain ⟨b, hs⟩ := compiled?_of_segments? hts
  have hkey := Route.key_of_alike halike a b
  have hvalues := Route.values?_of_alike (proper_of_segments? hss) (proper_of_segments? hts)
    halike a b
  have htakes : ∀ path, ((Route.ofSegments ss a).verify? path).isSome =
      ((Route.ofSegments ts b).verify? path).isSome := by
    intro path
    rw [← Route.isSome_values?, ← Route.isSome_values?, hvalues]
  refine ⟨i, hij, _, _, hr, hs, hkey, hvalues, ?_⟩
  intro t ht raw m hm ho
  obtain ⟨p, hp, hroute⟩ := Table.exists_position? hm ho
  obtain ⟨n, hn, hc⟩ := (routeAt?_eq_some_iff ht).mp hroute
  refine ⟨p, n, hp, hroute, hn, hc, ?_, ?_⟩
  · rintro hfirst rfl
    have hprecedes : c.router.priority.Precedes i n := by rwa [hfirst]
    exact numberAt?_ne_of_precedes ht hprecedes hr hs hkey (fun path => (htakes path).ge) hp hn
  · rintro hlast rfl
    have hprecedes : c.router.priority.Precedes j n := by rwa [hlast]
    exact numberAt?_ne_of_precedes ht hprecedes hs hr hkey.symm (fun path => (htakes path).le) hp hn

/-- Two routes with one template up to letter case, and the root path between them. -/
def slugs : Config :=
  { routes := [⟨"Blog/$slug:str", "first"⟩, ⟨"/", "home"⟩, ⟨"/blog/$SLUG:String/", "second"⟩] }

theorem unreached_of_duplicateRoute_slugs :
    .duplicateRoute 2 "blog/$slug:str" ∈ slugs.faults ∧
    ∃ t m p n, compileTable slugs.router slugs.routes = .ok t ∧
      t.resolve "/BLOG/news" = .ok m ∧ m.params = [("slug", "news")] ∧
      t.position? "/BLOG/news" = some p ∧ slugs.numberAt? p = some n ∧ n ≠ 2 := by
  have hfault : .duplicateRoute 2 "blog/$slug:str" ∈ slugs.faults := by decide +kernel
  have hanswer : ((compileTable slugs.router slugs.routes).toOption.bind fun t =>
      (t.resolve "/BLOG/news").toOption).map (fun m => (m.outcome, m.params)) =
        some (.matched, [("slug", "news")]) := by decide +kernel
  obtain ⟨m, hm, hfound⟩ := Option.map_eq_some_iff.mp hanswer
  obtain ⟨ho, hparams⟩ := Prod.mk.inj hfound
  obtain ⟨t, ht, hm⟩ := Option.bind_eq_some_iff.mp hm
  rw [Call.toOption_eq_some] at ht hm
  obtain ⟨_, _, _, _, -, -, -, -, hreached⟩ := unreached_of_duplicateRoute hfault
  obtain ⟨p, n, hp, -, hn, -, hfirst, -⟩ := hreached t ht _ m hm ho
  exact ⟨hfault, t, m, p, n, ht, hm, hparams, hp, hn, hfirst rfl⟩

end Config

end PathRouter

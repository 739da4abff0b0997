import PathRouter.Proofs.Table.Alike

/-!
# Routes with different bases are independent

A bucket depends on the routes stored under its key and on their order (`lookup_run`). So calls that
store the same routes under each key, each in the same order, and set the same slots make alike
tables, however the routes of different keys are mixed (`Interleaves.alike`). The order in which the
buckets are kept does not matter either: a table with its buckets in any order (`Rearranges`) is
exported key by key as the ascending one (`Rearranges.exportedByKey`), and answers as it does. The
two together are `Table.run_interleaved`.
-/

namespace PathRouter

/-! ### Buckets in any order -/

namespace Buckets

variable {bs cs : Buckets}

/-- The buckets of the keys in ascending order, each looked up by its key. -/
def byKey (bs : Buckets) : Buckets :=
  ((bs.map (·.1)).mergeSort (· ≤ ·)).map fun k => (k, (bs.lookup k).getD [])

/-- What is found does not depend on the order of the buckets. -/
theorem lookup_of_perm (h : cs.Perm bs) (hbs : Ascending bs) (k : String) :
    cs.lookup k = bs.lookup k := by
  have hdistinct : bs.Pairwise fun b c => b.1 ≠ c.1 := hbs.imp ne_of_lt
  have hdistinct' : cs.Pairwise fun b c => b.1 ≠ c.1 :=
    (h.pairwise_iff fun hne => hne.symm).mpr hdistinct
  refine Option.ext fun rs => ?_
  rw [lookup_eq_some_iff hdistinct, lookup_eq_some_iff hdistinct', h.mem_iff]

/-- **Sorting the keys** brings buckets into the one ascending order. -/
theorem byKey_of_perm (h : cs.Perm bs) (hbs : Ascending bs) : cs.byKey = bs := by
  have hsorted : (bs.map (·.1)).Pairwise (· ≤ ·) :=
    List.pairwise_map.mpr (hbs.imp le_of_lt)
  have hkeys : (cs.map (·.1)).mergeSort (· ≤ ·) = bs.map (·.1) :=
    List.Perm.eq_of_pairwise' (List.pairwise_mergeSort' (· ≤ ·) _) hsorted
      ((List.mergeSort_perm _ _).trans (h.map _))
  rw [byKey, hkeys]
  simp only [lookup_of_perm h hbs]
  exact map_lookup hbs

end Buckets

namespace Table

open History

/-- The exported text of a table whose buckets are in any order: its keys are sorted first. -/
def exportedByKey (t : Table) : Except Slot String :=
  { t with buckets := t.buckets.byKey }.exported

/-- Whether a table is another one with its buckets in another order. -/
structure Rearranges (t u : Table) : Prop where
  options : t.options = u.options
  buckets : t.buckets.Perm u.buckets
  home : t.home = u.home
  error : t.error = u.error

section Rearranged
variable {t u : Table}

theorem Rearranges.refl (t : Table) : t.Rearranges t := ⟨rfl, .refl _, rfl, rfl⟩

theorem rearranges_reverse (t : Table) :
    { t with buckets := t.buckets.reverse }.Rearranges t :=
  ⟨rfl, List.reverse_perm _, rfl, rfl⟩

theorem Rearranges.exportedByKey (h : t.Rearranges u) (hu : u.buckets.Ascending) :
    t.exportedByKey = u.exported := by
  rw [Table.exportedByKey, Buckets.byKey_of_perm h.buckets hu, h.options, h.home, h.error]

theorem Rearranges.resolve (h : t.Rearranges u) (hu : u.buckets.Ascending) (raw : String) :
    t.resolve raw = u.resolve raw := by
  unfold Table.resolve
  simp only [atRoot_eq, notFound_eq, bucket?, Buckets.lookup_of_perm h.buckets hu, h.options,
    h.home, h.error]

end Rearranged

/-! ### Interleaved calls -/

/-- Whether two lists of calls store the same routes under the key of each base, in the same order,
and set the same slots. What the routes were read from does not count, and neither does the order of
calls for different keys. -/
structure Interleaves (options : TableOptions) (calls calls' : List Call) : Prop where
  routes : ∀ base, List.Forall₂ (fun r s => r.same s)
    (storedUnder options calls (key base)) (storedUnder options calls' (key base))
  home : ∃ r s, lastHome calls = some r ∧ lastHome calls' = some s ∧ r.same s
  error : ∃ r s, lastError calls = some r ∧ lastError calls' = some s ∧ r.same s

variable {options : TableOptions} {calls calls' : List Call}

/-- Under a text that is no key nothing is stored. -/
theorem forall_storedUnder_iff {P : List Route → List Route → Prop} (nil : P [] []) :
    (∀ k, P (storedUnder options calls k) (storedUnder options calls' k)) ↔
      ∀ base, P (storedUnder options calls (key base)) (storedUnder options calls' (key base)) := by
  refine ⟨fun h base => h (key base), ?_⟩
  intro h k
  by_cases hk : ∃ base, key base = k
  · obtain ⟨base, rfl⟩ := hk
    exact h base
  · have hnone : ∀ cs, storedUnder options cs k = [] := by
      intro cs
      rw [storedUnder, List.filter_eq_nil_iff]
      intro r _ hr
      exact hk ⟨r.base, beq_iff_eq.mp hr⟩
    rw [hnone, hnone]
    exact nil

theorem filed_run (options : TableOptions) (calls : List Call) :
    (run { options } calls).buckets.Filed :=
  ((Reachable.new options).run calls).sound.filed

namespace Interleaves

variable (h : Interleaves options calls calls')
include h

/-- The slots hold routes without segments, so that those that are the same are equal. -/
theorem lastHome_eq : lastHome calls = lastHome calls' := by
  obtain ⟨r, s, hr, hs, hrs⟩ := h.home
  obtain ⟨a, rfl⟩ := special_of_lastHome hr
  obtain ⟨b, rfl⟩ := special_of_lastHome hs
  rw [hr, hs, Route.special_of_same hrs]

theorem lastError_eq : lastError calls = lastError calls' := by
  obtain ⟨r, s, hr, hs, hrs⟩ := h.error
  obtain ⟨a, rfl⟩ := special_of_lastError hr
  obtain ⟨b, rfl⟩ := special_of_lastError hs
  rw [hr, hs, Route.special_of_same hrs]

/-- **Interleavings make alike tables**, under each priority. -/
theorem alike : (run { options } calls).Alike (run { options } calls') where
  options := by rw [run_options, run_options]
  buckets := by
    refine ((filed_run options calls).rel_iff_lookup (filed_run options calls')).mpr fun k => ?_
    rw [lookup_run, lookup_run, options.priority.forall₂_order_iff]
    exact (forall_storedUnder_iff .nil).mpr h.routes k
  home := by
    obtain ⟨r, s, hr, hs, hrs⟩ := h.home
    rw [run_new_home, run_new_home, hr, hs]
    exact .some hrs
  error := by
    obtain ⟨r, s, hr, hs, hrs⟩ := h.error
    rw [run_new_error, run_new_error, hr, hs]
    exact .some hrs

/-- **Interleavings have the same exported text** if and only if the routes under each key have. -/
theorem exported_eq_iff :
    (run { options } calls).exported = (run { options } calls').exported ↔
      ∀ base, (storedUnder options calls (key base)).map Route.exported =
        (storedUnder options calls' (key base)).map Route.exported := by
  obtain ⟨home, -, hhome, -⟩ := h.home
  obtain ⟨error, -, herror, -⟩ := h.error
  have hhomes : (run { options } calls).home = (run { options } calls').home := by
    rw [run_new_home, run_new_home, h.lastHome_eq]
  have herrors : (run { options } calls).error = (run { options } calls').error := by
    rw [run_new_error, run_new_error, h.lastError_eq]
  rw [h.alike.exported_eq_iff (filed_run options calls) (filed_run options calls')
    (run_new_home.trans hhome) (run_new_error.trans herror) hhomes herrors,
    ← forall_storedUnder_iff (P := fun rs ss => rs.map Route.exported = ss.map Route.exported) rfl]
  refine forall_congr' fun k => ?_
  rw [lookup_run, lookup_run, options.priority.map_order, options.priority.map_order]
  exact options.priority.order_inj

end Interleaves

/-- Calls that store the very same routes under each key are interleavings. -/
theorem interleaves_of_eq
    (hroutes : ∀ base, storedUnder options calls (key base) = storedUnder options calls' (key base))
    {home error : Route} (hhome : lastHome calls = some home) (hhome' : lastHome calls' = some home)
    (herror : lastError calls = some error) (herror' : lastError calls' = some error) :
    Interleaves options calls calls' where
  routes base := by
    rw [hroutes base, List.forall₂_same]
    exact fun r _ => Route.same_iff.mpr ⟨rfl, rfl, rfl, rfl⟩
  home := ⟨home, home, hhome, hhome', Route.same_iff.mpr ⟨rfl, rfl, rfl, rfl⟩⟩
  error := ⟨error, error, herror, herror', Route.same_iff.mpr ⟨rfl, rfl, rfl, rfl⟩⟩

/-- **Routes with different bases are independent.** Interleavings of the same routes answer every
path alike, in whatever order the buckets are kept. Their exported texts do not depend on that order,
and they are the same text if and only if the same routes keep the same texts; routes that are stored
by the same calls do. -/
theorem run_interleaved (h : Interleaves options calls calls') {t u : Table}
    (ht : t.Rearranges (run { options } calls)) (hu : u.Rearranges (run { options } calls')) :
    (∀ raw, ∃ m n, t.resolve raw = .ok m ∧ u.resolve raw = .ok n ∧ m.outcome = n.outcome ∧
      m.route.same n.route ∧ m.params = n.params) ∧
    t.exportedByKey = (run { options } calls).exported ∧
    u.exportedByKey = (run { options } calls').exported ∧
    ((∃ blob, t.exportedByKey = .ok blob ∧ u.exportedByKey = .ok blob) ↔
      ∀ base, (storedUnder options calls (key base)).map Route.exported =
        (storedUnder options calls' (key base)).map Route.exported) := by
  obtain ⟨home, -, hhome, -⟩ := h.home
  obtain ⟨error, -, herror, -⟩ := h.error
  have hh : (run { options } calls).home = some home := run_new_home.trans hhome
  have he : (run { options } calls).error = some error := run_new_error.trans herror
  have hexport := ht.exportedByKey (filed_run options calls).ascending
  have hexport' := hu.exportedByKey (filed_run options calls').ascending
  refine ⟨?_, hexport, hexport', ?_⟩
  · intro raw
    rw [ht.resolve (filed_run options calls).ascending,
      hu.resolve (filed_run options calls').ascending]
    obtain ⟨m, hm⟩ := exists_resolve hh he raw
    obtain ⟨e, hfail, -⟩ | ⟨m, n, hm, hn, hmn⟩ := h.alike.resolve raw
    · rw [hm] at hfail
      cases hfail
    · exact ⟨m, n, hm, hn, hmn⟩
  · obtain ⟨blob, hb⟩ := exists_exported hh he
    rw [hexport, hexport', ← h.exported_eq_iff, hb]
    constructor
    · rintro ⟨blob', hblob, hsame⟩
      rw [hsame, hblob]
    · intro hsame
      exact ⟨blob, rfl, hsame.symm⟩

/-- Calls for two bases, with the slots set first and last. -/
def shopFirst : List Call :=
  [.setHome (.direct "home"), .addRoute "shop/$id" (.direct "show"),
    .addRoute "Shop/new" (.direct "new"), .addRoute "blog/$n:int" (.direct "post"),
    .setError (.direct "error")]

/-- The same routes mixed in another way, with the home route set twice. -/
def shopLast : List Call :=
  [.addRoute "shop/$id" (.direct "show"), .setError (.direct "error"),
    .addRoute "blog/$n:int" (.direct "post"), .setHome (.direct "old"),
    .addRoute "Shop/new" (.direct "new"), .setHome (.direct "home")]

/-- Two bases in either order under `lastWins`, with the buckets of one table the other way round. -/
theorem run_interleaved_shop :
    Interleaves { priority := .lastWins } shopFirst shopLast ∧
    ∃ u : Table, u.Rearranges (run { options := { priority := .lastWins } } shopLast) ∧
      u.buckets.map (·.1) = ["shop", "blog"] ∧
      (∃ blob, (run { options := { priority := .lastWins } } shopFirst).exportedByKey = .ok blob ∧
        u.exportedByKey = .ok blob) ∧
      ∃ m n, (run { options := { priority := .lastWins } } shopFirst).resolve "/SHOP/new" = .ok m ∧
        u.resolve "/SHOP/new" = .ok n ∧ m.route.same n.route ∧ m.params = n.params := by
  let shop : Route := .ofSegments [.ofLiteral "shop", .ofParam "id" .untyped] (.direct "show")
  let new : Route := .ofSegments [.ofLiteral "Shop", .ofLiteral "new"] (.direct "new")
  let post : Route := .ofSegments [.ofLiteral "blog", .ofParam "n" .int] (.direct "post")
  have hstored : stored { priority := .lastWins } shopFirst = [shop, new, post] := rfl
  have hstored' : stored { priority := .lastWins } shopLast = [shop, post, new] := rfl
  have hroutes : ∀ base, storedUnder { priority := .lastWins } shopFirst (key base) =
      storedUnder { priority := .lastWins } shopLast (key base) := by
    intro base
    have hshop : key shop.base = "shop" := by decide
    have hnew : key new.base = "shop" := by decide
    have hpost : key post.base = "blog" := by decide
    rw [storedUnder, storedUnder, hstored, hstored']
    simp only [List.filter_cons, hshop, hnew, hpost]
    by_cases hk : "shop" = key base
    · rw [← hk]
      rfl
    · simp [hk]
  have h : Interleaves { priority := .lastWins } shopFirst shopLast :=
    interleaves_of_eq hroutes rfl rfl rfl rfl
  let u : Table := { run { options := { priority := .lastWins } } shopLast with
    buckets := (run { options := { priority := .lastWins } } shopLast).buckets.reverse }
  have hu : u.Rearranges (run { options := { priority := .lastWins } } shopLast) :=
    rearranges_reverse _
  have hkeys : u.buckets.map (·.1) = ["shop", "blog"] := by decide +kernel
  obtain ⟨hanswers, -, -, hexport⟩ := run_interleaved h (.refl _) hu
  have hblob := hexport.mpr fun base => congrArg (List.map Route.exported) (hroutes base)
  obtain ⟨m, n, hm, hn, -, hroute, hparams⟩ := hanswers "/SHOP/new"
  exact ⟨h, u, hu, hkeys, hblob, m, n, hm, hn, hroute, hparams⟩

end Table

end PathRouter

import PathRouter.Proofs.Table.Interleaving

/-!
# Exported routes added one by one

An exported table can be loaded as a whole, or its routes can be added one by one to a new table. A
load appends, whatever the priority is; a route that is added goes where the priority puts it. Added
in the exported order, which is the order of trying within each bucket (`Filed.filter_routes`), the
routes make the loaded buckets under `firstWins` and the same buckets backwards under `lastWins`;
there it takes the opposite order to make the loaded ones (`Reachable.replay`).
-/

namespace PathRouter

/-- Whether a route is another one again, with the same exported text. -/
structure Route.Restores (r s : Route) : Prop where
  same : r.same s
  exported : s.exported = r.exported

theorem Route.restores_reloaded (r : Route) : r.Restores r.reloaded :=
  ⟨same_reloaded r, exported_reloaded r⟩

namespace Buckets

variable {bs cs : Buckets}

/-- Buckets with the routes in each the other way round. -/
def reversed (bs : Buckets) : Buckets := bs.map fun b => (b.1, b.2.reverse)

theorem Filed.reversed (h : bs.Filed) : bs.reversed.Filed where
  ascending := List.pairwise_map.mpr h.ascending
  nonempty := by
    intro b hb
    obtain ⟨c, hc, rfl⟩ := List.mem_map.mp hb
    exact List.reverse_ne_nil_iff.mpr (h.nonempty c hc)
  keys := by
    intro b hb r hr
    obtain ⟨c, hc, rfl⟩ := List.mem_map.mp hb
    exact h.keys c hc r (List.mem_reverse.mp hr)

theorem lookup_reversed (bs : Buckets) (k : String) :
    (bs.reversed.lookup k).getD [] = ((bs.lookup k).getD []).reverse := by
  rw [Buckets.reversed, lookup_map]
  cases bs.lookup k <;> rfl

/-- Buckets in order are equal if the same is found in them. -/
theorem Filed.eq_of_lookup (hb : bs.Filed) (hc : cs.Filed)
    (h : ∀ k, (bs.lookup k).getD [] = (cs.lookup k).getD []) : bs = cs := by
  have hrel : Rel (· = ·) bs cs :=
    (hb.rel_iff_lookup hc).mpr fun k => List.forall₂_eq_eq_eq ▸ h k
  refine List.forall₂_eq_eq_eq ▸ hrel.imp ?_
  rintro b c ⟨hk, hrs⟩
  rw [List.forall₂_eq_eq_eq] at hrs
  exact Prod.ext hk hrs

/-- **The routes with a key** stand among all routes as they do in its bucket. -/
theorem Filed.filter_routes (h : bs.Filed) (k : String) :
    bs.routes.filter (fun r => Table.key r.base == k) = (bs.lookup k).getD [] := by
  induction bs with
  | nil => rfl
  | cons b bs ih =>
    obtain ⟨l, rs⟩ := b
    have hl : ∀ r ∈ rs, Table.key r.base = l := h.keys (l, rs) List.mem_cons_self
    rw [routes_cons, List.filter_append, ih h.tail]
    by_cases hk : k = l
    · subst hk
      have hrest : bs.lookup k = none := lookup_eq_none (List.pairwise_cons.mp h.ascending).1
      have hself : rs.filter (fun r => Table.key r.base == k) = rs :=
        List.filter_eq_self.mpr fun r hr => beq_iff_eq.mpr (hl r hr)
      rw [hself, hrest, List.lookup_cons_self]
      exact List.append_nil rs
    · have hnone : rs.filter (fun r => Table.key r.base == k) = [] :=
        List.filter_eq_nil_iff.mpr fun r hr e => hk ((beq_iff_eq.mp e).symm.trans (hl r hr))
      rw [hnone, lookup_cons_of_ne hk, List.nil_append]

end Buckets

namespace Table

open History

/-- The table with the routes of some exported texts added one after another. -/
def addAllCached (t : Table) : List String → Except CacheError Table
  | [] => .ok t
  | blob :: blobs => do
    let (_, u) ← t.addCached blob
    u.addAllCached blobs

/-- The calls that add the exported texts of some routes. -/
def replayCalls (rs : List Route) : List Call := rs.map fun r => .addCached r.exported

variable {t : Table} {rs : List Route}

/-- Exported texts of sound routes are all accepted, if the routes keep the limit. -/
theorem addAllCached_exported
    (h : ∀ r ∈ rs, r.Sound ∧ checked t.options.maxSegments r.reloaded = .ok r.reloaded) :
    t.addAllCached (rs.map Route.exported) = .ok (t.run (replayCalls rs)) := by
  induction rs generalizing t with
  | nil => rfl
  | cons r rs ih =>
    obtain ⟨hr, hc⟩ := h r List.mem_cons_self
    have hadd : t.addCached r.exported = .ok (r.reloaded, t.insert r.reloaded) := by
      rw [addCached, importRoute_exported hr, hc]
      rfl
    have hcall : t.call (.addCached r.exported) = t.insert r.reloaded := by rw [call, hadd]
    rw [List.map_cons, addAllCached, hadd, replayCalls, List.map_cons, run, List.foldl_cons, hcall]
    exact ih (t := t.insert r.reloaded) fun s hs => h s (List.mem_cons_of_mem _ hs)

theorem stored_replayCalls (options : TableOptions)
    (h : ∀ r ∈ rs, r.Sound ∧ checked options.maxSegments r.reloaded = .ok r.reloaded) :
    stored options (replayCalls rs) = rs.map Route.reloaded := by
  rw [stored, replayCalls, List.filterMap_map, ← List.filterMap_eq_map]
  refine List.filterMap_congr fun r hr => ?_
  obtain ⟨hsound, hc⟩ := h r hr
  exact Call.toOption_eq_some.mpr ((importRoute_exported hsound).trans hc)

/-- What is found under a key after some routes were added: those with the key, in the order of
trying. -/
theorem lookup_replayCalls (options : TableOptions)
    (h : ∀ r ∈ rs, r.Sound ∧ checked options.maxSegments r.reloaded = .ok r.reloaded) (k : String) :
    ((run { options } (replayCalls rs)).buckets.lookup k).getD [] =
      options.priority.order ((rs.filter fun r => key r.base == k).map Route.reloaded) := by
  rw [lookup_run, storedUnder, stored_replayCalls options h, List.filter_map]
  rfl

/-- **Routes of a sound table are added one by one** to a new table with its options, the priority
apart, and the buckets are those that hold the routes of each key in the order of trying. -/
theorem Sound.exists_addAllCached (h : t.Sound) (priority : Priority)
    (hrs : ∀ r ∈ rs, r ∈ t.buckets.routes) {bs : Buckets} (hbs : bs.Filed)
    (horder : ∀ k, priority.order ((rs.filter fun r => key r.base == k).map Route.reloaded) =
      (bs.lookup k).getD []) :
    ∃ u, addAllCached { options := { t.options with priority } } (rs.map Route.exported) = .ok u ∧
      u.buckets = bs := by
  have hadmitted : ∀ r ∈ rs,
      r.Sound ∧ checked t.options.maxSegments r.reloaded = .ok r.reloaded := by
    intro r hr
    obtain ⟨hsound, hlength⟩ := h.mem_routes (hrs r hr)
    exact ⟨hsound, checked_eq_ok_iff.mpr ⟨rfl, hlength⟩⟩
  refine ⟨_, addAllCached_exported hadmitted, ?_⟩
  refine (filed_run { t.options with priority } _).eq_of_lookup hbs fun k => ?_
  rw [lookup_replayCalls { t.options with priority } hadmitted, horder]

/-- **Loading a table and adding its routes one by one.** Of a reachable table whose slots are set, a
load makes the same buckets under every priority. Adding the exported routes in their order makes
these buckets under `firstWins`, and each of them backwards under `lastWins`, where the opposite order
makes them as they are. -/
theorem Reachable.replay (h : Reachable t) (hh : t.home ≠ none) (he : t.error ≠ none) :
    ∃ blob d bs, t.exported = .ok blob ∧ CacheDocument.decode blob = .ok d ∧
      Buckets.Rel Route.Restores t.buckets bs ∧
      (∀ priority, ∃ u, imported { t.options with priority } blob = .ok u ∧ u.buckets = bs) ∧
      (∃ u, addAllCached { options := { t.options with priority := .firstWins } } d.routes = .ok u ∧
        u.buckets = bs) ∧
      (∃ u, addAllCached { options := { t.options with priority := .lastWins } } d.routes = .ok u ∧
        u.buckets = bs.reversed) ∧
      ∃ u, addAllCached { options := { t.options with priority := .lastWins } } d.routes.reverse =
        .ok u ∧ u.buckets = bs := by
  obtain ⟨home, hh⟩ := Option.ne_none_iff_exists'.mp hh
  obtain ⟨error, he⟩ := Option.ne_none_iff_exists'.mp he
  obtain ⟨blob, hb⟩ := exists_exported hh he
  obtain ⟨_, _, -, -, hblob⟩ := exported_eq_ok hb
  have hfiled : t.buckets.reloaded.Filed :=
    (Reachable.loaded (imported_exported h.sound hb)).sound.filed
  have hlookup : ∀ k, (t.buckets.reloaded.lookup k).getD [] =
      (t.buckets.routes.filter fun r => key r.base == k).map Route.reloaded := by
    intro k
    rw [Buckets.lookup_reloaded, h.sound.filed.filter_routes]
    cases t.buckets.lookup k <;> rfl
  refine ⟨blob, _, t.buckets.reloaded, hb, hblob ▸ CacheDocument.decode_encode rfl rfl,
    Buckets.forall₂_reloaded Route.restores_reloaded t.buckets, ?_, ?_, ?_, ?_⟩
  · intro priority
    exact ⟨_, imported_exported_of_le _ h.sound hb fun r hr => (h.sound.mem_routes hr).2.2, rfl⟩
  · exact h.sound.exists_addAllCached .firstWins (fun _ hr => hr) hfiled fun k => (hlookup k).symm
  · refine h.sound.exists_addAllCached .lastWins (fun _ hr => hr) hfiled.reversed fun k => ?_
    rw [Buckets.lookup_reversed, hlookup]
    rfl
  · dsimp only
    rw [← List.map_reverse]
    refine h.sound.exists_addAllCached .lastWins (fun _ hr => List.mem_reverse.mp hr) hfiled fun k => ?_
    rw [hlookup, List.filter_reverse, List.map_reverse]
    exact List.reverse_reverse _

/-- Two buckets, one of them with two routes. -/
theorem replay_shop : ∃ blob d bs u v,
    (run {} shopFirst).exported = .ok blob ∧ CacheDocument.decode blob = .ok d ∧
    Buckets.Rel Route.Restores (run {} shopFirst).buckets bs ∧
    (run {} shopFirst).buckets.map (fun b => (b.1, b.2.map Route.callback)) =
      [("blog", [.direct "post"]), ("shop", [.direct "show", .direct "new"])] ∧
    addAllCached { options := { priority := .lastWins } } d.routes = .ok u ∧
    u.buckets = bs.reversed ∧
    imported { priority := .lastWins } blob = .ok v ∧ v.buckets = bs := by
  have hreach : Reachable (run {} shopFirst) := (Reachable.new {}).run _
  obtain ⟨blob, d, bs, hb, hd, hrel, hload, -, ⟨u, hu, hbackwards⟩, -⟩ :=
    hreach.replay (by decide) (by decide)
  obtain ⟨v, hv, hbuckets⟩ := hload .lastWins
  exact ⟨blob, d, bs, u, v, hb, hd, hrel, by decide +kernel, hu, hbackwards, hv, hbuckets⟩

end Table

end PathRouter

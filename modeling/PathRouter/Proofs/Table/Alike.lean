import Mathlib.Data.List.Sort
import PathRouter.Proofs.Table.History
import PathRouter.Proofs.Table.Reload

/-!
# What alike tables have in common

Tables that are alike answer every path alike, since a route takes and binds the same whatever it was
read from (`Alike.resolve`). What is exported also depends on the texts that the routes keep: alike
tables with the same slots have the same exported text if and only if the routes under each key have
(`Alike.exported_eq_iff`). Both are read off the look-ups: buckets in order are alike if and only if
what is found under each key is (`Filed.forall₂_iff_lookup`).
-/

namespace PathRouter

/-! ### Routes -/

namespace Route

variable {r s : Route}

theorem same_iff : r.same s ↔ r.base = s.base ∧ r.segments = s.segments ∧ r.matcher = s.matcher ∧
    r.callback = s.callback := by
  simp [same, and_assoc]

/-- What a route takes and binds does not depend on what it was read from. -/
theorem verify?_of_same (h : r.same s) (path : String) : r.verify? path = s.verify? path := by
  obtain ⟨-, hsegments, hmatcher, -⟩ := same_iff.mp h
  rw [verify?, verify?, paramNames, paramNames, hsegments, hmatcher]

/-- Routes without segments that are the same have the same callback, and nothing else to differ
in. -/
theorem special_of_same {a b : Callback} (h : (special a).same (special b)) : a = b :=
  (same_iff.mp h).2.2.2

end Route

/-- Whether two matches have the same outcome and the same parameters from the same route, whatever
it was read from. -/
def RouteMatch.Alike (m n : RouteMatch) : Prop :=
  m.outcome = n.outcome ∧ m.route.same n.route ∧ m.params = n.params

theorem Route.match?_of_same {r s : Route} (h : r.same s) (path : String) :
    Option.Rel RouteMatch.Alike (r.match? path) (s.match? path) := by
  rw [match?, match?, verify?_of_same h]
  cases s.verify? path with
  | none => exact .none
  | some params => exact .some ⟨rfl, h, rfl⟩

theorem Route.findSome?_of_same {rs ss : List Route}
    (h : List.Forall₂ (fun r s => r.same s) rs ss) (path : String) :
    Option.Rel RouteMatch.Alike (rs.findSome? (·.match? path)) (ss.findSome? (·.match? path)) := by
  induction h with
  | nil => exact .none
  | @cons r s rs ss hrs _ ih =>
    rw [List.findSome?_cons, List.findSome?_cons]
    have hmatch := match?_of_same hrs path
    generalize r.match? path = m, s.match? path = n at hmatch ⊢
    cases hmatch with
    | none => exact ih
    | some hmn => exact .some hmn

/-! ### Buckets -/

theorem Priority.forall₂_order_iff {α : Type} (p : Priority) {S : α → α → Prop} {as bs : List α} :
    List.Forall₂ S (p.order as) (p.order bs) ↔ List.Forall₂ S as bs := by
  cases p with
  | firstWins => exact Iff.rfl
  | lastWins => exact List.forall₂_reverse_iff

namespace Buckets

variable {bs cs : Buckets} {S : Route → Route → Prop}

/-- Whether two buckets have the same keys, and related routes in the same order under each. -/
def Rel (S : Route → Route → Prop) (bs cs : Buckets) : Prop :=
  List.Forall₂ (fun b c => b.1 = c.1 ∧ List.Forall₂ S b.2 c.2) bs cs

theorem Rel.lookup (h : Rel S bs cs) (k : String) :
    List.Forall₂ S ((bs.lookup k).getD []) ((cs.lookup k).getD []) := by
  induction h with
  | nil => exact .nil
  | @cons b c bs cs hbc _ ih =>
    obtain ⟨l, rs⟩ := b
    obtain ⟨l', ss⟩ := c
    obtain ⟨rfl, hrs⟩ : l = l' ∧ List.Forall₂ S rs ss := hbc
    by_cases hk : k = l
    · subst hk
      rwa [List.lookup_cons_self, List.lookup_cons_self]
    · rwa [lookup_cons_of_ne hk, lookup_cons_of_ne hk]

/-- Ascending buckets are what is found under their keys. -/
theorem map_lookup (h : Ascending bs) :
    (bs.map (·.1)).map (fun k => (k, (bs.lookup k).getD [])) = bs := by
  rw [List.map_map]
  refine (List.map_congr_left fun b hb => ?_).trans (List.map_id bs)
  show (b.1, (bs.lookup b.1).getD []) = b
  rw [lookup_of_mem h hb]
  rfl

/-- Something is found under the keys, and under no other text. -/
theorem Filed.lookup_ne_nil_iff (h : bs.Filed) {k : String} :
    (bs.lookup k).getD [] ≠ [] ↔ k ∈ bs.map (·.1) := by
  constructor
  · intro hne
    cases hl : bs.lookup k with
    | none =>
      rw [hl] at hne
      exact absurd rfl hne
    | some rs => exact List.mem_map_of_mem (Assoc.mem_of_lookup hl)
  · intro hk
    obtain ⟨b, hb, rfl⟩ := List.mem_map.mp hk
    rw [lookup_of_mem h.ascending hb]
    exact h.nonempty b hb

/-- **Buckets in order are determined by what is found in them.** -/
theorem Filed.rel_iff_lookup (hb : bs.Filed) (hc : cs.Filed) :
    Rel S bs cs ↔ ∀ k, List.Forall₂ S ((bs.lookup k).getD []) ((cs.lookup k).getD []) := by
  refine ⟨Rel.lookup, ?_⟩
  intro h
  have hmem : ∀ k, k ∈ bs.map (·.1) ↔ k ∈ cs.map (·.1) := by
    intro k
    have hlength := (h k).length_eq
    rw [← hb.lookup_ne_nil_iff, ← hc.lookup_ne_nil_iff, ← List.length_pos_iff,
      ← List.length_pos_iff, hlength]
  have hkeys : bs.map (·.1) = cs.map (·.1) :=
    (List.pairwise_map.mpr hb.ascending).eq_of_mem_iff (List.pairwise_map.mpr hc.ascending) hmem
  rw [Rel, ← map_lookup hb.ascending, ← map_lookup hc.ascending, hkeys,
    List.forall₂_map_left_iff, List.forall₂_map_right_iff, List.forall₂_same]
  intro k _
  exact ⟨rfl, h k⟩

/-- The texts of all routes are those of the routes under each key, one after another. -/
theorem Rel.map_routes_eq_iff {β : Type} {f : Route → β} (h : Rel S bs cs) :
    bs.routes.map f = cs.routes.map f ↔ Rel (fun r s => f r = f s) bs cs := by
  induction h with
  | nil => exact iff_of_true rfl .nil
  | @cons b c bs cs hbc _ ih =>
    obtain ⟨hk, hrs⟩ := hbc
    have hlength : (b.2.map f).length = (c.2.map f).length := by
      rw [List.length_map, List.length_map, hrs.length_eq]
    have hf : b.2.map f = c.2.map f ↔ List.Forall₂ (fun r s => f r = f s) b.2 c.2 := by
      rw [← List.forall₂_eq_eq_eq, List.forall₂_map_left_iff, List.forall₂_map_right_iff]
    rw [routes_cons, routes_cons, List.map_append, List.map_append, Rel, List.forall₂_cons,
      ← Rel, ← ih, ← hf]
    constructor
    · intro happend
      obtain ⟨hhead, htail⟩ := List.append_inj happend hlength
      exact ⟨⟨hk, hhead⟩, htail⟩
    · rintro ⟨⟨-, hhead⟩, htail⟩
      rw [hhead, htail]

end Buckets

/-! ### Tables -/

namespace Table

variable {t u : Table}

/-- **Alike tables answer alike.** -/
theorem Alike.resolve (h : t.Alike u) (raw : String) :
    (∃ e, t.resolve raw = .error e ∧ u.resolve raw = .error e) ∨
      ∃ m n, t.resolve raw = .ok m ∧ u.resolve raw = .ok n ∧ m.Alike n := by
  unfold Table.resolve
  dsimp only
  rw [← h.options]
  generalize Path.normalize raw t.options.baseUrl = path
  cases Path.firstSegment? path with
  | none =>
    have hhome := h.home
    dsimp only
    rw [atRoot_eq, atRoot_eq]
    generalize t.home = o, u.home = p at hhome
    cases hhome with
    | none => exact Or.inl ⟨_, rfl, rfl⟩
    | some hrs => exact Or.inr ⟨_, _, rfl, rfl, rfl, hrs, rfl⟩
  | some first =>
    have herror := h.error
    have htaking := Route.findSome?_of_same (Buckets.Rel.lookup h.buckets (key first)) path
    dsimp only [bucket?]
    rw [notFound_eq, notFound_eq]
    generalize ((t.buckets.lookup (key first)).getD []).findSome? (·.match? path) = a,
      ((u.buckets.lookup (key first)).getD []).findSome? (·.match? path) = b at htaking
    generalize t.error = o, u.error = p at herror
    cases htaking with
    | some hmn => exact Or.inr ⟨_, _, rfl, rfl, hmn⟩
    | none =>
      cases herror with
      | none => exact Or.inl ⟨_, rfl, rfl⟩
      | some hrs => exact Or.inr ⟨_, _, rfl, rfl, rfl, hrs, rfl⟩

/-- Tables with the same priority, the same texts of routes and the same slots have the same exported
text, and no others. -/
theorem exported_eq_iff {home error : Route} (hh : t.home = some home) (he : t.error = some error)
    (hhome : t.home = u.home) (herror : t.error = u.error)
    (hpriority : t.options.priority = u.options.priority) :
    t.exported = u.exported ↔
      t.buckets.routes.map Route.exported = u.buckets.routes.map Route.exported := by
  obtain ⟨blob, hb⟩ := exists_exported hh he
  obtain ⟨blob', hb'⟩ := exists_exported (hhome ▸ hh) (herror ▸ he)
  obtain ⟨r, s, hr, hs, hblob⟩ := exported_eq_ok hb
  obtain ⟨r', s', hr', hs', hblob'⟩ := exported_eq_ok hb'
  obtain rfl : r = r' := Option.some.inj (hr.symm.trans (hhome.trans hr'))
  obtain rfl : s = s' := Option.some.inj (hs.symm.trans (herror.trans hs'))
  rw [hb, hb', Except.ok.injEq, hblob, hblob', hpriority]
  constructor
  · intro hsame
    have hdecode := congrArg CacheDocument.decode hsame
    rw [CacheDocument.decode_encode rfl rfl, CacheDocument.decode_encode rfl rfl] at hdecode
    exact congrArg CacheDocument.routes (Except.ok.inj hdecode)
  · intro hroutes
    rw [hroutes]

/-- **Alike tables with the same slots** have the same exported text if and only if the routes that
are found under each key have the same exported texts. -/
theorem Alike.exported_eq_iff (h : t.Alike u) (ht : t.buckets.Filed) (hu : u.buckets.Filed)
    {home error : Route} (hh : t.home = some home) (he : t.error = some error)
    (hhome : t.home = u.home) (herror : t.error = u.error) :
    t.exported = u.exported ↔ ∀ k,
      ((t.buckets.lookup k).getD []).map Route.exported =
        ((u.buckets.lookup k).getD []).map Route.exported := by
  rw [Table.exported_eq_iff hh he hhome herror (congrArg TableOptions.priority h.options),
    Buckets.Rel.map_routes_eq_iff h.buckets, ht.rel_iff_lookup hu]
  refine forall_congr' fun k => ?_
  rw [← List.forall₂_eq_eq_eq, List.forall₂_map_left_iff, List.forall₂_map_right_iff]

end Table

end PathRouter

import PathRouter.Proofs.Table.LetterCase
import PathRouter.Proofs.Template.Writing

/-!
# Alike routes

Segments are alike up to a function on names if they are of one kind and of one type and have names
of which the function makes the same (`Segment.Alike`), that is, if they become the same segment with
the function applied to the name (`mapName_eq_iff`). Segments that are alike up to the case of ASCII
letters take the same, since they take what the lowered segment takes (`takes_mapName`). So the routes
that they make take the same paths and bind the same values (`Route.values?_of_alike`), and have the
same key (`Route.key_of_alike`).
-/

namespace PathRouter

open Text (asciiLowercase)

/-! ### Segments -/

namespace Segment

/-- Whether two segments are of one kind and of one type and have names of which a function makes the
same. -/
structure Alike (f : String → String) (s t : Segment) : Prop where
  kind : s.kind = t.kind
  type : s.type = t.type
  name : f s.name = f t.name

/-- The segment with a function applied to its name. -/
def mapName (f : String → String) (s : Segment) : Segment := { s with name := f s.name }

variable {f : String → String} {s t : Segment}

theorem mapName_eq_iff : s.mapName f = t.mapName f ↔ Alike f s t := by
  obtain ⟨kind, name, type⟩ := s
  obtain ⟨kind', name', type'⟩ := t
  rw [mapName, mapName, Segment.mk.injEq]
  constructor
  · rintro ⟨hk, hn, ht⟩
    exact ⟨hk, ht, hn⟩
  · rintro ⟨hk, ht, hn⟩
    exact ⟨hk, hn, ht⟩

theorem map_mapName_eq_iff {ss ts : List Segment} :
    ss.map (mapName f) = ts.map (mapName f) ↔ List.Forall₂ (Alike f) ss ts := by
  rw [← List.forall₂_eq_eq_eq, List.forall₂_map_left_iff, List.forall₂_map_right_iff]
  simp only [mapName_eq_iff]

/-- The text of a segment is lowered by lowering its name: types are written in lower case. -/
theorem asciiLowercase_text (s : Segment) :
    asciiLowercase s.text = (s.mapName asciiLowercase).text := by
  obtain ⟨kind, name, type⟩ := s
  cases kind with
  | literal => rfl
  | param => cases type <;> simp only [text, mapName, Text.asciiLowercase_append] <;> rfl

/-- A lowered name is a name, and a lowered literal a literal. -/
theorem writable_mapName (h : s.Writable) : (s.mapName asciiLowercase).Writable := by
  cases h with
  | @literal text h hd =>
    refine .literal ((Path.isSegment_asciiLowercase text).mpr h) ?_
    rw [Text.toList_asciiLowercase, List.head?_map]
    intro hmark
    obtain ⟨c, hc, hlow⟩ := Option.map_eq_some_iff.mp hmark
    rw [Text.asciiLower_eq_iff (by decide)] at hlow
    exact hd (hlow ▸ hc)
  | @param name type h hc =>
    have hcolon : ∀ c, Text.asciiLower c = ':' ↔ c = ':' := Text.asciiLower_eq_iff (by decide)
    refine .param ((Path.isSegment_asciiLowercase name).mpr h) ?_
    show ':' ∉ (asciiLowercase name).toList
    rw [Text.toList_asciiLowercase]
    simpa only [List.mem_map, hcolon, exists_eq_right] using hc

/-- Names that are equal up to the case of ASCII letters have the same lower case. -/
theorem Alike.lowercase (h : Alike asciiLowercase s t) : Alike Text.lowercase s t :=
  ⟨h.kind, h.type, by
    rw [← Text.lowercase_asciiLowercase s.name, h.name, Text.lowercase_asciiLowercase]⟩

/-! ### What alike segments take -/

/-- A segment with its name lowered takes what it took before. -/
theorem takes_mapName (s : Segment) (x : String) :
    (s.mapName asciiLowercase).Takes x ↔ s.Takes x := by
  obtain ⟨kind, name, type⟩ := s
  cases kind with
  | literal =>
    simp only [Takes, mapName, Text.toList_asciiLowercase, List.forall₂_map_left_iff,
      Text.fold_asciiLower]
  | param => exact Iff.rfl

variable {ss ts : List Segment} {xs : List String}

/-- **Alike segments take the same** segments of paths. -/
theorem forall₂_takes_iff_of_alike (h : List.Forall₂ (Alike asciiLowercase) ss ts) :
    List.Forall₂ Takes ss xs ↔ List.Forall₂ Takes ts xs := by
  have hlowered : ∀ us : List Segment,
      List.Forall₂ Takes (us.map (mapName asciiLowercase)) xs ↔ List.Forall₂ Takes us xs := by
    intro us
    simp only [List.forall₂_map_left_iff, takes_mapName]
  rw [← hlowered ss, map_mapName_eq_iff.mpr h, hlowered ts]

/-- Where the same segments bind parameters, the same values are bound. -/
theorem map_snd_bound_of_alike (h : List.Forall₂ (Alike f) ss ts) (xs : List String) :
    (bound ss xs).map Prod.snd = (bound ts xs).map Prod.snd := by
  induction h generalizing xs with
  | nil => rfl
  | @cons s t ss ts hst _ ih =>
    cases xs with
    | nil => rfl
    | cons x xs =>
      have hparam : s.isParam = t.isParam := congrArg (· == SegmentKind.param) hst.kind
      have ih := ih xs
      unfold bound at ih ⊢
      rw [List.zip_cons_cons, List.zip_cons_cons, List.filter_cons, List.filter_cons, hparam]
      split_ifs
      · exact congrArg (x :: ·) ih
      · exact ih

end Segment

/-! ### Routes -/

namespace Route

open Segment (Alike)

/-- The values that a path binds, in the order of the parameters, if the route takes it. -/
def values? (r : Route) (path : String) : Option (List String) :=
  (r.verify? path).map (List.map Prod.snd)

theorem isSome_values? (r : Route) (path : String) :
    (r.values? path).isSome = (r.verify? path).isSome :=
  Option.isSome_map

variable {ss ts : List Segment}

/-- What a route with the segments of a template binds to a path. -/
theorem values?_ofSegments_iff (h : Template.Proper ss) (callback : Callback) (path : String)
    (values : List String) : (ofSegments ss callback).values? path = some values ↔
      ∃ xs, List.Forall₂ Segment.Takes ss xs ∧
        (path = Path.ofSegments xs ∨ path = Path.ofSegments xs ++ "/") ∧
        values = (Segment.bound ss xs).map Prod.snd := by
  rw [values?, Option.map_eq_some_iff]
  simp only [verify?_ofSegments h]
  constructor
  · rintro ⟨_, ⟨xs, hxs, hcut, rfl⟩, rfl⟩
    exact ⟨xs, hxs, hcut, rfl⟩
  · rintro ⟨xs, hxs, hcut, rfl⟩
    exact ⟨_, ⟨xs, hxs, hcut, rfl⟩, rfl⟩

/-- **Alike routes** take the same paths and bind the same values, whatever their callbacks are. -/
theorem values?_of_alike (hs : Template.Proper ss) (ht : Template.Proper ts)
    (h : List.Forall₂ (Alike asciiLowercase) ss ts) (a b : Callback) (path : String) :
    (ofSegments ss a).values? path = (ofSegments ts b).values? path := by
  refine Option.ext fun values => ?_
  rw [values?_ofSegments_iff hs, values?_ofSegments_iff ht]
  simp only [Segment.forall₂_takes_iff_of_alike h, Segment.map_snd_bound_of_alike h]

/-- Alike routes have the same key. -/
theorem key_of_alike (h : List.Forall₂ (Alike asciiLowercase) ss ts) (a b : Callback) :
    Table.key (ofSegments ss a).base = Table.key (ofSegments ts b).base := by
  cases h with
  | nil => rfl
  | cons hst _ => exact hst.lowercase.name

end Route

end PathRouter

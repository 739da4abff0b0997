import PathRouter.Proofs.Pattern.Groups
import PathRouter.Proofs.Template.Matching
import PathRouter.Route.Match

/-!
# Which paths a route takes

A route from a template takes a path if and only if the segments of the template take the segments
of the path one by one, with perhaps one more slash at the end, and binds each parameter to the
segment that it takes (`verify?_compile`). A path can be cut into segments in one way only
(`segmentsOf_slashed`), so that the scan that is found is the one that is asked for.
-/

namespace PathRouter

namespace Template

open Pattern Text

variable {s t : Scan} {ss : List Segment} {xs : List String}

theorem isSegment_of_takes (h : List.Forall₂ Segment.Takes ss xs) : ∀ x ∈ xs, Path.IsSegment x := by
  induction h with
  | nil => simp
  | @cons g x ss xs hg _ ih =>
    intro y hy
    rcases List.mem_cons.mp hy with rfl | hy
    · exact hg.1
    · exact ih y hy

theorem segments_slashed (hxs : ∀ x ∈ xs, Path.IsSegment x) {tail : List Char}
    (htail : tail = [] ∨ tail = ['/']) :
    Text.segments (slashed xs ++ tail) = xs.map String.toList := by
  induction xs with
  | nil => rcases htail with rfl | rfl <;> decide
  | cons x xs ih =>
    have ih := ih fun y hy => hxs y (List.mem_cons_of_mem _ hy)
    obtain ⟨hne, hs⟩ := hxs x List.mem_cons_self
    have hrest : slashed xs ++ tail = [] ∨ ∃ r, slashed xs ++ tail = '/' :: r := by
      cases xs with
      | nil => rcases htail with rfl | rfl <;> simp [slashed]
      | cons y ys => exact Or.inr ⟨_, rfl⟩
    have hcons : slashed (x :: xs) ++ tail = '/' :: (x.toList ++ (slashed xs ++ tail)) := by
      simp [slashed]
    rw [hcons, Text.segments_slash, List.map_cons, ← ih]
    rcases hrest with hr | ⟨r, hr⟩
    · rw [hr, List.append_nil, Text.segments, Text.pieces_of_not_mem hs]
      simp [Text.segments, Text.pieces, hne]
    · rw [hr, Text.segments, Text.pieces_append_sep hs, Text.segments_slash]
      simp [Text.segments, hne]

/-- Segments behind slashes are cut apart again, also with a slash behind the last one. -/
theorem segmentsOf_slashed {path : String} (hxs : ∀ x ∈ xs, Path.IsSegment x)
    (h : path.toList = slashed xs ∨ path.toList = slashed xs ++ ['/']) :
    Text.segmentsOf path = xs := by
  have hsegs : Text.segments path.toList = xs.map String.toList := by
    rcases h with h | h
    · rw [h, ← segments_slashed hxs (Or.inl rfl), List.append_nil]
    · rw [h, segments_slashed hxs (Or.inr rfl)]
  rw [Text.segmentsOf, hsegs, List.map_map]
  exact List.map_id'' (fun x => by simp) xs

/-- The end of a template's pattern takes a slash or nothing, at the end of the text. -/
theorem mem_run_ended (h : t ∈ (seqAll [repeated 0 (some 1) true (charPattern '/'),
    look .textEnd]).run s) : (s.rest = [] ∨ s.rest = ['/']) ∧ t.taken = s.taken := by
  obtain ⟨u, hu, ht⟩ := mem_run_seq h
  obtain ⟨hr, rfl⟩ : u.rest = [] ∧ t = u := by
    rw [seqAll, mem_run_look] at ht
    simpa [LookAround.holds] using ht
  rcases mem_run_optional.mp hu with hu | rfl
  · obtain ⟨cs, hcs, rfl⟩ := mem_run_slash.mp hu
    rw [Scan.advance_rest, hcs] at hr
    have hcs' : cs = [] := hr
    subst hcs'
    exact ⟨Or.inr hcs, rfl⟩
  · exact ⟨Or.inl hr, rfl⟩

theorem run_ended_ne_nil (h : s.rest = [] ∨ s.rest = ['/']) :
    (seqAll [repeated 0 (some 1) true (charPattern '/'), look .textEnd]).run s ≠ [] := by
  have hend : ∀ u : Scan, u.rest = [] → (look .textEnd).run u ≠ [] := by
    intro u hu
    exact List.ne_nil_of_mem (mem_run_look.mpr ⟨by simp [LookAround.holds, hu], rfl⟩)
  rcases h with h | h
  · exact run_seqAll_cons_ne_nil (mem_run_optional.mpr (Or.inr rfl)) (hend s h)
  · have hu : s.advance ['/'] ∈ (charPattern '/').run s := mem_run_slash.mpr ⟨[], h, rfl⟩
    refine run_seqAll_cons_ne_nil (mem_run_optional.mpr (Or.inl hu)) (hend _ ?_)
    simp [h]

/-- The text begins where the pattern of a template is run. -/
def start (cs : List Char) : Scan := ⟨0, none, cs, []⟩

/-- The scans of the pattern of a template come from cutting the text into segments that the
template takes. -/
theorem mem_run_pattern {cs : List Char} (hl : ∀ g ∈ ss, g.kind = .literal → Path.IsSegment g.name)
    (h : t ∈ (pattern ss).run (start cs)) : ∃ xs, List.Forall₂ Segment.Takes ss xs ∧
      (cs = slashed xs ∨ cs = slashed xs ++ ['/']) ∧
      t.taken = (along 0 ss xs (start cs)).taken := by
  rw [pattern, List.cons_append] at h
  obtain ⟨u, hu, h⟩ := mem_run_seqAll_cons h
  obtain ⟨-, rfl⟩ := mem_run_look.mp hu
  obtain ⟨xs, hxs, ⟨ds, hds⟩, h⟩ := mem_run_segmentPatterns hl h
  have hcs : cs = slashed xs ++ ds := hds.symm
  obtain ⟨hr, ht⟩ := mem_run_ended h
  have hrest : (along 0 ss xs (start cs)).rest = ds := by
    rw [rest_along hxs]
    show cs.drop _ = ds
    rw [hcs, List.drop_left]
  rw [hrest] at hr
  refine ⟨xs, hxs, ?_, ht⟩
  rcases hr with rfl | rfl
  · exact Or.inl (by rw [hcs, List.append_nil])
  · exact Or.inr hcs

theorem run_pattern_ne_nil {cs : List Char} (hxs : List.Forall₂ Segment.Takes ss xs)
    (h : cs = slashed xs ∨ cs = slashed xs ++ ['/']) : (pattern ss).run (start cs) ≠ [] := by
  rw [pattern, List.cons_append]
  have hlook : start cs ∈ (look .textStart).run (start cs) := mem_run_look.mpr ⟨rfl, rfl⟩
  have hrest : (along 0 ss xs (start cs)).rest = cs.drop (slashed xs).length := rest_along hxs
  refine run_seqAll_cons_ne_nil hlook (run_segmentPatterns_ne_nil hxs ?_ (run_ended_ne_nil ?_))
  · rcases h with rfl | rfl
    · exact List.prefix_refl _
    · exact List.prefix_append _ _
  · rw [hrest]
    rcases h with rfl | rfl <;> simp

/-! ### The groups -/

/-- The groups in the patterns of segments: one for each parameter, numbered in order. -/
theorem groups_segmentPatterns (ss : List Segment) (i : Nat) :
    (segmentPatterns i ss).flatMap groups = List.range' (i + 1) (paramNames ss).length := by
  induction ss generalizing i with
  | nil => rfl
  | cons g ss ih =>
    have hg : g.isParam = (g.kind == .param) := rfl
    have hchars : (g.name.toList.map charPattern).flatMap groups = [] := by
      simp [List.flatMap_map, charPattern, groups]
    rw [segmentPatterns]
    cases hk : g.kind with
    | literal =>
      rw [hk] at hg
      simp only [List.cons_append, List.flatMap_cons, List.flatMap_append, hchars, ih]
      simp [charPattern, groups, paramNames, hg]
    | param =>
      rw [hk] at hg
      simp only [List.flatMap_cons, ih]
      simp [charPattern, typePattern, groups, paramNames, hg, List.range'_succ]

/-- **The groups of the pattern of a template** are its parameters. -/
theorem groups_pattern (ss : List Segment) :
    (pattern ss).groups = List.range' 1 (paramNames ss).length := by
  rw [pattern, groups_seqAll, List.cons_append, List.flatMap_cons, List.flatMap_append,
    groups_segmentPatterns]
  simp [groups, charPattern]

theorem foldl_max_range' (n : Nat) : (List.range' 1 n).foldl max 0 = n := by
  induction n with
  | zero => rfl
  | succ n ih =>
    rw [List.range'_concat, List.foldl_append, ih]
    simp
    omega

/-- Every scan of the pattern of a template holds in its groups what the parameters take. -/
theorem values_of_mem_run_pattern {cs : List Char}
    (hl : ∀ g ∈ ss, g.kind = .literal → Path.IsSegment g.name)
    (h : t ∈ (pattern ss).run (start cs)) : ∃ xs, List.Forall₂ Segment.Takes ss xs ∧
      (cs = slashed xs ∨ cs = slashed xs ++ ['/']) ∧
      (List.range ((pattern ss).groups.foldl max 0)).map (fun i => t.value? (i + 1)) =
        (values ss xs).map some := by
  obtain ⟨xs, hxs, hcut, htaken⟩ := mem_run_pattern hl h
  have hpre : slashed xs <+: (start cs).rest := by
    show slashed xs <+: cs
    rcases hcut with h | h
    · exact ⟨[], by rw [h, List.append_nil]⟩
    · exact ⟨['/'], h.symm⟩
  have hlen : (values ss xs).length = (paramNames ss).length := length_values hxs.length_eq
  refine ⟨xs, hxs, hcut, ?_⟩
  rw [groups_pattern, foldl_max_range', ← hlen]
  refine List.ext_getElem (by simp) ?_
  intro k hk _
  rw [List.length_map, List.length_range] at hk
  have hval : t.value? (k + 1) = (along 0 ss xs (start cs)).value? (0 + 1 + k) := by
    rw [Scan.value?, htaken, Nat.zero_add, Nat.add_comm]
    rfl
  rw [List.getElem_map, List.getElem_map, List.getElem_range, hval, (value?_along hxs hpre).2 k hk]
  exact List.getElem?_eq_getElem hk

/-- **What the groups take** in a path: the segments that the parameters take. -/
theorem captures?_pattern {path : String} {vs : List (Option String)}
    (hl : ∀ g ∈ ss, g.kind = .literal → Path.IsSegment g.name) :
    (pattern ss).captures? path = some vs ↔ ∃ xs, List.Forall₂ Segment.Takes ss xs ∧
      (path.toList = slashed xs ∨ path.toList = slashed xs ++ ['/']) ∧
      vs = (values ss xs).map some := by
  have hsearch : (pattern ss).search none path.toList =
      ((pattern ss).run (start path.toList)).head? := search_seqAll_textStart path.toList
  rw [captures?, hsearch, Option.map_eq_some_iff]
  constructor
  · rintro ⟨t, ht, rfl⟩
    exact values_of_mem_run_pattern hl (List.mem_of_mem_head? ht)
  · rintro ⟨xs, hxs, hcut, rfl⟩
    obtain ⟨t, ts, hts⟩ := List.exists_cons_of_ne_nil (run_pattern_ne_nil hxs hcut)
    have ht : t ∈ (pattern ss).run (start path.toList) := by rw [hts]; exact List.mem_cons_self
    obtain ⟨ys, hys, hcut', hval⟩ := values_of_mem_run_pattern hl ht
    -- a path is cut into segments in one way only
    have hx := segmentsOf_slashed (isSegment_of_takes hxs) hcut
    have hy := segmentsOf_slashed (isSegment_of_takes hys) hcut'
    obtain rfl : ys = xs := hy.symm.trans hx
    exact ⟨t, by rw [hts]; rfl, hval⟩

end Template

namespace Route

open Template Text

/-- **What is bound**: the names in their order, each to what its group takes; the groups have to
take part, as many as there are names. -/
theorem bind?_eq_some_iff : ∀ {ns : List String} {vs : List (Option String)}
    {ps : List (String × String)}, bind? ns vs = some ps ↔
      ps.map Prod.fst = ns ∧ ps.map (fun p => some p.2) = vs.take ns.length
  | [], vs, ps => by cases ps <;> simp [bind?]
  | n :: ns, [], ps => by
    cases ps <;> simp [bind?]
  | n :: ns, none :: vs, ps => by
    cases ps <;> simp [bind?]
  | n :: ns, some v :: vs, ps => by
    rw [bind?, Option.map_eq_some_iff]
    constructor
    · rintro ⟨qs, hqs, rfl⟩
      obtain ⟨hnames, hvalues⟩ := bind?_eq_some_iff.mp hqs
      simp [hnames, hvalues]
    · intro h
      cases ps with
      | nil => simp at h
      | cons p qs =>
        obtain ⟨k, w⟩ := p
        simp only [List.map_cons, List.cons.injEq, List.length_cons, List.take_succ_cons,
          Option.some.injEq] at h
        obtain ⟨⟨rfl, hnames⟩, rfl, hvalues⟩ := h
        exact ⟨qs, bind?_eq_some_iff.mpr ⟨hnames, hvalues⟩, rfl⟩

theorem bind?_some {ns vs : List String} (h : vs.length = ns.length) :
    bind? ns (vs.map some) = some (ns.zip vs) := by
  refine bind?_eq_some_iff.mpr ⟨List.map_fst_zip h.ge, ?_⟩
  have hvalues : (ns.zip vs).map Prod.snd = vs := List.map_snd_zip h.le
  have htake : (vs.map some).take ns.length = vs.map some := by
    rw [← h, ← List.length_map (f := some), List.take_length]
  rw [htake, ← hvalues, List.map_map, hvalues]
  rfl

theorem toList_ofSegments_iff {path : String} {xs : List String} (h : xs ≠ []) :
    (path = Path.ofSegments xs ∨ path = Path.ofSegments xs ++ "/") ↔
      (path.toList = slashed xs ∨ path.toList = slashed xs ++ ['/']) := by
  rw [← String.toList_inj, ← String.toList_inj, String.toList_append, Path.toList_ofSegments h]
  rfl

/-- What a route with the segments of a template takes. -/
theorem verify?_ofSegments {ss : List Segment} (h : Template.Proper ss) (callback : Callback)
    (path : String) (params : List (String × String)) :
    (ofSegments ss callback).verify? path = some params ↔
      ∃ xs, List.Forall₂ Segment.Takes ss xs ∧
        (path = Path.ofSegments xs ∨ path = Path.ofSegments xs ++ "/") ∧
        params = Segment.bound ss xs := by
  obtain ⟨g, gs, rfl, -⟩ := h.first
  have hne : ∀ {xs}, List.Forall₂ Segment.Takes (g :: gs) xs → xs ≠ [] := by
    rintro xs hxs rfl
    cases hxs
  show (((pattern (g :: gs)).captures? path).bind (bind? (Template.paramNames (g :: gs)))) =
    some params ↔ _
  rw [Option.bind_eq_some_iff]
  constructor
  · rintro ⟨vs, hvs, hb⟩
    obtain ⟨xs, hxs, hcut, rfl⟩ := (captures?_pattern h.literals).mp hvs
    rw [bind?_some (length_values hxs.length_eq), Option.some.injEq, ← bound_eq_zip] at hb
    exact ⟨xs, hxs, (toList_ofSegments_iff (hne hxs)).mpr hcut, hb.symm⟩
  · rintro ⟨xs, hxs, hcut, rfl⟩
    have hcut := (toList_ofSegments_iff (hne hxs)).mp hcut
    refine ⟨_, (captures?_pattern h.literals).mpr ⟨xs, hxs, hcut, rfl⟩, ?_⟩
    rw [bind?_some (length_values hxs.length_eq), bound_eq_zip]

/-- **A route takes what its segments take**: the path is cut into segments, with perhaps one more
slash at the end, the segments of the template take them one by one, and the parameters are bound to
those that they take. -/
theorem verify?_compile {limit : Nat} {template : String} {callback : Callback} {r : Route}
    (h : compile limit template callback = .ok r) (path : String)
    (params : List (String × String)) :
    r.verify? path = some params ↔ ∃ xs, List.Forall₂ Segment.Takes r.segments xs ∧
      (path = Path.ofSegments xs ∨ path = Path.ofSegments xs ++ "/") ∧
      params = Segment.bound r.segments xs := by
  obtain ⟨ss, hs, rfl⟩ := compile_eq_ok h
  exact verify?_ofSegments (proper_of_read hs) callback path params

theorem verify?_compile_shop :
    compile 15 "Shop/$id:int" (.direct "show") =
      .ok (ofSegments [.ofLiteral "Shop", .ofParam "id" .int] (.direct "show")) ∧
    (ofSegments [.ofLiteral "Shop", .ofParam "id" .int] (.direct "show")).verify? "/sHoP/42/" =
      some [("id", "42")] := by
  have hc : compile 15 "Shop/$id:int" (.direct "show") =
      .ok (ofSegments [.ofLiteral "Shop", .ofParam "id" .int] (.direct "show")) := rfl
  refine ⟨hc, (verify?_compile hc _ _).mpr ⟨["sHoP", "42"], ?_, Or.inr (by decide), by decide⟩⟩
  have hshop : Segment.Takes (.ofLiteral "Shop") "sHoP" := by
    refine ⟨by decide, ?_⟩
    show List.Forall₂ _ ['S', 'h', 'o', 'p'] ['s', 'H', 'o', 'P']
    exact .cons (by decide) (.cons (by decide) (.cons (by decide) (.cons (by decide) .nil)))
  have hid : Segment.Takes (.ofParam "id" .int) "42" := by
    refine ⟨by decide, ?_⟩
    have hall : ['4', '2'].all Char.isDigit := by decide
    exact List.all_eq_true.mp hall
  exact .cons hshop (.cons hid .nil)

/-- **A normal path** is taken if its segments are, and the parameters are bound to them. -/
theorem verify?_normal {limit : Nat} {template : String} {callback : Callback} {r : Route}
    (h : compile limit template callback = .ok r) {ys : List String}
    (hys : ∀ y ∈ ys, Path.IsSegment y) (params : List (String × String)) :
    r.verify? (Path.ofSegments ys) = some params ↔
      List.Forall₂ Segment.Takes r.segments ys ∧ params = Segment.bound r.segments ys := by
  rw [verify?_compile h]
  constructor
  · rintro ⟨xs, hxs, hcut, rfl⟩
    have hne : xs ≠ [] := by
      rintro rfl
      obtain ⟨ss, hs, rfl⟩ := compile_eq_ok h
      obtain ⟨g, gs, rfl, -⟩ := (proper_of_read hs).first
      cases hxs
    have hcut := (toList_ofSegments_iff hne).mp hcut
    have hx := segmentsOf_slashed (isSegment_of_takes hxs) hcut
    obtain rfl : ys = xs := (Path.segmentsOf_ofSegments hys).symm.trans hx
    exact ⟨hxs, rfl⟩
  · rintro ⟨hxs, rfl⟩
    exact ⟨ys, hxs, Or.inl rfl, rfl⟩

/-- The base of a route and the first segment of a path that it takes are equal up to case. -/
theorem base_of_verify? {limit : Nat} {template : String} {callback : Callback} {r : Route}
    (h : compile limit template callback = .ok r) {path : String} (hv : (r.verify? path).isSome) :
    List.Forall₂ (fun a c => fold a = fold c) r.base.toList
      ((Text.segmentsOf path).headD "").toList := by
  obtain ⟨ss, hs, rfl⟩ := compile_eq_ok h
  have hproper := proper_of_read hs
  obtain ⟨params, hparams⟩ := Option.isSome_iff_exists.mp hv
  obtain ⟨xs, hxs, hcut, -⟩ := (verify?_ofSegments hproper callback path params).mp hparams
  obtain ⟨g, gs, rfl, hk⟩ := hproper.first
  cases hxs with
  | @cons _ x _ xs hg hgs =>
    have hcut := (toList_ofSegments_iff (List.cons_ne_nil x xs)).mp hcut
    rw [segmentsOf_slashed (isSegment_of_takes (.cons hg hgs)) hcut, List.headD_cons]
    have hchars := hg.2
    rw [hk] at hchars
    exact hchars

end Route

end PathRouter

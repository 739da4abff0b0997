import PathRouter.Proofs.Table.Shape

/-!
# Filled templates give their values back

A template is filled by putting a value in the place of each parameter (`Template.filled`). If each
parameter takes its value, the route takes the path of the filled segments and binds the values
(`Route.verify?_filled`). But `?` and `#` begin a query and a fragment, which a raw path loses before
it is looked up, and some types of values allow them, as do literals. So the values come back if and
only if nothing in the filled template is marked (`Table.resolve_filled_iff`); a value that is marked
comes back shortened, or not at all (`Table.resolve_filled_query`).
-/

namespace PathRouter

open Text

/-- What stands in the place of a segment: the value of a parameter, or the text of a literal. -/
def Segment.filled (value : String → String) (s : Segment) : String :=
  if s.isParam then value s.name else s.name

/-- What is related to an element is there. -/
theorem exists_of_forall₂ {α β : Type} {R : α → β → Prop} {as : List α} {bs : List β}
    (h : List.Forall₂ R as bs) : ∀ a ∈ as, ∃ b ∈ bs, R a b := by
  induction h with
  | nil => simp
  | @cons a b as bs hab _ ih =>
    intro c hc
    rcases List.mem_cons.mp hc with rfl | hc
    · exact ⟨b, List.mem_cons_self, hab⟩
    · obtain ⟨d, hd, hcd⟩ := ih c hc
      exact ⟨d, List.mem_cons_of_mem _ hd, hcd⟩

namespace Template

/-- The segments of a path that a template is filled to. -/
def filled (value : String → String) (ss : List Segment) : List String :=
  ss.map (Segment.filled value)

/-- The parameters with their values, in order. -/
def assigned (value : String → String) (ss : List Segment) : List (String × String) :=
  (paramNames ss).map fun n => (n, value n)

variable {value : String → String} {ss : List Segment} {ys : List String}

theorem bound_cons (s : Segment) (x : String) (ss : List Segment) (xs : List String) :
    Segment.bound (s :: ss) (x :: xs) =
      if s.isParam then (s.name, x) :: Segment.bound ss xs else Segment.bound ss xs := by
  cases hs : s.isParam <;> simp [Segment.bound, hs]

theorem assigned_cons (value : String → String) (s : Segment) (ss : List Segment) :
    assigned value (s :: ss) =
      if s.isParam then (s.name, value s.name) :: assigned value ss else assigned value ss := by
  cases hs : s.isParam <;> simp [assigned, paramNames, hs]

/-- A filled template binds its parameters to their values. -/
theorem bound_filled (value : String → String) (ss : List Segment) :
    Segment.bound ss (filled value ss) = assigned value ss := by
  induction ss with
  | nil => rfl
  | cons s ss ih =>
    rw [filled, List.map_cons, bound_cons, assigned_cons, ← filled, ih, Segment.filled]
    split_ifs <;> rfl

/-- What is bound to the values has the values in their places. -/
theorem forall₂_of_bound_eq (h : List.Forall₂ Segment.Takes ss ys)
    (hb : Segment.bound ss ys = assigned value ss) :
    List.Forall₂ (fun s y => s.isParam → y = value s.name) ss ys := by
  induction h with
  | nil => exact .nil
  | @cons s y ss ys _ _ ih =>
    rw [bound_cons, assigned_cons] at hb
    by_cases hp : s.isParam
    · rw [if_pos hp, if_pos hp] at hb
      obtain ⟨hhead, htail⟩ := List.cons.inj hb
      exact .cons (fun _ => (Prod.mk.inj hhead).2) (ih htail)
    · rw [if_neg hp, if_neg hp] at hb
      exact .cons (fun h => absurd h hp) (ih hb)

end Template

open Template

namespace Segment

variable {value : String → String} {s : Segment}

theorem kind_of_not_isParam (h : ¬ s.isParam) : s.kind = .literal := by
  cases hk : s.kind with
  | literal => rfl
  | param => simp [isParam, hk] at h

/-- A literal takes its own text. -/
theorem takes_name (hk : s.kind = .literal) (hx : Path.IsSegment s.name) : s.Takes s.name := by
  refine ⟨hx, ?_⟩
  rw [hk]
  exact List.forall₂_same.mpr fun _ _ => rfl

/-- A character without other cases that stands in a filled segment also stands in what the segment
takes, if that is its value. -/
theorem mem_of_takes {c : Char} (hc : orbit c = [c]) {y : String} (hy : s.Takes y)
    (hv : s.isParam → y = value s.name) (h : c ∈ (s.filled value).toList) : c ∈ y.toList := by
  by_cases hp : s.isParam
  · rw [filled, if_pos hp, ← hv hp] at h
    exact h
  · rw [filled, if_neg hp] at h
    have hchars := hy.2
    rw [kind_of_not_isParam hp] at hchars
    obtain ⟨d, hd, hf⟩ := exists_of_forall₂ hchars c h
    exact (fold_eq_iff_of_orbit hc).mp hf.symm ▸ hd

end Segment

namespace Route

variable {limit : Nat} {template : String} {callback : Callback} {r : Route}
  {value : String → String}

theorem proper_of_compile (h : compile limit template callback = .ok r) : Proper r.segments := by
  obtain ⟨ss, hs, rfl⟩ := compile_eq_ok h
  exact proper_of_read hs

/-- The base of a compiled route is the first segment of each path that its template is filled to. -/
theorem filled_eq_base_cons (h : compile limit template callback = .ok r)
    (value : String → String) : ∃ rest, filled value r.segments = r.base :: rest := by
  obtain ⟨ss, hs, rfl⟩ := compile_eq_ok h
  obtain ⟨s, rest, rfl, hk⟩ := (proper_of_read hs).first
  refine ⟨filled value rest, ?_⟩
  show s.filled value :: _ = s.name :: _
  rw [Segment.filled, Segment.isParam, hk]
  rfl

/-- The segments of a compiled route take what they are filled with. -/
theorem takes_filled (h : compile limit template callback = .ok r)
    (hvalue : ∀ s ∈ r.segments, s.isParam → s.Takes (value s.name)) :
    List.Forall₂ Segment.Takes r.segments (filled value r.segments) := by
  rw [filled, List.forall₂_map_right_iff, List.forall₂_same]
  intro s hs
  by_cases hp : s.isParam
  · rw [Segment.filled, if_pos hp]
    exact hvalue s hs hp
  · have hk := Segment.kind_of_not_isParam hp
    rw [Segment.filled, if_neg hp]
    exact Segment.takes_name hk ((proper_of_compile h).literals s hs hk)

/-- **A compiled route** takes the path that its template is filled to, and binds the values. -/
theorem verify?_filled (h : compile limit template callback = .ok r)
    (hvalue : ∀ s ∈ r.segments, s.isParam → s.Takes (value s.name)) :
    r.verify? (Path.ofSegments (filled value r.segments)) = some (assigned value r.segments) := by
  have htakes := takes_filled h hvalue
  rw [verify?_normal h (isSegment_of_takes htakes), bound_filled]
  exact ⟨htakes, rfl⟩

/-- **Marks do not come through**: if a route binds some values in the normal form of a raw path, its
template is filled by them without a mark. -/
theorem unmarked_of_verify?_normalize (h : compile limit template callback = .ok r) {raw : String}
    {baseUrl : Option String}
    (hv : r.verify? (Path.normalize raw baseUrl) = some (assigned value r.segments)) :
    ∀ x ∈ filled value r.segments, Path.Unmarked x := by
  obtain ⟨htakes, hbound⟩ := (verify?_normal h (fun _ => Path.isSegment_of_mem_segments) _).mp hv
  have hplaces := forall₂_of_bound_eq htakes hbound.symm
  have horbit : orbit '#' = ['#'] := by decide +kernel
  intro x hx c hc
  obtain ⟨s, hs, rfl⟩ := List.mem_map.mp hx
  obtain ⟨y, hy, hsy, hyv⟩ := exists_of_forall₂ (htakes.mp (fun _ _ => And.intro) hplaces) s hs
  have hunmarked : Path.Unmarked y := Path.unmarked_of_mem_segments hy
  constructor
  · rintro rfl
    exact (hunmarked _ (Segment.mem_of_takes (orbit_mark (by decide)) hsy hyv hc)).1 rfl
  · rintro rfl
    exact (hunmarked _ (Segment.mem_of_takes horbit hsy hyv hc)).2 rfl

end Route

namespace Table

open History

variable {options : TableOptions} {calls : List Call} {template : String} {callback : Callback}
  {r : Route} {value : String → String}

/-- The only route of a table without a base URL answers the path that its template is filled to, if
nothing in it is marked. -/
theorem resolve_filled (hbase : options.baseUrl = none)
    (hc : Route.compile options.maxSegments template callback = .ok r)
    (honly : stored options calls = [r])
    (hvalue : ∀ s ∈ r.segments, s.isParam → s.Takes (value s.name))
    (hunmarked : ∀ x ∈ filled value r.segments, Path.Unmarked x) :
    (run { options } calls).resolve (Path.ofSegments (filled value r.segments)) =
      .ok ⟨r, .matched, assigned value r.segments⟩ := by
  have hsegments : ∀ x ∈ filled value r.segments, Path.IsSegment x :=
    isSegment_of_takes (Route.takes_filled hc hvalue)
  obtain ⟨rest, hrest⟩ := Route.filled_eq_base_cons hc value
  have hnormal : Path.normalize (Path.ofSegments (filled value r.segments)) options.baseUrl =
      Path.ofSegments (filled value r.segments) := by
    rw [Path.normalize, hbase, Path.segments_ofSegments hsegments hunmarked]
  have hroot : Path.ofSegments (filled value r.segments) ≠ "/" := by
    rw [ne_eq, Path.ofSegments_eq_root_iff hsegments, hrest]
    exact List.cons_ne_nil _ _
  have hfirst : firstOf (Path.ofSegments (filled value r.segments)) = r.base := by
    rw [firstOf, Path.segmentsOf_ofSegments hsegments, hrest, List.headD_cons]
  have hcandidates : candidates options calls r.base = [r] := by
    rw [candidates, honly, List.filter_cons_of_pos (by simp), List.filter_nil]
    exact options.priority.order_singleton r
  rw [resolve_run, hnormal, answer, if_neg hroot, hfirst, hcandidates, firstTaking,
    Route.verify?_filled hc hvalue]

/-- **A filled template gives its values back**, as the only route of a table without a base URL, if
and only if nothing in it holds the mark of a query or of a fragment. The values are any that the
parameters take: segments of paths whose characters the types allow. -/
theorem resolve_filled_iff (hbase : options.baseUrl = none)
    (hadd : (Call.addRoute template callback).stored? options.maxSegments = some r)
    (honly : stored options calls = [r])
    (hvalue : ∀ s ∈ r.segments, s.isParam → s.Takes (value s.name)) :
    (run { options } calls).resolve (Path.ofSegments (filled value r.segments)) =
        .ok ⟨r, .matched, assigned value r.segments⟩ ↔
      ∀ x ∈ filled value r.segments, Path.Unmarked x := by
  obtain ⟨_, _, -, hc⟩ | ⟨_, hcached, -⟩ := Call.stored?_cases hadd
  · refine ⟨?_, resolve_filled hbase hc honly hvalue⟩
    intro hm
    rcases resolve_cases hm with ⟨ho, -⟩ | ⟨_, -, -, hmatch⟩ | ⟨ho, -⟩
    · cases ho
    · obtain ⟨params, hv, hparams⟩ := Option.map_eq_some_iff.mp hmatch
      obtain rfl : params = assigned value r.segments := congrArg RouteMatch.params hparams
      exact Route.unmarked_of_verify?_normalize hc hv
    · cases ho
  · cases hcached

/-- Values of two types that come back. -/
theorem resolve_filled_iff_shop :
    stored {} [.setHome (.direct "home"), .setError (.direct "error"),
        .addRoute "shop/$id:int/$word:str" (.direct "show")] =
      [Route.ofSegments [.ofLiteral "shop", .ofParam "id" .int, .ofParam "word" .str]
        (.direct "show")] ∧
    (run {} [.setHome (.direct "home"), .setError (.direct "error"),
        .addRoute "shop/$id:int/$word:str" (.direct "show")]).resolve "/shop/42/ok!" =
      .ok ⟨Route.ofSegments [.ofLiteral "shop", .ofParam "id" .int, .ofParam "word" .str]
        (.direct "show"), .matched, [("id", "42"), ("word", "ok!")]⟩ := by
  have hadd : (Call.addRoute "shop/$id:int/$word:str" (.direct "show")).stored? 15 =
      some (Route.ofSegments [.ofLiteral "shop", .ofParam "id" .int, .ofParam "word" .str]
        (.direct "show")) := rfl
  have honly : stored {} [.setHome (.direct "home"), .setError (.direct "error"),
        .addRoute "shop/$id:int/$word:str" (.direct "show")] =
      [Route.ofSegments [.ofLiteral "shop", .ofParam "id" .int, .ofParam "word" .str]
        (.direct "show")] := rfl
  have hid : (Segment.ofParam "id" .int).Takes "42" := by
    refine ⟨by decide, ?_⟩
    have hall : ['4', '2'].all Char.isDigit := by decide
    exact List.all_eq_true.mp hall
  have hword : (Segment.ofParam "word" .str).Takes "ok!" := by
    refine ⟨by decide, ?_⟩
    show ∀ c ∈ ['o', 'k', '!'], ValueType.str.Allows c
    simp only [List.forall_mem_cons, List.not_mem_nil, false_implies, implies_true, and_true]
    exact ⟨Or.inl ⟨'o', by decide, rfl⟩, Or.inl ⟨'k', by decide, rfl⟩, Or.inr (by decide)⟩
  let value : String → String := fun n => if n = "id" then "42" else "ok!"
  have hvalue : ∀ s ∈ [Segment.ofLiteral "shop", .ofParam "id" .int, .ofParam "word" .str],
      s.isParam → s.Takes (value s.name) := by
    simp only [List.forall_mem_cons, List.not_mem_nil, false_implies, implies_true, and_true]
    exact ⟨fun h => absurd h (by decide), fun _ => hid, fun _ => hword⟩
  have hunmarked : ∀ x ∈ ["shop", "42", "ok!"], Path.Unmarked x := by decide
  have hpath : Path.ofSegments (filled value
      (Route.ofSegments [.ofLiteral "shop", .ofParam "id" .int, .ofParam "word" .str]
        (.direct "show")).segments) = "/shop/42/ok!" := by decide
  have hback := (resolve_filled_iff rfl hadd honly hvalue).mpr hunmarked
  rw [hpath] at hback
  exact ⟨honly, hback⟩

/-- **A value can be cut off**: a question mark may stand in a word, but it begins the query. -/
theorem resolve_filled_query :
    stored {} [.setHome (.direct "home"), .setError (.direct "error"),
        .addRoute "tag/$word:str" (.direct "show")] =
      [Route.ofSegments [.ofLiteral "tag", .ofParam "word" .str] (.direct "show")] ∧
    (Segment.ofParam "word" .str).Takes "a?b" ∧
    Path.ofSegments (filled (fun _ => "a?b") [.ofLiteral "tag", .ofParam "word" .str]) =
      "/tag/a?b" ∧
    ¬ ∃ m, (run {} [.setHome (.direct "home"), .setError (.direct "error"),
        .addRoute "tag/$word:str" (.direct "show")]).resolve "/tag/a?b" = .ok m ∧
      m.outcome = .matched ∧ m.params = [("word", "a?b")] := by
  have hword : (Segment.ofParam "word" .str).Takes "a?b" := by
    refine ⟨by decide, ?_⟩
    show ∀ c ∈ ['a', '?', 'b'], ValueType.str.Allows c
    simp only [List.forall_mem_cons, List.not_mem_nil, false_implies, implies_true, and_true]
    exact ⟨Or.inl ⟨'a', by decide, rfl⟩, Or.inr (by decide), Or.inl ⟨'b', by decide, rfl⟩⟩
  have hanswer : ((run {} [.setHome (.direct "home"), .setError (.direct "error"),
      .addRoute "tag/$word:str" (.direct "show")]).resolve "/tag/a?b").toOption.map
        RouteMatch.params = some [("word", "a")] := by decide +kernel
  refine ⟨rfl, hword, by decide, ?_⟩
  rintro ⟨m, hm, -, hp⟩
  rw [hm] at hanswer
  simp [Except.toOption, hp] at hanswer

end Table

end PathRouter

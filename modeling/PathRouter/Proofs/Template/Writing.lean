import PathRouter.Proofs.Template.Grammar

/-!
# Templates are read as they are written

A segment that is `Writable` is written as a part that is read as this segment (`reads_text`), and a
text of such parts is cut into them again (`parts_text`), so that the text tells lists of writable
segments apart (`text_inj`). What templates are read as is exactly the `Valid` lists, and each of
these is read from its text (`read_template`).
-/

namespace PathRouter

/-- Whether a segment can be written as a part of a template: it is a literal that is not read as a
parameter, or a parameter whose name ends before the type. -/
inductive Segment.Writable : Segment → Prop
  | literal {text : String} (h : Path.IsSegment text) (hd : text.toList.head? ≠ some '$') :
    Writable (.ofLiteral text)
  | param {name : String} {type : ValueType} (h : Path.IsSegment name) (hc : ':' ∉ name.toList) :
    Writable (.ofParam name type)

/-- The suffix that a type is written with, if it is written with one. -/
def ValueType.suffix? : ValueType → Option String
  | .untyped => none
  | type => some type.word

theorem ValueType.asked_suffix? (type : ValueType) : type.Asked type.suffix? := by
  cases type with
  | untyped => rfl
  | str => exact List.mem_of_elem_eq_true (by decide)
  | int => exact List.mem_of_elem_eq_true (by decide)
  | float => exact List.mem_of_elem_eq_true (by decide)

namespace Template

/-- What templates with at most `limit` segments are read as: at least one segment, a literal first,
each of them writable, and no two parameters with one name. -/
structure Valid (limit : Nat) (segments : List Segment) : Prop where
  length_le : segments.length ≤ limit
  first : ∃ s rest, segments = s :: rest ∧ s.kind = .literal
  writable : ∀ s ∈ segments, s.Writable
  nodup : (paramNames segments).Nodup

variable {s : Segment} {ss ts : List Segment} {p : List Char} {ps qs : List (List Char)}
  {limit : Nat}

/-! ### One segment -/

theorem toList_text_param (name : String) (type : ValueType) :
    (Segment.ofParam name type).text.toList =
      '$' :: (name.toList ++ (type.suffix?.map fun s => ':' :: s.toList).getD []) := by
  cases type <;> simp only [Segment.ofParam, Segment.text, String.toList_append,
    List.append_assoc]
  · exact congrArg ('$' :: ·) (List.append_nil name.toList).symm
  all_goals rfl

/-- **A writable segment** is read from its text. -/
theorem reads_text (h : s.Writable) : Reads s.text.toList s := by
  cases h with
  | literal _ hd => exact .literal hd
  | @param name type _ hc =>
    rw [toList_text_param]
    exact .param ⟨hc, rfl⟩ type.asked_suffix?

theorem isSegment_text (h : s.Writable) : Path.IsSegment s.text := by
  cases h with
  | literal h => exact h
  | @param name type h =>
    have hsuffix : '/' ∉ (type.suffix?.map fun s => ':' :: s.toList).getD [] := by
      cases type <;> decide
    rw [Path.IsSegment, toList_text_param]
    simp [h.2, hsuffix]

/-- A part that may stand where it stands is read as a writable segment. -/
theorem writable_of_reads (hp : p ≠ [] ∧ '/' ∉ p) (ha : Admissible qs p) (hs : Reads p s) :
    s.Writable := by
  cases hs with
  | literal hd => exact .literal hp hd
  | @param cs name suffix type hs ht =>
    obtain ⟨-, name', suffix', -, hs', -, hn, -⟩ := ha cs rfl
    obtain ⟨rfl, -⟩ := hs.unique hs'
    refine .param ⟨by simpa using hn, fun hslash => hp.2 ?_⟩ hs.1
    rw [hs.2]
    exact List.mem_cons_of_mem _ (List.mem_append_left _ hslash)

/-! ### All segments -/

theorem text_of_ne_nil (h : ss ≠ []) : text ss = "/".intercalate (ss.map Segment.text) := by
  obtain ⟨s, rest, rfl⟩ := List.exists_cons_of_ne_nil h
  rfl

/-- **The text of segments** is cut into their texts. -/
theorem parts_text (h : ∀ s ∈ ss, s.Writable) :
    parts (text ss) = ss.map fun s => s.text.toList := by
  by_cases hss : ss = []
  · subst hss
    decide
  have htext : (text ss).toList = ['/'].intercalate (ss.map fun s => s.text.toList) := by
    rw [text_of_ne_nil hss, String.toList_intercalate, List.map_map]
    rfl
  have hparts : ∀ p ∈ ss.map (fun s => s.text.toList), p ≠ [] ∧ '/' ∉ p := by
    intro p hp
    obtain ⟨s, hs, rfl⟩ := List.mem_map.mp hp
    exact isSegment_text (h s hs)
  rw [parts, htext, List.splitOn_intercalate _ (fun p hp => (hparts p hp).2) (by simpa using hss),
    List.filter_eq_self]
  intro p hp
  simpa using (hparts p hp).1

theorem forall₂_reads_text (h : ∀ s ∈ ss, s.Writable) :
    List.Forall₂ Reads (ss.map fun s => s.text.toList) ss := by
  induction ss with
  | nil => exact .nil
  | cons s ss ih =>
    exact .cons (reads_text (h s List.mem_cons_self))
      (ih fun u hu => h u (List.mem_cons_of_mem _ hu))

/-- **The text of writable segments tells them apart.** -/
theorem text_inj (hs : ∀ s ∈ ss, s.Writable) (ht : ∀ t ∈ ts, t.Writable) (h : text ss = text ts) :
    ss = ts := by
  have hparts : (ss.map fun s => s.text.toList) = ts.map fun t => t.text.toList := by
    rw [← parts_text hs, ← parts_text ht, h]
  have hunique : Relator.RightUnique Reads := fun _ _ _ => Reads.unique
  exact List.right_unique_forall₂' hunique (hparts ▸ forall₂_reads_text hs) (forall₂_reads_text ht)

/-- All segments that are read are writable. -/
theorem forall_writable_of_reads (h : List.Forall₂ Reads ps ss) (ha : Admitted qs ps)
    (hp : ∀ p ∈ ps, p ≠ [] ∧ '/' ∉ p) : ∀ s ∈ ss, s.Writable := by
  induction h generalizing qs with
  | nil => simp
  | @cons p s ps ss hs _ ih =>
    obtain ⟨ha, hps⟩ := admitted_cons.mp ha
    rw [List.forall_mem_cons]
    exact ⟨writable_of_reads (hp p List.mem_cons_self) ha hs,
      ih hps fun q hq => hp q (List.mem_cons_of_mem _ hq)⟩

/-- **What is read is valid.** -/
theorem valid_of_read {template : String} (h : read limit template = .ok ss) :
    Valid limit ss := by
  obtain ⟨⟨-, -, ha⟩, hss⟩ := read_eq_ok_iff.mp h
  have hp : ∀ p ∈ parts template, p ≠ [] ∧ '/' ∉ p := by
    rw [← segments_eq_parts]
    exact fun p => Text.mem_segments
  exact ⟨(readPieces_of_read h).2.2, (proper_of_read h).first, forall_writable_of_reads hss ha hp,
    nodup_of_read h⟩

/-- The parts of valid segments may stand where they stand: no parameter is the first, and none has
the name of an earlier one. -/
theorem admitted_of_nodup {earlier : List Segment} (hps : List.Forall₂ Reads ps ss)
    (hqs : List.Forall₂ Reads qs earlier) (hw : ∀ s ∈ ss, s.Writable)
    (hfirst : ∀ s, (earlier ++ ss).head? = some s → s.kind = .literal)
    (hnodup : (paramNames (earlier ++ ss)).Nodup) : Admitted qs ps := by
  induction hps generalizing qs earlier with
  | nil => exact admitted_nil qs
  | @cons p s ps ss hs hps ih =>
    obtain ⟨hsw, hw⟩ := List.forall_mem_cons.mp hw
    have hassoc : earlier ++ s :: ss = (earlier ++ [s]) ++ ss := by simp
    rw [admitted_cons]
    refine ⟨?_, ih (forall₂_snoc hqs hs) hw (hassoc ▸ hfirst) (hassoc ▸ hnodup)⟩
    rintro cs rfl
    obtain ⟨name, suffix, type, rfl, hsplit, ht⟩ := param_of_reads hs
    have hname : name ∉ paramNames earlier := by
      rw [paramNames_append, List.nodup_append] at hnodup
      exact fun hmem => hnodup.2.2 name hmem name (by simp [paramNames, Segment.isParam,
        Segment.ofParam]) rfl
    refine ⟨?_, name, suffix, type, hsplit, ht, ?_, ?_⟩
    · rintro rfl
      cases hqs
      exact absurd (hfirst _ rfl) (by simp [Segment.ofParam])
    · cases hsw with
      | param h => simpa using h.1
    · rintro q hq hn
      exact hname ((exists_names_iff hqs).mp ⟨q, hq, hn⟩)

/-- **Valid segments are read from their text.** -/
theorem read_text_of_valid (h : Valid limit ss) : read limit (text ss) = .ok ss := by
  have hreads := forall₂_reads_text h.writable
  obtain ⟨s, rest, rfl, hk⟩ := h.first
  have hfirst : ∀ u, ([] ++ s :: rest).head? = some u → u.kind = .literal := by
    rintro u hu
    obtain rfl : s = u := Option.some.inj hu
    exact hk
  refine read_eq_ok_iff.mpr ⟨⟨?_, ?_, ?_⟩, ?_⟩ <;> rw [parts_text h.writable]
  · simp
  · simpa using h.length_le
  · exact admitted_of_nodup hreads .nil h.writable hfirst h.nodup
  · exact hreads

/-- **Templates are read as they are written.** A template that is read is compiled to a route whose
template is read as the same segments and compiled to the same route again; what templates are read
as is exactly the valid lists of segments, and each of these is read from its text. -/
theorem read_template (limit : Nat) :
    (∀ template callback ss, read limit template = .ok ss →
      ∃ r, Route.compile limit template callback = .ok r ∧ r.segments = ss ∧
        read limit r.template = .ok ss ∧ Route.compile limit r.template callback = .ok r) ∧
    (∀ ss, (∃ template, read limit template = .ok ss) ↔ Valid limit ss) ∧
    ∀ ss, read limit (text ss) = .ok ss ↔ Valid limit ss := by
  refine ⟨?_, fun ss => ⟨?_, ?_⟩, fun ss => ⟨valid_of_read, read_text_of_valid⟩⟩
  · intro template callback ss hs
    have hread : read limit (text ss) = .ok ss := read_text_of_valid (valid_of_read hs)
    have hcompile : ∀ {t}, read limit t = .ok ss →
        Route.compile limit t callback = .ok (.ofSegments ss callback) := by
      intro t ht
      rw [Route.compile, ht]
      rfl
    exact ⟨.ofSegments ss callback, hcompile hs, rfl, hread, hcompile hread⟩
  · rintro ⟨template, h⟩
    exact valid_of_read h
  · exact fun h => ⟨text ss, read_text_of_valid h⟩

/-- Slashes, the words for types and their case are written in one way; marks and colons that are
part of a name or of a literal stay. -/
theorem read_template_marks :
    read 3 "//Shop/$$id:INTEGER//a:$/" =
      .ok [.ofLiteral "Shop", .ofParam "$id" .int, .ofLiteral "a:$"] ∧
    (∃ r, Route.compile 3 "//Shop/$$id:INTEGER//a:$/" (.direct "show") = .ok r ∧
      r.template = "Shop/$$id:int/a:$" ∧
      Route.compile 3 "Shop/$$id:int/a:$" (.direct "show") = .ok r) ∧
    Valid 3 [.ofLiteral "Shop", .ofParam "$id" .int, .ofLiteral "a:$"] := by
  have hs : read 3 "//Shop/$$id:INTEGER//a:$/" =
      .ok [.ofLiteral "Shop", .ofParam "$id" .int, .ofLiteral "a:$"] := rfl
  obtain ⟨htemplates, himage, -⟩ := read_template 3
  obtain ⟨r, hr, hsegments, -, hagain⟩ := htemplates _ (.direct "show") _ hs
  have htext : r.template = "Shop/$$id:int/a:$" := by
    rw [Route.template, hsegments]
    decide
  exact ⟨hs, ⟨r, hr, htext, htext ▸ hagain⟩, (himage _).mp ⟨_, hs⟩⟩

end Template

end PathRouter

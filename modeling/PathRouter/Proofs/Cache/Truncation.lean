import PathRouter.Proofs.Table.Reload

/-!
# Texts that were cut off are refused

A text of JSON can only end where nothing is open (`State.Ended`), and what the automaton takes from
there on are blanks and characters of numbers (`Ended.steps`). So of two texts that are read, one of
which begins with the other, the longer one goes on with such characters (`of_read?_append`). The
text of a record ends with a brace, and no shorter text that it begins with is read
(`read?_prefix_record`), wherever it is cut: in an escape, in a text, or before the last brace. The
text of a cache document is one of a record, so a table is loaded from its whole exported text or not
at all (`Reachable.imported_prefix`).
-/

namespace PathRouter

namespace Json

namespace State

/-- Whether a text may end in a state: nothing is open, and a value or some of a number was read. -/
def Ended (s : State) : Prop :=
  s.stack = [] ∧ ((∃ v, s.mode = .after v) ∨ ∃ cs, s.mode = .number cs)

variable {s t : State} {v : Json} {c : Char} {cs : List Char}

theorem ended_of_finish? (h : s.finish? = some v) : s.Ended := by
  obtain ⟨mode, stack⟩ := s
  unfold finish? at h
  split at h
  · next w hs hm => exact ⟨hs, Or.inl ⟨w, hm⟩⟩
  · next ds hs hm => exact ⟨hs, Or.inr ⟨ds, hm⟩⟩
  · simp at h

/-- Behind a value with nothing open only blanks are taken. -/
theorem proceed_of_stack_nil (hs : s.stack = []) (h : s.proceed v c = some t) :
    isSpace c ∧ t = ⟨.after v, []⟩ := by
  unfold proceed at h
  rw [hs] at h
  split_ifs at h with hc
  · rw [Option.some.injEq] at h
    exact ⟨hc, h.symm⟩

/-- What is taken where a text may end, it may end behind it. -/
theorem Ended.step (h : s.Ended) (hs : s.step c = some t) :
    t.Ended ∧ (isSpace c ∨ isNumberChar c) := by
  obtain ⟨mode, stack⟩ := s
  obtain ⟨rfl, ⟨v, rfl⟩ | ⟨ds, rfl⟩⟩ := h
  · obtain ⟨hc, rfl⟩ := proceed_of_stack_nil rfl hs
    exact ⟨⟨rfl, Or.inl ⟨v, rfl⟩⟩, Or.inl hc⟩
  · simp only [State.step] at hs
    split_ifs at hs with hc
    · rw [Option.some.injEq] at hs
      subst hs
      exact ⟨⟨rfl, Or.inr ⟨_, rfl⟩⟩, Or.inr hc⟩
    · obtain ⟨v, -, hs⟩ := Option.bind_eq_some_iff.mp hs
      obtain ⟨hspace, rfl⟩ := proceed_of_stack_nil rfl hs
      exact ⟨⟨rfl, Or.inl ⟨v, rfl⟩⟩, Or.inl hspace⟩

/-- **What follows where a text may end**: blanks and characters of numbers. -/
theorem Ended.steps (h : s.Ended) (hs : s.steps cs = some t) :
    ∀ c ∈ cs, isSpace c ∨ isNumberChar c := by
  induction cs generalizing s with
  | nil => simp
  | cons d cs ih =>
    have hbind : (s.step d).bind (·.steps cs) = some t := hs
    obtain ⟨u, hu, hs⟩ := Option.bind_eq_some_iff.mp hbind
    obtain ⟨hended, hd⟩ := h.step hu
    intro c hc
    rcases List.mem_cons.mp hc with rfl | hc
    · exact hd
    · exact ih hended hs c hc

end State

/-- A text is read along its characters. -/
theorem read?_ofList_eq_some {cs : List Char} {v : Json} :
    read? (String.ofList cs) = some v ↔
      ∃ s, (⟨.value, []⟩ : State).steps cs = some s ∧ s.finish? = some v := by
  rw [read?, String.toList_ofList, Option.bind_eq_some_iff]
  rfl

/-- **A text that is read and goes on** goes on with blanks and characters of numbers. -/
theorem of_read?_append {cs ds : List Char} {v w : Json}
    (h : read? (String.ofList cs) = some v) (ha : read? (String.ofList (cs ++ ds)) = some w) :
    ∀ c ∈ ds, isSpace c ∨ isNumberChar c := by
  obtain ⟨s, hs, hv⟩ := read?_ofList_eq_some.mp h
  obtain ⟨t, ht, -⟩ := read?_ofList_eq_some.mp ha
  rw [State.steps_append hs] at ht
  exact (State.ended_of_finish? hv).steps ht

/-- A record ends with a brace. -/
theorem exists_compactFields (fs : List (String × Json)) :
    ∃ cs, compactFields fs = cs ++ ['\x7d'] := by
  induction fs with
  | nil => exact ⟨[], rfl⟩
  | cons f fs ih =>
    obtain ⟨k, v⟩ := f
    obtain ⟨cs, hcs⟩ := ih
    refine ⟨',' :: quoted k ++ ':' :: compactChars v ++ cs, ?_⟩
    rw [compactFields, hcs]
    simp

theorem exists_compactChars_record (fs : List (String × Json)) :
    ∃ cs, compactChars (.record fs) = cs ++ ['\x7d'] := by
  cases fs with
  | nil => exact ⟨['\x7b'], rfl⟩
  | cons f fs =>
    obtain ⟨k, v⟩ := f
    obtain ⟨cs, hcs⟩ := exists_compactFields fs
    refine ⟨'\x7b' :: quoted k ++ ':' :: compactChars v ++ cs, ?_⟩
    rw [compactChars, hcs]
    simp

/-- **The text of a record is read as a whole only.** -/
theorem read?_prefix_record {fs : List (String × Json)} (h : Writable maxDepth (.record fs))
    {cut : String} (hp : cut.toList <+: (compact (.record fs)).toList)
    (hne : cut ≠ compact (.record fs)) : read? cut = none := by
  obtain ⟨ds, hds⟩ := hp
  have hds_ne : ds ≠ [] := by
    rintro rfl
    rw [List.append_nil, String.toList_inj] at hds
    exact hne hds
  -- what was cut off ends with the brace of the record
  have hbrace : '\x7d' ∈ ds := by
    obtain ⟨cs, hcs⟩ := exists_compactChars_record fs
    rw [compact, String.toList_ofList, hcs] at hds
    have hlast := congrArg List.getLast? hds
    rw [List.getLast?_append_of_ne_nil _ hds_ne, List.getLast?_concat] at hlast
    exact List.mem_of_getLast? hlast
  cases hr : read? cut with
  | none => rfl
  | some v =>
    have hwhole : read? (String.ofList (cut.toList ++ ds)) = some (.record fs) := by
      rw [hds, String.ofList_toList, read?_compact h]
    have hcut : read? (String.ofList cut.toList) = some v := by rw [String.ofList_toList, hr]
    have hchar := of_read?_append hcut hwhole '\x7d' hbrace
    exact absurd hchar (by decide)

end Json

/-- **The text of a document is read as a whole only.** -/
theorem CacheDocument.decode_prefix {d : CacheDocument} (hv : d.version < 2 ^ 64) {cut : String}
    (hp : cut.toList <+: d.encode.toList) (hne : cut ≠ d.encode) :
    decode cut = .error .notJson := by
  have hread : Json.read? cut = none := Json.read?_prefix_record (writable_toJson hv) hp hne
  rw [decode, Cache.readText, hread]
  rfl

namespace Table

variable {t : Table}

/-- **A table is loaded from its whole exported text or not at all**: what the text begins with is no
text of a table, wherever it is cut off and whatever the options are. -/
theorem Reachable.imported_prefix (h : Reachable t) (hh : t.home ≠ none) (he : t.error ≠ none) :
    ∃ blob, t.exported = .ok blob ∧ (∃ u, imported t.options blob = .ok u) ∧
      ∀ cut : String, cut.toList <+: blob.toList → cut ≠ blob →
        CacheDocument.decode cut = .error .notJson ∧
          ∀ options, imported options cut = .error .notJson := by
  obtain ⟨home, hh⟩ := Option.ne_none_iff_exists'.mp hh
  obtain ⟨error, he⟩ := Option.ne_none_iff_exists'.mp he
  obtain ⟨blob, hb⟩ := exists_exported hh he
  refine ⟨blob, hb, ⟨_, imported_exported h.sound hb⟩, ?_⟩
  obtain ⟨-, -, -, -, rfl⟩ := exported_eq_ok hb
  have hversion : CacheDocument.formatVersion < 2 ^ 64 := by decide
  intro cut hp hne
  have hdecode : CacheDocument.decode cut = .error .notJson :=
    CacheDocument.decode_prefix hversion hp hne
  refine ⟨hdecode, ?_⟩
  intro options
  rw [imported, hdecode]
  rfl

/-- An exported text without its last brace. -/
theorem imported_prefix_shop : ∃ blob,
    (run {} [.setHome (.direct "home"), .setError (.direct "error"),
      .addRoute "shop/$id:int" (.direct "show")]).exported = .ok blob ∧
    (String.ofList blob.toList.dropLast).toList <+: blob.toList ∧
    String.ofList blob.toList.dropLast ≠ blob ∧
    imported {} (String.ofList blob.toList.dropLast) = .error .notJson := by
  have hreach : Reachable (run {} [.setHome (.direct "home"), .setError (.direct "error"),
      .addRoute "shop/$id:int" (.direct "show")]) := (Reachable.new {}).run _
  obtain ⟨blob, hb, ⟨u, hu⟩, hcut⟩ := hreach.imported_prefix (by decide) (by decide)
  have hp : (String.ofList blob.toList.dropLast).toList <+: blob.toList := by
    rw [String.toList_ofList]
    exact List.dropLast_prefix _
  have hne : String.ofList blob.toList.dropLast ≠ blob := by
    intro hsame
    have hlength := congrArg (fun s : String => s.toList.length) hsame
    simp only [String.toList_ofList, List.length_dropLast] at hlength
    -- the empty text is no table
    have hnil : blob.toList = [] := List.length_eq_zero_iff.mp (by omega)
    have hempty : blob = "" := String.toList_eq_nil_iff.mp hnil
    rw [hempty] at hu
    exact absurd hu (by rintro ⟨⟩)
  exact ⟨blob, hb, hp, hne, (hcut _ hp hne).2 {}⟩

end Table

end PathRouter

import PathRouter.Cache.Document
import PathRouter.Proofs.Route.Cached

/-!
# Cache documents are read again

The text of a document is JSON again, whatever its texts hold and whatever version below `2 ^ 64` it
names (`readText_encode`). What is read from it depends on its tag and its version only
(`ofJson_toJson`): with those that are supported it is the document (`decode_encode`), and else the
one that is wrong is named, the tag before the version. A text that is accepted has the tag and the
version that are supported, so the document that it gives is read again from its own text
(`decode_encode_cases`).
-/

namespace PathRouter

/-- A field with a whole number is checked against the version that is supported. -/
theorem Cache.requiredVersion_ofNat {fields : List (String × Json)} {field : CacheField}
    {found : Nat} (expected : Nat) (hf : fields.lookup field.name = some (.ofNat found))
    (h : found < 2 ^ 64) : Cache.requiredVersion fields field expected =
      if found = expected then .ok () else .error (.version found expected) := by
  have hr : Cache.required fields field = .ok (.ofNat found) := by rw [Cache.required, hf]
  rw [Cache.requiredVersion, hr]
  show (Cache.shaped field .notUnsigned (Json.ofNat found).asUnsigned? >>= _) = _
  rw [Json.asUnsigned?_ofNat h]
  rfl

namespace CacheDocument

open Json

theorem priorityOfJson?_word (p : Priority) : priorityOfJson? (.text p.word) = some p := by
  cases p <;> rfl

theorem mapM_asText? (texts : List String) :
    (texts.map Json.text).mapM Json.asText? = some texts := by
  induction texts with
  | nil => rfl
  | cons x texts ih => simp [Json.asText?, ih]

variable {d : CacheDocument} {blob : String}

theorem writable_toJson {n : Nat} (hv : d.version < 2 ^ 64) : Writable (n + 2) d.toJson := by
  have hroutes : Writable (n + 1) (.ofTexts d.routes) := by
    refine .list ?_
    intro v hmem
    obtain ⟨x, -, rfl⟩ := List.mem_map.mp hmem
    exact .text x
  refine .record (by simp) ?_
  simp only [List.mem_cons, List.not_mem_nil, or_false, forall_eq_or_imp, forall_eq]
  exact ⟨.text _, writable_ofNat hv, .text _, hroutes, .text _, .text _⟩

/-- **The text of a document** is that of its JSON form. -/
theorem readText_encode (hv : d.version < 2 ^ 64) : Cache.readText d.encode = .ok d.toJson := by
  rw [Cache.readText, encode, read?_compact (writable_toJson hv)]

/-- **What a document's JSON form is read as** depends on its tag and its version. -/
theorem ofJson_toJson (hv : d.version < 2 ^ 64) :
    ofJson d.toJson =
      if d.format ≠ formatTag then .error (.format d.format)
      else if d.version ≠ formatVersion then .error (.version d.version formatVersion)
      else .ok d := by
  obtain ⟨format, version, priority, routes, home, error⟩ := d
  dsimp only at hv ⊢
  by_cases hf : format = formatTag
  · subst hf
    rw [if_neg (not_not.mpr rfl)]
    have hfield : [("format", .text formatTag), ("version", .ofNat version),
        ("priority", .text priority.word), ("routes", .ofTexts routes), ("home", .text home),
        ("error", .text error)].lookup CacheField.version.name = some (Json.ofNat version) := rfl
    have hversion := Cache.requiredVersion_ofNat formatVersion hfield hv
    by_cases he : version = formatVersion
    · subst he
      rw [if_pos rfl] at hversion
      rw [if_neg (not_not.mpr rfl)]
      unfold ofJson
      simp only [bind_eq_ok]
      refine ⟨_, rfl, formatTag, rfl, ?_⟩
      rw [if_neg (not_not.mpr rfl)]
      simp only [bind_eq_ok]
      refine ⟨(), hversion, _, rfl, priority, ?_, _, rfl, routes.map Json.text, rfl, routes, ?_,
        home, rfl, error, rfl, rfl⟩
      · rw [priorityOfJson?_word]
        rfl
      · rw [mapM_asText?]
        rfl
    · rw [if_neg he] at hversion
      rw [if_pos he]
      show (Cache.requiredVersion _ .version formatVersion >>= _) = _
      rw [hversion]
      rfl
  · rw [if_pos hf]
    show (if format ≠ formatTag then _ else _) = _
    rw [if_pos hf]
    rfl

theorem decode_encode_eq (hv : d.version < 2 ^ 64) :
    decode d.encode =
      if d.format ≠ formatTag then .error (.format d.format)
      else if d.version ≠ formatVersion then .error (.version d.version formatVersion)
      else .ok d := by
  rw [decode, readText_encode hv]
  exact ofJson_toJson hv

/-- **A document is read again from its text.** -/
theorem decode_encode (hf : d.format = formatTag) (hv : d.version = formatVersion) :
    decode d.encode = .ok d := by
  have hlt : d.version < 2 ^ 64 := hv ▸ by decide
  rw [decode_encode_eq hlt, if_neg (not_not.mpr hf), if_neg (not_not.mpr hv)]

/-- A text that is accepted has the tag and the version that are supported. -/
theorem supported_of_decode (h : decode blob = .ok d) :
    d.format = formatTag ∧ d.version = formatVersion := by
  unfold decode ofJson at h
  simp only [bind_eq_ok] at h
  obtain ⟨v, -, fields, -, format, -, h⟩ := h
  split_ifs at h with hf
  · cases h
  · simp only [bind_eq_ok, Except.ok.injEq] at h
    obtain ⟨-, -, -, -, -, -, -, -, -, -, -, -, -, -, -, -, rfl⟩ := h
    exact ⟨not_not.mp hf, rfl⟩

/-- **Documents and their texts.** The text of a document is read as the document if its tag and its
version are supported. A tag that is not is refused whatever the version is, a version that is not
under the right tag; and what is read from any text is read again from its own. -/
theorem decode_encode_cases (d : CacheDocument) (hv : d.version < 2 ^ 64) :
    (d.format = formatTag → d.version = formatVersion → decode d.encode = .ok d) ∧
    (d.format ≠ formatTag → decode d.encode = .error (.format d.format)) ∧
    (d.format = formatTag → d.version ≠ formatVersion →
      decode d.encode = .error (.version d.version formatVersion)) ∧
    ∀ blob e, decode blob = .ok e → decode e.encode = .ok e := by
  refine ⟨decode_encode, ?_, ?_, ?_⟩
  · intro hf
    rw [decode_encode_eq hv, if_pos hf]
  · intro hf hn
    rw [decode_encode_eq hv, if_neg (not_not.mpr hf), if_pos hn]
  · intro blob e he
    obtain ⟨hf, hversion⟩ := supported_of_decode he
    exact decode_encode hf hversion

/-- The largest version, with a text that has to be escaped. -/
theorem decode_encode_largest : 2 ^ 64 - 1 < 2 ^ 64 ∧
    decode (encode ⟨formatTag, 2 ^ 64 - 1, .lastWins, ["\"\\\n\x01é", ""], "[[", "\x7f"⟩) =
      .error (.version (2 ^ 64 - 1) formatVersion) := by
  have hv : 2 ^ 64 - 1 < 2 ^ 64 := by decide
  obtain ⟨-, -, hversion, -⟩ := decode_encode_cases
    ⟨formatTag, 2 ^ 64 - 1, .lastWins, ["\"\\\n\x01é", ""], "[[", "\x7f"⟩ hv
  exact ⟨hv, hversion rfl (by decide)⟩

end CacheDocument

end PathRouter

import PathRouter.Proofs.Table.Filled
import PathRouter.Proofs.Table.Index

/-!
# What the types of parameters let through

The type of a parameter declares of which characters its values are made (`ValueType.Declares`). But
a matcher takes characters up to case, also where a type lists them. Digits, points and marks are
equal to nothing else up to case, letters of ASCII are: the long s is equal to `s`, and the Kelvin
sign to `k`, and no other character outside ASCII is equal to one of ASCII (`allows_str_iff`). So
only words can hold what their type does not declare (`declares_or_foreign_of_allows`), and an
answer binds what the types declare if and only if neither letter stands in the path in the place of
a word (`Table.typed_resolve_iff`). With one of them it binds more (`Table.resolve_binds_long_s`).
-/

namespace PathRouter

open Text

namespace ValueType

/-- Whether a type declares that a character may stand in its values: any but a slash, letters and
digits of ASCII and some marks, digits, or digits and points. -/
def Declares : ValueType → Char → Prop
  | untyped, c => c ≠ '/'
  | str, c => c.isAlphanum ∨ c ∈ ['-', '_', '.', '+', '~', '?', '!']
  | int, c => c.isDigit
  | float, c => c.isDigit ∨ c = '.'

instance : (type : ValueType) → (c : Char) → Decidable (type.Declares c)
  | untyped, c => inferInstanceAs (Decidable (c ≠ '/'))
  | str, c =>
    inferInstanceAs (Decidable (c.isAlphanum ∨ c ∈ ['-', '_', '.', '+', '~', '?', '!']))
  | int, c => inferInstanceAs (Decidable c.isDigit)
  | float, c => inferInstanceAs (Decidable (c.isDigit ∨ c = '.'))

/-- Whether a text is a value of a type: it is not empty, and of declared characters. -/
def Admits (type : ValueType) (v : String) : Prop := v ≠ "" ∧ ∀ c ∈ v.toList, type.Declares c

/-- The letters outside ASCII that are equal to letters of ASCII up to case. -/
def foreignLetters : List Char := ['ſ', '\u212a']

theorem toNat_lt_of_isAlphanum {c : Char} (h : c.isAlphanum) : c.toNat < 128 := by
  have hn : ((65 ≤ c.toNat ∧ c.toNat ≤ 90) ∨ 97 ≤ c.toNat ∧ c.toNat ≤ 122) ∨
      48 ≤ c.toNat ∧ c.toNat ≤ 57 := by
    have hr := Template.range_iff.mpr h
    simpa [CharSet.range, Char.le_def, UInt32.le_iff_toNat_le] using hr
  omega

/-- What is equal to a letter or a digit of ASCII up to case is one, or a foreign letter. -/
theorem orbit_isAlphanum {a : Char} (h : a.isAlphanum) :
    ∀ c ∈ orbit a, c.isAlphanum ∨ c ∈ foreignLetters := by
  have hall : ∀ n < 128, (Char.ofNat n).isAlphanum → (orbit (Char.ofNat n)).all
      fun c => c.isAlphanum || foreignLetters.contains c := by decide +kernel
  have ha := hall a.toNat (toNat_lt_of_isAlphanum h)
  rw [Char.ofNat_toNat] at ha
  simpa using ha h

/-- **The characters that words let through**: the declared ones and the foreign letters. -/
theorem allows_str_iff {c : Char} : str.Allows c ↔ str.Declares c ∨ c ∈ foreignLetters := by
  have hfolded : (∃ a : Char, a.isAlphanum ∧ fold a = fold c) ↔
      c.isAlphanum ∨ c ∈ foreignLetters := by
    constructor
    · rintro ⟨a, ha, hf⟩
      exact orbit_isAlphanum ha c (mem_orbit_iff.mpr hf.symm)
    · rintro (hc | hc)
      · exact ⟨c, hc, rfl⟩
      · simp only [foreignLetters, List.mem_cons, List.not_mem_nil, or_false] at hc
        rcases hc with rfl | rfl
        · exact ⟨'s', by decide, by decide +kernel⟩
        · exact ⟨'k', by decide, by decide +kernel⟩
  rw [Allows, hfolded, Declares]
  tauto

theorem not_declares_foreign : ∀ c ∈ foreignLetters, ¬ str.Declares c := by
  intro c hc
  simp only [foreignLetters, List.mem_cons, List.not_mem_nil, or_false] at hc
  rcases hc with rfl | rfl <;> decide

/-- **What a type lets through** is declared, or a foreign letter in a word. -/
theorem declares_or_foreign_of_allows {type : ValueType} {c : Char} (hc : c ≠ '/')
    (h : type.Allows c) : type.Declares c ∨ type = str ∧ c ∈ foreignLetters := by
  cases type with
  | untyped => exact Or.inl hc
  | str => exact (allows_str_iff.mp h).imp_right fun hf => ⟨rfl, hf⟩
  | int => exact Or.inl h
  | float => exact Or.inl h

end ValueType

namespace Segment

open ValueType

variable {s : Segment} {x : String} {ss : List Segment} {xs : List String}

/-- What a parameter takes is not empty, and of characters that its type declares or of foreign
letters. -/
theorem declares_or_foreign_of_takes (h : s.Takes x) (hp : s.isParam) :
    x ≠ "" ∧ ∀ c ∈ x.toList, s.type.Declares c ∨ s.type = .str ∧ c ∈ foreignLetters := by
  obtain ⟨⟨hne, hslash⟩, hchars⟩ := h
  have hk : s.kind = .param := by simpa [isParam] using hp
  rw [hk] at hchars
  refine ⟨fun he => hne (by rw [he]; rfl), fun c hc => ?_⟩
  have hcs : c ≠ '/' := by
    rintro rfl
    exact hslash hc
  exact declares_or_foreign_of_allows hcs (hchars c hc)

/-- A parameter takes a value of its type if and only if no foreign letter stands in a word. -/
theorem admits_iff_of_takes (h : s.Takes x) (hp : s.isParam) :
    s.type.Admits x ↔ (s.type = .str → ∀ c ∈ x.toList, c ∉ foreignLetters) := by
  obtain ⟨hne, hchars⟩ := declares_or_foreign_of_takes h hp
  constructor
  · rintro ⟨-, hdeclared⟩ ht c hc hf
    exact not_declares_foreign c hf (ht ▸ hdeclared c hc)
  · intro hword
    refine ⟨hne, fun c hc => ?_⟩
    rcases hchars c hc with hd | ⟨ht, hf⟩
    · exact hd
    · exact absurd hf (hword ht c hc)

/-- What is bound stands to the parameters as the segments of the path stand to those of the
template. -/
theorem forall₂_bound_iff {R : Segment → String × String → Prop} (h : ss.length = xs.length) :
    List.Forall₂ R (ss.filter isParam) (bound ss xs) ↔
      List.Forall₂ (fun s x => s.isParam → R s (s.name, x)) ss xs := by
  induction ss generalizing xs with
  | nil =>
    cases xs with
    | nil => exact iff_of_true .nil .nil
    | cons x xs => simp at h
  | cons s ss ih =>
    cases xs with
    | nil => simp at h
    | cons x xs =>
      have ih := ih (Nat.succ.inj h)
      rw [Template.bound_cons, List.forall₂_cons, ← ih]
      by_cases hp : s.isParam
      · rw [List.filter_cons_of_pos hp, if_pos hp, List.forall₂_cons]
        exact and_congr_left' ⟨fun hr _ => hr, fun hr => hr hp⟩
      · rw [List.filter_cons_of_neg hp, if_neg hp]
        exact (and_iff_right fun h => absurd h hp).symm

end Segment

/-- Whether every parameter of the route of a match is bound to a value of its type, in order. -/
def RouteMatch.Typed (m : RouteMatch) : Prop :=
  List.Forall₂ (fun s p => p.1 = s.name ∧ s.type.Admits p.2)
    (m.route.segments.filter Segment.isParam) m.params

namespace Table

open History ValueType

variable {options : TableOptions} {calls : List Call} {raw : String} {m : RouteMatch}

/-- Without cached routes a match is made of the segments of the path that its route takes. -/
theorem takes_of_resolve (h : ∀ c ∈ calls, ∀ blob, c ≠ .addCached blob)
    (hm : (run { options } calls).resolve raw = .ok m) (ho : m.outcome = .matched) :
    List.Forall₂ Segment.Takes m.route.segments (Path.segments raw options.baseUrl) ∧
      m.params = Segment.bound m.route.segments (Path.segments raw options.baseUrl) := by
  rcases resolve_cases hm with ⟨he, -⟩ | ⟨first, -, hr, hmatch⟩ | ⟨he, -⟩
  · simp [ho] at he
  · have hstored := ((mem_bucket_run_iff options calls _ _).mp hr).1
    obtain ⟨template, callback, hc⟩ := compile_of_mem_stored h hstored
    obtain ⟨params, hv, hparams⟩ := Option.map_eq_some_iff.mp hmatch
    obtain rfl : params = m.params := congrArg RouteMatch.params hparams
    rw [run_options] at hv
    exact (Route.verify?_normal hc (fun _ => Path.isSegment_of_mem_segments) _).mp hv
  · simp [ho] at he

/-- **What a match binds**, in a table without cached routes: every parameter is bound to a text that
is not empty and of characters that its type declares, or in a word also of foreign letters. All are
values of their types if and only if no foreign letter stands in the path in the place of a word. -/
theorem typed_resolve_iff (h : ∀ c ∈ calls, ∀ blob, c ≠ .addCached blob)
    (hm : (run { options } calls).resolve raw = .ok m) (ho : m.outcome = .matched) :
    List.Forall₂ (fun s p => p.1 = s.name ∧ p.2 ≠ "" ∧ ∀ c ∈ p.2.toList,
        s.type.Declares c ∨ s.type = .str ∧ c ∈ foreignLetters)
      (m.route.segments.filter Segment.isParam) m.params ∧
    (m.Typed ↔ List.Forall₂
      (fun s x => s.isParam → s.type = .str → ∀ c ∈ x.toList, c ∉ foreignLetters)
      m.route.segments (Path.segments raw options.baseUrl)) := by
  obtain ⟨htakes, hparams⟩ := takes_of_resolve h hm ho
  rw [RouteMatch.Typed, hparams, Segment.forall₂_bound_iff htakes.length_eq,
    Segment.forall₂_bound_iff htakes.length_eq]
  refine ⟨htakes.imp fun s x hx hp => ⟨rfl, Segment.declares_or_foreign_of_takes hx hp⟩, ?_⟩
  constructor
  · intro htyped
    refine (htakes.mp (fun _ _ => And.intro) htyped).imp fun s x hx hp => ?_
    exact (Segment.admits_iff_of_takes hx.1 hp).mp (hx.2 hp).2
  · intro hwords
    refine (htakes.mp (fun _ _ => And.intro) hwords).imp fun s x hx hp => ?_
    exact ⟨rfl, (Segment.admits_iff_of_takes hx.1 hp).mpr (hx.2 hp)⟩

/-- Calls that make a table with a route of a word and a number. -/
def tagCalls : List Call :=
  [.setHome (.direct "home"), .setError (.direct "error"),
    .addRoute "tag/$word:str/$n:int" (.direct "show")]

theorem not_addCached_tagCalls : ∀ c ∈ tagCalls, ∀ blob, c ≠ .addCached blob := by
  simp [tagCalls]

/-- The segments of that route. -/
def tagSegments : List Segment := [.ofLiteral "tag", .ofParam "word" .str, .ofParam "n" .int]

/-- A match of that route, from its evaluation. -/
theorem exists_resolve_tagCalls {raw word n : String}
    (h : ((run {} tagCalls).resolve raw).toOption.map
      (fun m => (m.outcome, m.params, m.route.segments)) =
        some (.matched, [("word", word), ("n", n)], tagSegments)) :
    ∃ m, (run {} tagCalls).resolve raw = .ok m ∧ m.outcome = .matched ∧
      m.params = [("word", word), ("n", n)] ∧ m.route.segments = tagSegments := by
  obtain ⟨m, hm, hmatch⟩ := Option.map_eq_some_iff.mp h
  simp only [Prod.mk.injEq] at hmatch
  exact ⟨m, Call.toOption_eq_some.mp hm, hmatch⟩

/-- A word of letters and marks of ASCII, with a number. -/
theorem typed_resolve_iff_tag : ∃ m, (run {} tagCalls).resolve "/TAG/Ask~me/42?x=ſ" = .ok m ∧
    m.outcome = .matched ∧ m.params = [("word", "Ask~me"), ("n", "42")] ∧ m.Typed := by
  obtain ⟨m, hm, ho, hparams, hsegments⟩ :=
    @exists_resolve_tagCalls "/TAG/Ask~me/42?x=ſ" "Ask~me" "42" (by decide +kernel)
  refine ⟨m, hm, ho, hparams, (typed_resolve_iff not_addCached_tagCalls hm ho).2.mpr ?_⟩
  have hpath : Path.segments "/TAG/Ask~me/42?x=ſ" none = ["TAG", "Ask~me", "42"] := by decide
  have hword : ∀ c ∈ "Ask~me".toList, c ∉ foreignLetters := by simp [foreignLetters]
  rw [hsegments]
  show List.Forall₂ _ tagSegments (Path.segments "/TAG/Ask~me/42?x=ſ" none)
  rw [hpath]
  exact .cons (by decide) (.cons (fun _ _ => hword) (.cons (by decide) .nil))

/-- **A word can hold a letter outside ASCII**, which its type does not declare. -/
theorem resolve_binds_long_s : ∃ m, (run {} tagCalls).resolve "/tag/ſ/42" = .ok m ∧
    m.outcome = .matched ∧ m.params = [("word", "ſ"), ("n", "42")] ∧ ¬ m.Typed := by
  obtain ⟨m, hm, ho, hparams, hsegments⟩ :=
    @exists_resolve_tagCalls "/tag/ſ/42" "ſ" "42" (by decide +kernel)
  refine ⟨m, hm, ho, hparams, fun htyped => ?_⟩
  rw [RouteMatch.Typed, hparams, hsegments] at htyped
  obtain ⟨⟨-, -, hdeclared⟩, -⟩ := List.forall₂_cons.mp htyped
  exact absurd (hdeclared 'ſ' (by decide)) (by decide)

end Table

end PathRouter

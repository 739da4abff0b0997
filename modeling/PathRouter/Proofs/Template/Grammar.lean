import Mathlib.Data.List.Forall2
import Mathlib.Data.List.Infix
import PathRouter.Proofs.Template.Reading

/-!
# The grammar of templates

A template is cut at its slashes into parts (`parts`). A part is a literal or a parameter (`Reads`):
`$name`, or `$name:suffix` with a suffix that asks for a type. After the parts in front of it, a part
can be `Admissible` or it `Offends`; what the reader makes of one part is said once for each of the
two (`readPiece_eq_ok_iff`, `readPiece_eq_error_iff`), and what it makes of all of them follows. So a
template is read if and only if it is in the grammar, and else the error is the one for the number of
the parts or that of the first part that offends (`read_grammar`).
-/

namespace PathRouter

namespace Text

variable {sep : Char} {cs before after : List Char}

/-- A text is cut at a character if it holds it. -/
theorem cutAt?_eq_none_iff : cutAt? [sep] cs = none ↔ sep ∉ cs := by
  rw [cutAt?_eq_none (List.cons_ne_nil _ _), List.singleton_infix_iff]

/-- A text is cut at the first of the places where a character stands. -/
theorem cutAt?_eq_some_iff :
    cutAt? [sep] cs = some (before, after) ↔ sep ∉ before ∧ cs = before ++ sep :: after := by
  rw [cutAt?_eq_some (List.cons_ne_nil _ _), List.dropLast_concat, List.singleton_infix_iff,
    List.append_assoc, List.singleton_append, and_comm]

theorem pieces_eq_splitOn : pieces sep cs = cs.splitOn sep := by
  rw [List.splitOn_eq_splitOnP]
  induction cs with
  | nil => simp [pieces]
  | cons c cs ih =>
    rw [pieces, List.splitOnP_cons_eq_if_modifyHead, ← ih]
    by_cases hc : c = sep
    · simp [hc]
    · obtain ⟨p, ps, hps⟩ := List.exists_cons_of_ne_nil (pieces_ne_nil sep cs)
      simp [hc, hps]

end Text

/-! ### Types of values -/

namespace ValueType

/-- The suffixes that ask for a type, in lower case. -/
def suffixes : ValueType → List String
  | untyped => []
  | str => ["str", "string"]
  | int => ["int", "integer"]
  | float => ["float"]

/-- Whether a parameter is of a type: untyped without a suffix, else as its suffix asks for, in any
case of ASCII letters. -/
def Asked (type : ValueType) : Option String → Prop
  | none => type = untyped
  | some suffix => Text.asciiLowercase suffix ∈ type.suffixes

theorem ofSuffix?_eq_some_iff {suffix : String} {type : ValueType} :
    ofSuffix? suffix = some type ↔ type.Asked (some suffix) := by
  show ofSuffix? suffix = some type ↔ Text.asciiLowercase suffix ∈ type.suffixes
  unfold ofSuffix?
  generalize Text.asciiLowercase suffix = w
  dsimp only
  split_ifs with hs hi hf
  · rcases hs with rfl | rfl <;> cases type <;> decide
  · rcases hi with rfl | rfl <;> cases type <;> decide
  · subst hf
    cases type <;> decide
  · cases type <;> simp_all [suffixes]

end ValueType

namespace Template

/-! ### Parts -/

/-- The parts of a template: what stands between its slashes and is not empty. -/
def parts (template : String) : List (List Char) :=
  (template.toList.splitOn '/').filter fun p => p ≠ []

theorem segments_eq_parts (template : String) : Text.segments template.toList = parts template := by
  rw [Text.segments, parts, Text.pieces_eq_splitOn]
  congr 1
  funext p
  cases p <;> rfl

/-- Cuts what stands behind the mark of a parameter at the first colon, into a name and perhaps a
suffix. -/
def Splits (cs : List Char) (name : String) (suffix : Option String) : Prop :=
  ':' ∉ name.toList ∧ cs = name.toList ++ (suffix.map fun s => ':' :: s.toList).getD []

/-- What a part is read as, whatever stands before it: a literal that does not begin with the mark
of a parameter, or a parameter with its name and its type. -/
inductive Reads : List Char → Segment → Prop
  | literal {text : String} (h : text.toList.head? ≠ some '$') : Reads text.toList (.ofLiteral text)
  | param {cs : List Char} {name : String} {suffix : Option String} {type : ValueType}
    (h : Splits cs name suffix) (ht : type.Asked suffix) : Reads ('$' :: cs) (.ofParam name type)

/-- Whether a part is a parameter with a name. -/
def Names (p : List Char) (name : String) : Prop :=
  ∃ cs suffix, p = '$' :: cs ∧ Splits cs name suffix

/-- Whether a part may stand behind others: if it begins with the mark of a parameter, it is not the
first, its suffix asks for a type, and its name is not empty and not that of an earlier part. -/
def Admissible (earlier : List (List Char)) (p : List Char) : Prop :=
  ∀ cs, p = '$' :: cs → earlier ≠ [] ∧ ∃ name suffix, ∃ type : ValueType,
    Splits cs name suffix ∧ type.Asked suffix ∧ name ≠ "" ∧ ∀ q ∈ earlier, ¬ Names q name

/-- Why a part may not stand behind others. The reasons exclude each other: one only counts if those
before it do not hold. -/
inductive Offends (template : String) (earlier : List (List Char)) :
    List Char → CompileError → Prop
  | leading {cs : List Char} (h : earlier = []) :
    Offends template earlier ('$' :: cs) (.leadingParam template)
  | unsupported {cs : List Char} {name suffix : String} (h : earlier ≠ [])
    (hs : Splits cs name (some suffix)) (ht : ∀ type : ValueType, ¬ type.Asked (some suffix)) :
    Offends template earlier ('$' :: cs) (.unsupportedType name suffix)
  | unnamed {cs : List Char} {suffix : Option String} {type : ValueType} (h : earlier ≠ [])
    (hs : Splits cs "" suffix) (ht : type.Asked suffix) :
    Offends template earlier ('$' :: cs) (.unnamedParam template earlier.length)
  | duplicate {cs : List Char} {name : String} {suffix : Option String} {type : ValueType}
    (h : earlier ≠ []) (hs : Splits cs name suffix) (ht : type.Asked suffix) (hn : name ≠ "")
    (hd : ∃ q ∈ earlier, Names q name) :
    Offends template earlier ('$' :: cs) (.duplicateParam template name)

variable {cs p : List Char} {name : String} {suffix : Option String} {type : ValueType}
  {template : String} {s : Segment} {e : CompileError}

/-! ### What stands behind the mark of a parameter -/

theorem splits_none_iff : Splits cs name none ↔
    Text.cutAt? [':'] cs = none ∧ name = String.ofList cs := by
  rw [Text.cutAt?_eq_none_iff, Splits, ← String.toList_inj, String.toList_ofList]
  simp only [Option.map_none, Option.getD_none, List.append_nil]
  constructor
  · rintro ⟨h, rfl⟩
    exact ⟨h, rfl⟩
  · rintro ⟨h, hc⟩
    exact ⟨hc ▸ h, hc.symm⟩

theorem splits_some_iff {suffix : String} : Splits cs name (some suffix) ↔
    Text.cutAt? [':'] cs = some (name.toList, suffix.toList) :=
  Text.cutAt?_eq_some_iff.symm

/-- A text is cut in one way. -/
theorem Splits.unique {name' : String} {suffix' : Option String} (h : Splits cs name suffix)
    (h' : Splits cs name' suffix') : name = name' ∧ suffix = suffix' := by
  cases suffix with
  | none =>
    cases suffix' with
    | none => exact ⟨(splits_none_iff.mp h).2.trans (splits_none_iff.mp h').2.symm, rfl⟩
    | some s' =>
      have hc := (splits_none_iff.mp h).1
      rw [splits_some_iff.mp h'] at hc
      cases hc
  | some s =>
    have hc := splits_some_iff.mp h
    cases suffix' with
    | none =>
      rw [(splits_none_iff.mp h').1] at hc
      cases hc
    | some s' =>
      rw [splits_some_iff.mp h', Option.some.injEq, Prod.mk.injEq, String.toList_inj,
        String.toList_inj] at hc
      exact ⟨hc.1.symm, by rw [hc.2]⟩

theorem exists_splits (cs : List Char) : ∃ name suffix, Splits cs name suffix := by
  cases hc : Text.cutAt? [':'] cs with
  | none => exact ⟨_, none, splits_none_iff.mpr ⟨hc, rfl⟩⟩
  | some p => exact ⟨.ofList p.1, some (.ofList p.2), splits_some_iff.mpr (by simp [hc])⟩

/-- A suffix that asks for no type is there. -/
theorem asked_or (suffix : Option String) : (∃ type : ValueType, type.Asked suffix) ∨
    ∃ s, suffix = some s ∧ ∀ type : ValueType, ¬ type.Asked (some s) := by
  cases suffix with
  | none => exact Or.inl ⟨.untyped, rfl⟩
  | some s =>
    by_cases h : ∃ type : ValueType, type.Asked (some s)
    · exact Or.inl h
    · exact Or.inr ⟨s, rfl, not_exists.mp h⟩

theorem asked_unique {type' : ValueType} (h : type.Asked suffix) (h' : type'.Asked suffix) :
    type = type' := by
  cases suffix with
  | none => exact h.trans h'.symm
  | some s =>
    have hs := ValueType.ofSuffix?_eq_some_iff.mpr h
    rw [ValueType.ofSuffix?_eq_some_iff.mpr h'] at hs
    exact (Option.some.inj hs).symm

theorem readParam_of_asked (h : Splits cs name suffix) (ht : type.Asked suffix) :
    readParam cs = .ok (name, type) := by
  unfold readParam
  cases suffix with
  | none =>
    obtain ⟨hc, rfl⟩ := splits_none_iff.mp h
    obtain rfl : type = .untyped := ht
    rw [hc]
  | some s =>
    rw [splits_some_iff.mp h]
    simp only [String.ofList_toList, ValueType.ofSuffix?_eq_some_iff.mpr ht]

theorem readParam_of_not_asked {suffix : String} (h : Splits cs name (some suffix))
    (ht : ∀ type : ValueType, ¬ type.Asked (some suffix)) :
    readParam cs = .error (.unsupportedType name suffix) := by
  have hnone : ValueType.ofSuffix? suffix = none := by
    rw [Option.eq_none_iff_forall_ne_some]
    intro type htype
    exact ht type (ValueType.ofSuffix?_eq_some_iff.mp htype)
  rw [readParam, splits_some_iff.mp h]
  simp only [String.ofList_toList, hnone]

/-! ### One part -/

/-- What begins with the mark of a parameter is read as one. -/
theorem param_of_reads (h : Reads ('$' :: cs) s) : ∃ name suffix type,
    s = .ofParam name type ∧ Splits cs name suffix ∧ type.Asked suffix := by
  generalize hp : '$' :: cs = p at h
  cases h with
  | literal hd => simp [← hp] at hd
  | param hs ht =>
    obtain ⟨-, rfl⟩ := List.cons.inj hp
    exact ⟨_, _, _, rfl, hs, ht⟩

/-- A part is read in one way. -/
theorem Reads.unique {s' : Segment} (h : Reads p s) (h' : Reads p s') : s = s' := by
  cases h with
  | @literal text hd =>
    generalize hp : text.toList = p at h'
    cases h' with
    | literal => rw [String.toList_inj.mp hp]
    | param => simp [hp] at hd
  | param hs ht =>
    obtain ⟨name', suffix', type', rfl, hs', ht'⟩ := param_of_reads h'
    obtain ⟨rfl, rfl⟩ := hs.unique hs'
    rw [asked_unique ht ht']

/-- The names of earlier parts are those of the parameters that they are read as. -/
theorem exists_names_iff {qs : List (List Char)} {earlier : List Segment}
    (h : List.Forall₂ Reads qs earlier) :
    (∃ q ∈ qs, Names q name) ↔ name ∈ paramNames earlier := by
  induction h with
  | nil => simp [paramNames]
  | @cons q s qs earlier hq _ ih =>
    have hone : Names q name ↔ name ∈ paramNames [s] := by
      cases hq with
      | literal hd =>
        refine iff_of_false ?_ (by simp [paramNames, Segment.isParam, Segment.ofLiteral])
        rintro ⟨cs, suffix, hp, -⟩
        simp [hp] at hd
      | @param cs n suffix type hs ht =>
        have hname : name ∈ paramNames [Segment.ofParam n type] ↔ name = n := by
          simp [paramNames, Segment.isParam, Segment.ofParam]
        rw [hname]
        constructor
        · rintro ⟨cs', suffix', hp, hs'⟩
          obtain ⟨-, rfl⟩ := List.cons.inj hp
          exact (hs.unique hs').1.symm
        · rintro rfl
          exact ⟨cs, suffix, rfl, hs⟩
    have hnames : paramNames (s :: earlier) = paramNames [s] ++ paramNames earlier :=
      paramNames_append [s] earlier
    rw [List.exists_mem_cons_iff, ih, hone, hnames, List.mem_append]

section Step
variable {qs : List (List Char)} {earlier : List Segment}

theorem mark_or (p : List Char) : (∃ cs, p = '$' :: cs) ∨ p.head? ≠ some '$' := by
  by_cases h : p.head? = some '$'
  · exact Or.inl ⟨p.tail, (List.eq_cons_of_mem_head? h)⟩
  · exact Or.inr h

theorem readPiece_of_head?_ne (h : p.head? ≠ some '$') :
    readPiece template earlier p = .ok (.ofLiteral (String.ofList p)) := by
  unfold readPiece
  split
  · exact absurd rfl h
  · rfl

theorem reads_of_head?_ne (h : p.head? ≠ some '$') : Reads p (.ofLiteral (String.ofList p)) := by
  have hr : Reads (String.ofList p).toList (.ofLiteral (String.ofList p)) :=
    .literal (by rwa [String.toList_ofList])
  rwa [String.toList_ofList] at hr

theorem mem_paramNames_iff : name ∈ paramNames earlier ↔
    earlier.any fun s => s.isParam && s.name == name := by
  simp [paramNames, and_comm, and_left_comm]

/-- How a parameter is read that is not the first segment. -/
theorem readPiece_param (hne : earlier ≠ []) (h : readParam cs = .ok (name, type)) :
    readPiece template earlier ('$' :: cs) =
      if name = "" then .error (.unnamedParam template earlier.length)
      else if name ∈ paramNames earlier then .error (.duplicateParam template name)
      else .ok (.ofParam name type) := by
  have hempty : earlier.isEmpty = false := by simpa using hne
  simp only [readPiece, hempty, h, mem_paramNames_iff, ← String.isEmpty_iff, bind, Except.bind]
  rfl

theorem ne_nil_of_reads (h : List.Forall₂ Reads qs earlier) (hne : qs ≠ []) : earlier ≠ [] := by
  rintro rfl
  exact hne (List.length_eq_zero_iff.mp h.length_eq)

/-- A part that may stand where it stands is read. -/
theorem readPiece_of_admissible (h : List.Forall₂ Reads qs earlier) (hs : Reads p s)
    (ha : Admissible qs p) : readPiece template earlier p = .ok s := by
  cases hs with
  | literal hd => rw [readPiece_of_head?_ne hd, String.ofList_toList]
  | @param cs name suffix type hs ht =>
    obtain ⟨hne, name', suffix', type', hs', -, hn, hnew⟩ := ha cs rfl
    obtain ⟨rfl, rfl⟩ := hs.unique hs'
    have hnames : name ∉ paramNames earlier := by
      rw [← exists_names_iff h]
      rintro ⟨q, hq, hname⟩
      exact hnew q hq hname
    rw [readPiece_param (ne_nil_of_reads h hne) (readParam_of_asked hs ht), if_neg hn,
      if_neg hnames]

/-- A part that offends is refused, for the reason that it gives. -/
theorem readPiece_of_offends (h : List.Forall₂ Reads qs earlier)
    (ho : Offends template qs p e) : readPiece template earlier p = .error e := by
  cases ho with
  | leading hnil =>
    subst hnil
    cases h
    rfl
  | unsupported hne hs ht =>
    have hempty : earlier.isEmpty = false := by simpa using ne_nil_of_reads h hne
    rw [readPiece, hempty, readParam_of_not_asked hs ht]
    rfl
  | unnamed hne hs ht =>
    rw [readPiece_param (ne_nil_of_reads h hne) (readParam_of_asked hs ht), if_pos rfl,
      h.length_eq]
  | duplicate hne hs ht hn hd =>
    rw [readPiece_param (ne_nil_of_reads h hne) (readParam_of_asked hs ht), if_neg hn,
      if_pos ((exists_names_iff h).mp hd)]

/-- A part that may stand where it stands is a literal or a parameter. -/
theorem Admissible.exists_reads (h : Admissible qs p) : ∃ s, Reads p s := by
  rcases mark_or p with ⟨cs, rfl⟩ | hp
  · obtain ⟨-, name, suffix, type, hs, ht, -⟩ := h cs rfl
    exact ⟨_, .param hs ht⟩
  · exact ⟨_, reads_of_head?_ne hp⟩

/-- A part may stand where it stands, or there is a reason against it. -/
theorem admissible_or_offends (template : String) (qs : List (List Char)) (p : List Char) :
    Admissible qs p ∨ ∃ e, Offends template qs p e := by
  rcases mark_or p with ⟨cs, rfl⟩ | hp
  · by_cases hq : qs = []
    · exact Or.inr ⟨_, .leading hq⟩
    obtain ⟨name, suffix, hs⟩ := exists_splits cs
    rcases asked_or suffix with ⟨type, ht⟩ | ⟨s, rfl, ht⟩
    · by_cases hn : name = ""
      · subst hn
        exact Or.inr ⟨_, .unnamed hq hs ht⟩
      by_cases hd : ∃ q ∈ qs, Names q name
      · exact Or.inr ⟨_, .duplicate hq hs ht hn hd⟩
      refine Or.inl fun cs' hcs => ?_
      obtain ⟨-, rfl⟩ := List.cons.inj hcs
      exact ⟨hq, name, suffix, type, hs, ht, hn, fun q hq hname => hd ⟨q, hq, hname⟩⟩
    · exact Or.inr ⟨_, .unsupported hq hs ht⟩
  · refine Or.inl ?_
    rintro cs rfl
    exact absurd rfl hp

/-- **What one part is read as.** -/
theorem readPiece_eq_ok_iff (h : List.Forall₂ Reads qs earlier) :
    readPiece template earlier p = .ok s ↔ Admissible qs p ∧ Reads p s := by
  constructor
  · intro hp
    rcases admissible_or_offends template qs p with ha | ⟨e, ho⟩
    · obtain ⟨s', hs⟩ := ha.exists_reads
      rw [readPiece_of_admissible h hs ha, Except.ok.injEq] at hp
      exact ⟨ha, hp ▸ hs⟩
    · rw [readPiece_of_offends h ho] at hp
      cases hp
  · rintro ⟨ha, hs⟩
    exact readPiece_of_admissible h hs ha

/-- **Why one part is refused.** -/
theorem readPiece_eq_error_iff (h : List.Forall₂ Reads qs earlier) :
    readPiece template earlier p = .error e ↔ Offends template qs p e := by
  constructor
  · intro hp
    rcases admissible_or_offends template qs p with ha | ⟨e', ho⟩
    · obtain ⟨s, hs⟩ := ha.exists_reads
      rw [readPiece_of_admissible h hs ha] at hp
      cases hp
    · rw [readPiece_of_offends h ho, Except.error.injEq] at hp
      exact hp ▸ ho
  · exact readPiece_of_offends h

end Step

/-! ### All parts -/

/-- Whether every one of some parts may stand where it stands, behind earlier ones. -/
def Admitted (earlier ps : List (List Char)) : Prop :=
  ∀ before p after, ps = before ++ p :: after → Admissible (earlier ++ before) p

theorem admitted_nil (qs : List (List Char)) : Admitted qs [] := by
  intro before p after h
  simp at h

theorem admitted_cons {qs ps : List (List Char)} :
    Admitted qs (p :: ps) ↔ Admissible qs p ∧ Admitted (qs ++ [p]) ps := by
  constructor
  · intro h
    refine ⟨by simpa using h [] p ps rfl, fun before q after hq => ?_⟩
    simpa using h (p :: before) q after (by rw [hq]; rfl)
  · rintro ⟨hp, hps⟩ before q after h
    cases before with
    | nil =>
      obtain ⟨rfl, -⟩ := List.cons.inj h
      simpa using hp
    | cons b before =>
      obtain ⟨rfl, hq⟩ := List.cons.inj h
      simpa using hps before q after hq

theorem forall₂_snoc {qs : List (List Char)} {earlier : List Segment}
    (h : List.Forall₂ Reads qs earlier) (hs : Reads p s) :
    List.Forall₂ Reads (qs ++ [p]) (earlier ++ [s]) :=
  List.rel_append h (.cons hs .nil)

/-- **What parts are read as**: each of them, if each may stand where it stands. -/
theorem readPieces_eq_ok_iff : ∀ {ps qs : List (List Char)} {earlier ss : List Segment},
    List.Forall₂ Reads qs earlier → (readPieces template earlier ps = .ok ss ↔
      ∃ ts, ss = earlier ++ ts ∧ Admitted qs ps ∧ List.Forall₂ Reads ps ts)
  | [], qs, earlier, ss, h => by
    simp only [readPieces, Except.ok.injEq, List.forall₂_nil_left_iff, admitted_nil, true_and,
      exists_eq_right, List.append_nil, eq_comm]
  | p :: ps, qs, earlier, ss, h => by
    rw [readPieces, bind_eq_ok]
    constructor
    · rintro ⟨s, hs, hss⟩
      obtain ⟨ha, hs⟩ := (readPiece_eq_ok_iff h).mp hs
      obtain ⟨ts, rfl, hps, hts⟩ := (readPieces_eq_ok_iff (forall₂_snoc h hs)).mp hss
      exact ⟨s :: ts, by simp, admitted_cons.mpr ⟨ha, hps⟩, .cons hs hts⟩
    · rintro ⟨ts, rfl, ha, hts⟩
      obtain ⟨ha, hps⟩ := admitted_cons.mp ha
      cases hts with
      | @cons _ s _ ts hs hts =>
        refine ⟨s, (readPiece_eq_ok_iff h).mpr ⟨ha, hs⟩, ?_⟩
        exact (readPieces_eq_ok_iff (forall₂_snoc h hs)).mpr ⟨ts, by simp, hps, hts⟩

/-- **Why parts are refused**: for the first of them that offends. -/
theorem readPieces_eq_error_iff : ∀ {ps qs : List (List Char)} {earlier : List Segment},
    List.Forall₂ Reads qs earlier → (readPieces template earlier ps = .error e ↔
      ∃ before p after, ps = before ++ p :: after ∧ Admitted qs before ∧
        Offends template (qs ++ before) p e)
  | [], qs, earlier, h => by simp [readPieces]
  | p :: ps, qs, earlier, h => by
    rw [readPieces, bind_eq_error, readPiece_eq_error_iff h]
    constructor
    · rintro (ho | ⟨s, hs, hps⟩)
      · exact ⟨[], p, ps, rfl, admitted_nil qs, by rwa [List.append_nil]⟩
      · obtain ⟨ha, hs⟩ := (readPiece_eq_ok_iff h).mp hs
        obtain ⟨before, q, after, rfl, hb, ho⟩ :=
          (readPieces_eq_error_iff (forall₂_snoc h hs)).mp hps
        exact ⟨p :: before, q, after, rfl, admitted_cons.mpr ⟨ha, hb⟩, by simpa using ho⟩
    · rintro ⟨before, q, after, hp, hb, ho⟩
      cases before with
      | nil =>
        obtain ⟨rfl, -⟩ := List.cons.inj hp
        exact Or.inl (by rwa [List.append_nil] at ho)
      | cons b before =>
        obtain ⟨rfl, rfl⟩ := List.cons.inj hp
        obtain ⟨ha, hb⟩ := admitted_cons.mp hb
        obtain ⟨s, hs⟩ := ha.exists_reads
        refine Or.inr ⟨s, (readPiece_eq_ok_iff h).mpr ⟨ha, hs⟩, ?_⟩
        exact (readPieces_eq_error_iff (forall₂_snoc h hs)).mpr
          ⟨before, q, after, rfl, hb, by simpa using ho⟩

theorem Admitted.exists_reads {ps : List (List Char)} : ∀ {qs : List (List Char)},
    Admitted qs ps → ∃ ss, List.Forall₂ Reads ps ss := by
  induction ps with
  | nil => exact fun _ => ⟨[], .nil⟩
  | cons p ps ih =>
    intro qs h
    obtain ⟨ha, hps⟩ := admitted_cons.mp h
    obtain ⟨s, hs⟩ := ha.exists_reads
    obtain ⟨ss, hss⟩ := ih hps
    exact ⟨s :: ss, .cons hs hss⟩

/-- Whether parts make a template with at most `limit` segments: there is one, there are not too many,
and each may stand behind those before it. -/
def Grammatical (limit : Nat) (ps : List (List Char)) : Prop :=
  ps ≠ [] ∧ ps.length ≤ limit ∧ Admitted [] ps

variable {limit : Nat}

theorem read_eq : read limit template =
    if parts template = [] then .error .empty
    else if limit < (parts template).length then
      .error (.tooManySegments (parts template).length limit)
    else readPieces template [] (parts template) := by
  simp only [read, segments_eq_parts, List.isEmpty_iff]

/-- A template in the grammar is read part by part. -/
theorem read_eq_ok_iff {ss : List Segment} : read limit template = .ok ss ↔
    Grammatical limit (parts template) ∧ List.Forall₂ Reads (parts template) ss := by
  rw [read_eq, Grammatical]
  split_ifs with he hl
  · simp [he]
  · have hle : ¬ (parts template).length ≤ limit := not_le.mpr hl
    simp [hle]
  · rw [readPieces_eq_ok_iff .nil]
    simp [he, not_lt.mp hl]

/-- **The grammar of templates.** A template is read if and only if it has a part, not more parts
than the limit, and every part may stand behind those before it, and then it is read part by part.
Else the error is that there is no part, or how many there are, or the reason against the first part
that may not stand where it stands. -/
theorem read_grammar (limit : Nat) (template : String) :
    ((∃ ss, read limit template = .ok ss) ↔ Grammatical limit (parts template)) ∧
    (∀ ss, read limit template = .ok ss ↔
      Grammatical limit (parts template) ∧ List.Forall₂ Reads (parts template) ss) ∧
    ∀ e, read limit template = .error e ↔
      (parts template = [] ∧ e = .empty) ∨
      (limit < (parts template).length ∧ e = .tooManySegments (parts template).length limit) ∨
      ((parts template).length ≤ limit ∧ ∃ before p after, parts template = before ++ p :: after ∧
        Admitted [] before ∧ Offends template before p e) := by
  refine ⟨?_, fun ss => read_eq_ok_iff, fun e => ?_⟩
  · simp only [read_eq_ok_iff, exists_and_left]
    exact and_iff_left_of_imp fun h => h.2.2.exists_reads
  · rw [read_eq]
    split_ifs with he hl
    · simp [he, eq_comm]
    · have hle : ¬ (parts template).length ≤ limit := not_le.mpr hl
      simp [he, hl, hle, eq_comm]
    · rw [readPieces_eq_error_iff .nil]
      simp [he, hl, not_lt.mp hl]

end Template

end PathRouter

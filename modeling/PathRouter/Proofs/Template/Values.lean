import PathRouter.Proofs.Template.Reading
import PathRouter.Proofs.Text.CaseFold

/-!
# What a segment takes

A segment of a template takes segments of paths (`Segment.Takes`): a literal those that are equal to
it up to case, a parameter those whose characters its type allows. The sets of characters in the
pattern of a template are those that the types allow (`typeSet_iff`).
-/

namespace PathRouter

open Text

/-- Whether a character may stand in a value of a type: any but a slash, letters and digits of ASCII
up to case and some marks, digits, or digits and points. -/
def ValueType.Allows : ValueType → Char → Prop
  | .untyped, _ => True
  | .str, c => (∃ a, a.isAlphanum ∧ fold a = fold c) ∨ c ∈ ['-', '_', '.', '+', '~', '?', '!']
  | .int, c => c.isDigit
  | .float, c => c.isDigit ∨ c = '.'

/-- Whether a segment of a template takes a segment of a path: a literal one that is equal to it
character by character up to case, a parameter one of characters that its type allows. -/
def Segment.Takes (s : Segment) (x : String) : Prop :=
  Path.IsSegment x ∧
    match s.kind with
    | .literal => List.Forall₂ (fun a c => fold a = fold c) s.name.toList x.toList
    | .param => ∀ c ∈ x.toList, s.type.Allows c

/-- The names of parameters with the segments of a path that they take. -/
def Segment.bound (ss : List Segment) (xs : List String) : List (String × String) :=
  ((ss.zip xs).filter fun p => p.1.isParam).map fun p => (p.1.name, p.2)

namespace Template

/-- Marks and digits. -/
def marks : List Char :=
  ['/', '-', '_', '.', '+', '~', '?', '!', '0', '1', '2', '3', '4', '5', '6', '7', '8', '9']

theorem all_orbit_marks : marks.all fun a => orbit a == [a] := by decide +kernel

theorem orbit_mark {a : Char} (h : a ∈ marks) : orbit a = [a] := by
  simpa using List.all_eq_true.mp all_orbit_marks a h

theorem fold_eq_slash_iff {c : Char} : fold c = fold '/' ↔ c = '/' :=
  fold_eq_iff_of_orbit (orbit_mark (by decide))

theorem isDigit_iff_mem {c : Char} :
    c.isDigit ↔ c ∈ ['0', '1', '2', '3', '4', '5', '6', '7', '8', '9'] := by
  constructor
  · intro h
    have hn : 48 ≤ c.toNat ∧ c.toNat ≤ 57 := by
      simpa [Char.isDigit, UInt32.le_iff_toNat_le] using h
    rw [← Char.ofNat_toNat c]
    generalize c.toNat = n at hn
    have hall : ∀ n < 58, 48 ≤ n → Char.ofNat n ∈ ['0', '1', '2', '3', '4', '5', '6', '7', '8',
      '9'] := by decide
    exact hall n (by omega) hn.1
  · have hall : ['0', '1', '2', '3', '4', '5', '6', '7', '8', '9'].all Char.isDigit := by decide
    exact List.all_eq_true.mp hall c

theorem orbit_digit {a : Char} (h : a.isDigit) : orbit a = [a] := by
  have hm := isDigit_iff_mem.mp h
  refine orbit_mark ?_
  simp only [marks, List.mem_cons] at hm ⊢
  tauto

/-- The letters and digits of ASCII, as ranges. -/
theorem range_iff {c : Char} :
    (CharSet.range 'A' 'Z' c ∨ CharSet.range 'a' 'z' c) ∨ CharSet.range '0' '9' c ↔
      c.isAlphanum := by
  have hupper : CharSet.range 'A' 'Z' c = c.isUpper := (Bool.decide_and _ _).symm
  rw [hupper, ← Bool.or_eq_true, ← Bool.or_eq_true]
  rfl

theorem range_digit {c : Char} : CharSet.range '0' '9' c ↔ c.isDigit := Iff.rfl

/-- Characters that are equal to no other one up to case are in a folded set if they are in it. -/
theorem exists_fold_iff {P : Char → Prop} {c : Char} (h : ∀ a, P a → orbit a = [a]) :
    (∃ a, P a ∧ fold a = fold c) ↔ P c := by
  constructor
  · rintro ⟨a, ha, hf⟩
    exact (fold_eq_iff_of_orbit (h a ha)).mp hf.symm ▸ ha
  · intro hc
    exact ⟨c, hc, rfl⟩

theorem str_members {a : Char} :
    (((((((((CharSet.empty.union (CharSet.range 'A' 'Z')).union (CharSet.range 'a' 'z')).union
      (CharSet.range '0' '9')).union (CharSet.single '-')).union (CharSet.single '_')).union
      (CharSet.single '.')).union (CharSet.single '+')).union (CharSet.single '~')).union
      (CharSet.single '?')).union (CharSet.single '!') a ↔
    a.isAlphanum ∨ a ∈ ['-', '_', '.', '+', '~', '?', '!'] := by
  rw [← range_iff]
  simp only [CharSet.union, CharSet.empty, CharSet.single, Bool.or_eq_true, beq_iff_eq,
    List.mem_cons, List.not_mem_nil, or_false, Bool.false_eq_true, false_or, or_assoc]

/-- No letter and no digit is equal to a slash up to case. -/
theorem not_allows_slash {type : ValueType} (h : type ≠ .untyped) : ¬ type.Allows '/' := by
  cases type with
  | untyped => exact absurd rfl h
  | str =>
    rintro (⟨a, ha, hf⟩ | hm)
    · rw [fold_eq_slash_iff.mp hf] at ha
      exact absurd ha (by decide)
    · exact absurd hm (by decide)
  | int => simp [ValueType.Allows]
  | float => simp [ValueType.Allows]

/-- **The characters of the values of a type**: no slash, and what the type allows. -/
theorem typeSet_iff {type : ValueType} {c : Char} : typeSet type c ↔ c ≠ '/' ∧ type.Allows c := by
  have hslash : type ≠ .untyped → type.Allows c → c ≠ '/' := by
    rintro ht ha rfl
    exact not_allows_slash ht ha
  cases type with
  | untyped =>
    have hset : (CharSet.empty.union (CharSet.single '/')).folded c ↔ c = '/' := by
      rw [CharSet.folded_iff, ← fold_eq_slash_iff]
      simp only [CharSet.union, CharSet.empty, CharSet.single, Bool.false_or, beq_iff_eq,
        exists_eq_left]
      exact eq_comm
    rw [typeSet, CharSet.compl, Bool.not_eq_true', ← Bool.not_eq_true, hset]
    exact (and_iff_left trivial).symm
  | str =>
    have hset : typeSet .str c ↔ ValueType.str.Allows c := by
      rw [typeSet, CharSet.folded_iff]
      simp only [str_members, or_and_right, exists_or]
      rw [exists_fold_iff (P := fun a => a ∈ ['-', '_', '.', '+', '~', '?', '!'])]
      · rfl
      · intro a ha
        refine orbit_mark ?_
        simp only [marks, List.mem_cons] at ha ⊢
        tauto
    rw [hset]
    exact ⟨fun ha => ⟨hslash (by decide) ha, ha⟩, And.right⟩
  | int =>
    have hset : typeSet .int c ↔ c.isDigit := by
      rw [typeSet, CharSet.folded_iff, ← exists_fold_iff fun a => orbit_digit]
      simp only [CharSet.union, CharSet.empty, Bool.false_or, range_digit]
    rw [hset]
    exact ⟨fun ha => ⟨hslash (by decide) ha, ha⟩, And.right⟩
  | float =>
    have hset : typeSet .float c ↔ c.isDigit ∨ c = '.' := by
      rw [typeSet, CharSet.folded_iff, ← exists_fold_iff (P := fun a => a.isDigit ∨ a = '.')]
      · simp only [CharSet.union, CharSet.empty, CharSet.single, Bool.false_or, Bool.or_eq_true,
          beq_iff_eq, range_digit]
      · rintro a (ha | rfl)
        · exact orbit_digit ha
        · exact orbit_mark (by decide)
    rw [hset]
    exact ⟨fun ha => ⟨hslash (by decide) ha, ha⟩, And.right⟩

end Template

end PathRouter

/-!
# Blank characters

The characters with the Unicode property `White_Space`, and texts stripped of them at both ends.
-/

namespace PathRouter.Text

/-- Whether a character has the Unicode property `White_Space`. -/
def isBlank (c : Char) : Bool :=
  let n := c.toNat
  (9 ≤ n && n ≤ 13) || n == 0x20 || n == 0x85 || n == 0xA0 || n == 0x1680 ||
    (0x2000 ≤ n && n ≤ 0x200A) || n == 0x2028 || n == 0x2029 || n == 0x202F || n == 0x205F ||
    n == 0x3000

/-- A list of characters without the blanks at its end. -/
def dropBlankEnd : List Char → List Char
  | [] => []
  | c :: cs =>
    match dropBlankEnd cs with
    | [] => if isBlank c then [] else [c]
    | rest => c :: rest

/-- A text without the blanks at its two ends. -/
def trim (s : String) : String :=
  String.ofList (dropBlankEnd (s.toList.dropWhile isBlank))

theorem dropBlankEnd_of_all {cs : List Char} (h : ∀ c ∈ cs, isBlank c) : dropBlankEnd cs = [] := by
  induction cs with
  | nil => rfl
  | cons c cs ih => simp_all [dropBlankEnd]

theorem dropBlankEnd_concat {c : Char} (hc : isBlank c = false) (cs : List Char) :
    dropBlankEnd (cs ++ [c]) = cs ++ [c] := by
  induction cs with
  | nil => simp [dropBlankEnd, hc]
  | cons d ds ih =>
    rw [List.cons_append, dropBlankEnd, ih]
    cases ds <;> rfl

/-- A text is its trimmed form with blanks put back at the end. -/
theorem exists_append_dropBlankEnd (cs : List Char) :
    ∃ bs, cs = dropBlankEnd cs ++ bs ∧ ∀ b ∈ bs, isBlank b := by
  induction cs with
  | nil => exact ⟨[], by simp [dropBlankEnd]⟩
  | cons c cs ih =>
    obtain ⟨bs, h, hb⟩ := ih
    rw [dropBlankEnd]
    split
    · next h0 =>
      rw [h0, List.nil_append] at h
      split
      · next hc => exact ⟨c :: cs, by simp, by simp_all⟩
      · exact ⟨bs, by simp [h], hb⟩
    · exact ⟨bs, by rw [List.cons_append, ← h], hb⟩

end PathRouter.Text

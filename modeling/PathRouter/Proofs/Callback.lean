import Mathlib.Data.List.Infix
import Mathlib.Data.List.TakeWhile
import PathRouter.Callback

/-!
# The text form of callbacks

Reading the text form of a callback takes the blanks around it away and nothing else, so the text
form of what was read is the text without them (`text_ofText`). A callback is therefore read back
from its own text form if and only if there are no blanks around that and it names this callback
(`ofText_text_iff_trim`). What this asks of each of the three kinds is `Callback.Readable`.
-/

namespace PathRouter

namespace Text

variable {cs bs : List Char} {s t u : String}

/-- Whether a text begins with a blank. -/
def startsBlank (s : String) : Bool := s.toList.head?.any isBlank

/-- Whether a text ends with a blank. -/
def endsBlank (s : String) : Bool := s.toList.getLast?.any isBlank

/-- A text `t` is `u` with blanks put around it, and there are no more blanks around `u`. -/
structure Stripped (t u : String) : Prop where
  around : ∃ front back, (∀ c ∈ front, isBlank c) ∧ (∀ c ∈ back, isBlank c) ∧
    t.toList = front ++ u.toList ++ back
  start : startsBlank u = false
  stop : endsBlank u = false

theorem any_getLast?_dropBlankEnd (cs : List Char) :
    (dropBlankEnd cs).getLast?.any isBlank = false := by
  induction cs with
  | nil => rfl
  | cons c cs ih =>
    rw [dropBlankEnd]
    split
    · split_ifs with hc
      · rfl
      · simpa using hc
    · next h =>
      obtain ⟨d, ds, hds⟩ := List.exists_cons_of_ne_nil h
      rw [hds] at ih ⊢
      rwa [List.getLast?_cons_cons]

theorem dropBlankEnd_append (cs : List Char) (h : ∀ b ∈ bs, isBlank b) :
    dropBlankEnd (cs ++ bs) = dropBlankEnd cs := by
  induction cs with
  | nil => exact dropBlankEnd_of_all h
  | cons c cs ih => rw [List.cons_append, dropBlankEnd, dropBlankEnd, ih]

theorem dropBlankEnd_eq_self (h : cs.getLast?.any isBlank = false) : dropBlankEnd cs = cs := by
  rcases List.eq_nil_or_concat cs with rfl | ⟨ds, c, rfl⟩
  · rfl
  · rw [List.concat_eq_append] at h ⊢
    exact dropBlankEnd_concat (by simpa using h) ds

/-- A text trimmed is stripped of the blanks around it. -/
theorem stripped_trim (t : String) : Stripped t (trim t) := by
  obtain ⟨back, hback, hb⟩ := exists_append_dropBlankEnd (t.toList.dropWhile isBlank)
  refine ⟨⟨t.toList.takeWhile isBlank, back, fun c hc => List.mem_takeWhile_imp hc, hb, ?_⟩, ?_, ?_⟩
  · rw [trim, String.toList_ofList, List.append_assoc, ← hback, List.takeWhile_append_dropWhile]
  · rw [startsBlank, trim, String.toList_ofList]
    cases hd : dropBlankEnd (t.toList.dropWhile isBlank) with
    | nil => rfl
    | cons c cs =>
      rw [hd] at hback
      have hhead := List.head?_dropWhile_not isBlank t.toList
      rw [hback] at hhead
      simpa using hhead
  · rw [endsBlank, trim, String.toList_ofList]
    exact any_getLast?_dropBlankEnd _

/-- **There is one way to strip a text** of the blanks around it. -/
theorem stripped_iff : Stripped t u ↔ u = trim t := by
  constructor
  · rintro ⟨⟨front, back, hf, hb, ht⟩, hstart, hstop⟩
    have hfront : t.toList.dropWhile isBlank = (u.toList ++ back).dropWhile isBlank := by
      rw [ht, List.append_assoc, List.dropWhile_append_of_pos hf]
    rw [trim, hfront, ← String.toList_inj, String.toList_ofList]
    cases hu : u.toList with
    | nil =>
      rw [List.nil_append, List.dropWhile_eq_nil_iff.mpr hb]
      rfl
    | cons c cs =>
      have hc : isBlank c = false := by simpa [startsBlank, hu] using hstart
      rw [List.cons_append, List.dropWhile_cons_of_neg (by simp [hc]), ← List.cons_append,
        dropBlankEnd_append _ hb, dropBlankEnd_eq_self (by rwa [endsBlank, hu] at hstop)]
  · rintro rfl
    exact stripped_trim t

theorem trim_eq_self_iff : trim s = s ↔ startsBlank s = false ∧ endsBlank s = false := by
  rw [eq_comm, ← stripped_iff]
  exact ⟨fun h => ⟨h.start, h.stop⟩, fun ⟨hs, he⟩ => ⟨⟨[], [], by simp, by simp, by simp⟩, hs, he⟩⟩

@[simp] theorem trim_trim (s : String) : trim (trim s) = trim s :=
  trim_eq_self_iff.mpr ⟨(stripped_trim s).start, (stripped_trim s).stop⟩

end Text

namespace Callback

open Text (cutAt? trim startsBlank endsBlank Stripped)

/-- The callback that a text without blanks around it names. -/
def named (t : String) : Callback :=
  match t.toList with
  | '@' :: name => aliased (String.ofList name)
  | cs =>
    match cutAt? [':', ':'] cs with
    | some (c :: cs, m :: ms) => method (String.ofList (c :: cs)) (String.ofList (m :: ms))
    | _ => direct t

theorem ofText_eq_named (t : String) : ofText t = named (trim t) := rfl

variable {t name className methodName : String}

theorem named_eq_aliased_iff : named t = aliased name ↔ t.toList = '@' :: name.toList := by
  unfold named
  split
  · next cs h => simp [h, ← String.toList_inj]
  · next h =>
    refine iff_of_false ?_ (h name.toList)
    split <;> exact Callback.noConfusion

theorem named_eq_method_iff : named t = method className methodName ↔
    t.toList.head? ≠ some '@' ∧ className ≠ "" ∧ methodName ≠ "" ∧
      cutAt? [':', ':'] t.toList = some (className.toList, methodName.toList) := by
  unfold named
  split
  · next h => simp [h]
  · next h =>
    have hhead : t.toList.head? ≠ some '@' := fun e => h _ (List.eq_cons_of_mem_head? e)
    split
    · next c cs m ms hc =>
      rw [hc]
      simp only [method.injEq, Option.some.injEq, Prod.mk.injEq]
      constructor
      · rintro ⟨rfl, rfl⟩
        simp [hhead]
      · rintro ⟨-, -, -, hclass, hmethod⟩
        exact ⟨by rw [hclass, String.ofList_toList], by rw [hmethod, String.ofList_toList]⟩
    · next hc =>
      refine iff_of_false Callback.noConfusion ?_
      rintro ⟨-, hclass, hmethod, hcut⟩
      obtain ⟨c, cs, hcs⟩ := List.exists_cons_of_ne_nil (mt String.toList_eq_nil_iff.mp hclass)
      obtain ⟨m, ms, hms⟩ := List.exists_cons_of_ne_nil (mt String.toList_eq_nil_iff.mp hmethod)
      exact hc c cs m ms (by rw [hcut, hcs, hms])

theorem named_eq_direct_iff : named t = direct name ↔
    t = name ∧ t.toList.head? ≠ some '@' ∧
      ∀ before after, cutAt? [':', ':'] t.toList = some (before, after) →
        before = [] ∨ after = [] := by
  unfold named
  split
  · next h => simp [h]
  · next h =>
    have hhead : t.toList.head? ≠ some '@' := fun e => h _ (List.eq_cons_of_mem_head? e)
    split
    · next c cs m ms hc =>
      refine iff_of_false Callback.noConfusion ?_
      rintro ⟨-, -, hsides⟩
      simpa using hsides _ _ hc
    · next hc =>
      simp only [direct.injEq, hhead, ne_eq, not_false_eq_true, true_and, iff_self_and]
      rintro rfl (_ | ⟨c, cs⟩) (_ | ⟨m, ms⟩) hcut
      · exact Or.inl rfl
      · exact Or.inl rfl
      · exact Or.inr rfl
      · exact absurd hcut (hc c cs m ms)

/-- A text is cut at the first two colons in a row: there are no others up to the second of them. -/
theorem cutAt?_colons_iff {cs before after : List Char} :
    cutAt? [':', ':'] cs = some (before, after) ↔
      cs = before ++ [':', ':'] ++ after ∧ ¬ [':', ':'] <:+: before ++ [':'] := by
  rw [Text.cutAt?_eq_some (by simp)]
  simp

theorem toList_text_method : (method className methodName).text.toList =
    className.toList ++ [':', ':'] ++ methodName.toList := by
  change (className ++ "::" ++ methodName).toList = _
  simp [String.toList_append]

theorem toList_text_aliased : (aliased name).text.toList = '@' :: name.toList := by
  change ("@" ++ name).toList = _
  simp [String.toList_append]

/-- A callback has the text that names it as its text form. -/
theorem text_named (t : String) : (named t).text = t := by
  rw [← String.toList_inj]
  cases hc : named t with
  | direct name => rw [(named_eq_direct_iff.mp hc).1]; rfl
  | method className methodName =>
    obtain ⟨-, -, -, hcut⟩ := named_eq_method_iff.mp hc
    rw [toList_text_method, (cutAt?_colons_iff.mp hcut).1]
  | aliased name => rw [toList_text_aliased, named_eq_aliased_iff.mp hc]

/-- The text form of what was read is the text without the blanks around it. -/
@[simp] theorem text_ofText (t : String) : (ofText t).text = trim t := text_named (trim t)

theorem ofText_trim (t : String) : ofText (trim t) = ofText t := by
  rw [ofText_eq_named, ofText_eq_named, Text.trim_trim]

/-- A callback is read back from its text form if there are no blanks around that and it names the
callback. -/
theorem ofText_text_iff_trim {c : Callback} :
    ofText c.text = c ↔ trim c.text = c.text ∧ named c.text = c := by
  constructor
  · intro h
    have htrim : trim c.text = c.text := by rw [← text_ofText, h]
    exact ⟨htrim, by rwa [ofText_eq_named, htrim] at h⟩
  · rintro ⟨htrim, hnamed⟩
    rw [ofText_eq_named, htrim, hnamed]

/-- The callbacks whose text form stands for them. -/
def Readable : Callback → Prop
  | aliased name => endsBlank name = false
  | method className methodName =>
    className ≠ "" ∧ methodName ≠ "" ∧
      ¬ [':', ':'] <:+: className.toList ∧ className.toList.getLast? ≠ some ':' ∧
      className.toList.head? ≠ some '@' ∧ startsBlank className = false ∧
      endsBlank methodName = false
  | direct name =>
    startsBlank name = false ∧ endsBlank name = false ∧ name.toList.head? ≠ some '@' ∧
      -- the first `::` is the one without another that begins before it
      ∀ before after, name.toList = before ++ [':', ':'] ++ after →
        ¬ [':', ':'] <:+: before ++ [':'] → before = [] ∨ after = []

theorem ofText_text_aliased_iff : ofText (aliased name).text = aliased name ↔
    (aliased name).Readable := by
  rw [ofText_text_iff_trim, named_eq_aliased_iff, toList_text_aliased, Text.trim_eq_self_iff,
    startsBlank, endsBlank, toList_text_aliased, Readable, endsBlank]
  have hat : Text.isBlank '@' = false := by decide
  cases name.toList <;> simp [hat]

/-- A colon that is put at the end stands beside another one only if one was the last. -/
theorem not_infix_concat_colon_iff {cs : List Char} : ¬ [':', ':'] <:+: cs ++ [':'] ↔
    ¬ [':', ':'] <:+: cs ∧ cs.getLast? ≠ some ':' := by
  have hsuffix : [':', ':'] <:+ cs ++ [':'] ↔ cs.getLast? = some ':' := by
    rcases List.eq_nil_or_concat' cs with rfl | ⟨ds, c, rfl⟩
    · decide
    · constructor
      · rintro ⟨front, hfront⟩
        have hfront : (front ++ [':']) ++ [':'] = (ds ++ [c]) ++ [':'] := by simpa using hfront
        rw [← List.append_cancel_right hfront, List.getLast?_concat]
      · intro hlast
        rw [List.getLast?_concat, Option.some.injEq] at hlast
        exact ⟨ds, by simp [hlast]⟩
  rw [List.infix_concat_iff, hsuffix, not_or, and_comm]

theorem ofText_text_method_iff :
    ofText (method className methodName).text = method className methodName ↔
      (method className methodName).Readable := by
  rw [ofText_text_iff_trim, named_eq_method_iff, cutAt?_colons_iff, Text.trim_eq_self_iff,
    not_infix_concat_colon_iff, startsBlank, endsBlank, toList_text_method, Readable, startsBlank,
    endsBlank]
  by_cases hclass : className = ""
  · simp [hclass]
  by_cases hmethod : methodName = ""
  · simp [hmethod]
  have hstart : (className.toList ++ [':', ':'] ++ methodName.toList).head? =
      className.toList.head? := by
    obtain ⟨c, cs, hcs⟩ := List.exists_cons_of_ne_nil (mt String.toList_eq_nil_iff.mp hclass)
    simp [hcs]
  have hstop : (className.toList ++ [':', ':'] ++ methodName.toList).getLast? =
      methodName.toList.getLast? := by
    rw [List.getLast?_append_of_ne_nil _ (mt String.toList_eq_nil_iff.mp hmethod)]
  rw [hstart, hstop]
  tauto

theorem ofText_text_direct_iff : ofText (direct name).text = direct name ↔
    (direct name).Readable := by
  rw [ofText_text_iff_trim, named_eq_direct_iff, Text.trim_eq_self_iff, Readable]
  simp only [text, cutAt?_colons_iff, and_imp, true_and, and_assoc]

/-- **The text form of callbacks.** Reading a text and writing what was read takes the blanks around
the text away, so that the text form names the same callback again; and a callback is named by its
own text form if and only if it is readable. -/
theorem ofText_text_iff :
    (∀ t u, Stripped t u ↔ u = (ofText t).text) ∧
      (∀ t, ofText (ofText t).text = ofText t) ∧
      ∀ c : Callback, ofText c.text = c ↔ c.Readable := by
  refine ⟨fun t u => ?_, fun t => ?_, fun c => ?_⟩
  · rw [text_ofText, Text.stripped_iff]
  · rw [text_ofText, ofText_trim]
  · cases c with
    | direct name => exact ofText_text_direct_iff
    | method className methodName => exact ofText_text_method_iff
    | aliased name => exact ofText_text_aliased_iff

-- the first two of three colons are the ones that separate, so the class loses its own
example : ofText (method "a:" "b").text = method "a" ":b" := by decide

end Callback

end PathRouter

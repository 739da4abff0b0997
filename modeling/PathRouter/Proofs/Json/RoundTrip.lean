import Mathlib.Data.List.Nodup
import Mathlib.Data.List.TakeWhile
import PathRouter.Json.Printer
import PathRouter.Json.Reader
import PathRouter.Proofs.Text.Decimal

/-!
# Written values are read again

The automaton that reads JSON is followed along the characters of a written value. A text is read
character by character (`steps_escaped`), and behind a value the automaton holds it (`State.Holds`):
it waits for what comes next, or for the end of a number. What a value needs to be read again is
`Writable`: its numbers are numbers, no record names a field twice, and it does not nest too deep
(`read?_compact`). The whole numbers below `2 ^ 64` are numbers (`writable_ofNat`).
-/

namespace PathRouter

/-- A new key comes last. -/
theorem Assoc.put_of_not_mem {ν : Type} {key : String} {ps : List (String × ν)}
    (h : key ∉ ps.map (·.1)) (value : ν) : Assoc.put key value ps = ps ++ [(key, value)] := by
  induction ps with
  | nil => rfl
  | cons p ps ih =>
    obtain ⟨k, v⟩ := p
    rw [List.map_cons, List.mem_cons, not_or] at h
    rw [Assoc.put, if_neg (Ne.symm h.1), ih h.2, List.cons_append]

namespace Json

/-- Whether a value is read again where it is written, with so many lists and records around what is
in it. -/
inductive Writable : Nat → Json → Prop
  | null {n : Nat} : Writable n .null
  | flag {n : Nat} (b : Bool) : Writable n (.flag b)
  | number {n : Nat} {w : String} (h : number? w.toList = some (.number w))
    (hc : ∀ c ∈ w.toList, isNumberChar c) : Writable n (.number w)
  | text {n : Nat} (s : String) : Writable n (.text s)
  | list {n : Nat} {vs : List Json} (h : ∀ v ∈ vs, Writable n v) : Writable (n + 1) (.list vs)
  | record {n : Nat} {fs : List (String × Json)} (hk : (fs.map (·.1)).Nodup)
    (h : ∀ f ∈ fs, Writable n f.2) : Writable (n + 1) (.record fs)

namespace State

/-- The state after some characters. -/
def steps (s : State) (cs : List Char) : Option State := cs.foldlM step s

/-- Whether a state has read a value: it goes on behind it, or is at the end of its number. -/
def Holds (s : State) (v : Json) (stack : List Frame) : Prop :=
  s = ⟨.after v, stack⟩ ∨ ∃ cs, s = ⟨.number cs, stack⟩ ∧ number? cs.reverse = some v

/-- Whether a value may start in a state. -/
def Starts (s : State) : Prop := ∀ c, c ≠ ']' → s.step c = s.begin c

variable {s t : State} {v : Json} {c : Char} {cs ds : List Char} {stack : List Frame}

@[simp] theorem steps_nil (s : State) : s.steps [] = some s := rfl

theorem steps_cons (h : s.step c = some t) : s.steps (c :: cs) = t.steps cs := by
  rw [steps, List.foldlM_cons, h]
  rfl

theorem steps_append (h : s.steps cs = some t) : s.steps (cs ++ ds) = t.steps ds := by
  rw [steps, List.foldlM_append]
  show (s.steps cs).bind _ = _
  rw [h]
  rfl

theorem Holds.step (h : s.Holds v stack) (hc : isNumberChar c = false) :
    s.step c = (⟨.after v, stack⟩ : State).step c := by
  rcases h with rfl | ⟨cs, rfl, hn⟩
  · rfl
  · simp only [State.step, hc, hn, Option.bind_some, Bool.false_eq_true, if_false]
    rfl

theorem Holds.finish? (h : s.Holds v []) : s.finish? = some v := by
  rcases h with rfl | ⟨cs, rfl, hn⟩
  · rfl
  · exact hn

theorem starts_value (stack : List Frame) : (⟨.value, stack⟩ : State).Starts := fun _ _ => rfl

theorem starts_itemOrEnd (stack : List Frame) : (⟨.itemOrEnd, stack⟩ : State).Starts := by
  intro c hc
  simp only [State.step, if_neg hc]

/-! ### Texts -/

theorem hexValue?_hexDigit : ∀ d < 16, Text.hexValue? (hexDigit d) = some d := by decide

/-- The two digits of a control character. -/
theorem steps_control {isKey : Bool} {acc : List Char} (hc : c.toNat < 0x20) :
    (⟨.chars isKey acc, stack⟩ : State).steps
      ['\\', 'u', '0', '0', hexDigit (c.toNat / 16), hexDigit (c.toNat % 16)] =
        some ⟨.chars isKey (c :: acc), stack⟩ := by
  have hhigh := hexValue?_hexDigit (c.toNat / 16) (by omega)
  have hlow := hexValue?_hexDigit (c.toNat % 16) (by omega)
  have hcode : c.toNat / 16 * 16 + c.toNat % 16 = c.toNat := by omega
  have hstart : (⟨.chars isKey acc, stack⟩ : State).steps ['\\', 'u', '0', '0'] =
      some ⟨.unit isKey acc none 2 0, stack⟩ := rfl
  have hsecond : (⟨.unit isKey acc none 2 0, stack⟩ : State).step (hexDigit (c.toNat / 16)) =
      some ⟨.unit isKey acc none 1 (c.toNat / 16), stack⟩ := by
    simp only [State.step, hhigh, Option.bind_some]
    simp
  have hthird : (⟨.unit isKey acc none 1 (c.toNat / 16), stack⟩ : State).step
      (hexDigit (c.toNat % 16)) = some ⟨.chars isKey (c :: acc), stack⟩ := by
    simp only [State.step, hlow, Option.bind_some, Nat.le_refl, if_true, endUnit, hcode]
    rw [if_neg (by omega), if_neg (by omega), Char.ofNat_toNat]
  show (⟨.chars isKey acc, stack⟩ : State).steps (['\\', 'u', '0', '0'] ++
    [hexDigit (c.toNat / 16), hexDigit (c.toNat % 16)]) = _
  rw [steps_append hstart, steps_cons hsecond, steps_cons hthird, steps_nil]

/-- **A character of a text is read as it was.** -/
theorem steps_escaped (isKey : Bool) (acc : List Char) (c : Char) :
    (⟨.chars isKey acc, stack⟩ : State).steps (escaped c) =
      some ⟨.chars isKey (c :: acc), stack⟩ := by
  unfold escaped
  split_ifs with h₁ h₂ h₃ h₄ h₅ h₆ h₇ h₈
  · rw [h₁]; rfl
  · rw [h₂]; rfl
  · rw [h₃]; rfl
  · rw [h₄]; rfl
  · rw [h₅]; rfl
  · rw [h₆]; rfl
  · rw [h₇]; rfl
  · exact steps_control h₈
  · refine steps_cons ?_
    simp only [State.step, if_neg h₁, if_neg h₂, if_neg h₈]

theorem steps_chars (isKey : Bool) (cs acc : List Char) :
    (⟨.chars isKey acc, stack⟩ : State).steps (cs.flatMap escaped) =
      some ⟨.chars isKey (cs.reverse ++ acc), stack⟩ := by
  induction cs generalizing acc with
  | nil => rfl
  | cons c cs ih =>
    rw [List.flatMap_cons, steps_append (steps_escaped isKey acc c), ih, List.reverse_cons,
      List.append_assoc]
    rfl

/-- A quoted text is the name of a field or a value. -/
theorem steps_quoted {isKey : Bool} (h : s.step '"' = some ⟨.chars isKey [], stack⟩) (x : String) :
    s.steps (quoted x) =
      some (if isKey then ⟨.colon x, stack⟩ else ⟨.after (.text x), stack⟩) := by
  have hend : (⟨.chars isKey (x.toList.reverse ++ []), stack⟩ : State).step '"' =
      some (if isKey then ⟨.colon x, stack⟩ else ⟨.after (.text x), stack⟩) := by
    show some (endText _ _ _) = _
    rw [endText, List.append_nil, List.reverse_reverse, String.ofList_toList]
  rw [quoted, List.cons_append, steps_cons h, steps_append (steps_chars isKey _ _),
    steps_cons hend, steps_nil]

/-! ### Numbers -/

theorem isDigit_of_number? (h : number? (c :: cs) = some v) : c = '-' ∨ Text.isDigit c := by
  by_contra hc
  rw [not_or, Bool.not_eq_true] at hc
  have hspan : Text.spanDigits (c :: cs) = ([], c :: cs) := by
    simp [Text.spanDigits, hc.2]
  simp [number?, hc.1, hspan] at h

theorem steps_number {w acc : List Char} (hc : ∀ c ∈ w, isNumberChar c) :
    (⟨.number acc, stack⟩ : State).steps w = some ⟨.number (w.reverse ++ acc), stack⟩ := by
  induction w generalizing acc with
  | nil => rfl
  | cons c w ih =>
    have hs : (⟨.number acc, stack⟩ : State).step c = some ⟨.number (c :: acc), stack⟩ := by
      simp only [State.step, hc c List.mem_cons_self, if_true]
    rw [steps_cons hs, ih fun d hd => hc d (List.mem_cons_of_mem _ hd), List.reverse_cons,
      List.append_assoc]
    rfl

/-! ### Values -/

/-- Whether the automaton holds a value behind its characters, with room for so many lists and
records. -/
def Reads (n : Nat) (v : Json) : Prop :=
  ∀ s : State, s.Starts → s.stack.length + n ≤ maxDepth →
    ∃ t, s.steps v.compactChars = some t ∧ t.Holds v s.stack

theorem reads_text (n : Nat) (x : String) : Reads n (.text x) := by
  intro s hs _
  have hq : s.step '"' = some ⟨.chars false [], s.stack⟩ := by rw [hs _ (by decide)]; rfl
  exact ⟨_, steps_quoted hq x, Or.inl rfl⟩

theorem reads_null (n : Nat) : Reads n .null := by
  intro s hs _
  have hn : s.step 'n' = some ⟨.word ['u', 'l', 'l'] .null, s.stack⟩ := by
    rw [hs _ (by decide)]; rfl
  exact ⟨⟨.after .null, s.stack⟩, steps_cons hn, Or.inl rfl⟩

theorem reads_flag (n : Nat) (b : Bool) : Reads n (.flag b) := by
  intro s hs _
  cases b with
  | true =>
    have ht : s.step 't' = some ⟨.word ['r', 'u', 'e'] (.flag true), s.stack⟩ := by
      rw [hs _ (by decide)]; rfl
    exact ⟨⟨.after (.flag true), s.stack⟩, steps_cons ht, Or.inl rfl⟩
  | false =>
    have hf : s.step 'f' = some ⟨.word ['a', 'l', 's', 'e'] (.flag false), s.stack⟩ := by
      rw [hs _ (by decide)]; rfl
    exact ⟨⟨.after (.flag false), s.stack⟩, steps_cons hf, Or.inl rfl⟩

theorem begin_number (h : c = '-' ∨ Text.isDigit c) :
    s.begin c = some ⟨.number [c], s.stack⟩ := by
  have hne : ∀ d, (d = '-' ∨ Text.isDigit d) = False → c ≠ d := by
    rintro d hd rfl
    rwa [hd] at h
  have hspace : isSpace c = false := by
    simp [isSpace, hne ' ' (by decide), hne '\t' (by decide), hne '\n' (by decide),
      hne '\r' (by decide)]
  rw [begin, hspace, if_neg (by decide), if_neg (hne _ (by decide)), if_neg (hne _ (by decide)),
    if_neg (hne _ (by decide)), if_neg (hne _ (by decide)), if_neg (hne _ (by decide)),
    if_neg (hne _ (by decide)), if_pos h]

theorem reads_number {n : Nat} {w : String} (h : number? w.toList = some (.number w))
    (hc : ∀ c ∈ w.toList, isNumberChar c) : Reads n (.number w) := by
  intro s hs _
  obtain ⟨c, cs, hw⟩ : ∃ c cs, w.toList = c :: cs := by
    cases hl : w.toList with
    | nil => rw [hl] at h; simp [number?, Text.spanDigits] at h
    | cons c cs => exact ⟨c, cs, rfl⟩
  have hfirst : c = '-' ∨ Text.isDigit c := isDigit_of_number? (hw ▸ h)
  have hb : s.step c = some ⟨.number [c], s.stack⟩ := by
    rw [hs c, begin_number hfirst]
    rintro rfl
    exact absurd hfirst (by decide)
  rw [hw] at hc
  refine ⟨⟨.number (cs.reverse ++ [c]), s.stack⟩, ?_, Or.inr ⟨_, rfl, ?_⟩⟩
  · rw [compactChars, hw, steps_cons hb]
    exact steps_number fun d hd => hc d (List.mem_cons_of_mem _ hd)
  · rw [List.reverse_append, List.reverse_reverse, List.reverse_singleton, List.singleton_append,
      ← hw]
    exact h

/-- The items behind the first one of a list. -/
theorem steps_compactItems {n : Nat} {vs : List Json} (h : ∀ v ∈ vs, Reads n v)
    (hroom : stack.length + 1 + n ≤ maxDepth) {w : Json} {items : List Json}
    (hs : s.Holds w (.list items :: stack)) :
    s.steps (compactItems vs) = some ⟨.after (.list ((w :: items).reverse ++ vs)), stack⟩ := by
  induction vs generalizing s w items with
  | nil =>
    have hend : s.step ']' = some ⟨.after (.list (w :: items).reverse), stack⟩ := by
      rw [hs.step (by decide)]; rfl
    rw [compactItems, steps_cons hend, List.append_nil, steps_nil]
  | cons v vs ih =>
    have hcomma : s.step ',' = some ⟨.value, .list (w :: items) :: stack⟩ := by
      rw [hs.step (by decide)]; rfl
    obtain ⟨t, ht, hv⟩ := h v List.mem_cons_self ⟨.value, .list (w :: items) :: stack⟩
      (starts_value _) (by simpa using hroom)
    rw [compactItems, List.cons_append, steps_cons hcomma, steps_append ht,
      ih (fun u hu => h u (List.mem_cons_of_mem _ hu)) hv]
    simp

/-- A field behind the name of which its value follows. -/
theorem steps_field {n : Nat} {k : String} {fields : List (String × Json)} (h : Reads n v)
    (hroom : stack.length + 1 + n ≤ maxDepth)
    (hs : s.step '"' = some ⟨.chars true [], .record fields :: stack⟩) :
    ∃ t, s.steps (quoted k ++ ':' :: compactChars v) = some t ∧
      t.Holds v (.field fields k :: stack) := by
  have hcolon : (⟨.colon k, .record fields :: stack⟩ : State).step ':' =
      some ⟨.value, .field fields k :: stack⟩ := rfl
  obtain ⟨t, ht, hv⟩ := h ⟨.value, .field fields k :: stack⟩ (starts_value _) (by simpa using hroom)
  refine ⟨t, ?_, hv⟩
  rw [steps_append (steps_quoted hs k), if_pos rfl, steps_cons hcolon, ht]

theorem put_of_nodup {w : Json} {k : String} {fields fs : List (String × Json)}
    (hk : ((fields ++ (k, w) :: fs).map (·.1)).Nodup) :
    Assoc.put k w fields = fields ++ [(k, w)] := by
  refine Assoc.put_of_not_mem ?_ w
  rw [List.map_append, List.map_cons] at hk
  intro hmem
  exact (List.nodup_append.mp hk).2.2 k hmem k List.mem_cons_self rfl

/-- The fields behind the first one of a record. -/
theorem steps_compactFields {n : Nat} {fs : List (String × Json)} (h : ∀ f ∈ fs, Reads n f.2)
    (hroom : stack.length + 1 + n ≤ maxDepth) {w : Json} {k : String}
    {fields : List (String × Json)} (hs : s.Holds w (.field fields k :: stack))
    (hk : ((fields ++ (k, w) :: fs).map (·.1)).Nodup) :
    s.steps (compactFields fs) = some ⟨.after (.record (fields ++ (k, w) :: fs)), stack⟩ := by
  induction fs generalizing s w k fields with
  | nil =>
    have hend : s.step '\x7d' = some ⟨.after (.record (fields ++ [(k, w)])), stack⟩ := by
      rw [hs.step (by decide), ← put_of_nodup hk]; rfl
    rw [compactFields, steps_cons hend, steps_nil]
  | cons f fs ih =>
    obtain ⟨l, v⟩ := f
    have hcomma : s.step ',' = some ⟨.key, .record (fields ++ [(k, w)]) :: stack⟩ := by
      rw [hs.step (by decide), ← put_of_nodup hk]; rfl
    have hquote : (⟨.key, .record (fields ++ [(k, w)]) :: stack⟩ : State).step '"' =
        some ⟨.chars true [], .record (fields ++ [(k, w)]) :: stack⟩ := rfl
    obtain ⟨t, ht, hv⟩ := steps_field (k := l) (h (l, v) List.mem_cons_self) hroom hquote
    have hk' : ((fields ++ [(k, w)] ++ (l, v) :: fs).map (·.1)).Nodup := by simpa using hk
    show s.steps (',' :: ((quoted l ++ ':' :: compactChars v) ++ compactFields fs)) = _
    rw [steps_cons hcomma, steps_append ht, ih (fun f hf => h f (List.mem_cons_of_mem _ hf)) hv hk']
    simp

theorem reads_list {n : Nat} {vs : List Json} (h : ∀ v ∈ vs, Reads n v) :
    Reads (n + 1) (.list vs) := by
  intro s hs hroom
  have hopen : s.step '[' = some ⟨.itemOrEnd, .list [] :: s.stack⟩ := by
    rw [hs _ (by decide)]
    show s.push _ _ = _
    rw [push, if_pos (by omega)]
  cases vs with
  | nil => exact ⟨⟨.after (.list []), s.stack⟩, steps_cons hopen, Or.inl rfl⟩
  | cons v vs =>
    obtain ⟨t, ht, hv⟩ := h v List.mem_cons_self _ (starts_itemOrEnd (.list [] :: s.stack))
      (by rw [List.length_cons]; omega)
    refine ⟨⟨.after (.list (v :: vs)), s.stack⟩, ?_, Or.inl rfl⟩
    rw [compactChars, List.cons_append, steps_cons hopen, steps_append ht]
    exact steps_compactItems (fun u hu => h u (List.mem_cons_of_mem _ hu)) (by omega) hv

theorem reads_record {n : Nat} {fs : List (String × Json)} (hk : (fs.map (·.1)).Nodup)
    (h : ∀ f ∈ fs, Reads n f.2) : Reads (n + 1) (.record fs) := by
  intro s hs hroom
  have hopen : s.step '\x7b' = some ⟨.keyOrEnd, .record [] :: s.stack⟩ := by
    rw [hs _ (by decide)]
    show s.push _ _ = _
    rw [push, if_pos (by omega)]
  cases fs with
  | nil => exact ⟨⟨.after (.record []), s.stack⟩, steps_cons hopen, Or.inl rfl⟩
  | cons f fs =>
    obtain ⟨k, v⟩ := f
    have hquote : (⟨.keyOrEnd, .record [] :: s.stack⟩ : State).step '"' =
        some ⟨.chars true [], .record [] :: s.stack⟩ := rfl
    obtain ⟨t, ht, hv⟩ := steps_field (k := k) (h (k, v) List.mem_cons_self) (by omega) hquote
    refine ⟨⟨.after (.record ((k, v) :: fs)), s.stack⟩, ?_, Or.inl rfl⟩
    show s.steps ('\x7b' :: ((quoted k ++ ':' :: compactChars v) ++ compactFields fs)) = _
    rw [steps_cons hopen, steps_append ht]
    exact steps_compactFields (fun f hf => h f (List.mem_cons_of_mem _ hf)) (by omega) hv hk

theorem reads_of_writable {n : Nat} {v : Json} (h : Writable n v) : Reads n v := by
  induction h with
  | null => exact reads_null _
  | flag b => exact reads_flag _ b
  | number h hc => exact reads_number h hc
  | text s => exact reads_text _ s
  | list _ ih => exact reads_list ih
  | record hk _ ih => exact reads_record hk ih

end State

/-- **What is written is read again**, if it does not nest too deep. -/
theorem read?_compact {v : Json} (h : Writable maxDepth v) : read? v.compact = some v := by
  obtain ⟨t, ht, hv⟩ := State.reads_of_writable h ⟨.value, []⟩ (State.starts_value [])
    (by simp)
  rw [read?, compact, String.toList_ofList]
  show (State.steps _ _).bind _ = _
  rw [ht, Option.bind_some, hv.finish?]

/-! ### Whole numbers -/

variable {n depth : Nat}

theorem number?_digits (h : n < 2 ^ 64) :
    number? (Text.digits n).toList = some (.number (Text.digits n)) := by
  have hspan : Text.spanDigits (Text.digits n).toList = ((Text.digits n).toList, []) := by
    have hall : ∀ c ∈ (Text.digits n).toList, Text.isDigit c = true :=
      fun _ => Text.isDigit_of_mem_digits
    rw [Text.spanDigits, List.takeWhile_eq_self_iff.mpr hall, List.dropWhile_eq_nil_iff.mpr hall]
  have hhuge := Text.isHuge_digits h
  have htext : Text.digits n = String.ofList (Text.digits n).toList := String.ofList_toList.symm
  rw [htext, String.toList_ofList]
  rcases Text.digits_cases n with hz | ⟨c, cs, hcs, hc⟩
  · rw [hz]
    rfl
  · have hminus : c ≠ '-' := by
      rintro rfl
      have hdigit : Text.isDigit '-' := Text.isDigit_of_mem_digits (n := n) (by simp [hcs])
      exact absurd hdigit (by decide)
    rw [hcs] at hspan hhuge ⊢
    simp [number?, hspan, hhuge, hminus, hc, Text.power?]

theorem writable_ofNat (h : n < 2 ^ 64) : Writable depth (.ofNat n) := by
  refine .number (number?_digits h) ?_
  intro c hc
  rw [isNumberChar, Text.isDigit_of_mem_digits hc]
  rfl

theorem asUnsigned?_ofNat (h : n < 2 ^ 64) : (ofNat n).asUnsigned? = some n := by
  rw [ofNat, asUnsigned?, Text.natural?_digits]
  exact if_pos h

end Json

end PathRouter

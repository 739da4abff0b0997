import PathRouter.Matcher
import PathRouter.Template.Basic

/-!
# The matcher of a template

The paths that a template matches are given by a pattern: its segments up to letter case, each
behind a slash, and perhaps one more slash at the end; a parameter takes one or more characters of
its type. The pattern is given twice, as a pattern (`pattern`) and as the text that stands for it
(`matcherText`), and the text is read as the pattern (`read_matcherText`), for all segments.
-/

namespace PathRouter.Template

open Pattern

/-- The settings of a template's pattern: letter case does not count. -/
def flags : Flags := { ignoreCase := true }

/-- The pattern of one character, up to letter case. -/
def charPattern (c : Char) : Pattern := one (CharSet.single c).folded

/-- The characters that the values of a type are made of. -/
def typeSet : ValueType → CharSet
  | .untyped => (CharSet.empty.union (CharSet.single '/')).folded.compl
  | .str =>
    (((((((((CharSet.empty.union (CharSet.range 'A' 'Z')).union (CharSet.range 'a' 'z')).union
      (CharSet.range '0' '9')).union (CharSet.single '-')).union (CharSet.single '_')).union
      (CharSet.single '.')).union (CharSet.single '+')).union (CharSet.single '~')).union
      (CharSet.single '?')).union (CharSet.single '!') |>.folded
  | .int => (CharSet.empty.union (CharSet.range '0' '9')).folded
  | .float => ((CharSet.empty.union (CharSet.range '0' '9')).union (CharSet.single '.')).folded

/-- The pattern of a value of a type. -/
def typePattern (type : ValueType) : Pattern := repeated 1 none true (one (typeSet type))

/-- The patterns of segments, each behind a slash; `index` groups are before them. -/
def segmentPatterns (index : Nat) : List Segment → List Pattern
  | [] => []
  | s :: ss =>
    match s.kind with
    | .literal => charPattern '/' :: s.name.toList.map charPattern ++ segmentPatterns index ss
    | .param =>
      charPattern '/' :: group (index + 1) (typePattern s.type) :: segmentPatterns (index + 1) ss

/-- The pattern of a template. -/
def pattern (segments : List Segment) : Pattern :=
  seqAll (look .textStart :: segmentPatterns 0 segments ++
    [repeated 0 (some 1) true (charPattern '/'), look .textEnd])

/-- A character in the text of a pattern that matches just it. -/
def quotedChar (c : Char) : List Char := if isMeta c then ['\\', c] else [c]

/-- The text of the pattern of a value of a type. -/
def typeText : ValueType → List Char
  | .untyped => ['(', '[', '^', '/', ']', '+', ')']
  | .str => ['(', '[', 'A', '-', 'Z', 'a', '-', 'z', '0', '-', '9', '\\', '-', '_', '.', '+', '~',
      '?', '!', ']', '+', ')']
  | .int => ['(', '[', '0', '-', '9', ']', '+', ')']
  | .float => ['(', '[', '0', '-', '9', '.', ']', '+', ')']

/-- The text of the pattern of a segment. -/
def segmentText (s : Segment) : List Char :=
  match s.kind with
  | .literal => s.name.toList.flatMap quotedChar
  | .param => typeText s.type

/-- The text of the patterns of segments, each behind a slash. -/
def segmentTexts (segments : List Segment) : List Char :=
  segments.flatMap fun s => '/' :: segmentText s

/-- The text of the pattern of a template. -/
def matcherText (segments : List Segment) : String :=
  String.ofList (['(', '?', 'i', ')', '^'] ++ segmentTexts segments ++ ['/', '?', '$'])

/-! ### The text is read as the pattern -/

/-- What has been read, with patterns added as items of a height. -/
def added (p : Progress) (height : Nat) (q : Pattern) : Progress :=
  { p with level := p.level.add (.part q height) }

/-- One step of the reader. -/
theorem read_next {p p' : Progress} {cs : List Char} (rest : List Char)
    (h : p.step cs = some (.inl p', rest)) (hl : rest.length < cs.length) :
    Text.iterate Progress.step p cs = Text.iterate Progress.step p' rest :=
  Text.iterate_of_next h hl

theorem iterate_quotedChar {p : Progress} (hp : p.flags = flags) (c : Char) (rest : List Char) :
    Text.iterate Progress.step p (quotedChar c ++ rest) =
      Text.iterate Progress.step (added p 0 (charPattern c)) rest := by
  by_cases hm : isMeta c
  · refine Text.iterate_of_next ?_ (by
      simp only [quotedChar, hm, if_true, List.length_append, List.length_cons, List.length_nil]
      omega)
    have h : c ≠ 'x' ∧ c ≠ 'u' ∧ c ≠ 'U' ∧ c ≠ 'p' ∧ c ≠ 'P' := by
      refine ⟨?_, ?_, ?_, ?_, ?_⟩ <;> (rintro rfl; exact absurd hm (by decide))
    simp [quotedChar, hm, Progress.step, skip, hp, flags, escape?, isEscapable, h,
      Progress.addPattern, Atom.pattern?, charPattern?, closeCase, added, charPattern]
  · refine Text.iterate_of_next ?_ (by simp [quotedChar, hm])
    have h : c ∉ ['\\', '.', '+', '*', '?', '(', ')', '|', '[', ']', '\x7b', '\x7d', '^', '$', '#',
        '&', '-', '~'] := by simpa [isMeta] using hm
    simp only [List.mem_cons, not_or, List.not_mem_nil, not_false_eq_true, and_true] at h
    simp [quotedChar, hm, Progress.step, skip, hp, flags, h, Progress.addPattern, charPattern?,
      closeCase, added, charPattern]

theorem skip_flags (cs : List Char) : skip flags cs = cs := rfl

theorem openBracket_of_ne {c : Char} (h : c ≠ '^' ∧ c ≠ '-' ∧ c ≠ ']') (cs : List Char) :
    openBracket? flags (c :: cs) = some (⟨false, none, {}⟩, c :: cs) := by
  have hc : Text.iterate (hyphens flags) {} (c :: cs) = some (({} : Items), c :: cs) :=
    Text.iterate_of_done (by simp [hyphens, h])
  simp [openBracket?, skip_flags, h, hc]

/-- One step inside a bracket that stands in no other one. -/
theorem bracket_next {b b' : Bracket} {cs : List Char} (rest : List Char)
    (h : bracketStep flags (b, []) cs = some (.inl (b', []), rest)) (hl : rest.length < cs.length) :
    Text.iterate (bracketStep flags) (b, []) cs = Text.iterate (bracketStep flags) (b', []) rest :=
  Text.iterate_of_next h hl

theorem bracket_untyped (rest : List Char) :
    bracket? flags ('^' :: '/' :: ']' :: rest) = some (⟨typeSet .untyped, 1⟩, rest) := by
  have h : Text.iterate (hyphens flags) {} ('/' :: ']' :: rest) =
      some (({} : Items), '/' :: ']' :: rest) := Text.iterate_of_done rfl
  have h : openBracket? flags ('^' :: '/' :: ']' :: rest) =
      some (⟨true, none, {}⟩, '/' :: ']' :: rest) := by
    rw [openBracket?]
    simp only [skip_flags]
    exact congrArg (Option.bind · _) h
  rw [bracket?, h]
  show Text.iterate _ _ _ = _
  rw [bracket_next (']' :: rest) rfl (by simp), Text.iterate_of_done]
  rfl

theorem bracket_str (rest : List Char) :
    bracket? flags ('A' :: '-' :: 'Z' :: 'a' :: '-' :: 'z' :: '0' :: '-' :: '9' :: '\\' :: '-' ::
      '_' :: '.' :: '+' :: '~' :: '?' :: '!' :: ']' :: rest) = some (⟨typeSet .str, 2⟩, rest) := by
  rw [bracket?, openBracket_of_ne (by decide)]
  show Text.iterate _ _ _ = _
  rw [bracket_next ('a' :: _) rfl (by simp), bracket_next ('0' :: _) rfl (by simp),
    bracket_next ('\\' :: _) rfl (by simp), bracket_next ('_' :: _) rfl (by simp),
    bracket_next ('.' :: _) rfl (by simp), bracket_next ('+' :: _) rfl (by simp),
    bracket_next ('~' :: _) rfl (by simp), bracket_next ('?' :: _) rfl (by simp),
    bracket_next ('!' :: _) rfl (by simp), bracket_next (']' :: _) rfl (by simp),
    Text.iterate_of_done]
  rfl

theorem bracket_int (rest : List Char) :
    bracket? flags ('0' :: '-' :: '9' :: ']' :: rest) = some (⟨typeSet .int, 1⟩, rest) := by
  rw [bracket?, openBracket_of_ne (by decide)]
  show Text.iterate _ _ _ = _
  rw [bracket_next (']' :: _) rfl (by simp), Text.iterate_of_done]
  rfl

theorem bracket_float (rest : List Char) :
    bracket? flags ('0' :: '-' :: '9' :: '.' :: ']' :: rest) =
      some (⟨typeSet .float, 2⟩, rest) := by
  rw [bracket?, openBracket_of_ne (by decide)]
  show Text.iterate _ _ _ = _
  rw [bracket_next ('.' :: _) rfl (by simp), bracket_next (']' :: _) rfl (by simp),
    Text.iterate_of_done]
  rfl

/-- The height of the bracket in the text of a value of a type. -/
def typeHeight : ValueType → Nat
  | .untyped | .int => 1
  | .str | .float => 2

/-- What has been read, with a group for a value of a type. -/
def addedGroup (p : Progress) (type : ValueType) : Progress :=
  { added p (typeHeight type + 2) (group (p.count + 1) (typePattern type)) with
    count := p.count + 1 }

theorem iterate_typeText {p : Progress} (hp : p.flags = flags) (type : ValueType)
    (rest : List Char) :
    Text.iterate Progress.step p (typeText type ++ rest) =
      Text.iterate Progress.step (addedGroup p type) rest := by
  obtain ⟨level, around, f, count, names⟩ := p
  obtain rfl : f = flags := hp
  obtain ⟨inner, hin, hb⟩ : ∃ inner, typeText type = '(' :: '[' :: inner ++ ['+', ')'] ∧
      ∀ r, bracket? flags (inner ++ r) = some (⟨typeSet type, typeHeight type⟩, r) := by
    cases type
    · exact ⟨['^', '/', ']'], rfl, bracket_untyped⟩
    · exact ⟨['A', '-', 'Z', 'a', '-', 'z', '0', '-', '9', '\\', '-', '_', '.', '+', '~', '?',
        '!', ']'], rfl, bracket_str⟩
    · exact ⟨['0', '-', '9', ']'], rfl, bracket_int⟩
    · exact ⟨['0', '-', '9', '.', ']'], rfl, bracket_float⟩
  rw [hin]
  simp only [List.cons_append, List.append_assoc, List.nil_append]
  have hs : Progress.step ⟨{}, ⟨level, some (count + 1), flags⟩ :: around, flags, count + 1, names⟩
      ('[' :: (inner ++ '+' :: ')' :: rest)) =
        some (.inl ⟨⟨[.part (one (typeSet type)) (typeHeight type)], []⟩,
          ⟨level, some (count + 1), flags⟩ :: around, flags, count + 1, names⟩,
          '+' :: ')' :: rest) := by
    show ((bracket? flags (inner ++ '+' :: ')' :: rest)).map _) = _
    rw [hb]
    rfl
  exact (read_next ('[' :: (inner ++ '+' :: ')' :: rest)) rfl (by simp)).trans
    ((read_next _ hs (by simp only [List.length_cons, List.length_append]; omega)).trans
      ((read_next (')' :: rest) rfl (by simp)).trans (read_next rest rfl (by simp))))

/-- What has been read, with items of some patterns and heights and another number of groups. -/
def addedAll (p : Progress) (parts : List (Pattern × Nat)) (count : Nat) : Progress :=
  { p with
    level := ⟨(parts.map fun q => Item.part q.1 q.2).reverse ++ p.level.items, p.level.branches⟩,
    count }

theorem iterate_literal {p : Progress} (hp : p.flags = flags) (cs rest : List Char) :
    Text.iterate Progress.step p (cs.flatMap quotedChar ++ rest) =
      Text.iterate Progress.step
        (addedAll p (cs.map fun c => (charPattern c, 0)) p.count) rest := by
  induction cs generalizing p with
  | nil => rfl
  | cons c cs ih =>
    rw [List.flatMap_cons, List.append_assoc, iterate_quotedChar hp, ih (by exact hp)]
    simp [addedAll, added, Level.add]

/-- The text of a segment adds its patterns, of small height. -/
theorem iterate_segment {p : Progress} (hp : p.flags = flags) (s : Segment) :
    ∃ parts count, parts.map (·.1) ++ segmentPatterns count [] = segmentPatterns p.count [s] ∧
      (∀ q ∈ parts, q.2 ≤ 4) ∧
      (∀ ss, segmentPatterns p.count (s :: ss) = parts.map (·.1) ++ segmentPatterns count ss) ∧
      ∀ rest, Text.iterate Progress.step p ('/' :: segmentText s ++ rest) =
        Text.iterate Progress.step (addedAll p parts count) rest := by
  have slash : ∀ rest, Text.iterate Progress.step p ('/' :: rest) =
      Text.iterate Progress.step (added p 0 (charPattern '/')) rest :=
    fun rest => iterate_quotedChar hp '/' rest
  cases hk : s.kind with
  | literal =>
    refine ⟨(charPattern '/', 0) :: s.name.toList.map fun c => (charPattern c, 0), p.count,
      ?_, ?_, ?_, ?_⟩
    · simp [segmentPatterns, hk]
    · simp
    · simp [segmentPatterns, hk]
    · intro rest
      rw [List.cons_append, slash, segmentText, hk]
      show Text.iterate _ _ (s.name.toList.flatMap quotedChar ++ rest) = _
      rw [iterate_literal (by exact hp)]
      simp [addedAll, added, Level.add]
  | param =>
    refine ⟨[(charPattern '/', 0),
      (group (p.count + 1) (typePattern s.type), typeHeight s.type + 2)],
      p.count + 1, ?_, ?_, ?_, ?_⟩
    · simp [segmentPatterns, hk]
    · cases s.type <;> simp [typeHeight]
    · simp [segmentPatterns, hk]
    · intro rest
      rw [List.cons_append, slash, segmentText, hk]
      show Text.iterate _ _ (typeText s.type ++ rest) = _
      rw [iterate_typeText (by exact hp)]
      simp [addedAll, addedGroup, added, Level.add]

theorem iterate_segments {p : Progress} (hp : p.flags = flags) (ss : List Segment) :
    ∃ parts count, parts.map (·.1) = segmentPatterns p.count ss ∧ (∀ q ∈ parts, q.2 ≤ 4) ∧
      ∀ rest, Text.iterate Progress.step p (segmentTexts ss ++ rest) =
        Text.iterate Progress.step (addedAll p parts count) rest := by
  induction ss generalizing p with
  | nil => exact ⟨[], p.count, rfl, by simp, fun _ => rfl⟩
  | cons s ss ih =>
    obtain ⟨parts, count, -, hh, hs, hi⟩ := iterate_segment hp s
    obtain ⟨parts', count', hp', hh', hi'⟩ := @ih (addedAll p parts count) hp
    refine ⟨parts ++ parts', count', ?_, ?_, fun rest => ?_⟩
    · rw [hs, List.map_append, hp']
      rfl
    · simpa [or_imp, forall_and] using ⟨fun a b h => hh (a, b) h, fun a b h => hh' (a, b) h⟩
    · have : segmentTexts (s :: ss) ++ rest =
          '/' :: segmentText s ++ (segmentTexts ss ++ rest) := by
        simp [segmentTexts]
      rw [this, hi, hi']
      simp [addedAll]

/-- What has been read of a template's pattern before its first segment. -/
def begun : Progress := ⟨⟨[.part (look .textStart) 0, .switch], []⟩, [], flags, 0, []⟩

/-- What has been read of a template's pattern at its end. -/
def ended (p : Progress) : Progress :=
  added (added p 1 (repeated 0 (some 1) true (charPattern '/'))) 0 (look .textEnd)

theorem iterate_begun (rest : List Char) :
    Text.iterate Progress.step {} ('(' :: '?' :: 'i' :: ')' :: '^' :: rest) =
      Text.iterate Progress.step begun rest :=
  (read_next ('^' :: rest) rfl (by simp)).trans (read_next rest rfl (by simp))

theorem iterate_ended {p : Progress} (hf : p.flags = flags) (ha : p.around = []) :
    Text.iterate Progress.step p ['/', '?', '$'] = some ((ended p).level.close, []) := by
  obtain ⟨level, around, f, count, names⟩ := p
  obtain rfl : f = flags := hf
  obtain rfl : around = [] := ha
  exact (read_next ['?', '$'] rfl (by simp)).trans ((read_next ['$'] rfl (by simp)).trans
    ((read_next [] rfl (by simp)).trans (Text.iterate_of_done rfl)))

theorem foldl_max_le {bound : Nat} (parts : List (Pattern × Nat)) (h : ∀ q ∈ parts, q.2 ≤ bound)
    {n : Nat} (hn : n ≤ bound) : parts.foldl (fun h q => max h q.2) n ≤ bound := by
  induction parts generalizing n with
  | nil => exact hn
  | cons q qs ih =>
    exact ih (fun r hr => h r (List.mem_cons_of_mem _ hr))
      (Nat.max_le.mpr ⟨hn, h q List.mem_cons_self⟩)

theorem close_ended (parts : List (Pattern × Nat)) (count : Nat) (h : ∀ q ∈ parts, q.2 ≤ 4) :
    (ended (addedAll begun parts count)).level.close.1 =
        seqAll (look .textStart :: parts.map (·.1) ++
          [repeated 0 (some 1) true (charPattern '/'), look .textEnd]) ∧
      (ended (addedAll begun parts count)).level.close.2 ≤ 5 := by
  have hp : (ended (addedAll begun parts count)).level.items.reverse.filterMap Item.part? =
      (look .textStart, 0) :: (parts ++
        [(repeated 0 (some 1) true (charPattern '/'), 1), (look .textEnd, 0)]) := by
    have : (parts.map fun q => Item.part q.1 q.2).filterMap Item.part? = parts := by
      rw [List.filterMap_map]
      exact List.filterMap_some
    simp only [ended, added, addedAll, begun, Level.add, List.reverse_cons, List.reverse_append,
      List.reverse_reverse, List.reverse_nil, List.nil_append, List.append_assoc, List.cons_append,
      List.filterMap_append, List.filterMap_cons, List.filterMap_nil, this]
    rfl
  have hb : (ended (addedAll begun parts count)).level.close =
      (ended (addedAll begun parts count)).level.branch := rfl
  rw [hb, Level.branch, hp]
  refine ⟨by simp, ?_⟩
  have := foldl_max_le ((look .textStart, 0) :: (parts ++
    [(repeated 0 (some 1) true (charPattern '/'), 1), (look .textEnd, 0)])) (by
      simp only [List.mem_cons, List.mem_append, List.not_mem_nil, or_false]
      rintro q (rfl | hq | rfl | rfl)
      · simp
      · exact h q hq
      · simp
      · simp) (Nat.zero_le 4)
  dsimp only
  split <;> omega

/-- **The text of a template's pattern is read as the pattern.** -/
theorem read_matcherText (segments : List Segment) :
    Pattern.read? (matcherText segments) = some (pattern segments) := by
  obtain ⟨parts, count, hp, hh, hi⟩ := @iterate_segments begun rfl segments
  have hr : Text.iterate Progress.step {} (matcherText segments).toList =
      some ((ended (addedAll begun parts count)).level.close, []) := by
    rw [matcherText, String.toList_ofList]
    show Text.iterate Progress.step {} ('(' :: '?' :: 'i' :: ')' :: '^' :: (segmentTexts segments ++
      ['/', '?', '$'])) = _
    rw [iterate_begun, hi, iterate_ended rfl rfl]
  obtain ⟨h₁, h₂⟩ := close_ended parts count hh
  rw [Pattern.read?, hr]
  show (if (ended (addedAll begun parts count)).level.close.2 ≤ maxHeight then
    some (ended (addedAll begun parts count)).level.close.1 else none) = _
  rw [if_pos (Nat.le_trans h₂ (by decide)), h₁, hp]
  rfl

/-- The matcher of a template. -/
def matcher (segments : List Segment) : Matcher :=
  ⟨matcherText segments, pattern segments, read_matcherText segments⟩

end PathRouter.Template

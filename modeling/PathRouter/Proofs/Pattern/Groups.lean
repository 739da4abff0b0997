import Mathlib.Data.List.Basic
import PathRouter.Pattern.Reader

/-!
# The groups of a pattern that was read

A group gets the next number when its bracket opens, and stands in the pattern behind all that was
read before, so the numbers ascend. While a pattern is read, its parts are spread over the open
groups (`Progress.groups`). A step puts a number at their end, leaves them as they are, or, where a
part is repeated zero times, leaves some out (`Progress.Numbered.advances`). So in a pattern that
was read every number is that of one group at most, and they are counted from one
(`pairwise_groups_of_read`).
-/

namespace PathRouter

/-- What every step keeps holds at the end of a reading. -/
theorem Text.iterate_induction {σ α : Type} {step : σ → List Char → Option ((σ ⊕ α) × List Char)}
    {P : σ → Prop} {Q : α → Prop}
    (hnext : ∀ {s s' cs rest}, P s → step s cs = some (.inl s', rest) → P s')
    (hdone : ∀ {s a cs rest}, P s → step s cs = some (.inr a, rest) → Q a)
    {s : σ} {a : α} {cs rest : List Char} (hs : P s) (h : iterate step s cs = some (a, rest)) :
    Q a := by
  fun_induction iterate step s cs with
  | case1 s cs hstep => simp at h
  | case2 s cs b rest' hstep =>
    simp only [Option.some.injEq, Prod.mk.injEq] at h
    obtain ⟨rfl, -⟩ := h
    exact hdone hs hstep
  | case3 s cs s' rest' hstep hlt ih => exact ih (hnext hs hstep) h
  | case4 s cs s' rest' hstep hlt => simp at h

namespace Pattern

theorem groups_seqAll (ps : List Pattern) : (seqAll ps).groups = ps.flatMap groups := by
  induction ps with
  | nil => rfl
  | cons p ps ih =>
    cases ps with
    | nil => simp [seqAll]
    | cons q ps =>
      rw [seqAll, groups, ih]
      rfl

theorem groups_altAll (ps : List Pattern) : (altAll ps).groups = ps.flatMap groups := by
  induction ps with
  | nil => rfl
  | cons p ps ih =>
    cases ps with
    | nil => simp [altAll]
    | cons q ps =>
      rw [altAll, groups, ih]
      rfl

/-! ### The groups of what was read so far -/

/-- The groups of an item. -/
def Item.groups : Item → List Nat
  | part p _ => p.groups
  | switch => []

/-- The groups of a level, in the order in which they were read. -/
def Level.groups (l : Level) : List Nat :=
  l.branches.reverse.flatMap (fun b => b.1.groups) ++ l.items.reverse.flatMap Item.groups

/-- The groups read before an open group, and its own. -/
def OpenGroup.groups (g : OpenGroup) : List Nat := g.level.groups ++ g.index.toList

/-- All groups read so far, in the order of their opening brackets. -/
def Progress.groups (p : Progress) : List Nat :=
  p.around.reverse.flatMap OpenGroup.groups ++ p.level.groups

/-- The numbers of the groups ascend from one, and none comes after the last that was given. -/
def Progress.Numbered (p : Progress) : Prop := p.groups.Sublist (List.range' 1 p.count)

namespace Level

variable {l l' : Level}

theorem groups_add (l : Level) (i : Item) : (l.add i).groups = l.groups ++ i.groups := by
  simp [groups, add]

theorem groups_branch (l : Level) : l.branch.1.groups = l.items.reverse.flatMap Item.groups := by
  show (seqAll ((l.items.reverse.filterMap Item.part?).map (·.1))).groups = _
  rw [groups_seqAll]
  induction l.items.reverse with
  | nil => rfl
  | cons i is ih =>
    cases i with
    | part p h => simpa [Item.part?, Item.groups] using ih
    | switch => exact ih

/-- Closing a level keeps its groups. -/
theorem groups_close (l : Level) : l.close.1.groups = l.groups := by
  unfold close
  split
  · next h => rw [groups_branch, groups, h, List.flatMap_nil, List.nil_append]
  · rw [groups_altAll]
    simp only [List.map_append, List.map_cons, List.map_nil, List.flatMap_append,
      List.flatMap_map, List.flatMap_cons, List.flatMap_nil, List.append_nil]
    rw [groups_branch, groups]

/-- The next branch starts behind the groups of those before. -/
theorem groups_alternative (l : Level) : groups ⟨[], l.branch :: l.branches⟩ = l.groups := by
  simp [groups, groups_branch]

/-- Repeating an item keeps its groups, or leaves them out. -/
theorem groups_repeat? {least : Nat} {most : Option Nat} {greedy : Bool}
    (h : l.repeat? least most greedy = some l') : l'.groups.Sublist l.groups := by
  unfold repeat? at h
  split at h
  · next p height items hitems =>
    rw [Option.some.injEq] at h
    subst h
    simp only [groups, hitems, List.reverse_cons, List.flatMap_append, List.flatMap_cons,
      List.flatMap_nil, List.append_nil]
    refine (List.Sublist.refl _).append ((List.Sublist.refl _).append ?_)
    show (if most = some 0 then empty else repeated least most greedy p).groups.Sublist p.groups
    split_ifs
    · exact List.nil_sublist _
    · exact List.Sublist.refl _
  · simp at h

end Level

/-! ### Characters and sets have no groups -/

theorem groups_charPattern? {f : Flags} {c : Char} {isByte : Bool} {q : Pattern}
    (h : charPattern? f c isByte = some q) : q.groups = [] := by
  unfold charPattern? at h
  split_ifs at h
  rw [← Option.some.inj h, groups]

theorem Atom.groups_pattern? {f : Flags} {a : Atom} {q : Pattern} (h : a.pattern? f = some q) :
    q.groups = [] := by
  cases a with
  | char c isByte => exact groups_charPattern? h
  | set s =>
    rw [Atom.pattern?] at h
    split_ifs at h
    rw [← Option.some.inj h, groups]
  | look condition => rw [← Option.some.inj h, groups]

theorem groups_dotPattern? {f : Flags} {q : Pattern} (h : dotPattern? f = some q) :
    q.groups = [] := by
  unfold dotPattern? at h
  split_ifs at h <;> rw [← Option.some.inj h, groups]

/-- Any other character stands for itself, for a set or for a condition, and has no groups. -/
theorem groups_plain {f : Flags} {c : Char} {q : Pattern}
    (h : (if c = '.' then dotPattern? f
      else if c = '^' then some (look (if f.multiLine then .lineStart f.crlf else .textStart))
      else if c = '$' then some (look (if f.multiLine then .lineEnd f.crlf else .textEnd))
      else charPattern? f c false) = some q) : q.groups = [] := by
  by_cases hdot : c = '.'
  · exact groups_dotPattern? (by rwa [if_pos hdot] at h)
  rw [if_neg hdot] at h
  by_cases hstart : c = '^'
  · rw [if_pos hstart] at h
    rw [← Option.some.inj h, groups]
  rw [if_neg hstart] at h
  by_cases hend : c = '$'
  · rw [if_pos hend] at h
    rw [← Option.some.inj h, groups]
  · exact groups_charPattern? (by rwa [if_neg hend] at h)

namespace Progress

variable {p p' : Progress} {cs rest : List Char}

/-! ### One step -/

/-- What one step can do: open a group or switch settings, close a group, start the next branch, add
a part without groups, or repeat the last item. -/
inductive Advances (p : Progress) : Progress → Prop where
  | opened {p' : Progress} {cs rest : List Char} (h : p.open? cs = some (p', rest)) : Advances p p'
  | closed {p' : Progress} (h : p.close? = some p') : Advances p p'
  | alternative : Advances p { p with level := ⟨[], p.level.branch :: p.level.branches⟩ }
  | added (q : Pattern) (height : Nat) (h : q.groups = []) :
    Advances p { p with level := p.level.add (.part q height) }
  | repeated {p' : Progress} {least : Nat} {most : Option Nat} {lazy : Bool}
    (h : p.repeat? least most lazy = some p') : Advances p p'

theorem Advances.of_addPattern {q : Option Pattern} (hq : ∀ r, q = some r → r.groups = [])
    (h : p.addPattern q = some p') : p.Advances p' := by
  obtain ⟨r, hr, rfl⟩ := Option.map_eq_some_iff.mp h
  exact .added r 0 (hq r hr)

/-- A step that goes on with what an operation makes advances the reading if the operation does. -/
theorem exists_advances {made : Option Progress} {o : Progress ⊕ (Pattern × Nat)}
    (h : made.map (fun q => (Sum.inl q, cs)) = some (o, rest))
    (hmade : ∀ q, made = some q → p.Advances q) : ∃ p', o = .inl p' ∧ p.Advances p' := by
  obtain ⟨q, hq, heq⟩ := Option.map_eq_some_iff.mp h
  cases heq
  exact ⟨q, rfl, hmade q hq⟩

/-- A step advances the reading, or ends it at the end of the text with no group open. -/
theorem step_cases {o : Progress ⊕ (Pattern × Nat)} (hs : p.step cs = some (o, rest)) :
    (∃ p', o = .inl p' ∧ p.Advances p') ∨ (o = .inr p.level.close ∧ p.around = []) := by
  unfold Progress.step at hs
  cases hskip : skip p.flags cs with
  | nil =>
    simp only [hskip] at hs
    by_cases hend : p.around.isEmpty
    · rw [if_pos hend] at hs
      cases hs
      exact .inr ⟨rfl, List.isEmpty_iff.mp hend⟩
    · rw [if_neg hend] at hs
      cases hs
  | cons c tail =>
    simp only [hskip] at hs
    left
    -- one case for each character that means something, as the reader tells them apart
    by_cases hopen : c = '('
    · rw [if_pos hopen] at hs
      obtain ⟨⟨q, r⟩, ho, heq⟩ := Option.map_eq_some_iff.mp hs
      cases heq
      exact ⟨q, rfl, .opened ho⟩
    rw [if_neg hopen] at hs
    by_cases hclose : c = ')'
    · rw [if_pos hclose] at hs
      exact exists_advances hs fun q hq => .closed hq
    rw [if_neg hclose] at hs
    by_cases hbar : c = '|'
    · rw [if_pos hbar] at hs
      cases hs
      exact ⟨_, rfl, .alternative⟩
    rw [if_neg hbar] at hs
    by_cases hset : c = '['
    · rw [if_pos hset] at hs
      obtain ⟨⟨s, r⟩, -, heq⟩ := Option.map_eq_some_iff.mp hs
      cases heq
      exact ⟨_, rfl, .added _ _ rfl⟩
    rw [if_neg hset] at hs
    by_cases hmark : c = '?' ∨ c = '*' ∨ c = '+'
    · rw [if_pos hmark] at hs
      exact exists_advances hs fun q hq => .repeated hq
    rw [if_neg hmark] at hs
    by_cases hbrace : c = '\x7b'
    · rw [if_pos hbrace] at hs
      obtain ⟨⟨⟨least, most⟩, r⟩, -, hs⟩ := Option.bind_eq_some_iff.mp hs
      exact exists_advances hs fun q hq => .repeated hq
    rw [if_neg hbrace] at hs
    by_cases hescape : c = '\\'
    · rw [if_pos hescape] at hs
      obtain ⟨⟨a, r⟩, -, hs⟩ := Option.bind_eq_some_iff.mp hs
      exact exists_advances hs fun q =>
        .of_addPattern fun r hr => Atom.groups_pattern? hr
    · rw [if_neg hescape] at hs
      exact exists_advances hs fun q => .of_addPattern fun r hr => groups_plain hr

/-! ### The numbers -/

theorem groups_openGroup (p : Progress) (index : Option Nat) (flags : Flags) :
    (p.openGroup index flags).groups = p.groups ++ index.toList := by
  simp [groups, openGroup, OpenGroup.groups, Level.groups]

/-- A group that takes what it matches gets the next number. -/
theorem Numbered.openCapture (h : p.Numbered) (names : List String) :
    (p.openCapture names).Numbered := by
  have hgroups : (p.openCapture names).groups = p.groups ++ [p.count + 1] :=
    p.groups_openGroup (some (p.count + 1)) p.flags
  show (p.openCapture names).groups.Sublist (List.range' 1 (p.count + 1))
  rw [hgroups, List.range'_concat, Nat.one_mul, Nat.add_comm 1]
  exact h.append (List.Sublist.refl _)

/-- The numbers stay in order where neither the groups nor their count change. -/
theorem Numbered.of_groups_eq (h : p.Numbered) (hg : p'.groups = p.groups)
    (hc : p'.count = p.count) : p'.Numbered := by
  rw [Numbered, hg, hc]
  exact h

theorem Numbered.openNamed (h : p.Numbered) {name : String}
    (ho : (if p.names.contains name then none else some (p.openCapture (name :: p.names), cs)) =
      some (p', rest)) : p'.Numbered := by
  split_ifs at ho
  simp only [Option.some.injEq, Prod.mk.injEq] at ho
  exact ho.1 ▸ h.openCapture _

theorem Numbered.open? (h : p.Numbered) (ho : p.open? cs = some (p', rest)) : p'.Numbered := by
  unfold Progress.open? at ho
  split at ho
  -- the four brackets that look ahead or behind
  · simp at ho
  · simp at ho
  · simp at ho
  · simp at ho
  -- a name, with or without the letter in front
  · obtain ⟨⟨name, rest'⟩, -, ho⟩ := Option.bind_eq_some_iff.mp ho
    exact h.openNamed ho
  · obtain ⟨⟨name, rest'⟩, -, ho⟩ := Option.bind_eq_some_iff.mp ho
    exact h.openNamed ho
  · obtain ⟨⟨flags, seen, stop, rest'⟩, -, ho⟩ := Option.bind_eq_some_iff.mp ho
    dsimp only at ho
    split_ifs at ho
    · simp only [Option.some.injEq, Prod.mk.injEq] at ho
      rw [← ho.1]
      exact h.of_groups_eq (by simp [groups_openGroup]) rfl
    · simp only [Option.some.injEq, Prod.mk.injEq] at ho
      rw [← ho.1]
      exact h.of_groups_eq (by simp [groups, Level.groups_add, Item.groups]) rfl
  · simp only [Option.some.injEq, Prod.mk.injEq] at ho
    exact ho.1 ▸ h.openCapture _

/-- Closing a group puts its number in front of what is in it. -/
theorem Numbered.close? (h : p.Numbered) (hc : p.close? = some p') : p'.Numbered := by
  unfold Progress.close? at hc
  split at hc
  · simp at hc
  · next g around hg =>
    rw [Option.some.injEq] at hc
    rw [← hc]
    refine h.of_groups_eq ?_ rfl
    cases hi : g.index with
    | none => simp [groups, Level.groups_add, Item.groups, Level.groups_close, hg,
        OpenGroup.groups, hi]
    | some i => simp [groups, Level.groups_add, Item.groups, Level.groups_close, hg,
        OpenGroup.groups, hi, Pattern.groups]

theorem Numbered.repeat? (h : p.Numbered) {least : Nat} {most : Option Nat} {lazy : Bool}
    (hr : p.repeat? least most lazy = some p') : p'.Numbered := by
  obtain ⟨level, hl, rfl⟩ := Option.map_eq_some_iff.mp hr
  exact ((List.Sublist.refl _).append (Level.groups_repeat? hl)).trans h

/-- **A step keeps the numbers in order.** -/
theorem Numbered.advances (h : p.Numbered) (ha : p.Advances p') : p'.Numbered := by
  cases ha with
  | opened ho => exact h.open? ho
  | closed hc => exact h.close? hc
  | alternative => exact h.of_groups_eq (by simp [groups, Level.groups_alternative]) rfl
  | added q height hq =>
    exact h.of_groups_eq (by simp [groups, Level.groups_add, Item.groups, hq]) rfl
  | repeated hr => exact h.repeat? hr

/-- At the end of the text no group is open, and the pattern has the groups that were read. -/
theorem groups_close_level (h : p.around = []) : p.level.close.1.groups = p.groups := by
  rw [Level.groups_close, groups, h]
  rfl

end Progress

/-- **In a pattern that was read** the numbers of the groups ascend from one, so that each of them
is the number of one group only. -/
theorem pairwise_groups_of_read {s : String} {q : Pattern} (h : read? s = some q) :
    q.groups.Pairwise (· < ·) ∧ ∀ i ∈ q.groups, 1 ≤ i := by
  obtain ⟨⟨⟨q', height⟩, rest⟩, hread, h⟩ := Option.bind_eq_some_iff.mp h
  dsimp only at h
  split_ifs at h
  obtain rfl := Option.some.inj h
  have hstart : Progress.Numbered {} := List.nil_sublist _
  obtain ⟨n, hn⟩ : ∃ n, q'.groups.Sublist (List.range' 1 n) := by
    refine Text.iterate_induction (P := Progress.Numbered)
      (Q := fun a => ∃ n, a.1.groups.Sublist (List.range' 1 n)) ?_ ?_ hstart hread
    · intro p p' cs rest hp hs
      obtain ⟨p'', heq, hadv⟩ | ⟨heq, -⟩ := Progress.step_cases hs
      · cases heq
        exact hp.advances hadv
      · cases heq
    · intro p a cs rest hp hs
      obtain ⟨p'', heq, -⟩ | ⟨heq, hend⟩ := Progress.step_cases hs
      · cases heq
      · cases heq
        exact ⟨p.count, Progress.groups_close_level hend ▸ hp⟩
  refine ⟨List.Pairwise.sublist hn List.pairwise_lt_range', ?_⟩
  intro i hi
  exact (List.mem_range'_1.mp (hn.subset hi)).1

end Pattern

end PathRouter

import Mathlib.Data.List.Basic
import PathRouter.Pattern.Match

/-!
# What patterns take

The ways of a pattern from a position on, told by what it takes there: one character of a set
(`mem_run_one`), one or more of them (`mem_run_oneOrMore`), one or none (`mem_run_optional`), a
group, or one pattern after another. Where branches meet only one way for each end is kept, so that
a way of a sequence comes from ways of its parts (`mem_run_seqAll_cons`), and a sequence has some
way if its parts have (`run_seqAll_cons_ne_nil`), but not each way of its own.
-/

namespace PathRouter

namespace Scan

/-- The scan with some characters taken off the text after it. -/
def advance (s : Scan) (x : List Char) : Scan :=
  ⟨s.position + x.length, x.getLast?.or s.before, s.rest.drop x.length, s.taken⟩

@[simp] theorem advance_rest (s : Scan) (x : List Char) :
    (s.advance x).rest = s.rest.drop x.length := rfl

@[simp] theorem advance_taken (s : Scan) (x : List Char) : (s.advance x).taken = s.taken := rfl

@[simp] theorem advance_nil (s : Scan) : s.advance [] = s := rfl

theorem advance_cons (s : Scan) (c : Char) (x : List Char) :
    s.advance (c :: x) = (s.advance [c]).advance x := by
  cases x with
  | nil => rfl
  | cons d x =>
    simp only [advance, List.length_cons, List.length_nil, List.drop_drop, Scan.mk.injEq]
    refine ⟨by omega, ?_, by congr 1; omega, trivial⟩
    rw [List.getLast?_cons_cons]
    cases hx : (d :: x).getLast? with
    | none => simp at hx
    | some e => rfl

theorem mem_of_mem_firstPerEnd {t : Scan} {ts : List Scan} {seen : List Nat}
    (h : t ∈ firstPerEnd seen ts) : t ∈ ts := by
  induction ts generalizing seen with
  | nil => exact h
  | cons u ts ih =>
    rw [firstPerEnd] at h
    split_ifs at h
    · exact List.mem_cons_of_mem _ (ih h)
    · rcases List.mem_cons.mp h with rfl | h
      · exact List.mem_cons_self
      · exact List.mem_cons_of_mem _ (ih h)

/-- What is kept where branches meet is of one of them. -/
theorem mem_of_mem_merged {t : Scan} {bs : List (List Scan)} (h : t ∈ merged bs) :
    ∃ b ∈ bs, t ∈ b := by
  match bs, h with
  | [], h => simp [merged, firstPerEnd] at h
  | [b], h => exact ⟨b, by simp, h⟩
  | b :: c :: bs, h => exact List.mem_flatten.mp (mem_of_mem_firstPerEnd h)

theorem merged_ne_nil {t : Scan} {b : List Scan} {bs : List (List Scan)} (hb : b ∈ bs)
    (ht : t ∈ b) : merged bs ≠ [] := by
  match bs, hb with
  | [c], hb =>
    rw [List.mem_singleton] at hb
    subst hb
    exact List.ne_nil_of_mem ht
  | c :: d :: bs, hb =>
    have hm : t ∈ (c :: d :: bs).flatten := List.mem_flatten.mpr ⟨b, hb, ht⟩
    show firstPerEnd [] (c :: d :: bs).flatten ≠ []
    cases hf : (c :: d :: bs).flatten with
    | nil => rw [hf] at hm; simp at hm
    | cons u us => simp [firstPerEnd]

end Scan

namespace Pattern

variable {p q : Pattern} {ps : List Pattern} {s t u : Scan} {set : CharSet}

theorem mem_run_look {condition : LookAround} :
    t ∈ (look condition).run s ↔ condition.holds s.before s.rest.head? ∧ t = s := by
  rw [run]
  split_ifs with h <;> simp [h]

theorem mem_run_one :
    t ∈ (one set).run s ↔ ∃ c cs, s.rest = c :: cs ∧ set c ∧ t = s.advance [c] := by
  obtain ⟨position, before, rest, taken⟩ := s
  cases rest with
  | nil => simp [run]
  | cons c cs => by_cases hc : set c <;> simp [run, hc, Scan.advance]

theorem mem_run_seq (h : t ∈ (seq p q).run s) : ∃ u ∈ p.run s, t ∈ q.run u := by
  obtain ⟨b, hb, ht⟩ := Scan.mem_of_mem_merged h
  obtain ⟨u, hu, rfl⟩ := List.mem_map.mp hb
  exact ⟨u, hu, ht⟩

theorem run_seq_ne_nil (hu : u ∈ p.run s) (hq : q.run u ≠ []) : (seq p q).run s ≠ [] := by
  obtain ⟨t, ht⟩ := List.exists_mem_of_ne_nil _ hq
  exact Scan.merged_ne_nil (List.mem_map.mpr ⟨u, hu, rfl⟩) ht

/-- A way of patterns in sequence begins with a way of the first one. -/
theorem mem_run_seqAll_cons (h : t ∈ (seqAll (p :: ps)).run s) :
    ∃ u ∈ p.run s, t ∈ (seqAll ps).run u := by
  cases ps with
  | nil => exact ⟨t, h, by simp [seqAll, run]⟩
  | cons q ps => exact mem_run_seq h

theorem run_seqAll_cons_ne_nil (hu : u ∈ p.run s) (hps : (seqAll ps).run u ≠ []) :
    (seqAll (p :: ps)).run s ≠ [] := by
  cases ps with
  | nil => exact List.ne_nil_of_mem hu
  | cons q ps => exact run_seq_ne_nil hu hps

theorem mem_run_group {i : Nat} : t ∈ (group i p).run s ↔
    ∃ u ∈ p.run s, t = { u with taken := (i, ⟨s.rest, u.position - s.position⟩) :: u.taken } := by
  rw [run, List.mem_map]
  simp only [eq_comm]

/-- The scans that rounds of one character lead to. -/
theorem mem_explore_one {n : Nat} (hn : s.rest.length ≤ n) :
    t ∈ Scan.explore (one set).run true n [] s ↔
      ∃ x, (∀ c ∈ x, set c) ∧ x <+: s.rest ∧ t = s.advance x := by
  induction n generalizing s with
  | zero =>
    have hs : s.rest = [] := List.length_eq_zero_iff.mp (Nat.le_zero.mp hn)
    constructor
    · intro h
      exact ⟨[], by simp, List.nil_prefix, by simpa [Scan.explore] using h⟩
    · rintro ⟨x, -, hx, rfl⟩
      rw [hs, List.prefix_nil] at hx
      subst hx
      simp [Scan.explore]
  | succ n ih =>
    have hex : Scan.explore (one set).run true (n + 1) [] s =
        s :: ((one set).run s |>.filter fun t => s.position < t.position).foldl
          (Scan.explore (one set).run true n) [] := by simp [Scan.explore]
    rw [hex, List.mem_cons]
    constructor
    · rintro (rfl | h)
      · exact ⟨[], by simp, List.nil_prefix, rfl⟩
      · cases hr : s.rest with
        | nil => simp [run, hr] at h
        | cons c cs =>
          by_cases hc : set c
          · have hrun : (one set).run s = [s.advance [c]] := by
              simp [run, hr, hc, Scan.advance]
            rw [hrun, List.filter_cons_of_pos (by simp [Scan.advance])] at h
            have hl : (s.advance [c]).rest.length ≤ n := by
              simp only [Scan.advance_rest, hr, List.length_cons, List.length_drop] at hn ⊢
              omega
            obtain ⟨x, hx, hp, rfl⟩ := (ih hl).mp h
            refine ⟨c :: x, ?_, ?_, (s.advance_cons c x).symm⟩
            · intro d hd
              rcases List.mem_cons.mp hd with rfl | hd
              · exact hc
              · exact hx d hd
            · rw [Scan.advance_rest, hr] at hp
              simpa using hp
          · simp [run, hr, hc] at h
    · rintro ⟨x, hx, hp, rfl⟩
      cases x with
      | nil => exact Or.inl rfl
      | cons c x =>
        obtain ⟨cs, hcs⟩ := hp
        have hc : set c := hx c List.mem_cons_self
        have hr : s.rest = c :: (x ++ cs) := by rw [← hcs]; rfl
        have hrun : (one set).run s = [s.advance [c]] := by simp [run, hr, hc, Scan.advance]
        have hl : (s.advance [c]).rest.length ≤ n := by
          simp only [Scan.advance_rest, hr, List.length_cons, List.length_drop] at hn ⊢
          omega
        rw [hrun, List.filter_cons_of_pos (by simp [Scan.advance])]
        refine Or.inr ((ih hl).mpr ⟨x, ?_, ?_, s.advance_cons c x⟩)
        · exact fun d hd => hx d (List.mem_cons_of_mem _ hd)
        · simp [Scan.advance_rest, hr]

/-- **One or more characters of a set**: a run of them that the text begins with. -/
theorem mem_run_oneOrMore : t ∈ (repeated 1 none true (one set)).run s ↔
    ∃ x, x ≠ [] ∧ (∀ c ∈ x, set c) ∧ x <+: s.rest ∧ t = s.advance x := by
  have hrun : (repeated 1 none true (one set)).run s =
      Scan.merged (((one set).run s).map fun u =>
        if s.position < u.position then Scan.more (one set).run true u else [u]) := rfl
  cases hr : s.rest with
  | nil =>
    have : (one set).run s = [] := by simp [run, hr]
    rw [hrun, this]
    simp [Scan.merged, Scan.firstPerEnd]
  | cons c cs =>
    by_cases hc : set c
    · have hone : (one set).run s = [s.advance [c]] := by simp [run, hr, hc, Scan.advance]
      have hlt : s.position < (s.advance [c]).position := by simp [Scan.advance]
      rw [hrun, hone, List.map_singleton, if_pos hlt]
      show t ∈ (Scan.explore _ _ _ _ _).reverse ↔ _
      rw [List.mem_reverse, mem_explore_one (Nat.le_refl _), Scan.advance_rest, hr]
      constructor
      · rintro ⟨x, hx, hp, rfl⟩
        refine ⟨c :: x, by simp, ?_, by simpa using hp, (s.advance_cons c x).symm⟩
        intro d hd
        rcases List.mem_cons.mp hd with rfl | hd
        · exact hc
        · exact hx d hd
      · rintro ⟨x, hne, hx, hp, rfl⟩
        obtain ⟨d, x, rfl⟩ := List.exists_cons_of_ne_nil hne
        obtain ⟨rfl, hp⟩ := List.cons_prefix_cons.mp hp
        exact ⟨x, fun e he => hx e (List.mem_cons_of_mem _ he), by simpa using hp,
          s.advance_cons d x⟩
    · have : (one set).run s = [] := by simp [run, hr, hc]
      rw [hrun, this]
      simp only [List.map_nil, Scan.merged, List.flatten_nil, Scan.firstPerEnd, List.not_mem_nil,
        false_iff]
      rintro ⟨x, hne, hx, hp, -⟩
      obtain ⟨d, x, rfl⟩ := List.exists_cons_of_ne_nil hne
      obtain ⟨rfl, -⟩ := List.cons_prefix_cons.mp hp
      exact hc (hx d List.mem_cons_self)

/-- **One character of a set or none.** -/
theorem mem_run_optional : t ∈ (repeated 0 (some 1) true (one set)).run s ↔
    t ∈ (one set).run s ∨ t = s := by
  have hrun : (repeated 0 (some 1) true (one set)).run s =
      Scan.merged (((one set).run s).map fun u => [u]) ++ [s] := rfl
  have hm : Scan.merged (((one set).run s).map fun u => [u]) = (one set).run s := by
    obtain ⟨position, before, rest, taken⟩ := s
    cases rest with
    | nil => simp [run, Scan.merged, Scan.firstPerEnd]
    | cons c cs => by_cases hc : set c <;> simp [run, hc, Scan.merged, Scan.firstPerEnd]
  rw [hrun, hm, List.mem_append, List.mem_singleton]

/-- A pattern that has to begin with the text is found there or nowhere. -/
theorem search_seqAll_textStart (cs : List Char) :
    (seqAll (look .textStart :: ps)).search none cs =
      ((seqAll (look .textStart :: ps)).run ⟨0, none, cs, []⟩).head? := by
  have hrun : ∀ (c : Char) (ds : List Char),
      (seqAll (look .textStart :: ps)).run ⟨0, some c, ds, []⟩ = [] := by
    intro c ds
    rw [List.eq_nil_iff_forall_not_mem]
    intro t ht
    obtain ⟨u, hu, -⟩ := mem_run_seqAll_cons ht
    simp [mem_run_look, LookAround.holds] at hu
  have hlater : ∀ (ds : List Char) (c : Char),
      (seqAll (look .textStart :: ps)).search (some c) ds = none := by
    intro ds
    induction ds with
    | nil => intro c; simp [search, hrun]
    | cons d ds ih => intro c; simp [search, hrun, ih]
  cases cs with
  | nil => rfl
  | cons c cs =>
    rw [search]
    cases (seqAll (look .textStart :: ps)).run ⟨0, none, c :: cs, []⟩ with
    | nil => simp [hlater]
    | cons t ts => rfl

end Pattern

end PathRouter

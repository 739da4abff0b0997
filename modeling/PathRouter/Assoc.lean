/-!
# Association lists

Lists of pairs, each key once, in the order in which the keys were first set (`Assoc.put`) or with
ascending keys (`Assoc.sorted`). What is found under a key is what was put there last
(`lookup_put`). Of pairs with distinct keys each is found (`lookup_of_mem`), and none is lost when
they are sorted (`perm_sorted`).
-/

namespace PathRouter.Assoc

variable {κ ν : Type} [DecidableEq κ]

/-- The pairs with the value of one key set: in place if the key is there, else at the end. -/
def put (key : κ) (value : ν) : List (κ × ν) → List (κ × ν)
  | [] => [(key, value)]
  | (k, v) :: ps => if k = key then (k, value) :: ps else (k, v) :: put key value ps

/-- The pairs with the value of one key set, where the keys ascend. -/
def putSorted (key : String) (value : ν) : List (String × ν) → List (String × ν)
  | [] => [(key, value)]
  | (k, v) :: ps =>
    if k = key then (k, value) :: ps
    else if key < k then (key, value) :: (k, v) :: ps
    else (k, v) :: putSorted key value ps

/-- The pairs with ascending keys; of several with one key the last is kept. -/
def sorted (ps : List (String × ν)) : List (String × ν) :=
  ps.foldl (fun qs p => putSorted p.1 p.2 qs) []

theorem lookup_put [BEq κ] [LawfulBEq κ] (key k : κ) (value : ν) (ps : List (κ × ν)) :
    (put key value ps).lookup k = if k = key then some value else ps.lookup k := by
  induction ps with
  | nil =>
    by_cases h : k = key
    · simp [put, h]
    · simp [put, List.lookup_cons, beq_eq_false_iff_ne.mpr h, h]
  | cons p ps ih =>
    obtain ⟨k', v⟩ := p
    by_cases h : k' = key
    · subst h
      by_cases hk : k = k'
      · simp [put, hk]
      · simp [put, List.lookup_cons, beq_eq_false_iff_ne.mpr hk, hk]
    · by_cases hk : k = k'
      · subst hk
        simp [put, h]
      · simp only [put, h, if_false, List.lookup_cons, beq_eq_false_iff_ne.mpr hk, ih]

/-- The keys stay in place; a new key comes last. -/
theorem keys_put (key : κ) (value : ν) (ps : List (κ × ν)) :
    (put key value ps).map (·.1) =
      if key ∈ ps.map (·.1) then ps.map (·.1) else ps.map (·.1) ++ [key] := by
  induction ps with
  | nil => simp [put]
  | cons p ps ih =>
    obtain ⟨k, v⟩ := p
    by_cases h : k = key
    · simp [put, h]
    · simp only [put, h, if_false, List.map_cons, List.mem_cons, Ne.symm h, false_or, ih]
      split <;> simp

/-- What is found under a key was put there. -/
theorem mem_of_lookup {κ ν : Type} [BEq κ] [LawfulBEq κ] {ps : List (κ × ν)} {key : κ} {value : ν}
    (h : ps.lookup key = some value) : (key, value) ∈ ps := by
  obtain ⟨before, after, rfl, -⟩ := List.lookup_eq_some_iff.mp h
  simp

/-- Among distinct keys every value is found under its key. -/
theorem lookup_of_mem {κ ν : Type} [BEq κ] [LawfulBEq κ] {ps : List (κ × ν)}
    (h : (ps.map (·.1)).Nodup) {p : κ × ν} (hp : p ∈ ps) : ps.lookup p.1 = some p.2 := by
  induction ps with
  | nil => simp at hp
  | cons q ps ih =>
    rw [List.map_cons, List.nodup_cons] at h
    rcases List.mem_cons.mp hp with rfl | hp
    · exact List.lookup_cons_self
    · have hne : p.1 ≠ q.1 := by
        intro he
        exact h.1 (he ▸ List.mem_map_of_mem hp)
      rw [List.lookup_cons, beq_eq_false_iff_ne.mpr hne]
      exact ih h.2 hp

/-- A new key is added, wherever it is put. -/
theorem perm_putSorted {key : String} {ps : List (String × ν)} (h : key ∉ ps.map (·.1))
    (value : ν) : (putSorted key value ps).Perm ((key, value) :: ps) := by
  induction ps with
  | nil => exact .refl _
  | cons p ps ih =>
    obtain ⟨k, v⟩ := p
    rw [List.map_cons, List.mem_cons, not_or] at h
    rw [putSorted, if_neg (Ne.symm h.1)]
    split
    · exact .refl _
    · exact ((ih h.2).cons (k, v)).trans (.swap _ _ _)

/-- Sorting pairs with distinct keys loses none. -/
theorem perm_sorted {ps : List (String × ν)} (h : (ps.map (·.1)).Nodup) :
    (sorted ps).Perm ps := by
  -- the pairs that are sorted so far stand in front of those that are left
  suffices hall : ∀ (ps qs : List (String × ν)), ((qs ++ ps).map (·.1)).Nodup →
      (ps.foldl (fun qs p => putSorted p.1 p.2 qs) qs).Perm (qs ++ ps) from hall ps [] h
  intro ps
  induction ps with
  | nil =>
    intro qs _
    rw [List.append_nil]
    exact .refl qs
  | cons p ps ih =>
    intro qs hq
    have hmiddle : (qs ++ p :: ps).Perm (p :: (qs ++ ps)) := List.perm_middle
    have hnodup : ((p :: qs ++ ps).map (·.1)).Nodup := (hmiddle.map _).nodup_iff.mp hq
    have hnew : p.1 ∉ qs.map (·.1) := by
      intro hp
      rw [List.cons_append, List.map_cons, List.nodup_cons, List.map_append] at hnodup
      exact hnodup.1 (List.mem_append_left _ hp)
    have hput : (putSorted p.1 p.2 qs ++ ps).Perm (p :: qs ++ ps) :=
      (perm_putSorted hnew p.2).append_right ps
    exact (ih _ ((hput.map _).nodup_iff.mpr hnodup)).trans (hput.trans hmiddle.symm)

end PathRouter.Assoc

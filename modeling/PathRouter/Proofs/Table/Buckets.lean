import Mathlib.Data.List.Basic
import Mathlib.Data.String.Basic
import PathRouter.Assoc
import PathRouter.Table.Buckets

/-!
# Ascending buckets

Adding a route keeps the keys ascending (`ascending_insert`) and changes one bucket only
(`lookup_insert`), so that what is found under a key depends on the routes added under it and on
nothing else. Behind all keys of some buckets, adding is appending (`insert_of_lt`,
`insert_of_last`).
-/

namespace PathRouter

namespace Priority

variable {α : Type} (p : Priority)

/-- Items in the order of trying, from the order in which they were added. -/
def order (as : List α) : List α :=
  match p with
  | firstWins => as
  | lastWins => as.reverse

theorem order_nil : p.order ([] : List α) = [] := by cases p <;> rfl

theorem order_singleton (a : α) : p.order [a] = [a] := by cases p <;> rfl

theorem mem_order {a : α} {as : List α} : a ∈ p.order as ↔ a ∈ as := by cases p <;> simp [order]

theorem order_inj {as bs : List α} : p.order as = p.order bs ↔ as = bs := by
  cases p <;> simp [order]

theorem map_order {β : Type} (f : α → β) (as : List α) :
    (p.order as).map f = p.order (as.map f) := by
  cases p <;> simp [order]

/-- An item added last stands where the priority puts it. -/
theorem insert_order (a : α) (as : List α) : p.insert a (p.order as) = p.order (as ++ [a]) := by
  cases p <;> simp [order, insert]

theorem insert_nil (a : α) : p.insert a [] = [a] := by cases p <;> rfl

theorem insert_ne_nil (a : α) (as : List α) : p.insert a as ≠ [] := by cases p <;> simp [insert]

theorem mem_insert {a b : α} {as : List α} : b ∈ p.insert a as ↔ b = a ∨ b ∈ as := by
  cases p <;> simp [insert, or_comm]

theorem length_insert (a : α) (as : List α) : (p.insert a as).length = as.length + 1 := by
  cases p <;> simp [insert]

end Priority

namespace Buckets

/-- The keys ascend. -/
def Ascending (bs : Buckets) : Prop := bs.Pairwise fun b c => b.1 < c.1

variable {bs : Buckets} {priority : Priority} {key : String} {r : Route}

theorem lt_of_not_lt {k l : String} (h : ¬ k < l) (hne : k ≠ l) : l < k :=
  lt_of_le_of_ne (not_lt.mp h) hne.symm

/-- A bucket after adding a route is the one with the route or was there before. -/
theorem mem_insert_key {b : String × List Route} (h : b ∈ insert priority key r bs) :
    b.1 = key ∨ b ∈ bs := by
  induction bs with
  | nil => simp only [insert, List.mem_singleton] at h; exact Or.inl (by rw [h])
  | cons c bs ih =>
    obtain ⟨k, rs⟩ := c
    rw [insert] at h
    split_ifs at h with hk hlt
    · rcases List.mem_cons.mp h with rfl | h
      · exact Or.inl hk
      · exact Or.inr (List.mem_cons_of_mem _ h)
    · rcases List.mem_cons.mp h with rfl | h
      · exact Or.inl rfl
      · exact Or.inr h
    · rcases List.mem_cons.mp h with rfl | h
      · exact Or.inr List.mem_cons_self
      · exact (ih h).imp_right (List.mem_cons_of_mem _)

theorem ascending_insert (h : Ascending bs) : Ascending (insert priority key r bs) := by
  induction bs with
  | nil => simp [insert, Ascending]
  | cons c bs ih =>
    obtain ⟨k, rs⟩ := c
    obtain ⟨hk, hbs⟩ := List.pairwise_cons.mp h
    rw [insert]
    split_ifs with he hlt
    · exact List.pairwise_cons.mpr ⟨hk, hbs⟩
    · refine List.pairwise_cons.mpr ⟨fun b hb => ?_, h⟩
      rcases List.mem_cons.mp hb with rfl | hb
      · exact hlt
      · exact String.lt_trans hlt (hk b hb)
    · refine List.pairwise_cons.mpr ⟨fun b hb => ?_, ih hbs⟩
      rcases mem_insert_key hb with hb | hb
      · exact hb ▸ lt_of_not_lt hlt (Ne.symm he)
      · exact hk b hb

theorem lookup_cons_of_ne {k l : String} (h : k ≠ l) (rs : List Route) (bs : Buckets) :
    List.lookup k ((l, rs) :: bs) = bs.lookup k := by
  rw [List.lookup_cons, beq_eq_false_iff_ne.mpr h]

theorem lookup_map (f : List Route → List Route) (bs : Buckets) (k : String) :
    List.lookup k (bs.map fun b => (b.1, f b.2)) = (bs.lookup k).map f := by
  induction bs with
  | nil => rfl
  | cons b bs ih =>
    obtain ⟨l, rs⟩ := b
    rw [List.map_cons]
    by_cases hk : k = l
    · subst hk
      rw [List.lookup_cons_self, List.lookup_cons_self]
      rfl
    · rw [lookup_cons_of_ne hk, lookup_cons_of_ne hk, ih]

theorem lookup_eq_none (h : ∀ b ∈ bs, key < b.1) : bs.lookup key = none := by
  rw [List.lookup_eq_none_iff]
  intro b hb
  have := h b hb
  simpa using ne_of_lt this

/-- **Adding a route changes the bucket of its key only**, and there as the priority says. -/
theorem lookup_insert (h : Ascending bs) (k : String) :
    (insert priority key r bs).lookup k =
      if k = key then some (priority.insert r ((bs.lookup key).getD [])) else bs.lookup k := by
  induction bs with
  | nil =>
    by_cases hk : k = key
    · simp [insert, hk, priority.insert_nil]
    · rw [insert, lookup_cons_of_ne hk, if_neg hk]
  | cons c bs ih =>
    obtain ⟨l, rs⟩ := c
    obtain ⟨hl, hbs⟩ := List.pairwise_cons.mp h
    rw [insert]
    by_cases he : l = key
    · subst he
      by_cases hk : k = l
      · simp [hk]
      · rw [if_pos rfl, lookup_cons_of_ne hk, if_neg hk, lookup_cons_of_ne hk]
    rw [if_neg he]
    by_cases hlt : key < l
    · have hnone : List.lookup key ((l, rs) :: bs) = none := by
        refine lookup_eq_none fun b hb => ?_
        rcases List.mem_cons.mp hb with rfl | hb
        · exact hlt
        · exact String.lt_trans hlt (hl b hb)
      rw [if_pos hlt, hnone]
      by_cases hk : k = key
      · simp [hk, priority.insert_nil]
      · rw [lookup_cons_of_ne hk, if_neg hk]
    · rw [if_neg hlt, lookup_cons_of_ne (Ne.symm he)]
      by_cases hk : k = l
      · subst hk
        rw [List.lookup_cons_self, if_neg he, List.lookup_cons_self]
      · rw [lookup_cons_of_ne hk, lookup_cons_of_ne hk, ih hbs]

/-- What holds of a new route and of all routes under their keys holds after adding the route. -/
theorem forall_insert {P : String → Route → Prop} (h : ∀ b ∈ bs, ∀ s ∈ b.2, P b.1 s)
    (hr : P key r) : ∀ b ∈ insert priority key r bs, ∀ s ∈ b.2, P b.1 s := by
  induction bs with
  | nil =>
    intro b hb s hs
    simp only [insert, List.mem_singleton] at hb
    subst hb
    rw [List.mem_singleton.mp hs]
    exact hr
  | cons c bs ih =>
    obtain ⟨k, rs⟩ := c
    have hk := h (k, rs) List.mem_cons_self
    have hbs : ∀ b ∈ bs, ∀ s ∈ b.2, P b.1 s := fun b hb => h b (List.mem_cons_of_mem _ hb)
    rw [insert]
    split_ifs with he hlt
    · subst he
      intro b hb s hs
      rcases List.mem_cons.mp hb with rfl | hb
      · rcases priority.mem_insert.mp hs with rfl | hs
        · exact hr
        · exact hk s hs
      · exact hbs b hb s hs
    · intro b hb s hs
      rcases List.mem_cons.mp hb with rfl | hb
      · rw [List.mem_singleton.mp hs]
        exact hr
      · exact h b hb s hs
    · intro b hb s hs
      rcases List.mem_cons.mp hb with rfl | hb
      · exact hk s hs
      · exact ih hbs b hb s hs

theorem ne_nil_of_mem_insert (h : ∀ b ∈ bs, b.2 ≠ []) :
    ∀ b ∈ insert priority key r bs, b.2 ≠ [] := by
  induction bs with
  | nil => simp [insert]
  | cons c bs ih =>
    obtain ⟨k, rs⟩ := c
    have hbs : ∀ b ∈ bs, b.2 ≠ [] := fun b hb => h b (List.mem_cons_of_mem _ hb)
    intro b hb
    rw [insert] at hb
    split_ifs at hb with he hlt
    · rcases List.mem_cons.mp hb with rfl | hb
      · exact priority.insert_ne_nil r rs
      · exact hbs b hb
    · rcases List.mem_cons.mp hb with rfl | hb
      · simp
      · exact h b hb
    · rcases List.mem_cons.mp hb with rfl | hb
      · exact h _ List.mem_cons_self
      · exact ih hbs b hb

/-- A key behind all others gets a bucket at the end. -/
theorem insert_of_lt (h : ∀ b ∈ bs, b.1 < key) :
    insert priority key r bs = bs ++ [(key, [r])] := by
  induction bs with
  | nil => rfl
  | cons c bs ih =>
    have hk := h c List.mem_cons_self
    rw [insert, if_neg (ne_of_lt hk), if_neg (not_lt_of_gt hk),
      ih fun b hb => h b (List.mem_cons_of_mem _ hb)]
    rfl

/-- The bucket of the last key takes one more route. -/
theorem insert_of_last {rs : List Route} (h : ∀ b ∈ bs, b.1 < key) :
    insert priority key r (bs ++ [(key, rs)]) = bs ++ [(key, priority.insert r rs)] := by
  induction bs with
  | nil => simp [insert]
  | cons c bs ih =>
    have hk := h c List.mem_cons_self
    rw [List.cons_append, insert, if_neg (ne_of_lt hk), if_neg (not_lt_of_gt hk),
      ih fun b hb => h b (List.mem_cons_of_mem _ hb)]
    rfl

theorem routes_cons (b : String × List Route) (bs : Buckets) :
    routes (b :: bs) = b.2 ++ routes bs := List.flatMap_cons

theorem length_routes_insert :
    (insert priority key r bs).routes.length = bs.routes.length + 1 := by
  induction bs with
  | nil => rfl
  | cons c bs ih =>
    obtain ⟨k, rs⟩ := c
    rw [insert]
    split_ifs with he hlt
    · simp only [routes_cons, List.length_append, priority.length_insert]
      omega
    · simp only [routes_cons, List.length_append, List.length_singleton]
      omega
    · simp only [routes_cons, List.length_append, ih]
      omega

theorem mem_routes {s : Route} : s ∈ routes bs ↔ ∃ b ∈ bs, s ∈ b.2 := List.mem_flatMap

/-- Among distinct keys a bucket is what is found under its key. -/
theorem lookup_eq_some_iff (h : bs.Pairwise fun b c => b.1 ≠ c.1) {k : String} {rs : List Route} :
    bs.lookup k = some rs ↔ (k, rs) ∈ bs := by
  refine ⟨Assoc.mem_of_lookup, fun hb => ?_⟩
  have hkeys : (bs.map (·.1)).Nodup := List.pairwise_map.mpr h
  exact Assoc.lookup_of_mem hkeys hb

/-- In ascending buckets the bucket of a key is the one that is found under it. -/
theorem lookup_of_mem (h : Ascending bs) {b : String × List Route} (hb : b ∈ bs) :
    bs.lookup b.1 = some b.2 :=
  (lookup_eq_some_iff (h.imp ne_of_lt)).mpr hb

end Buckets

end PathRouter

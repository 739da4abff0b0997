/-!
# Reading by steps

A reader that goes through a text step by step, each step taking some characters off its front, is a
loop over the text (`iterate`). The loop ends with the text, so that it is a total function whatever
the step does: a step that takes no character and is not the last one ends the reading.
-/

namespace PathRouter.Text

variable {σ α : Type}

/-- Repeats a step that takes characters off the front of a text, from one state to the next, until
it gives a result. -/
def iterate (step : σ → List Char → Option ((σ ⊕ α) × List Char)) (s : σ) (cs : List Char) :
    Option (α × List Char) :=
  match step s cs with
  | none => none
  | some (.inr a, rest) => some (a, rest)
  | some (.inl s', rest) => if rest.length < cs.length then iterate step s' rest else none
termination_by cs.length

theorem iterate_of_next {step : σ → List Char → Option ((σ ⊕ α) × List Char)} {s s' : σ}
    {cs rest : List Char} (h : step s cs = some (.inl s', rest)) (hl : rest.length < cs.length) :
    iterate step s cs = iterate step s' rest := by
  rw [iterate, h]
  simp [hl]

theorem iterate_of_done {step : σ → List Char → Option ((σ ⊕ α) × List Char)} {s : σ} {a : α}
    {cs rest : List Char} (h : step s cs = some (.inr a, rest)) :
    iterate step s cs = some (a, rest) := by
  rw [iterate, h]

end PathRouter.Text

import PathRouter.Pattern.Match
import PathRouter.Pattern.Reader

/-!
# Matchers

A matcher is a pattern together with the text it is written as; two matchers are the same when their
texts are.
-/

namespace PathRouter

/-- The text of a pattern and the pattern that it writes. -/
structure Matcher where
  text : String
  pattern : Pattern
  reads : Pattern.read? text = some pattern

namespace Matcher

/-- The matcher with a text, if the text writes a pattern. -/
def ofText? (text : String) : Option Matcher :=
  match h : Pattern.read? text with
  | none => none
  | some pattern => some ⟨text, pattern, h⟩

/-- How many groups a match of the pattern reports: the number of its last one. A group before it
that is repeated zero times is left out of the pattern and still reported, without a value. -/
def groupCount (m : Matcher) : Nat := m.pattern.groups.foldl max 0

/-- What the groups take in the first match of a text. -/
def captures? (m : Matcher) (s : String) : Option (List (Option String)) := m.pattern.captures? s

theorem ext_text {m n : Matcher} (h : m.text = n.text) : m = n := by
  obtain ⟨t, p, hp⟩ := m
  obtain ⟨u, q, hq⟩ := n
  subst h
  obtain rfl : p = q := Option.some.inj (hp.symm.trans hq)
  rfl

instance : DecidableEq Matcher := fun m n =>
  if h : m.text = n.text then isTrue (ext_text h) else isFalse fun e => h (e ▸ rfl)

theorem ofText?_text (m : Matcher) : ofText? m.text = some m := by
  unfold ofText?
  split
  · next h => exact absurd (h.symm.trans m.reads) (by simp)
  · next p h => exact congrArg some (ext_text rfl)

theorem text_of_ofText? {t : String} {m : Matcher} (h : ofText? t = some m) : m.text = t := by
  unfold ofText? at h
  split at h
  · simp at h
  · simp only [Option.some.injEq] at h
    exact h ▸ rfl

end Matcher

end PathRouter

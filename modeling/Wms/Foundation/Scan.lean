import Mathlib

/-!
# Matches in a text

A matcher looks at the text from some place on, and at the character before that place. It says
what it finds there and how many characters that takes. All matches of a text are found from left
to right, and no two of them overlap.
-/

namespace Foundation.Scan

variable {α β : Type}

/-- What is found at a place, and its length. -/
abbrev Matcher (α β : Type) := Option α → List α → Option (β × ℕ)

/-- All matches in a text, of which some characters still belong to the last match. -/
def findAll (m : Matcher α β) : Option α → ℕ → List α → List β
  | _, _, [] => []
  | _, skip + 1, c :: cs => findAll m (some c) skip cs
  | before, 0, c :: cs =>
    match m before (c :: cs) with
    | some (b, n) => b :: findAll m (some c) (n - 1) cs
    | none => findAll m (some c) 0 cs

variable {m : Matcher α β}

/-- After a match the search goes on behind it. -/
theorem findAll_skip (c : α) (xs ys : List α) :
    ∃ before, findAll m (some c) xs.length (xs ++ ys) = findAll m before 0 ys := by
  induction xs generalizing c with
  | nil => exact ⟨some c, by simp⟩
  | cons x xs ih =>
    obtain ⟨before, h⟩ := ih x
    exact ⟨before, by simpa [findAll] using h⟩

/-- A match at the start of the text is the first one. -/
theorem findAll_match {before : Option α} {b : β} {xs ys : List α} (hxs : xs ≠ [])
    (h : m before (xs ++ ys) = some (b, xs.length)) :
    ∃ before', findAll m before 0 (xs ++ ys) = b :: findAll m before' 0 ys := by
  obtain ⟨c, cs, rfl⟩ := List.exists_cons_of_ne_nil hxs
  obtain ⟨before', hskip⟩ := findAll_skip (m := m) c cs ys
  refine ⟨before', ?_⟩
  rw [List.cons_append] at h ⊢
  rw [findAll, h]
  simpa using hskip

/-- Every match stands somewhere in the text. -/
theorem exists_of_mem_findAll {before : Option α} {skip : ℕ} {cs : List α} {b : β}
    (h : b ∈ findAll m before skip cs) :
    ∃ before' rest n, rest <:+ cs ∧ m before' rest = some (b, n) := by
  induction cs generalizing before skip with
  | nil => simp [findAll] at h
  | cons c cs ih =>
    have hlater : ∀ before skip, b ∈ findAll m before skip cs →
        ∃ before' rest n, rest <:+ c :: cs ∧ m before' rest = some (b, n) := by
      intro before skip hmem
      obtain ⟨before', rest, n, hsuffix, hmatch⟩ := ih hmem
      exact ⟨before', rest, n, hsuffix.trans (List.suffix_cons c cs), hmatch⟩
    cases skip with
    | succ skip => exact hlater _ _ h
    | zero =>
      rw [findAll] at h
      split at h
      · rename_i b' n hmatch
        rcases List.mem_cons.mp h with rfl | hmem
        · exact ⟨before, c :: cs, n, List.suffix_refl _, hmatch⟩
        · exact hlater _ _ hmem
      · exact hlater _ _ h

/-- A text has a match when something matches somewhere, whatever stands before it. -/
theorem findAll_ne_nil {before : Option α} {cs rest : List α} (hsuffix : rest <:+ cs)
    (hne : rest ≠ []) (h : ∀ before', (m before' rest).isSome = true) :
    findAll m before 0 cs ≠ [] := by
  induction cs generalizing before with
  | nil => exact absurd (List.suffix_nil.mp hsuffix) hne
  | cons c cs ih =>
    rw [findAll]
    split
    · exact List.cons_ne_nil _ _
    · rename_i hnone
      apply ih
      rcases List.suffix_cons_iff.mp hsuffix with rfl | hlater
      · have hsome := h before
        rw [hnone] at hsome
        cases hsome
      · exact hlater

end Foundation.Scan

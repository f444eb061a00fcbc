import Mathlib

/-!
# Filling a need in order

A need is filled from sources in their order: each gives what it has until nothing is needed any
more.
-/

namespace Foundation.Greedy

variable {α : Type} (cap : α → ℕ)

/-- What is taken from each source. -/
def fill : List α → ℕ → List ℕ
  | [], _ => []
  | a :: as, need => min (cap a) need :: fill as (need - min (cap a) need)

@[simp] theorem length_fill (as : List α) (need : ℕ) : (fill cap as need).length = as.length := by
  induction as generalizing need with
  | nil => rfl
  | cons a as ih => simp [fill, ih]

/-- No source gives more than it has. -/
theorem le_of_mem_zip_fill {as : List α} {need : ℕ} {p : α × ℕ} (h : p ∈ as.zip (fill cap as need)) :
    p.2 ≤ cap p.1 := by
  induction as generalizing need with
  | nil => cases h
  | cons a as ih =>
    rcases List.mem_cons.mp h with rfl | hmem
    · exact Nat.min_le_left _ _
    · exact ih hmem

/-- The need is met as far as the sources reach. -/
theorem sum_fill (as : List α) (need : ℕ) : (fill cap as need).sum = min need (as.map cap).sum := by
  induction as generalizing need with
  | nil => simp [fill]
  | cons a as ih =>
    rw [fill, List.sum_cons, ih, List.map_cons, List.sum_cons]
    omega

theorem eq_zero_of_mem_fill_zero {as : List α} {p : α × ℕ} (h : p ∈ as.zip (fill cap as 0)) :
    p.2 = 0 := by
  have hsum : (fill cap as 0).sum = 0 := by
    rw [sum_fill]
    exact Nat.zero_min _
  have hmem : p.2 ∈ fill cap as 0 := (List.of_mem_zip h).2
  exact List.sum_eq_zero_iff.mp hsum p.2 hmem

/-- A source gives something only when those before it have given everything. -/
theorem pairwise_zip_fill (as : List α) (need : ℕ) :
    (as.zip (fill cap as need)).Pairwise fun p q => 0 < q.2 → p.2 = cap p.1 := by
  induction as generalizing need with
  | nil => exact List.Pairwise.nil
  | cons a as ih =>
    rw [fill, List.zip_cons_cons, List.pairwise_cons]
    refine ⟨fun q hq hpos => ?_, ih _⟩
    by_contra hrest
    change min (cap a) need ≠ cap a at hrest
    -- the first source could meet the whole need
    have hnone : need - min (cap a) need = 0 := by omega
    rw [hnone] at hq
    have hzero := eq_zero_of_mem_fill_zero cap hq
    omega

end Foundation.Greedy

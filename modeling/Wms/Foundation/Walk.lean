import Mathlib

/-!
# Walks

From every place there is an answer or a way on to one other place. A walk that meets a place
twice never answers, and what a place answers is what the place behind it answers.
-/

namespace Foundation.Walk

variable {ι γ : Type} (m : ι → γ ⊕ ι)

/-- The walk from a place ends with an answer. -/
inductive Reaches : ι → γ → Prop
  | answer {i : ι} {a : γ} (h : m i = .inl a) : Reaches i a
  | next {i j : ι} {a : γ} (h : m i = .inr j) (hrest : Reaches j a) : Reaches i a

/-- One step of a walk. -/
def Next (i j : ι) : Prop := m i = .inr j

/-- The answer of the walk, or a default when it has none. -/
def Result (default : γ) (i : ι) (a : γ) : Prop :=
  Reaches m i a ∨ a = default ∧ ∀ b, ¬Reaches m i b

variable {m} {i j : ι} {a b default : γ}

theorem reaches_iff_of_answer (h : m i = .inl a) : Reaches m i b ↔ b = a := by
  constructor
  · intro hb
    cases hb with
    | answer h' => rw [h] at h'; exact (Sum.inl.inj h').symm
    | next h' _ => rw [h] at h'; cases h'
  · rintro rfl
    exact .answer h

theorem reaches_iff_of_next (h : m i = .inr j) : Reaches m i a ↔ Reaches m j a := by
  constructor
  · intro ha
    cases ha with
    | answer h' => rw [h] at h'; cases h'
    | next h' hrest =>
      rw [h] at h'
      rwa [Sum.inr.inj h']
  · exact .next h

theorem Reaches.unique (ha : Reaches m i a) (hb : Reaches m i b) : a = b := by
  induction ha with
  | answer h => exact ((reaches_iff_of_answer h).mp hb).symm
  | next h _ ih => exact ih ((reaches_iff_of_next h).mp hb)

/-- A walk that comes back to a place has no answer. -/
theorem not_reaches_of_cycle (h : Relation.TransGen (Next m) i i) : ¬Reaches m i a := by
  intro ha
  induction ha with
  | answer hanswer =>
    obtain ⟨j, hj, -⟩ := Relation.TransGen.head'_iff.mp h
    unfold Next at hj
    rw [hanswer] at hj
    cases hj
  | @next i j a hnext _ ih =>
    -- the place behind it lies on the same cycle
    obtain ⟨j', hj', hback⟩ := Relation.TransGen.head'_iff.mp h
    unfold Next at hj'
    rw [hnext] at hj'
    obtain rfl := Sum.inr.inj hj'
    exact ih (Relation.TransGen.tail' hback hnext)

theorem Result.of_answer (h : m i = .inl a) : Result m default i a := .inl (.answer h)

theorem Result.of_next (h : m i = .inr j) (hj : Result m default j a) : Result m default i a := by
  unfold Result
  simp only [reaches_iff_of_next h]
  exact hj

theorem Result.of_cycle (h : Relation.TransGen (Next m) i i) : Result m default i default :=
  .inr ⟨rfl, fun _ => not_reaches_of_cycle h⟩

theorem Result.unique (ha : Result m default i a) (hb : Result m default i b) : a = b := by
  rcases ha with ha | ⟨rfl, hnone⟩
  · rcases hb with hb | ⟨-, hnone⟩
    · exact ha.unique hb
    · exact absurd ha (hnone a)
  · rcases hb with hb | ⟨rfl, -⟩
    · exact absurd hb (hnone b)
    · rfl

end Foundation.Walk

import Mathlib

/-!
# Derived entries

Some entries are computed from a source and stored. When the source changes, the entries
of some keys are computed again. The stored entries are still the computed ones exactly
when the change does not matter to any of the other keys.
-/

namespace Foundation.Derived

variable {σ ι γ : Type} {compute : σ → ι → γ} {R S : ι → Prop} {s s' : σ}
  {stored stored' stored'' : ι → γ}

/-- Every stored entry is the computed one. -/
def InSync (compute : σ → ι → γ) (s : σ) (stored : ι → γ) : Prop := ∀ i, compute s i = stored i

/-- The entries of some keys were computed again, and the others were left alone. -/
structure Refreshed (compute : σ → ι → γ) (R : ι → Prop) (s : σ) (stored stored' : ι → γ) :
    Prop where
  fresh : ∀ i, R i → compute s i = stored' i
  kept : ∀ i, ¬R i → stored' i = stored i

theorem Refreshed.refl : Refreshed compute (fun _ => False) s stored stored where
  fresh _ := False.elim
  kept _ _ := rfl

/-- What is computed again twice is as the second time left it. -/
theorem Refreshed.trans (h : Refreshed compute R s stored stored')
    (h' : Refreshed compute S s stored' stored'') :
    Refreshed compute (fun i => R i ∨ S i) s stored stored'' where
  fresh i hi := by
    by_cases hS : S i
    · exact h'.fresh i hS
    · rw [h'.kept i hS]
      exact h.fresh i (hi.resolve_right hS)
  kept i hi := by
    obtain ⟨hR, hS⟩ := not_or.mp hi
    rw [h'.kept i hS, h.kept i hR]

theorem Refreshed.congr (h : Refreshed compute R s stored stored') (hR : ∀ i, R i ↔ S i) :
    Refreshed compute S s stored stored' where
  fresh i hi := h.fresh i ((hR i).mpr hi)
  kept i hi := h.kept i (mt (hR i).mp hi)

/-- After a change of the source the entries agree with it exactly when the change does not
matter to those that were not computed again. -/
theorem Refreshed.inSync_iff (h : Refreshed compute R s' stored stored')
    (hs : InSync compute s stored) :
    InSync compute s' stored' ↔ ∀ i, ¬R i → compute s' i = compute s i := by
  constructor
  · intro hs' i hi
    rw [hs' i, h.kept i hi, hs i]
  · intro hsame i
    by_cases hi : R i
    · exact h.fresh i hi
    · rw [hsame i hi, h.kept i hi, hs i]

end Foundation.Derived

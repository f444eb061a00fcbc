import Mathlib

/-!
# Balances and their journal

A family of balances is changed by postings, each of which records the account it
moves, the amount, and the balance it leaves. `Posts f ps g` says that the postings
`ps`, applied in order to the balances `f`, lead to `g` without overdrawing any
account. Whatever the accounts are, the journal then explains the balances: each is
the sum of its amounts, none is negative, and each is the one last recorded.
-/

namespace Foundation.Journal

variable {κ : Type*}

/-- One posting to a journal. -/
structure Posting (κ : Type*) where
  /-- The account that is moved. -/
  key : κ
  /-- The signed amount. -/
  delta : ℤ
  /-- The balance the posting leaves on its account. -/
  after : ℤ

variable [DecidableEq κ]

/-- Applied in order to the balances `f`, the postings lead to `g`; each records the
balance it leaves, and none leaves a negative one. -/
def Posts (f : κ → ℤ) : List (Posting κ) → (κ → ℤ) → Prop
  | [], g => g = f
  | p :: ps, g =>
    p.after = f p.key + p.delta ∧ 0 ≤ p.after ∧ Posts (Function.update f p.key p.after) ps g

/-- The sum of the amounts posted to one account. -/
def movement (k : κ) (ps : List (Posting κ)) : ℤ :=
  ((ps.filter fun p => p.key = k).map Posting.delta).sum

@[simp] theorem movement_nil (k : κ) : movement k ([] : List (Posting κ)) = 0 := rfl

theorem movement_cons (k : κ) (p : Posting κ) (ps : List (Posting κ)) :
    movement k (p :: ps) = (if p.key = k then p.delta else 0) + movement k ps := by
  unfold movement
  by_cases hk : p.key = k <;> simp [hk]

@[simp] theorem movement_append (k : κ) (ps qs : List (Posting κ)) :
    movement k (ps ++ qs) = movement k ps + movement k qs := by
  simp [movement]

/-- Postings to other accounts do not move the account `k`. -/
theorem movement_eq_zero {k : κ} {ps : List (Posting κ)} (h : ∀ p ∈ ps, p.key ≠ k) :
    movement k ps = 0 := by
  have hnone : ps.filter (fun p => p.key = k) = [] := by simpa using h
  simp [movement, hnone]

/-- Over accounts that include all that are posted to, the movements add up to the sum of
all amounts. -/
theorem sum_movement {s : Finset κ} {ps : List (Posting κ)} (h : ∀ p ∈ ps, p.key ∈ s) :
    ∑ k ∈ s, movement k ps = (ps.map Posting.delta).sum := by
  induction ps with
  | nil => simp
  | cons p ps ih =>
    have hrest := ih fun q hq => h q (List.mem_cons_of_mem p hq)
    have hhead : p.key ∈ s := h p List.mem_cons_self
    simp only [movement_cons, Finset.sum_add_distrib, Finset.sum_ite_eq, if_pos hhead, hrest,
      List.map_cons, List.sum_cons]

theorem posts_single {f : κ → ℤ} {p : Posting κ} (hafter : p.after = f p.key + p.delta)
    (hnonneg : 0 ≤ p.after) : Posts f [p] (Function.update f p.key p.after) :=
  ⟨hafter, hnonneg, rfl⟩

/-- Two stretches of postings can be read as one. -/
theorem Posts.append {f g h : κ → ℤ} {ps qs : List (Posting κ)} (hp : Posts f ps g)
    (hq : Posts g qs h) : Posts f (ps ++ qs) h := by
  induction ps generalizing f with
  | nil =>
    have hgf : g = f := hp
    rw [hgf] at hq
    exact hq
  | cons p ps ih =>
    obtain ⟨hafter, hnonneg, hrest⟩ := hp
    exact ⟨hafter, hnonneg, ih hrest⟩

/-- Each balance has moved by the sum of the amounts posted to it. -/
theorem Posts.balance {f g : κ → ℤ} {ps : List (Posting κ)} (h : Posts f ps g) (k : κ) :
    g k = f k + movement k ps := by
  induction ps generalizing f with
  | nil =>
    have hgf : g = f := h
    rw [hgf, movement_nil, add_zero]
  | cons p ps ih =>
    obtain ⟨hafter, -, hrest⟩ := h
    rw [ih hrest, movement_cons]
    by_cases hk : p.key = k
    · subst hk
      rw [Function.update_self, if_pos rfl, hafter]
      ring
    · rw [Function.update_of_ne (Ne.symm hk), if_neg hk]
      ring

/-- Postings never overdraw an account that was not overdrawn before. -/
theorem Posts.nonneg {f g : κ → ℤ} {ps : List (Posting κ)} (h : Posts f ps g) {k : κ}
    (hf : 0 ≤ f k) : 0 ≤ g k := by
  induction ps generalizing f with
  | nil =>
    have hgf : g = f := h
    rwa [hgf]
  | cons p ps ih =>
    obtain ⟨-, hnonneg, hrest⟩ := h
    refine ih hrest ?_
    by_cases hk : k = p.key
    · rw [hk, Function.update_self]
      exact hnonneg
    · rwa [Function.update_of_ne hk]

/-- Since a posting the balance of its account has moved by the amounts posted later. -/
theorem Posts.balance_since {f g : κ → ℤ} {ps qs : List (Posting κ)} {p : Posting κ}
    (h : Posts f (ps ++ p :: qs) g) : g p.key = p.after + movement p.key qs := by
  induction ps generalizing f with
  | nil =>
    obtain ⟨-, -, hrest⟩ := h
    rw [hrest.balance p.key, Function.update_self]
  | cons q ps ih =>
    obtain ⟨-, -, hrest⟩ := h
    exact ih hrest

/-- An account that was posted to holds the balance its last posting records. -/
theorem Posts.last {f g : κ → ℤ} {ps : List (Posting κ)} (h : Posts f ps g) {k : κ}
    {p : Posting κ} (hlast : (ps.filter fun q => q.key = k).getLast? = some p) :
    g k = p.after := by
  induction ps generalizing f with
  | nil => simp at hlast
  | cons q qs ih =>
    obtain ⟨-, -, hrest⟩ := h
    cases hlater : qs.filter (fun q => q.key = k) with
    | nil =>
      -- no later posting touches the account, so `q` is the last one
      by_cases hk : q.key = k
      · rw [List.filter_cons, if_pos (by simpa using hk), hlater, List.getLast?_singleton,
          Option.some.injEq] at hlast
        have hzero : movement k qs = 0 := by simp [movement, hlater]
        rw [hrest.balance k, hzero, add_zero, ← hlast, ← hk, Function.update_self]
      · rw [List.filter_cons, if_neg (by simpa using hk), hlater] at hlast
        cases hlast
    | cons r rs =>
      refine ih hrest ?_
      rw [List.filter_cons, hlater] at hlast
      rw [hlater, ← hlast]
      split
      · rw [List.getLast?_cons_cons]
      · rfl

end Foundation.Journal

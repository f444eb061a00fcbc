import Wms.Foundation.Derived
import Wms.Foundation.Transaction

/-!
# Materialised views

The rows of a view are computed from a source and stored under a key. A statement writes the
source, and its triggers compute the rows of some keys again and delete those of others.
The view is up to date after the statement exactly when the change of the source does not
matter to the rows that were left alone.
-/

namespace Foundation

/-- A source and the stored rows of a view over it. -/
structure Materialised (σ ι γ : Type) where
  src : σ
  rows : ι → Option γ

namespace Materialised

open Derived

variable {σ ι γ ε : Type}

section Triggers

variable [DecidableEq ι] (select : σ → ι → Except ε (Option γ))

/-- Compute the row of a key again. Where nothing is selected the row stays as it is. -/
def refresh (i : ι) : Tx (Materialised σ ι γ) ε PUnit := do
  let m ← get
  match ← Tx.ofExcept (select m.src i) with
  | none => pure ⟨⟩
  | some row => set { m with rows := Function.update m.rows i (some row) }

/-- Delete the row of a key. -/
def discard (i : ι) : Tx (Materialised σ ι γ) ε PUnit :=
  modify fun m => { m with rows := Function.update m.rows i none }

end Triggers

/-- A statement changes the source, and then its triggers run. They know the source from
before the change as well. -/
def statement (change : σ → Except ε σ) (triggers : σ → Tx (Materialised σ ι γ) ε PUnit) :
    Tx (Materialised σ ι γ) ε PUnit := do
  let m ← get
  let src ← Tx.ofExcept (change m.src)
  set { m with src := src }
  triggers m.src

variable (select : σ → ι → Except ε (Option γ))

/-- The stored rows are the ones that would be computed now. -/
def UpToDate (m : Materialised σ ι γ) : Prop := InSync select m.src fun i => .ok (m.rows i)

/-- The rows of some keys were computed again from the same source. -/
structure Refreshes (R : ι → Prop) (m m' : Materialised σ ι γ) : Prop where
  src_eq : m'.src = m.src
  refreshed : Refreshed select R m.src (fun i => .ok (m.rows i)) fun i => .ok (m'.rows i)

variable {select} {R S : ι → Prop} {m m' m'' : Materialised σ ι γ} {src : σ} {i : ι} {u : PUnit}

theorem Refreshes.refl : Refreshes select (fun _ => False) m m := ⟨rfl, .refl⟩

theorem Refreshes.trans (h : Refreshes select R m m') (h' : Refreshes select S m' m'') :
    Refreshes select (fun i => R i ∨ S i) m m'' where
  src_eq := h'.src_eq.trans h.src_eq
  refreshed := by
    have hsecond := h'.refreshed
    rw [h.src_eq] at hsecond
    exact h.refreshed.trans hsecond

theorem Refreshes.congr (h : Refreshes select R m m') (hR : ∀ i, R i ↔ S i) :
    Refreshes select S m m' := ⟨h.src_eq, h.refreshed.congr hR⟩

/-- A loop refreshes what its passes refresh. -/
theorem Refreshes.forM {f : ι → Tx (Materialised σ ι γ) ε PUnit} {is : List ι}
    (hf : ∀ i ∈ is, ∀ m m', m.src = src → (f i).run m = .ok (⟨⟩, m') →
      Refreshes select (fun j => j = i) m m')
    (hsrc : m.src = src) (h : (forM is f).run m = .ok (u, m')) :
    Refreshes select (fun j => j ∈ is) m m' := by
  induction is generalizing m with
  | nil =>
    obtain rfl := Tx.run_forM_nil_ok.mp h
    exact Refreshes.refl.congr fun j => by simp
  | cons i is ih =>
    obtain ⟨m₁, hi, hrest⟩ := Tx.run_forM_cons_ok.mp h
    have hfirst := hf i List.mem_cons_self m m₁ hsrc hi
    have hothers := ih (fun i' hi' => hf i' (List.mem_cons_of_mem i hi'))
      (hfirst.src_eq.trans hsrc) hrest
    exact (hfirst.trans hothers).congr fun j => by simp

/-- After a statement the view is up to date exactly when the change of the source does not
matter to the rows that were not computed again. -/
theorem UpToDate.iff_of_refreshes (h : m.UpToDate select)
    (hr : Refreshes select R { m with src := src } m') :
    m'.UpToDate select ↔ ∀ i, ¬R i → select src i = select m.src i := by
  unfold UpToDate
  rw [hr.src_eq]
  exact hr.refreshed.inSync_iff h

/-- The same where the change is known not to matter. -/
theorem UpToDate.of_refreshes (h : m.UpToDate select)
    (hr : Refreshes select R { m with src := src } m')
    (hsame : ∀ i, ¬R i → select src i = select m.src i) : m'.UpToDate select :=
  (h.iff_of_refreshes hr).mpr hsame

theorem statement_run_ok {change : σ → Except ε σ}
    {triggers : σ → Tx (Materialised σ ι γ) ε PUnit} :
    (statement change triggers).run m = .ok (u, m') ↔
      ∃ src, change m.src = .ok src ∧
        (triggers m.src).run { m with src := src } = .ok (u, m') := by
  unfold statement
  simp only [Tx.run_bind_ok, Tx.run_get_ok, Tx.run_ofExcept_ok, Tx.run_set_ok]
  constructor
  · rintro ⟨_, _, ⟨rfl, rfl⟩, src, _, ⟨hchange, rfl⟩, _, _, rfl, hrun⟩
    exact ⟨src, hchange, hrun⟩
  · rintro ⟨src, hchange, hrun⟩
    exact ⟨m, m, ⟨rfl, rfl⟩, src, m, ⟨hchange, rfl⟩, ⟨⟩, _, rfl, hrun⟩

variable [DecidableEq ι] {is : List ι}

/-- Where a row is selected, refreshing stores it. -/
theorem refresh_run_ok (hi : select m.src i ≠ .ok none)
    (h : (refresh select i).run m = .ok (u, m')) : Refreshes select (fun j => j = i) m m' := by
  unfold refresh at h
  simp only [Tx.run_bind_ok, Tx.run_get_ok, Tx.run_ofExcept_ok] at h
  obtain ⟨_, _, ⟨rfl, rfl⟩, row, _, ⟨hselect, rfl⟩, h⟩ := h
  cases row with
  | none => exact absurd hselect hi
  | some row =>
    obtain rfl := Tx.run_set_ok.mp h
    refine ⟨rfl, ?_, ?_⟩
    · rintro j rfl
      rw [hselect]
      dsimp only
      rw [Function.update_self]
    · intro j hj
      dsimp only
      rw [Function.update_of_ne hj]

/-- Where nothing is selected, deleting the row is computing it again. -/
theorem discard_run_ok (hi : select m.src i = .ok none)
    (h : (discard i : Tx _ ε _).run m = .ok (u, m')) : Refreshes select (fun j => j = i) m m' := by
  obtain rfl := Tx.run_modify_ok.mp h
  refine ⟨rfl, ?_, ?_⟩
  · rintro j rfl
    rw [hi]
    dsimp only
    rw [Function.update_self]
  · intro j hj
    dsimp only
    rw [Function.update_of_ne hj]

theorem forM_refresh_run_ok (his : ∀ i ∈ is, select m.src i ≠ .ok none)
    (h : (forM is (refresh select)).run m = .ok (u, m')) :
    Refreshes select (fun j => j ∈ is) m m' :=
  Refreshes.forM (fun i hi _ _ hsrc hrun => refresh_run_ok (by rw [hsrc]; exact his i hi) hrun)
    rfl h

theorem forM_discard_run_ok (his : ∀ i ∈ is, select m.src i = .ok none)
    (h : (forM is discard : Tx _ ε _).run m = .ok (u, m')) :
    Refreshes select (fun j => j ∈ is) m m' :=
  Refreshes.forM (fun i hi _ _ hsrc hrun => discard_run_ok (by rw [hsrc]; exact his i hi) hrun)
    rfl h

/-! ## The source is kept -/

/-- Two states with the same source. -/
def SameSource (m m' : Materialised σ ι γ) : Prop := m'.src = m.src

instance : IsPreorder (Materialised σ ι γ) SameSource where
  refl _ := rfl
  trans _ _ _ h h' := h'.trans h

theorem follows_refresh (i : ι) : Tx.Follows SameSource (refresh select i) := by
  intro m u m' h
  unfold refresh at h
  simp only [Tx.run_bind_ok, Tx.run_get_ok, Tx.run_ofExcept_ok] at h
  obtain ⟨_, _, ⟨rfl, rfl⟩, row, _, ⟨-, rfl⟩, h⟩ := h
  cases row with
  | none =>
    obtain ⟨-, rfl⟩ := Tx.run_pure_ok.mp h
    exact refl_of SameSource m
  | some row =>
    obtain rfl := Tx.run_set_ok.mp h
    exact refl_of SameSource m

theorem follows_discard (i : ι) :
    Tx.Follows SameSource (discard i : Tx (Materialised σ ι γ) ε PUnit) :=
  Tx.follows_modify fun _ => rfl

/-! ## Refreshing does not fail -/

/-- Rows can be refreshed where the query answers. -/
theorem exists_refresh_run (hi : ∃ row, select m.src i = .ok row) :
    ∃ m', (refresh select i).run m = .ok (⟨⟩, m') := by
  obtain ⟨row, hrow⟩ := hi
  unfold refresh
  simp only [Tx.run_bind_ok, Tx.run_get_ok, Tx.run_ofExcept_ok]
  cases row with
  | none => exact ⟨m, m, m, ⟨rfl, rfl⟩, none, m, ⟨hrow, rfl⟩, Tx.run_pure_ok.mpr ⟨rfl, rfl⟩⟩
  | some row => exact ⟨_, m, m, ⟨rfl, rfl⟩, some row, m, ⟨hrow, rfl⟩, Tx.run_set_ok.mpr rfl⟩

theorem exists_forM_refresh_run (his : ∀ i ∈ is, ∃ row, select m.src i = .ok row) :
    ∃ m', (forM is (refresh select)).run m = .ok (⟨⟩, m') := by
  induction is generalizing m with
  | nil => exact ⟨m, Tx.run_forM_nil_ok.mpr rfl⟩
  | cons i is ih =>
    obtain ⟨m₁, hi⟩ := exists_refresh_run (his i List.mem_cons_self)
    have hsrc : m₁.src = m.src := follows_refresh i m ⟨⟩ m₁ hi
    obtain ⟨m', hrest⟩ := ih (m := m₁) fun j hj => by
      rw [hsrc]
      exact his j (List.mem_cons_of_mem i hj)
    exact ⟨m', Tx.run_forM_cons_ok.mpr ⟨m₁, hi, hrest⟩⟩

end Materialised

end Foundation

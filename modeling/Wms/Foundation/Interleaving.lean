import Wms.Foundation.Transaction

/-!
# Programs that interleave on a store

Programs run side by side on one store. They execute a statement at a time, in any order, and
each may be broken off at any time. Every program has an assertion about the store. If its own
statements keep it, and no statement of another program disturbs it, then every program that
runs has its assertion after every run, whatever the order of the statements.
-/

namespace Foundation

namespace Tx

variable {σ ε α ω : Type} {exec : ω → Tx σ ε α} {P : ω → σ → Prop}

instance [∀ op s, Decidable (P op s)] : ∀ ops s, Decidable (Along exec P ops s)
  | [], _ => .isTrue trivial
  | op :: ops, s =>
    have : Decidable (Along exec P ops ((exec op).attempt s)) := instDecidableAlong ops _
    inferInstanceAs (Decidable (_ ∧ _))

/-- A condition on all operations is one on those that are accepted. -/
theorem Along.allAccepted {ops : List ω} {s : σ} (h : Along exec P ops s) :
    AllAccepted exec P ops s := by
  induction ops generalizing s with
  | nil => trivial
  | cons op ops ih => exact ⟨fun _ => h.1, ih h.2⟩

end Tx

namespace Interleaving

variable {σ π ρ : Type}

/-- A store and the programs that run on it. -/
structure Config (σ π : Type) where
  store : σ
  running : List π

/-- What can happen next. -/
inductive Event (ρ : Type)
  /-- The program of a request starts. -/
  | start (r : ρ)
  /-- The program at a position executes its next statement. -/
  | exec (i : ℕ)
  /-- The program at a position is broken off. -/
  | stop (i : ℕ)

/-- How programs run. -/
structure Semantics (σ π ρ : Type) where
  /-- The program of a request. -/
  init : ρ → π
  /-- What the next statement makes of the program and of the store, unless the program has
  ended. -/
  next : π → σ → Option (π × σ)

variable (S : Semantics σ π ρ)

/-- Let an event happen. -/
def Semantics.serve : Event ρ → Tx (Config σ π) Unit PUnit
  | .start r => modify fun c => { c with running := c.running ++ [S.init r] }
  | .exec i => do
    let c ← get
    let p ← Tx.demand c.running[i]? ()
    let (p', s') ← Tx.demand (S.next p c.store) ()
    set ({ store := s', running := c.running.set i p' } : Config σ π)
  | .stop i => modify fun c => { c with running := c.running.eraseIdx i }

/-- A store with its invariant, on which every program has its assertion. -/
structure Config.Holds (I : σ → Prop) (A : π → σ → Prop) (c : Config σ π) : Prop where
  store : I c.store
  running : ∀ p ∈ c.running, A p c.store

/-- Programs whose own statements keep the invariant of the store and their assertions. -/
structure Outline (I : σ → Prop) (A : π → σ → Prop) : Prop where
  init : ∀ r s, I s → A (S.init r) s
  next : ∀ p s p' s', I s → A p s → S.next p s = some (p', s') → I s' ∧ A p' s'

/-- Under the condition on the events, no statement disturbs the assertion of another
program. -/
def Undisturbed (I : σ → Prop) (A : π → σ → Prop) (C : Event ρ → Config σ π → Prop) : Prop :=
  ∀ c i p p' s', c.Holds I A → C (.exec i) c → c.running[i]? = some p →
    S.next p c.store = some (p', s') →
    ∀ j q, j ≠ i → c.running[j]? = some q → A q s'

variable {S} {I : σ → Prop} {A : π → σ → Prop} {C : Event ρ → Config σ π → Prop}
  {c c' : Config σ π} {u : PUnit}

theorem serve_start_ok {r : ρ} : (S.serve (.start r)).run c = .ok (u, c') ↔
    ⟨c.store, c.running ++ [S.init r]⟩ = c' :=
  Tx.run_modify_ok

/-- A statement that was executed belongs to the program at the position. -/
theorem serve_exec_ok {i : ℕ} : (S.serve (.exec i)).run c = .ok (u, c') ↔
    ∃ p p' s', c.running[i]? = some p ∧ S.next p c.store = some (p', s') ∧
      ⟨s', c.running.set i p'⟩ = c' := by
  unfold Semantics.serve
  simp only [Tx.run_bind_ok, Tx.run_get_ok, Tx.run_demand_ok, Tx.run_set_ok]
  constructor
  · rintro ⟨_, _, ⟨rfl, rfl⟩, p, _, ⟨hp, rfl⟩, ⟨p', s'⟩, _, ⟨hnext, rfl⟩, hset⟩
    exact ⟨p, p', s', hp, hnext, hset⟩
  · rintro ⟨p, p', s', hp, hnext, hset⟩
    exact ⟨c, c, ⟨rfl, rfl⟩, p, c, ⟨hp, rfl⟩, (p', s'), c, ⟨hnext, rfl⟩, hset⟩

theorem serve_stop_ok {i : ℕ} : (S.serve (.stop i)).run c = .ok (u, c') ↔
    ⟨c.store, c.running.eraseIdx i⟩ = c' :=
  Tx.run_modify_ok

/-- After a statement, a program is the one that executed it or was running before. -/
theorem mem_set_cases {i : ℕ} {ps : List π} {p q : π} (h : q ∈ ps.set i p) :
    q = p ∨ ∃ j, j ≠ i ∧ ps[j]? = some q := by
  obtain ⟨j, hj⟩ := List.mem_iff_getElem?.mp h
  by_cases heq : i = j
  · left
    rw [heq, List.getElem?_set_self'] at hj
    obtain ⟨_, -, rfl⟩ := Option.map_eq_some_iff.mp hj
    rfl
  · right
    rw [List.getElem?_set_ne heq] at hj
    exact ⟨j, Ne.symm heq, hj⟩

/-- One event. -/
theorem Config.Holds.step (hown : Outline S I A) (hothers : Undisturbed S I A C) {e : Event ρ}
    (h : c.Holds I A) (he : C e c) (hrun : (S.serve e).run c = .ok (u, c')) : c'.Holds I A := by
  cases e with
  | start r =>
    obtain rfl := serve_start_ok.mp hrun
    refine ⟨h.store, fun p hp => ?_⟩
    rcases List.mem_append.mp hp with hold | hnew
    · exact h.running p hold
    · rw [List.mem_singleton.mp hnew]
      exact hown.init r _ h.store
  | exec i =>
    obtain ⟨p, p', s', hp, hnext, rfl⟩ := serve_exec_ok.mp hrun
    have hmem : p ∈ c.running := List.mem_of_getElem? hp
    obtain ⟨hstore, hp'⟩ := hown.next p c.store p' s' h.store (h.running p hmem) hnext
    refine ⟨hstore, fun q hq => ?_⟩
    rcases mem_set_cases hq with rfl | ⟨j, hj, hqj⟩
    · exact hp'
    · exact hothers c i p p' s' h he hp hnext j q hj hqj
  | stop i =>
    obtain rfl := serve_stop_ok.mp hrun
    exact ⟨h.store, fun p hp => h.running p (List.mem_of_mem_eraseIdx hp)⟩

/-- Every program keeps its assertion in a run whose events meet the condition. -/
theorem Config.Holds.run (hown : Outline S I A) (hothers : Undisturbed S I A C)
    {es : List (Event ρ)} (h : c.Holds I A) (hes : Tx.AllAccepted S.serve C es c) :
    (Tx.attemptAll S.serve es c).Holds I A :=
  Tx.attemptAll_invariant (fun _ _ _ _ hc he hrun => hc.step hown hothers he hrun) h hes

/-- No program is running. -/
def Config.idle (s : σ) : Config σ π := ⟨s, []⟩

theorem holds_idle {s : σ} (h : I s) : (Config.idle s).Holds I A where
  store := h
  running _ hp := absurd hp List.not_mem_nil

end Interleaving

end Foundation

import Wms.Foundation.Transaction

/-!
# Transactions side by side

A transaction is run twice, from two states that a relation holds between. `Alike` says
that then both runs fail, with related errors, or both succeed, with related answers and
in related states. This file gives the rules that follow the code of a transaction, and
the rule for whole runs: an observer of the answers cannot tell the two states apart.
-/

namespace Foundation

/-- Both results are errors, and `E` relates them, or both are values, and `A` does. -/
inductive ResultAlike {ε α β : Type} (E : ε → ε → Prop) (A : α → β → Prop) :
    Except ε α → Except ε β → Prop
  | error {e e' : ε} (h : E e e') : ResultAlike E A (.error e) (.error e')
  | ok {a : α} {b : β} (h : A a b) : ResultAlike E A (.ok a) (.ok b)

theorem ResultAlike.mono {ε α β : Type} {E E' : ε → ε → Prop} {A A' : α → β → Prop}
    (hE : ∀ e e', E e e' → E' e e') (hA : ∀ a b, A a b → A' a b) {x : Except ε α}
    {y : Except ε β} (h : ResultAlike E A x y) : ResultAlike E' A' x y := by
  cases h with
  | error h => exact .error (hE _ _ h)
  | ok h => exact .ok (hA _ _ h)

/-- Results that a function maps to the same result. -/
theorem resultAlike_of_map_eq {ε α β : Type} {f : α → β} {x y : Except ε α}
    (h : x.map f = y.map f) : ResultAlike Eq (fun a b => f a = f b) x y := by
  cases x with
  | error e =>
    cases y with
    | error e' => exact .error (Except.error.inj h)
    | ok b => cases h
  | ok a =>
    cases y with
    | error e' => cases h
    | ok b => exact .ok (Except.ok.inj h)

namespace Tx

variable {σ τ ε α β γ δ ω : Type}

/-- From states that `R` relates, the transactions fail with errors that `E` relates, or
return answers that `A` relates and leave states that `S` relates. -/
def Alike (R S : σ → σ → Prop) (E : ε → ε → Prop) (A : α → β → Prop) (x : Tx σ ε α)
    (y : Tx σ ε β) : Prop :=
  ∀ s t, R s t →
    ResultAlike E (fun p q : _ × σ => A p.1 q.1 ∧ S p.2 q.2) (x.run s) (y.run t)

/-- The transaction gives the same answer or the same error in related states, and leaves
related states. -/
def Blind (R : σ → σ → Prop) (x : Tx σ ε α) : Prop := Alike R R Eq Eq x x

section

variable {R S T : σ → σ → Prop} {E : ε → ε → Prop} {A : α → β → Prop} {B : γ → δ → Prop}

theorem Alike.mono {R' S' : σ → σ → Prop} {E' : ε → ε → Prop} {x : Tx σ ε α} {y : Tx σ ε β}
    (hR : ∀ s t, R' s t → R s t) (hS : ∀ s t, S s t → S' s t) (hE : ∀ e e', E e e' → E' e e')
    (h : Alike R S E A x y) : Alike R' S' E' A x y :=
  fun s t hst => (h s t (hR s t hst)).mono hE fun p q hpq => ⟨hpq.1, hS p.2 q.2 hpq.2⟩

theorem alike_pure {a : α} {b : β} (h : A a b) : Alike R R E A (pure a : Tx σ ε α) (pure b) :=
  fun _ _ hst => .ok ⟨h, hst⟩

theorem alike_throw {e e' : ε} (h : E e e') : Alike R S E A (throw e : Tx σ ε α) (throw e') :=
  fun _ _ _ => .error h

theorem alike_set {s t : σ} (h : S s t) : Alike R S E Eq (set s : Tx σ ε PUnit) (set t) :=
  fun _ _ _ => .ok ⟨rfl, h⟩

theorem alike_modify {f g : σ → σ} (h : ∀ s t, R s t → S (f s) (g t)) :
    Alike R S E Eq (modify f : Tx σ ε PUnit) (modify g) :=
  fun s t hst => .ok ⟨rfl, h s t hst⟩

theorem alike_failIf {c c' : Prop} [Decidable c] [Decidable c'] (h : c ↔ c') {e e' : ε}
    (he : E e e') : Alike R R E Eq (failIf c e : Tx σ ε Unit) (failIf c' e') := by
  unfold failIf
  by_cases hc : c
  · rw [if_pos hc, if_pos (h.mp hc)]
    exact alike_throw he
  · rw [if_neg hc, if_neg (mt h.mpr hc)]
    exact alike_pure rfl

/-- Sequences are alike when their first parts are and related answers are continued
alike. -/
theorem Alike.bind {x : Tx σ ε α} {y : Tx σ ε β} {f : α → Tx σ ε γ} {g : β → Tx σ ε δ}
    (hxy : Alike R S E A x y) (hfg : ∀ a b, A a b → Alike S T E B (f a) (g b)) :
    Alike R T E B (x >>= f) (y >>= g) := by
  intro s t hst
  have hfirst := hxy s t hst
  change ResultAlike E _ (Except.bind (x.run s) fun p => (f p.1).run p.2)
    (Except.bind (y.run t) fun p => (g p.1).run p.2)
  generalize x.run s = p, y.run t = q at hfirst ⊢
  cases hfirst with
  | error h => exact .error h
  | ok h => exact hfg _ _ h.1 _ _ h.2

/-- What reads the state goes on with related states. -/
theorem Alike.get_bind {f : σ → Tx σ ε α} {g : σ → Tx σ ε β}
    (h : ∀ s t, R s t → Alike R S E A (f s) (g t)) : Alike R S E A (get >>= f) (get >>= g) :=
  fun s t hst => h s t hst s t hst

theorem Alike.map {x : Tx σ ε α} {y : Tx σ ε α} (f : α → β) (h : Alike R S E Eq x y) :
    Alike R S E Eq (f <$> x) (f <$> y) := by
  rw [← bind_pure_comp, ← bind_pure_comp]
  exact h.bind fun a b hab => alike_pure (congrArg f hab)

/-- A blind transaction is followed by the same answer on both sides. -/
theorem Blind.bind {x : Tx σ ε γ} {f : γ → Tx σ ε α} {g : γ → Tx σ ε β} (hE : ∀ e, E e e)
    (hx : Blind R x) (h : ∀ c, Alike R S E A (f c) (g c)) :
    Alike R S E A (x >>= f) (x >>= g) := by
  have hx' : Alike R R E Eq x x := Alike.mono (fun _ _ => id) (fun _ _ => id)
    (fun e e' (heq : e = e') => heq ▸ hE e) hx
  refine hx'.bind fun c c' heq => ?_
  rw [← heq]
  exact h c

end

section

variable {R : σ → σ → Prop}

theorem blind_pure (a : α) : Blind R (pure a : Tx σ ε α) := alike_pure rfl

theorem blind_throw (e : ε) : Blind R (throw e : Tx σ ε α) := alike_throw rfl

/-- Equal states are not told apart. -/
theorem blind_eq (x : Tx σ ε α) : Blind Eq x := by
  intro s t hst
  rw [← hst]
  cases x.run s with
  | error e => exact .error rfl
  | ok p => exact .ok ⟨rfl, rfl⟩

theorem blind_failIf (c : Prop) [Decidable c] (e : ε) : Blind R (failIf c e : Tx σ ε Unit) := by
  unfold failIf
  split
  · exact blind_throw e
  · exact blind_pure _

theorem blind_demand (o : Option α) (e : ε) : Blind R (demand o e : Tx σ ε α) := by
  cases o with
  | none => exact blind_throw e
  | some a => exact blind_pure a

/-- Lookups with related results. -/
theorem alike_demand {A : α → β → Prop} {o : Option α} {o' : Option β} (h : Option.Rel A o o')
    (e : ε) : Alike R R Eq A (demand o e : Tx σ ε α) (demand o' e) := by
  cases h with
  | none => exact alike_throw rfl
  | some h => exact alike_pure h

theorem blind_ofExcept (x : Except ε α) : Blind R (ofExcept x : Tx σ ε α) := by
  cases x with
  | error e => exact blind_throw e
  | ok a => exact blind_pure a

/-- Computations with related results. -/
theorem alike_ofExcept {A : α → β → Prop} {x : Except ε α} {y : Except ε β}
    (h : ResultAlike Eq A x y) : Alike R R Eq A (ofExcept x : Tx σ ε α) (ofExcept y) := by
  cases h with
  | error h => exact alike_throw h
  | ok h => exact alike_pure h

theorem Blind.then {x : Tx σ ε α} {f : α → Tx σ ε β} (hx : Blind R x)
    (hf : ∀ a, Blind R (f a)) : Blind R (x >>= f) :=
  Blind.bind (fun _ => rfl) hx hf

/-- What goes on in the same way from related states does not tell them apart. -/
theorem blind_get_bind {f : σ → Tx σ ε α} (heq : ∀ s t, R s t → f t = f s)
    (hf : ∀ s, Blind R (f s)) : Blind R (get >>= f) := by
  refine Alike.get_bind fun s t hst => ?_
  rw [heq s t hst]
  exact hf s

theorem Blind.map {x : Tx σ ε α} (f : α → β) (hx : Blind R x) : Blind R (f <$> x) :=
  Alike.map f hx

theorem Blind.mapErr {x : Tx σ ε α} (f : ε → ε) (hx : Blind R x) : Blind R (Tx.mapErr f x) := by
  intro s t hst
  have hrun := hx s t hst
  unfold Tx.mapErr StateT.run
  unfold StateT.run at hrun
  beta_reduce
  generalize x s = p, x t = q at hrun ⊢
  cases hrun with
  | error h => exact .error (congrArg f h)
  | ok h => exact .ok h

theorem blind_forM {f : β → Tx σ ε PUnit} (bs : List β) (hf : ∀ b ∈ bs, Blind R (f b)) :
    Blind R (forM bs f) := by
  induction bs with
  | nil => exact blind_pure _
  | cons b bs ih =>
    rw [List.forM_cons]
    exact (hf b List.mem_cons_self).then fun _ =>
      ih fun b' hb' => hf b' (List.mem_cons_of_mem b hb')

theorem blind_mapM {f : β → Tx σ ε α} (bs : List β) (hf : ∀ b ∈ bs, Blind R (f b)) :
    Blind R (bs.mapM' f) := by
  induction bs with
  | nil => exact blind_pure _
  | cons b bs ih =>
    rw [List.mapM'_cons]
    exact (hf b List.mem_cons_self).then fun a =>
      (ih fun b' hb' => hf b' (List.mem_cons_of_mem b hb')).then fun as => blind_pure (a :: as)

theorem blind_foldlM {f : α → β → Tx σ ε α} (bs : List β) (hf : ∀ a b, Blind R (f a b)) (a : α) :
    Blind R (bs.foldlM f a) := by
  induction bs generalizing a with
  | nil =>
    rw [List.foldlM_nil]
    exact blind_pure a
  | cons b bs ih =>
    rw [List.foldlM_cons]
    exact (hf a b).then fun a' => ih a'

/-- A loop is alike under every relation on errors under which its body is. -/
theorem alike_forM {E : ε → ε → Prop} {f : β → Tx σ ε PUnit} (bs : List β)
    (hf : ∀ b ∈ bs, Alike R R E Eq (f b) (f b)) : Alike R R E Eq (forM bs f) (forM bs f) := by
  induction bs with
  | nil => exact alike_pure rfl
  | cons b bs ih =>
    rw [List.forM_cons]
    exact (hf b List.mem_cons_self).bind fun _ _ _ =>
      ih fun b' hb' => hf b' (List.mem_cons_of_mem b hb')

end

/-- A transaction on a component is alike where the components are related and put back
into related states. -/
theorem Alike.zoom {R : σ → σ → Prop} {S : τ → τ → Prop} {E : ε → ε → Prop} {A : α → β → Prop}
    {view : σ → τ} {put : τ → σ → σ} {x : Tx τ ε α} {y : Tx τ ε β} (h : Alike S S E A x y)
    (hview : ∀ s t, R s t → S (view s) (view t))
    (hput : ∀ s t a b, R s t → S a b → R (put a s) (put b t)) :
    Alike R R E A (Tx.zoom view put x) (Tx.zoom view put y) := by
  intro s t hst
  have hrun := h (view s) (view t) (hview s t hst)
  unfold Tx.zoom StateT.run
  unfold StateT.run at hrun
  beta_reduce
  generalize x (view s) = p, y (view t) = q at hrun ⊢
  cases hrun with
  | error h => exact .error h
  | ok h => exact .ok ⟨h.1, hput s t _ _ hst h.2⟩

/-- A sequence goes on from what its first part left. -/
theorem run_bind_of_ok {x : Tx σ ε α} {f : α → Tx σ ε β} {s s' : σ} {a : α}
    (h : x.run s = .ok (a, s')) : (x >>= f).run s = (f a).run s' := by
  rw [StateT.run_bind, h]
  rfl

/-- A sequence whose first part fails fails. -/
theorem run_bind_of_error {x : Tx σ ε α} {f : α → Tx σ ε β} {s : σ} {e : ε}
    (h : x.run s = .error e) : (x >>= f).run s = .error e := by
  rw [StateT.run_bind, h]
  rfl

theorem run_failIf_of {c : Prop} [Decidable c] {e : ε} {s : σ} (h : c) :
    (failIf c e : Tx σ ε Unit).run s = .error e := by
  unfold failIf
  rw [if_pos h]
  rfl

/-! ## Runs -/

section Runs

variable {R : σ → σ → Prop} {E : ω → ε → ε → Prop} (exec : ω → Tx σ ε α)

/-- The operations of a list, each with what it answered when it was attempted. -/
def outcomes : List ω → σ → List (ω × Except ε α)
  | [], _ => []
  | op :: ops, s => (op, ((exec op).run s).map Prod.fst) :: outcomes ops ((exec op).attempt s)

/-- The same operation with related outcomes. -/
def SameOutcome (E : ω → ε → ε → Prop) (p q : ω × Except ε α) : Prop :=
  p.1 = q.1 ∧ ResultAlike (E p.1) Eq p.2 q.2

variable {exec}

/-- Transactions that are alike are attempted alike. -/
theorem Alike.attempt {F : ε → ε → Prop} {A : α → β → Prop} {x : Tx σ ε α} {y : Tx σ ε β}
    (h : Alike R R F A x y) {s t : σ} (hst : R s t) : R (x.attempt s) (y.attempt t) := by
  have hrun := h s t hst
  unfold Tx.attempt
  generalize x.run s = p, y.run t = q at hrun
  cases hrun with
  | error h => exact hst
  | ok h => exact h.2

theorem Alike.outcome {F : ε → ε → Prop} {A : α → β → Prop} {x : Tx σ ε α} {y : Tx σ ε β}
    (h : Alike R R F A x y) {s t : σ} (hst : R s t) :
    ResultAlike F A ((x.run s).map Prod.fst) ((y.run t).map Prod.fst) := by
  have hrun := h s t hst
  generalize x.run s = p, y.run t = q at hrun
  cases hrun with
  | error h => exact .error h
  | ok h => exact .ok h.1

/-- What is done with the answer does not change the state that is left. -/
theorem attempt_map (f : α → β) (x : Tx σ ε α) (s : σ) : (f <$> x).attempt s = x.attempt s := by
  unfold attempt
  rw [StateT.run_map]
  cases x.run s with
  | error e => rfl
  | ok p => rfl

/-- Runs from related states have related outcomes and end in related states. -/
theorem attemptAll_alike (h : ∀ op, Alike R R (E op) Eq (exec op) (exec op)) (ops : List ω)
    {s t : σ} (hst : R s t) :
    List.Forall₂ (SameOutcome E) (outcomes exec ops s) (outcomes exec ops t) ∧
      R (attemptAll exec ops s) (attemptAll exec ops t) := by
  induction ops generalizing s t with
  | nil => exact ⟨.nil, hst⟩
  | cons op ops ih =>
    obtain ⟨houtcomes, hstates⟩ := ih ((h op).attempt hst)
    exact ⟨.cons ⟨rfl, (h op).outcome hst⟩ houtcomes, hstates⟩

end Runs

end Tx

end Foundation

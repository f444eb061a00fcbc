import Mathlib

/-!
# Transactions with rollback

A transaction reads and writes a state and may fail. A failure carries no state,
so everything written before it is rolled back. This file gives the rules by which
a successful transaction is taken apart into its steps, and the rule by which a
preorder on states that every step follows is followed by the whole transaction.
-/

namespace Foundation

/-- A transaction on the state `σ`: it fails with an error, or it returns a value
together with the state it wrote. -/
abbrev Tx (σ ε α : Type) := StateT σ (Except ε) α

namespace Tx

variable {σ ε α β : Type}

/-- Fail with `e` when the check `c` finds something wrong. -/
def failIf (c : Prop) [Decidable c] (e : ε) : Tx σ ε Unit :=
  if c then throw e else pure ()

/-- Take the value out of a lookup, failing with `e` when nothing was found. -/
def demand (o : Option α) (e : ε) : Tx σ ε α :=
  match o with
  | some a => pure a
  | none => throw e

/-- Use the outcome of a computation that does not touch the state. -/
def ofExcept (x : Except ε α) : Tx σ ε α :=
  match x with
  | .ok a => pure a
  | .error e => throw e

/-- The state after the transaction has been attempted: what it wrote when it
succeeds, and the unchanged state when it fails. -/
def attempt (x : Tx σ ε α) (s : σ) : σ :=
  match x.run s with
  | .ok (_, s') => s'
  | .error _ => s

/-- Run a transaction on one component of a larger state. -/
def zoom {τ : Type} (view : σ → τ) (put : τ → σ → σ) (x : Tx τ ε α) : Tx σ ε α := fun s =>
  match x.run (view s) with
  | .ok (a, t) => .ok (a, put t s)
  | .error e => .error e

/-- Raise the failures of a transaction in another form. -/
def mapErr (f : ε → ε) (x : Tx σ ε α) : Tx σ ε α := fun s =>
  match x.run s with
  | .ok p => .ok p
  | .error e => .error (f e)

theorem run_pure_ok {a b : α} {s s' : σ} :
    (pure a : Tx σ ε α).run s = .ok (b, s') ↔ a = b ∧ s = s' := by
  change (Except.ok (a, s) : Except ε (α × σ)) = .ok (b, s') ↔ _
  rw [Except.ok.injEq, Prod.mk.injEq]

/-- A successful sequence of two transactions succeeds in both of them, the second
starting from the state the first one left. -/
theorem run_bind_ok {x : Tx σ ε α} {f : α → Tx σ ε β} {s s'' : σ} {b : β} :
    (x >>= f).run s = .ok (b, s'') ↔
      ∃ a s', x.run s = .ok (a, s') ∧ (f a).run s' = .ok (b, s'') := by
  change (Except.bind (x.run s) fun p => (f p.1).run p.2) = _ ↔ _
  cases hx : x.run s with
  | error e => simp [Except.bind]
  | ok p =>
    obtain ⟨a, s'⟩ := p
    constructor
    · intro h
      exact ⟨a, s', rfl, h⟩
    · rintro ⟨a', t, heq, h⟩
      cases heq
      exact h

theorem run_map_ok {f : α → β} {x : Tx σ ε α} {s s' : σ} {b : β} :
    (f <$> x).run s = .ok (b, s') ↔ ∃ a, x.run s = .ok (a, s') ∧ f a = b := by
  rw [← bind_pure_comp, run_bind_ok]
  constructor
  · rintro ⟨a, t, hx, hpure⟩
    obtain ⟨rfl, rfl⟩ := run_pure_ok.mp hpure
    exact ⟨a, hx, rfl⟩
  · rintro ⟨a, hx, rfl⟩
    exact ⟨a, s', hx, run_pure_ok.mpr ⟨rfl, rfl⟩⟩

theorem run_throw_ok {e : ε} {s s' : σ} {a : α} :
    (throw e : Tx σ ε α).run s = .ok (a, s') ↔ False := by
  change (Except.error e : Except ε (α × σ)) = .ok (a, s') ↔ False
  simp

theorem run_get_ok {s s' a : σ} :
    (get : Tx σ ε σ).run s = .ok (a, s') ↔ s = a ∧ s = s' := by
  change (Except.ok (s, s) : Except ε (σ × σ)) = .ok (a, s') ↔ _
  rw [Except.ok.injEq, Prod.mk.injEq]

theorem run_set_ok {s s' t : σ} {u : PUnit} :
    (set t : Tx σ ε PUnit).run s = .ok (u, s') ↔ t = s' := by
  change (Except.ok (PUnit.unit, t) : Except ε (PUnit × σ)) = .ok (u, s') ↔ _
  rw [Except.ok.injEq, Prod.mk.injEq]
  exact ⟨fun h => h.2, fun h => ⟨rfl, h⟩⟩

theorem run_modify_ok {f : σ → σ} {s s' : σ} {u : PUnit} :
    (modify f : Tx σ ε PUnit).run s = .ok (u, s') ↔ f s = s' := by
  change (Except.ok (PUnit.unit, f s) : Except ε (PUnit × σ)) = .ok (u, s') ↔ _
  rw [Except.ok.injEq, Prod.mk.injEq]
  exact ⟨fun h => h.2, fun h => ⟨rfl, h⟩⟩

theorem run_failIf_ok {c : Prop} [Decidable c] {e : ε} {s s' : σ} {u : Unit} :
    (failIf c e : Tx σ ε Unit).run s = .ok (u, s') ↔ ¬c ∧ s = s' := by
  unfold failIf
  split
  · rename_i hc
    rw [run_throw_ok]
    exact ⟨False.elim, fun h => h.1 hc⟩
  · rename_i hc
    rw [run_pure_ok]
    exact ⟨fun h => ⟨hc, h.2⟩, fun h => ⟨rfl, h.2⟩⟩

theorem run_demand_ok {o : Option α} {e : ε} {s s' : σ} {a : α} :
    (demand o e : Tx σ ε α).run s = .ok (a, s') ↔ o = some a ∧ s = s' := by
  cases o with
  | none =>
    change (throw e : Tx σ ε α).run s = .ok (a, s') ↔ _
    rw [run_throw_ok]
    exact ⟨False.elim, fun h => (by cases h.1)⟩
  | some b =>
    change (pure b : Tx σ ε α).run s = .ok (a, s') ↔ _
    rw [run_pure_ok, Option.some.injEq]

theorem run_ofExcept_ok {x : Except ε α} {s s' : σ} {a : α} :
    (ofExcept x : Tx σ ε α).run s = .ok (a, s') ↔ x = .ok a ∧ s = s' := by
  cases x with
  | error e =>
    change (throw e : Tx σ ε α).run s = .ok (a, s') ↔ _
    rw [run_throw_ok]
    exact ⟨False.elim, fun h => (by cases h.1)⟩
  | ok b =>
    change (pure b : Tx σ ε α).run s = .ok (a, s') ↔ _
    rw [run_pure_ok, Except.ok.injEq]

theorem run_zoom_ok {τ : Type} {view : σ → τ} {put : τ → σ → σ} {x : Tx τ ε α} {s s' : σ}
    {a : α} :
    (zoom view put x).run s = .ok (a, s') ↔
      ∃ t, x.run (view s) = .ok (a, t) ∧ put t s = s' := by
  change (match x.run (view s) with
    | .ok (a, t) => Except.ok (a, put t s)
    | .error e => .error e) = _ ↔ _
  cases x.run (view s) with
  | error e => simp
  | ok p =>
    obtain ⟨b, t⟩ := p
    simp only [Except.ok.injEq, Prod.mk.injEq]
    constructor
    · rintro ⟨rfl, rfl⟩
      exact ⟨t, ⟨rfl, rfl⟩, rfl⟩
    · rintro ⟨t', ⟨rfl, rfl⟩, rfl⟩
      exact ⟨rfl, rfl⟩

theorem run_mapErr_ok {f : ε → ε} {x : Tx σ ε α} {s s' : σ} {a : α} :
    (mapErr f x).run s = .ok (a, s') ↔ x.run s = .ok (a, s') := by
  change (match x.run s with
    | .ok p => Except.ok p
    | .error e => .error (f e)) = _ ↔ _
  cases x.run s with
  | error e => simp
  | ok p => exact Iff.rfl

theorem run_forM_nil_ok {f : β → Tx σ ε PUnit} {s s' : σ} {u : PUnit} :
    (forM [] f).run s = .ok (u, s') ↔ s = s' := by
  rw [List.forM_nil, run_pure_ok]
  exact ⟨fun h => h.2, fun h => ⟨rfl, h⟩⟩

theorem run_forM_cons_ok {f : β → Tx σ ε PUnit} {b : β} {bs : List β} {s s'' : σ}
    {u : PUnit} :
    (forM (b :: bs) f).run s = .ok (u, s'') ↔
      ∃ s', (f b).run s = .ok (PUnit.unit, s') ∧
        (forM bs f).run s' = .ok (PUnit.unit, s'') := by
  rw [List.forM_cons, run_bind_ok]
  exact ⟨fun ⟨_, s', h, h'⟩ => ⟨s', h, h'⟩, fun ⟨s', h, h'⟩ => ⟨PUnit.unit, s', h, h'⟩⟩

theorem run_mapM_nil_ok {f : β → Tx σ ε α} {s s' : σ} {as : List α} :
    (([] : List β).mapM' f).run s = .ok (as, s') ↔ [] = as ∧ s = s' := by
  rw [List.mapM'_nil, run_pure_ok]

/-- A successful loop succeeds at its first element and then in the rest of the
loop, and collects their results in order. -/
theorem run_mapM_cons_ok {f : β → Tx σ ε α} {b : β} {bs : List β} {s s'' : σ}
    {as : List α} :
    ((b :: bs).mapM' f).run s = .ok (as, s'') ↔
      ∃ a s' as', (f b).run s = .ok (a, s') ∧ (bs.mapM' f).run s' = .ok (as', s'') ∧
        a :: as' = as := by
  rw [List.mapM'_cons, run_bind_ok]
  constructor
  · rintro ⟨a, s', hb, hrest⟩
    obtain ⟨as', t, hbs, hpure⟩ := run_bind_ok.mp hrest
    obtain ⟨rfl, rfl⟩ := run_pure_ok.mp hpure
    exact ⟨a, s', as', hb, hbs, rfl⟩
  · rintro ⟨a, s', as', hb, hbs, rfl⟩
    exact ⟨a, s', hb, run_bind_ok.mpr ⟨as', s'', hbs, run_pure_ok.mpr ⟨rfl, rfl⟩⟩⟩

/-- Every successful run of `x` moves the state along the relation `R`. -/
def Follows (R : σ → σ → Prop) (x : Tx σ ε α) : Prop :=
  ∀ s a s', x.run s = .ok (a, s') → R s s'

section Follows

variable {R : σ → σ → Prop}

theorem Follows.mono {S : σ → σ → Prop} {x : Tx σ ε α} (h : ∀ s s', R s s' → S s s')
    (hx : Follows R x) : Follows S x :=
  fun s a s' hrun => h s s' (hx s a s' hrun)

theorem follows_throw (e : ε) : Follows R (throw e : Tx σ ε α) :=
  fun _ _ _ h => (run_throw_ok.mp h).elim

theorem follows_modify {f : σ → σ} (h : ∀ s, R s (f s)) :
    Follows R (modify f : Tx σ ε PUnit) := by
  intro s u s' hrun
  rw [← run_modify_ok.mp hrun]
  exact h s

theorem Follows.mapErr {x : Tx σ ε α} (f : ε → ε) (hx : Follows R x) :
    Follows R (Tx.mapErr f x) :=
  fun s a s' h => hx s a s' (run_mapErr_ok.mp h)

/-- A transaction on a component follows what it follows there. -/
theorem Follows.zoom {τ : Type} {view : σ → τ} {put : τ → σ → σ} {S : τ → τ → Prop}
    {x : Tx τ ε α} (hx : Follows S x) (hput : ∀ s t, S (view s) t → R s (put t s)) :
    Follows R (Tx.zoom view put x) := by
  intro s a s' hrun
  obtain ⟨t, hx', rfl⟩ := run_zoom_ok.mp hrun
  exact hput s t (hx _ a t hx')

variable [IsPreorder σ R]

/-- A transaction that leaves the state alone follows every preorder. -/
theorem Follows.of_reads {x : Tx σ ε α} (h : ∀ s a s', x.run s = .ok (a, s') → s = s') :
    Follows R x := by
  intro s a s' hrun
  rw [← h s a s' hrun]
  exact refl_of R s

theorem follows_pure (a : α) : Follows R (pure a : Tx σ ε α) :=
  .of_reads fun _ _ _ h => (run_pure_ok.mp h).2

theorem follows_get : Follows R (get : Tx σ ε σ) :=
  .of_reads fun _ _ _ h => (run_get_ok.mp h).2

theorem follows_failIf (c : Prop) [Decidable c] (e : ε) :
    Follows R (failIf c e : Tx σ ε Unit) :=
  .of_reads fun _ _ _ h => (run_failIf_ok.mp h).2

theorem follows_demand (o : Option α) (e : ε) : Follows R (demand o e : Tx σ ε α) :=
  .of_reads fun _ _ _ h => (run_demand_ok.mp h).2

theorem follows_ofExcept (x : Except ε α) : Follows R (ofExcept x : Tx σ ε α) :=
  .of_reads fun _ _ _ h => (run_ofExcept_ok.mp h).2

/-- A sequence follows a preorder that both of its parts follow. -/
theorem Follows.bind {x : Tx σ ε α} {f : α → Tx σ ε β} (hx : Follows R x)
    (hf : ∀ a, Follows R (f a)) : Follows R (x >>= f) := by
  intro s b s'' hrun
  obtain ⟨a, s', hxa, hfa⟩ := run_bind_ok.mp hrun
  exact trans_of R (hx s a s' hxa) (hf a s' b s'' hfa)

/-- A loop follows a preorder that its body follows at every element. -/
theorem follows_forM {f : β → Tx σ ε PUnit} (bs : List β) (hf : ∀ b ∈ bs, Follows R (f b)) :
    Follows R (forM bs f) := by
  induction bs with
  | nil => exact .of_reads fun _ _ _ h => run_forM_nil_ok.mp h
  | cons b bs ih =>
    rw [List.forM_cons]
    exact (hf b List.mem_cons_self).bind fun _ =>
      ih fun b' hb' => hf b' (List.mem_cons_of_mem b hb')

theorem follows_mapM {f : β → Tx σ ε α} (bs : List β) (hf : ∀ b ∈ bs, Follows R (f b)) :
    Follows R (bs.mapM' f) := by
  induction bs with
  | nil => exact .of_reads fun _ _ _ h => (run_mapM_nil_ok.mp h).2
  | cons b bs ih =>
    rw [List.mapM'_cons]
    exact (hf b List.mem_cons_self).bind fun a =>
      (ih fun b' hb' => hf b' (List.mem_cons_of_mem b hb')).bind fun as => follows_pure (a :: as)

/-- A loop that carries a value follows a preorder that its body follows. -/
theorem follows_foldlM {f : α → β → Tx σ ε α} (bs : List β) (hf : ∀ a b, Follows R (f a b))
    (a : α) : Follows R (bs.foldlM f a) := by
  induction bs generalizing a with
  | nil =>
    rw [List.foldlM_nil]
    exact follows_pure a
  | cons b bs ih =>
    rw [List.foldlM_cons]
    exact (hf a b).bind fun a' => ih a'

/-- What a loop starts with, and its body preserves, holds of its result. -/
theorem foldlM_invariant {f : α → β → Tx σ ε α} {I : α → σ → Prop} {bs : List β}
    (hstep : ∀ b ∈ bs, ∀ a s a' s', I a s → (f a b).run s = .ok (a', s') → I a' s') {a a' : α}
    {s s' : σ} (h : I a s) (hrun : (bs.foldlM f a).run s = .ok (a', s')) : I a' s' := by
  induction bs generalizing a s with
  | nil =>
    obtain ⟨rfl, rfl⟩ := run_pure_ok.mp hrun
    exact h
  | cons b bs ih =>
    rw [List.foldlM_cons, run_bind_ok] at hrun
    obtain ⟨a₁, s₁, hb, hrest⟩ := hrun
    exact ih (fun b' hb' => hstep b' (List.mem_cons_of_mem b hb'))
      (hstep b List.mem_cons_self a s a₁ s₁ h hb) hrest

/-- Attempting a transaction follows the preorder also when the transaction fails. -/
theorem Follows.attempt {x : Tx σ ε α} (hx : Follows R x) (s : σ) : R s (x.attempt s) := by
  unfold Tx.attempt
  split
  · exact hx s _ _ ‹_›
  · exact refl_of R s

end Follows

/-! ## Runs -/

section Runs

variable {ω : Type} (exec : ω → Tx σ ε α)

/-- Attempt the operations of a list in order, each failure being rolled back. -/
def attemptAll (ops : List ω) (s : σ) : σ := ops.foldl (fun s op => (exec op).attempt s) s

/-- Every operation of the list that succeeds when its turn comes satisfies `P` in the
state it starts from. -/
def AllAccepted (P : ω → σ → Prop) : List ω → σ → Prop
  | [], _ => True
  | op :: ops, s =>
    ((∃ a s', (exec op).run s = .ok (a, s')) → P op s) ∧ AllAccepted P ops ((exec op).attempt s)

/-- The operations of the list that succeed when their turn comes. -/
def acceptedAlong : List ω → σ → List ω
  | [], _ => []
  | op :: ops, s =>
    if ((exec op).run s).toBool then op :: acceptedAlong ops ((exec op).attempt s)
    else acceptedAlong ops ((exec op).attempt s)

/-- What the operations answer that succeed when their turn comes. -/
def answersAlong : List ω → σ → List α
  | [], _ => []
  | op :: ops, s =>
    match (exec op).run s with
    | .ok (a, s') => a :: answersAlong ops s'
    | .error _ => answersAlong ops s

/-- Every operation of the list satisfies `P` in the state that it starts from. -/
def Along (P : ω → σ → Prop) : List ω → σ → Prop
  | [], _ => True
  | op :: ops, s => P op s ∧ Along P ops ((exec op).attempt s)

variable {exec}

theorem toBool_of_run {x : Tx σ ε α} {s s' : σ} {a : α} (h : x.run s = .ok (a, s')) :
    (x.run s).toBool = true := by
  rw [h]
  rfl

theorem attempt_of_run {x : Tx σ ε α} {s s' : σ} {a : α} (h : x.run s = .ok (a, s')) :
    x.attempt s = s' := by
  unfold attempt
  rw [h]

/-- A run that evaluates to a success succeeds. -/
theorem exists_run_of_toBool {x : Tx σ ε α} {s : σ} (h : (x.run s).toBool = true) :
    ∃ a s', x.run s = .ok (a, s') := by
  cases hx : x.run s with
  | error e =>
    rw [hx] at h
    cases h
  | ok p => exact ⟨p.1, p.2, rfl⟩

/-- What `P` says of an operation in every state holds of all operations of the list. -/
theorem Along.forall_mem {P : ω → σ → Prop} {Q : ω → Prop} (hpq : ∀ op s, P op s → Q op)
    {ops : List ω} {s : σ} (h : Along exec P ops s) : ∀ op ∈ ops, Q op := by
  induction ops generalizing s with
  | nil => simp
  | cons op ops ih =>
    intro op' hop'
    rcases List.mem_cons.mp hop' with rfl | hmem
    · exact hpq op' s h.1
    · exact ih h.2 op' hmem

/-- An attempt leaves the state alone or carries the transaction out. -/
theorem attempt_cases (x : Tx σ ε α) (s : σ) :
    x.attempt s = s ∨ ∃ a, x.run s = .ok (a, x.attempt s) := by
  unfold attempt
  cases h : x.run s with
  | error e => exact .inl rfl
  | ok p => exact .inr ⟨p.1, rfl⟩

theorem attemptAll_append (ops ops' : List ω) (s : σ) :
    attemptAll exec (ops ++ ops') s = attemptAll exec ops' (attemptAll exec ops s) := by
  unfold attemptAll
  rw [List.foldl_append]

/-- What relates the operations accepted so far to the state holds after a run if every accepted
operation keeps it. -/
theorem attemptAll_recorded {I : List ω → σ → Prop}
    (hstep : ∀ before op s a s', I before s → (exec op).run s = .ok (a, s') →
      I (before ++ [op]) s') {before ops : List ω} {s : σ} (hs : I before s) :
    I (before ++ acceptedAlong exec ops s) (attemptAll exec ops s) := by
  induction ops generalizing before s with
  | nil => rwa [acceptedAlong, List.append_nil]
  | cons op ops ih =>
    rw [acceptedAlong]
    change I _ (attemptAll exec ops ((exec op).attempt s))
    cases hrun : (exec op).run s with
    | error e =>
      have hsame : (exec op).attempt s = s := by
        unfold attempt
        rw [hrun]
      rw [hsame]
      exact ih hs
    | ok p =>
      have hnext := hstep before op s p.1 p.2 hs hrun
      have hrest := ih hnext
      rw [List.append_assoc, List.singleton_append] at hrest
      rw [attempt_of_run hrun]
      exact hrest

/-- What relates the answers given so far to the state holds after a run if every accepted
operation keeps it. -/
theorem attemptAll_answered {I : List α → σ → Prop}
    (hstep : ∀ before op s a s', I before s → (exec op).run s = .ok (a, s') →
      I (before ++ [a]) s') {before : List α} {ops : List ω} {s : σ} (hs : I before s) :
    I (before ++ answersAlong exec ops s) (attemptAll exec ops s) := by
  induction ops generalizing before s with
  | nil => rwa [answersAlong, List.append_nil]
  | cons op ops ih =>
    rw [answersAlong]
    change I _ (attemptAll exec ops ((exec op).attempt s))
    cases hrun : (exec op).run s with
    | error e =>
      have hsame : (exec op).attempt s = s := by
        unfold attempt
        rw [hrun]
      rw [hsame]
      exact ih hs
    | ok p =>
      have hrest := ih (hstep before op s p.1 p.2 hs hrun)
      rw [List.append_assoc, List.singleton_append] at hrest
      rw [attempt_of_run hrun]
      exact hrest

theorem allAccepted_append {P : ω → σ → Prop} {ops ops' : List ω} {s : σ} :
    AllAccepted exec P (ops ++ ops') s ↔
      AllAccepted exec P ops s ∧ AllAccepted exec P ops' (attemptAll exec ops s) := by
  induction ops generalizing s with
  | nil => exact ⟨fun h => ⟨trivial, h⟩, fun h => h.2⟩
  | cons op ops ih =>
    rw [List.cons_append, AllAccepted, AllAccepted, ih, and_assoc]
    rfl

/-- What holds at the start and is kept by every accepted operation that satisfies `P`
holds after every run whose accepted operations satisfy `P`. -/
theorem attemptAll_invariant {I : σ → Prop} {P : ω → σ → Prop}
    (hstep : ∀ op s a s', I s → P op s → (exec op).run s = .ok (a, s') → I s')
    {ops : List ω} {s : σ} (hs : I s) (hall : AllAccepted exec P ops s) :
    I (attemptAll exec ops s) := by
  induction ops generalizing s with
  | nil => exact hs
  | cons op ops ih =>
    obtain ⟨hop, hrest⟩ := hall
    refine ih ?_ hrest
    change I ((exec op).attempt s)
    rcases attempt_cases (exec op) s with hsame | ⟨a, hrun⟩
    · rw [hsame]
      exact hs
    · exact hstep op s a _ hs (hop ⟨a, _, hrun⟩) hrun

/-- Along runs on which an invariant holds, conditions that agree on accepted operations
are the same condition. -/
theorem allAccepted_congr {I : σ → Prop} {P Q : ω → σ → Prop}
    (hstep : ∀ op s a s', I s → (exec op).run s = .ok (a, s') → I s')
    (hiff : ∀ op s a s', I s → (exec op).run s = .ok (a, s') → (P op s ↔ Q op s))
    {ops : List ω} {s : σ} (hs : I s) : AllAccepted exec P ops s ↔ AllAccepted exec Q ops s := by
  induction ops generalizing s with
  | nil => exact Iff.rfl
  | cons op ops ih =>
    have hnext : I ((exec op).attempt s) := by
      rcases attempt_cases (exec op) s with hsame | ⟨a, hrun⟩
      · rw [hsame]
        exact hs
      · exact hstep op s a _ hs hrun
    have hhead : ((∃ a s', (exec op).run s = .ok (a, s')) → P op s) ↔
        ((∃ a s', (exec op).run s = .ok (a, s')) → Q op s) :=
      forall_congr' fun ⟨a, s', hrun⟩ => hiff op s a s' hs hrun
    exact and_congr hhead (ih hnext)

theorem allAccepted_take {P : ω → σ → Prop} {ops : List ω} {s : σ}
    (h : AllAccepted exec P ops s) (n : ℕ) : AllAccepted exec P (ops.take n) s := by
  rw [← List.take_append_drop n ops, allAccepted_append] at h
  exact h.1

/-- On a run whose accepted operations satisfy `H`, a property that holds under an
invariant, and that only operations satisfying `P` preserve, holds in every state exactly
when the accepted operations satisfy `P`. -/
theorem forall_attemptAll_iff_of {I Q : σ → Prop} {H P : ω → σ → Prop}
    (hstep : ∀ op s a s', I s → H op s → P op s → (exec op).run s = .ok (a, s') → I s')
    (hproperty : ∀ s, I s → Q s)
    (hnecessary : ∀ op s a s', I s → H op s → (exec op).run s = .ok (a, s') → Q s' → P op s)
    {ops : List ω} {s : σ} (hs : I s) (hops : AllAccepted exec H ops s) :
    (∀ n, Q (attemptAll exec (ops.take n) s)) ↔ AllAccepted exec P ops s := by
  induction ops generalizing s with
  | nil =>
    refine ⟨fun _ => trivial, fun _ n => ?_⟩
    rw [List.take_nil]
    exact hproperty s hs
  | cons op ops ih =>
    obtain ⟨hop, hrest⟩ := hops
    constructor
    · intro h
      have hnext : Q ((exec op).attempt s) := h 1
      rcases attempt_cases (exec op) s with hsame | ⟨a, hrun⟩
      · refine ⟨?_, (ih (by rw [hsame]; exact hs) hrest).mp fun n => h (n + 1)⟩
        rintro ⟨a, s', hrun⟩
        rw [attempt_of_run hrun] at hnext
        exact hnecessary op s a s' hs (hop ⟨a, s', hrun⟩) hrun hnext
      · have hop' := hop ⟨a, _, hrun⟩
        have hp : P op s := hnecessary op s a _ hs hop' hrun hnext
        exact ⟨fun _ => hp, (ih (hstep op s a _ hs hop' hp hrun) hrest).mp fun n => h (n + 1)⟩
    · rintro ⟨hp, hall⟩ n
      cases n with
      | zero => exact hproperty s hs
      | succ n =>
        refine (ih ?_ hrest).mpr hall n
        rcases attempt_cases (exec op) s with hsame | ⟨a, hrun⟩
        · rw [hsame]
          exact hs
        · exact hstep op s a _ hs (hop ⟨a, _, hrun⟩) (hp ⟨a, _, hrun⟩) hrun

/-- Every operation of every run satisfies the trivial condition. -/
theorem allAccepted_true (ops : List ω) (s : σ) : AllAccepted exec (fun _ _ => True) ops s := by
  induction ops generalizing s with
  | nil => trivial
  | cons op ops ih => exact ⟨fun _ => trivial, ih _⟩

/-- The same without a condition on the run. -/
theorem forall_attemptAll_iff {I Q : σ → Prop} {P : ω → σ → Prop}
    (hstep : ∀ op s a s', I s → P op s → (exec op).run s = .ok (a, s') → I s')
    (hproperty : ∀ s, I s → Q s)
    (hnecessary : ∀ op s a s', I s → (exec op).run s = .ok (a, s') → Q s' → P op s)
    {ops : List ω} {s : σ} (hs : I s) :
    (∀ n, Q (attemptAll exec (ops.take n) s)) ↔ AllAccepted exec P ops s :=
  forall_attemptAll_iff_of (fun op s a s' hI _ => hstep op s a s' hI) hproperty
    (fun op s a s' hI _ => hnecessary op s a s' hI) hs (allAccepted_true ops s)

/-- Two states of a run that follow each other are related as the accepted operations
relate them. -/
theorem forall_step_attemptAll {R : σ → σ → Prop} {P : ω → σ → Prop} (hrefl : ∀ s, R s s)
    (hstep : ∀ op s a s', P op s → (exec op).run s = .ok (a, s') → R s s') {ops : List ω} {s : σ}
    (h : AllAccepted exec P ops s) (n : ℕ) :
    R (attemptAll exec (ops.take n) s) (attemptAll exec (ops.take (n + 1)) s) := by
  induction ops generalizing s n with
  | nil =>
    rw [List.take_nil, List.take_nil]
    exact hrefl s
  | cons op ops ih =>
    cases n with
    | zero =>
      change R s ((exec op).attempt s)
      rcases attempt_cases (exec op) s with hsame | ⟨a, hrun⟩
      · rw [hsame]
        exact hrefl s
      · exact hstep op s a _ (h.1 ⟨a, _, hrun⟩) hrun
    | succ n => exact ih h.2 n

/-- An accepted operation of the run satisfies the condition where it starts. -/
theorem AllAccepted.at {P : ω → σ → Prop} {ops : List ω} {s s' : σ} {n : ℕ} {op : ω} {a : α}
    (h : AllAccepted exec P ops s) (hop : ops[n]? = some op)
    (hrun : (exec op).run (attemptAll exec (ops.take n) s) = .ok (a, s')) :
    P op (attemptAll exec (ops.take n) s) := by
  induction ops generalizing s n with
  | nil => cases hop
  | cons op' ops ih =>
    cases n with
    | zero =>
      obtain rfl := Option.some.inj hop
      exact h.1 ⟨a, s', hrun⟩
    | succ n => exact ih h.2 hop hrun

/-- What every accepted operation of the run satisfies where it starts. -/
theorem allAccepted_of_at {P : ω → σ → Prop} {ops : List ω} {s : σ}
    (h : ∀ n op a s', ops[n]? = some op →
      (exec op).run (attemptAll exec (ops.take n) s) = .ok (a, s') →
        P op (attemptAll exec (ops.take n) s)) : AllAccepted exec P ops s := by
  induction ops generalizing s with
  | nil => trivial
  | cons op ops ih =>
    refine ⟨fun ⟨a, s', hrun⟩ => h 0 op a s' rfl hrun, ih ?_⟩
    intro n op' a s' hop hrun
    exact h (n + 1) op' a s' hop hrun

/-- What every operation of the run satisfies where it starts. -/
theorem along_iff {P : ω → σ → Prop} {ops : List ω} {s : σ} :
    Along exec P ops s ↔
      ∀ n op, ops[n]? = some op → P op (attemptAll exec (ops.take n) s) := by
  induction ops generalizing s with
  | nil => exact iff_of_true trivial fun n op hop => by cases hop
  | cons op ops ih =>
    constructor
    · intro h n op' hop
      cases n with
      | zero =>
        obtain rfl := Option.some.inj hop
        exact h.1
      | succ n => exact ih.mp h.2 n op' hop
    · intro h
      exact ⟨h 0 op rfl, ih.mpr fun n op' hop => h (n + 1) op' hop⟩

/-- The state after one more operation of the run. -/
theorem attemptAll_take_succ {ops : List ω} {n : ℕ} {op : ω} (hop : ops[n]? = some op) (s : σ) :
    attemptAll exec (ops.take (n + 1)) s = (exec op).attempt (attemptAll exec (ops.take n) s) := by
  rw [List.take_add_one, hop, Option.toList_some, attemptAll_append]
  rfl

/-- An invariant under which every accepted operation moves the state along a preorder
holds in every state of the run, and a later state is reached along the preorder. -/
theorem attemptAll_along {I : σ → Prop} {P : ω → σ → Prop} {R : σ → σ → Prop} [IsPreorder σ R]
    (hstep : ∀ op s a s', I s → P op s → (exec op).run s = .ok (a, s') → I s' ∧ R s s')
    {ops : List ω} {s : σ} (hs : I s) (h : AllAccepted exec P ops s) {n m : ℕ} (hle : n ≤ m) :
    I (attemptAll exec (ops.take n) s) ∧
      R (attemptAll exec (ops.take n) s) (attemptAll exec (ops.take m) s) := by
  induction ops generalizing s n m with
  | nil =>
    rw [List.take_nil, List.take_nil]
    exact ⟨hs, refl_of R s⟩
  | cons op ops ih =>
    have hnext : I ((exec op).attempt s) ∧ R s ((exec op).attempt s) := by
      rcases attempt_cases (exec op) s with hsame | ⟨a, hrun⟩
      · rw [hsame]
        exact ⟨hs, refl_of R s⟩
      · exact hstep op s a _ hs (h.1 ⟨a, _, hrun⟩) hrun
    cases m with
    | zero =>
      obtain rfl := Nat.le_zero.mp hle
      exact ⟨hs, refl_of R s⟩
    | succ m =>
      cases n with
      | zero => exact ⟨hs, trans_of R hnext.2 (ih hnext.1 h.2 (Nat.zero_le m)).2⟩
      | succ n => exact ih hnext.1 h.2 (Nat.le_of_succ_le_succ hle)

/-- Where a preorder holds across an accepted operation exactly when the operation
satisfies `P`, it holds between all states of a run exactly when the accepted operations
satisfy `P`. -/
theorem attemptAll_related_iff {I : σ → Prop} {P : ω → σ → Prop} {R : σ → σ → Prop}
    [IsPreorder σ R] (hI : ∀ op s a s', I s → (exec op).run s = .ok (a, s') → I s')
    (hiff : ∀ op s a s', I s → (exec op).run s = .ok (a, s') → (P op s ↔ R s s'))
    {ops : List ω} {s : σ} (hs : I s) :
    (∀ n m, n ≤ m → R (attemptAll exec (ops.take n) s) (attemptAll exec (ops.take m) s)) ↔
      AllAccepted exec P ops s := by
  constructor
  · intro h
    induction ops generalizing s with
    | nil => trivial
    | cons op ops ih =>
      have hnext : I ((exec op).attempt s) := by
        rcases attempt_cases (exec op) s with hsame | ⟨a, hrun⟩
        · rw [hsame]
          exact hs
        · exact hI op s a _ hs hrun
      refine ⟨?_, ih hnext fun n m hle => h (n + 1) (m + 1) (Nat.succ_le_succ hle)⟩
      rintro ⟨a, s', hrun⟩
      have hstep : R s ((exec op).attempt s) := h 0 1 (Nat.zero_le 1)
      rw [attempt_of_run hrun] at hstep
      exact (hiff op s a s' hs hrun).mpr hstep
  · intro hall n m hle
    exact (attemptAll_along (I := I) (R := R) (fun op s a s' hI' hop hrun =>
      ⟨hI op s a s' hI' hrun, (hiff op s a s' hI' hrun).mp hop⟩) hs hall hle).2

end Runs

end Tx

/-- A loop of fallible computations that succeeds has a result for every element. -/
theorem forall₂_of_mapM_ok {ε α β : Type} {f : α → Except ε β} {as : List α} {bs : List β}
    (h : as.mapM' f = .ok bs) : List.Forall₂ (fun a b => f a = .ok b) as bs := by
  induction as generalizing bs with
  | nil =>
    cases h
    exact .nil
  | cons a as ih =>
    rw [List.mapM'_cons] at h
    simp only [bind, Except.bind] at h
    split at h
    · cases h
    · rename_i b hb
      split at h
      · cases h
      · rename_i bs' hbs
        cases h
        exact .cons hb (ih hbs)

end Foundation

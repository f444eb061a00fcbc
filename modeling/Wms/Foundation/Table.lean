import Mathlib

/-!
# Tables with a uniqueness constraint

A table is a list of rows in the order they were inserted, no two of which conflict.
Which rows conflict is a parameter: two rows with the same identifier, with the same
value of a unique key, or both. Inserting a row that conflicts with a stored one is
refused, so a table can never hold two conflicting rows.
-/

namespace Foundation

/-- Rows in insertion order, no two of them in conflict. -/
structure Table (ρ : Type) (Conflict : ρ → ρ → Prop) where
  rows : List ρ
  /-- No row conflicts with a later one. -/
  unique : rows.Pairwise fun a b => ¬Conflict a b

namespace Table

variable {ρ : Type} {Conflict : ρ → ρ → Prop}

@[ext] theorem ext {t u : Table ρ Conflict} (h : t.rows = u.rows) : t = u := by
  cases t
  cases u
  cases h
  rfl

/-- The table without rows. -/
def empty : Table ρ Conflict := ⟨[], List.Pairwise.nil⟩

/-- Add a row at the end, unless a stored row conflicts with it. -/
def insert [DecidableRel Conflict] (t : Table ρ Conflict) (r : ρ) : Option (Table ρ Conflict) :=
  if h : ∀ a ∈ t.rows, ¬Conflict a r then
    some ⟨t.rows ++ [r], List.pairwise_append.mpr ⟨t.unique, List.pairwise_singleton _ _, by
      intro a ha b hb
      rw [List.mem_singleton] at hb
      rw [hb]
      exact h a ha⟩⟩
  else none

/-- Rewrite every row by a function that creates no conflicts. -/
def map (t : Table ρ Conflict) (f : ρ → ρ) (hf : ∀ a b, Conflict (f a) (f b) → Conflict a b) :
    Table ρ Conflict :=
  ⟨t.rows.map f, List.pairwise_map.mpr (t.unique.imp fun hab hconf => hab (hf _ _ hconf))⟩

/-- Keep the rows with a property. -/
def filter (t : Table ρ Conflict) (p : ρ → Bool) : Table ρ Conflict :=
  ⟨t.rows.filter p, t.unique.filter p⟩

@[simp] theorem rows_empty : (empty : Table ρ Conflict).rows = [] := rfl

@[simp] theorem rows_map (t : Table ρ Conflict) (f : ρ → ρ)
    (hf : ∀ a b, Conflict (f a) (f b) → Conflict a b) : (t.map f hf).rows = t.rows.map f := rfl

/-- A stored row is found by every property that only rows in conflict with it share. -/
theorem find?_eq_some (t : Table ρ Conflict) {p : ρ → Bool} {r : ρ} (hr : r ∈ t.rows)
    (hp : p r = true) (hconf : ∀ a, p a = true → Conflict a r) : t.rows.find? p = some r := by
  obtain ⟨rows, hunique⟩ := t
  change rows.find? p = some r
  induction rows with
  | nil => cases hr
  | cons a as ih =>
    obtain ⟨hhead, htail⟩ := List.pairwise_cons.mp hunique
    rcases List.mem_cons.mp hr with rfl | hmem
    · rw [List.find?_cons_of_pos hp]
    · cases ha : p a with
      | true => exact absurd (hconf a ha) (hhead r hmem)
      | false =>
        rw [List.find?_cons_of_neg (by rw [ha]; exact Bool.false_ne_true)]
        exact ih htail hmem

/-- Stored rows that conflict are the same row. -/
theorem eq_of_conflict (t : Table ρ Conflict) (hsymm : ∀ a b, Conflict a b → Conflict b a)
    {a b : ρ} (ha : a ∈ t.rows) (hb : b ∈ t.rows) (h : Conflict a b) : a = b := by
  obtain ⟨rows, hunique⟩ := t
  change a ∈ rows at ha
  change b ∈ rows at hb
  induction rows with
  | nil => cases ha
  | cons c cs ih =>
    obtain ⟨hhead, htail⟩ := List.pairwise_cons.mp hunique
    rcases List.mem_cons.mp ha with rfl | ha'
    · rcases List.mem_cons.mp hb with rfl | hb'
      · rfl
      · exact absurd h (hhead b hb')
    · rcases List.mem_cons.mp hb with rfl | hb'
      · exact absurd (hsymm a b h) (hhead a ha')
      · exact ih htail ha' hb'

/-- What a left join gives to a row: its matches, or once nothing. -/
def leftJoin (t : Table ρ Conflict) (p : ρ → Bool) : List (Option ρ) :=
  match t.rows.filter p with
  | [] => [none]
  | r :: rs => (r :: rs).map some

/-- A left join over a key of the table gives one row. -/
theorem leftJoin_eq (t : Table ρ Conflict) {p : ρ → Bool}
    (hkey : ∀ a b, p a = true → p b = true → Conflict a b) : t.leftJoin p = [t.rows.find? p] := by
  have hunique := t.unique.filter p
  unfold leftJoin
  cases hmatches : t.rows.filter p with
  | nil =>
    have hnone : t.rows.find? p = none := by
      rw [List.find?_eq_none]
      exact List.filter_eq_nil_iff.mp hmatches
    rw [hnone]
  | cons r rs =>
    have hr : p r = true := (List.mem_filter.mp (hmatches ▸ List.mem_cons_self)).2
    cases rs with
    | nil =>
      rw [← List.head?_filter, hmatches, List.head?_cons]
      rfl
    | cons r' rs =>
      have hr' : p r' = true :=
        (List.mem_filter.mp (hmatches ▸ List.mem_cons_of_mem _ List.mem_cons_self)).2
      rw [hmatches] at hunique
      exact absurd (hkey r r' hr hr') ((List.pairwise_cons.mp hunique).1 r' List.mem_cons_self)

variable [DecidableRel Conflict]

/-- An accepted row is stored behind the others, with none of which it conflicts. -/
theorem insert_eq_some {t t' : Table ρ Conflict} {r : ρ} :
    t.insert r = some t' ↔ (∀ a ∈ t.rows, ¬Conflict a r) ∧ t'.rows = t.rows ++ [r] := by
  unfold insert
  split
  · rename_i h
    rw [Option.some.injEq]
    constructor
    · intro heq
      rw [← heq]
      exact ⟨h, rfl⟩
    · intro h'
      exact ext h'.2.symm
  · rename_i h
    exact ⟨fun hnone => (by cases hnone), fun h' => absurd h'.1 h⟩

theorem mem_of_insert {t t' : Table ρ Conflict} {r a : ρ} (h : t.insert r = some t')
    (ha : a ∈ t.rows) : a ∈ t'.rows := by
  rw [(insert_eq_some.mp h).2]
  exact List.mem_append_left _ ha

/-- Insert a row, or rewrite the stored rows that it conflicts with. -/
def upsert (t : Table ρ Conflict) (r : ρ) (f : ρ → ρ)
    (hf : ∀ a b, Conflict (f a) b ↔ Conflict a b) (hf' : ∀ a b, Conflict a (f b) ↔ Conflict a b) :
    Table ρ Conflict :=
  match t.insert r with
  | some t' => t'
  | none => t.map (fun a => if Conflict a r then f a else a) (by
      intro a b h
      split at h <;> split at h <;> simpa only [hf, hf'] using h)

theorem insert_eq_none {t : Table ρ Conflict} {r : ρ} :
    t.insert r = none ↔ ∃ a ∈ t.rows, Conflict a r := by
  unfold insert
  split
  · rename_i h
    constructor
    · intro hsome
      cases hsome
    · rintro ⟨a, ha, hconf⟩
      exact absurd hconf (h a ha)
  · rename_i h
    push Not at h
    exact ⟨fun _ => h, fun _ => rfl⟩

/-- An upsert adds the row when none conflicts with it, and rewrites those that do
otherwise. -/
theorem upsert_rows (t : Table ρ Conflict) (r : ρ) {f : ρ → ρ}
    (hf : ∀ a b, Conflict (f a) b ↔ Conflict a b) (hf' : ∀ a b, Conflict a (f b) ↔ Conflict a b) :
    ((∀ a ∈ t.rows, ¬Conflict a r) ∧ (t.upsert r f hf hf').rows = t.rows ++ [r]) ∨
      ((∃ a ∈ t.rows, Conflict a r) ∧
        (t.upsert r f hf hf').rows = t.rows.map fun a => if Conflict a r then f a else a) := by
  unfold upsert
  cases hinsert : t.insert r with
  | some t' => exact .inl (insert_eq_some.mp hinsert)
  | none => exact .inr ⟨insert_eq_none.mp hinsert, rfl⟩

end Table

/-! ## Rows by their key -/

/-- Two rows with the same key. -/
def SameKey {ρ κ : Type} (key : ρ → κ) (a b : ρ) : Prop := key a = key b

instance {ρ κ : Type} {key : ρ → κ} [DecidableEq κ] : DecidableRel (SameKey key) := fun _ _ =>
  inferInstanceAs (Decidable (_ = _))

namespace Table

variable {ρ κ : Type} {key : ρ → κ} [DecidableEq κ] {t t' : Table ρ (SameKey key)} {r a : ρ}
  {k : κ}

/-- The row of a key. -/
def find (t : Table ρ (SameKey key)) (k : κ) : Option ρ := t.rows.find? fun r => key r = k

/-- Write a row in the place of the one with its key. -/
def replace (t : Table ρ (SameKey key)) (r : ρ) : Table ρ (SameKey key) :=
  t.map (fun a => if key a = key r then r else a) fun a b h => by
    unfold SameKey at h ⊢
    split at h <;> split at h
    · rename_i ha hb
      exact ha.trans hb.symm
    · rename_i ha hb
      exact ha.trans h
    · rename_i ha hb
      exact h.trans hb.symm
    · exact h

theorem find_eq_some : t.find k = some r ↔ r ∈ t.rows ∧ key r = k := by
  constructor
  · intro h
    exact ⟨List.mem_of_find?_eq_some h,
      of_decide_eq_true (List.find?_some (p := fun r => decide (key r = k)) h)⟩
  · rintro ⟨hr, rfl⟩
    exact t.find?_eq_some hr (decide_eq_true rfl) fun a ha => of_decide_eq_true ha

theorem find_eq_none : t.find k = none ↔ ∀ r ∈ t.rows, key r ≠ k := by
  unfold find
  simp only [List.find?_eq_none, decide_eq_true_eq, ne_eq]

theorem find_insert (h : t.insert r = some t') :
    t'.find k = if k = key r then some r else t.find k := by
  obtain ⟨hfree, hrows⟩ := insert_eq_some.mp h
  split
  · rename_i hk
    rw [find_eq_some, hrows]
    exact ⟨List.mem_append_right _ (List.mem_singleton_self r), hk.symm⟩
  · rename_i hk
    unfold find
    rw [hrows, List.find?_append, List.find?_singleton, if_neg (by simpa using Ne.symm hk),
      Option.or_none]

theorem mem_replace : a ∈ (t.replace r).rows ↔
    (a = r ∧ ∃ b ∈ t.rows, key b = key r) ∨ (a ∈ t.rows ∧ key a ≠ key r) := by
  unfold replace
  rw [rows_map, List.mem_map]
  constructor
  · rintro ⟨b, hb, rfl⟩
    split
    · rename_i hkey
      exact .inl ⟨rfl, b, hb, hkey⟩
    · rename_i hkey
      exact .inr ⟨hb, hkey⟩
  · rintro (⟨rfl, b, hb, hkey⟩ | ⟨ha, hkey⟩)
    · exact ⟨b, hb, if_pos hkey⟩
    · exact ⟨a, ha, if_neg hkey⟩

theorem find_replace_of_ne (hk : k ≠ key r) : (t.replace r).find k = t.find k := by
  ext a
  rw [find_eq_some, find_eq_some, mem_replace]
  constructor
  · rintro ⟨⟨rfl, -⟩ | ⟨ha, -⟩, rfl⟩
    · exact absurd rfl hk
    · exact ⟨ha, rfl⟩
  · rintro ⟨ha, rfl⟩
    exact ⟨.inr ⟨ha, hk⟩, rfl⟩

theorem find_replace (hr : ∃ b ∈ t.rows, key b = key r) : (t.replace r).find (key r) = some r :=
  find_eq_some.mpr ⟨mem_replace.mpr (.inl ⟨rfl, hr⟩), rfl⟩

/-- Writing a stored row again changes nothing. -/
theorem replace_of_mem (hr : r ∈ t.rows) : t.replace r = t := by
  apply ext
  unfold replace
  rw [rows_map]
  refine (List.map_congr_left fun a ha => ?_).trans (List.map_id _)
  split
  · rename_i hkey
    exact (t.eq_of_conflict (fun _ _ => Eq.symm) ha hr hkey).symm
  · rfl

/-- Rows that are not asked for may be written. -/
theorem filter_replace {p : ρ → Bool} (hold : ∀ a ∈ t.rows, key a = key r → p a = false)
    (hr : p r = false) : (t.replace r).rows.filter p = t.rows.filter p := by
  unfold replace
  rw [rows_map, List.filter_map]
  have hfilter : t.rows.filter (p ∘ fun a => if key a = key r then r else a) =
      t.rows.filter p := by
    apply List.filter_congr
    intro a ha
    rw [Function.comp_apply]
    split
    · rename_i hkey
      rw [hr, hold a ha hkey]
    · rfl
  rw [hfilter]
  refine (List.map_congr_left fun a ha => ?_).trans (List.map_id _)
  obtain ⟨hmem, hp⟩ := List.mem_filter.mp ha
  apply if_neg
  intro hkey
  rw [hold a hmem hkey] at hp
  cases hp

/-- A row that was found is still found after an insertion. -/
theorem find_insert_of_some (h : t.insert r = some t') (ha : t.find k = some a) :
    t'.find k = some a := by
  obtain ⟨hmem, hkey⟩ := find_eq_some.mp ha
  exact find_eq_some.mpr ⟨mem_of_insert h hmem, hkey⟩

/-- The rows of a key that stay when the others are taken out. -/
theorem find_filter {p : ρ → Bool} : (t.filter p).find k = (t.find k).filter p := by
  ext a
  rw [find_eq_some, Option.filter_eq_some_iff, find_eq_some, and_right_comm]
  exact and_congr_left fun _ => List.mem_filter

/-- The row of a key is gone once the rows of that key are taken out. -/
theorem find_filter_ne {k' : κ} :
    (t.filter fun r => key r ≠ k').find k = if k = k' then none else t.find k := by
  rw [find_filter]
  cases hr : t.find k with
  | none => simp
  | some r =>
    have hkey := (find_eq_some.mp hr).2
    by_cases hk : k = k' <;> simp [hkey, hk]

/-- A row stays where some row of its key does. -/
theorem find_filter_ne_of_mem {k' : κ} (hr : t.find k = some r)
    (h : ∃ a ∈ (t.filter fun a => key a ≠ k').rows, key a = k) :
    (t.filter fun a => key a ≠ k').find k = some r := by
  obtain ⟨a, ha, rfl⟩ := h
  have hne : key a ≠ k' := of_decide_eq_true (List.mem_filter.mp ha).2
  rw [find_filter_ne, if_neg hne, hr]

end Table

/-- Each member of a list that is related to another list entry by entry has its entry. -/
theorem exists_of_forall₂ {α β : Type} {R : α → β → Prop} {as : List α} {bs : List β}
    (h : List.Forall₂ R as bs) {a : α} (ha : a ∈ as) : ∃ b ∈ bs, R a b := by
  induction h with
  | nil => cases ha
  | cons hab _ ih =>
    rcases List.mem_cons.mp ha with rfl | hmem
    · exact ⟨_, List.mem_cons_self, hab⟩
    · obtain ⟨b, hb, hR⟩ := ih hmem
      exact ⟨b, List.mem_cons_of_mem _ hb, hR⟩

/-! ## Sorting by a key -/

section Sorting

variable {ρ κ : Type} [LinearOrder κ]

/-- `ORDER BY`. -/
def orderBy (key : ρ → κ) (rows : List ρ) : List ρ := rows.insertionSort fun a b => key a ≤ key b

@[simp] theorem mem_orderBy {key : ρ → κ} {rows : List ρ} {r : ρ} :
    r ∈ orderBy key rows ↔ r ∈ rows :=
  (List.perm_insertionSort _ rows).mem_iff

/-- Rows with distinct keys are sorted strictly. -/
theorem orderBy_pairwise {key : ρ → κ} {rows : List ρ} (h : (rows.map key).Nodup) :
    (orderBy key rows).Pairwise fun a b => key a < key b := by
  have hsorted : (orderBy key rows).Pairwise fun a b => key a ≤ key b :=
    List.pairwise_insertionSort _ rows
  have hnodup : ((orderBy key rows).map key).Nodup :=
    ((List.perm_insertionSort _ rows).map key).nodup_iff.mpr h
  rw [List.Nodup, List.pairwise_map] at hnodup
  refine (hsorted.and hnodup).imp ?_
  rintro a b ⟨hle, hne⟩
  exact lt_of_le_of_ne hle hne

end Sorting

/-- An identifier above all that are in use. -/
def nextId : List ℕ → ℕ
  | [] => 1
  | n :: ns => max (n + 1) (nextId ns)

theorem lt_nextId {n : ℕ} {ns : List ℕ} (h : n ∈ ns) : n < nextId ns := by
  induction ns with
  | nil => cases h
  | cons m ms ih =>
    rcases List.mem_cons.mp h with rfl | hmem
    · exact lt_of_lt_of_le (Nat.lt_succ_self n) (le_max_left _ _)
    · exact lt_of_lt_of_le (ih hmem) (le_max_right _ _)

theorem nextId_notMem (ns : List ℕ) : nextId ns ∉ ns :=
  fun h => lt_irrefl _ (lt_nextId h)

theorem nextId_pos (ns : List ℕ) : 0 < nextId ns := by
  induction ns with
  | nil => exact Nat.one_pos
  | cons n ns ih => exact lt_of_lt_of_le ih (le_max_right _ _)

end Foundation

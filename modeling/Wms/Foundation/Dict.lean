import Mathlib

/-!
# Dictionaries in insertion order

A dictionary is a list of keys with their values. Setting the value of a key that is
there leaves the key in its place, and a new key goes to the end. Every key occurs once
in what is built in this way, so looking a key up and finding its entry agree.
-/

namespace Foundation.Dict

variable {κ α : Type} [DecidableEq κ]

/-- Set the value of a key from the value that it has, if it has one. -/
def adjust (k : κ) (f : Option α → α) : List (κ × α) → List (κ × α)
  | [] => [(k, f none)]
  | p :: rest => if p.1 = k then (k, f (some p.2)) :: rest else p :: adjust k f rest

theorem lookup_cons (p : κ × α) (d : List (κ × α)) (k : κ) :
    (p :: d).lookup k = if k = p.1 then some p.2 else d.lookup k := by
  rw [List.lookup]
  split
  · rename_i heq
    rw [if_pos (eq_of_beq heq)]
  · rename_i hne
    rw [if_neg (by simpa using hne)]

/-- Only the value of the key itself has changed. -/
theorem lookup_adjust (k : κ) (f : Option α → α) (d : List (κ × α)) (k' : κ) :
    (adjust k f d).lookup k' = if k' = k then some (f (d.lookup k)) else d.lookup k' := by
  induction d with
  | nil =>
    rw [adjust, lookup_cons]
    rfl
  | cons p rest ih =>
    rw [adjust]
    by_cases hp : p.1 = k
    · rw [if_pos hp, lookup_cons, lookup_cons, lookup_cons, hp, if_pos rfl]
      split <;> rfl
    · rw [if_neg hp, lookup_cons, lookup_cons, lookup_cons, ih, if_neg (Ne.symm hp)]
      by_cases hk : k' = p.1
      · rw [if_pos hk, if_neg (by rw [hk]; exact hp), if_pos hk]
      · rw [if_neg hk, if_neg hk]

theorem mem_keys_adjust {k k' : κ} {f : Option α → α} {d : List (κ × α)} :
    k' ∈ (adjust k f d).map Prod.fst ↔ k' = k ∨ k' ∈ d.map Prod.fst := by
  induction d with
  | nil => simp [adjust]
  | cons p rest ih =>
    rw [adjust]
    split
    · rename_i hp
      simp [hp]
    · rw [List.map_cons, List.mem_cons, ih, List.map_cons, List.mem_cons]
      tauto

theorem nodup_adjust (k : κ) (f : Option α → α) {d : List (κ × α)}
    (h : (d.map Prod.fst).Nodup) : ((adjust k f d).map Prod.fst).Nodup := by
  induction d with
  | nil => simp [adjust]
  | cons p rest ih =>
    obtain ⟨hp, hrest⟩ := List.nodup_cons.mp h
    rw [adjust]
    split
    · rename_i heq
      rw [heq] at hp
      exact List.nodup_cons.mpr ⟨hp, hrest⟩
    · rename_i hne
      refine List.nodup_cons.mpr ⟨fun hmem => ?_, ih hrest⟩
      rcases mem_keys_adjust.mp hmem with heq | hold
      · exact hne heq
      · exact hp hold

theorem lookup_eq_none {k : κ} {d : List (κ × α)} (h : k ∉ d.map Prod.fst) :
    d.lookup k = none := by
  induction d with
  | nil => rfl
  | cons p rest ih =>
    rw [List.map_cons, List.mem_cons, not_or] at h
    rw [lookup_cons, if_neg h.1, ih h.2]

/-- Where every key occurs once, the entry of a key is the one that it looks up. -/
theorem lookup_of_mem {p : κ × α} {d : List (κ × α)} (h : (d.map Prod.fst).Nodup)
    (hp : p ∈ d) : d.lookup p.1 = some p.2 := by
  induction d with
  | nil => cases hp
  | cons q rest ih =>
    obtain ⟨hq, hrest⟩ := List.nodup_cons.mp h
    rw [lookup_cons]
    rcases List.mem_cons.mp hp with rfl | hmem
    · rw [if_pos rfl]
    · have hne : p.1 ≠ q.1 := fun heq => hq (heq ▸ List.mem_map_of_mem hmem)
      rw [if_neg hne, ih hrest hmem]

theorem mem_of_lookup {k : κ} {a : α} {d : List (κ × α)} (h : d.lookup k = some a) :
    (k, a) ∈ d := by
  induction d with
  | nil => cases h
  | cons p rest ih =>
    rw [lookup_cons] at h
    split at h
    · rename_i hk
      obtain rfl := Option.some.inj h
      exact hk ▸ List.mem_cons_self
    · exact List.mem_cons_of_mem _ (ih h)

/-! ## Setting several keys -/

/-- Set the keys one after the other. -/
def assign (pairs : List (κ × α)) : List (κ × α) :=
  pairs.foldl (fun d p => adjust p.1 (fun _ => p.2) d) []

/-- A key that is set several times has the last value. -/
theorem lookup_assign (pairs : List (κ × α)) (k : κ) :
    (assign pairs).lookup k = pairs.reverse.lookup k := by
  induction pairs using List.reverseRecOn with
  | nil => rfl
  | append_singleton pairs p ih =>
    have hlast : assign (pairs ++ [p]) = adjust p.1 (fun _ => p.2) (assign pairs) := by
      simp [assign, List.foldl_append]
    rw [hlast, lookup_adjust, ih, List.reverse_append, List.reverse_singleton,
      List.singleton_append, lookup_cons]

theorem mem_of_lookup_assign {pairs : List (κ × α)} {k : κ} {a : α}
    (h : (assign pairs).lookup k = some a) : (k, a) ∈ pairs := by
  rw [lookup_assign] at h
  exact List.mem_reverse.mp (mem_of_lookup h)

/-- A key that is set once has the value of its pair. -/
theorem lookup_assign_of_mem {pairs : List (κ × α)} {p : κ × α}
    (h : (pairs.map Prod.fst).Nodup) (hp : p ∈ pairs) :
    (assign pairs).lookup p.1 = some p.2 := by
  have hreverse : (pairs.reverse.map Prod.fst).Nodup := by
    rw [List.map_reverse]
    exact List.nodup_reverse.mpr h
  rw [lookup_assign]
  exact lookup_of_mem hreverse (List.mem_reverse.mpr hp)

/-! ## Sums by key -/

/-- Where every key occurs once, the entries of a key add up to what it looks up. -/
theorem sum_filter_key {d : List (κ × ℤ)} (h : (d.map Prod.fst).Nodup) (k : κ) :
    ((d.filter fun p => p.1 = k).map Prod.snd).sum = (d.lookup k).getD 0 := by
  induction d with
  | nil => rfl
  | cons p rest ih =>
    obtain ⟨hp, hrest⟩ := List.nodup_cons.mp h
    by_cases hk : p.1 = k
    · have hnone : rest.lookup k = none := lookup_eq_none (hk ▸ hp)
      rw [List.filter_cons_of_pos (by simpa using hk), List.map_cons, List.sum_cons, ih hrest,
        hnone, lookup_cons, if_pos hk.symm, Option.getD_none, add_zero, Option.getD_some]
    · rw [List.filter_cons_of_neg (by simpa using hk), ih hrest, lookup_cons,
        if_neg (Ne.symm hk)]

section Tally

variable {ρ : Type}

/-- The sums of a quantity over the rows with each key. -/
def tally (key : ρ → κ) (qty : ρ → ℤ) (rows : List ρ) : List (κ × ℤ) :=
  rows.foldl (fun d r => adjust (key r) (fun q => q.getD 0 + qty r) d) []

/-- Each key occurs once, with the sum over its rows. -/
theorem tally_spec (key : ρ → κ) (qty : ρ → ℤ) (rows : List ρ) :
    ((tally key qty rows).map Prod.fst).Nodup ∧ ∀ k, ((tally key qty rows).lookup k).getD 0 =
      ((rows.filter fun r => key r = k).map qty).sum := by
  suffices hfold : ∀ d : List (κ × ℤ), (d.map Prod.fst).Nodup →
      ((rows.foldl (fun d r => adjust (key r) (fun q => q.getD 0 + qty r) d) d).map
        Prod.fst).Nodup ∧ ∀ k, ((rows.foldl
          (fun d r => adjust (key r) (fun q => q.getD 0 + qty r) d) d).lookup k).getD 0 =
            (d.lookup k).getD 0 + ((rows.filter fun r => key r = k).map qty).sum by
    obtain ⟨hnodup, hsum⟩ := hfold [] List.nodup_nil
    exact ⟨hnodup, fun k => (hsum k).trans (zero_add _)⟩
  induction rows with
  | nil => exact fun d hd => ⟨hd, fun k => (add_zero _).symm⟩
  | cons r rows ih =>
    intro d hd
    obtain ⟨hnodup, hsum⟩ :=
      ih (adjust (key r) (fun q => q.getD 0 + qty r) d) (nodup_adjust _ _ hd)
    refine ⟨hnodup, fun k => ?_⟩
    rw [List.foldl_cons, hsum, lookup_adjust]
    by_cases hk : key r = k
    · rw [if_pos hk.symm, List.filter_cons_of_pos (by simpa using hk), List.map_cons,
        List.sum_cons, hk, Option.getD_some, add_assoc]
    · rw [if_neg (Ne.symm hk), List.filter_cons_of_neg (by simpa using hk)]

theorem mem_keys_tally {key : ρ → κ} {qty : ρ → ℤ} {rows : List ρ} {k : κ} :
    k ∈ (tally key qty rows).map Prod.fst ↔ ∃ r ∈ rows, key r = k := by
  suffices hfold : ∀ d : List (κ × ℤ),
      k ∈ (rows.foldl (fun d r => adjust (key r) (fun q => q.getD 0 + qty r) d) d).map Prod.fst ↔
        k ∈ d.map Prod.fst ∨ ∃ r ∈ rows, key r = k by
    exact (hfold []).trans (by simp)
  induction rows with
  | nil => simp
  | cons r rows ih =>
    intro d
    rw [List.foldl_cons, ih, mem_keys_adjust, List.exists_mem_cons_iff]
    tauto

/-- The entries are the keys of the rows with their sums. -/
theorem mem_tally {key : ρ → κ} {qty : ρ → ℤ} {rows : List ρ} {k : κ} {q : ℤ} :
    (k, q) ∈ tally key qty rows ↔
      (∃ r ∈ rows, key r = k) ∧ q = ((rows.filter fun r => key r = k).map qty).sum := by
  obtain ⟨hnodup, hsum⟩ := tally_spec key qty rows
  constructor
  · intro h
    refine ⟨mem_keys_tally.mp (List.mem_map_of_mem h), ?_⟩
    rw [← hsum, lookup_of_mem hnodup h, Option.getD_some]
  · rintro ⟨hrow, rfl⟩
    obtain ⟨⟨k', q⟩, hp, rfl⟩ := List.mem_map.mp ((mem_keys_tally (κ := κ)).mpr hrow)
    have hq := hsum k'
    rw [lookup_of_mem hnodup hp, Option.getD_some] at hq
    rw [← hq]
    exact hp

theorem tally_map {σ : Type} (key : ρ → κ) (qty : ρ → ℤ) (f : σ → ρ) (rows : List σ) :
    tally key qty (rows.map f) = tally (key ∘ f) (qty ∘ f) rows := by
  unfold tally
  rw [List.foldl_map]
  rfl

end Tally

end Foundation.Dict

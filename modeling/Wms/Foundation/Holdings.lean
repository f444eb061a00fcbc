import Wms.Foundation.Dict
import Wms.Foundation.Table

/-!
# Keys that belong to owners

A table in which every key occurs once says which owner a key belongs to. The keys of an
owner are written as a whole: what the owner held is released, and rows for the new keys
are added. This file says what every owner holds afterwards.
-/

namespace Foundation

variable {ρ κ ω : Type} {key : ρ → κ} {owner : ρ → ω}

namespace Table

variable {Conflict : ρ → ρ → Prop} [DecidableRel Conflict]

/-- Add the rows of a list at the end, unless one of them conflicts with a row before it. -/
def insertAll (t : Table ρ Conflict) : List ρ → Option (Table ρ Conflict)
  | [] => some t
  | r :: rs => (t.insert r).bind fun t' => t'.insertAll rs

theorem rows_of_insertAll {t t' : Table ρ Conflict} {rs : List ρ} (h : t.insertAll rs = some t') :
    t'.rows = t.rows ++ rs := by
  induction rs generalizing t with
  | nil =>
    obtain rfl := Option.some.inj h
    rw [List.append_nil]
  | cons r rs ih =>
    obtain ⟨u, hinsert, hrest⟩ := Option.bind_eq_some_iff.mp h
    rw [ih hrest, (insert_eq_some.mp hinsert).2, List.append_assoc, List.singleton_append]

end Table

namespace Holdings

/-- The owner has a row for the key. -/
def Holds (owner : ρ → ω) (t : Table ρ (SameKey key)) (w : ω) (k : κ) : Prop :=
  ∃ r ∈ t.rows, owner r = w ∧ key r = k

/-- The rows for some of the keys that belong to others. -/
def taken [DecidableEq κ] [DecidableEq ω] (owner : ρ → ω) (t : Table ρ (SameKey key)) (w : ω)
    (keys : List κ) : List ρ :=
  t.rows.filter fun r => key r ∈ keys ∧ owner r ≠ w

/-- Drop the rows of an owner. -/
def release [DecidableEq ω] (owner : ρ → ω) (t : Table ρ (SameKey key)) (w : ω) :
    Table ρ (SameKey key) :=
  t.filter fun r => owner r ≠ w

/-- Drop the rows for some keys. -/
def withdraw [DecidableEq κ] (t : Table ρ (SameKey key)) (keys : List κ) :
    Table ρ (SameKey key) :=
  t.filter fun r => key r ∉ keys

variable {t t' : Table ρ (SameKey key)} {w w' : ω} {k : κ}

/-- A key belongs to one owner. -/
theorem Holds.owner_eq (h : Holds owner t w k) (h' : Holds owner t w' k) : w = w' := by
  obtain ⟨r, hr, rfl, hk⟩ := h
  obtain ⟨r', hr', rfl, hk'⟩ := h'
  have hsame : r = r' :=
    t.eq_of_conflict (fun _ _ => Eq.symm) hr hr' (hk.trans hk'.symm)
  rw [hsame]

theorem not_holds_empty : ¬Holds owner (Table.empty : Table ρ (SameKey key)) w k := by
  rintro ⟨r, hr, -⟩
  exact absurd hr List.not_mem_nil

/-- What is held after the keys of an owner have been written. -/
theorem holds_insertAll_release [DecidableEq κ] [DecidableEq ω] {rs : List ρ}
    (hrs : ∀ r ∈ rs, owner r = w) (h : (release owner t w).insertAll rs = some t') :
    Holds owner t' w' k ↔ if w' = w then k ∈ rs.map key else Holds owner t w' k := by
  have hrows : ∀ r, r ∈ t'.rows ↔ (r ∈ t.rows ∧ owner r ≠ w) ∨ r ∈ rs := by
    intro r
    rw [Table.rows_of_insertAll h, List.mem_append]
    simp [release, Table.filter]
  split
  · rename_i hw
    rw [hw, List.mem_map]
    constructor
    · rintro ⟨r, hr, howner, hk⟩
      rcases (hrows r).mp hr with ⟨-, hne⟩ | hmem
      · exact absurd howner hne
      · exact ⟨r, hmem, hk⟩
    · rintro ⟨r, hr, hk⟩
      exact ⟨r, (hrows r).mpr (.inr hr), hrs r hr, hk⟩
  · rename_i hw
    constructor
    · rintro ⟨r, hr, howner, hk⟩
      rcases (hrows r).mp hr with ⟨hold, -⟩ | hmem
      · exact ⟨r, hold, howner, hk⟩
      · exact absurd (howner.symm.trans (hrs r hmem)) hw
    · rintro ⟨r, hr, howner, hk⟩
      refine ⟨r, (hrows r).mpr (.inl ⟨hr, ?_⟩), howner, hk⟩
      rw [howner]
      exact hw

theorem holds_withdraw [DecidableEq κ] {keys : List κ} :
    Holds owner (withdraw t keys) w k ↔ Holds owner t w k ∧ k ∉ keys := by
  unfold Holds withdraw Table.filter
  constructor
  · rintro ⟨r, hr, howner, rfl⟩
    obtain ⟨hold, hkey⟩ := List.mem_filter.mp hr
    exact ⟨⟨r, hold, howner, rfl⟩, of_decide_eq_true hkey⟩
  · rintro ⟨⟨r, hr, howner, rfl⟩, hkey⟩
    exact ⟨r, List.mem_filter.mpr ⟨hr, decide_eq_true hkey⟩, howner, rfl⟩

/-- Looking up a key finds the owner that holds it. -/
theorem lookup_eq_some_iff [DecidableEq κ] :
    (t.rows.map fun r => (key r, owner r)).lookup k = some w ↔ Holds owner t w k := by
  have hnodup : ((t.rows.map fun r => (key r, owner r)).map Prod.fst).Nodup := by
    rw [List.map_map, List.Nodup, List.pairwise_map]
    exact t.unique.imp fun hne heq => hne heq
  constructor
  · intro h
    obtain ⟨r, hr, heq⟩ := List.mem_map.mp (Dict.mem_of_lookup h)
    obtain ⟨hk, howner⟩ := Prod.mk.inj heq
    exact ⟨r, hr, howner, hk⟩
  · rintro ⟨r, hr, rfl, rfl⟩
    exact Dict.lookup_of_mem hnodup (List.mem_map_of_mem hr)

end Holdings

end Foundation

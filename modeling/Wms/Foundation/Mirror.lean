import Wms.Foundation.Table

/-!
# Mirroring a list of rows

A mirror is a table with a primary key and another unique key. Rows are put into it one
at a time: a row whose primary key is there replaces the stored row, and a row whose
unique key belongs to a stored row with another primary key is refused. This file says
which lists of rows a mirror accepts, and what it holds afterwards.
-/

namespace Foundation

namespace Mirror

variable {ρ ι κ β : Type} {pk : ρ → ι} {uk : ρ → κ}

/-- Two rows that a mirror cannot hold together. -/
def Clash (pk : ρ → ι) (uk : ρ → κ) (a b : ρ) : Prop := pk a = pk b ∨ uk a = uk b

theorem Clash.symm {a b : ρ} (h : Clash pk uk a b) : Clash pk uk b a := h.imp Eq.symm Eq.symm

/-- Stored rows with the same primary key are the same row. -/
theorem eq_of_pk (t : Table ρ (Clash pk uk)) {a b : ρ} (ha : a ∈ t.rows) (hb : b ∈ t.rows)
    (h : pk a = pk b) : a = b :=
  t.eq_of_conflict (fun _ _ => Clash.symm) ha hb (.inl h)

/-- Stored rows with the same unique key are the same row. -/
theorem eq_of_uk (t : Table ρ (Clash pk uk)) {a b : ρ} (ha : a ∈ t.rows) (hb : b ∈ t.rows)
    (h : uk a = uk b) : a = b :=
  t.eq_of_conflict (fun _ _ => Clash.symm) ha hb (.inr h)

variable [DecidableEq ι] [DecidableEq κ]

instance : DecidableRel (Clash pk uk) := fun _ _ => inferInstanceAs (Decidable (_ ∨ _))

/-- Replace the stored row with the primary key of `r`. -/
def replace (t : Table ρ (Clash pk uk)) (r : ρ) (h : ∀ a ∈ t.rows, uk a = uk r → pk a = pk r) :
    Table ρ (Clash pk uk) where
  rows := t.rows.map fun a => if pk a = pk r then r else a
  unique := by
    rw [List.pairwise_map]
    refine t.unique.imp_of_mem fun {a b} ha hb hab hclash => ?_
    split at hclash <;> split at hclash
    · rename_i ha' hb'
      exact hab (.inl (ha'.trans hb'.symm))
    · rename_i ha' hb'
      rcases hclash with hpk | huk
      · exact hb' hpk.symm
      · exact hb' (h b hb huk.symm)
    · rename_i ha' hb'
      rcases hclash with hpk | huk
      · exact ha' hpk
      · exact ha' (h a ha huk)
    · exact hab hclash

/-- Add a row that clashes with no stored one. -/
def add (t : Table ρ (Clash pk uk)) (r : ρ) (h : ∀ a ∈ t.rows, ¬Clash pk uk a r) :
    Table ρ (Clash pk uk) where
  rows := t.rows ++ [r]
  unique := by
    refine List.pairwise_append.mpr ⟨t.unique, List.pairwise_singleton _ _, ?_⟩
    intro a ha b hb
    rw [List.mem_singleton.mp hb]
    exact h a ha

/-- Put a row into the table, unless its unique key belongs to another row. -/
def put (t : Table ρ (Clash pk uk)) (r : ρ) : Option (Table ρ (Clash pk uk)) :=
  if h : ∀ a ∈ t.rows, uk a = uk r → pk a = pk r then
    if hpk : ∀ a ∈ t.rows, pk a ≠ pk r then
      some (add t r fun a ha hclash => hclash.elim (hpk a ha) fun huk => hpk a ha (h a ha huk))
    else some (replace t r h)
  else none

/-- Put the rows of a list into the table, one after the other. -/
def putAll (t : Table ρ (Clash pk uk)) (rs : List ρ) : Option (Table ρ (Clash pk uk)) :=
  rs.foldlM put t

variable {t t' : Table ρ (Clash pk uk)} {r : ρ} {rs : List ρ}

theorem put_isSome_iff : (put t r).isSome ↔ ∀ a ∈ t.rows, uk a = uk r → pk a = pk r := by
  unfold put
  split
  · rename_i h
    split <;> exact ⟨fun _ => h, fun _ => rfl⟩
  · rename_i h
    exact ⟨nofun, fun h' => absurd h' h⟩

/-- Afterwards the row is there, and so are the rows with other primary keys. -/
theorem mem_put (h : put t r = some t') (a : ρ) :
    a ∈ t'.rows ↔ a = r ∨ (a ∈ t.rows ∧ pk a ≠ pk r) := by
  unfold put at h
  split at h
  · split at h
    · rename_i hpk
      obtain rfl := Option.some.inj h
      change a ∈ t.rows ++ [r] ↔ _
      rw [List.mem_append, List.mem_singleton]
      constructor
      · rintro (ha | rfl)
        · exact .inr ⟨ha, hpk a ha⟩
        · exact .inl rfl
      · rintro (rfl | ⟨ha, -⟩)
        · exact .inr rfl
        · exact .inl ha
    · rename_i hpk
      obtain rfl := Option.some.inj h
      push Not at hpk
      obtain ⟨old, hold, hsame⟩ := hpk
      change a ∈ t.rows.map _ ↔ _
      rw [List.mem_map]
      constructor
      · rintro ⟨c, hc, rfl⟩
        split
        · exact .inl rfl
        · rename_i hne
          exact .inr ⟨hc, hne⟩
      · rintro (rfl | ⟨ha, hne⟩)
        · exact ⟨old, hold, if_pos hsame⟩
        · exact ⟨a, ha, if_neg hne⟩
  · cases h

theorem putAll_nil : putAll t [] = some t := rfl

theorem putAll_cons_eq_some :
    putAll t (r :: rs) = some t' ↔ ∃ t₁, put t r = some t₁ ∧ putAll t₁ rs = some t' := by
  unfold putAll
  rw [List.foldlM_cons]
  exact Option.bind_eq_some_iff

theorem putAll_append_eq_some {ss : List ρ} :
    putAll t (rs ++ ss) = some t' ↔ ∃ t₁, putAll t rs = some t₁ ∧ putAll t₁ ss = some t' := by
  unfold putAll
  rw [List.foldlM_append]
  exact Option.bind_eq_some_iff

/-- Afterwards the rows of the list are there, and so are the rows with other primary
keys. -/
theorem mem_putAll (hpk : (rs.map pk).Nodup) (h : putAll t rs = some t') (a : ρ) :
    a ∈ t'.rows ↔ a ∈ rs ∨ (a ∈ t.rows ∧ pk a ∉ rs.map pk) := by
  induction rs generalizing t with
  | nil =>
    obtain rfl := Option.some.inj h
    simp
  | cons r rs ih =>
    obtain ⟨t₁, hput, hrest⟩ := putAll_cons_eq_some.mp h
    rw [List.map_cons, List.nodup_cons] at hpk
    rw [ih hpk.2 hrest, mem_put hput, List.mem_cons, List.map_cons, List.mem_cons]
    constructor
    · rintro (hmem | ⟨rfl | ⟨hmem, hne⟩, hnot⟩)
      · exact .inl (.inr hmem)
      · exact .inl (.inl rfl)
      · exact .inr ⟨hmem, fun h => h.elim hne hnot⟩
    · rintro ((rfl | hmem) | ⟨hmem, hnot⟩)
      · exact .inr ⟨.inl rfl, hpk.1⟩
      · exact .inl hmem
      · exact .inr ⟨.inr ⟨hmem, fun h => hnot (.inl h)⟩, fun h => hnot (.inr h)⟩

/-- A unique key that moves from a stored row to a row of the list has been given up by
then: the list has a new row for its holder before. -/
def InOrder (t : Table ρ (Clash pk uk)) (rs : List ρ) : Prop :=
  ∀ before r after, rs = before ++ r :: after →
    ∀ a ∈ t.rows, uk a = uk r → pk a = pk r ∨ pk a ∈ before.map pk

/-- After the first row of a list was put, the others are in order exactly when they were
so before, the first row counting as given up, and none of them has its unique key. -/
theorem inOrder_of_put {t₁ : Table ρ (Clash pk uk)} (hput : put t r = some t₁)
    (hpk : ((r :: rs).map pk).Nodup) :
    InOrder t₁ rs ↔ uk r ∉ rs.map uk ∧
      ∀ before s after, rs = before ++ s :: after → ∀ a ∈ t.rows, uk a = uk s →
        pk a = pk s ∨ pk a ∈ (r :: before).map pk := by
  rw [List.map_cons, List.nodup_cons] at hpk
  constructor
  · intro horder
    constructor
    · intro hkey
      obtain ⟨s, hs, huk⟩ := List.mem_map.mp hkey
      obtain ⟨before, after, rfl⟩ := List.append_of_mem hs
      have hnew := horder before s after rfl r ((mem_put hput r).mpr (.inl rfl)) huk.symm
      -- the primary key of the first row is the one of no other
      refine hpk.1 ?_
      rw [List.map_append, List.map_cons, List.mem_append, List.mem_cons]
      exact hnew.elim (fun h => .inr (.inl h)) .inl
    · intro before s after hrs a ha huk
      by_cases hsame : pk a = pk r
      · exact .inr (List.mem_cons.mpr (.inl hsame))
      · have hkept : a ∈ t₁.rows := (mem_put hput a).mpr (.inr ⟨ha, hsame⟩)
        exact (horder before s after hrs a hkept huk).imp_right (List.mem_cons_of_mem _)
  · rintro ⟨hkey, horder⟩ before s after hrs a ha huk
    rcases (mem_put hput a).mp ha with rfl | ⟨hmem, hne⟩
    · refine absurd (List.mem_map.mpr ⟨s, ?_, huk.symm⟩) hkey
      rw [hrs]
      exact List.mem_append_right _ List.mem_cons_self
    · exact (horder before s after hrs a hmem huk).imp_right
        fun h => (List.mem_cons.mp h).resolve_left hne

/-- A mirror accepts a list of rows with different primary keys exactly when their unique
keys differ too and every key that moves has been given up before. -/
theorem putAll_isSome_iff (hpk : (rs.map pk).Nodup) :
    (putAll t rs).isSome ↔ (rs.map uk).Nodup ∧ InOrder t rs := by
  induction rs generalizing t with
  | nil => exact ⟨fun _ => ⟨List.nodup_nil, by simp [InOrder]⟩, fun _ => rfl⟩
  | cons r rs ih =>
    have hsplit : InOrder t (r :: rs) ↔
        (∀ a ∈ t.rows, uk a = uk r → pk a = pk r) ∧
          ∀ before s after, rs = before ++ s :: after → ∀ a ∈ t.rows, uk a = uk s →
            pk a = pk s ∨ pk a ∈ (r :: before).map pk := by
      constructor
      · intro h
        refine ⟨fun a ha huk => ?_, fun before s after hrs a ha huk => ?_⟩
        · exact (h [] r rs rfl a ha huk).resolve_right List.not_mem_nil
        · exact h (r :: before) s after (by rw [hrs]; rfl) a ha huk
      · rintro ⟨hfirst, hrest⟩ before s after hrs a ha huk
        rcases List.cons_eq_append_iff.mp hrs with ⟨rfl, hs⟩ | ⟨before', rfl, hrs'⟩
        · obtain ⟨rfl, -⟩ := List.cons.inj hs
          exact .inl (hfirst a ha huk)
        · exact hrest before' s after hrs' a ha huk
    rw [hsplit, List.map_cons, List.nodup_cons]
    have hpk' : (rs.map pk).Nodup := (List.nodup_cons.mp hpk).2
    cases hput : put t r with
    | none =>
      have hnot : ¬∀ a ∈ t.rows, uk a = uk r → pk a = pk r := by
        rw [← put_isSome_iff, hput]
        exact Bool.false_ne_true
      have hnone : ¬(putAll t (r :: rs)).isSome := by
        rw [Option.isSome_iff_exists]
        rintro ⟨t', ht'⟩
        obtain ⟨t₁, ht₁, -⟩ := putAll_cons_eq_some.mp ht'
        rw [hput] at ht₁
        cases ht₁
      exact ⟨fun h => absurd h hnone, fun h => absurd h.2.1 hnot⟩
    | some t₁ =>
      have hfirst : ∀ a ∈ t.rows, uk a = uk r → pk a = pk r := by
        rw [← put_isSome_iff, hput]
        rfl
      have hcons : putAll t (r :: rs) = putAll t₁ rs := by
        unfold putAll
        rw [List.foldlM_cons, hput]
        rfl
      rw [hcons, ih hpk', inOrder_of_put hput hpk]
      tauto

/-! ## Putting rows that are there -/

/-- Putting a row that differs from a stored one only in what `f` does not see changes
nothing that `f` sees. -/
theorem put_of_mem {f : ρ → β} (hpkf : ∀ a b, f a = f b → pk a = pk b)
    (hukf : ∀ a b, f a = f b → uk a = uk b) (hmem : ∃ a ∈ t.rows, f a = f r) :
    ∃ t₁, put t r = some t₁ ∧ t₁.rows.map f = t.rows.map f := by
  obtain ⟨old, hold, hf⟩ := hmem
  have hown : ∀ a ∈ t.rows, uk a = uk r → pk a = pk r := by
    intro a ha huk
    rw [eq_of_uk t ha hold (huk.trans (hukf old r hf).symm)]
    exact hpkf old r hf
  have hpk : ¬∀ a ∈ t.rows, pk a ≠ pk r := fun h => h old hold (hpkf old r hf)
  refine ⟨replace t r hown, by rw [put, dif_pos hown, dif_neg hpk], ?_⟩
  change (t.rows.map _).map f = _
  rw [List.map_map]
  refine List.map_congr_left fun a ha => ?_
  change f (if pk a = pk r then r else a) = f a
  split
  · rename_i hsame
    rw [← hf, eq_of_pk t ha hold (hsame.trans (hpkf old r hf).symm)]
  · rfl

theorem putAll_of_mem {f : ρ → β} (hpkf : ∀ a b, f a = f b → pk a = pk b)
    (hukf : ∀ a b, f a = f b → uk a = uk b) (hmem : ∀ r ∈ rs, f r ∈ t.rows.map f) :
    ∃ t', putAll t rs = some t' ∧ t'.rows.map f = t.rows.map f := by
  induction rs generalizing t with
  | nil => exact ⟨t, rfl, rfl⟩
  | cons r rs ih =>
    obtain ⟨t₁, hput, hsame⟩ := put_of_mem hpkf hukf
      (List.mem_map.mp (hmem r List.mem_cons_self))
    obtain ⟨t', hrest, hsame'⟩ := ih (t := t₁) fun s hs => by
      rw [hsame]
      exact hmem s (List.mem_cons_of_mem r hs)
    exact ⟨t', putAll_cons_eq_some.mpr ⟨t₁, hput, hrest⟩, hsame'.trans hsame⟩

end Mirror

/-! ## The last element of a kind -/

/-- The element is in the list, and no later one is such. -/
def Last {α : Type} (such : α → Prop) (as : List α) (a : α) : Prop :=
  ∃ before after, as = before ++ a :: after ∧ ∀ later ∈ after, ¬such later

section Last

variable {α : Type} {such : α → Prop} {as : List α} {a b : α}

theorem not_last_nil : ¬Last such [] a := by
  rintro ⟨before, after, h, -⟩
  simp at h

theorem last_append_singleton :
    Last such (as ++ [b]) a ↔ a = b ∨ (Last such as a ∧ ¬such b) := by
  constructor
  · rintro ⟨before, after, h, hafter⟩
    rcases List.eq_nil_or_concat after with rfl | ⟨rest, c, rfl⟩
    · obtain ⟨-, hlast⟩ := List.append_inj' h rfl
      exact .inl (List.singleton_inj.mp hlast).symm
    · rw [List.concat_eq_append] at h hafter
      have hassoc : as ++ [b] = (before ++ a :: rest) ++ [c] := by simpa using h
      obtain ⟨rfl, hlast⟩ := List.append_inj' hassoc rfl
      obtain rfl := List.singleton_inj.mp hlast
      refine .inr ⟨⟨before, rest, rfl, fun later hlater => ?_⟩, ?_⟩
      · exact hafter later (List.mem_append_left _ hlater)
      · exact hafter b (List.mem_append_right _ (List.mem_singleton_self b))
  · rintro (rfl | ⟨⟨before, after, rfl, hafter⟩, hb⟩)
    · exact ⟨as, [], rfl, by simp⟩
    · refine ⟨before, after ++ [b], by simp, fun later hlater => ?_⟩
      rcases List.mem_append.mp hlater with hlater | hlater
      · exact hafter later hlater
      · rwa [List.mem_singleton.mp hlater]

/-- What the last element has, the new element has, or the old one if the new is not such. -/
theorem exists_last_append_singleton {P : α → Prop} :
    (∃ a, Last such (as ++ [b]) a ∧ P a) ↔ P b ∨ ((∃ a, Last such as a ∧ P a) ∧ ¬such b) := by
  simp only [last_append_singleton]
  constructor
  · rintro ⟨a, rfl | ⟨hlast, hb⟩, ha⟩
    · exact .inl ha
    · exact .inr ⟨⟨a, hlast, ha⟩, hb⟩
  · rintro (hb | ⟨⟨a, hlast, ha⟩, hb⟩)
    · exact ⟨b, .inl rfl, hb⟩
    · exact ⟨a, .inr ⟨hlast, hb⟩, ha⟩

end Last

end Foundation

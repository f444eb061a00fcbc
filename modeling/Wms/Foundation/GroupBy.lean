import Mathlib

/-!
# Grouping and joining

Rows are grouped by a key, and grouped again. Whatever is added up over the rows may be added up
group by group. A left join of two groupings gives a row for every pair that belongs together, so
a sum over it is the sum over the rows only where no group belongs to two others.
-/

namespace Foundation

variable {ρ κ κ' β M : Type} [DecidableEq κ] [DecidableEq κ'] [AddCommMonoid M]

/-- Each key with its rows. -/
def groupBy (key : ρ → κ) (rows : List ρ) : List (κ × List ρ) :=
  (rows.map key).dedup.map fun k => (k, rows.filter fun r => key r = k)

/-- What a left join gives to a row: its matches, or once nothing. -/
def leftJoin (others : List β) (on : β → Bool) : List (Option β) :=
  match others.filter on with
  | [] => [none]
  | m :: ms => (m :: ms).map some

variable {key : ρ → κ} {rows : List ρ} {k : κ} {g : κ × List ρ} {others : List β} {on : β → Bool}

theorem mem_groupBy : g ∈ groupBy key rows ↔
    (∃ r ∈ rows, key r = g.1) ∧ g.2 = rows.filter fun r => key r = g.1 := by
  obtain ⟨k, rs⟩ := g
  simp only [groupBy, List.mem_map, List.mem_dedup, Prod.mk.injEq]
  constructor
  · rintro ⟨k, hk, rfl, rfl⟩
    exact ⟨hk, rfl⟩
  · rintro ⟨hk, hrs⟩
    exact ⟨k, hk, rfl, hrs.symm⟩

theorem groupBy_keys : (groupBy key rows).map Prod.fst = (rows.map key).dedup := by
  simp [groupBy, Function.comp_def]

theorem nodup_groupBy : (groupBy key rows).Nodup := by
  apply List.Nodup.of_map Prod.fst
  rw [groupBy_keys]
  exact List.nodup_dedup _

/-- A group has rows. -/
theorem ne_nil_of_mem_groupBy (h : g ∈ groupBy key rows) : g.2 ≠ [] := by
  obtain ⟨⟨r, hr, hkey⟩, hrows⟩ := mem_groupBy.mp h
  rw [hrows]
  exact List.ne_nil_of_mem (List.mem_filter.mpr ⟨hr, decide_eq_true hkey⟩)

/-! ## Sums -/

/-- What is added up over the rows is added up key by key, as long as every row has a key. -/
theorem sum_map_filter {ks : List κ} (hnodup : ks.Nodup) (hcover : ∀ r ∈ rows, key r ∈ ks)
    (f : ρ → M) :
    (ks.map fun k => ((rows.filter fun r => key r = k).map f).sum).sum = (rows.map f).sum := by
  induction rows with
  | nil => simp
  | cons r rows ih =>
    have hrest := ih fun r' hr' => hcover r' (List.mem_cons_of_mem _ hr')
    have hadd : (ks.map fun k => (((r :: rows).filter fun r => key r = k).map f).sum).sum =
        (ks.map fun k => if key r = k then f r else 0).sum +
          (ks.map fun k => ((rows.filter fun r => key r = k).map f).sum).sum := by
      rw [← List.sum_map_add]
      congr 1
      apply List.map_congr_left
      intro k _
      by_cases hk : key r = k <;> simp [hk]
    have hown : (ks.map fun k => if key r = k then f r else 0).sum = f r := by
      rw [List.sum_map_eq_nsmul_single (key r) _ (fun k hk _ => if_neg (Ne.symm hk)),
        List.count_eq_one_of_mem hnodup (hcover r List.mem_cons_self), one_nsmul, if_pos rfl]
    rw [hadd, hown, hrest, List.map_cons, List.sum_cons]

/-- Where the second key fixes the first one, both together group as the second one alone. -/
theorem groupBy_pair {key' : ρ → κ'}
    (h : ∀ r ∈ rows, ∀ s ∈ rows, key' r = key' s → key r = key s) :
    ((groupBy (fun r => (key r, key' r)) rows).map Prod.snd).Perm
      ((groupBy key' rows).map Prod.snd) := by
  have hinj : ∀ p ∈ rows.map (fun r => (key r, key' r)), ∀ q ∈ rows.map fun r => (key r, key' r),
      p.2 = q.2 → p = q := by
    intro p hp q hq hsame
    obtain ⟨r, hr, rfl⟩ := List.mem_map.mp hp
    obtain ⟨s, hs, rfl⟩ := List.mem_map.mp hq
    exact Prod.ext (h r hr s hs hsame) hsame
  have hkeys : ((rows.map fun r => (key r, key' r)).dedup.map Prod.snd).Perm
      (rows.map key').dedup := by
    refine (List.perm_ext_iff_of_nodup ?_ (List.nodup_dedup _)).mpr fun k => ?_
    · refine List.Nodup.map_on (fun p hp q hq hsame => ?_) (List.nodup_dedup _)
      exact hinj p (List.mem_dedup.mp hp) q (List.mem_dedup.mp hq) hsame
    · simp
  have hgroups : (groupBy (fun r => (key r, key' r)) rows).map Prod.snd =
      ((rows.map fun r => (key r, key' r)).dedup.map Prod.snd).map
        fun k => rows.filter fun r => key' r = k := by
    rw [groupBy, List.map_map, List.map_map]
    apply List.map_congr_left
    intro p hp
    apply List.filter_congr
    intro r hr
    have hiff : (key r, key' r) = p ↔ key' r = p.2 := by
      refine ⟨fun hrp => congrArg Prod.snd hrp, fun hsame => ?_⟩
      exact hinj _ (List.mem_map_of_mem hr) p (List.mem_dedup.mp hp) hsame
    simp only [hiff]
  have hothers : (groupBy key' rows).map Prod.snd =
      (rows.map key').dedup.map fun k => rows.filter fun r => key' r = k := by
    simp [groupBy, Function.comp_def]
  rw [hgroups, hothers]
  exact hkeys.map _

/-! ## Joins -/

/-- A sum over the matches of a row. -/
theorem sum_leftJoin (others : List β) (on : β → Bool) (f : β → M) :
    ((leftJoin others on).map fun o => (o.map f).getD 0).sum =
      ((others.filter on).map f).sum := by
  unfold leftJoin
  cases others.filter on with
  | nil => simp
  | cons m ms => simp [Function.comp_def]

/-- The joins agree where the conditions do. -/
theorem leftJoin_congr {on' : β → Bool} (h : ∀ o ∈ others, on o = on' o) :
    leftJoin others on = leftJoin others on' := by
  rw [leftJoin, List.filter_congr h, leftJoin]

theorem leftJoin_map {γ : Type} (f : γ → β) (others : List γ) (on : β → Bool) :
    leftJoin (others.map f) on = (leftJoin others fun o => on (f o)).map (Option.map f) := by
  unfold leftJoin
  rw [List.filter_map]
  simp only [Function.comp_def]
  cases others.filter fun o => on (f o) with
  | nil => rfl
  | cons m ms => simp

/-- A join where exactly one of the others matches. -/
theorem leftJoin_eq_singleton {m : β} (hnodup : others.Nodup)
    (hon : ∀ o ∈ others, on o = true ↔ o = m) (hm : m ∈ others) :
    leftJoin others on = [some m] := by
  have hmatches : others.filter on = [m] := by
    apply List.perm_singleton.mp
    refine (List.perm_ext_iff_of_nodup (hnodup.filter _) (List.nodup_singleton m)).mpr fun o => ?_
    rw [List.mem_filter, List.mem_singleton]
    constructor
    · rintro ⟨ho, hmatch⟩
      exact (hon o ho).mp hmatch
    · rintro rfl
      exact ⟨hm, (hon o hm).mpr rfl⟩
  rw [leftJoin, hmatches]
  rfl

/-- A join where none of the others matches. -/
theorem leftJoin_eq_none (hnone : ∀ o ∈ others, on o = false) : leftJoin others on = [none] := by
  have hmatches : others.filter on = [] := by
    rw [List.filter_eq_nil_iff]
    intro o ho
    simp [hnone o ho]
  rw [leftJoin, hmatches]

/-- A group is joined by its key. -/
theorem leftJoin_groupBy (k : κ) : leftJoin (groupBy key rows) (fun g => g.1 = k) =
    [if (rows.filter fun r => key r = k) = [] then none
      else some (k, rows.filter fun r => key r = k)] := by
  split
  · rename_i hnone
    apply leftJoin_eq_none
    intro g hg
    rw [decide_eq_false_iff_not]
    intro hk
    apply ne_nil_of_mem_groupBy hg
    rw [(mem_groupBy.mp hg).2, hk, hnone]
  · rename_i hsome
    obtain ⟨r, hr⟩ := List.exists_mem_of_ne_nil _ hsome
    obtain ⟨hrow, hkey⟩ := List.mem_filter.mp hr
    refine leftJoin_eq_singleton nodup_groupBy (fun g hg => ?_)
      (mem_groupBy.mpr ⟨⟨r, hrow, of_decide_eq_true hkey⟩, rfl⟩)
    rw [decide_eq_true_eq]
    constructor
    · intro hk
      refine Prod.ext hk ?_
      rw [(mem_groupBy.mp hg).2, hk]
    · rintro rfl
      rfl

end Foundation

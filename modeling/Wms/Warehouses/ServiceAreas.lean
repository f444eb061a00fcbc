import Wms.Foundation.Holdings
import Wms.Orders.Ingest

/-!
# The areas that warehouses serve

Three routes write the tables that routing reads: the provinces of a warehouse, the cities
of a warehouse, and the provinces that are split by city. They strip what they are given
and leave out blanks and repetitions. A province or a city that belongs to another
warehouse is refused; splitting a province takes it away from its warehouse.
-/

namespace Wms

open Foundation

/-! ## Tables -/

/-- A row of `warehouse_service_provinces`. -/
structure ServiceProvince where
  warehouseId : ℕ
  provinceCode : Varchar 64

/-- A row of `warehouse_service_cities`. -/
structure ServiceCity where
  warehouseId : ℕ
  provinceCode : Option (Varchar 32)
  cityCode : Varchar 64

/-- A row of `warehouse_service_city_split_provinces`. -/
structure CitySplitProvince where
  provinceCode : Varchar 32

def ServiceProvince.code (r : ServiceProvince) : String := r.provinceCode.text

def ServiceCity.code (r : ServiceCity) : String := r.cityCode.text

def CitySplitProvince.code (r : CitySplitProvince) : String := r.provinceCode.text

/-- The service tables. A row belongs to a warehouse, and the identifiers of warehouses come
from a sequence. -/
structure ServiceTables where
  /-- The identifiers in `warehouses`. -/
  warehouses : List ℕ
  provinces : Table ServiceProvince (SameKey ServiceProvince.code)
  cities : Table ServiceCity (SameKey ServiceCity.code)
  citySplit : Table CitySplitProvince (SameKey CitySplitProvince.code)
  warehouses_pos : ∀ w ∈ warehouses, 0 < w
  provinces_fk : ∀ r ∈ provinces.rows, r.warehouseId ∈ warehouses
  cities_fk : ∀ r ∈ cities.rows, r.warehouseId ∈ warehouses

/-- No warehouse serves anything. -/
def ServiceTables.initial (warehouses : List ℕ) (h : ∀ w ∈ warehouses, 0 < w) : ServiceTables where
  warehouses := warehouses
  provinces := .empty
  cities := .empty
  citySplit := .empty
  warehouses_pos := h
  provinces_fk _ hr := absurd hr List.not_mem_nil
  cities_fk _ hr := absurd hr List.not_mem_nil

/-- The rows as routing selects them. A city without a province is never selected. -/
def ServiceTables.areas (t : ServiceTables) : ServiceAreas where
  citySplitProvinces := t.citySplit.rows.map CitySplitProvince.code
  provinces := t.provinces.rows.map fun r => (r.code, some r.warehouseId)
  cities := t.cities.rows.filterMap fun r =>
    r.provinceCode.map fun p => ((p.text, r.code), some r.warehouseId)

/-! ## The routes -/

/-- The stripped texts without blanks and repetitions, in order. -/
def normalizeCodes (raw : List String) : List String :=
  ((raw.map strip).filter (· ≠ "")).dedup.insertionSort (· ≤ ·)

/-- `_normalize_provinces`. -/
def normalizeProvinces (raw : List String) : List String := normalizeCodes raw

/-- `_normalize_cities`. -/
def normalizeCities (raw : List String) : List String := normalizeCodes raw

/-- `_normalize` of the provinces that are split. -/
def normalizeSplitProvinces (raw : List String) : List String := normalizeCodes raw

/-- Write the codes of a warehouse, unless one of them belongs to another. -/
def assignCodes {ρ : Type} {code : ρ → String} (owner : ρ → ℕ) (row : ℕ → Varchar 64 → ρ)
    (message field constraint : String) (t : Table ρ (SameKey code)) (warehouseId : ℕ)
    (codes : List String) : Except Err (Table ρ (SameKey code)) := do
  let taken := orderBy code (Holdings.taken owner t warehouseId codes)
  if taken ≠ [] then
    throw (.ownedElsewhere message warehouseId field (taken.map fun r => (code r, owner r)))
  let stored ← codes.mapM' (Varchar.store 64)
  match (Holdings.release owner t warehouseId).insertAll (stored.map (row warehouseId)) with
  | none => throw (.integrityError constraint)
  | some t' => pure t'

/-- The provinces of a warehouse are replaced. -/
def assignProvinces : Table ServiceProvince (SameKey ServiceProvince.code) → ℕ → List String →
    Except Err (Table ServiceProvince (SameKey ServiceProvince.code)) :=
  assignCodes ServiceProvince.warehouseId ServiceProvince.mk
    "省份互斥冲突：部分省份已属于其他仓库，无法绑定。" "province" "uq_wh_service_province_code"

/-- The cities of a warehouse are replaced. The province of a city is not written. -/
def assignCities : Table ServiceCity (SameKey ServiceCity.code) → ℕ → List String →
    Except Err (Table ServiceCity (SameKey ServiceCity.code)) :=
  assignCodes ServiceCity.warehouseId (fun w c => ⟨w, none, c⟩)
    "城市互斥冲突：部分城市已属于其他仓库，无法绑定。" "city" "ux_wh_service_cities_city_code"

/-- Transactions on the service tables. -/
abbrev ServiceTx := Tx ServiceTables Err

/-- `_ensure_warehouse_exists`. -/
def ensureWarehouseExists (warehouseId : ℕ) : ServiceTx PUnit := do
  let t ← get
  Tx.failIf (warehouseId ∉ t.warehouses) (.httpException 404 "warehouse not found")

/-- `put_service_provinces`. -/
def putServiceProvinces (warehouseId : ℕ) (raw : List String) : ServiceTx (List String) := do
  ensureWarehouseExists warehouseId
  let codes := normalizeProvinces raw
  let t ← get
  let provinces ← Tx.ofExcept (assignProvinces t.provinces warehouseId codes)
  if h : ∀ r ∈ provinces.rows, r.warehouseId ∈ t.warehouses then
    set { t with provinces := provinces, provinces_fk := h }
    return codes
  else throw (Err.integrityError "warehouse_service_provinces_warehouse_id_fkey")

/-- `put_service_cities`. -/
def putServiceCities (warehouseId : ℕ) (raw : List String) : ServiceTx (List String) := do
  ensureWarehouseExists warehouseId
  let codes := normalizeCities raw
  let t ← get
  let cities ← Tx.ofExcept (assignCities t.cities warehouseId codes)
  if h : ∀ r ∈ cities.rows, r.warehouseId ∈ t.warehouses then
    set { t with cities := cities, cities_fk := h }
    return codes
  else throw (Err.integrityError "fk_wh_service_cities_warehouse")

/-- `put_city_split_provinces`. -/
def putCitySplitProvinces (raw : List String) : ServiceTx (List String) := do
  let codes := normalizeSplitProvinces raw
  let t ← get
  let stored ← Tx.ofExcept (codes.mapM' (Varchar.store 32))
  match Table.insertAll .empty (stored.map CitySplitProvince.mk) with
  | none => throw (Err.integrityError "warehouse_service_city_split_provinces_pkey")
  | some citySplit =>
    set { t with
      citySplit := citySplit
      provinces := Holdings.withdraw t.provinces codes
      provinces_fk := fun r hr => t.provinces_fk r (List.mem_of_mem_filter hr) }
    return codes

/-! ## What is served -/

/-- The province belongs to the warehouse. -/
def ServiceTables.HasProvince (t : ServiceTables) (w : ℕ) (p : String) : Prop :=
  Holdings.Holds ServiceProvince.warehouseId t.provinces w p

/-- The city belongs to the warehouse. -/
def ServiceTables.HasCity (t : ServiceTables) (w : ℕ) (c : String) : Prop :=
  Holdings.Holds ServiceCity.warehouseId t.cities w c

/-- The province is split by city. -/
def ServiceTables.IsSplit (t : ServiceTables) (p : String) : Prop :=
  p ∈ t.citySplit.rows.map CitySplitProvince.code

/-- No city has a province. -/
def ServiceTables.CitiesWithoutProvince (t : ServiceTables) : Prop :=
  ∀ r ∈ t.cities.rows, r.provinceCode = none

theorem mem_normalizeCodes {raw : List String} {p : String} :
    p ∈ normalizeCodes raw ↔ p ≠ "" ∧ ∃ q ∈ raw, strip q = p := by
  unfold normalizeCodes
  rw [List.mem_insertionSort, List.mem_dedup, List.mem_filter, List.mem_map, decide_eq_true_eq,
    and_comm]

/-- The codes that are written are stripped, so they are stored as they are. -/
theorem map_text_of_store {n : ℕ} {raw : List String} {stored : List (Varchar n)}
    (h : (normalizeCodes raw).mapM' (Varchar.store n) = .ok stored) :
    stored.map Varchar.text = normalizeCodes raw := by
  have hstripped : ∀ p ∈ normalizeCodes raw, strip p = p := by
    intro p hp
    obtain ⟨-, q, -, rfl⟩ := mem_normalizeCodes.mp hp
    exact strip_strip q
  generalize normalizeCodes raw = codes at h hstripped
  have hall := forall₂_of_mapM_ok h
  clear h
  induction hall with
  | nil => rfl
  | cons hstore _ ih =>
    rw [List.map_cons, ih fun p hp => hstripped p (List.mem_cons_of_mem _ hp),
      text_of_store_strip (hstripped _ List.mem_cons_self) hstore]

section Assign

variable {ρ : Type} {code : ρ → String} {owner : ρ → ℕ} {row : ℕ → Varchar 64 → ρ}
  {message field constraint : String} {t t' : Table ρ (SameKey code)} {w : ℕ} {raw : List String}

/-- What an accepted assignment writes. -/
theorem assignCodes_ok
    (h : assignCodes owner row message field constraint t w (normalizeCodes raw) = .ok t') :
    ∃ stored : List (Varchar 64), stored.map Varchar.text = normalizeCodes raw ∧
      (Holdings.release owner t w).insertAll (stored.map (row w)) = some t' := by
  unfold assignCodes at h
  dsimp only at h
  split at h
  · cases h
  · cases hstored : (normalizeCodes raw).mapM' (Varchar.store 64) with
    | error e =>
      rw [hstored] at h
      cases h
    | ok stored =>
      rw [hstored] at h
      refine ⟨stored, map_text_of_store hstored, ?_⟩
      change (match (Holdings.release owner t w).insertAll (stored.map (row w)) with
        | none => throw (.integrityError constraint)
        | some t' => pure t' : Except Err _) = .ok t' at h
      cases hinsert : (Holdings.release owner t w).insertAll (stored.map (row w)) with
      | none =>
        rw [hinsert] at h
        cases h
      | some u =>
        rw [hinsert] at h
        cases h
        rfl

/-- After an accepted assignment the warehouse has the given codes, and the others have what
they had. -/
theorem assignCodes_holds (howner : ∀ c, owner (row w c) = w) (hcode : ∀ c, code (row w c) = c.text)
    (h : assignCodes owner row message field constraint t w (normalizeCodes raw) = .ok t')
    (w' : ℕ) (p : String) :
    Holdings.Holds owner t' w' p ↔
      if w' = w then p ∈ normalizeCodes raw else Holdings.Holds owner t w' p := by
  obtain ⟨stored, htext, hinsert⟩ := assignCodes_ok h
  have hkeys : (stored.map (row w)).map code = normalizeCodes raw := by
    rw [← htext, List.map_map]
    exact List.map_congr_left fun c _ => hcode c
  rw [Holdings.holds_insertAll_release (fun r hr => ?_) hinsert, hkeys]
  obtain ⟨c, -, rfl⟩ := List.mem_map.mp hr
  exact howner c

end Assign

variable {t t' : ServiceTables} {w : ℕ} {raw codes : List String}

theorem ensureWarehouseExists_run_ok {u : PUnit} :
    (ensureWarehouseExists w).run t = .ok (u, t') ↔ w ∈ t.warehouses ∧ t = t' := by
  unfold ensureWarehouseExists
  simp only [Tx.run_bind_ok, Tx.run_get_ok, Tx.run_failIf_ok]
  constructor
  · rintro ⟨_, _, ⟨rfl, rfl⟩, hw, rfl⟩
    exact ⟨not_not.mp hw, rfl⟩
  · rintro ⟨hw, rfl⟩
    exact ⟨t, t, ⟨rfl, rfl⟩, not_not.mpr hw, rfl⟩

/-- The provinces of the warehouse are replaced, and nothing else changes. -/
theorem putServiceProvinces_run_ok
    (h : (putServiceProvinces w raw).run t = .ok (codes, t')) :
    t'.citySplit = t.citySplit ∧ t'.cities = t.cities ∧
      ∀ w' p, t'.HasProvince w' p ↔ if w' = w then p ∈ normalizeCodes raw else t.HasProvince w' p := by
  unfold putServiceProvinces at h
  simp only [Tx.run_bind_ok, ensureWarehouseExists_run_ok, Tx.run_get_ok, Tx.run_ofExcept_ok] at h
  obtain ⟨_, _, ⟨-, rfl⟩, _, _, ⟨rfl, rfl⟩, provinces, _, ⟨hassign, rfl⟩, h⟩ := h
  split at h
  · simp only [Tx.run_bind_ok, Tx.run_set_ok, Tx.run_pure_ok] at h
    obtain ⟨_, _, rfl, -, rfl⟩ := h
    exact ⟨rfl, rfl, assignCodes_holds (fun _ => rfl) (fun _ => rfl) hassign⟩
  · exact (Tx.run_throw_ok.mp h).elim

/-- The cities of the warehouse are replaced, none of them has a province, and nothing else
changes. -/
theorem putServiceCities_run_ok (h : (putServiceCities w raw).run t = .ok (codes, t')) :
    t'.citySplit = t.citySplit ∧ t'.provinces = t.provinces ∧
      (t.CitiesWithoutProvince → t'.CitiesWithoutProvince) ∧
      ∀ w' c, t'.HasCity w' c ↔ if w' = w then c ∈ normalizeCodes raw else t.HasCity w' c := by
  unfold putServiceCities at h
  simp only [Tx.run_bind_ok, ensureWarehouseExists_run_ok, Tx.run_get_ok, Tx.run_ofExcept_ok] at h
  obtain ⟨_, _, ⟨-, rfl⟩, _, _, ⟨rfl, rfl⟩, cities, _, ⟨hassign, rfl⟩, h⟩ := h
  split at h
  · simp only [Tx.run_bind_ok, Tx.run_set_ok, Tx.run_pure_ok] at h
    obtain ⟨_, _, rfl, -, rfl⟩ := h
    refine ⟨rfl, rfl, fun hnone r hr => ?_,
      assignCodes_holds (fun _ => rfl) (fun _ => rfl) hassign⟩
    obtain ⟨stored, -, hinsert⟩ := assignCodes_ok hassign
    change r ∈ cities.rows at hr
    rw [Table.rows_of_insertAll hinsert] at hr
    rcases List.mem_append.mp hr with hold | hnew
    · exact hnone r (List.mem_of_mem_filter hold)
    · obtain ⟨c, -, rfl⟩ := List.mem_map.mp hnew
      rfl
  · exact (Tx.run_throw_ok.mp h).elim

/-- The split provinces are replaced and taken away from their warehouses. -/
theorem putCitySplitProvinces_run_ok
    (h : (putCitySplitProvinces raw).run t = .ok (codes, t')) :
    t'.cities = t.cities ∧ (∀ p, t'.IsSplit p ↔ p ∈ normalizeCodes raw) ∧
      ∀ w p, t'.HasProvince w p ↔ t.HasProvince w p ∧ p ∉ normalizeCodes raw := by
  unfold putCitySplitProvinces at h
  simp only [Tx.run_bind_ok, Tx.run_get_ok, Tx.run_ofExcept_ok] at h
  obtain ⟨_, _, ⟨rfl, rfl⟩, stored, _, ⟨hstored, rfl⟩, h⟩ := h
  split at h
  · exact (Tx.run_throw_ok.mp h).elim
  · rename_i citySplit hinsert
    simp only [Tx.run_bind_ok, Tx.run_set_ok, Tx.run_pure_ok] at h
    obtain ⟨_, _, rfl, -, rfl⟩ := h
    refine ⟨rfl, fun p => ?_, fun w p => Holdings.holds_withdraw⟩
    have hcodes : citySplit.rows.map CitySplitProvince.code = normalizeCodes raw := by
      rw [Table.rows_of_insertAll hinsert, Table.rows_empty, List.nil_append, List.map_map]
      exact map_text_of_store hstored
    unfold ServiceTables.IsSplit
    rw [hcodes]

end Wms

import Wms.Finance.PurchasePrices

/-!
# The shipping cost lines of finance

`finance_shipping_cost_lines` has a row for every shipping record, computed from the record,
its warehouse, its provider and the stores that match it. A store matches a record when they
agree in the platform up to case and in the store code up to surrounding blanks, while the
key of `stores` tells them apart exactly. Triggers on the four tables compute rows again.
-/

namespace Wms.Finance.ShippingCosts

open Foundation Materialised

/-! ## Source tables -/

/-- A row of `shipping_providers`. -/
structure ShippingProvider where
  id : ℕ
  name : Varchar 255
  shippingProviderCode : Varchar 64
  deriving DecidableEq

/-- A row of `shipping_records`, with the weight in grams. -/
structure ShippingRecord where
  id : ℕ
  platform : Varchar 32
  storeCode : Varchar 64
  orderRef : Varchar 128
  packageNo : ℤ
  trackingNo : Option (Varchar 128)
  warehouseId : ℕ
  shippingProviderId : ℕ
  shippingProviderCode : Option (Varchar 32)
  shippingProviderName : Option (Varchar 128)
  grossWeight : Option ℤ
  freightEstimated : Option (Numeric 12)
  surchargeEstimated : Option (Numeric 12)
  costEstimated : Option (Numeric 12)
  destProvince : Option (Varchar 64)
  destCity : Option (Varchar 64)
  createdAt : ℤ

/-- Two warehouses have one name. -/
def SameWarehouse (a b : Warehouse) : Prop := a.name = b.name

/-- Two providers have one name or one code. -/
def SameProvider (a b : ShippingProvider) : Prop :=
  a.name = b.name ∨ a.shippingProviderCode = b.shippingProviderCode

/-- Two stores have one code on one platform. -/
def SameStore (a b : Store) : Prop := a.platform = b.platform ∧ a.storeCode = b.storeCode

/-- Two records are of one package, or of one tracking number of a provider. -/
def SameRecord (a b : ShippingRecord) : Prop :=
  (a.platform = b.platform ∧ a.storeCode = b.storeCode ∧ a.orderRef = b.orderRef ∧
    a.packageNo = b.packageNo) ∨
  (a.shippingProviderId = b.shippingProviderId ∧ a.trackingNo = b.trackingNo ∧
    a.trackingNo.isSome)

instance : DecidableRel SameWarehouse := fun _ _ => inferInstanceAs (Decidable (_ = _))

instance : DecidableRel SameProvider := fun _ _ => inferInstanceAs (Decidable (_ ∨ _))

instance : DecidableRel SameStore := fun _ _ => inferInstanceAs (Decidable (_ ∧ _))

instance : DecidableRel SameRecord := fun _ _ => inferInstanceAs (Decidable (_ ∨ _))

/-- The rows have different values of the unique keys beside the identifier. -/
def Distinct {ρ : Type} {key : ρ → ℕ} (Same : ρ → ρ → Prop) (t : Table ρ (SameKey key)) : Prop :=
  t.rows.Pairwise fun a b => ¬Same a b

instance {ρ : Type} {key : ρ → ℕ} {Same : ρ → ρ → Prop} [DecidableRel Same]
    {t : Table ρ (SameKey key)} : Decidable (Distinct Same t) :=
  inferInstanceAs (Decidable (List.Pairwise _ _))

/-- The tables that shipping cost lines are computed from. -/
structure SourceTables where
  warehouses : Table Warehouse (SameKey Warehouse.id)
  providers : Table ShippingProvider (SameKey ShippingProvider.id)
  stores : Table Store (SameKey Store.id)
  records : Table ShippingRecord (SameKey ShippingRecord.id)
  warehouses_unique : Distinct SameWarehouse warehouses
  providers_unique : Distinct SameProvider providers
  stores_unique : Distinct SameStore stores
  records_unique : Distinct SameRecord records
  warehouse_fk : ∀ sr ∈ records.rows, ∃ w ∈ warehouses.rows, w.id = sr.warehouseId
  provider_fk : ∀ sr ∈ records.rows, ∃ sp ∈ providers.rows, sp.id = sr.shippingProviderId

/-- No rows. -/
def SourceTables.empty : SourceTables where
  warehouses := .empty
  providers := .empty
  stores := .empty
  records := .empty
  warehouses_unique := .nil
  providers_unique := .nil
  stores_unique := .nil
  records_unique := .nil
  warehouse_fk _ hsr := absurd hsr List.not_mem_nil
  provider_fk _ hsr := absurd hsr List.not_mem_nil

/-! ## What a cost line is computed to -/

/-- A row of `finance_shipping_cost_lines`, without its key and the time of calculation. -/
structure CostLine where
  shippingRecordId : ℕ
  platform : Varchar 32
  storeCode : Varchar 64
  storeName : Option (Varchar 256)
  orderRef : Varchar 128
  packageNo : ℤ
  trackingNo : Option (Varchar 128)
  warehouseId : ℕ
  warehouseName : Varchar 100
  shippingProviderId : ℕ
  shippingProviderCode : Option (Varchar 64)
  shippingProviderName : Option (Varchar 255)
  shippedTime : ℤ
  shippedDate : Date
  destProvince : Option (Varchar 64)
  destCity : Option (Varchar 64)
  grossWeight : Option ℤ
  freightEstimated : Option (Numeric 12)
  surchargeEstimated : Option (Numeric 12)
  costEstimated : Option (Numeric 12)
  sourceUpdatedAt : ℤ

/-- A text in a wider column. -/
def widen {m n : ℕ} (h : m ≤ n) (v : Varchar m) : Varchar n := ⟨v.text, v.fits.trans h⟩

theorem provider_code_widens : 32 ≤ 64 := by decide

theorem provider_name_widens : 128 ≤ 255 := by decide

section Lines

-- SQL's `upper`, and the date of a time in the time zone of the database
variable (upper : String → String) (dateOf : ℤ → Date)

/-- The condition that a record and a store are joined on. -/
def Matches (s : Store) (sr : ShippingRecord) : Prop :=
  upper s.platform.text = upper sr.platform.text ∧ btrim s.storeCode.text = btrim sr.storeCode.text

instance (s : Store) (sr : ShippingRecord) : Decidable (Matches upper s sr) :=
  inferInstanceAs (Decidable (_ ∧ _))

/-- The cost line of a record, from the rows that it is joined with. -/
def costLine (sr : ShippingRecord) (w : Warehouse) (sp : Option ShippingProvider)
    (s : Option Store) : CostLine where
  shippingRecordId := sr.id
  platform := sr.platform
  storeCode := sr.storeCode
  storeName := s.map Store.storeName
  orderRef := sr.orderRef
  packageNo := sr.packageNo
  trackingNo := sr.trackingNo
  warehouseId := sr.warehouseId
  warehouseName := w.name
  shippingProviderId := sr.shippingProviderId
  shippingProviderCode := (sp.map ShippingProvider.shippingProviderCode).or
    (sr.shippingProviderCode.map (widen provider_code_widens))
  shippingProviderName := (sp.map ShippingProvider.name).or
    (sr.shippingProviderName.map (widen provider_name_widens))
  shippedTime := sr.createdAt
  shippedDate := dateOf sr.createdAt
  destProvince := sr.destProvince
  destCity := sr.destCity
  grossWeight := sr.grossWeight
  freightEstimated := sr.freightEstimated
  surchargeEstimated := sr.surchargeEstimated
  costEstimated := sr.costEstimated
  sourceUpdatedAt := sr.createdAt

/-- What is inserted under one key of `ON CONFLICT DO UPDATE`: no row or one, since a second
row would write the first one again. -/
def onConflict {γ : Type} : List γ → Except Err (Option γ)
  | [] => .ok none
  | [row] => .ok (some row)
  | _ :: _ :: _ => .error .cardinalityViolation

/-- What `finance_refresh_shipping_cost_line` selects for a shipping record. -/
def selectCostLine (src : SourceTables) (shippingRecordId : ℕ) : Except Err (Option CostLine) :=
  match src.records.find shippingRecordId with
  | none => .ok none
  | some sr =>
    match src.warehouses.find sr.warehouseId with
    | none => .ok none
    | some w =>
      onConflict ((src.stores.leftJoin fun s => Matches upper s sr).map
        (costLine dateOf sr w (src.providers.find sr.shippingProviderId)))

/-- The source tables with the cost lines, by their unique key `shipping_record_id`. -/
abbrev CostTables := Materialised SourceTables ℕ CostLine

/-- Statements on these tables. -/
abbrev CostTx := Tx CostTables Err

/-- `finance_refresh_shipping_cost_line`. -/
def refreshShippingCostLine (shippingRecordId : ℕ) : CostTx PUnit :=
  refresh (selectCostLine upper dateOf) shippingRecordId

/-- Refresh the lines of the records with a property. -/
def refreshRecords (p : ShippingRecord → Bool) : CostTx PUnit := do
  let t ← get
  forM ((t.src.records.rows.filter p).map ShippingRecord.id) (refreshShippingCostLine upper dateOf)

/-! ## Triggers -/

/-- `finance_trg_shipping_cost_line_upsert`. -/
def trgShippingCostLineUpsert (new : ShippingRecord) : CostTx PUnit :=
  refreshShippingCostLine upper dateOf new.id

/-- `finance_trg_shipping_cost_line_delete`. -/
def trgShippingCostLineDelete (oldId : ℕ) : CostTx PUnit := discard oldId

/-- `finance_trg_shipping_cost_warehouse_refresh`. -/
def trgShippingCostWarehouseRefresh (newId : ℕ) : CostTx PUnit :=
  refreshRecords upper dateOf fun sr => sr.warehouseId = newId

/-- `finance_trg_shipping_cost_provider_refresh`. -/
def trgShippingCostProviderRefresh (newId : ℕ) : CostTx PUnit :=
  refreshRecords upper dateOf fun sr => sr.shippingProviderId = newId

/-- `finance_trg_shipping_cost_store_refresh`, with the new row unless the store was deleted
and the old row unless it was inserted. -/
def trgShippingCostStoreRefresh (new old : Option Store) : CostTx PUnit := do
  refreshRecords upper dateOf fun sr => new.any fun s => Matches upper s sr
  refreshRecords upper dateOf fun sr => old.any fun s => Matches upper s sr

/-! ## Statements -/

/-- The columns that an update of a provider sets. -/
structure ProviderSet where
  name : Option (Varchar 255)
  shippingProviderCode : Option (Varchar 64)
  deriving DecidableEq

/-- An update that sets other columns only. -/
def ProviderSet.none : ProviderSet := ⟨.none, .none⟩

/-- The row after the update. -/
def ProviderSet.apply (set : ProviderSet) (sp : ShippingProvider) : ShippingProvider where
  id := sp.id
  name := set.name.getD sp.name
  shippingProviderCode := set.shippingProviderCode.getD sp.shippingProviderCode

/-- A statement on one row of a source table. An update of a warehouse sets its name or other
columns only; an update of a record gives the new row with the identifier of the old one. -/
inductive Statement
  | insertWarehouse (new : Warehouse)
  | updateWarehouse (id : ℕ) (name : Option (Varchar 100))
  | deleteWarehouse (id : ℕ)
  | insertProvider (new : ShippingProvider)
  | updateProvider (id : ℕ) (set : ProviderSet)
  | deleteProvider (id : ℕ)
  | insertStore (new : Store)
  | updateStore (id : ℕ) (set : StoreSet)
  | deleteStore (id : ℕ)
  | insertRecord (new : ShippingRecord)
  | updateRecord (new : ShippingRecord)
  | deleteRecord (id : ℕ)

namespace SourceTables

variable (src : SourceTables)

/-- Write the warehouses, when their keys and the records allow it. -/
def withWarehouses (warehouses : Table Warehouse (SameKey Warehouse.id)) :
    Except Err SourceTables :=
  if hunique : Distinct SameWarehouse warehouses then
    if h : ∀ sr ∈ src.records.rows, ∃ w ∈ warehouses.rows, w.id = sr.warehouseId then
      .ok { src with
        warehouses := warehouses, warehouses_unique := hunique, warehouse_fk := h }
    else .error (.integrityError "fk_shipping_records_warehouse_id")
  else .error (.integrityError "warehouses_name_key")

/-- Write the providers, when their keys and the records allow it. -/
def withProviders (providers : Table ShippingProvider (SameKey ShippingProvider.id)) :
    Except Err SourceTables :=
  if hunique : Distinct SameProvider providers then
    if h : ∀ sr ∈ src.records.rows, ∃ sp ∈ providers.rows, sp.id = sr.shippingProviderId then
      .ok { src with
        providers := providers, providers_unique := hunique, provider_fk := h }
    else .error (.integrityError "fk_shipping_records_provider_id")
  else .error (.integrityError "uq_shipping_providers_name")

/-- Write the stores, when their key allows it. -/
def withStores (stores : Table Store (SameKey Store.id)) : Except Err SourceTables :=
  if hunique : Distinct SameStore stores then
    .ok { src with stores := stores, stores_unique := hunique }
  else .error (.integrityError "uq_stores_platform_store_code")

/-- Write the records, when their keys allow it and each has its warehouse and its provider. -/
def withRecords (records : Table ShippingRecord (SameKey ShippingRecord.id)) :
    Except Err SourceTables :=
  if hunique : Distinct SameRecord records then
    if hwarehouse : ∀ sr ∈ records.rows, ∃ w ∈ src.warehouses.rows, w.id = sr.warehouseId then
      if hprovider : ∀ sr ∈ records.rows, ∃ sp ∈ src.providers.rows,
          sp.id = sr.shippingProviderId then
        .ok { src with
          records := records, records_unique := hunique
          warehouse_fk := hwarehouse, provider_fk := hprovider }
      else .error (.integrityError "fk_shipping_records_provider_id")
    else .error (.integrityError "fk_shipping_records_warehouse_id")
  else .error (.integrityError "uq_shipping_records_platform_store_ref_package")

end SourceTables

/-- A row to insert is refused when its identifier is in use. -/
def insertRow {ρ : Type} {key : ρ → ℕ} (t : Table ρ (SameKey key)) (new : ρ) (pkey : String) :
    Except Err (Table ρ (SameKey key)) :=
  match t.insert new with
  | none => .error (.integrityError pkey)
  | some t => .ok t

/-- What a statement writes to its own table. -/
def Statement.change (src : SourceTables) : Statement → Except Err SourceTables
  | .insertWarehouse new => do
    src.withWarehouses (← insertRow src.warehouses new "warehouses_pkey")
  | .updateWarehouse id name =>
    match src.warehouses.find id with
    | none => .ok src
    | some old =>
      src.withWarehouses (src.warehouses.replace { old with name := name.getD old.name })
  | .deleteWarehouse id => src.withWarehouses (src.warehouses.filter fun w => w.id ≠ id)
  | .insertProvider new => do
    src.withProviders (← insertRow src.providers new "shipping_providers_pkey")
  | .updateProvider id set =>
    match src.providers.find id with
    | none => .ok src
    | some old => src.withProviders (src.providers.replace (set.apply old))
  | .deleteProvider id => src.withProviders (src.providers.filter fun sp => sp.id ≠ id)
  | .insertStore new => do src.withStores (← insertRow src.stores new "stores_pkey")
  | .updateStore id set =>
    match src.stores.find id with
    | none => .ok src
    | some old => src.withStores (src.stores.replace (set.apply old))
  | .deleteStore id => src.withStores (src.stores.filter fun s => s.id ≠ id)
  | .insertRecord new => do
    src.withRecords (← insertRow src.records new "shipping_records_pkey")
  | .updateRecord new => src.withRecords (src.records.replace new)
  | .deleteRecord id => src.withRecords (src.records.filter fun sr => sr.id ≠ id)

/-- The triggers that a statement fires, with the tables from before it. Triggers for each
row fire for the rows that the statement found, and those with a list of columns when the
statement sets one of them. -/
def Statement.triggers (statement : Statement) (before : SourceTables) : CostTx PUnit :=
  match statement with
  | .updateWarehouse id name =>
    if (before.warehouses.find id).isSome ∧ name ≠ none then
      trgShippingCostWarehouseRefresh upper dateOf id
    else pure ⟨⟩
  | .updateProvider id set =>
    if (before.providers.find id).isSome ∧ set ≠ .none then
      trgShippingCostProviderRefresh upper dateOf id
    else pure ⟨⟩
  | .insertStore new => trgShippingCostStoreRefresh upper dateOf (some new) none
  | .updateStore id set =>
    match before.stores.find id with
    | none => pure ⟨⟩
    | some old =>
      if set ≠ .none then
        trgShippingCostStoreRefresh upper dateOf (some (set.apply old)) (some old)
      else pure ⟨⟩
  | .deleteStore id =>
    match before.stores.find id with
    | none => pure ⟨⟩
    | some old => trgShippingCostStoreRefresh upper dateOf none (some old)
  | .insertRecord new => trgShippingCostLineUpsert upper dateOf new
  | .updateRecord new =>
    if (before.records.find new.id).isSome then trgShippingCostLineUpsert upper dateOf new
    else pure ⟨⟩
  | .deleteRecord id =>
    if (before.records.find id).isSome then trgShippingCostLineDelete id else pure ⟨⟩
  | .insertWarehouse _ | .deleteWarehouse _ | .insertProvider _ | .deleteProvider _ => pure ⟨⟩

/-- Carry out a statement with its triggers. -/
def Statement.exec (s : Statement) : CostTx PUnit := statement s.change (s.triggers upper dateOf)

end Lines

end Wms.Finance.ShippingCosts

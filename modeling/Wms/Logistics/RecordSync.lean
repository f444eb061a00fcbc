import Wms.Logistics.ShippingResults

/-!
# Shipping records from logistics

Logistics exports its shipping facts under increasing identifiers. A call of the sync asks
for one page of them, upserts each fact of the page into `shipping_records`, and saves the
cursor that the page ends with.
-/

namespace Wms

open Foundation

/-- A fact of the export of logistics. -/
structure ShippingFact where
  /-- `logistics_shipping_record_id`. -/
  id : ℤ
  warehouseCode : Option String
  shippingProviderCode : Option String
  orderRef : Option String
  platform : Option String
  storeCode : Option String
  packageNo : Option ℤ
  shippingProviderName : Option String
  trackingNo : Option String
  measures : PackageMeasures
  sender : Option String
  destProvince : Option String
  destCity : Option String
  createdAt : Option ℤ
  deriving DecidableEq

/-- The parameters of the export. -/
structure FactsQuery where
  afterId : ℤ
  limit : ℕ
  platform : Option String
  storeCode : Option String

namespace FactsQuery

/-- The fact lies behind the start of the query and passes its filters. -/
def Asks (q : FactsQuery) (fact : ShippingFact) : Prop :=
  q.afterId < fact.id ∧ (∀ p ∈ q.platform, fact.platform = some p) ∧
    ∀ s ∈ q.storeCode, fact.storeCode = some s

instance (q : FactsQuery) : DecidablePred q.Asks := fun _ => inferInstanceAs (Decidable (_ ∧ _))

end FactsQuery

/-- The answer of the export. -/
structure FactsPage where
  rows : List ShippingFact
  nextCursor : Option ℤ
  hasMore : Bool

/-- The export of logistics, which honours its parameters: a page holds the first facts
that are asked for, and a page with rows names the last of them as the next cursor. -/
structure FactsExport where
  page : List ShippingFact → FactsQuery → FactsPage
  rows_eq : ∀ facts q, (page facts q).rows = (facts.filter (q.Asks ·)).take q.limit
  nextCursor_eq : ∀ facts q row, (page facts q).rows.getLast? = some row →
    (page facts q).nextCursor = some row.id

/-- A warehouse, as far as the sync reads it. -/
structure SyncWarehouse where
  id : ℕ
  code : String
  active : Bool
  deriving DecidableEq

/-- `ShippingRecord`, with the columns that a fact may leave empty. -/
structure SyncedRecord where
  id : ℕ
  orderRef : Varchar 128
  platform : Varchar 32
  storeCode : Varchar 64
  packageNo : ℤ
  warehouseId : ℕ
  shippingProviderId : ℕ
  shippingProviderCode : Varchar 32
  shippingProviderName : Option (Varchar 128)
  trackingNo : Option (Varchar 128)
  measures : PackageMeasures
  sender : Option (Varchar 128)
  destProvince : Option (Varchar 64)
  destCity : Option (Varchar 64)
  createdAt : ℤ
  deriving DecidableEq

namespace SyncedRecord

/-- The two rows are about one package of one order. -/
def SamePackage (a b : SyncedRecord) : Prop :=
  a.platform = b.platform ∧ a.storeCode = b.storeCode ∧ a.orderRef = b.orderRef ∧
    a.packageNo = b.packageNo

instance : DecidableRel SamePackage := fun _ _ => inferInstanceAs (Decidable (_ ∧ _))

/-- The primary key, `uq_shipping_records_platform_store_ref_package` and
`uq_shipping_records_provider_tracking_notnull`. -/
def Conflict (a b : SyncedRecord) : Prop :=
  a.id = b.id ∨ a.SamePackage b ∨
    (a.shippingProviderId = b.shippingProviderId ∧ a.trackingNo = b.trackingNo ∧
      a.trackingNo ≠ none)

instance : DecidableRel Conflict := fun _ _ => inferInstanceAs (Decidable (_ ∨ _))

end SyncedRecord

/-- The tables that the sync reads and writes, and what it has done so far. -/
structure SyncTables where
  warehouses : List SyncWarehouse
  providers : List ShippingProvider
  shippingRecords : Table SyncedRecord SyncedRecord.Conflict
  /-- The row of `logistics.shipping_records` in the table of cursors. -/
  lastCursor : Option ℤ
  /-- The facts upserted so far, in order. No service reads it. -/
  upserted : List ℤ

/-- Transactions of the sync. -/
abbrev SyncTx := Tx SyncTables Err

/-- `SyncLogisticsShippingRecordsIn`. -/
structure SyncRecordsIn where
  afterId : Option ℤ
  limit : ℕ
  platform : Option String
  storeCode : Option String

/-- `LogisticsShippingRecordSyncResult`. -/
structure SyncRecordsResult where
  fetched : ℕ
  upserted : ℕ
  lastCursor : ℤ
  hasMore : Bool

/-- `_load_cursor`. -/
def SyncTables.savedCursor (t : SyncTables) : ℤ := t.lastCursor.getD 0

namespace SyncRecordsIn

/-- Where the call starts: at its own identifier, or at the saved cursor. -/
def start (call : SyncRecordsIn) (t : SyncTables) : ℤ := call.afterId.getD t.savedCursor

/-- The parameters that `fetch_logistics_shipping_record_facts` sends. -/
def query (call : SyncRecordsIn) (afterId : ℤ) : FactsQuery where
  afterId := afterId
  limit := call.limit
  platform := (call.platform.filter (· ≠ "")).map fun p => upper (strip p)
  storeCode := (call.storeCode.filter (· ≠ "")).map strip

end SyncRecordsIn

/-- `_required_str`. -/
def requiredStr (value : Option String) (key : String) : Except Err String :=
  match cleanText value with
  | some s => .ok s
  | none => .error (.runtimeError s!"logistics fact missing required field: {key}")

/-- `_resolve_warehouse_id`. -/
def resolveWarehouseId (warehouseCode : String) : SyncTx ℕ := do
  let t ← get
  let w ← Tx.demand (t.warehouses.find? fun w => w.code = warehouseCode ∧ w.active = true)
    (.runtimeError s!"WMS warehouse mapping not found for warehouse_code={warehouseCode}")
  return w.id

/-- `_resolve_shipping_provider_id`. -/
def resolveShippingProviderId (shippingProviderCode : String) : SyncTx ℕ := do
  let t ← get
  let code := upper (strip shippingProviderCode)
  let p ← Tx.demand (t.providers.find? fun p =>
      p.shippingProviderCode.text = code ∧ p.active = true)
    (.runtimeError
      s!"WMS shipping provider mapping not found for shipping_provider_code={shippingProviderCode}")
  return p.id

/-- The row of a fact. -/
def syncedRow (now : ℤ) (fact : ShippingFact) (warehouseId shippingProviderId : ℕ)
    (shippingProviderCode : String) (id : ℕ) : Except Err SyncedRecord := do
  let orderRef ← requiredStr fact.orderRef "order_ref"
  let platform ← requiredStr fact.platform "platform"
  let storeCode ← requiredStr fact.storeCode "store_code"
  let packageNo ← match fact.packageNo with
    | some n => pure n
    | none => throw (.lookupError "package_no")
  let orderRef ← Varchar.store 128 orderRef
  let platform ← Varchar.store 32 (upper platform)
  let storeCode ← Varchar.store 64 storeCode
  let providerCode ← Varchar.store 32 (upper shippingProviderCode)
  let providerName ← Varchar.store? 128 (cleanText fact.shippingProviderName)
  let trackingNo ← Varchar.store? 128 (cleanText fact.trackingNo)
  let measures ← fact.measures.row
  let sender ← Varchar.store? 128 (cleanText fact.sender)
  let destProvince ← Varchar.store? 64 (cleanText fact.destProvince)
  let destCity ← Varchar.store? 64 (cleanText fact.destCity)
  return {
    id := id, orderRef := orderRef, platform := platform, storeCode := storeCode
    packageNo := packageNo, warehouseId := warehouseId
    shippingProviderId := shippingProviderId, shippingProviderCode := providerCode
    shippingProviderName := providerName, trackingNo := trackingNo, measures := measures
    sender := sender, destProvince := destProvince, destCity := destCity
    createdAt := fact.createdAt.getD now }

/-- `_upsert_shipping_record` of the sync: a row about the same package is replaced and
keeps its identifier. -/
def upsertShippingFact (now : ℤ) (fact : ShippingFact) : SyncTx Unit := do
  let warehouseCode ← Tx.ofExcept (requiredStr fact.warehouseCode "warehouse_code")
  let providerCode ← Tx.ofExcept (requiredStr fact.shippingProviderCode "shipping_provider_code")
  let warehouseId ← resolveWarehouseId warehouseCode
  let providerId ← resolveShippingProviderId providerCode
  let t ← get
  let fresh := nextId (t.shippingRecords.rows.map SyncedRecord.id)
  let row ← Tx.ofExcept (syncedRow now fact warehouseId providerId providerCode fresh)
  let id := ((t.shippingRecords.rows.find? fun r => r.SamePackage row).map
    SyncedRecord.id).getD fresh
  let rest := t.shippingRecords.filter fun r => ¬r.SamePackage row
  let shippingRecords ← Tx.demand (rest.insert { row with id := id })
    (.integrityError "uq_shipping_records_provider_tracking_notnull")
  set { t with shippingRecords := shippingRecords, upserted := t.upserted ++ [fact.id] }

/-- `_save_cursor`. -/
def saveCursor (lastCursor : ℤ) (t : SyncTables) : SyncTables :=
  { t with lastCursor := some lastCursor }

/-- `sync_logistics_shipping_record_facts_once`. -/
def syncOnce (fetchFacts : FactsQuery → FactsPage) (now : ℤ) (call : SyncRecordsIn) :
    SyncTx SyncRecordsResult := do
  let t ← get
  let cursor := call.start t
  let payload := fetchFacts (call.query cursor)
  forM payload.rows (upsertShippingFact now)
  let nextCursor := payload.nextCursor.getD cursor
  modify fun t => if payload.rows = [] then t else saveCursor nextCursor t
  return {
    fetched := payload.rows.length
    upserted := payload.rows.length
    lastCursor := nextCursor
    hasMore := payload.hasMore }

variable {t t' : SyncTables} {now : ℤ}

/-- An upserted fact is noted, and the cursor stays. -/
theorem upsertShippingFact_ok {fact : ShippingFact} {u : Unit}
    (h : (upsertShippingFact now fact).run t = .ok (u, t')) :
    t'.upserted = t.upserted ++ [fact.id] ∧ t'.lastCursor = t.lastCursor := by
  simp only [upsertShippingFact, resolveWarehouseId, resolveShippingProviderId, Tx.run_bind_ok,
    Tx.run_get_ok, Tx.run_ofExcept_ok, Tx.run_demand_ok, Tx.run_pure_ok, Tx.run_set_ok] at h
  obtain ⟨_, _, ⟨_, rfl⟩, _, _, ⟨_, rfl⟩, _, _, ⟨_, _, ⟨rfl, rfl⟩, _, _, ⟨_, rfl⟩, _, rfl⟩,
    _, _, ⟨_, _, ⟨rfl, rfl⟩, _, _, ⟨_, rfl⟩, _, rfl⟩, _, _, ⟨rfl, rfl⟩, _, _, ⟨_, rfl⟩,
    _, _, ⟨_, rfl⟩, rfl⟩ := h
  exact ⟨rfl, rfl⟩

theorem upsertShippingFacts_ok {rows : List ShippingFact} {u : PUnit}
    (h : (forM rows (upsertShippingFact now)).run t = .ok (u, t')) :
    t'.upserted = t.upserted ++ rows.map ShippingFact.id ∧ t'.lastCursor = t.lastCursor := by
  induction rows generalizing t with
  | nil =>
    rw [← Tx.run_forM_nil_ok.mp h]
    simp
  | cons fact rows ih =>
    obtain ⟨t₁, hfact, hrest⟩ := Tx.run_forM_cons_ok.mp h
    obtain ⟨hupserted₁, hcursor₁⟩ := upsertShippingFact_ok hfact
    obtain ⟨hupserted, hcursor⟩ := ih hrest
    rw [hupserted, hcursor, hupserted₁, hcursor₁]
    simp

/-- An accepted call upserts the rows of its page in order, and saves the cursor of a page
with rows. -/
theorem syncOnce_ok {fetchFacts : FactsQuery → FactsPage} {call : SyncRecordsIn}
    {r : SyncRecordsResult} (h : (syncOnce fetchFacts now call).run t = .ok (r, t')) :
    ∃ page, page = fetchFacts (call.query (call.start t)) ∧
      t'.upserted = t.upserted ++ page.rows.map ShippingFact.id ∧
      t'.lastCursor = if page.rows = [] then t.lastCursor
        else some (page.nextCursor.getD (call.start t)) := by
  refine ⟨_, rfl, ?_⟩
  simp only [syncOnce, Tx.run_bind_ok, Tx.run_get_ok, Tx.run_modify_ok, Tx.run_pure_ok] at h
  obtain ⟨_, _, ⟨rfl, rfl⟩, _, t₁, hrows, _, t₂, hsave, -, rfl⟩ := h
  obtain ⟨hupserted, hcursor⟩ := upsertShippingFacts_ok hrows
  rw [← hsave]
  split
  · exact ⟨hupserted, hcursor⟩
  · exact ⟨hupserted, rfl⟩

end Wms

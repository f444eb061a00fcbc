import Wms.Logistics.ImportResults
import Wms.Database

/-!
# Shipping results

When a request has been dispatched, logistics reports its packages. Each becomes a row of
`shipping_records`, and the export record is marked as completed.
-/

namespace Wms

open Foundation

/-- `ShippingProvider`: what the resolution of a provider reads. -/
structure ShippingProvider where
  id : ℕ
  name : Varchar 255
  shippingProviderCode : Varchar 64
  active : Bool
  deriving DecidableEq

/-- The measures of a package, which are nonnegative decimals. -/
structure PackageMeasures where
  grossWeightKg : Option ℚ≥0
  freightEstimated : Option ℚ≥0
  surchargeEstimated : Option ℚ≥0
  costEstimated : Option ℚ≥0
  lengthCm : Option ℚ≥0
  widthCm : Option ℚ≥0
  heightCm : Option ℚ≥0
  deriving DecidableEq

/-- `LogisticsShippingResultPackageIn`. -/
structure ShippingPackageIn where
  packageNo : ℕ
  trackingNo : String
  shippingProviderCode : String
  shippingProviderName : Option String
  measures : PackageMeasures
  sender : Option String
  destProvince : Option String
  destCity : Option String
  packageNo_pos : 1 ≤ packageNo

/-- `LogisticsShippingResultIn`. -/
structure ShippingResultIn where
  sourceRef : String
  logisticsRequestId : Option ℕ
  logisticsRequestNo : Option String
  completedAt : Option ℤ
  packages : List ShippingPackageIn
  sourceRef_ne : sourceRef ≠ ""
  sourceRef_fits : sourceRef.length ≤ 192
  requestNo_ne : ∀ no ∈ logisticsRequestNo, no ≠ ""
  requestNo_fits : ∀ no ∈ logisticsRequestNo, no.length ≤ 64
  packages_ne : packages ≠ []
  packageNos_nodup : (packages.map ShippingPackageIn.packageNo).Nodup

/-- `ShippingRecord`. -/
structure ShippingRecord where
  id : ℕ
  orderRef : Varchar 128
  platform : Varchar 32
  storeCode : Varchar 64
  packageNo : ℕ
  warehouseId : ℕ
  shippingProviderId : ℕ
  shippingProviderCode : Varchar 32
  shippingProviderName : Varchar 128
  trackingNo : Varchar 128
  measures : PackageMeasures
  sender : Option (Varchar 128)
  destProvince : Option (Varchar 64)
  destCity : Option (Varchar 64)
  createdAt : ℤ
  deriving DecidableEq

namespace ShippingRecord

/-- The two rows are about one package of one order. -/
def SamePackage (a b : ShippingRecord) : Prop :=
  a.platform = b.platform ∧ a.storeCode = b.storeCode ∧ a.orderRef = b.orderRef ∧
    a.packageNo = b.packageNo

instance : DecidableRel SamePackage := fun _ _ => inferInstanceAs (Decidable (_ ∧ _))

/-- The primary key, `uq_shipping_records_platform_store_ref_package` and
`uq_shipping_records_provider_tracking_notnull`. -/
def Conflict (a b : ShippingRecord) : Prop :=
  a.id = b.id ∨ a.SamePackage b ∨
    (a.shippingProviderId = b.shippingProviderId ∧ a.trackingNo = b.trackingNo)

instance : DecidableRel Conflict := fun _ _ => inferInstanceAs (Decidable (_ ∨ _))

end ShippingRecord

/-- The tables that the hand-off reads and writes. -/
structure HandoffTables where
  warehouseIds : List ℕ
  providers : List ShippingProvider
  shippingRecords : Table ShippingRecord ShippingRecord.Conflict
  records : ExportRecords

/-- Transactions on the tables of the hand-off. -/
abbrev HandoffTx := Tx HandoffTables Err

/-- Replace the export records. -/
def HandoffTables.putRecords (records : ExportRecords) (t : HandoffTables) : HandoffTables :=
  { t with records := records }

/-- A transaction on the export records. -/
def onRecords {α : Type} (x : Tx ExportRecords Err α) : HandoffTx α :=
  Tx.zoom HandoffTables.records HandoffTables.putRecords x

/-- `_clean_required`. -/
def cleanRequired (value : Option String) (field : String) : Except Err String :=
  match cleanText value with
  | none => .error (.valueError s!"{field}_required")
  | some s => .ok s

/-- What all packages of a document share. -/
structure ShippingBase where
  platform : String
  storeCode : String
  orderRef : String
  warehouseId : ℕ
  destProvince : Option String
  destCity : Option String

/-- `_base_shipping_record_values`. -/
def baseShippingRecordValues (r : ExportRecord) (p : HandoffPayload) : Except Err ShippingBase :=
  match r.sourceDocType with
  | .orderOutbound => do
    let platform ← cleanRequired (p.platform.map Varchar.text) "platform"
    let storeCode ← cleanRequired (p.storeCode.map Varchar.text) "store_code"
    let orderRef ← match cleanText (p.orderRef.map Varchar.text) with
      | some ref => pure ref
      | none => do
        let extOrderNo ← cleanRequired (p.extOrderNo.map Varchar.text) "ext_order_no"
        pure s!"ORD:{upper platform}:{storeCode}:{extOrderNo}"
    return {
      platform := upper platform
      storeCode := storeCode
      orderRef := orderRef
      warehouseId := p.warehouseId
      destProvince := cleanText (p.receiverProvince.map Varchar.text)
      destCity := cleanText (p.receiverCity.map Varchar.text) }
  | .manualOutbound => do
    let docNo ← cleanRequired (some r.sourceDocNo.text) "manual_doc_no"
    return {
      platform := "MANUAL"
      storeCode := "MANUAL"
      orderRef := s!"MANUAL:{docNo}"
      warehouseId := p.warehouseId
      destProvince := none
      destCity := none }

/-- `_resolve_shipping_provider`. -/
def resolveShippingProvider (shippingProviderCode : String) : HandoffTx ShippingProvider := do
  let t ← get
  let code := upper (strip shippingProviderCode)
  Tx.demand (t.providers.find? fun p => p.shippingProviderCode.text = code ∧ p.active = true)
    (.valueError s!"shipping_provider_mapping_not_found:{code}")

/-- Fit the measures into their columns. -/
def PackageMeasures.row (m : PackageMeasures) : Except Err PackageMeasures := do
  let grossWeightKg ← numeric 10 3 m.grossWeightKg
  let freightEstimated ← numeric 12 2 m.freightEstimated
  let surchargeEstimated ← numeric 12 2 m.surchargeEstimated
  let costEstimated ← numeric 12 2 m.costEstimated
  let lengthCm ← numeric 10 2 m.lengthCm
  let widthCm ← numeric 10 2 m.widthCm
  let heightCm ← numeric 10 2 m.heightCm
  return ⟨grossWeightKg, freightEstimated, surchargeEstimated, costEstimated, lengthCm, widthCm,
    heightCm⟩

/-- The row of a package. -/
def shippingRecordRow (now : ℤ) (base : ShippingBase) (provider : ShippingProvider)
    (package : ShippingPackageIn) (completedAt : Option ℤ) (id : ℕ) :
    Except Err ShippingRecord := do
  let orderRef ← Varchar.store 128 base.orderRef
  let platform ← Varchar.store 32 base.platform
  let storeCode ← Varchar.store 64 base.storeCode
  let providerCode ← Varchar.store 32 provider.shippingProviderCode.text
  let providerName ← Varchar.store 128
    ((cleanText package.shippingProviderName).getD provider.name.text)
  let trackingNo ← cleanRequired (some package.trackingNo) "tracking_no"
  let trackingNo ← Varchar.store 128 trackingNo
  let measures ← package.measures.row
  let sender ← Varchar.store? 128 (cleanText package.sender)
  let destProvince ← Varchar.store? 64 ((cleanText package.destProvince).or base.destProvince)
  let destCity ← Varchar.store? 64 ((cleanText package.destCity).or base.destCity)
  return {
    id := id, orderRef := orderRef, platform := platform, storeCode := storeCode
    packageNo := package.packageNo, warehouseId := base.warehouseId
    shippingProviderId := provider.id, shippingProviderCode := providerCode
    shippingProviderName := providerName, trackingNo := trackingNo, measures := measures
    sender := sender, destProvince := destProvince, destCity := destCity
    createdAt := completedAt.getD now }

/-- `_upsert_shipping_record`: a row about the same package is replaced and keeps its
identifier. -/
def upsertShippingRecord (now : ℤ) (base : ShippingBase) (completedAt : Option ℤ)
    (package : ShippingPackageIn) : HandoffTx ℕ := do
  let code ← Tx.ofExcept (cleanRequired (some package.shippingProviderCode)
    "shipping_provider_code")
  let provider ← resolveShippingProvider code
  let t ← get
  let fresh := nextId (t.shippingRecords.rows.map ShippingRecord.id)
  let row ← Tx.ofExcept (shippingRecordRow now base provider package completedAt fresh)
  let id := ((t.shippingRecords.rows.find? fun r => r.SamePackage row).map
    ShippingRecord.id).getD fresh
  Tx.failIf (row.warehouseId ∉ t.warehouseIds) (.integrityError "shipping_records_warehouse_id_fkey")
  let rest := t.shippingRecords.filter fun r => ¬r.SamePackage row
  let shippingRecords ← Tx.demand (rest.insert { row with id := id })
    (.integrityError "uq_shipping_records_provider_tracking_notnull")
  set { t with shippingRecords := shippingRecords }
  return id

/-- `_assert_request_identity`: an identifier and a number are compared where both sides
have one. -/
def assertRequestIdentity (r : ExportRecord) (requestId : Option ℕ) (requestNo : Option String) :
    Except Err Unit :=
  if ∃ old ∈ r.logisticsRequestId, ∃ new ∈ requestId, old ≠ new then
    .error (.valueError "logistics_request_id_mismatch")
  else if ∃ old ∈ cleanText (r.logisticsRequestNo.map Varchar.text),
      ∃ new ∈ requestNo, old ≠ strip new then
    .error (.valueError "logistics_request_no_mismatch")
  else .ok ()

/-- The record after its packages were reported. -/
def ExportRecord.completed (now : ℤ) (requestId : Option ℕ) (requestNo : Option (Varchar 64))
    (completedAt : Option ℤ) (record : ExportRecord) : ExportRecord :=
  { record with
    logisticsStatus := .completed
    logisticsRequestId := requestId.or record.logisticsRequestId
    logisticsRequestNo := requestNo.or record.logisticsRequestNo
    logisticsCompletedAt := some (completedAt.getD now)
    lastAttemptAt := some now
    lastError := none }

/-- `_load_shipping_result_context`: the record with its payload, or nothing when it has
none. -/
def loadShippingResultContext (sourceRef : String) :
    HandoffTx (Option (ExportRecord × HandoffPayload)) := do
  let t ← get
  return (t.records.rows.find? fun r => r.sourceRef = strip sourceRef).bind fun r =>
    r.payload.map fun p => (r, p)

/-- `apply_logistics_shipping_results`. -/
def applyLogisticsShippingResults (now : ℤ) (msg : ShippingResultIn) :
    HandoffTx (Option (ExportRecord × List ℕ)) := do
  match ← loadShippingResultContext msg.sourceRef with
  | none => return none
  | some (record, payload) =>
    Tx.failIf (record.exportStatus ≠ .exported)
      (.valueError "logistics_export_record_not_exported")
    Tx.failIf (¬record.Taken) (.valueError "logistics_export_record_not_imported")
    Tx.ofExcept (assertRequestIdentity record msg.logisticsRequestId msg.logisticsRequestNo)
    let base ← Tx.ofExcept (baseShippingRecordValues record payload)
    let ids ← msg.packages.mapM' (upsertShippingRecord now base msg.completedAt)
    let requestNo ← Tx.ofExcept (Varchar.store? 64 (msg.logisticsRequestNo.map strip))
    let row? ← onRecords (updateExportRecord (strip msg.sourceRef)
      (ExportRecord.completed now msg.logisticsRequestId requestNo msg.completedAt)
      fun _ => ⟨rfl, rfl⟩)
    return row?.map fun row => (row, ids)

end Wms

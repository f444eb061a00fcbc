import Wms.Events
import Wms.Outbound.Documents

/-!
# The hand-off to logistics

When a document has been shipped completely, its export record is put on the pending
list together with the data from which logistics makes a shipping request. There is
one record for each document, and it carries at most one payload; both are written by
the same call, so a payload names the document of its record.
-/

namespace Wms

open Foundation

/-- `source_doc_type` of an export record. -/
inductive SourceDocType
  | orderOutbound
  | manualOutbound
  deriving DecidableEq, Repr

/-- The document type as the database stores it. -/
def SourceDocType.code : SourceDocType → String
  | orderOutbound => "ORDER_OUTBOUND"
  | manualOutbound => "MANUAL_OUTBOUND"

/-- `export_status`. -/
inductive ExportStatus
  | pending
  | exported
  | failed
  | cancelled
  deriving DecidableEq, Repr

/-- `logistics_status`. -/
inductive LogisticsStatus
  | notImported
  | imported
  | inProgress
  | completed
  | failed
  deriving DecidableEq, Repr

/-- `source_line_type` of a shipment item. -/
inductive SourceLineType
  | orderLine
  | manualOutboundLine
  | unknown
  deriving DecidableEq, Repr

/-- One element of `shipment_items`. -/
structure ShipmentItem where
  sourceLineType : SourceLineType
  sourceLineId : Option ℕ
  sourceLineNo : ℕ
  itemId : ℕ
  itemSkuSnapshot : Option String
  itemNameSnapshot : Option String
  itemSpecSnapshot : Option String
  qtyOutbound : ℤ
  deriving DecidableEq

/-- One element of `_build_shipment_items`. -/
def ShipmentItem.ofLine (line : OutboundEventLine) : ShipmentItem :=
  let source : SourceLineType × Option ℕ :=
    match line.orderLineId, line.manualDocLineId with
    | some id, _ => (.orderLine, some id)
    | none, some id => (.manualOutboundLine, some id)
    | none, none => (.unknown, none)
  { sourceLineType := source.1
    sourceLineId := source.2
    sourceLineNo := line.refLine
    itemId := line.itemId
    itemSkuSnapshot := cleanText (line.itemSkuSnapshot.map Varchar.text)
    itemNameSnapshot := cleanText (line.itemNameSnapshot.map Varchar.text)
    itemSpecSnapshot := cleanText (line.itemSpecSnapshot.map Varchar.text)
    qtyOutbound := line.qtyOutbound }

/-- `_build_shipment_items`. -/
def buildShipmentItems (savedLines : List OutboundEventLine) : List ShipmentItem :=
  savedLines.map ShipmentItem.ofLine

/-- `WmsLogisticsHandoffPayload` without the columns that repeat its record. -/
structure HandoffPayload where
  platform : Option (Varchar 32)
  storeCode : Option (Varchar 64)
  orderRef : Option (Varchar 128)
  extOrderNo : Option (Varchar 128)
  warehouseId : ℕ
  warehouseNameSnapshot : Option (Varchar 100)
  receiverName : Option (Varchar 128)
  receiverPhone : Option (Varchar 64)
  receiverProvince : Option (Varchar 64)
  receiverCity : Option (Varchar 64)
  receiverDistrict : Option (Varchar 64)
  receiverAddress : Option (Varchar 255)
  receiverPostcode : Option (Varchar 32)
  outboundEventId : ℕ
  outboundSourceRef : Varchar 128
  outboundCompletedAt : ℤ
  shipmentItems : List ShipmentItem
  deriving DecidableEq

/-- `WmsLogisticsExportRecord`, with its payload once there is one. -/
structure ExportRecord where
  sourceDocType : SourceDocType
  sourceDocId : ℕ
  sourceDocNo : Varchar 128
  exportStatus : ExportStatus
  logisticsStatus : LogisticsStatus
  logisticsRequestId : Option ℕ
  logisticsRequestNo : Option (Varchar 64)
  exportedAt : Option ℤ
  logisticsCompletedAt : Option ℤ
  lastAttemptAt : Option ℤ
  lastError : Option String
  payload : Option HandoffPayload
  deriving DecidableEq

/-- `source_ref` of the record and of its payload. -/
def ExportRecord.sourceRef (r : ExportRecord) : String :=
  s!"WMS:{r.sourceDocType.code}:{r.sourceDocId}"

/-- The record belongs to the document. -/
def ExportRecord.IsFor (r : ExportRecord) (docType : SourceDocType) (docId : ℕ) : Prop :=
  r.sourceDocType = docType ∧ r.sourceDocId = docId

instance (r : ExportRecord) (t : SourceDocType) (id : ℕ) : Decidable (r.IsFor t id) :=
  inferInstanceAs (Decidable (_ ∧ _))

/-- `uq_wms_logistics_export_records_doc`. -/
def ExportRecord.Conflict (a b : ExportRecord) : Prop := a.IsFor b.sourceDocType b.sourceDocId

instance : DecidableRel ExportRecord.Conflict := fun a b =>
  inferInstanceAs (Decidable (a.IsFor b.sourceDocType b.sourceDocId))

/-- A record that is waiting for its first export. -/
def ExportRecord.pending (docType : SourceDocType) (docId : ℕ) (docNo : Varchar 128) :
    ExportRecord where
  sourceDocType := docType
  sourceDocId := docId
  sourceDocNo := docNo
  exportStatus := .pending
  logisticsStatus := .notImported
  logisticsRequestId := none
  logisticsRequestNo := none
  exportedAt := none
  logisticsCompletedAt := none
  lastAttemptAt := none
  lastError := none
  payload := none

/-- The values of a payload before the columns of its table are applied. -/
structure HandoffValues where
  platform : Option String
  storeCode : Option String
  orderRef : Option String
  extOrderNo : Option String
  warehouseId : ℕ
  warehouseNameSnapshot : Option String
  receiverName : Option String
  receiverPhone : Option String
  receiverProvince : Option String
  receiverCity : Option String
  receiverDistrict : Option String
  receiverAddress : Option String
  receiverPostcode : Option String
  outboundEventId : ℕ
  outboundSourceRef : String
  outboundCompletedAt : ℤ
  shipmentItems : List ShipmentItem

/-- Fit the values into the columns of `wms_logistics_handoff_payloads`. -/
def HandoffValues.row (v : HandoffValues) : Except Err HandoffPayload := do
  let platform ← Varchar.store? 32 v.platform
  let storeCode ← Varchar.store? 64 v.storeCode
  let orderRef ← Varchar.store? 128 v.orderRef
  let extOrderNo ← Varchar.store? 128 v.extOrderNo
  let warehouseName ← Varchar.store? 100 v.warehouseNameSnapshot
  let receiverName ← Varchar.store? 128 v.receiverName
  let receiverPhone ← Varchar.store? 64 v.receiverPhone
  let province ← Varchar.store? 64 v.receiverProvince
  let city ← Varchar.store? 64 v.receiverCity
  let district ← Varchar.store? 64 v.receiverDistrict
  let address ← Varchar.store? 255 v.receiverAddress
  let postcode ← Varchar.store? 32 v.receiverPostcode
  let sourceRef ← Varchar.store 128 v.outboundSourceRef
  return {
    platform := platform, storeCode := storeCode, orderRef := orderRef, extOrderNo := extOrderNo
    warehouseId := v.warehouseId, warehouseNameSnapshot := warehouseName
    receiverName := receiverName, receiverPhone := receiverPhone, receiverProvince := province
    receiverCity := city, receiverDistrict := district, receiverAddress := address
    receiverPostcode := postcode, outboundEventId := v.outboundEventId
    outboundSourceRef := sourceRef, outboundCompletedAt := v.outboundCompletedAt
    shipmentItems := v.shipmentItems }

/-- The record as a repeated `upsert_pending_logistics_export_record` leaves it: an
exported record stays exported, and the progress of logistics is kept. -/
def ExportRecord.refresh (docNo : Varchar 128) (r : ExportRecord) : ExportRecord :=
  { r with
    sourceDocNo := docNo
    exportStatus := if r.exportStatus = .exported then .exported else .pending
    logisticsStatus :=
      if r.logisticsStatus ∈ [.imported, .inProgress, .completed] then r.logisticsStatus
      else .notImported
    lastError := if r.exportStatus = .exported then r.lastError else none }

/-- The record of a document with its payload replaced; other records are kept. -/
def ExportRecord.putPayload (docType : SourceDocType) (docId : ℕ) (payload : HandoffPayload)
    (r : ExportRecord) : ExportRecord :=
  if r.IsFor docType docId then { r with payload := some payload } else r

theorem ExportRecord.putPayload_keeps (docType : SourceDocType) (docId : ℕ)
    (payload : HandoffPayload) (r : ExportRecord) :
    (r.putPayload docType docId payload).sourceDocType = r.sourceDocType ∧
      (r.putPayload docType docId payload).sourceDocId = r.sourceDocId := by
  unfold ExportRecord.putPayload
  split <;> exact ⟨rfl, rfl⟩

/-- The export records. -/
abbrev ExportRecords := Table ExportRecord ExportRecord.Conflict

/-- `upsert_pending_logistics_export_record`. -/
def upsertPendingLogisticsExportRecord (docType : SourceDocType) (docId : ℕ) (docNo : String) :
    Tx ExportRecords Err PUnit := do
  let no ← Tx.ofExcept (Varchar.store 128 (strip docNo))
  modify fun records => records.upsert (.pending docType docId no)
    (ExportRecord.refresh no) (fun _ _ => Iff.rfl) fun _ _ => Iff.rfl

/-- `upsert_logistics_handoff_payload`: the payload replaces what the record carries. -/
def upsertLogisticsHandoffPayload (docType : SourceDocType) (docId : ℕ) (v : HandoffValues) :
    Tx ExportRecords Err PUnit := do
  let payload ← Tx.ofExcept v.row
  modify fun records => records.map (ExportRecord.putPayload docType docId payload) (by
    intro a b h
    obtain ⟨hatype, haid⟩ := a.putPayload_keeps docType docId payload
    obtain ⟨hbtype, hbid⟩ := b.putPayload_keeps docType docId payload
    unfold ExportRecord.Conflict ExportRecord.IsFor at h ⊢
    rwa [hatype, haid, hbtype, hbid] at h)

/-! ## What is stored -/

/-- The quantity that shipment items carry for a line of an order. -/
def itemQty (items : List ShipmentItem) (orderLineId : ℕ) : ℤ :=
  ((items.filter fun i => i.sourceLineType = .orderLine ∧ i.sourceLineId = some orderLineId).map
    ShipmentItem.qtyOutbound).sum

/-- The item of an event line names the order line that the event line ships. -/
theorem ShipmentItem.ofLine_isOf (l : OutboundEventLine) (id : ℕ) :
    ((ShipmentItem.ofLine l).sourceLineType = .orderLine ∧
      (ShipmentItem.ofLine l).sourceLineId = some id) ↔ l.orderLineId = some id := by
  unfold ShipmentItem.ofLine
  cases horder : l.orderLineId with
  | none => cases hmanual : l.manualDocLineId <;> simp
  | some i => simp

/-- The items of event lines carry what the lines ship. -/
theorem itemQty_buildShipmentItems (ls : List OutboundEventLine) (id : ℕ) :
    itemQty (buildShipmentItems ls) id =
      ((ls.filter fun l => l.orderLineId = some id).map OutboundEventLine.qtyOutbound).sum := by
  unfold itemQty buildShipmentItems
  rw [List.filter_map, List.map_map]
  have hfilter : ls.filter ((fun i : ShipmentItem => decide (i.sourceLineType = .orderLine ∧
      i.sourceLineId = some id)) ∘ ShipmentItem.ofLine) =
      ls.filter fun l => l.orderLineId = some id :=
    List.filter_congr fun l _ => decide_eq_decide.mpr (ShipmentItem.ofLine_isOf l id)
  rw [hfilter]
  rfl

/-- What is known of the values of a stored payload. -/
theorem HandoffValues.row_eq_ok {v : HandoffValues} {payload : HandoffPayload}
    (h : v.row = .ok payload) : payload.shipmentItems = v.shipmentItems ∧
      Varchar.store? 128 v.orderRef = .ok payload.orderRef ∧
      Varchar.store? 128 v.receiverName = .ok payload.receiverName := by
  unfold HandoffValues.row at h
  simp only [bind, Except.bind] at h
  split at h
  · cases h
  · split at h
    · cases h
    · split at h
      · cases h
      · rename_i orderRef horderRef
        repeat' split at h
        all_goals cases h
        exact ⟨rfl, horderRef, by assumption⟩

/-- Values that fit make a payload. The reference and the name of the receiver come from
wider columns, and may not fit. -/
theorem HandoffValues.row_isOk {v : HandoffValues} {orderRef receiverName : Option (Varchar 128)}
    (hplatform : ∀ s ∈ v.platform, s.length ≤ 32) (hstore : ∀ s ∈ v.storeCode, s.length ≤ 64)
    (horderRef : Varchar.store? 128 v.orderRef = .ok orderRef)
    (hno : ∀ s ∈ v.extOrderNo, s.length ≤ 128)
    (hwarehouse : ∀ s ∈ v.warehouseNameSnapshot, s.length ≤ 100)
    (hname : Varchar.store? 128 v.receiverName = .ok receiverName)
    (hphone : ∀ s ∈ v.receiverPhone, s.length ≤ 64)
    (hprovince : ∀ s ∈ v.receiverProvince, s.length ≤ 64)
    (hcity : ∀ s ∈ v.receiverCity, s.length ≤ 64)
    (hdistrict : ∀ s ∈ v.receiverDistrict, s.length ≤ 64)
    (haddress : ∀ s ∈ v.receiverAddress, s.length ≤ 255)
    (hpostcode : ∀ s ∈ v.receiverPostcode, s.length ≤ 32)
    (hsource : v.outboundSourceRef.length ≤ 128) : ∃ payload, v.row = .ok payload := by
  obtain ⟨platform, hplatform⟩ := Varchar.store?_of_fits hplatform
  obtain ⟨storeCode, hstore⟩ := Varchar.store?_of_fits hstore
  obtain ⟨no, hno⟩ := Varchar.store?_of_fits hno
  obtain ⟨warehouse, hwarehouse⟩ := Varchar.store?_of_fits hwarehouse
  obtain ⟨phone, hphone⟩ := Varchar.store?_of_fits hphone
  obtain ⟨province, hprovince⟩ := Varchar.store?_of_fits hprovince
  obtain ⟨city, hcity⟩ := Varchar.store?_of_fits hcity
  obtain ⟨district, hdistrict⟩ := Varchar.store?_of_fits hdistrict
  obtain ⟨address, haddress⟩ := Varchar.store?_of_fits haddress
  obtain ⟨postcode, hpostcode⟩ := Varchar.store?_of_fits hpostcode
  unfold HandoffValues.row
  simp only [bind, Except.bind, hplatform, hstore, horderRef, hno, hwarehouse, hname, hphone,
    hprovince, hcity, hdistrict, haddress, hpostcode, Varchar.store_of_fits hsource]
  exact ⟨_, rfl⟩

/-- After the upsert the document has a record. -/
theorem upsertPending_run_ok {docType : SourceDocType} {docId : ℕ} {docNo : String}
    {records records' : ExportRecords} {u : PUnit}
    (h : (upsertPendingLogisticsExportRecord docType docId docNo).run records =
      .ok (u, records')) : ∃ r ∈ records'.rows, r.IsFor docType docId := by
  unfold upsertPendingLogisticsExportRecord at h
  simp only [Tx.run_bind_ok, Tx.run_ofExcept_ok, Tx.run_modify_ok] at h
  obtain ⟨no, _, ⟨-, rfl⟩, rfl⟩ := h
  unfold Table.upsert
  split
  · rename_i t ht
    rw [(Table.insert_eq_some.mp ht).2]
    exact ⟨_, List.mem_append_right _ (List.mem_singleton_self _), rfl, rfl⟩
  · rename_i hnone
    obtain ⟨a, ha, hconf⟩ := Table.insert_eq_none.mp hnone
    refine ⟨_, List.mem_map_of_mem ha, ?_⟩
    rw [if_pos hconf]
    exact hconf

/-- Afterwards every record of the document carries the payload. -/
theorem upsertPayload_run_ok {docType : SourceDocType} {docId : ℕ} {v : HandoffValues}
    {records records' : ExportRecords} {u : PUnit}
    (h : (upsertLogisticsHandoffPayload docType docId v).run records = .ok (u, records')) :
    ∃ payload, v.row = .ok payload ∧
      ((∃ r ∈ records.rows, r.IsFor docType docId) → ∃ r ∈ records'.rows, r.IsFor docType docId) ∧
      ∀ r ∈ records'.rows, r.IsFor docType docId → r.payload = some payload := by
  unfold upsertLogisticsHandoffPayload at h
  simp only [Tx.run_bind_ok, Tx.run_ofExcept_ok, Tx.run_modify_ok] at h
  obtain ⟨payload, _, ⟨hrow, rfl⟩, rfl⟩ := h
  refine ⟨payload, hrow, ?_, ?_⟩
  · rintro ⟨r, hr, htype, hid⟩
    obtain ⟨htype', hid'⟩ := r.putPayload_keeps docType docId payload
    exact ⟨_, List.mem_map_of_mem hr, htype'.trans htype, hid'.trans hid⟩
  · intro r hr hfor
    obtain ⟨r₀, -, rfl⟩ := List.mem_map.mp hr
    obtain ⟨htype', hid'⟩ := r₀.putPayload_keeps docType docId payload
    have hfor₀ : r₀.IsFor docType docId := ⟨htype'.symm.trans hfor.1, hid'.symm.trans hfor.2⟩
    rw [ExportRecord.putPayload, if_pos hfor₀]

end Wms

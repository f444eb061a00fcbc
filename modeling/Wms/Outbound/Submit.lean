import Wms.Outbound.Shipment

/-!
# Submitting an outbound event

The two entry points of outbound execution: a submission ships lines of a platform
order or of a manual document. Both bring the submitted lines into the form of event
lines, write the event, and hand the document to logistics when it is complete.
-/

namespace Wms

open Foundation

/-! ## The submitted lines -/

/-- `OrderOutboundSubmitLineIn` and `ManualOutboundSubmitLineIn`, which differ in the
name of the field that holds the line of the document. -/
structure SubmitLineIn where
  sourceLineId : ℕ
  itemId : ℕ
  qtyOutbound : ℤ
  lotId : ℕ
  remark : Option (Varchar 255)
  /-- The contract asks for a positive quantity. -/
  qty_pos : 0 < qtyOutbound

/-- What a submission reads of a line of its document. -/
structure SourceLine where
  itemId : ℕ
  itemName : Option String
  itemSku : Option String
  itemSpec : Option String

/-- `order_line_not_in_order` and `manual_doc_line_not_in_doc`. -/
def SourceDocType.notInDoc : SourceDocType → ℕ → Err
  | orderOutbound, id => .valueError s!"order_line_not_in_order: order_line_id={id}"
  | manualOutbound, id => .valueError s!"manual_doc_line_not_in_doc: manual_doc_line_id={id}"

/-- `order_line_item_mismatch` and `manual_doc_line_item_mismatch`. -/
def SourceDocType.itemMismatch : SourceDocType → ℕ → ℕ → ℕ → Err
  | orderOutbound, id, submitted, source => .valueError
      s!"order_line_item_mismatch: order_line_id={id}, submit_item_id={submitted}, source_item_id={source}"
  | manualOutbound, id, submitted, source => .valueError
      s!"manual_doc_line_item_mismatch: manual_doc_line_id={id}, submit_item_id={submitted}, source_item_id={source}"

/-- One pass of the loop of `normalize_order_submit_lines` and
`normalize_manual_submit_lines`. -/
def normalizeSubmitLine (docType : SourceDocType) (source : ℕ → Option SourceLine) (refLine : ℕ)
    (raw : SubmitLineIn) : Except Err OutboundLineValues :=
  match source raw.sourceLineId with
  | none => .error (docType.notInDoc raw.sourceLineId)
  | some src =>
    if raw.itemId ≠ src.itemId then
      .error (docType.itemMismatch raw.sourceLineId raw.itemId src.itemId)
    else .ok {
      refLine := refLine, itemId := raw.itemId, qtyOutbound := raw.qtyOutbound
      lotId := raw.lotId, lotCodeSnapshot := none
      orderLineId := if docType = .orderOutbound then some raw.sourceLineId else none
      manualDocLineId := if docType = .manualOutbound then some raw.sourceLineId else none
      itemNameSnapshot := cleanText src.itemName, itemSkuSnapshot := cleanText src.itemSku
      itemSpecSnapshot := cleanText src.itemSpec
      remark := cleanText (raw.remark.map Varchar.text) }

/-- The loop, which numbers the lines. -/
def normalizeSubmitLinesFrom (docType : SourceDocType) (source : ℕ → Option SourceLine) :
    ℕ → List SubmitLineIn → Except Err (List OutboundLineValues)
  | _, [] => .ok []
  | refLine, raw :: rest => do
    let line ← normalizeSubmitLine docType source refLine raw
    let lines ← normalizeSubmitLinesFrom docType source (refLine + 1) rest
    return line :: lines

/-- The lines of a submission with their numbers; there must be one. -/
def normalizeSubmitLines (docType : SourceDocType) (source : ℕ → Option SourceLine)
    (lines : List SubmitLineIn) : Except Err (List OutboundLineValues) :=
  if lines = [] then .error (.valueError "empty_outbound_lines")
  else normalizeSubmitLinesFrom docType source 1 lines

/-- The quantity that a submission asks for a line of its document. -/
def submittedDelta (lines : List SubmitLineIn) (sourceLineId : ℕ) : ℤ :=
  ((lines.filter fun l => l.sourceLineId = sourceLineId).map SubmitLineIn.qtyOutbound).sum

/-! ## Orders -/

/-- The sum of `qty_outbound` over all event lines of an order line. -/
def EventBook.submittedQty (eb : EventBook) (orderLineId : ℕ) : ℤ :=
  ((eb.outboundLines.rows.filter fun l => l.orderLineId = some orderLineId).map
    OutboundEventLine.qtyOutbound).sum

/-- The lines of an order. -/
def Database.orderLinesOf (db : Database) (orderId : ℕ) : List OrderLine :=
  db.orderLines.rows.filter fun l => l.orderId = orderId

/-- `_load_pms_display_maps`: without an answer of the product master the import
snapshots are used. -/
def loadPmsDisplayMaps (pms : PmsClient) (itemIds : List ℕ) : ℕ → Option ItemBasic :=
  let ids := (itemIds.filter (0 < ·)).dedup.insertionSort (· ≤ ·)
  if ids = [] then fun _ => none
  else
    match pms.getItemBasics ids, pms.listUoms ids with
    | .ok basics, .ok _ => basics
    | _, _ => fun _ => none

/-- One line of `load_order_outbound_lines`. -/
def OrderLine.source (basics : ℕ → Option ItemBasic) (l : OrderLine) : SourceLine :=
  match basics l.itemId with
  | some item =>
    ⟨l.itemId, some item.name.text, some item.sku.text, item.spec.map Varchar.text⟩
  | none =>
    ⟨l.itemId, cleanText (l.importSnapshot.map fun s => s.itemName.text),
      cleanText (l.importSnapshot.map fun s => s.skuCode.text), none⟩

/-- `load_order_outbound_lines` by the identifier of the line. -/
def orderSource (pms : PmsClient) (lines : List OrderLine) (id : ℕ) : Option SourceLine :=
  (lines.find? fun l => l.id = id).map
    (OrderLine.source (loadPmsDisplayMaps pms (lines.map OrderLine.itemId)))

/-- `ctx.source_ref` of an order. -/
def Order.outboundRef (o : Order) : String :=
  s!"ORD:{upper o.platform.text}:{o.storeCode.text}:{o.extOrderNo.text}"

/-- `has_orphan_order_outbound_ledger`. -/
def Books.HasOrphan (b : Books) (sourceRef : String) (refLine : ℕ) (k : SlotKey) : Prop :=
  ∃ r ∈ b.stockLedger.rows, r.reason.text = "OUTBOUND_SHIP" ∧ r.ref.text = sourceRef ∧
    r.refLine = refLine ∧ r.slot = k ∧ r.eventId = none

instance (b : Books) (ref : String) (n : ℕ) (k : SlotKey) : Decidable (b.HasOrphan ref n k) :=
  inferInstanceAs (Decidable (∃ r ∈ b.stockLedger.rows, _))

/-- `OrderOutboundSubmitIn` with the other arguments of `submit_order_outbound_event`. -/
structure OrderSubmitCall where
  orderId : ℕ
  warehouseId : ℕ
  operatorId : Option ℕ
  traceId : String
  occurredAt : ℤ
  remark : Option (Varchar 255)
  lines : List SubmitLineIn

/-- `load_order_submit_progress` of one line: what is asked for and what has gone out. -/
def orderProgress (db : Database) (orderId : ℕ) (orderLineId : ℕ) : ℤ × ℤ :=
  match (db.orderLinesOf orderId).find? fun l => l.id = orderLineId with
  | some l => (l.reqQty, db.eventBook.submittedQty l.id)
  | none => (0, 0)

/-- The checks of one line of a submission against the progress of its order line. -/
def checkOrderLine (db : Database) (order : Order) (call : OrderSubmitCall) (id : ℕ)
    (l : OutboundLineValues) : Except Err Unit :=
  let reqQty := (orderProgress db call.orderId id).1
  let submittedQty := (orderProgress db call.orderId id).2
  if reqQty ≤ 0 then
    .error (.valueError s!"order_line_not_found_or_invalid: order_line_id={id}")
  else if reqQty ≤ submittedQty then
    .error (.valueError s!"order_line_already_completed: order_line_id={id}, req_qty={reqQty}, submitted_qty={submittedQty}")
  else if reqQty < submittedQty + l.qtyOutbound then
    .error (.valueError s!"order_line_over_submit: order_line_id={id}, req_qty={reqQty}, submitted_qty={submittedQty}, submit_qty={l.qtyOutbound}")
  else if db.books.HasOrphan order.outboundRef l.refLine ⟨call.warehouseId, l.itemId, l.lotId⟩ then
    .error (.valueError s!"legacy_orphan_ledger_conflict: source_ref={order.outboundRef}, ref_line={l.refLine}, item_id={l.itemId}, warehouse_id={call.warehouseId}, lot_id={l.lotId}")
  else .ok ()

/-- The checks of all lines, against the progress before the submission. -/
def checkOrderLines (db : Database) (order : Order) (call : OrderSubmitCall) :
    List OutboundLineValues → Except Err Unit
  | [] => .ok ()
  | l :: rest => do
    checkOrderLine db order call (l.orderLineId.getD 0) l
    checkOrderLines db order call rest

/-- `_order_outbound_completed_after_submit`. -/
def OrderCompletedAfterSubmit (db : Database) (call : OrderSubmitCall) : Prop :=
  db.orderLinesOf call.orderId ≠ [] ∧
    ∀ l ∈ db.orderLinesOf call.orderId, 0 < l.reqQty ∧
      l.reqQty ≤ db.eventBook.submittedQty l.id + submittedDelta call.lines l.id

instance (db : Database) (call : OrderSubmitCall) : Decidable (OrderCompletedAfterSubmit db call) :=
  inferInstanceAs (Decidable (_ ∧ ∀ l ∈ db.orderLinesOf call.orderId, _))

/-- `_order_source_doc_no`. -/
def Order.sourceDocNo (o : Order) : String :=
  (cleanText (some o.extOrderNo.text)).getD (toString o.id)

/-- `_load_warehouse_name_snapshot`. -/
def Database.warehouseNameSnapshot (db : Database) (warehouseId : ℕ) : Option String :=
  (db.warehouses.rows.find? fun w => w.id = warehouseId).bind fun w => cleanText (some w.name.text)

/-- `order_ref` of a payload. -/
def Order.handoffRef (o : Order) : Option String :=
  match cleanText (some o.platform.text), cleanText (some o.storeCode.text),
    cleanText (some o.extOrderNo.text) with
  | some platform, some store, some no => some s!"ORD:{upper platform}:{store}:{no}"
  | _, _, _ => none

/-- A nullable text of the order's address. -/
def Order.addressText {n : ℕ} (o : Order) (field : OrderAddress → Option (Varchar n)) :
    Option String :=
  cleanText ((o.address.bind field).map Varchar.text)

/-- The payload of a completed order. -/
def Order.handoffValues (o : Order) (warehouseName : Option String) (event : WmsEvent)
    (saved : List OutboundEventLine) : HandoffValues where
  platform := cleanText (some o.platform.text)
  storeCode := cleanText (some o.storeCode.text)
  orderRef := o.handoffRef
  extOrderNo := cleanText (some o.extOrderNo.text)
  warehouseId := event.warehouseId
  warehouseNameSnapshot := warehouseName
  receiverName := o.addressText OrderAddress.receiverName <|>
    cleanText (o.buyerName.map Varchar.text)
  receiverPhone := o.addressText OrderAddress.receiverPhone <|>
    cleanText (o.buyerPhone.map Varchar.text)
  receiverProvince := o.addressText OrderAddress.province
  receiverCity := o.addressText OrderAddress.city
  receiverDistrict := o.addressText OrderAddress.district
  receiverAddress := o.addressText OrderAddress.detail
  receiverPostcode := o.addressText OrderAddress.zipcode
  outboundEventId := event.id
  outboundSourceRef := (event.sourceRef.map Varchar.text).getD "None"
  outboundCompletedAt := event.occurredAt
  shipmentItems := buildShipmentItems saved

/-- Put a shipped document on the list of logistics. -/
def handOff (docType : SourceDocType) (docId : ℕ) (docNo : String) (v : HandoffValues) :
    Trans PUnit := do
  onExports (upsertPendingLogisticsExportRecord docType docId docNo)
  onExports (upsertLogisticsHandoffPayload docType docId v)

/-- The stored order with an identifier. -/
def Database.findOrder (db : Database) (orderId : ℕ) : Option Order :=
  db.orders.rows.find? fun o => o.id = orderId

/-- The head of an order submission. -/
def OrderSubmitCall.head (call : OrderSubmitCall) (order : Order) : ShipmentHead where
  warehouseId := call.warehouseId
  sourceType := .order
  sourceRef := order.outboundRef
  operatorId := call.operatorId
  traceId := call.traceId
  occurredAt := call.occurredAt
  remark := call.remark.map Varchar.text

/-- What an order submission has to decide before it writes: the order and its lines. -/
def prepareOrderSubmit (pms : PmsClient) (db : Database) (call : OrderSubmitCall) :
    Except Err (Order × List OutboundLineValues) :=
  match db.findOrder call.orderId with
  | none => .error (.valueError s!"order not found: id={call.orderId}")
  | some order =>
    if db.orderLinesOf call.orderId = [] then
      .error (.valueError s!"order_lines_not_found: order_id={call.orderId}")
    else do
      let lines ← normalizeSubmitLines .orderOutbound
        (orderSource pms (db.orderLinesOf call.orderId)) call.lines
      checkOrderLines db order call lines
      return (order, lines)

/-- `submit_order_outbound_event`. -/
def submitOrderOutboundEvent (pms : PmsClient) (call : OrderSubmitCall) :
    Trans (WmsEvent × List OutboundEventLine) := do
  let before ← get
  let (order, lines) ← Tx.ofExcept (prepareOrderSubmit pms before call)
  let (event, saved) ← writeEventAndLedger (call.head order) lines
  if OrderCompletedAfterSubmit before call then
    handOff .orderOutbound call.orderId order.sourceDocNo
      (order.handoffValues (before.warehouseNameSnapshot event.warehouseId) event saved)
  return (event, saved)

/-! ## Manual documents -/

/-- The sum of `qty_outbound` over all event lines of a line of a manual document. -/
def EventBook.submittedManualQty (eb : EventBook) (manualDocLineId : ℕ) : ℤ :=
  ((eb.outboundLines.rows.filter fun l => l.manualDocLineId = some manualDocLineId).map
    OutboundEventLine.qtyOutbound).sum

/-- The lines of a manual document in the order of their numbers. -/
def Database.manualLinesOf (db : Database) (docId : ℕ) : List ManualLine :=
  (db.manualLines.rows.filter fun l => l.docId = docId).insertionSort fun a b =>
    a.lineNo < b.lineNo ∨ (a.lineNo = b.lineNo ∧ a.id ≤ b.id)

/-- The stored manual document with an identifier. -/
def Database.findManualDoc (db : Database) (docId : ℕ) : Option ManualDoc :=
  db.manualDocs.rows.find? fun d => d.id = docId

/-- What a submission reads of a line of a manual document. -/
def ManualLine.source (l : ManualLine) : SourceLine :=
  ⟨l.itemId, l.itemNameSnapshot.map Varchar.text, l.itemSkuSnapshot.map Varchar.text,
    l.itemSpecSnapshot.map Varchar.text⟩

/-- The lines of a manual document by their identifier. -/
def manualSource (lines : List ManualLine) (id : ℕ) : Option SourceLine :=
  (lines.find? fun l => l.id = id).map ManualLine.source

/-- `ManualOutboundSubmitIn` with the other arguments of `submit_manual_outbound_event`. -/
structure ManualSubmitCall where
  docId : ℕ
  operatorId : Option ℕ
  traceId : String
  occurredAt : ℤ
  remark : Option (Varchar 255)
  lines : List SubmitLineIn

/-- The head of a manual submission. -/
def ManualSubmitCall.head (call : ManualSubmitCall) (doc : ManualDoc) : ShipmentHead where
  warehouseId := doc.warehouseId
  sourceType := .manual
  sourceRef := doc.docNo
  operatorId := call.operatorId
  traceId := call.traceId
  occurredAt := call.occurredAt
  remark := call.remark.map Varchar.text

/-- What a manual submission has to decide before it writes: the document and the lines. -/
def prepareManualSubmit (db : Database) (call : ManualSubmitCall) :
    Except Err (ManualDoc × List OutboundLineValues) :=
  match db.findManualDoc call.docId with
  | none => .error (.valueError s!"manual_doc_not_found: id={call.docId}")
  | some doc =>
    if doc.status ≠ .released then
      .error (.valueError s!"manual_doc_not_released: id={call.docId}, status={doc.status.code}")
    else if db.manualLinesOf call.docId = [] then
      .error (.valueError s!"manual_doc_lines_not_found: doc_id={call.docId}")
    else do
      let lines ← normalizeSubmitLines .manualOutbound (manualSource (db.manualLinesOf call.docId))
        call.lines
      return (doc, lines)

/-- The progress of a manual document: there are lines, and each has gone out. -/
def ManualCompleted (db : Database) (docId : ℕ) : Prop :=
  db.manualLinesOf docId ≠ [] ∧
    ∀ l ∈ db.manualLinesOf docId, l.requestedQty ≤ db.eventBook.submittedManualQty l.id

instance (db : Database) (docId : ℕ) : Decidable (ManualCompleted db docId) :=
  inferInstanceAs (Decidable (_ ∧ ∀ l ∈ db.manualLinesOf docId, _))

/-- The database with a released document completed. -/
def Database.completeDoc (db : Database) (docId : ℕ) : Database :=
  { db with
    manualDocs := db.manualDocs.map (ManualDoc.complete docId) fun a b h => by
      rwa [a.complete_id, b.complete_id] at h }

/-- `complete_manual_doc`. -/
def completeManualDoc (docId : ℕ) : Trans PUnit := do
  let db ← get
  Tx.failIf (¬∃ d ∈ db.manualDocs.rows, d.id = docId ∧ d.status = .released)
    (.valueError s!"manual_doc_complete_reject: id={docId}")
  set (db.completeDoc docId)

/-- A nullable text of a manual document. -/
def cleanVarchar {n : ℕ} (v : Option (Varchar n)) : Option String := cleanText (v.map Varchar.text)

/-- The payload of a completed manual document. -/
def ManualDoc.handoffValues (d : ManualDoc) (warehouseName : Option String) (event : WmsEvent)
    (saved : List OutboundEventLine) : HandoffValues where
  platform := none
  storeCode := none
  orderRef := none
  extOrderNo := none
  warehouseId := event.warehouseId
  warehouseNameSnapshot := warehouseName
  receiverName := cleanVarchar d.recipientName
  receiverPhone := cleanVarchar d.receiverPhone
  receiverProvince := cleanVarchar d.receiverProvince
  receiverCity := cleanVarchar d.receiverCity
  receiverDistrict := cleanVarchar d.receiverDistrict
  receiverAddress := cleanVarchar d.receiverAddress
  receiverPostcode := cleanVarchar d.receiverPostcode
  outboundEventId := event.id
  outboundSourceRef := (event.sourceRef.map Varchar.text).getD "None"
  outboundCompletedAt := event.occurredAt
  shipmentItems := buildShipmentItems saved

/-- `submit_manual_outbound_event`. -/
def submitManualOutboundEvent (call : ManualSubmitCall) :
    Trans (WmsEvent × List OutboundEventLine) := do
  let before ← get
  let (doc, lines) ← Tx.ofExcept (prepareManualSubmit before call)
  let (event, saved) ← writeEventAndLedger (call.head doc) lines
  let after ← get
  if ManualCompleted after call.docId then do
    completeManualDoc call.docId
    handOff .manualOutbound call.docId doc.docNo
      (doc.handoffValues (before.warehouseNameSnapshot event.warehouseId) event saved)
  return (event, saved)

end Wms

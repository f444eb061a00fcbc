import Wms.Database
import Wms.Stock.LotService

/-!
# Submitting a receiving operation

`submit_inbound_operation_repo` records one delivery against a receipt: for every entry
it finds the unit and the lot, writes a line of the operation and of an inbound event,
adds the quantity to the balance and writes the ledger.
-/

namespace Wms

open Foundation Foundation.Journal

/-- `InboundOperationEntryIn`. -/
structure OperationEntryIn where
  qtyInbound : ℤ
  barcodeInput : Option (Varchar 128)
  actualItemUomId : Option ℕ
  batchNo : Option (Varchar 128)
  productionDate : Option Date
  expiryDate : Option Date
  remark : Option (Varchar 500)
  /-- The contract asks for a positive quantity. -/
  qty_pos : 1 ≤ qtyInbound
  /-- `validate_dates`. -/
  dates_ordered : ∀ pd ∈ productionDate, ∀ ed ∈ expiryDate, pd ≤ ed

/-- `InboundOperationLineIn`. -/
structure OperationLineIn where
  receiptLineNo : ℕ
  entries : List OperationEntryIn
  entries_ne : entries ≠ []

/-- `InboundOperationSubmitIn` with the other arguments of the call and what it mints. -/
structure OperationCall where
  receiptNo : String
  remark : Option (Varchar 500)
  lines : List OperationLineIn
  operatorId : Option ℕ
  operatorName : Option String
  operatedAt : ℤ
  eventNo : Varchar 64
  traceId : Varchar 64
  pms : PmsClient
  lines_ne : lines ≠ []
  /-- `validate_unique_receipt_line_no`. -/
  lines_unique : lines.Pairwise fun a b => a.receiptLineNo ≠ b.receiptLineNo

/-- The unit of an entry: its identifier, its name and its size in base units. -/
structure UomSnapshot where
  uomId : ℕ
  name : Option String
  ratio : ℤ

/-- The snapshot of a unit of the product master. -/
def ItemUom.snapshot (u : ItemUom) : UomSnapshot :=
  ⟨u.id, cleanText (some u.uomName.text), u.ratioToBase⟩

/-- The unit, if it is one of the item. -/
def uomOfItem (uom : Option ItemUom) (itemId : ℕ) : Option ItemUom :=
  uom.bind fun u => if u.itemId = itemId then some u else none

/-- `_load_item_uom_snapshot`. -/
def loadItemUomSnapshot (pms : PmsClient) (itemId itemUomId : ℕ) : Except Err UomSnapshot := do
  match uomOfItem (← pms.getUom itemUomId) itemId with
  | some u => .ok u.snapshot
  | none =>
    .error (.httpException 409 s!"actual_item_uom_not_found_or_item_mismatch:{itemId}:{itemUomId}")

/-- `_resolve_barcode_uom_snapshot`. -/
def resolveBarcodeUomSnapshot (pms : PmsClient) (itemId : ℕ) (code : String) :
    Except Err UomSnapshot := do
  let probe ← pms.probeBarcode code
  match probe.itemUomId with
  | some uomId =>
    if probe.bound = true ∧ probe.active = some true ∧ probe.itemId = some itemId then
      match uomOfItem (← pms.getUom uomId) itemId with
      | some u => .ok u.snapshot
      | none => .error (.httpException 422 s!"barcode_unbound_or_item_mismatch:{code}")
    else .error (.httpException 422 s!"barcode_unbound_or_item_mismatch:{code}")
  | none => .error (.httpException 422 s!"barcode_unbound_or_item_mismatch:{code}")

/-- The unit of an entry: the one of its barcode, the one it names, or the planned one. -/
def entryUom (pms : PmsClient) (line : ReceiptLine) (entry : OperationEntryIn) :
    Except Err UomSnapshot :=
  match cleanText (entry.barcodeInput.map Varchar.text) with
  | some code => do
    let uom ← resolveBarcodeUomSnapshot pms line.itemId code
    if entry.actualItemUomId.isSome ∧ entry.actualItemUomId ≠ some uom.uomId then
      .error (.httpException 409 s!"barcode_actual_item_uom_mismatch:{line.lineNo}")
    else .ok uom
  | none =>
    match entry.actualItemUomId with
    | some uomId => loadItemUomSnapshot pms line.itemId uomId
    | none =>
      .ok ⟨line.itemUomId, line.uomNameSnapshot.map Varchar.text, line.ratioToBaseSnapshot⟩

/-- `_to_int_exact`. -/
def toIntExact (value : ℤ) (label : String) : Except Err Unit :=
  if value < 0 then .error (.httpException 409 s!"{label}_must_not_be_negative:{value}")
  else .ok ()

/-- The line of the operation that an entry becomes. -/
def operationLine (line : ReceiptLine) (entry : OperationEntryIn) (uom : UomSnapshot)
    (lotId : ℕ) : Except Err OperationLine := do
  let name ← Varchar.store? 64 uom.name
  if h : 0 < uom.ratio then
    return {
      receiptLineNoSnapshot := line.lineNo, itemId := line.itemId
      itemNameSnapshot := line.itemNameSnapshot, itemSpecSnapshot := line.itemSpecSnapshot
      actualItemUomId := uom.uomId, actualUomNameSnapshot := name
      actualRatioToBaseSnapshot := uom.ratio, actualQtyInput := entry.qtyInbound
      qtyBase := entry.qtyInbound * uom.ratio, batchNo := entry.batchNo
      productionDate := entry.productionDate, expiryDate := entry.expiryDate
      lotId := some lotId, remark := entry.remark, prod_le_exp := entry.dates_ordered
      ratio_pos := h, qtyInput_pos := entry.qty_pos, qtyBase_eq := rfl }
  else .error (.integrityError "ck_wms_inbound_operation_lines_actual_ratio_positive")

/-- The line of the inbound event that an entry becomes. -/
def operationEventLine (receipt : InboundReceipt) (line : ReceiptLine) (entry : OperationEntryIn)
    (uom : UomSnapshot) (lotId eventLineNo : ℕ) : InboundLineValues where
  lineNo := eventLineNo
  itemId := line.itemId
  itemNameSnapshot := line.itemNameSnapshot.map Varchar.text
  itemSpecSnapshot := line.itemSpecSnapshot.map Varchar.text
  actualUomId := uom.uomId
  actualUomNameSnapshot := uom.name
  barcodeInput := cleanText (entry.barcodeInput.map Varchar.text)
  actualQtyInput := entry.qtyInbound
  actualRatioToBaseSnapshot := uom.ratio
  qtyBase := entry.qtyInbound * uom.ratio
  lotCodeInput := entry.batchNo.map Varchar.text
  productionDate := entry.productionDate
  expiryDate := entry.expiryDate
  lotId := some lotId
  sourceLineId := if receipt.sourceType = .purchaseOrder then line.sourceLineId else none
  remark := entry.remark.map Varchar.text

/-- `INSERT INTO stocks_lot … ON CONFLICT DO UPDATE SET qty = qty + EXCLUDED.qty`. -/
def addSlotQty (k : SlotKey) (delta : ℤ) : Tx Books Err ℤ := do
  let b ← get
  if b.stock k + delta < 0 then throw (.integrityError "ck_stocks_lot_qty_nonneg")
  else if h : b.HasLot k then do
    set (b.putQty k (b.stock k + delta) h)
    return b.stock k + delta
  else throw (.integrityError "fk_stocks_lot_lot_dims")

/-- Add a received quantity to its slot and record it. -/
def receiveStock (knownEvents : List ℕ) (v : ℤ → LedgerValues) (k : SlotKey) (delta : ℤ) :
    Tx Books Err PUnit := do
  let after ← addSlotQty k delta
  insertLedger knownEvents (v after)

/-- The ledger row of an entry. -/
def operationLedgerValues (call : OperationCall) (event : WmsEvent) (k : SlotKey)
    (entry : OperationEntryIn) (delta : ℤ) (eventLineNo : ℕ) (afterQty : ℤ) : LedgerValues where
  slot := k
  reason := "RECEIPT"
  reasonCanon := some .receipt
  subReason := some "INBOUND_OPERATION"
  ref := call.eventNo.text
  refLine := eventLineNo
  delta := delta
  afterQty := afterQty
  occurredAt := call.operatedAt
  traceId := some call.traceId.text
  eventId := some event.id
  productionDate := entry.productionDate
  expiryDate := entry.expiryDate

/-- What the loop over the entries carries: the number of event lines, the received
quantity of each receipt line, and the lines of the operation. -/
structure OperationProgress where
  eventLineNo : ℕ
  received : ℕ → ℤ
  lines : List OperationLine

/-- Receive one entry. -/
def receiveEntry (call : OperationCall) (receipt : InboundReceipt) (event : WmsEvent)
    (line : ReceiptLine) (policy : ItemPolicy) (st : OperationProgress)
    (entry : OperationEntryIn) : Trans OperationProgress := do
  let uom ← Tx.ofExcept (entryUom call.pms line entry)
  let qtyBase := entry.qtyInbound * uom.ratio
  Tx.failIf (line.plannedQtyBase < st.received line.lineNo + qtyBase) (.httpException 409
    s!"received_qty_base_exceeds_planned:line={line.lineNo}:planned_base={line.plannedQtyBase}:received_base={st.received line.lineNo}:incoming_base={qtyBase}")
  Tx.ofExcept (toIntExact qtyBase "qty_base")
  Tx.ofExcept (toIntExact entry.qtyInbound "actual_qty_input")
  Tx.ofExcept (toIntExact uom.ratio "actual_ratio_to_base")
  let lotId ← onBooks (resolveInboundLot call.pms receipt.warehouseId policy
    (entry.batchNo.map Varchar.text) entry.productionDate entry.expiryDate)
  let opLine ← Tx.ofExcept (operationLine line entry uom lotId)
  let eventLineNo := st.eventLineNo + 1
  let _ ← onEvents (insertInboundLine event.id
    (operationEventLine receipt line entry uom lotId eventLineNo))
  let db ← get
  let k : SlotKey := ⟨receipt.warehouseId, line.itemId, lotId⟩
  onBooks (receiveStock db.eventBook.ids
    (operationLedgerValues call event k entry qtyBase eventLineNo) k qtyBase)
  return ⟨eventLineNo, Function.update st.received line.lineNo (st.received line.lineNo + qtyBase),
    st.lines ++ [opLine]⟩

/-- Receive the entries of one line of the receipt. -/
def receiveLine (call : OperationCall) (receipt : InboundReceipt) (event : WmsEvent)
    (st : OperationProgress) (raw : OperationLineIn) : Trans OperationProgress := do
  let line ← Tx.demand (receipt.lines.find? fun l => l.lineNo = raw.receiptLineNo)
    (.httpException 404 s!"inbound_task_line_not_found:{raw.receiptLineNo}")
  let policy? ← Tx.ofExcept (call.pms.getItemPolicy line.itemId)
  let policy ← Tx.demand policy? (.httpException 404 s!"item_policy_not_found:{line.itemId}")
  raw.entries.foldlM (receiveEntry call receipt event line policy) st

/-- The values of the event of an operation. -/
def operationEventValues (call : OperationCall) (receipt : InboundReceipt) : EventValues where
  eventNo := call.eventNo.text
  eventType := .inbound
  warehouseId := receipt.warehouseId
  sourceType :=
    match receipt.sourceType with
    | .purchaseOrder => .purchaseOrder
    | .manual => .manual
    | .returnOrder => .return
  sourceRef := some receipt.receiptNo.text
  occurredAt := call.operatedAt
  traceId := call.traceId.text
  eventKind := .commit
  targetEventId := none
  createdBy := call.operatorId
  remark := call.remark.map Varchar.text

/-- The receipt that an operation is a delivery for. -/
def Database.findReceipt (db : Database) (receiptNo : String) : Option InboundReceipt :=
  db.receipts.rows.find? fun r => r.receiptNo.text = receiptNo

/-- Store the operation with its lines, and complete a receipt that is received in full. -/
def Database.closeOperation (db : Database) (call : OperationCall) (receipt : InboundReceipt)
    (operatorName : Option (Varchar 255)) (st : OperationProgress) : Database :=
  { db with
    operations := db.operations ++ [{
      id := nextId (db.operations.map InboundOperation.id)
      receiptNoSnapshot := receipt.receiptNo, warehouseId := receipt.warehouseId
      warehouseNameSnapshot := receipt.warehouseNameSnapshot, supplierId := receipt.supplierId
      supplierNameSnapshot := receipt.counterpartyNameSnapshot, operatorId := call.operatorId
      operatorNameSnapshot := operatorName, operatedAt := call.operatedAt
      remark := call.remark, lines := st.lines }]
    receipts :=
      if receipt.lines ≠ [] ∧ ∀ l ∈ receipt.lines, l.plannedQtyBase ≤ st.received l.lineNo then
        db.receipts.map (InboundReceipt.complete receipt.id) fun a b h => by
          unfold InboundReceipt.Conflict at h ⊢
          rwa [(a.complete_keeps receipt.id).1, (a.complete_keeps receipt.id).2,
            (b.complete_keeps receipt.id).1, (b.complete_keeps receipt.id).2] at h
      else db.receipts }

/-- `submit_inbound_operation_repo`. The operation is stored with its lines at the end;
nothing reads it before. -/
def submitInboundOperation (call : OperationCall) : Trans WmsEvent := do
  let db ← get
  let receipt ← Tx.demand (db.findReceipt call.receiptNo)
    (.httpException 404 "inbound_task_not_found")
  Tx.failIf (receipt.status ≠ .released)
    (.httpException 409 s!"inbound_task_not_released:{receipt.status.code}")
  ensureWarehouseNotFrozen receipt.warehouseId
  let operatorName ← Tx.ofExcept (Varchar.store? 255 call.operatorName)
  let event ← recordEvent (operationEventValues call receipt)
  let st ← call.lines.foldlM (receiveLine call receipt event)
    ⟨0, receivedQtyBase db.operations call.receiptNo, []⟩
  modify fun db => db.closeOperation call receipt operatorName st
  return event

/-! ## What an inbound transaction may do -/

/-- Stock of one warehouse was booked, events and inbound lines were added, and receipts
and operations were updated; nothing else has changed. -/
structure InboundOnly (warehouseId : ℕ) (db db' : Database) : Prop where
  booked : BookedIn warehouseId db.books db'.books
  outboundLines_eq : db'.eventBook.outboundLines = db.eventBook.outboundLines
  events_eq : ∃ es, db'.eventBook.events.rows = db.eventBook.events.rows ++ es
  frame : db' = { db with
    receipts := db'.receipts
    operations := db'.operations
    eventBook := db'.eventBook
    books := db'.books }

instance (w : ℕ) : IsPreorder Database (InboundOnly w) where
  refl db := ⟨refl_of (BookedIn w) _, rfl, ⟨[], by rw [List.append_nil]⟩, rfl⟩
  trans a b c hab hbc := by
    obtain ⟨hbooked, hlines, ⟨es, hes⟩, hframe⟩ := hab
    obtain ⟨hbooked', hlines', ⟨es', hes'⟩, hframe'⟩ := hbc
    refine ⟨hbooked.trans hbooked', hlines'.trans hlines, ⟨es ++ es', ?_⟩, ?_⟩
    · rw [hes', hes, List.append_assoc]
    · rw [hframe', hframe]

variable {w : ℕ}

/-- Booking stock is part of an inbound transaction. -/
theorem follows_onBooks {α : Type} {x : Tx Books Err α} (hx : Tx.Follows (BookedIn w) x) :
    Tx.Follows (InboundOnly w) (onBooks x) :=
  hx.zoom fun _ _ hbooked => ⟨hbooked, rfl, ⟨[], by rw [List.append_nil]; rfl⟩, rfl⟩

theorem follows_insertInboundLine (eventId : ℕ) (v : InboundLineValues) :
    Tx.Follows (InboundOnly w) (onEvents (insertInboundLine eventId v)) := by
  intro db l db' h
  obtain ⟨eb, hinsert, rfl⟩ := onEvents_run_ok.mp h
  obtain ⟨-, -, hevents, houtbound⟩ := insertInboundLine_run_ok hinsert
  refine ⟨refl_of (BookedIn w) _, houtbound, ⟨[], ?_⟩, rfl⟩
  rw [List.append_nil]
  exact congrArg Table.rows hevents

theorem follows_recordEvent (v : EventValues) : Tx.Follows (InboundOnly w) (recordEvent v) := by
  intro db e db' h
  obtain ⟨-, -, -, eb, hevents, houtbound, -, rfl⟩ := recordEvent_run_ok h
  exact ⟨refl_of (BookedIn w) _, houtbound, ⟨[e], hevents⟩, rfl⟩

theorem follows_ensureWarehouseNotFrozen (warehouseId : ℕ) :
    Tx.Follows (InboundOnly w) (ensureWarehouseNotFrozen warehouseId) :=
  .of_reads fun _ _ _ h => (ensureWarehouseNotFrozen_run_ok.mp h).2

/-! ## What an operation does -/

theorem addSlotQty_run_ok {k : SlotKey} {delta after : ℤ} {b b' : Books}
    (h : (addSlotQty k delta).run b = .ok (after, b')) :
    after = b.stock k + delta ∧ ∃ hlot : b.HasLot k, b.putQty k (b.stock k + delta) hlot = b' := by
  unfold addSlotQty at h
  simp only [Tx.run_bind_ok, Tx.run_get_ok] at h
  obtain ⟨_, _, ⟨rfl, rfl⟩, h⟩ := h
  split at h
  · exact (Tx.run_throw_ok.mp h).elim
  · split at h
    · rename_i hlot
      simp only [Tx.run_bind_ok, Tx.run_set_ok, Tx.run_pure_ok] at h
      obtain ⟨_, _, rfl, rfl, rfl⟩ := h
      exact ⟨rfl, hlot, rfl⟩
    · exact (Tx.run_throw_ok.mp h).elim

/-- A received quantity is added to its slot and recorded by one row. -/
theorem receiveStock_run_ok {knownEvents : List ℕ} {v : ℤ → LedgerValues} {k : SlotKey}
    {delta : ℤ} {b b' : Books} {u : PUnit} (hslot : ∀ after, (v after).slot = k)
    (hdelta : ∀ after, (v after).delta = delta) (hafter : ∀ after, (v after).afterQty = after)
    (h : (receiveStock knownEvents v k delta).run b = .ok (u, b')) :
    ∃ row, (v (b.stock k + delta)).row = .ok row ∧ row.slot = k ∧ Moved b [row] b' := by
  unfold receiveStock at h
  simp only [Tx.run_bind_ok, insertLedger_run_ok] at h
  obtain ⟨after, b₁, hadd, row, t, hrow, ht, -, rfl⟩ := h
  obtain ⟨rfl, hlot, rfl⟩ := addSlotQty_run_ok hadd
  obtain ⟨hrowSlot, -, hrowDelta, hrowAfter, -⟩ := LedgerValues.row_eq_ok hrow
  have hkey : row.slot = k := hrowSlot.trans (hslot _)
  refine ⟨row, hrow, hkey, Moved.single rfl (Table.insert_eq_some.mp ht).2 ?_ ?_⟩
  · rw [hkey, hrowDelta, hdelta, hrowAfter, hafter]
  · rw [Books.putLedger_stock, Books.putQty_stock, hkey, hrowAfter, hafter]

theorem receiveStock_bookedIn {knownEvents : List ℕ} {v : ℤ → LedgerValues} {k : SlotKey}
    {delta : ℤ} (hslot : ∀ after, (v after).slot = k) (hdelta : ∀ after, (v after).delta = delta)
    (hafter : ∀ after, (v after).afterQty = after) :
    Tx.Follows (BookedIn k.warehouseId) (receiveStock knownEvents v k delta) := by
  intro b u b' h
  obtain ⟨row, -, hkey, hmoved⟩ := receiveStock_run_ok hslot hdelta hafter h
  refine .of_moved hmoved fun r hr => ?_
  rw [List.mem_singleton.mp hr, hkey]

theorem receiveEntry_inboundOnly (call : OperationCall) (receipt : InboundReceipt)
    (event : WmsEvent) (line : ReceiptLine) (policy : ItemPolicy) (st : OperationProgress)
    (entry : OperationEntryIn) :
    Tx.Follows (InboundOnly receipt.warehouseId)
      (receiveEntry call receipt event line policy st entry) := by
  have hlot : Tx.Follows (BookedIn receipt.warehouseId) (resolveInboundLot call.pms
      receipt.warehouseId policy (entry.batchNo.map Varchar.text) entry.productionDate
      entry.expiryDate) :=
    (resolveInboundLot_sameStock _ _ _ _ _ _).mono fun _ _ h => h.bookedIn _
  refine (Tx.follows_ofExcept _).bind fun uom => (Tx.follows_failIf _ _).bind fun _ =>
    (Tx.follows_ofExcept _).bind fun _ => (Tx.follows_ofExcept _).bind fun _ =>
    (Tx.follows_ofExcept _).bind fun _ => (follows_onBooks hlot).bind fun lotId =>
    (Tx.follows_ofExcept _).bind fun opLine => (follows_insertInboundLine _ _).bind fun _ =>
    Tx.follows_get.bind fun db => ?_
  refine (follows_onBooks ?_).bind fun _ => Tx.follows_pure _
  exact receiveStock_bookedIn (fun _ => rfl) (fun _ => rfl) fun _ => rfl

theorem receiveLine_inboundOnly (call : OperationCall) (receipt : InboundReceipt)
    (event : WmsEvent) (st : OperationProgress) (raw : OperationLineIn) :
    Tx.Follows (InboundOnly receipt.warehouseId) (receiveLine call receipt event st raw) :=
  (Tx.follows_demand _ _).bind fun line => (Tx.follows_ofExcept _).bind fun _ =>
    (Tx.follows_demand _ _).bind fun policy =>
    Tx.follows_foldlM _ (fun st entry => receiveEntry_inboundOnly _ _ _ line policy st entry) st

/-- A successful operation books stock of the warehouse of its receipt. -/
theorem submitInboundOperation_run_ok {call : OperationCall} {db db' : Database} {event : WmsEvent}
    (h : (submitInboundOperation call).run db = .ok (event, db')) :
    ∃ receipt, db.findReceipt call.receiptNo = some receipt ∧
      InboundOnly receipt.warehouseId db db' := by
  unfold submitInboundOperation at h
  simp only [Tx.run_bind_ok, Tx.run_get_ok, Tx.run_demand_ok] at h
  obtain ⟨_, _, ⟨rfl, rfl⟩, receipt, _, ⟨hfind, rfl⟩, hrest⟩ := h
  refine ⟨receipt, hfind, ?_⟩
  have hclose : ∀ operatorName st, Tx.Follows (InboundOnly receipt.warehouseId)
      (modify fun db => db.closeOperation call receipt operatorName st : Trans PUnit) :=
    fun operatorName st => Tx.follows_modify fun db =>
      ⟨refl_of (BookedIn _) _, rfl, ⟨[], by rw [List.append_nil]; rfl⟩, rfl⟩
  have hfollows := (Tx.follows_failIf (R := InboundOnly receipt.warehouseId)
      (receipt.status ≠ .released)
      (.httpException 409 s!"inbound_task_not_released:{receipt.status.code}")).bind fun _ =>
    (follows_ensureWarehouseNotFrozen receipt.warehouseId).bind fun _ =>
    (Tx.follows_ofExcept (Varchar.store? 255 call.operatorName)).bind fun operatorName =>
    (follows_recordEvent (operationEventValues call receipt)).bind fun event =>
    (Tx.follows_foldlM call.lines (receiveLine_inboundOnly call receipt event)
      ⟨0, receivedQtyBase db.operations call.receiptNo, []⟩).bind fun st =>
    (hclose operatorName st).bind fun _ => Tx.follows_pure event
  refine hfollows db event db' ?_
  simp only [Tx.run_bind_ok]
  exact hrest

end Wms

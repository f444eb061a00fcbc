import Wms.Inbound.Operation
import Wms.Stock.AdjustLot

/-!
# Committing an inbound event

`commit_inbound` books goods in without a task: it resolves every submitted line to an
item, a unit, dates and a lot, and then writes the event and moves each line by
`adjust_lot`.
-/

namespace Wms

open Foundation

/-- `InboundCommitLineIn`. -/
structure CommitLineIn where
  itemId : Option ℕ
  barcode : Option (Varchar 128)
  uomId : Option ℕ
  qtyInput : ℤ
  lotCodeInput : Option (Varchar 128)
  productionDate : Option Date
  expiryDate : Option Date
  sourceLineId : Option ℕ
  remark : Option (Varchar 255)
  /-- The contract asks for a positive quantity. -/
  qty_pos : 0 < qtyInput
  /-- `validate_identity`. -/
  identity : itemId = none → barcode.isSome
  /-- `validate_uom_input`. -/
  uom_input : uomId = none → barcode.isSome
  /-- `validate_dates`. -/
  dates_ordered : ∀ pd ∈ productionDate, ∀ ed ∈ expiryDate, pd ≤ ed

/-- `InboundSourceType`. -/
inductive InboundSourceType
  | purchaseOrder
  | manual
  | return
  | transferIn
  | adjustIn
  deriving DecidableEq, Repr

/-- The source type of the event. -/
def InboundSourceType.toSourceType : InboundSourceType → SourceType
  | purchaseOrder => .purchaseOrder
  | manual => .manual
  | «return» => .return
  | transferIn => .transferIn
  | adjustIn => .adjustIn

/-- `InboundCommitIn` with the other arguments of `commit_inbound` and what it mints. -/
structure CommitCall where
  warehouseId : ℕ
  sourceType : InboundSourceType
  sourceRef : Option (Varchar 128)
  occurredAt : ℤ
  remark : Option (Varchar 500)
  lines : List CommitLineIn
  userId : Option ℕ
  eventNo : Varchar 64
  traceId : Varchar 64
  pms : PmsClient
  utcNow : ℤ
  lines_ne : lines ≠ []

/-- `_validate_source`. -/
def validateSource (call : CommitCall) : Except Err Unit :=
  if call.sourceType = .purchaseOrder then
    if cleanText (call.sourceRef.map Varchar.text) = none then
      .error (.httpException 400 "采购入库必须提供 source_ref")
    else
      match (call.lines.zipIdx 1).find? fun p => p.1.sourceLineId = none with
      | some p => .error (.httpException 400 s!"采购入库第 {p.2} 行必须提供 source_line_id")
      | none => .ok ()
  else .ok ()

/-- `resolve_inbound_barcode`: the item and the unit that a barcode is bound to. -/
def resolveInboundBarcode (pms : PmsClient) (barcode : String) :
    Except Err (Option (ℕ × Option ℕ)) := do
  let probe ← pms.probeBarcode barcode
  if probe.bound then return probe.itemId.map fun itemId => (itemId, probe.itemUomId)
  else return none

/-- What the barcode of a line is bound to, if the line has one. -/
def commitBarcode (pms : PmsClient) (line : CommitLineIn) :
    Except Err (Option (ℕ × Option ℕ)) :=
  match cleanText (line.barcode.map Varchar.text) with
  | none => .ok none
  | some code => do
    match ← resolveInboundBarcode pms code with
    | none => .error (.httpException 422 s!"barcode_unbound:{code}")
    | some bound => .ok (some bound)

/-- What a line names, completed by its barcode; the two must agree. -/
def reconcile (named bound : Option ℕ) (mismatch : String) : Except Err (Option ℕ) :=
  match named, bound with
  | some n, some b => if n = b then .ok (some n) else .error (.httpException 422 mismatch)
  | some n, none => .ok (some n)
  | none, b => .ok b

/-- The item and the unit of a line. -/
def commitIdentity (pms : PmsClient) (lineNo : ℕ) (line : CommitLineIn) : Except Err (ℕ × ℕ) := do
  let bound ← commitBarcode pms line
  let itemId ← reconcile line.itemId (bound.map Prod.fst) s!"barcode_item_mismatch:line={lineNo}"
  let uomId ← reconcile line.uomId (bound.bind Prod.snd) s!"barcode_uom_mismatch:line={lineNo}"
  match itemId, uomId with
  | none, _ => .error (.httpException 422 s!"item_unresolved:line={lineNo}")
  | some _, none => .error (.httpException 422 s!"uom_unresolved:line={lineNo}")
  | some i, some u => .ok (i, u)

/-- `_require_ratio_to_base`. -/
def requireRatioToBase (pms : PmsClient) (itemId uomId : ℕ) : Except Err ℤ := do
  match uomOfItem (← pms.getUom uomId) itemId with
  | none => .error (.httpException 400
      s!"uom_id 不存在或不属于该商品：item_id={itemId} uom_id={uomId}")
  | some u => .ok u.ratioToBase

/-- `_load_item_display_snapshot`: the names of the item, its specification and its unit. -/
def loadItemDisplaySnapshot (pms : PmsClient) (itemId uomId : ℕ) :
    Except Err (Option String × Option String × Option String) := do
  let item? ← pms.getItemBasic itemId
  let uom? ← pms.getUom uomId
  match item?, uomOfItem uom? itemId with
  | some item, some u =>
    .ok (cleanText (some item.name.text), cleanText (item.spec.map Varchar.text),
      cleanText (some u.uomName.text))
  | _, _ => .error (.httpException 422 s!"item_display_snapshot_not_found:{itemId}:{uomId}")

/-- The dates of a line. -/
def commitDates (pms : PmsClient) (policy : ItemPolicy) (itemId lineNo : ℕ)
    (pd ed : Option Date) : Except Err (Option Date × Option Date) :=
  match policy.expiryPolicy with
  | .none => .ok (none, none)
  | .required => do
    let dates ← normalizeBatchDatesForItem pms itemId pd ed
    if dates.productionDate = none then
      .error (.httpException 422 s!"production_date_unresolved:line={lineNo}")
    else if dates.expiryDate = none then
      .error (.httpException 422 s!"expiry_date_unresolved:line={lineNo}")
    else .ok (dates.productionDate, dates.expiryDate)

/-- `ResolvedCommitLine`. -/
structure ResolvedCommitLine where
  lineNo : ℕ
  itemId : ℕ
  itemNameSnapshot : Option String
  itemSpecSnapshot : Option String
  uomId : ℕ
  actualUomNameSnapshot : Option String
  qtyInput : ℤ
  ratioToBaseSnapshot : ℤ
  qtyBase : ℤ
  barcodeInput : Option String
  lotCodeInput : Option String
  productionDate : Option Date
  expiryDate : Option Date
  lotId : ℕ
  sourceLineId : Option ℕ
  remark : Option String

/-- `_resolve_line` up to its lot. -/
def prepareCommitLine (call : CommitCall) (lineNo : ℕ) (line : CommitLineIn) :
    Except Err (ItemPolicy × (ℕ → ResolvedCommitLine)) := do
  let (itemId, uomId) ← commitIdentity call.pms lineNo line
  match ← call.pms.getItemPolicy itemId with
  | none => .error (.httpException 422 s!"item_not_found:{itemId}")
  | some policy => do
    let ratio ← requireRatioToBase call.pms itemId uomId
    let (itemName, itemSpec, uomName) ← loadItemDisplaySnapshot call.pms itemId uomId
    let lotCode := cleanText (line.lotCodeInput.map Varchar.text)
    if ∃ code ∈ lotCode, upper code = "NOEXP" ∨ upper code = "NONE" then
      .error (.httpException 400 s!"lot_code 禁止伪码：line={lineNo}")
    else if policy.lotSourcePolicy = .supplierOnly ∧ lotCode = none then
      .error (.httpException 400 s!"供应商 lot_code 必填：line={lineNo}")
    else do
      let (pd, ed) ← commitDates call.pms policy itemId lineNo line.productionDate line.expiryDate
      return (policy, fun lotId => {
        lineNo := lineNo, itemId := itemId, itemNameSnapshot := itemName
        itemSpecSnapshot := itemSpec, uomId := uomId, actualUomNameSnapshot := uomName
        qtyInput := line.qtyInput, ratioToBaseSnapshot := ratio
        qtyBase := line.qtyInput * ratio
        barcodeInput := cleanText (line.barcode.map Varchar.text), lotCodeInput := lotCode
        productionDate := pd, expiryDate := ed, lotId := lotId
        sourceLineId := if call.sourceType = .purchaseOrder then line.sourceLineId else none
        remark := cleanText (line.remark.map Varchar.text) })

/-- `_resolve_line`. -/
def resolveCommitLine (call : CommitCall) (lineNo : ℕ) (line : CommitLineIn) :
    Tx Books Err ResolvedCommitLine := do
  let (policy, resolved) ← Tx.ofExcept (prepareCommitLine call lineNo line)
  let lotId ← resolveInboundLot call.pms call.warehouseId policy (resolved 0).lotCodeInput
    (resolved 0).productionDate (resolved 0).expiryDate
  return resolved lotId

/-- The values of the event line of a resolved line. -/
def ResolvedCommitLine.eventLine (l : ResolvedCommitLine) : InboundLineValues where
  lineNo := l.lineNo
  itemId := l.itemId
  itemNameSnapshot := l.itemNameSnapshot
  itemSpecSnapshot := l.itemSpecSnapshot
  actualUomId := l.uomId
  actualUomNameSnapshot := l.actualUomNameSnapshot
  barcodeInput := l.barcodeInput
  actualQtyInput := l.qtyInput
  actualRatioToBaseSnapshot := l.ratioToBaseSnapshot
  qtyBase := l.qtyBase
  lotCodeInput := l.lotCodeInput
  productionDate := l.productionDate
  expiryDate := l.expiryDate
  lotId := some l.lotId
  sourceLineId := l.sourceLineId
  remark := l.remark

/-- The movement that `apply_inbound_stock` asks for. -/
def commitAdjustCall (call : CommitCall) (eventId : ℕ) (l : ResolvedCommitLine) : AdjustCall where
  itemId := l.itemId
  warehouseId := call.warehouseId
  lotId := some l.lotId
  delta := l.qtyBase
  reason := "RECEIPT"
  ref := call.eventNo.text
  refLine := some l.lineNo
  occurredAt := some call.occurredAt
  info := ⟨false, some "ATOMIC_INBOUND", some eventId⟩
  lotCode := l.lotCodeInput
  productionDate := l.productionDate
  expiryDate := l.expiryDate
  traceId := some call.traceId.text

/-- Write one resolved line and move its stock. -/
def commitLine (call : CommitCall) (event : WmsEvent) (l : ResolvedCommitLine) : Trans PUnit := do
  let _ ← onEvents (insertInboundLine event.id l.eventLine)
  ensureWarehouseNotFrozen call.warehouseId
  let db ← get
  let _ ← onBooks (adjustLot ⟨call.pms, db.eventBook.ids, call.utcNow⟩
    (commitAdjustCall call event.id l))
  pure ⟨⟩

/-- The values of the event of a commit. -/
def commitEventValues (call : CommitCall) : EventValues where
  eventNo := call.eventNo.text
  eventType := .inbound
  warehouseId := call.warehouseId
  sourceType := call.sourceType.toSourceType
  sourceRef := cleanText (call.sourceRef.map Varchar.text)
  occurredAt := call.occurredAt
  traceId := call.traceId.text
  eventKind := .commit
  targetEventId := none
  createdBy := call.userId
  remark := cleanText (call.remark.map Varchar.text)

/-- `commit_inbound`. -/
def commitInbound (call : CommitCall) : Trans WmsEvent := do
  Tx.ofExcept (validateSource call)
  let resolved ← onBooks ((call.lines.zipIdx 1).mapM' fun p => resolveCommitLine call p.2 p.1)
  let event ← recordEvent (commitEventValues call)
  forM resolved (commitLine call event)
  return event

/-! ## What a commit does -/

theorem resolveCommitLine_sameStock (call : CommitCall) (lineNo : ℕ) (line : CommitLineIn) :
    Tx.Follows SameStock (resolveCommitLine call lineNo line) :=
  (Tx.follows_ofExcept _).bind fun _ => (resolveInboundLot_sameStock _ _ _ _ _ _).bind fun _ =>
    Tx.follows_pure _

/-- The key of a committed line fits its columns. -/
theorem commitAdjustCall_verbatim (call : CommitCall) (eventId : ℕ) (l : ResolvedCommitLine) :
    (commitAdjustCall call eventId l).Verbatim := by
  have hreason : "RECEIPT".length ≤ 32 := by decide
  have href : call.eventNo.text.length ≤ 128 := call.eventNo.fits.trans (by decide)
  exact AdjustCall.verbatim_of_fits hreason href

theorem commitLine_inboundOnly (call : CommitCall) (event : WmsEvent) (l : ResolvedCommitLine) :
    Tx.Follows (InboundOnly call.warehouseId) (commitLine call event l) := by
  refine (follows_insertInboundLine _ _).bind fun _ => (follows_ensureWarehouseNotFrozen _).bind
    fun _ => Tx.follows_get.bind fun db => (follows_onBooks ?_).bind fun _ => Tx.follows_pure _
  intro b out b' h
  exact adjustLot_bookedIn ((commitAdjustCall_verbatim call event.id l).not_swallowed b) h

/-- A commit books stock of the warehouse it names. -/
theorem commitInbound_inboundOnly (call : CommitCall) :
    Tx.Follows (InboundOnly call.warehouseId) (commitInbound call) := by
  have hresolve : Tx.Follows (BookedIn call.warehouseId)
      ((call.lines.zipIdx 1).mapM' fun p => resolveCommitLine call p.2 p.1) :=
    Tx.follows_mapM _ fun p _ =>
      (resolveCommitLine_sameStock call p.2 p.1).mono fun _ _ h => h.bookedIn _
  exact (Tx.follows_ofExcept _).bind fun _ => (follows_onBooks hresolve).bind fun resolved =>
    (follows_recordEvent _).bind fun event =>
    (Tx.follows_forM resolved fun l _ => commitLine_inboundOnly call event l).bind fun _ =>
    Tx.follows_pure event

end Wms

import Wms.Foundation.Paging
import Wms.Orders.Resolve
import Wms.Stock.Reconcile

/-!
# The query and the export of the ledger

`/query` answers a page of the ledger rows that a payload selects, and `/export` writes a page of
them as CSV. Both build their conditions with `build_common_filters`; the product master finds the
items of a keyword and names those of a page.
-/

namespace Wms

open Foundation

/-! ## Tables and payloads -/

/-- `StockLedger`, with its identifier and the time of its writing. -/
structure StockLedgerRow extends LedgerRow where
  id : ℕ
  createdAt : ℤ

/-- Two rows that the ledger cannot hold together. -/
def StockLedgerRow.Conflict (a b : StockLedgerRow) : Prop :=
  a.id = b.id ∨ a.toLedgerRow.SameKey b.toLedgerRow

instance : DecidableRel StockLedgerRow.Conflict := fun _ _ =>
  inferInstanceAs (Decidable (_ ∨ _))

/-- The tables that the routes read. -/
structure LedgerTables where
  lots : Table Lot Lot.Conflict
  stockLedger : Table StockLedgerRow StockLedgerRow.Conflict
  /-- `fk_stock_ledger_lot_dims`. -/
  ledger_fk : ∀ r ∈ stockLedger.rows, ∃ l ∈ lots.rows,
    l.id = r.slot.lotId ∧ l.BelongsTo r.slot.warehouseId r.slot.itemId

/-- `lots.lot_code` of a lot. -/
def LedgerTables.lotCode (t : LedgerTables) (lotId : ℕ) : Option (Varchar 64) :=
  (t.lots.rows.find? fun l => l.id = lotId).bind Lot.lotCode

/-- `EXISTS` the lot of a ledger row with a code, or with `lot_code IS NULL`. -/
def LedgerTables.hasLotWithCode (t : LedgerTables) (lotId : ℕ) (code : Option String) : Bool :=
  t.lots.rows.any fun l => l.id = lotId ∧ l.lotCode.map Varchar.text = code

namespace LedgerContract

/-- `ReasonCanon`. -/
inductive ReasonCanon
  | receipt
  | shipment
  | adjustment
  deriving DecidableEq

/-- The value in the column. -/
def ReasonCanon.value : ReasonCanon → Wms.ReasonCanon
  | .receipt => .receipt
  | .shipment => .shipment
  | .adjustment => .adjustment

/-- `SubReason`. -/
inductive SubReason
  | poReceipt
  | orderShip
  | countConfirm
  | countAdjust
  | returnReceipt
  | internalShip
  | returnToVendor
  deriving DecidableEq

/-- The value in the column. -/
def SubReason.value : SubReason → String
  | .poReceipt => "PO_RECEIPT"
  | .orderShip => "ORDER_SHIP"
  | .countConfirm => "COUNT_CONFIRM"
  | .countAdjust => "COUNT_ADJUST"
  | .returnReceipt => "RETURN_RECEIPT"
  | .internalShip => "INTERNAL_SHIP"
  | .returnToVendor => "RETURN_TO_VENDOR"

end LedgerContract

/-- `LedgerQuery`, with all its fields. The texts are as they were sent. -/
structure LedgerPayload extends LedgerQuery where
  itemKeyword : Option String := none
  reason : Option String := none
  reasonCanon : Option LedgerContract.ReasonCanon := none
  subReason : Option LedgerContract.SubReason := none
  ref : Option String := none
  traceId : Option String := none
  limit : ℕ := 100
  offset : ℕ := 0
  lotCode_length : ∀ v ∈ lotCode.join, (strip v).length ≤ 64 := by simp
  reason_length : ∀ v ∈ reason, (strip v).length ≤ 32 := by simp
  ref_length : ∀ v ∈ ref, (strip v).length ≤ 128 := by simp
  traceId_length : ∀ v ∈ traceId, (strip v).length ≤ 64 := by simp
  limit_ge : 1 ≤ limit := by omega
  limit_le : limit ≤ 1000 := by omega

/-! ## Filters -/

/-- SQL's `LIKE`. The backslash takes the next character as it is. -/
def like : List Char → List Char → Bool
  | [], text => text.isEmpty
  | '%' :: pattern, text => text.tails.any fun rest => like pattern rest
  | '_' :: pattern, _ :: rest => like pattern rest
  | ['\\'], _ => false
  | '\\' :: c :: pattern, a :: rest => a = c && like pattern rest
  | c :: pattern, a :: rest => a = c && like pattern rest
  | _ :: _, [] => false

/-- The conditions on `stock_ledger.ref` for a reference `x`: the reference or its last part, alone
or behind a colon. -/
def matchesRef (x ref : String) : Bool :=
  if ':' ∈ x.toList then
    let base := strip ((splitColons x).getLast?.getD "")
    ref = x || (base ≠ "" && base ≠ x && (ref = base || like ("%:" ++ base).toList ref.toList))
  else ref = x || like ("%:" ++ x).toList ref.toList

/-- `_clean_item_ids`. -/
def cleanIds {ι : Type} [LinearOrder ι] [Zero ι] (values : List ι) : List ι :=
  (values.filter fun x => 0 < x).dedup.insertionSort (· ≤ ·)

/-- A text of the payload that is there and not empty. -/
def givenText (value : Option String) : Option String :=
  (value.map strip).filter fun v => v ≠ ""

/-- A condition that a field of the payload adds, if it is there. -/
def condition {α : Type} (value : Option α) (c : α → StockLedgerRow → Bool) :
    List (StockLedgerRow → Bool) :=
  (value.map c).toList

/-- `build_common_filters`, with the items of the keyword if there is one. -/
def buildCommonFilters (t : LedgerTables) (q : LedgerPayload) (window : ℤ × ℤ)
    (itemKeywordItemIds : Option (List ℤ)) : List (StockLedgerRow → Bool) :=
  [fun r : StockLedgerRow => decide (window.1 ≤ r.occurredAt),
    fun r : StockLedgerRow => decide (r.occurredAt ≤ window.2)] ++
  condition q.itemId (fun i r => (r.slot.itemId : ℤ) = i) ++
  condition itemKeywordItemIds (fun ids r =>
    if cleanIds ids ≠ [] then (r.slot.itemId : ℤ) ∈ cleanIds ids else false) ++
  condition q.warehouseId (fun w r => (r.slot.warehouseId : ℤ) = w) ++
  condition q.lotId (fun l r => (r.slot.lotId : ℤ) = l) ++
  condition q.lotCode (fun lotCode r => t.hasLotWithCode r.slot.lotId
    (normLotCode (lotCode.map strip))) ++
  condition (givenText q.reason) (fun v r => r.reason.text = v) ++
  condition q.reasonCanon (fun v r => r.reasonCanon = some v.value) ++
  condition q.subReason (fun v r => r.subReason.map Varchar.text = some v.value) ++
  condition (givenText q.ref) (fun v r => matchesRef v r.ref.text) ++
  condition (givenText q.traceId) (fun v r => r.traceId.map Varchar.text = some v)

/-- The rows that meet all conditions. -/
def LedgerTables.select (t : LedgerTables) (conditions : List (StockLedgerRow → Bool)) :
    List StockLedgerRow :=
  t.stockLedger.rows.filter fun r => conditions.all fun c => c r

/-- `ORDER BY occurred_at DESC, id DESC`. -/
def StockLedgerRow.newest (r : StockLedgerRow) : ℤᵒᵈ ×ₗ ℕᵒᵈ :=
  toLex (OrderDual.toDual r.occurredAt, OrderDual.toDual r.id)

/-! ## The query -/

/-- The questions of the routes to the product master. -/
structure LedgerPms where
  searchReportItemIdsByKeyword : String → Except Err (List ℤ)
  /-- The names of the items. -/
  getReportMetaByItemIds : List ℕ → Except Err (ℕ → Option String)
  listUoms : List ℕ → Except Err (List ItemUom)

/-- `resolve_ledger_item_keyword_item_ids`. -/
def resolveLedgerItemKeywordItemIds (pms : LedgerPms) (q : LedgerPayload) :
    Except Err (Option (List ℤ)) :=
  match givenText q.itemKeyword with
  | none => .ok none
  | some keyword => (pms.searchReportItemIdsByKeyword keyword).map some

/-- The texts and units of the items of a page. -/
structure LedgerDisplayMaps where
  itemName : ℕ → Option String
  baseUom : ℕ → Option ItemUom

/-- `base_uom_map`: the first base unit of an item that was asked for. -/
def baseUomMap (ids : List ℕ) (uoms : List ItemUom) (itemId : ℕ) : Option ItemUom :=
  if itemId ∈ ids then uoms.find? fun u => u.isBase ∧ u.itemId = itemId else none

/-- `base_uom_name`. -/
def ItemUom.baseName (u : ItemUom) : Option String := cleanText (some u.uomName.text)

/-- `load_ledger_item_display_maps`. -/
def loadLedgerItemDisplayMaps (pms : LedgerPms) (itemIds : List ℕ) :
    Except Err LedgerDisplayMaps := do
  let ids := cleanIds itemIds
  if ids = [] then return ⟨fun _ => none, fun _ => none⟩
  let metas ← pms.getReportMetaByItemIds ids
  let uoms ← pms.listUoms ids
  return ⟨fun i => cleanText (metas i), baseUomMap ids uoms⟩

/-- `infer_movement_type`. -/
def inferMovementType (reason : String) : Option String :=
  let r := upper reason
  if reason = "" then none
  else if r ∈ ["RECEIPT", "INBOUND", "INBOUND_RECEIPT"] then some "INBOUND"
  else if r ∈ ["SHIP", "SHIPMENT", "OUTBOUND_SHIP", "OUTBOUND_COMMIT"] then some "OUTBOUND"
  else if r ∈ ["COUNT", "STOCK_COUNT", "INVENTORY_COUNT"] then some "COUNT"
  else if r ∈ ["ADJUSTMENT", "ADJUST", "MANUAL_ADJUST"] then some "ADJUST"
  else if r ∈ ["RETURN", "RMA", "INBOUND_RETURN"] then some "RETURN"
  else some "UNKNOWN"

namespace LedgerContract

/-- `LedgerRow`: a row of the answer. -/
structure LedgerRow where
  id : ℕ
  delta : ℤ
  afterQty : ℤ
  reason : Varchar 32
  reasonCanon : Option Wms.ReasonCanon
  subReason : Option (Varchar 32)
  ref : Varchar 128
  refLine : ℤ
  occurredAt : ℤ
  createdAt : ℤ
  warehouseId : ℕ
  itemId : ℕ
  itemName : Option String
  baseItemUomId : Option ℕ
  baseUomName : Option String
  lotCode : Option (Varchar 64)
  lotId : ℕ
  traceId : Option (Varchar 64)
  movementType : Option String
  deriving DecidableEq

/-- `LedgerList`. -/
structure LedgerList where
  total : ℕ
  items : List LedgerRow
  deriving DecidableEq

end LedgerContract

/-- The row of the answer for a ledger row. -/
def ledgerItem (t : LedgerTables) (maps : LedgerDisplayMaps) (r : StockLedgerRow) :
    LedgerContract.LedgerRow where
  id := r.id
  delta := r.delta
  afterQty := r.afterQty
  reason := r.reason
  reasonCanon := r.reasonCanon
  subReason := r.subReason
  ref := r.ref
  refLine := r.refLine
  occurredAt := r.occurredAt
  createdAt := r.createdAt
  warehouseId := r.slot.warehouseId
  itemId := r.slot.itemId
  itemName := maps.itemName r.slot.itemId
  baseItemUomId := (maps.baseUom r.slot.itemId).map ItemUom.id
  baseUomName := (maps.baseUom r.slot.itemId).bind ItemUom.baseName
  lotCode := t.lotCode r.slot.lotId
  lotId := r.slot.lotId
  traceId := r.traceId
  movementType := inferMovementType r.reason.text

/-- `query_ledger`. -/
def queryLedger (pms : LedgerPms) (now : ℤ) (t : LedgerTables) (payload : LedgerPayload) :
    Except Err LedgerContract.LedgerList := do
  let window ← payload.normalizeTimeRange now
  let itemKeywordItemIds ← resolveLedgerItemKeywordItemIds pms payload
  let ids := (t.select (buildCommonFilters t payload window itemKeywordItemIds)).map
    StockLedgerRow.id
  let selected := t.stockLedger.rows.filter fun r => r.id ∈ ids
  let rows := page payload.offset payload.limit (orderBy StockLedgerRow.newest selected)
  let maps ← loadLedgerItemDisplayMaps pms (rows.map fun r => r.slot.itemId)
  return ⟨ids.length, rows.map (ledgerItem t maps)⟩

/-! ## The export -/

/-- The cells of a line of the file. -/
structure ExportLine where
  id : ℕ
  delta : ℤ
  reason : String
  subReason : String
  ref : String
  refLine : ℤ
  occurredAt : ℤ
  createdAt : ℤ
  afterQty : ℤ
  itemId : ℕ
  warehouseId : ℕ
  lotCode : Option String
  lotId : ℕ
  traceId : String
  deriving DecidableEq

/-- The line of a ledger row. -/
def exportLine (t : LedgerTables) (r : StockLedgerRow) : ExportLine where
  id := r.id
  delta := r.delta
  reason := r.reason.text
  subReason := (r.subReason.map Varchar.text).getD ""
  ref := r.ref.text
  refLine := r.refLine
  occurredAt := r.occurredAt
  createdAt := r.createdAt
  afterQty := r.afterQty
  itemId := r.slot.itemId
  warehouseId := r.slot.warehouseId
  lotCode := (t.lotCode r.slot.lotId).map Varchar.text
  lotId := r.slot.lotId
  traceId := (r.traceId.map Varchar.text).getD ""

/-- `export_ledger`: the lines of the file behind its header. -/
def exportLedger (now : ℤ) (t : LedgerTables) (payload : LedgerPayload) :
    Except Err (List ExportLine) := do
  let window ← payload.normalizeTimeRange now
  let selected := t.select (buildCommonFilters t payload window none)
  let selected := match payload.subReason with
    | none => selected
    | some v => selected.filter fun r => r.subReason.map Varchar.text = some v.value
  let rows := page payload.offset payload.limit (orderBy StockLedgerRow.newest selected)
  return rows.map (exportLine t)

end Wms

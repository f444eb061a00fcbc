import Wms.Stock.InventoryRead

/-!
# The explanation of a balance

`InventoryExplainService` answers for one balance which ledger rows led to it, and whether the
quantity that the ledger ends with is the one in stock. The rows are ordered by the times of the
movements, and so is the row that the ledger is taken to end with.
-/

namespace Wms

open Foundation

/-- `InventoryExplainIn`. The lot code is as it was sent. -/
structure InventoryExplainIn where
  itemId : ℕ
  warehouseId : ℕ
  lotId : Option ℕ
  lotCode : Option String
  limit : ℕ := 100
  itemId_ge : 1 ≤ itemId := by omega
  warehouseId_ge : 1 ≤ warehouseId := by omega
  lotId_ge : ∀ l ∈ lotId, 1 ≤ l := by simp
  lotCode_length : ∀ v ∈ lotCode, (strip v).length ≤ 64 := by simp
  limit_ge : 1 ≤ limit := by omega
  limit_le : limit ≤ 500 := by omega

/-- `InventoryExplainAnchor`. -/
structure InventoryExplainAnchor where
  itemId : ℕ
  itemName : String
  warehouseId : ℕ
  warehouseName : Varchar 100
  lotId : ℕ
  lotCode : Option (Varchar 64)
  baseItemUomId : Option ℕ
  baseUomName : Option String
  currentQty : ℤ

/-- The slot that was explained. -/
def InventoryExplainAnchor.slot (a : InventoryExplainAnchor) : SlotKey :=
  ⟨a.warehouseId, a.itemId, a.lotId⟩

/-- `InventoryExplainSummary`. -/
structure InventoryExplainSummary where
  rowCount : ℕ
  truncated : Bool
  currentQty : ℤ
  ledgerLastAfterQty : Option ℤ
  matchesCurrent : Option Bool
  deriving DecidableEq

/-- `InventoryExplainOut`. A row of the ledger has the columns of the ledger query. -/
structure InventoryExplainOut where
  anchor : InventoryExplainAnchor
  ledgerRows : List LedgerContract.LedgerRow
  summary : InventoryExplainSummary

/-! ## What is shown of items -/

/-- The names and base units of items. -/
structure ItemDisplayMaps where
  itemName : ℕ → Option String
  baseUom : ℕ → Option ItemUom

/-- `_load_item_display_maps`. -/
def loadItemDisplayMaps (pms : InventoryPms) (itemIds : List ℕ) : Except Err ItemDisplayMaps := do
  let ids := cleanIds itemIds
  if ids = [] then return ⟨fun _ => none, fun _ => none⟩
  let basics ← pms.getItemBasics ids
  let uoms ← pms.listUoms ids
  return ⟨fun i => (basics i).bind fun item => cleanText (some item.name.text), baseUomMap ids uoms⟩

/-- `item_name`. -/
def ItemDisplayMaps.name (maps : ItemDisplayMaps) (itemId : ℕ) : String :=
  (maps.itemName itemId).getD s!"ITEM-{itemId}"

/-! ## Queries -/

/-- The condition on the lot of a balance: its identifier, or else its code. -/
def InventoryExplainIn.meansLot (payload : InventoryExplainIn) (s : StockJoin) : Bool :=
  match payload.lotId with
  | some lotId => s.slot.lotId = lotId
  | none => s.lotCode.map Varchar.text = cleanText (payload.lotCode.map strip)

/-- `resolve_inventory_explain_anchor`: the balances that the request may mean. -/
def Database.explainAnchors (db : Database) (payload : InventoryExplainIn) : List StockJoin :=
  db.stockJoins.filter fun s => s.slot.itemId = payload.itemId ∧
    s.slot.warehouseId = payload.warehouseId ∧ s.qty ≠ 0 ∧ payload.meansLot s

/-- `stock_ledger`. The identifiers number the rows in the order in which they were written. -/
def Books.ledgerRows (createdAt : ℕ → ℤ) (b : Books) : List StockLedgerRow :=
  (b.stockLedger.rows.zipIdx 1).map fun p => ⟨p.1, p.2, createdAt p.2⟩

/-- The ledger rows of a slot. -/
def Books.explainRows (createdAt : ℕ → ℤ) (b : Books) (k : SlotKey) : List StockLedgerRow :=
  (b.ledgerRows createdAt).filter fun r => r.slot = k

/-- `ORDER BY occurred_at ASC, id ASC`. -/
def StockLedgerRow.oldest (r : StockLedgerRow) : ℤ ×ₗ ℕ := toLex (r.occurredAt, r.id)

/-- `query_inventory_explain_ledger_rows`: the newest rows, the oldest of them first. -/
def queryInventoryExplainLedgerRows (rows : List StockLedgerRow) (limit : ℕ) :
    List StockLedgerRow :=
  orderBy StockLedgerRow.oldest ((orderBy StockLedgerRow.newest rows).take limit)

/-- `query_inventory_explain_latest_after_qty`. -/
def queryInventoryExplainLatestAfterQty (rows : List StockLedgerRow) : Option ℤ :=
  (orderBy StockLedgerRow.newest rows).head?.map fun r => r.afterQty

/-- `InventoryExplainLedgerRow`, with the lot code of `LEFT JOIN lots`. -/
def explainLedgerRow (b : Books) (maps : ItemDisplayMaps) (r : StockLedgerRow) :
    LedgerContract.LedgerRow where
  id := r.id
  delta := r.delta
  afterQty := r.afterQty
  reason := r.reason
  reasonCanon := r.reasonCanon
  subReason := r.subReason
  ref := r.ref
  refLine := r.refLine
  occurredAt := r.occurredAt
  createdAt := r.createdAt
  warehouseId := r.slot.warehouseId
  itemId := r.slot.itemId
  itemName := some (maps.name r.slot.itemId)
  baseItemUomId := (maps.baseUom r.slot.itemId).map ItemUom.id
  baseUomName := (maps.baseUom r.slot.itemId).bind ItemUom.baseName
  lotCode := b.lotCodeOf r.slot
  lotId := r.slot.lotId
  traceId := r.traceId
  movementType := inferMovementType r.reason.text

/-- The anchor of the answer. -/
def StockJoin.anchor (s : StockJoin) (maps : ItemDisplayMaps) : InventoryExplainAnchor where
  itemId := s.slot.itemId
  itemName := maps.name s.slot.itemId
  warehouseId := s.slot.warehouseId
  warehouseName := s.warehouse.name
  lotId := s.slot.lotId
  lotCode := s.lotCode
  baseItemUomId := (maps.baseUom s.slot.itemId).map ItemUom.id
  baseUomName := (maps.baseUom s.slot.itemId).bind ItemUom.baseName
  currentQty := s.qty

/-- The summary for a balance and all ledger rows of its slot. -/
def explainSummary (currentQty : ℤ) (rows : List StockLedgerRow) (limit : ℕ) :
    InventoryExplainSummary :=
  let latestAfterQty := queryInventoryExplainLatestAfterQty rows
  { rowCount := rows.length
    truncated := (queryInventoryExplainLedgerRows rows limit).length < rows.length
    currentQty := currentQty
    ledgerLastAfterQty := latestAfterQty
    matchesCurrent := latestAfterQty.map fun q => q = currentQty }

/-- `explain_inventory`. -/
def explainInventory (pms : InventoryPms) (createdAt : ℕ → ℤ) (db : Database)
    (payload : InventoryExplainIn) : Except Err InventoryExplainOut :=
  match db.explainAnchors payload with
  | [] => .error (.httpException 404 "未找到对应的当前库存槽位，或该槽位已无余额。")
  | _ :: _ :: _ => .error (.httpException 409 "当前库存锚点不唯一，请优先传 lot_id。")
  | [s] => do
    let anchorMaps ← loadItemDisplayMaps pms [s.slot.itemId]
    let rows := db.books.explainRows createdAt s.slot
    let picked := queryInventoryExplainLedgerRows rows payload.limit
    let maps ← loadItemDisplayMaps pms (picked.map fun r => r.slot.itemId)
    return {
      anchor := s.anchor anchorMaps
      ledgerRows := picked.map (explainLedgerRow db.books maps)
      summary := explainSummary s.qty rows payload.limit }

end Wms

import Wms.Database
import Wms.Foundation.Ordinal
import Wms.Stock.LedgerRoutes

/-!
# The inventory pages

`query_inventory_rows` counts the balances that a filter selects and reads one page of them,
sorted by item, warehouse and lot code. Rows that are equal in these three may come in any order,
which the database chooses anew for every request.
-/

namespace Wms

open Foundation

/-! ## The rows and their filter -/

/-- A row of `stocks_lot` with its warehouse and its lot. -/
structure StockJoin where
  slot : SlotKey
  qty : ℤ
  warehouse : Warehouse
  lot : Option Lot

/-- `stocks_lot JOIN warehouses LEFT JOIN lots`. -/
def Database.stockJoins (db : Database) : List StockJoin :=
  db.books.stocksLot.entries.flatMap fun s =>
    (db.warehouses.rows.filter fun w => w.id = s.1.warehouseId).flatMap fun w =>
      (db.books.lots.leftJoin fun l => l.id = s.1.lotId).map fun l => ⟨s.1, s.2, w, l⟩

/-- The columns that `list_sql` selects. -/
structure StockColumns where
  itemId : ℕ
  warehouseId : ℕ
  warehouseName : Varchar 100
  lotCode : Option (Varchar 64)
  productionDate : Option Date
  expiryDate : Option Date
  qty : ℤ
  deriving DecidableEq

namespace StockJoin

/-- `l.lot_code`. -/
def lotCode (s : StockJoin) : Option (Varchar 64) := s.lot.bind Lot.lotCode

/-- `l.expiry_date`. -/
def expiryDate (s : StockJoin) : Option Date := s.lot.bind Lot.expiryDate

/-- The selected columns of a row. -/
def columns (s : StockJoin) : StockColumns where
  itemId := s.slot.itemId
  warehouseId := s.slot.warehouseId
  warehouseName := s.warehouse.name
  lotCode := s.lotCode
  productionDate := s.lot.bind Lot.productionDate
  expiryDate := s.expiryDate
  qty := s.qty

/-- `ORDER BY item_id, warehouse_id, lot_code NULLS FIRST`, with the sort keys that the collation
of the database gives to texts. -/
def sortKey {κ : Type} (collate : String → κ) (s : StockJoin) : ℕ ×ₗ ℕ ×ₗ WithBot κ :=
  toLex (s.slot.itemId, toLex (s.slot.warehouseId,
    match s.lotCode with
    | none => ⊥
    | some code => (collate code.text : WithBot κ)))

end StockJoin

/-- The filters of `query_inventory_rows`. -/
structure InventoryFilter where
  q : Option String
  itemId : Option ℤ
  warehouseId : Option ℤ
  lotCode : Option String
  nearExpiry : Option Bool

/-- `ItemBasic` as far as a page shows it. -/
structure InventoryItem extends ItemBasic where
  brand : Option (Varchar 64)
  category : Option (Varchar 64)

/-- The questions of the inventory pages to the product master. -/
structure InventoryPms where
  listItemBasics : String → Except Err (List ItemBasic)
  getItemBasics : List ℕ → Except Err (ℕ → Option InventoryItem)
  listUoms : List ℕ → Except Err (List ItemUom)
  /-- The active barcodes, each with its item. -/
  listBarcodes : List ℕ → Except Err (List (ℕ × String))

/-- `_resolve_inventory_q_item_ids`. -/
def resolveInventoryQItemIds (pms : InventoryPms) (q : Option String) :
    Except Err (Option (List ℕ)) :=
  match cleanText q with
  | none => .ok none
  | some text =>
    if 128 < text.length then .error (.valueError "String should have at most 128 characters")
    else (pms.listItemBasics text).map fun items => some (items.map ItemBasic.id)

/-- `_build_inventory_where`. -/
def inventoryWhere (today : Date) (f : InventoryFilter) (qItemIds : Option (List ℕ))
    (s : StockJoin) : Bool :=
  let itemIds := cleanIds (qItemIds.getD [])
  s.qty ≠ 0 &&
  (cleanText f.q = none || (if itemIds ≠ [] then s.slot.itemId ∈ itemIds else false)) &&
  (f.itemId.all fun i => (s.slot.itemId : ℤ) = i) &&
  (f.warehouseId.all fun w => (s.slot.warehouseId : ℤ) = w) &&
  ((cleanText f.lotCode).all fun code => s.lotCode.map Varchar.text = some code) &&
  (f.nearExpiry ≠ some true ||
    s.expiryDate.any fun ed => today ≤ ed && ed.daysSince today ≤ 30)

/-- The rows that a filter selects. -/
def Database.inventory (db : Database) (today : Date) (f : InventoryFilter)
    (qItemIds : Option (List ℕ)) : List StockJoin :=
  db.stockJoins.filter (inventoryWhere today f qItemIds)

/-! ## A page -/

/-- A row of a page. -/
structure InventoryRow extends StockColumns where
  itemName : String
  itemCode : Option (Varchar 128)
  spec : Option (Varchar 128)
  brand : Option (Varchar 64)
  category : Option (Varchar 64)
  baseItemUomId : Option ℕ
  baseUomName : Option String
  mainBarcode : Option String
  deriving DecidableEq

/-- What a page says about its items. -/
structure InventoryDisplayMaps where
  item : ℕ → Option InventoryItem
  baseUom : ℕ → Option ItemUom
  mainBarcode : ℕ → Option String

/-- `_load_inventory_display_maps`. -/
def loadInventoryDisplayMaps (pms : InventoryPms) (itemIds : List ℕ) :
    Except Err InventoryDisplayMaps := do
  let ids := cleanIds itemIds
  if ids = [] then return ⟨fun _ => none, fun _ => none, fun _ => none⟩
  let items ← pms.getItemBasics ids
  let uoms ← pms.listUoms ids
  let barcodes ← pms.listBarcodes ids
  return ⟨items, baseUomMap ids uoms, fun i =>
    (barcodes.find? fun b => b.1 = i).bind fun b => cleanText (some b.2)⟩

/-- The row of a page for the columns of a balance. -/
def StockColumns.enrich (maps : InventoryDisplayMaps) (c : StockColumns) : InventoryRow where
  toStockColumns := c
  itemName := match maps.item c.itemId with
    | some item => item.name.text
    | none => s!"ITEM-{c.itemId}"
  itemCode := (maps.item c.itemId).map fun item => item.sku
  spec := (maps.item c.itemId).bind fun item => item.spec
  brand := (maps.item c.itemId).bind InventoryItem.brand
  category := (maps.item c.itemId).bind InventoryItem.category
  baseItemUomId := (maps.baseUom c.itemId).map ItemUom.id
  baseUomName := (maps.baseUom c.itemId).bind ItemUom.baseName
  mainBarcode := maps.mainBarcode c.itemId

/-- `_enrich_inventory_rows`. -/
def enrichInventoryRows (pms : InventoryPms) (rows : List StockColumns) :
    Except Err (List InventoryRow) := do
  let maps ← loadInventoryDisplayMaps pms (rows.map StockColumns.itemId)
  return rows.map (StockColumns.enrich maps)

/-- `query_inventory_rows`: the total and a page, in the order that the database chooses. -/
def queryInventoryRows (pms : InventoryPms) (today : Date)
    (order : List StockJoin → List StockJoin) (db : Database) (f : InventoryFilter)
    (offset limit : ℕ) : Except Err (ℕ × List InventoryRow) := do
  let qItemIds ← resolveInventoryQItemIds pms f.q
  let total := (db.inventory today f qItemIds).length
  let rows := page offset limit (order (db.inventory today f qItemIds))
  let enriched ← enrichInventoryRows pms (rows.map StockJoin.columns)
  return (total, enriched)

end Wms

import Wms.Finance.OrderSales
import Wms.Foundation.Materialised

/-!
# The purchase price ledger of finance

`finance_purchase_price_ledger_lines` has a row for every line of a purchase order, computed
from the line, its order and the warehouse of the order. Triggers on the three tables compute
rows again. This file has the columns that the rows are computed from; other columns and
constraints of the tables change no row.
-/

namespace Wms.Finance

open Foundation Materialised

/-- A row of `warehouses`. -/
structure Warehouse where
  id : ℕ
  name : Varchar 100
  deriving DecidableEq

namespace PurchasePrices

/-! ## Source tables -/

/-- A row of `purchase_orders`. -/
structure PurchaseOrder where
  id : ℕ
  poNo : Varchar 64
  supplierId : ℕ
  supplierName : Varchar 255
  warehouseId : ℕ
  purchaseTime : ℤ
  updatedAt : ℤ

/-- A row of `purchase_order_lines`. -/
structure PurchaseOrderLine where
  id : ℕ
  poId : ℕ
  lineNo : ℤ
  itemId : ℕ
  itemSku : Option (Varchar 128)
  itemName : Option (Varchar 255)
  specText : Option (Varchar 255)
  qtyOrderedInput : ℤ
  purchaseUomNameSnapshot : Varchar 64
  purchaseRatioToBaseSnapshot : ℤ
  qtyOrderedBase : ℤ
  supplyPrice : Option (Numeric 12)
  updatedAt : ℤ

/-- The tables that ledger lines are computed from. -/
structure SourceTables where
  warehouses : Table Warehouse (SameKey Warehouse.id)
  orders : Table PurchaseOrder (SameKey PurchaseOrder.id)
  lines : Table PurchaseOrderLine (SameKey PurchaseOrderLine.id)
  orders_fk : ∀ po ∈ orders.rows, ∃ wh ∈ warehouses.rows, wh.id = po.warehouseId
  lines_fk : ∀ pol ∈ lines.rows, ∃ po ∈ orders.rows, po.id = pol.poId

namespace SourceTables

/-- No rows. -/
def empty : SourceTables where
  warehouses := .empty
  orders := .empty
  lines := .empty
  orders_fk _ hpo := absurd hpo List.not_mem_nil
  lines_fk _ hpol := absurd hpol List.not_mem_nil

/-- The lines of a purchase order. -/
def linesOf (src : SourceTables) (poId : ℕ) : List ℕ :=
  (src.lines.rows.filter fun pol => pol.poId = poId).map PurchaseOrderLine.id

/-- The lines of the purchase orders of a warehouse. -/
def linesOfWarehouse (src : SourceTables) (warehouseId : ℕ) : List ℕ :=
  (src.lines.rows.filter fun pol =>
    (src.orders.find pol.poId).any fun po => po.warehouseId = warehouseId).map PurchaseOrderLine.id

end SourceTables

/-! ## What a ledger line is computed to -/

/-- A row of `finance_purchase_price_ledger_lines`, without its key and the time of
calculation. -/
structure LedgerLine where
  poLineId : ℕ
  poId : ℕ
  poNo : Varchar 64
  lineNo : ℤ
  itemId : ℕ
  itemSku : Option (Varchar 128)
  itemName : Option (Varchar 255)
  specText : Option (Varchar 255)
  supplierId : ℕ
  supplierName : Varchar 255
  warehouseId : ℕ
  warehouseName : Varchar 100
  purchaseTime : ℤ
  purchaseDate : Date
  qtyOrderedInput : ℤ
  purchaseUomNameSnapshot : Varchar 64
  purchaseRatioToBaseSnapshot : ℤ
  qtyOrderedBase : ℤ
  purchaseUnitPrice : Option (Numeric 12)
  plannedLineAmount : Numeric 14
  sourceUpdatedAt : ℤ
  /-- `ck_fpp_ledger_qty_input_positive`. -/
  qty_input_pos : 0 < qtyOrderedInput
  /-- `ck_fpp_ledger_qty_base_positive`. -/
  qty_base_pos : 0 < qtyOrderedBase
  /-- `ck_fpp_ledger_ratio_positive`. -/
  ratio_pos : 1 ≤ purchaseRatioToBaseSnapshot

section Lines

-- the date of a time in the time zone of the database
variable (dateOf : ℤ → Date)

/-- The ledger line of a purchase order line, from the rows that it is joined with. -/
def ledgerLine (pol : PurchaseOrderLine) (po : PurchaseOrder) (wh : Warehouse) :
    Except Err LedgerLine := do
  let plannedLineAmount ← Numeric.store 14 (centsOf pol.supplyPrice * pol.qtyOrderedBase)
  if hinput : 0 < pol.qtyOrderedInput then
    if hbase : 0 < pol.qtyOrderedBase then
      if hratio : 1 ≤ pol.purchaseRatioToBaseSnapshot then
        .ok {
          poLineId := pol.id, poId := po.id, poNo := po.poNo, lineNo := pol.lineNo
          itemId := pol.itemId, itemSku := pol.itemSku, itemName := pol.itemName
          specText := pol.specText, supplierId := po.supplierId, supplierName := po.supplierName
          warehouseId := po.warehouseId, warehouseName := wh.name
          purchaseTime := po.purchaseTime, purchaseDate := dateOf po.purchaseTime
          qtyOrderedInput := pol.qtyOrderedInput
          purchaseUomNameSnapshot := pol.purchaseUomNameSnapshot
          purchaseRatioToBaseSnapshot := pol.purchaseRatioToBaseSnapshot
          qtyOrderedBase := pol.qtyOrderedBase, purchaseUnitPrice := pol.supplyPrice
          plannedLineAmount := plannedLineAmount
          sourceUpdatedAt := max pol.updatedAt po.updatedAt
          qty_input_pos := hinput, qty_base_pos := hbase, ratio_pos := hratio }
      else .error (.integrityError "ck_fpp_ledger_ratio_positive")
    else .error (.integrityError "ck_fpp_ledger_qty_base_positive")
  else .error (.integrityError "ck_fpp_ledger_qty_input_positive")

/-- What `finance_refresh_purchase_price_ledger_line` selects for a purchase order line. -/
def selectLedgerLine (src : SourceTables) (poLineId : ℕ) : Except Err (Option LedgerLine) :=
  match src.lines.find poLineId with
  | none => .ok none
  | some pol =>
    match src.orders.find pol.poId with
    | none => .ok none
    | some po =>
      match src.warehouses.find po.warehouseId with
      | none => .ok none
      | some wh => (ledgerLine dateOf pol po wh).map some

/-- The source tables with the rows of the ledger, by their unique key `po_line_id`. -/
abbrev PriceTables := Materialised SourceTables ℕ LedgerLine

/-- Statements on these tables. -/
abbrev PriceTx := Tx PriceTables Err

/-- `finance_refresh_purchase_price_ledger_line`. -/
def refreshPurchasePriceLedgerLine (poLineId : ℕ) : PriceTx PUnit :=
  refresh (selectLedgerLine dateOf) poLineId

/-! ## Triggers -/

/-- `finance_trg_purchase_price_ledger_line_upsert`. -/
def trgLedgerLineUpsert (new : PurchaseOrderLine) : PriceTx PUnit :=
  refreshPurchasePriceLedgerLine dateOf new.id

/-- `finance_trg_purchase_price_ledger_line_delete`. -/
def trgLedgerLineDelete (oldId : ℕ) : PriceTx PUnit := discard oldId

/-- `finance_trg_purchase_price_ledger_po_refresh`. -/
def trgLedgerPoRefresh (newId : ℕ) : PriceTx PUnit := do
  let t ← get
  forM (t.src.linesOf newId) (refreshPurchasePriceLedgerLine dateOf)

/-- `finance_trg_purchase_price_ledger_warehouse_refresh`. -/
def trgLedgerWarehouseRefresh (newId : ℕ) : PriceTx PUnit := do
  let t ← get
  forM (t.src.linesOfWarehouse newId) (refreshPurchasePriceLedgerLine dateOf)

/-! ## Statements -/

/-- The columns that an update of a purchase order sets. -/
structure OrderSet where
  poNo : Option (Varchar 64)
  supplierId : Option ℕ
  supplierName : Option (Varchar 255)
  warehouseId : Option ℕ
  purchaseTime : Option ℤ
  updatedAt : Option ℤ
  deriving DecidableEq

/-- An update that sets other columns only. -/
def OrderSet.none : OrderSet := ⟨.none, .none, .none, .none, .none, .none⟩

/-- The row after the update. -/
def OrderSet.apply (set : OrderSet) (po : PurchaseOrder) : PurchaseOrder where
  id := po.id
  poNo := set.poNo.getD po.poNo
  supplierId := set.supplierId.getD po.supplierId
  supplierName := set.supplierName.getD po.supplierName
  warehouseId := set.warehouseId.getD po.warehouseId
  purchaseTime := set.purchaseTime.getD po.purchaseTime
  updatedAt := set.updatedAt.getD po.updatedAt

/-- A statement on one row of a source table. An update of a warehouse sets its name or other
columns only; an update of a line gives the new row with the identifier of the old one. -/
inductive Statement
  | insertWarehouse (new : Warehouse)
  | updateWarehouse (id : ℕ) (name : Option (Varchar 100))
  | deleteWarehouse (id : ℕ)
  | insertOrder (new : PurchaseOrder)
  | updateOrder (id : ℕ) (set : OrderSet)
  | deleteOrder (id : ℕ)
  | insertLine (new : PurchaseOrderLine)
  | updateLine (new : PurchaseOrderLine)
  | deleteLine (id : ℕ)

namespace SourceTables

variable (src : SourceTables)

/-- Write the warehouses, unless an order would be left without one. -/
def withWarehouses (warehouses : Table Warehouse (SameKey Warehouse.id)) :
    Except Err SourceTables :=
  if h : ∀ po ∈ src.orders.rows, ∃ wh ∈ warehouses.rows, wh.id = po.warehouseId then
    .ok { src with warehouses := warehouses, orders_fk := h }
  else .error (.integrityError "fk_po_warehouse")

/-- Write the purchase orders, each of which needs its warehouse. -/
def withOrders (orders : Table PurchaseOrder (SameKey PurchaseOrder.id)) :
    Except Err SourceTables :=
  if hwarehouse : ∀ po ∈ orders.rows, ∃ wh ∈ src.warehouses.rows, wh.id = po.warehouseId then
    if hline : ∀ pol ∈ src.lines.rows, ∃ po ∈ orders.rows, po.id = pol.poId then
      .ok { src with orders := orders, orders_fk := hwarehouse, lines_fk := hline }
    else .error (.integrityError "purchase_order_lines_po_id_fkey")
  else .error (.integrityError "fk_po_warehouse")

/-- Write the lines, each of which needs its purchase order. -/
def withLines (lines : Table PurchaseOrderLine (SameKey PurchaseOrderLine.id)) :
    Except Err SourceTables :=
  if h : ∀ pol ∈ lines.rows, ∃ po ∈ src.orders.rows, po.id = pol.poId then
    .ok { src with lines := lines, lines_fk := h }
  else .error (.integrityError "purchase_order_lines_po_id_fkey")

/-- The tables without a purchase order and, by cascade, without its lines. -/
def withoutOrder (poId : ℕ) : SourceTables where
  warehouses := src.warehouses
  orders := src.orders.filter fun po => po.id ≠ poId
  lines := src.lines.filter fun pol => pol.poId ≠ poId
  orders_fk po hpo := src.orders_fk po (List.mem_of_mem_filter hpo)
  lines_fk pol hpol := by
    obtain ⟨hmem, hne⟩ := List.mem_filter.mp hpol
    obtain ⟨po, hpo, hid⟩ := src.lines_fk pol hmem
    refine ⟨po, List.mem_filter.mpr ⟨hpo, ?_⟩, hid⟩
    rw [hid]
    exact hne

end SourceTables

/-- What a statement writes to its own table. -/
def Statement.change (src : SourceTables) : Statement → Except Err SourceTables
  | .insertWarehouse new =>
    match src.warehouses.insert new with
    | none => .error (.integrityError "warehouses_pkey")
    | some warehouses => src.withWarehouses warehouses
  | .updateWarehouse id name =>
    match src.warehouses.find id with
    | none => .ok src
    | some old =>
      src.withWarehouses (src.warehouses.replace { old with name := name.getD old.name })
  | .deleteWarehouse id => src.withWarehouses (src.warehouses.filter fun wh => wh.id ≠ id)
  | .insertOrder new =>
    match src.orders.insert new with
    | none => .error (.integrityError "purchase_orders_pkey")
    | some orders => src.withOrders orders
  | .updateOrder id set =>
    match src.orders.find id with
    | none => .ok src
    | some old => src.withOrders (src.orders.replace (set.apply old))
  | .deleteOrder id => .ok (src.withoutOrder id)
  | .insertLine new =>
    match src.lines.insert new with
    | none => .error (.integrityError "purchase_order_lines_pkey")
    | some lines => src.withLines lines
  | .updateLine new => src.withLines (src.lines.replace new)
  | .deleteLine id => src.withLines (src.lines.filter fun pol => pol.id ≠ id)

/-- The triggers that a statement fires, with the tables from before it. Triggers for each
row fire for the rows that the statement found, and those with a list of columns when the
statement sets one of them. -/
def Statement.triggers (statement : Statement) (before : SourceTables) : PriceTx PUnit :=
  match statement with
  | .updateWarehouse id name =>
    if (before.warehouses.find id).isSome ∧ name ≠ none then trgLedgerWarehouseRefresh dateOf id
    else pure ⟨⟩
  | .updateOrder id set =>
    if (before.orders.find id).isSome ∧ set ≠ .none then trgLedgerPoRefresh dateOf id
    else pure ⟨⟩
  | .deleteOrder id => forM (before.linesOf id) trgLedgerLineDelete
  | .insertLine new => trgLedgerLineUpsert dateOf new
  | .updateLine new =>
    if (before.lines.find new.id).isSome then trgLedgerLineUpsert dateOf new else pure ⟨⟩
  | .deleteLine id =>
    if (before.lines.find id).isSome then trgLedgerLineDelete id else pure ⟨⟩
  | .insertWarehouse _ | .deleteWarehouse _ | .insertOrder _ => pure ⟨⟩

/-- Carry out a statement with its triggers. -/
def Statement.exec (s : Statement) : PriceTx PUnit :=
  statement s.change (s.triggers dateOf)

end Lines

end PurchasePrices

end Wms.Finance

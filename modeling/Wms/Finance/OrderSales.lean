import Wms.Foundation.Calendar
import Wms.Foundation.Mirror
import Wms.Foundation.Transaction
import Wms.Text

/-!
# The sales lines of finance

`finance_order_sales_lines` has a line for every item of an order, computed from the item,
its order, the store and the address of the order, and the number of items that the order
has. Triggers on the four tables compute lines again. This file has the columns that the
lines are computed from; other columns and constraints of the tables change no line.
-/

namespace Wms.Finance

open Foundation

/-! ## Source tables -/

/-- A value of a `numeric(precision, 2)` column, in hundredths. -/
structure Numeric (precision : ℕ) where
  cents : ℤ
  fits : cents.natAbs < 10 ^ precision
  deriving DecidableEq

/-- Store a value in a `numeric(precision, 2)` column. -/
def Numeric.store (precision : ℕ) (cents : ℤ) : Except Err (Numeric precision) :=
  if h : cents.natAbs < 10 ^ precision then .ok ⟨cents, h⟩
  else .error (.numericOverflow precision 2)

/-- A row of `stores`. -/
structure Store where
  id : ℕ
  platform : Varchar 16
  storeCode : Varchar 128
  storeName : Varchar 256

/-- A row of `orders`. -/
structure Order where
  id : ℕ
  storeId : ℕ
  platform : Varchar 32
  storeCode : Varchar 64
  extOrderNo : Varchar 128
  status : Option (Varchar 32)
  orderAmount : Option (Numeric 14)
  payAmount : Option (Numeric 14)
  createdAt : ℤ
  updatedAt : Option ℤ

/-- A row of `order_items`. -/
structure OrderItem where
  id : ℕ
  orderId : ℕ
  itemId : ℕ
  skuId : Option (Varchar 128)
  title : Option (Varchar 255)
  qty : Option ℤ
  price : Option (Numeric 12)
  unitPrice : Option (Numeric 10)
  discount : Option (Numeric 12)
  amount : Option (Numeric 14)
  lineAmount : Option (Numeric 12)

/-- A row of `order_address`. -/
structure OrderAddress where
  id : ℕ
  orderId : ℕ
  province : Option (Varchar 64)
  city : Option (Varchar 64)
  district : Option (Varchar 64)
  createdAt : ℤ

/-- The tables that sales lines are computed from. That an address belongs to an order is
checked at the end of a transaction only. -/
structure SourceTables where
  stores : Table Store (SameKey Store.id)
  orders : Table Order (SameKey Order.id)
  items : Table OrderItem (SameKey OrderItem.id)
  addresses : Table OrderAddress (Mirror.Clash OrderAddress.id OrderAddress.orderId)
  orders_fk : ∀ o ∈ orders.rows, ∃ s ∈ stores.rows, s.id = o.storeId
  items_fk : ∀ oi ∈ items.rows, ∃ o ∈ orders.rows, o.id = oi.orderId

namespace SourceTables

/-- No rows. -/
def empty : SourceTables where
  stores := .empty
  orders := .empty
  items := .empty
  addresses := .empty
  orders_fk _ ho := absurd ho List.not_mem_nil
  items_fk _ hi := absurd hi List.not_mem_nil

/-- The items of an order. -/
def itemsOf (src : SourceTables) (orderId : ℕ) : List OrderItem :=
  src.items.rows.filter fun oi => oi.orderId = orderId

/-- The address of an order. -/
def addressOf (src : SourceTables) (orderId : ℕ) : Option OrderAddress :=
  src.addresses.rows.find? fun oa => oa.orderId = orderId

end SourceTables

/-! ## What a line is computed to -/

/-- A row of `finance_order_sales_lines`, without its key and the time of calculation. -/
structure SalesLine where
  orderId : ℕ
  platform : Varchar 32
  storeId : ℕ
  storeCode : Varchar 64
  storeName : Option (Varchar 256)
  extOrderNo : Varchar 128
  orderRef : Varchar 256
  orderStatus : Option (Varchar 32)
  orderCreatedAt : ℤ
  orderDate : Date
  receiverProvince : Option (Varchar 64)
  receiverCity : Option (Varchar 64)
  receiverDistrict : Option (Varchar 64)
  itemId : ℕ
  skuId : Option (Varchar 128)
  title : Option (Varchar 255)
  qtySold : ℤ
  unitPrice : Option (Numeric 12)
  discountAmount : ℤ
  lineAmount : Numeric 14
  orderAmount : Option (Numeric 14)
  payAmount : Option (Numeric 14)
  sourceUpdatedAt : ℤ
  /-- `ck_fosl_qty_sold_nonneg`. -/
  qty_nonneg : 0 ≤ qtySold

/-- `COALESCE` of an amount and zero. -/
def centsOf {precision : ℕ} (amount : Option (Numeric precision)) : ℤ :=
  (amount.map Numeric.cents).getD 0

/-- `order_ref`. -/
def Order.ref (o : Order) : Varchar 256 where
  text := "ORD:" ++ o.platform.text ++ ":" ++ o.storeCode.text ++ ":" ++ o.extOrderNo.text
  fits := by
    have hplatform := o.platform.fits
    have hstore := o.storeCode.fits
    have hext := o.extOrderNo.fits
    have hprefix : "ORD:".length = 4 := by decide
    have hcolon : ":".length = 1 := by decide
    simp only [String.length_append, hprefix, hcolon]
    omega

/-- `order_value`. -/
def Order.value (o : Order) : ℤ := centsOf (o.payAmount.or o.orderAmount)

/-- The amount that an item has of its own: its amount, its line amount, or its quantity at
its price. -/
def OrderItem.ownAmount (oi : OrderItem) : Option ℤ :=
  let product := oi.qty.getD 0 *
    ((oi.price.map Numeric.cents).or (oi.unitPrice.map Numeric.cents)).getD 0
  if 0 < centsOf oi.amount then some (centsOf oi.amount)
  else if 0 < centsOf oi.lineAmount then some (centsOf oi.lineAmount)
  else if 0 < product then some product
  else none

/-- `computed_line_amount`: an item without an amount of its own that is the only one of its
order has the value of the order. -/
def computedLineAmount (o : Order) (oi : OrderItem) (orderItemCount : ℕ) : ℤ :=
  oi.ownAmount.getD (if orderItemCount = 1 ∧ 0 < o.value then o.value else 0)

/-- `unit_price`. The quotient is rounded to hundredths, half away from zero. -/
def computedUnitPrice (oi : OrderItem) (lineAmount : ℤ) : Option ℤ :=
  let qty := oi.qty.getD 0
  if 0 < centsOf oi.price then some (centsOf oi.price)
  else if 0 < centsOf oi.unitPrice then some (centsOf oi.unitPrice)
  else if 0 < qty then some ((2 * lineAmount + qty) / (2 * qty))
  else none

/-- `source_updated_at`. -/
def sourceUpdatedAt (o : Order) (address : Option OrderAddress) : ℤ :=
  max (o.updatedAt.getD o.createdAt) ((address.map OrderAddress.createdAt).getD o.createdAt)

/-- Store a nullable value. -/
def Numeric.store? (precision : ℕ) : Option ℤ → Except Err (Option (Numeric precision))
  | none => .ok none
  | some cents => (Numeric.store precision cents).map some

section Lines

-- the date of a time in the time zone of the database
variable (dateOf : ℤ → Date)

/-- The line of an item, from the rows that it is joined with. -/
def salesLine (o : Order) (store : Option Store) (address : Option OrderAddress) (oi : OrderItem)
    (orderItemCount : ℕ) : Except Err SalesLine := do
  let amount := computedLineAmount o oi orderItemCount
  let lineAmount ← Numeric.store 14 amount
  let unitPrice ← Numeric.store? 12 (computedUnitPrice oi amount)
  if h : 0 ≤ oi.qty.getD 0 then
    .ok {
      orderId := o.id, platform := o.platform, storeId := o.storeId, storeCode := o.storeCode
      storeName := store.map Store.storeName, extOrderNo := o.extOrderNo, orderRef := o.ref
      orderStatus := o.status, orderCreatedAt := o.createdAt, orderDate := dateOf o.createdAt
      receiverProvince := address.bind OrderAddress.province
      receiverCity := address.bind OrderAddress.city
      receiverDistrict := address.bind OrderAddress.district
      itemId := oi.itemId, skuId := oi.skuId, title := oi.title, qtySold := oi.qty.getD 0
      unitPrice := unitPrice, discountAmount := centsOf oi.discount, lineAmount := lineAmount
      orderAmount := o.orderAmount, payAmount := o.payAmount
      sourceUpdatedAt := sourceUpdatedAt o address, qty_nonneg := h }
  else .error (.integrityError "ck_fosl_qty_sold_nonneg")

/-- What `finance_refresh_order_sales_line` selects for an item. -/
def selectSalesLine (src : SourceTables) (orderItemId : ℕ) : Except Err (Option SalesLine) :=
  match src.items.find orderItemId with
  | none => .ok none
  | some oi =>
    match src.orders.find oi.orderId with
    | none => .ok none
    | some o =>
      (salesLine dateOf o (src.stores.find o.storeId) (src.addressOf o.id) oi
        (src.itemsOf o.id).length).map some

/-! ## Refreshing -/

/-- The source tables with the lines of finance, by their unique key `order_item_id`. -/
structure SalesTables where
  src : SourceTables
  lines : ℕ → Option SalesLine

/-- No rows. -/
def SalesTables.empty : SalesTables := ⟨.empty, fun _ => none⟩

/-- Statements on these tables. -/
abbrev SalesTx := Tx SalesTables Err

/-- `finance_refresh_order_sales_line`. -/
def refreshOrderSalesLine (orderItemId : ℕ) : SalesTx PUnit := do
  let t ← get
  match ← Tx.ofExcept (selectSalesLine dateOf t.src orderItemId) with
  | none => pure ⟨⟩
  | some line => set { t with lines := Function.update t.lines orderItemId (some line) }

/-- The lines of an order whose items are gone are deleted. -/
def deleteOrphanLines (orderId : ℕ) : SalesTx PUnit :=
  modify fun t => { t with
    lines := fun i => (t.lines i).filter fun line =>
      ¬(line.orderId = orderId ∧ (t.src.items.find i).isNone) }

/-- `finance_refresh_order_sales_lines_for_order`. -/
def refreshOrderSalesLinesForOrder (orderId : ℕ) : SalesTx PUnit := do
  let t ← get
  forM (t.src.itemsOf orderId) fun oi => refreshOrderSalesLine dateOf oi.id
  deleteOrphanLines orderId

/-! ## Triggers -/

/-- `finance_trg_order_sales_line_upsert`. -/
def trgOrderSalesLineUpsert (new : OrderItem) : SalesTx PUnit := refreshOrderSalesLine dateOf new.id

/-- `finance_trg_order_sales_line_delete`. -/
def trgOrderSalesLineDelete (old : OrderItem) : SalesTx PUnit :=
  modify fun t => { t with lines := Function.update t.lines old.id none }

/-- `finance_trg_order_sales_order_refresh` after an update. -/
def trgOrderSalesOrderRefresh (new : Order) : SalesTx PUnit :=
  refreshOrderSalesLinesForOrder dateOf new.id

/-- `finance_trg_order_sales_order_refresh` after a deletion. -/
def trgOrderSalesOrderDelete (old : Order) : SalesTx PUnit :=
  modify fun t => { t with
    lines := fun i => (t.lines i).filter fun line => line.orderId ≠ old.id }

/-- `finance_trg_order_sales_address_refresh`, with the new row or, after a deletion, the old
one. -/
def trgOrderSalesAddressRefresh (row : OrderAddress) : SalesTx PUnit :=
  refreshOrderSalesLinesForOrder dateOf row.orderId

/-- `finance_trg_order_sales_store_refresh`. -/
def trgOrderSalesStoreRefresh (new : Store) : SalesTx PUnit := do
  let t ← get
  forM (t.src.orders.rows.filter fun o => o.storeId = new.id) fun o =>
    refreshOrderSalesLinesForOrder dateOf o.id

/-! ## Statements -/

/-- The columns that an update of a store sets. -/
structure StoreSet where
  platform : Option (Varchar 16)
  storeCode : Option (Varchar 128)
  storeName : Option (Varchar 256)
  deriving DecidableEq

/-- An update that sets other columns only. -/
def StoreSet.none : StoreSet := ⟨.none, .none, .none⟩

/-- The row after the update. -/
def StoreSet.apply (set : StoreSet) (s : Store) : Store where
  id := s.id
  platform := set.platform.getD s.platform
  storeCode := set.storeCode.getD s.storeCode
  storeName := set.storeName.getD s.storeName

/-- The columns that an update of an order sets. -/
structure OrderSet where
  storeId : Option ℕ
  platform : Option (Varchar 32)
  storeCode : Option (Varchar 64)
  extOrderNo : Option (Varchar 128)
  status : Option (Option (Varchar 32))
  orderAmount : Option (Option (Numeric 14))
  payAmount : Option (Option (Numeric 14))
  createdAt : Option ℤ
  updatedAt : Option (Option ℤ)
  deriving DecidableEq

/-- An update that sets other columns only. -/
def OrderSet.none : OrderSet := ⟨.none, .none, .none, .none, .none, .none, .none, .none, .none⟩

/-- The row after the update. -/
def OrderSet.apply (set : OrderSet) (o : Order) : Order where
  id := o.id
  storeId := set.storeId.getD o.storeId
  platform := set.platform.getD o.platform
  storeCode := set.storeCode.getD o.storeCode
  extOrderNo := set.extOrderNo.getD o.extOrderNo
  status := set.status.getD o.status
  orderAmount := set.orderAmount.getD o.orderAmount
  payAmount := set.payAmount.getD o.payAmount
  createdAt := set.createdAt.getD o.createdAt
  updatedAt := set.updatedAt.getD o.updatedAt

/-- A statement on one row of a source table. An update of an item or an address gives the
new row with the identifier of the old one. -/
inductive Statement
  | insertStore (new : Store)
  | updateStore (id : ℕ) (set : StoreSet)
  | deleteStore (id : ℕ)
  | insertOrder (new : Order)
  | updateOrder (id : ℕ) (set : OrderSet)
  | deleteOrder (id : ℕ)
  | insertItem (new : OrderItem)
  | updateItem (new : OrderItem)
  | deleteItem (id : ℕ)
  | insertAddress (new : OrderAddress)
  | updateAddress (new : OrderAddress)
  | deleteAddress (id : ℕ)

/-- Write a table, when the foreign keys allow it. -/
def writeSource (src : SourceTables) : SalesTx PUnit := modify fun t => { t with src := src }

def insertIntoStores (new : Store) : SalesTx PUnit := do
  let src := (← get).src
  match h : src.stores.insert new with
  | none => throw (Err.integrityError "stores_pkey")
  | some stores =>
    writeSource { src with
      stores := stores
      orders_fk := fun o ho =>
        (src.orders_fk o ho).imp fun _ hs => ⟨Table.mem_of_insert h hs.1, hs.2⟩ }

def updateStores (id : ℕ) (set : StoreSet) : SalesTx PUnit := do
  let src := (← get).src
  match src.stores.find id with
  | none => pure ⟨⟩
  | some old =>
    let new := set.apply old
    let stores := src.stores.replace new
    if h : ∀ o ∈ src.orders.rows, ∃ s ∈ stores.rows, s.id = o.storeId then
      writeSource { src with stores := stores, orders_fk := h }
      if set ≠ .none then trgOrderSalesStoreRefresh dateOf new
    else throw (Err.integrityError "fk_orders_store_id_stores")

def deleteFromStores (id : ℕ) : SalesTx PUnit := do
  let src := (← get).src
  let stores := src.stores.filter fun s => s.id ≠ id
  if h : ∀ o ∈ src.orders.rows, ∃ s ∈ stores.rows, s.id = o.storeId then
    writeSource { src with stores := stores, orders_fk := h }
  else throw (Err.integrityError "fk_orders_store_id_stores")

def insertIntoOrders (new : Order) : SalesTx PUnit := do
  let src := (← get).src
  match h : src.orders.insert new with
  | none => throw (Err.integrityError "orders_pkey")
  | some orders =>
    if hfk : ∀ o ∈ orders.rows, ∃ s ∈ src.stores.rows, s.id = o.storeId then
      writeSource { src with
        orders := orders
        orders_fk := hfk
        items_fk := fun oi hi =>
          (src.items_fk oi hi).imp fun _ ho => ⟨Table.mem_of_insert h ho.1, ho.2⟩ }
    else throw (Err.integrityError "fk_orders_store_id_stores")

def updateOrders (id : ℕ) (set : OrderSet) : SalesTx PUnit := do
  let src := (← get).src
  match src.orders.find id with
  | none => pure ⟨⟩
  | some old =>
    let new := set.apply old
    let orders := src.orders.replace new
    if hstore : ∀ o ∈ orders.rows, ∃ s ∈ src.stores.rows, s.id = o.storeId then
      if hitem : ∀ oi ∈ src.items.rows, ∃ o ∈ orders.rows, o.id = oi.orderId then
        writeSource { src with orders := orders, orders_fk := hstore, items_fk := hitem }
        if set ≠ .none then trgOrderSalesOrderRefresh dateOf new
      else throw (Err.integrityError "fk_order_items_order")
    else throw (Err.integrityError "fk_orders_store_id_stores")

/-- The tables without an order and, by cascade, without its items and its address. -/
def SourceTables.withoutOrder (src : SourceTables) (id : ℕ) : SourceTables where
  stores := src.stores
  orders := src.orders.filter fun o => o.id ≠ id
  items := src.items.filter fun oi => oi.orderId ≠ id
  addresses := src.addresses.filter fun oa => oa.orderId ≠ id
  orders_fk o ho := src.orders_fk o (List.mem_of_mem_filter ho)
  items_fk oi hi := by
    obtain ⟨hmem, hne⟩ := List.mem_filter.mp hi
    obtain ⟨o, ho, hid⟩ := src.items_fk oi hmem
    have hkept : decide (o.id ≠ id) = true := by
      rw [hid]
      exact hne
    exact ⟨o, List.mem_filter.mpr ⟨ho, hkept⟩, hid⟩

/-- The deletion cascades to the items and the address, whose triggers run before that of the
order. -/
def deleteFromOrders (id : ℕ) : SalesTx PUnit := do
  let src := (← get).src
  match src.orders.find id with
  | none => pure ⟨⟩
  | some old =>
    writeSource (src.withoutOrder id)
    forM (src.itemsOf id) trgOrderSalesLineDelete
    forM (src.addresses.rows.filter fun oa => oa.orderId = id) (trgOrderSalesAddressRefresh dateOf)
    trgOrderSalesOrderDelete old

def insertIntoOrderItems (new : OrderItem) : SalesTx PUnit := do
  let src := (← get).src
  match src.items.insert new with
  | none => throw (Err.integrityError "order_items_pkey")
  | some items =>
    if h : ∀ oi ∈ items.rows, ∃ o ∈ src.orders.rows, o.id = oi.orderId then
      writeSource { src with items := items, items_fk := h }
      trgOrderSalesLineUpsert dateOf new
    else throw (Err.integrityError "fk_order_items_order")

def updateOrderItems (new : OrderItem) : SalesTx PUnit := do
  let src := (← get).src
  match src.items.find new.id with
  | none => pure ⟨⟩
  | some _ =>
    let items := src.items.replace new
    if h : ∀ oi ∈ items.rows, ∃ o ∈ src.orders.rows, o.id = oi.orderId then
      writeSource { src with items := items, items_fk := h }
      trgOrderSalesLineUpsert dateOf new
    else throw (Err.integrityError "fk_order_items_order")

def deleteFromOrderItems (id : ℕ) : SalesTx PUnit := do
  let src := (← get).src
  match src.items.find id with
  | none => pure ⟨⟩
  | some old =>
    writeSource { src with
      items := src.items.filter fun oi => oi.id ≠ id
      items_fk := fun oi hi => src.items_fk oi (List.mem_of_mem_filter hi) }
    trgOrderSalesLineDelete old

def insertIntoOrderAddress (new : OrderAddress) : SalesTx PUnit := do
  let src := (← get).src
  if ∃ oa ∈ src.addresses.rows, oa.id = new.id then
    throw (Err.integrityError "order_address_pkey")
  match Mirror.put src.addresses new with
  | none => throw (Err.integrityError "uq_order_address_order_id")
  | some addresses =>
    writeSource { src with addresses := addresses }
    trgOrderSalesAddressRefresh dateOf new

def updateOrderAddress (new : OrderAddress) : SalesTx PUnit := do
  let src := (← get).src
  match src.addresses.rows.find? fun oa => oa.id = new.id with
  | none => pure ⟨⟩
  | some _ =>
    match Mirror.put src.addresses new with
    | none => throw (Err.integrityError "uq_order_address_order_id")
    | some addresses =>
      writeSource { src with addresses := addresses }
      trgOrderSalesAddressRefresh dateOf new

def deleteFromOrderAddress (id : ℕ) : SalesTx PUnit := do
  let src := (← get).src
  match src.addresses.rows.find? fun oa => oa.id = id with
  | none => pure ⟨⟩
  | some old =>
    writeSource { src with addresses := src.addresses.filter fun oa => oa.id ≠ id }
    trgOrderSalesAddressRefresh dateOf old

/-- Carry out a statement with its triggers. -/
def Statement.exec : Statement → SalesTx PUnit
  | .insertStore new => insertIntoStores new
  | .updateStore id set => updateStores dateOf id set
  | .deleteStore id => deleteFromStores id
  | .insertOrder new => insertIntoOrders new
  | .updateOrder id set => updateOrders dateOf id set
  | .deleteOrder id => deleteFromOrders dateOf id
  | .insertItem new => insertIntoOrderItems dateOf new
  | .updateItem new => updateOrderItems dateOf new
  | .deleteItem id => deleteFromOrderItems id
  | .insertAddress new => insertIntoOrderAddress dateOf new
  | .updateAddress new => updateOrderAddress dateOf new
  | .deleteAddress id => deleteFromOrderAddress dateOf id

end Lines

end Wms.Finance

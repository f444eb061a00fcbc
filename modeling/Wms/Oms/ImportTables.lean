import Wms.Finance.OrderSales
import Wms.Oms.ReadyOrders
import Wms.Orders.Fulfillment

/-!
# Execution orders

What the import of ready orders reads and writes: the projection, the stores, the orders with
their addresses, lines and items, and two tables that say what was imported from where.
-/

namespace Wms.Oms

open Foundation

/-! ## Rows -/

/-- A row of `stores`. -/
structure StoreRow where
  id : ℕ
  platform : Varchar 16
  storeCode : Varchar 128
  storeName : Varchar 256
  active : Bool
  deriving DecidableEq

/-- A row of `orders`. -/
structure ExecutionOrder where
  id : ℕ
  storeId : ℕ
  platform : Varchar 32
  storeCode : Varchar 64
  extOrderNo : Varchar 128
  status : Option (Varchar 32)
  buyerName : Option (Varchar 128)
  buyerPhone : Option (Varchar 32)
  orderAmount : Option (Finance.Numeric 14)
  payAmount : Option (Finance.Numeric 14)
  traceId : Option (Varchar 64)
  createdAt : ℤ
  deriving DecidableEq

/-- A row of `order_address`. -/
structure AddressRow where
  orderId : ℕ
  receiverName : Option (Varchar 255)
  receiverPhone : Option (Varchar 64)
  province : Option (Varchar 64)
  city : Option (Varchar 64)
  district : Option (Varchar 64)
  detail : Option (Varchar 255)
  zipcode : Option (Varchar 32)
  deriving DecidableEq

/-- A row of `order_lines`. -/
structure ExecutionLine where
  id : ℕ
  orderId : ℕ
  itemId : ℤ
  reqQty : ℤ
  deriving DecidableEq

/-- A row of `order_items`. -/
structure ExecutionItem where
  id : ℕ
  orderId : ℕ
  itemId : ℤ
  skuId : Option (Varchar 128)
  title : Option (Varchar 255)
  qty : Option ℤ
  price : Option (Finance.Numeric 12)
  discount : Option (Finance.Numeric 12)
  amount : Option (Finance.Numeric 14)
  deriving DecidableEq

/-- `WmsOmsFulfillmentOrderImport`; its `import_status` has one value. -/
structure OrderImport where
  readyOrderId : Varchar 192
  orderId : ℕ
  platform : Varchar 16
  storeCode : Varchar 128
  platformOrderNo : Varchar 128
  sourceOrderId : ℤ
  sourceHash : Option (Varchar 128)
  orderLineCount : ℕ
  componentCount : ℕ
  importedByUserId : Option ℕ
  deriving DecidableEq

/-- `WmsOmsFulfillmentComponentImport`. -/
structure ComponentImport where
  readyComponentId : Varchar 256
  readyOrderId : Varchar 192
  readyLineId : Varchar 192
  orderId : ℕ
  orderLineId : ℕ
  resolvedItemId : ℤ
  resolvedItemSkuCodeId : ℤ
  resolvedItemUomId : ℤ
  componentSkuCode : Varchar 128
  skuCodeSnapshot : Varchar 128
  itemNameSnapshot : Varchar 255
  uomSnapshot : Varchar 64
  requiredQty : Millionths
  sourceHash : Option (Varchar 128)
  /-- `ck_wms_oms_fulfill_component_import_required_qty_pos`. -/
  required_pos : 0 < requiredQty.count

/-! ## Keys -/

/-- The columns of `uq_stores_platform_store_code`. -/
def StoreRow.key (s : StoreRow) : Varchar 16 × Varchar 128 := (s.platform, s.storeCode)

/-- The columns of `uq_orders_platform_store_ext`. -/
def ExecutionOrder.key (o : ExecutionOrder) : Varchar 32 × Varchar 64 × Varchar 128 :=
  (o.platform, o.storeCode, o.extOrderNo)

/-- The primary key and `uq_order_items_ord_sku`. -/
def ExecutionItem.Conflict (a b : ExecutionItem) : Prop :=
  a.id = b.id ∨ (a.orderId = b.orderId ∧ a.skuId = b.skuId ∧ a.skuId ≠ none)

instance : DecidableRel ExecutionItem.Conflict := fun _ _ =>
  inferInstanceAs (Decidable (_ ∨ _ ∧ _ ∧ _))

/-- The primary key, `uq_wms_oms_fulfill_order_import_order_id` and
`uq_wms_oms_fulfill_order_import_platform_store_no`. -/
def OrderImport.Conflict (a b : OrderImport) : Prop :=
  a.readyOrderId = b.readyOrderId ∨ a.orderId = b.orderId ∨
    (a.platform = b.platform ∧ a.storeCode = b.storeCode ∧ a.platformOrderNo = b.platformOrderNo)

instance : DecidableRel OrderImport.Conflict := fun _ _ =>
  inferInstanceAs (Decidable (_ ∨ _ ∨ _ ∧ _ ∧ _))

/-! ## Tables -/

/-- What the import reads and writes. -/
structure ImportTables where
  projection : Projection
  stores : Table StoreRow (Mirror.Clash StoreRow.id StoreRow.key)
  orders : Table ExecutionOrder (Mirror.Clash ExecutionOrder.id ExecutionOrder.key)
  addresses : Table AddressRow (SameKey AddressRow.orderId)
  fulfillments : Table OrderFulfillment OrderFulfillment.SameOrder
  lines : Table ExecutionLine (SameKey ExecutionLine.id)
  items : Table ExecutionItem ExecutionItem.Conflict
  imports : Table OrderImport OrderImport.Conflict
  componentImports : Table ComponentImport
    (Mirror.Clash ComponentImport.readyComponentId ComponentImport.orderLineId)
  /-- `order_lines.order_id`. -/
  lines_fk : ∀ l ∈ lines.rows, ∃ o ∈ orders.rows, o.id = l.orderId
  /-- `order_items.order_id`. -/
  items_fk : ∀ oi ∈ items.rows, ∃ o ∈ orders.rows, o.id = oi.orderId

namespace ImportTables

variable (s : ImportTables)

/-- The lines of an order. -/
def linesOf (orderId : ℕ) : List ExecutionLine := s.lines.rows.filter fun l => l.orderId = orderId

/-- The items of an order. -/
def itemsOf (orderId : ℕ) : List ExecutionItem := s.items.rows.filter fun oi => oi.orderId = orderId

/-- The components that were imported into an order. -/
def componentImportsOf (orderId : ℕ) : List ComponentImport :=
  s.componentImports.rows.filter fun c => c.orderId = orderId

/-- Insert an order. -/
def insertOrder (o : ExecutionOrder) : Option ImportTables :=
  match h : s.orders.insert o with
  | none => none
  | some orders => some { s with
      orders
      lines_fk := fun l hl =>
        (s.lines_fk l hl).imp fun _ ho => ⟨Table.mem_of_insert h ho.1, ho.2⟩
      items_fk := fun oi hoi =>
        (s.items_fk oi hoi).imp fun _ ho => ⟨Table.mem_of_insert h ho.1, ho.2⟩ }

/-- Insert a line. -/
def insertLine (l : ExecutionLine) : Except Err ImportTables :=
  if hfk : ∃ o ∈ s.orders.rows, o.id = l.orderId then
    match h : s.lines.insert l with
    | none => .error (.integrityError "order_lines_pkey")
    | some lines => .ok { s with
        lines
        lines_fk := fun a ha => by
          rw [(Table.insert_eq_some.mp h).2, List.mem_append, List.mem_singleton] at ha
          rcases ha with ha | rfl
          · exact s.lines_fk a ha
          · exact hfk }
  else .error (.integrityError "order_lines_order_id_fkey")

/-- Insert an item. -/
def insertItem (oi : ExecutionItem) : Except Err ImportTables :=
  if hfk : ∃ o ∈ s.orders.rows, o.id = oi.orderId then
    match h : s.items.insert oi with
    | none => .error (.integrityError "order_items_pkey")
    | some items => .ok { s with
        items
        items_fk := fun a ha => by
          rw [(Table.insert_eq_some.mp h).2, List.mem_append, List.mem_singleton] at ha
          rcases ha with ha | rfl
          · exact s.items_fk a ha
          · exact hfk }
  else .error (.integrityError "order_items_order_id_fkey")

/-- The items with other quantities and amounts. -/
def mapItems (f : ExecutionItem → Option ℤ × Option (Finance.Numeric 14)) : ImportTables :=
  { s with
    items := s.items.map (fun oi => { oi with qty := (f oi).1, amount := (f oi).2 })
      fun _ _ h => h
    items_fk := fun oi hoi => by
      obtain ⟨old, hold, rfl⟩ := List.mem_map.mp hoi
      exact s.items_fk old hold }

end ImportTables

end Wms.Oms

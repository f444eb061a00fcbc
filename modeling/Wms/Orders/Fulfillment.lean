import Wms.Orders.Counters

/-!
# The fulfilment of an order

`order_fulfillment` has at most one row for an order. Routing plans a warehouse for it, a
manual assignment or the commitment to ship names the warehouse that ships, and the two
outbound times say how far the shipment has come.
-/

namespace Wms

open Foundation

/-- `order_fulfillment.execution_stage`. -/
inductive ExecutionStage
  | pick
  | ship
  deriving DecidableEq, Repr

/-- The stages in their order. -/
def ExecutionStage.rank : ExecutionStage → ℕ
  | pick => 1
  | ship => 2

/-- `OrderFulfillment`. -/
structure OrderFulfillment where
  orderId : ℕ
  plannedWarehouseId : Option ℕ
  actualWarehouseId : Option ℕ
  fulfillmentStatus : Option (Varchar 32)
  blockedReasons : Option (List String)
  executionStage : Option ExecutionStage
  outboundCommittedAt : Option ℤ
  outboundCompletedAt : Option ℤ
  /-- `ck_order_fulfillment_outbound_time_order`. -/
  time_order : outboundCompletedAt ≠ none → outboundCommittedAt ≠ none
  /-- `ck_order_fulfillment_status_no_ship_stage`. -/
  status_ok : ∀ s ∈ fulfillmentStatus, s.text ∉ ["SHIP_COMMITTED", "SHIPPED", "READY_TO_FULFILL"]
  deriving DecidableEq

/-- Without a completion there is no order of times to keep. -/
theorem time_order_none : (none : Option ℤ) ≠ none → (none : Option ℤ) ≠ none := id

/-- The primary key. -/
def OrderFulfillment.SameOrder (a b : OrderFulfillment) : Prop := a.orderId = b.orderId

instance : DecidableRel OrderFulfillment.SameOrder := fun _ _ => inferInstanceAs (Decidable (_ = _))

/-- The warehouses that serve a province or a city. -/
structure ServiceAreas where
  /-- `warehouse_service_city_split_provinces`. -/
  citySplitProvinces : List String
  /-- `warehouse_service_provinces`. -/
  provinces : List (String × Option ℕ)
  /-- `warehouse_service_cities`. -/
  cities : List ((String × String) × Option ℕ)

/-- The tables of the order services. -/
structure OmsTables where
  tables : OrderTables
  fulfillment : Table OrderFulfillment OrderFulfillment.SameOrder
  areas : ServiceAreas
  /-- The next value of `order_lines_id_seq`. -/
  lineSeq : ℕ
  /-- A row of `order_items` belongs to an order. -/
  items_fk : ∀ oi ∈ tables.orderItems.rows, ∃ o ∈ tables.db.orders.rows, o.id = oi.orderId
  /-- A row of `order_lines` belongs to an order. -/
  lines_fk : ∀ l ∈ tables.db.orderLines.rows, ∃ o ∈ tables.db.orders.rows, o.id = l.orderId
  /-- The sequence is ahead of the lines. -/
  lines_lt : ∀ l ∈ tables.db.orderLines.rows, l.id < lineSeq

/-- Transactions of the order services. -/
abbrev OmsTx := Tx OmsTables Err

namespace OmsTables

/-- Warehouses and the areas that they serve, and no orders. -/
def noOrders (warehouses : Table Warehouse fun a b => a.id = b.id) (areas : ServiceAreas) :
    OmsTables where
  tables := ⟨{ Database.empty with warehouses := warehouses }, .empty, fun _ => none⟩
  fulfillment := .empty
  areas := areas
  lineSeq := 1
  items_fk _ h := absurd h List.not_mem_nil
  lines_fk _ h := absurd h List.not_mem_nil
  lines_lt _ h := absurd h List.not_mem_nil

/-- The database. -/
def db (t : OmsTables) : Database := t.tables.db

/-- Replace the fulfilment rows. -/
def putFulfillment (f : Table OrderFulfillment OrderFulfillment.SameOrder) (t : OmsTables) :
    OmsTables :=
  { t with fulfillment := f }

/-- The row of an order. -/
def fulfillmentOf (t : OmsTables) (orderId : ℕ) : Option OrderFulfillment :=
  t.fulfillment.rows.find? fun f => f.orderId = orderId

/-- The order with a business key. -/
def findByKey (t : OmsTables) (platform storeCode extOrderNo : String) : Option Order :=
  t.db.orders.rows.find? fun o =>
    o.platform.text = platform ∧ o.storeCode.text = storeCode ∧ o.extOrderNo.text = extOrderNo

/-- Rewrite the row of an order. -/
def updateFulfillment (orderId : ℕ) (f : OrderFulfillment → OrderFulfillment)
    (hf : ∀ r, (f r).orderId = r.orderId) (t : OmsTables) : OmsTables :=
  t.putFulfillment (t.fulfillment.map (fun r => if r.orderId = orderId then f r else r) (by
    intro a b h
    unfold OrderFulfillment.SameOrder at h ⊢
    split at h <;> split at h <;> simpa only [hf] using h))

end OmsTables

/-- Insert the row of an order. -/
def insertFulfillment (r : OrderFulfillment) : OmsTx PUnit := do
  let t ← get
  Tx.failIf ((t.db.findOrder r.orderId).isNone) (.integrityError "order_fulfillment_order_id_fkey")
  let f ← Tx.demand (t.fulfillment.insert r) (.integrityError "order_fulfillment_pkey")
  set (t.putFulfillment f)

/-- A warehouse that a row may name. -/
def requireWarehouse (warehouseId : ℕ) : OmsTx PUnit := do
  let t ← get
  Tx.failIf (¬t.db.HasWarehouse warehouseId)
    (.integrityError "order_fulfillment_actual_warehouse_id_fkey")

/-! ## Shipping -/

/-- The row that a commitment creates. -/
def committedRow (orderId warehouseId : ℕ) (time : ℤ) : OrderFulfillment where
  orderId := orderId
  plannedWarehouseId := none
  actualWarehouseId := some warehouseId
  fulfillmentStatus := none
  blockedReasons := none
  executionStage := some .ship
  outboundCommittedAt := some time
  outboundCompletedAt := none
  time_order h := absurd rfl h
  status_ok _ h := absurd h (Option.not_mem_none _)

/-- The row after the commitment to ship: what is there already stays. -/
def OrderFulfillment.commit (warehouseId : ℕ) (time : ℤ) (r : OrderFulfillment) : OrderFulfillment :=
  { r with
    actualWarehouseId := some (r.actualWarehouseId.getD warehouseId)
    outboundCommittedAt := some (r.outboundCommittedAt.getD time)
    executionStage := some .ship
    time_order := fun _ => Option.some_ne_none _ }

/-- The row with its stage moved on to shipping. -/
def OrderFulfillment.toShip (r : OrderFulfillment) : OrderFulfillment :=
  { r with executionStage := some .ship }

/-- The row after the shipment is complete. -/
def OrderFulfillment.finish (time : ℤ) (r : OrderFulfillment) : OrderFulfillment :=
  if h : r.outboundCommittedAt = none then r
  else { r with
    outboundCompletedAt := some (r.outboundCompletedAt.getD time)
    executionStage := some .ship
    time_order := fun _ => h }

/-- What the shipping services answer: whether the time was there already, and the time. -/
structure OutboundTime where
  idempotent : Bool
  time : ℤ

/-- `ensure_outbound_committed`. -/
def ensureOutboundCommitted (orderId warehouseId : ℕ) (time : ℤ) : OmsTx OutboundTime := do
  let t ← get
  match t.fulfillmentOf orderId with
  | none => do
    requireWarehouse warehouseId
    insertFulfillment (committedRow orderId warehouseId time)
    return ⟨false, time⟩
  | some existing => do
    Tx.failIf (∃ w ∈ existing.actualWarehouseId, w ≠ warehouseId)
      (.problem 409 "fulfillment_warehouse_conflict" "执行仓冲突：订单已绑定执行仓，禁止换仓提交出库。" [])
    requireWarehouse warehouseId
    modify (OmsTables.updateFulfillment orderId (OrderFulfillment.commit warehouseId time)
      fun _ => rfl)
    return ⟨existing.outboundCommittedAt.isSome, existing.outboundCommittedAt.getD time⟩

theorem OrderFulfillment.finish_orderId (time : ℤ) (r : OrderFulfillment) :
    (r.finish time).orderId = r.orderId := by
  unfold OrderFulfillment.finish
  split <;> rfl

/-- `mark_outbound_completed`. -/
def markOutboundCompleted (orderId : ℕ) (time : ℤ) : OmsTx OutboundTime := do
  let t ← get
  let existing ← Tx.demand (t.fulfillmentOf orderId)
    (.problem 409 "fulfillment_missing" "订单履约记录不存在：禁止直接标记已出库，请先进入 WMS 出库提交链路。" [])
  match existing.outboundCompletedAt with
  | some time => do
    modify (OmsTables.updateFulfillment orderId OrderFulfillment.toShip fun _ => rfl)
    return ⟨true, time⟩
  | none => do
    Tx.failIf (existing.outboundCommittedAt = none)
      (.problem 409 "fulfillment_invalid_transition"
        "履约状态不允许直接标记已出库：必须先进入 WMS 出库提交链路。" [])
    modify (OmsTables.updateFulfillment orderId (OrderFulfillment.finish time)
      (OrderFulfillment.finish_orderId time))
    return ⟨false, time⟩

/-! ## Assigning by hand -/

/-- The arguments of `manual_assign_fulfillment_warehouse` that it does not only log. -/
structure ManualAssignCall where
  platform : String
  storeCode : String
  extOrderNo : String
  warehouseId : ℤ
  reason : String

/-- `ManualAssignResult`. -/
structure ManualAssignResult where
  orderId : ℕ
  fromWarehouseId : Option ℕ
  toWarehouseId : ℕ
  fulfillmentStatus : String

/-- `_load_order_lines_sum`: the items of which the order asks for a positive quantity. -/
def OmsTables.orderedTotals (t : OmsTables) (orderId : ℕ) : List (ℕ × ℤ) :=
  (Dict.tally OrderItem.itemId (fun oi => oi.qty.getD 0)
    (t.tables.orderItems.rows.filter fun oi => oi.orderId = orderId)).filter fun p => 0 < p.2

/-- The status that a manual assignment writes. -/
def manuallyAssigned : Varchar 32 := ⟨"MANUALLY_ASSIGNED", by decide⟩

/-- The row that a manual assignment creates. -/
def assignedRow (orderId warehouseId : ℕ) : OrderFulfillment where
  orderId := orderId
  plannedWarehouseId := none
  actualWarehouseId := some warehouseId
  fulfillmentStatus := some manuallyAssigned
  blockedReasons := none
  executionStage := none
  outboundCommittedAt := none
  outboundCompletedAt := none
  time_order := time_order_none
  status_ok s h := by
    rw [← Option.mem_some.mp h]
    decide

/-- The row after a manual assignment. -/
def OrderFulfillment.assign (warehouseId : ℕ) (r : OrderFulfillment) : OrderFulfillment :=
  { r with
    actualWarehouseId := some warehouseId
    fulfillmentStatus := some manuallyAssigned
    blockedReasons := none
    status_ok := (assignedRow r.orderId warehouseId).status_ok }

/-- Insert the row of an order, or rewrite the one that it has. -/
def upsertFulfillment (r : OrderFulfillment) (f : OrderFulfillment → OrderFulfillment)
    (hf : ∀ r, (f r).orderId = r.orderId) : OmsTx PUnit := do
  let t ← get
  match t.fulfillmentOf r.orderId with
  | none => insertFulfillment r
  | some _ => modify (OmsTables.updateFulfillment r.orderId f hf)

/-- `manual_assign_fulfillment_warehouse`. The check of the stock only adds to the audit
event. -/
def manualAssignFulfillmentWarehouse (call : ManualAssignCall) : OmsTx ManualAssignResult := do
  Tx.failIf (call.warehouseId ≤ 0) (.valueError "manual-assign blocked: warehouse_id must be > 0")
  Tx.failIf (strip call.reason = "") (.valueError "manual-assign blocked: reason is required")
  let plat := strip (upper call.platform)
  let sid := strip call.storeCode
  let t ← get
  let order ← Tx.demand (t.findByKey plat sid call.extOrderNo) (.valueError
    s!"order not found: platform={plat}, store_code={sid}, ext_order_no={call.extOrderNo}")
  Tx.failIf (t.orderedTotals order.id = []) (.valueError "manual-assign blocked: order has no lines")
  requireWarehouse call.warehouseId.toNat
  upsertFulfillment (assignedRow order.id call.warehouseId.toNat)
    (OrderFulfillment.assign call.warehouseId.toNat) fun _ => rfl
  return ⟨order.id, (t.fulfillmentOf order.id).bind OrderFulfillment.actualWarehouseId,
    call.warehouseId.toNat, "MANUALLY_ASSIGNED"⟩

end Wms

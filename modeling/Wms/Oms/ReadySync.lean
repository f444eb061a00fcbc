import Wms.Oms.ReadyOrders

/-!
# Syncing the ready orders

A sync asks for the ready orders page by page. The tree of an order is written as a whole: the
children that are stored go, the row of the order is put, and its lines and components are
inserted. A sync that fails is rolled back by its caller.
-/

namespace Wms.Oms

open Foundation
open Procurement (checkIntegers decimal)

/-! ## Parameters -/

/-- `_order_total_required_qty`. -/
def totalRequiredQty (order : ReadyOrderIn) : Except Err ℚ :=
  order.components.foldlM (fun total c => decimal (total + c.requiredQty)) 0

/-- `_order_params`, as the columns of the table take them. -/
def orderRow (hash : ModelHash) (order : ReadyOrderIn) : Except Err OrderProjection := do
  let total ← totalRequiredQty order
  checkBigints [order.sourceOrderId]
  checkIntegers [order.lines.length, order.components.length]
  let readyOrderId ← Varchar.store 192 order.readyOrderId
  let storeCode ← Varchar.store 128 order.storeCode
  let storeName ← Varchar.store 255 order.storeName
  let platformOrderNo ← Varchar.store 128 order.platformOrderNo
  let platformStatus ← Varchar.store? 64 (cleanText order.platformStatus)
  let receiverName ← Varchar.store 128 order.receiverName
  let receiverPhone ← Varchar.store 64 order.receiverPhone
  let receiverProvince ← Varchar.store 64 order.receiverProvince
  let receiverCity ← Varchar.store 64 order.receiverCity
  let receiverDistrict ← Varchar.store? 64 (cleanText order.receiverDistrict)
  let receiverAddress ← Varchar.store 255 order.receiverAddress
  let receiverPostcode ← Varchar.store? 32 (cleanText order.receiverPostcode)
  let totalRequiredQty ← Millionths.store total
  if htotal : 0 ≤ totalRequiredQty.count then return {
    readyOrderId, storeCode, storeName, platformOrderNo, platformStatus, receiverName
    receiverPhone, receiverProvince, receiverCity, receiverDistrict, receiverAddress
    receiverPostcode, totalRequiredQty
    sourceOrderId := order.sourceOrderId
    platform := order.platform
    buyerRemark := cleanText order.buyerRemark
    sellerRemark := cleanText order.sellerRemark
    readyAt := order.readyAt
    sourceUpdatedAt := order.sourceUpdatedAt
    lineCount := order.lines.length
    componentCount := order.components.length
    sourceHash := some (hash.order order)
    total_nonneg := htotal
  }
  else .error (.integrityError "ck_wms_oms_fulfill_order_required_qty_ge0")

/-- `_line_params`. -/
def lineRow (hash : ModelHash) (order : ReadyOrderIn) (line : ReadyLineIn) :
    Except Err LineProjection := do
  checkBigints [line.sourceLineId, line.fskuId]
  let readyLineId ← Varchar.store 192 line.readyLineId
  let readyOrderId ← Varchar.store 192 order.readyOrderId
  let storeCode ← Varchar.store 128 order.storeCode
  let identityValue ← Varchar.store 255 line.identityValue
  let merchantSku ← Varchar.store? 255 (cleanText line.merchantSku)
  let platformItemId ← Varchar.store? 128 (cleanText line.platformItemId)
  let platformSkuId ← Varchar.store? 128 (cleanText line.platformSkuId)
  let platformGoodsName ← Varchar.store? 512 (cleanText line.platformGoodsName)
  let platformSkuName ← Varchar.store? 512 (cleanText line.platformSkuName)
  let orderedQty ← Millionths.store line.orderedQty
  let fskuCode ← Varchar.store 128 line.fskuCode
  let fskuName ← Varchar.store 255 line.fskuName
  let fskuStatusSnapshot ← Varchar.store 32 line.fskuStatusSnapshot
  if hordered : 0 < orderedQty.count then return {
    readyLineId, readyOrderId, storeCode, identityValue, merchantSku, platformItemId
    platformSkuId, platformGoodsName, platformSkuName, orderedQty, fskuCode, fskuName
    fskuStatusSnapshot
    sourceLineId := line.sourceLineId
    platform := order.platform
    identityKind := line.identityKind
    fskuId := line.fskuId
    sourceHash := some (hash.line line)
    ordered_pos := hordered
  }
  else .error (.integrityError "ck_wms_oms_fulfill_line_ordered_qty_pos")

/-- `_component_params`. -/
def componentRow (hash : ModelHash) (order : ReadyOrderIn) (component : ReadyComponentIn) :
    Except Err ComponentProjection := do
  checkBigints [component.resolvedItemId, component.resolvedItemSkuCodeId,
    component.resolvedItemUomId]
  checkIntegers [component.sortOrder]
  let readyComponentId ← Varchar.store 256 component.readyComponentId
  let readyLineId ← Varchar.store 192 component.readyLineId
  let readyOrderId ← Varchar.store 192 order.readyOrderId
  let componentSkuCode ← Varchar.store 128 component.componentSkuCode
  let skuCodeSnapshot ← Varchar.store 128 component.skuCodeSnapshot
  let itemNameSnapshot ← Varchar.store 255 component.itemNameSnapshot
  let uomSnapshot ← Varchar.store 64 component.uomSnapshot
  let qtyPerFsku ← Millionths.store component.qtyPerFsku
  let requiredQty ← Millionths.store component.requiredQty
  let allocUnitPrice ← Millionths.store component.allocUnitPrice
  if hper : 0 < qtyPerFsku.count then
    if hrequired : 0 < requiredQty.count then
      if hprice : 0 ≤ allocUnitPrice.count then
        if hsort : 0 ≤ component.sortOrder then return {
          readyComponentId, readyLineId, readyOrderId, componentSkuCode, skuCodeSnapshot
          itemNameSnapshot, uomSnapshot, qtyPerFsku, requiredQty, allocUnitPrice
          resolvedItemId := component.resolvedItemId
          resolvedItemSkuCodeId := component.resolvedItemSkuCodeId
          resolvedItemUomId := component.resolvedItemUomId
          sortOrder := component.sortOrder
          sourceHash := some (hash.component component)
          per_fsku_pos := hper, required_pos := hrequired, price_nonneg := hprice
          sort_nonneg := hsort
        }
        else .error (.integrityError "ck_wms_oms_fulfill_component_sort_order_ge0")
      else .error (.integrityError "ck_wms_oms_fulfill_component_alloc_price_ge0")
    else .error (.integrityError "ck_wms_oms_fulfill_component_required_qty_pos")
  else .error (.integrityError "ck_wms_oms_fulfill_component_qty_per_fsku_pos")

/-! ## Writing a tree -/

/-- `_replace_order_children`. -/
def replaceOrderChildren (readyOrderId : String) (p : Projection) : Projection where
  orders := p.orders
  lines := p.lines.filter fun l => l.readyOrderId.text ≠ readyOrderId
  components := p.components.filter fun c => c.readyOrderId.text ≠ readyOrderId

/-- Insert a line. -/
def insertLine (hash : ModelHash) (order : ReadyOrderIn) (line : ReadyLineIn) :
    Tx Projection Err Unit := do
  let row ← Tx.ofExcept (lineRow hash order line)
  let p ← get
  let lines ← Tx.demand (p.lines.insert row)
    (.integrityError "uq_wms_oms_fulfill_line_order_source_line")
  set { p with lines }

/-- Insert a component. -/
def insertComponent (hash : ModelHash) (order : ReadyOrderIn) (component : ReadyComponentIn) :
    Tx Projection Err Unit := do
  let row ← Tx.ofExcept (componentRow hash order component)
  let p ← get
  let components ← Tx.demand (p.components.insert row)
    (.integrityError "uq_wms_oms_fulfill_component_line_component")
  set { p with components }

/-- `_upsert_order_tree`, which counts what it has written. -/
def upsertOrderTree (hash : ModelHash) (order : ReadyOrderIn) :
    Tx Projection Err (ℕ × ℕ × ℕ) := do
  modify (replaceOrderChildren order.readyOrderId)
  let row ← Tx.ofExcept (orderRow hash order)
  let p ← get
  let orders ← Tx.demand (Mirror.put p.orders row)
    (.integrityError "uq_wms_oms_fulfill_order_platform_store_no")
  set { p with orders }
  order.lines.forM (insertLine hash order)
  order.components.forM (insertComponent hash order)
  return (1, order.lines.length, order.components.length)

/-! ## A sync -/

/-- The parameters of a request for a page. -/
structure ReadyQuery where
  limit : ℕ
  offset : ℕ
  platform : Option ReadyPlatform
  storeCode : Option String

/-- `OmsFulfillmentReadyListDataIn`. -/
structure ReadyPage where
  items : List ReadyOrderIn
  total : ℤ

/-- `OmsFulfillmentProjectionSyncResult`. -/
structure ReadySyncResult where
  fetched : ℕ
  upsertedOrders : ℕ
  upsertedLines : ℕ
  upsertedComponents : ℕ
  pages : ℕ
  lastOffset : ℕ
  total : ℤ
  deriving DecidableEq

/-- `_safe_limit`. -/
def safeLimit (value : ℤ) : ℕ := (max 1 (min value 500)).toNat

/-- A request to sync. -/
structure ReadySyncCall where
  hash : ModelHash
  /-- What the order system answers. -/
  fetchPage : ReadyQuery → Except Err ReadyPage
  platform : Option ReadyPlatform
  storeCode : Option String
  limit : ℤ

/-- The request for a page. -/
def ReadySyncCall.query (call : ReadySyncCall) (offset : ℕ) : ReadyQuery where
  limit := safeLimit call.limit
  offset
  platform := call.platform
  storeCode := (call.storeCode.filter (· ≠ "")).map strip

/-- The loop over the pages. It has no bound in the source; the model gives up after `fuel` pages. -/
def syncPages (call : ReadySyncCall) :
    ℕ → ReadySyncResult → ℕ → Tx Projection Err ReadySyncResult
  | 0, _, _ => throw (.runtimeError "the list of ready orders does not end")
  | fuel + 1, done, offset => do
    let data ← Tx.ofExcept (call.fetchPage (call.query offset))
    let done := { done with
      pages := done.pages + 1, total := data.total, lastOffset := offset }
    if data.items.isEmpty then return done
    else
      let counts ← data.items.mapM' (upsertOrderTree call.hash)
      let done := { done with
        fetched := done.fetched + data.items.length
        upsertedOrders := done.upsertedOrders + (counts.map fun n => n.1).sum
        upsertedLines := done.upsertedLines + (counts.map fun n => n.2.1).sum
        upsertedComponents := done.upsertedComponents + (counts.map fun n => n.2.2).sum }
      if data.total ≤ offset + safeLimit call.limit then return done
      else syncPages call fuel done (offset + safeLimit call.limit)

/-- `sync_oms_fulfillment_projection_once`. -/
def syncOmsFulfillmentProjectionOnce (fuel : ℕ) (call : ReadySyncCall) :
    Tx Projection Err ReadySyncResult :=
  syncPages call fuel ⟨0, 0, 0, 0, 0, 0, 0⟩ 0

end Wms.Oms

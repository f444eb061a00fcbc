import Wms.Oms.ImportTables

/-!
# Importing ready orders

`import_orders_from_oms_projection` makes an execution order of each ready order that is asked
for: a line for each of its components, and an item for each of its articles. What is stored
before the call decides what happens to each ready order.
-/

namespace Wms.Oms

open Foundation
open Procurement (checkIntegers)

/-! ## Reading the request and the projection -/

/-- `_dedupe_ready_order_ids`. -/
def dedupeReadyOrderIds (values : List String) : List String :=
  values.foldl (fun out value =>
    if strip value = "" ∨ strip value ∈ out then out else out ++ [strip value]) []

/-- `_platform_to_wms`. -/
def platformToWms (value : String) : String :=
  let raw := strip value
  match [("pdd", "PDD"), ("taobao", "TAOBAO"), ("jd", "JD")].lookup (lower raw) with
  | some name => name
  | none => upper raw

/-- `_required_qty_to_int`. -/
def requiredQtyToInt (value : Millionths) : Option ℤ :=
  if value.count ≤ 0 then none
  else if value.count % 10 ^ 6 ≠ 0 then none
  else some (value.count / 10 ^ 6)

/-- What the import takes from its surroundings. -/
structure ImportEnv where
  /-- `_trace_id_for_ready_order`, a digest. -/
  traceId : String → Varchar 64
  /-- `ORDER BY ready_order_id, ready_line_id, sort_order, ready_component_id`, under the
  collation of the database. -/
  arrange : List ComponentProjection → List ComponentProjection
  arrange_perm : ∀ cs, (arrange cs).Perm cs

/-- `OmsProjectionOrderImportRowOut.status`. -/
inductive ImportStatus
  | failed
  | alreadyImported
  | dryRun
  | imported
  deriving DecidableEq, Repr

/-- `OmsProjectionOrderImportRowOut`. -/
structure ImportResult where
  readyOrderId : String
  status : ImportStatus
  orderId : Option ℕ
  platform : Option String
  storeCode : Option String
  platformOrderNo : Option String
  orderLineCount : ℕ
  componentCount : ℕ
  message : Option String
  deriving DecidableEq

/-- `_result`. -/
def result (readyOrderId : String) (status : ImportStatus) (orderId : Option ℕ)
    (order : Option OrderProjection) (orderLineCount componentCount : ℕ) (message : String) :
    ImportResult where
  readyOrderId
  status
  orderId
  platform := order.map fun o => platformToWms o.platform.text
  storeCode := order.map fun o => o.storeCode.text
  platformOrderNo := order.map fun o => o.platformOrderNo.text
  orderLineCount
  componentCount
  message := some message

namespace ImportTables

variable (s : ImportTables)

/-- `_load_projection_orders`, for one identifier. -/
def projectionOrder (readyOrderId : String) : Option OrderProjection :=
  s.projection.orders.rows.find? fun o => o.readyOrderId.text = readyOrderId

/-- `_load_projection_components`, for one identifier. -/
def projectionComponents (env : ImportEnv) (readyOrderId : String) : List ComponentProjection :=
  env.arrange (s.projection.components.rows.filter fun c => c.readyOrderId.text = readyOrderId)

/-- `_load_existing_imports`, for one identifier. -/
def existingImport (readyOrderId : String) : Option ℕ :=
  (s.imports.rows.find? fun i => i.readyOrderId.text = readyOrderId).map OrderImport.orderId

/-- `_load_existing_order_conflicts`, for one ready order: the last order counts. -/
def existingOrderConflict (order : OrderProjection) : Option ℕ :=
  (s.orders.rows.filter fun o =>
    upper o.platform.text = upper order.platform.text ∧ o.storeCode.text = order.storeCode.text ∧
      o.extOrderNo = order.platformOrderNo).getLast?.map ExecutionOrder.id

end ImportTables

/-- What becomes of a ready order, given what is stored before the call: an answer, or an order
that can be imported with its components. -/
def assess (env : ImportEnv) (s : ImportTables) (readyOrderId : String) :
    ImportResult ⊕ OrderProjection × List ComponentProjection :=
  match s.projectionOrder readyOrderId with
  | none => .inl (result readyOrderId .failed none none 0 0 "projection_order_not_found")
  | some order =>
    match s.existingImport readyOrderId with
    | some orderId =>
      .inl (result readyOrderId .alreadyImported (some orderId) (some order) 0 0
        "order_already_imported")
    | none =>
      match s.existingOrderConflict order with
      | some orderId =>
        .inl (result readyOrderId .failed (some orderId) (some order) 0 0
          "existing_execution_order_conflict")
      | none =>
        let components := s.projectionComponents env readyOrderId
        if components = [] then
          .inl (result readyOrderId .failed none (some order) 0 0
            "projection_components_not_found")
        else if order.componentCount ≠ components.length then
          .inl (result readyOrderId .failed none (some order) 0 components.length
            s!"projection_component_count_mismatch: expected={order.componentCount}, actual={components.length}")
        else
          match components.find? fun c => requiredQtyToInt c.requiredQty = none with
          | some c =>
            .inl (result readyOrderId .failed none (some order) 0 components.length
              ("component_required_qty_must_be_positive_integer: ready_component_id=" ++
                c.readyComponentId.text))
          | none => .inr (order, components)

/-! ## Writing an order -/

/-- Transactions of the import. -/
abbrev ImportTx := Tx ImportTables Err

/-- `_ensure_store_from_projection`. -/
def ensureStoreFromProjection (order : OrderProjection) : ImportTx ℕ := do
  let platform ← Tx.ofExcept (Varchar.store 16 (platformToWms order.platform.text))
  let storeName ← Tx.ofExcept (Varchar.store 256
    (if order.storeName.text = "" then order.storeCode.text else order.storeName.text))
  let s ← get
  match s.stores.rows.find? fun r => r.key = (platform, order.storeCode) with
  | some old =>
    set { s with
      stores := s.stores.map
        (fun r => if r.id = old.id then { r with storeName, active := true } else r)
        fun a b h => by
          split at h <;> split at h <;> exact h }
    return old.id
  | none =>
    let row : StoreRow := ⟨nextId (s.stores.rows.map StoreRow.id), platform, order.storeCode,
      storeName, true⟩
    let stores ← Tx.demand (s.stores.insert row) (.integrityError "uq_stores_platform_store_code")
    set { s with stores }
    return row.id

/-- The execution order of a ready order. -/
def executionOrder (env : ImportEnv) (order : OrderProjection) (storeId id : ℕ) :
    Except Err ExecutionOrder := do
  let platform ← Varchar.store 32 (platformToWms order.platform.text)
  let storeCode ← Varchar.store 64 order.storeCode.text
  let buyerName ← Varchar.store? 128 (cleanText (some order.receiverName.text))
  let buyerPhone ← Varchar.store? 32 (cleanText (some order.receiverPhone.text))
  let zero ← Finance.Numeric.store 14 0
  return {
    id, storeId, platform, storeCode, buyerName, buyerPhone
    extOrderNo := order.platformOrderNo
    status := some (.lit "CREATED")
    orderAmount := some zero
    payAmount := some zero
    traceId := some (env.traceId order.readyOrderId.text)
    createdAt := order.readyAt
  }

/-- `_insert_execution_order`: an order that is there already is taken. -/
def insertExecutionOrder (env : ImportEnv) (order : OrderProjection) (storeId : ℕ) :
    ImportTx ℕ := do
  let s ← get
  let row ← Tx.ofExcept (executionOrder env order storeId (nextId (s.orders.rows.map ExecutionOrder.id)))
  match s.insertOrder row with
  | some s' =>
    set s'
    return row.id
  | none =>
    let existing ← Tx.demand (s.orders.rows.find? fun o =>
      upper o.platform.text = upper row.platform.text ∧ o.storeCode.text = order.storeCode.text ∧
        o.extOrderNo = order.platformOrderNo) (.runtimeError "No row was found when one was required")
    return existing.id

/-- `_upsert_execution_order_address`. -/
def upsertExecutionOrderAddress (orderId : ℕ) (order : OrderProjection) : ImportTx Unit := do
  let receiverName ← Tx.ofExcept (Varchar.store? 255 (cleanText (some order.receiverName.text)))
  let receiverPhone ← Tx.ofExcept (Varchar.store? 64 (cleanText (some order.receiverPhone.text)))
  let province ← Tx.ofExcept (Varchar.store? 64 (cleanText (some order.receiverProvince.text)))
  let city ← Tx.ofExcept (Varchar.store? 64 (cleanText (some order.receiverCity.text)))
  let district ← Tx.ofExcept
    (Varchar.store? 64 (cleanText (order.receiverDistrict.map Varchar.text)))
  let detail ← Tx.ofExcept (Varchar.store? 255 (cleanText (some order.receiverAddress.text)))
  let zipcode ← Tx.ofExcept
    (Varchar.store? 32 (cleanText (order.receiverPostcode.map Varchar.text)))
  let row : AddressRow := {
    orderId := orderId
    receiverName, receiverPhone, province, city, district, detail, zipcode }
  modify fun s => { s with
    addresses := match s.addresses.insert row with
      | some addresses => addresses
      | none => s.addresses.replace row }

/-- The row of an order that no warehouse has yet. -/
def placeholderRow (orderId : ℕ) : OrderFulfillment where
  orderId
  plannedWarehouseId := none
  actualWarehouseId := none
  fulfillmentStatus := some (.lit "OMS_IMPORTED")
  blockedReasons := none
  executionStage := none
  outboundCommittedAt := none
  outboundCompletedAt := none
  time_order := time_order_none
  status_ok := by decide

/-- `_insert_order_fulfillment_placeholder`. -/
def insertOrderFulfillmentPlaceholder (orderId : ℕ) : ImportTx Unit :=
  modify fun s => { s with
    fulfillments := (s.fulfillments.insert (placeholderRow orderId)).getD s.fulfillments }

/-- `_insert_order_import_audit`. -/
def insertOrderImportAudit (orderId : ℕ) (order : OrderProjection) (componentCount : ℕ)
    (importedByUserId : Option ℕ) : ImportTx Unit := do
  let platform ← Tx.ofExcept (Varchar.store 16 (platformToWms order.platform.text))
  let sourceHash ← Tx.ofExcept
    (Varchar.store? 128 (cleanText (order.sourceHash.map Varchar.text)))
  let s ← get
  let imports ← Tx.demand (s.imports.insert {
    orderId, platform, sourceHash, importedByUserId
    readyOrderId := order.readyOrderId
    storeCode := order.storeCode
    platformOrderNo := order.platformOrderNo
    sourceOrderId := order.sourceOrderId
    orderLineCount := componentCount
    componentCount := componentCount }) (.integrityError "pk_wms_oms_fulfill_order_imports")
  set { s with imports }

/-! ## Writing the components -/

/-- The nearest number of hundredths to a number of millionths that is not negative. -/
def centsOfMillionths (n : ℤ) : ℤ := (n + 5000) / 10000

/-- The item of a component. -/
def executionItem (component : ComponentProjection) (orderId id : ℕ) (qty : ℤ) :
    Except Err ExecutionItem := do
  checkIntegers [component.resolvedItemId, qty]
  let price ← Finance.Numeric.store 12 (centsOfMillionths component.allocUnitPrice.count)
  let amount ← Finance.Numeric.store 14 (centsOfMillionths (qty * component.allocUnitPrice.count))
  let zero ← Finance.Numeric.store 12 0
  return {
    id, orderId
    itemId := component.resolvedItemId
    skuId := some component.skuCodeSnapshot
    title := some component.itemNameSnapshot
    qty := some qty
    price := some price
    discount := some zero
    amount := some amount
  }

/-- `_insert_order_item_from_component`: an article that is there already gets more of it. -/
def insertOrderItemFromComponent (orderId : ℕ) (component : ComponentProjection) (qty : ℤ) :
    ImportTx Unit := do
  let s ← get
  let row ← Tx.ofExcept
    (executionItem component orderId (nextId (s.items.rows.map ExecutionItem.id)) qty)
  match s.items.rows.find? fun oi => oi.orderId = orderId ∧ oi.skuId = row.skuId with
  | none =>
    let s' ← Tx.ofExcept (s.insertItem row)
    set s'
  | some old =>
    let sum := old.qty.getD 0 + qty
    Tx.ofExcept (checkIntegers [sum])
    let amount ← Tx.ofExcept (Finance.Numeric.store 14
      ((old.amount.map Finance.Numeric.cents).getD 0 + (row.amount.map Finance.Numeric.cents).getD 0))
    set (s.mapItems fun oi =>
      if oi.id = old.id then (some sum, some amount) else (oi.qty, oi.amount))

/-- The body of the loop of `_import_order_lines_and_items`. -/
def importComponent (orderId : ℕ) (component : ComponentProjection) : ImportTx Unit := do
  let qty ← Tx.demand (requiredQtyToInt component.requiredQty)
    (.valueError ("component_required_qty_must_be_positive_integer: ready_component_id=" ++
      component.readyComponentId.text))
  Tx.ofExcept (checkIntegers [qty])
  let s ← get
  let line : ExecutionLine := ⟨nextId (s.lines.rows.map ExecutionLine.id), orderId,
    component.resolvedItemId, qty⟩
  let s' ← Tx.ofExcept (s.insertLine line)
  set s'
  insertOrderItemFromComponent orderId component qty
  let sourceHash ← Tx.ofExcept
    (Varchar.store? 128 (cleanText (component.sourceHash.map Varchar.text)))
  let s ← get
  let componentImports ← Tx.demand (s.componentImports.insert {
    orderId, sourceHash
    readyComponentId := component.readyComponentId
    readyOrderId := component.readyOrderId
    readyLineId := component.readyLineId
    orderLineId := line.id
    resolvedItemId := component.resolvedItemId
    resolvedItemSkuCodeId := component.resolvedItemSkuCodeId
    resolvedItemUomId := component.resolvedItemUomId
    componentSkuCode := component.componentSkuCode
    skuCodeSnapshot := component.skuCodeSnapshot
    itemNameSnapshot := component.itemNameSnapshot
    uomSnapshot := component.uomSnapshot
    requiredQty := component.requiredQty
    required_pos := component.required_pos })
    (.integrityError "pk_wms_oms_fulfill_component_imports")
  set { s with componentImports }

/-! ## A call -/

/-- The import of one ready order. -/
def importOrder (env : ImportEnv) (importedByUserId : Option ℕ) (readyOrderId : String)
    (order : OrderProjection) (components : List ComponentProjection) : ImportTx ImportResult := do
  let storeId ← ensureStoreFromProjection order
  let orderId ← insertExecutionOrder env order storeId
  upsertExecutionOrderAddress orderId order
  insertOrderFulfillmentPlaceholder orderId
  insertOrderImportAudit orderId order components.length importedByUserId
  components.forM (importComponent orderId)
  return result readyOrderId .imported (some orderId) (some order) components.length
    components.length "imported_execution_order"

/-- `OmsProjectionOrderImportOut`. -/
structure ImportOut where
  dryRun : Bool
  requested : ℕ
  imported : ℕ
  alreadyImported : ℕ
  failed : ℕ
  results : List ImportResult

/-- The body of the loop of `import_orders_from_oms_projection`, given what is stored before it. -/
def importReady (env : ImportEnv) (dryRun : Bool) (importedByUserId : Option ℕ)
    (before : ImportTables) (readyOrderId : String) : ImportTx ImportResult :=
  match assess env before readyOrderId with
  | .inl r => return r
  | .inr (order, components) =>
    if dryRun then
      return result readyOrderId .dryRun none (some order) components.length components.length
        "would_import_execution_order"
    else importOrder env importedByUserId readyOrderId order components

/-- `import_orders_from_oms_projection`. -/
def importOrdersFromOmsProjection (env : ImportEnv) (readyOrderIds : List String) (dryRun : Bool)
    (importedByUserId : Option ℕ) : ImportTx ImportOut := do
  let ids := dedupeReadyOrderIds readyOrderIds
  -- the database does not understand an empty list after `IN`
  Tx.failIf (ids = []) (.runtimeError "syntax error at or near \")\"")
  let before ← get
  let results ← ids.mapM' (importReady env dryRun importedByUserId before)
  return {
    dryRun
    requested := ids.length
    imported := results.countP fun r => r.status = .imported
    alreadyImported := results.countP fun r => r.status = .alreadyImported
    failed := results.countP fun r => r.status = .failed
    results
  }

end Wms.Oms

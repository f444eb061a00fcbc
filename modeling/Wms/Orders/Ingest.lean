import Wms.Orders.Fulfillment

/-!
# Taking in an order of a platform

`ingest` stores the head of an order under its business key, unless it is there already,
and the items of a new order. It writes the order lines, which sum the quantities of each
item, on every call, and routes a new order to the warehouse that serves its address.
-/

namespace Wms

open Foundation

/-! ## Routing -/

/-- The standard names of the provinces. -/
def canonicalProvinces : List String :=
  ["北京市", "天津市", "上海市", "重庆市", "河北省", "山西省", "辽宁省", "吉林省", "黑龙江省", "江苏省",
    "浙江省", "安徽省", "福建省", "江西省", "山东省", "河南省", "湖北省", "湖南省", "广东省", "海南省",
    "四川省", "贵州省", "云南省", "陕西省", "甘肃省", "青海省", "台湾省", "内蒙古自治区",
    "广西壮族自治区", "西藏自治区", "宁夏回族自治区", "新疆维吾尔自治区", "香港特别行政区",
    "澳门特别行政区"]

/-- Short names of the provinces. -/
def provinceAliases : List (String × String) :=
  [("北京", "北京市"), ("天津", "天津市"), ("上海", "上海市"), ("重庆", "重庆市"), ("河北", "河北省"),
    ("山西", "山西省"), ("辽宁", "辽宁省"), ("吉林", "吉林省"), ("黑龙江", "黑龙江省"), ("江苏", "江苏省"),
    ("浙江", "浙江省"), ("安徽", "安徽省"), ("福建", "福建省"), ("江西", "江西省"), ("山东", "山东省"),
    ("河南", "河南省"), ("湖北", "湖北省"), ("湖南", "湖南省"), ("广东", "广东省"), ("海南", "海南省"),
    ("四川", "四川省"), ("贵州", "贵州省"), ("云南", "云南省"), ("陕西", "陕西省"), ("甘肃", "甘肃省"),
    ("青海", "青海省"), ("台湾", "台湾省"), ("内蒙古", "内蒙古自治区"), ("内蒙", "内蒙古自治区"),
    ("广西", "广西壮族自治区"), ("西藏", "西藏自治区"), ("宁夏", "宁夏回族自治区"),
    ("新疆", "新疆维吾尔自治区"), ("香港", "香港特别行政区"), ("澳门", "澳门特别行政区")]

/-- `_SUFFIX_TRIES`. -/
def suffixTries : List String := ["", "省", "市", "自治区", "特别行政区"]

/-- `str.replace` of the ideographic space by a blank. -/
def replaceWideBlanks (s : String) : String :=
  String.ofList (s.toList.map fun c => if c.toNat = 0x3000 then ' ' else c)

/-- `normalize_province_name`: a name that is not recognised stays as it is. -/
def normalizeProvinceName (raw : Option String) : Option String :=
  (cleanText (raw.map replaceWideBlanks)).map fun s =>
    if s ∈ canonicalProvinces then s
    else match provinceAliases.lookup s with
      | some name => name
      | none => ((suffixTries.map fun suffix => s ++ suffix).find? (· ∈ canonicalProvinces)).getD s

theorem isSpace_replaceWideBlank (c : Char) :
    isSpace (if c.toNat = 0x3000 then ' ' else c) = isSpace c := by
  split
  · rename_i hc
    unfold isSpace
    rw [hc]
    decide
  · rfl

/-- Replacing wide blanks and stripping may be done in either order. -/
theorem strip_replaceWideBlanks (s : String) :
    strip (replaceWideBlanks s) = replaceWideBlanks (strip s) := by
  have hcomp : (isSpace ∘ fun c : Char => if c.toNat = 0x3000 then ' ' else c) = isSpace :=
    funext isSpace_replaceWideBlank
  unfold strip replaceWideBlanks List.rdropWhile
  simp only [String.toList_ofList, List.dropWhile_map, hcomp, ← List.map_reverse]

theorem replaceWideBlanks_idem (s : String) :
    replaceWideBlanks (replaceWideBlanks s) = replaceWideBlanks s := by
  unfold replaceWideBlanks
  rw [String.toList_ofList, List.map_map]
  congr 2
  funext c
  simp only [Function.comp_apply]
  split
  · rfl
  · rfl

theorem replaceWideBlanks_eq_empty {s : String} : replaceWideBlanks s = "" ↔ s = "" := by
  rw [replaceWideBlanks, ← String.toList_inj, String.toList_ofList, ← String.toList_inj]
  exact List.map_eq_nil_iff

/-- What a text is cleaned to after its wide blanks have been replaced. -/
theorem cleanText_replaceWideBlanks (s : String) : cleanText (some (replaceWideBlanks s)) =
    if strip s = "" then none else some (replaceWideBlanks (strip s)) := by
  unfold cleanText
  dsimp only
  rw [strip_replaceWideBlanks]
  simp only [replaceWideBlanks_eq_empty]

/-- The blanks around a name do not matter. -/
theorem normalizeProvinceName_strip (s : String) :
    normalizeProvinceName (some (strip s)) = normalizeProvinceName (some s) := by
  unfold normalizeProvinceName
  rw [Option.map_some, Option.map_some, cleanText_replaceWideBlanks, cleanText_replaceWideBlanks,
    strip_strip]

theorem normalizeProvinceName_cleanText (s : Option String) :
    normalizeProvinceName (cleanText s) = normalizeProvinceName s := by
  cases s with
  | none => rfl
  | some s =>
    by_cases hs : strip s = ""
    · unfold normalizeProvinceName
      rw [Option.map_some, cleanText_replaceWideBlanks, if_pos hs]
      unfold cleanText
      dsimp only
      rw [if_pos hs]
      rfl
    · have hclean : cleanText (some s) = some (strip s) := if_neg hs
      rw [hclean, normalizeProvinceName_strip]

/-- A name that is not blank has a normal form. -/
theorem exists_normalizeProvinceName {s : String} (hs : strip s ≠ "") :
    ∃ n, normalizeProvinceName (some s) = some n := by
  unfold normalizeProvinceName
  rw [Option.map_some, cleanText_replaceWideBlanks, if_neg hs]
  exact ⟨_, rfl⟩

theorem normalizeProvinceName_canonical :
    ∀ n ∈ canonicalProvinces, normalizeProvinceName (some n) = some n := by
  decide +kernel

theorem provinceAliases_canonical : ∀ p ∈ provinceAliases, p.2 ∈ canonicalProvinces := by
  decide +kernel

/-- A normal form is its own normal form. -/
theorem normalizeProvinceName_idem {raw : Option String} {n : String}
    (h : normalizeProvinceName raw = some n) : normalizeProvinceName (some n) = some n := by
  have hraw := h
  unfold normalizeProvinceName at h
  obtain ⟨s, hs, hn⟩ := Option.map_eq_some_iff.mp h
  split at hn
  · rename_i hcanonical
    rw [← hn]
    exact normalizeProvinceName_canonical s hcanonical
  · rename_i hcanonical
    split at hn
    · rename_i name halias
      rw [← hn]
      exact normalizeProvinceName_canonical name
        (provinceAliases_canonical _ (Dict.mem_of_lookup halias))
    · rename_i halias
      cases hfind : (suffixTries.map fun suffix => s ++ suffix).find? (· ∈ canonicalProvinces) with
      | some name =>
        rw [hfind, Option.getD_some] at hn
        rw [← hn]
        exact normalizeProvinceName_canonical name
          (of_decide_eq_true (List.find?_some (p := fun x => decide (x ∈ canonicalProvinces)) hfind))
      | none =>
        -- the name is stripped and has no wide blanks, so it is not changed again
        rw [hfind, Option.getD_none] at hn
        subst hn
        cases raw with
        | none => cases hs
        | some r =>
          rw [Option.map_some, cleanText_replaceWideBlanks] at hs
          split at hs
          · cases hs
          · rename_i hr
            have heq : replaceWideBlanks (strip r) = s := Option.some.inj hs
            have hstrip : strip s = s := by
              rw [← heq, strip_replaceWideBlanks, strip_strip]
            have hne : strip s ≠ "" := by
              rw [hstrip, ← heq]
              exact mt replaceWideBlanks_eq_empty.mp hr
            have hclean : cleanText (some (replaceWideBlanks s)) = some s := by
              rw [cleanText_replaceWideBlanks, if_neg hne, hstrip, ← heq, replaceWideBlanks_idem]
            unfold normalizeProvinceName
            rw [Option.map_some, hclean, Option.map_some, if_neg hcanonical, halias]
            dsimp only
            rw [hfind, Option.getD_none]

/-- What routing decides. -/
structure RoutePayload where
  status : Option String
  mode : Option String
  reason : Option String
  serviceWarehouseId : Option ℕ
  deriving DecidableEq

/-- No warehouse serves the address. -/
def blockedRoute (mode reason : String) : RoutePayload :=
  ⟨some "FULFILLMENT_BLOCKED", some mode, some reason, none⟩

/-- A warehouse serves the address. -/
def assignedRoute (mode : String) (warehouseId : ℕ) : RoutePayload :=
  ⟨some "SERVICE_ASSIGNED", some mode, some "OK", some warehouseId⟩

/-- The warehouse of a row of the service tables. -/
def serviceWarehouse (row : Option (Option ℕ)) : Option ℕ := row.join.filter fun w => 0 < w

/-- The address of an order, as far as routing reads it, and the fallbacks that the
environment gives. -/
structure RouteAddress where
  province : Option String
  city : Option String
  fallbackProvince : Option String
  fallbackCity : Option String

/-- `_resolve_route_payload`. -/
def resolveRoutePayload (areas : ServiceAreas) (address : RouteAddress) : RoutePayload :=
  let province := normalizeProvinceName
    ((cleanText address.province).or (cleanText address.fallbackProvince))
  let city := (cleanText address.city).or (cleanText address.fallbackCity)
  match province with
  | none => blockedRoute "province" "PROVINCE_MISSING_OR_INVALID"
  | some prov =>
    if prov ∈ areas.citySplitProvinces then
      match city.bind fun c => serviceWarehouse (areas.cities.lookup (prov, c)) with
      | none => blockedRoute "city" "NO_SERVICE_WAREHOUSE"
      | some w => assignedRoute "city" w
    else match serviceWarehouse (areas.provinces.lookup prov) with
      | none => blockedRoute "province" "NO_SERVICE_PROVINCE"
      | some w => assignedRoute "province" w

/-- The status of a route, as the column keeps it. -/
def RoutePayload.statusColumn (route : RoutePayload) : Varchar 32 :=
  if route.status = some "FULFILLMENT_BLOCKED" then ⟨"FULFILLMENT_BLOCKED", by decide⟩
  else ⟨"SERVICE_ASSIGNED", by decide⟩

/-- `blocked_reasons` of a route. -/
def RoutePayload.blockedReasons (route : RoutePayload) : Option (List String) :=
  if route.status = some "FULFILLMENT_BLOCKED" then some route.reason.toList else none

theorem RoutePayload.statusColumn_ok (route : RoutePayload) :
    ∀ s ∈ some route.statusColumn, s.text ∉ ["SHIP_COMMITTED", "SHIPPED", "READY_TO_FULFILL"] := by
  intro s hs
  rw [← Option.mem_some.mp hs]
  unfold RoutePayload.statusColumn
  split <;> decide

/-- The row that routing creates. -/
def routedRow (orderId : ℕ) (route : RoutePayload) : OrderFulfillment where
  orderId := orderId
  plannedWarehouseId := route.serviceWarehouseId
  actualWarehouseId := none
  fulfillmentStatus := some route.statusColumn
  blockedReasons := route.blockedReasons
  executionStage := none
  outboundCommittedAt := none
  outboundCompletedAt := none
  time_order := time_order_none
  status_ok := route.statusColumn_ok

/-- The row after routing: the warehouse that ships and the outbound times stay. -/
def OrderFulfillment.route (route : RoutePayload) (r : OrderFulfillment) : OrderFulfillment :=
  { r with
    plannedWarehouseId := route.serviceWarehouseId
    fulfillmentStatus := some route.statusColumn
    blockedReasons := route.blockedReasons
    status_ok := route.statusColumn_ok }

/-- `_upsert_order_fulfillment_route`. -/
def upsertOrderFulfillmentRoute (orderId : ℕ) (route : RoutePayload) : OmsTx PUnit := do
  let t ← get
  Tx.failIf (∃ w ∈ route.serviceWarehouseId, ¬t.db.HasWarehouse w)
    (.integrityError "order_fulfillment_planned_warehouse_id_fkey")
  upsertFulfillment (routedRow orderId route) (OrderFulfillment.route route) fun _ => rfl

/-- `_load_existing_route_payload`. -/
def OrderFulfillment.routePayload (r : OrderFulfillment) : RoutePayload :=
  let fstat := cleanText (r.fulfillmentStatus.map Varchar.text)
  let reason := match r.blockedReasons with
    | none => none
    | some [] => some "[]"
    | some (reason :: _) => cleanText (some reason)
  if fstat = some "SERVICE_ASSIGNED" then ⟨fstat, none, some "OK", r.plannedWarehouseId⟩
  else ⟨fstat, none, reason, r.plannedWarehouseId⟩

/-! ## The head and the items -/

/-- A line of the payload. -/
structure IngestItem where
  itemId : Option ℕ
  skuId : Option String
  title : Option String
  qty : Option ℤ

/-- The arguments of `ingest` that are stored or routed by. -/
structure IngestCall where
  platform : String
  storeCode : String
  extOrderNo : String
  buyerName : Option String
  buyerPhone : Option String
  items : List IngestItem
  address : RouteAddress

/-- The platform as it is stored. -/
def IngestCall.plat (call : IngestCall) : String := strip (upper call.platform)

/-- The order that a call is about, if it is stored. -/
def OmsTables.orderOf (t : OmsTables) (call : IngestCall) : Option Order :=
  t.findByKey call.plat call.storeCode call.extOrderNo

/-- The row of a new order. -/
def IngestCall.orderRow (call : IngestCall) (id : ℕ) : Except Err Order := do
  let platform ← Varchar.store 32 call.plat
  let storeCode ← Varchar.store 64 call.storeCode
  let extOrderNo ← Varchar.store 128 call.extOrderNo
  let buyerName ← Varchar.store? 128 call.buyerName
  let buyerPhone ← Varchar.store? 32 call.buyerPhone
  return ⟨id, platform, storeCode, extOrderNo, buyerName, buyerPhone, none⟩

namespace OmsTables

/-- Add an order. -/
def putOrder (order : Order) (orders : Table Order fun a b => a.id = b.id) (t : OmsTables)
    (h : t.db.orders.insert order = some orders) : OmsTables :=
  { t with
    tables := { t.tables with
      db := { t.db with orders := orders }
      orderStatus := Function.update t.tables.orderStatus order.id (some "CREATED") }
    items_fk := by
      intro oi hoi
      obtain ⟨o, ho, hid⟩ := t.items_fk oi hoi
      exact ⟨o, Table.mem_of_insert h ho, hid⟩
    lines_fk := by
      intro l hl
      obtain ⟨o, ho, hid⟩ := t.lines_fk l hl
      exact ⟨o, Table.mem_of_insert h ho, hid⟩ }

/-- Replace the items by items of stored orders. -/
def putItems (items : Table OrderItem OrderItem.Conflict) (t : OmsTables)
    (h : ∀ oi ∈ items.rows, ∃ o ∈ t.db.orders.rows, o.id = oi.orderId) : OmsTables :=
  { t with tables := { t.tables with orderItems := items }, items_fk := h }

/-- Replace the lines by lines of stored orders, for which the sequence has gone on. -/
def putLines (lines : Table OrderLine fun a b => a.id = b.id) (seq : ℕ) (t : OmsTables)
    (h : ∀ l ∈ lines.rows, l.id < seq ∧ ∃ o ∈ t.db.orders.rows, o.id = l.orderId) : OmsTables :=
  { t with
    tables := { t.tables with db := { t.db with orderLines := lines } }
    lineSeq := seq
    lines_fk := fun l hl => (h l hl).2
    lines_lt := fun l hl => (h l hl).1 }

end OmsTables

/-- `insert_order_or_get_idempotent`: the order, and whether it was there already. -/
def insertOrderOrGetIdempotent (call : IngestCall) : OmsTx (Order × Bool) := do
  let t ← get
  let row ← Tx.ofExcept (call.orderRow (nextId (t.db.orders.rows.map Order.id)))
  match t.findByKey row.platform.text row.storeCode.text row.extOrderNo.text with
  | some _ => do
    let order ← Tx.demand (t.orderOf call)
      (.runtimeError "订单接入失败：insert_order_or_get_idempotent 未返回 id")
    return (order, true)
  | none =>
    match h : t.db.orders.insert row with
    | none => throw (.integrityError "orders_pkey")
    | some orders => do
      set (t.putOrder row orders h)
      return (row, false)

/-- The first characters of a text fit a column. -/
theorem length_ofList_take_le (n : ℕ) (s : String) :
    (String.ofList (s.toList.take n)).length ≤ n := by
  rw [String.length_ofList]
  exact List.length_take_le n s.toList

/-- The characters of a text that fit a column. -/
def Varchar.cut (n : ℕ) (s : String) : Varchar n where
  text := String.ofList (s.toList.take n)
  fits := length_ofList_take_le n s

/-- `_norm_str`: a text is stripped and cut to the width of its column. -/
def normStr (n : ℕ) (v : Option String) : Option (Varchar n) :=
  (cleanText v).map (Varchar.cut n)

/-- The row of a line of the payload. -/
def IngestItem.row (it : IngestItem) (orderId itemId id : ℕ) : OrderItem where
  id := id
  orderId := orderId
  itemId := itemId
  skuId := normStr 128 it.skuId
  title := normStr 255 it.title
  qty := some (it.qty.getD 0)
  shippedQty := 0
  returnedQty := 0

/-- One insert of `insert_order_items`: a row whose order and sku are there already is
skipped. -/
def insertOrderItem (orderId : ℕ) (it : IngestItem) : OmsTx PUnit := do
  let t ← get
  let itemId ← Tx.demand it.itemId (.integrityError "order_items_item_id_not_null")
  let row := it.row orderId itemId (nextId (t.tables.orderItems.rows.map OrderItem.id))
  match h : t.tables.orderItems.insert row with
  | none => pure ⟨⟩
  | some items =>
    if ho : ∃ o ∈ t.db.orders.rows, o.id = orderId then
      set (t.putItems items (by
        intro oi hoi
        rw [(Table.insert_eq_some.mp h).2] at hoi
        rcases List.mem_append.mp hoi with hold | hnew
        · exact t.items_fk oi hold
        · rw [List.mem_singleton.mp hnew]
          exact ho))
    else throw (.integrityError "order_items_order_id_fkey")

/-! ## The lines -/

/-- `_extract_req_qty`: the positive quantities of each item are summed. -/
def extractReqQty (items : List IngestItem) : List (ℕ × ℤ) :=
  Dict.tally (fun it : IngestItem => it.itemId.getD 0) (fun it => it.qty.getD 0)
    (items.filter fun it => 0 < it.itemId.getD 0 ∧ 0 < it.qty.getD 0)

/-- A line that has gone out, if only in part. -/
def OmsTables.LineShipped (t : OmsTables) (l : OrderLine) : Prop :=
  ∃ e ∈ t.db.eventBook.outboundLines.rows, e.orderLineId = some l.id

instance (t : OmsTables) : DecidablePred t.LineShipped := fun _ =>
  inferInstanceAs (Decidable (∃ _ ∈ _, _))

/-- `DELETE FROM order_lines`. The caller swallows the error of a line that is referred to,
but the transaction is aborted by it and the next statement fails. -/
def deleteOrderLines (orderId : ℕ) : OmsTx PUnit := do
  let t ← get
  Tx.failIf (∃ l ∈ t.db.orderLinesOf orderId, t.LineShipped l)
    (.integrityError "fk_outbound_event_lines_order_line")
  Tx.failIf (∃ l ∈ t.db.orderLinesOf orderId, l.importSnapshot.isSome)
    (.integrityError "fk_wms_oms_fulfill_component_import_order_line")
  set (t.putLines (t.db.orderLines.filter fun l => ¬l.orderId = orderId) t.lineSeq (by
    intro l hl
    have hmem := (List.mem_filter.mp hl).1
    exact ⟨t.lines_lt l hmem, t.lines_fk l hmem⟩))

/-- One insert of `insert_order_lines`. -/
def insertOrderLine (orderId : ℕ) (p : ℕ × ℤ) : OmsTx PUnit := do
  let t ← get
  match h : t.db.orderLines.insert ⟨t.lineSeq, orderId, p.1, p.2, none⟩ with
  | none => throw (.integrityError "order_lines_pkey")
  | some lines =>
    if ho : ∃ o ∈ t.db.orders.rows, o.id = orderId then
      set (t.putLines lines (t.lineSeq + 1) (by
        intro l hl
        rw [(Table.insert_eq_some.mp h).2] at hl
        rcases List.mem_append.mp hl with hold | hnew
        · exact ⟨Nat.lt_succ_of_lt (t.lines_lt l hold), t.lines_fk l hold⟩
        · rw [List.mem_singleton.mp hnew]
          exact ⟨Nat.lt_succ_self _, ho⟩))
    else throw (.integrityError "order_lines_order_id_fkey")

/-- `insert_order_lines`. -/
def insertOrderLines (orderId : ℕ) (items : List IngestItem) : OmsTx PUnit :=
  if extractReqQty items = [] then pure ⟨⟩
  else do
    deleteOrderLines orderId
    forM (extractReqQty items) (insertOrderLine orderId)

/-! ## Ingest -/

/-- The answer of `ingest`. -/
structure IngestResult where
  status : String
  id : ℕ
  ref : String
  route : RoutePayload

/-- `OrderIngestService.ingest`. -/
def ingest (call : IngestCall) : OmsTx IngestResult := do
  let (order, idempotentHit) ← insertOrderOrGetIdempotent call
  let ref := s!"ORD:{call.plat}:{call.storeCode}:{call.extOrderNo}"
  if idempotentHit then do
    insertOrderLines order.id call.items
    let t ← get
    let route := match t.fulfillmentOf order.id with
      | some r => r.routePayload
      | none => resolveRoutePayload t.areas call.address
    return ⟨"IDEMPOTENT", order.id, ref, route⟩
  else do
    forM call.items (insertOrderItem order.id)
    insertOrderLines order.id call.items
    let t ← get
    let route := resolveRoutePayload t.areas call.address
    upsertOrderFulfillmentRoute order.id route
    return ⟨if route.status = some "FULFILLMENT_BLOCKED" then "FULFILLMENT_BLOCKED" else "OK",
      order.id, ref, route⟩

end Wms

import Wms.Foundation.Mirror
import Wms.Foundation.Transaction
import Wms.Procurement.PurchaseOrders

/-!
# The projection of ready orders

The order system lists the orders that are ready for fulfilment, each with its lines and the
components of these. A sync fetches the list page by page and writes each order anew, as a tree:
its row, its lines and its components, in three tables of their own.
-/

namespace Wms.Oms

open Foundation

/-! ## Columns -/

/-- Whether numbers fit `bigint` columns. -/
def checkBigints (ns : List ℤ) : Except Err Unit :=
  if ns.all fun n => -2 ^ 63 ≤ n ∧ n < 2 ^ 63 then .ok () else .error .integerOverflow

/-- A value of a `numeric(18, 6)` column, in millionths. -/
structure Millionths where
  count : ℤ
  fits : count.natAbs < 10 ^ 18
  deriving DecidableEq

/-- The nearest number of millionths, away from zero where two are as near. -/
def roundMillionths (x : ℚ) : ℤ :=
  if 0 ≤ x then ⌊x * 10 ^ 6 + 1 / 2⌋ else -⌊-x * 10 ^ 6 + 1 / 2⌋

/-- Store a number in a `numeric(18, 6)` column. -/
def Millionths.store (x : ℚ) : Except Err Millionths :=
  if h : (roundMillionths x).natAbs < 10 ^ 18 then .ok ⟨roundMillionths x, h⟩
  else .error (.numericOverflow 18 6)

/-! ## The list of the order system -/

/-- `OmsFulfillmentReadyPlatform`. -/
inductive ReadyPlatform
  | pdd
  | taobao
  | jd
  deriving DecidableEq, Repr

/-- The text of a platform. -/
def ReadyPlatform.text : ReadyPlatform → String
  | pdd => "pdd"
  | taobao => "taobao"
  | jd => "jd"

/-- `OmsFulfillmentLineIdentityKind`. -/
inductive IdentityKind
  | merchantCode
  | platformSkuId
  | platformItemSku
  deriving DecidableEq, Repr

/-- `OmsFulfillmentReadyComponentIn`. -/
structure ReadyComponentIn where
  readyComponentId : String
  readyLineId : String
  resolvedItemId : ℤ
  resolvedItemSkuCodeId : ℤ
  resolvedItemUomId : ℤ
  componentSkuCode : String
  skuCodeSnapshot : String
  itemNameSnapshot : String
  uomSnapshot : String
  qtyPerFsku : ℚ
  requiredQty : ℚ
  allocUnitPrice : ℚ
  sortOrder : ℤ

/-- `OmsFulfillmentReadyLineIn`. -/
structure ReadyLineIn where
  readyLineId : String
  sourceLineId : ℤ
  identityKind : IdentityKind
  identityValue : String
  merchantSku : Option String
  platformItemId : Option String
  platformSkuId : Option String
  platformGoodsName : Option String
  platformSkuName : Option String
  orderedQty : ℚ
  fskuId : ℤ
  fskuCode : String
  fskuName : String
  fskuStatusSnapshot : String
  components : List ReadyComponentIn

/-- `OmsFulfillmentReadyOrderIn`; its `ready_status` has one value. -/
structure ReadyOrderIn where
  readyOrderId : String
  sourceOrderId : ℤ
  platform : ReadyPlatform
  storeCode : String
  storeName : String
  platformOrderNo : String
  platformStatus : Option String
  receiverName : String
  receiverPhone : String
  receiverProvince : String
  receiverCity : String
  receiverDistrict : Option String
  receiverAddress : String
  receiverPostcode : Option String
  buyerRemark : Option String
  sellerRemark : Option String
  readyAt : ℤ
  sourceUpdatedAt : ℤ
  lines : List ReadyLineIn

/-- The components of an order, line by line. -/
def ReadyOrderIn.components (order : ReadyOrderIn) : List ReadyComponentIn :=
  order.lines.flatMap ReadyLineIn.components

/-- `_model_hash` of each kind of model: the digest of its JSON text. -/
structure ModelHash where
  order : ReadyOrderIn → Varchar 128
  line : ReadyLineIn → Varchar 128
  component : ReadyComponentIn → Varchar 128

/-! ## Rows -/

/-- `WmsOmsFulfillmentOrderProjection`. -/
structure OrderProjection where
  readyOrderId : Varchar 192
  sourceOrderId : ℤ
  platform : ReadyPlatform
  storeCode : Varchar 128
  storeName : Varchar 255
  platformOrderNo : Varchar 128
  platformStatus : Option (Varchar 64)
  receiverName : Varchar 128
  receiverPhone : Varchar 64
  receiverProvince : Varchar 64
  receiverCity : Varchar 64
  receiverDistrict : Option (Varchar 64)
  receiverAddress : Varchar 255
  receiverPostcode : Option (Varchar 32)
  buyerRemark : Option String
  sellerRemark : Option String
  readyAt : ℤ
  sourceUpdatedAt : ℤ
  lineCount : ℕ
  componentCount : ℕ
  totalRequiredQty : Millionths
  sourceHash : Option (Varchar 128)
  /-- `ck_wms_oms_fulfill_order_required_qty_ge0`. -/
  total_nonneg : 0 ≤ totalRequiredQty.count
  deriving DecidableEq

/-- `WmsOmsFulfillmentLineProjection`. -/
structure LineProjection where
  readyLineId : Varchar 192
  readyOrderId : Varchar 192
  sourceLineId : ℤ
  platform : ReadyPlatform
  storeCode : Varchar 128
  identityKind : IdentityKind
  identityValue : Varchar 255
  merchantSku : Option (Varchar 255)
  platformItemId : Option (Varchar 128)
  platformSkuId : Option (Varchar 128)
  platformGoodsName : Option (Varchar 512)
  platformSkuName : Option (Varchar 512)
  orderedQty : Millionths
  fskuId : ℤ
  fskuCode : Varchar 128
  fskuName : Varchar 255
  fskuStatusSnapshot : Varchar 32
  sourceHash : Option (Varchar 128)
  /-- `ck_wms_oms_fulfill_line_ordered_qty_pos`. -/
  ordered_pos : 0 < orderedQty.count
  deriving DecidableEq

/-- `WmsOmsFulfillmentComponentProjection`. -/
structure ComponentProjection where
  readyComponentId : Varchar 256
  readyLineId : Varchar 192
  readyOrderId : Varchar 192
  resolvedItemId : ℤ
  resolvedItemSkuCodeId : ℤ
  resolvedItemUomId : ℤ
  componentSkuCode : Varchar 128
  skuCodeSnapshot : Varchar 128
  itemNameSnapshot : Varchar 255
  uomSnapshot : Varchar 64
  qtyPerFsku : Millionths
  requiredQty : Millionths
  allocUnitPrice : Millionths
  sortOrder : ℤ
  sourceHash : Option (Varchar 128)
  /-- `ck_wms_oms_fulfill_component_qty_per_fsku_pos`. -/
  per_fsku_pos : 0 < qtyPerFsku.count
  /-- `ck_wms_oms_fulfill_component_required_qty_pos`. -/
  required_pos : 0 < requiredQty.count
  /-- `ck_wms_oms_fulfill_component_alloc_price_ge0`. -/
  price_nonneg : 0 ≤ allocUnitPrice.count
  /-- `ck_wms_oms_fulfill_component_sort_order_ge0`. -/
  sort_nonneg : 0 ≤ sortOrder

/-- The columns of `uq_wms_oms_fulfill_order_platform_store_no`. -/
def OrderProjection.platformNo (o : OrderProjection) : ReadyPlatform × Varchar 128 × Varchar 128 :=
  (o.platform, o.storeCode, o.platformOrderNo)

/-- The columns of `uq_wms_oms_fulfill_line_order_source_line`. -/
def LineProjection.sourceLine (l : LineProjection) : Varchar 192 × ℤ :=
  (l.readyOrderId, l.sourceLineId)

/-- The columns of `uq_wms_oms_fulfill_component_line_component`. -/
def ComponentProjection.lineComponent (c : ComponentProjection) : Varchar 192 × ℤ × ℤ × ℤ × ℤ :=
  (c.readyLineId, c.sortOrder, c.resolvedItemId, c.resolvedItemSkuCodeId, c.resolvedItemUomId)

/-- The three tables of the projection. -/
structure Projection where
  orders : Table OrderProjection
    (Mirror.Clash OrderProjection.readyOrderId OrderProjection.platformNo)
  lines : Table LineProjection (Mirror.Clash LineProjection.readyLineId LineProjection.sourceLine)
  components : Table ComponentProjection
    (Mirror.Clash ComponentProjection.readyComponentId ComponentProjection.lineComponent)

namespace Projection

/-- No rows. -/
def empty : Projection := ⟨.empty, .empty, .empty⟩

/-- The lines of an order. -/
def linesOf (p : Projection) (readyOrderId : Varchar 192) : List LineProjection :=
  p.lines.rows.filter fun l => l.readyOrderId = readyOrderId

/-- The components of an order. -/
def componentsOf (p : Projection) (readyOrderId : Varchar 192) : List ComponentProjection :=
  p.components.rows.filter fun c => c.readyOrderId = readyOrderId

end Projection

end Wms.Oms

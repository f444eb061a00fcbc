import Wms.Finance.OrderSales
import Wms.Foundation.DecimalContext
import Wms.Pms

/-!
# Purchase orders

A purchase order, its lines, and a row for each line that says how far it is completed. The
answers of the supplier projection, of the product master, and of the tables of receipts are
parameters.
-/

namespace Wms.Procurement

open Foundation Finance

/-! ## Decimals -/

/-- A price as the contract accepts it. -/
structure PriceIn where
  coefficient : ℕ
  exponent : ℤ

/-- The number that a price is. -/
def PriceIn.value (p : PriceIn) : ℚ := p.coefficient * 10 ^ p.exponent

/-- The context of Python's decimals. -/
def decimalContext : DecimalContext := ⟨28, -999999, 999999⟩

/-- The result of an operation on decimals. -/
def decimal (x : ℚ) : Except Err ℚ :=
  match decimalContext.finish x with
  | some y => .ok y
  | none => .error .decimalOverflow

/-- The hundredths that a column stores of a number that is not negative. -/
def toCents (x : ℚ) : ℤ := ⌊x * 100 + 1 / 2⌋

/-- Whether numbers fit `integer` columns. -/
def checkIntegers (ns : List ℤ) : Except Err Unit :=
  if ns.all fun n => -2 ^ 31 ≤ n ∧ n < 2 ^ 31 then .ok () else .error .integerOverflow

/-! ## What the services ask -/

/-- `SupplierBasic`. -/
structure SupplierBasic where
  id : ℕ
  name : String
  active : Bool

/-- An item with its supplier. -/
structure SuppliedItem extends ItemBasic where
  supplierId : Option ℕ

/-- `PmsExportUom`, as far as purchases look at it. -/
structure PurchaseUom where
  id : ℕ
  itemId : ℕ
  uom : String
  displayName : Option String
  uomName : String
  ratioToBase : ℕ
  deriving DecidableEq

/-- The answers to the questions of the services. -/
structure PurchasingReads where
  supplier : ℕ → Except Err (Option SupplierBasic)
  itemBasics : List ℕ → Except Err (ℕ → Option SuppliedItem)
  uom : ℕ → Except Err (Option PurchaseUom)
  purchaseDefaultOrBaseUom : ℕ → Except Err (Option PurchaseUom)
  uomsByItem : ℕ → Except Err (List PurchaseUom)

/-! ## Requests -/

/-- A line of a request. -/
structure LineIn where
  lineNo : Option ℤ
  itemId : ℕ
  uomId : Option ℕ
  qtyInput : ℤ
  supplyPrice : Option PriceIn
  specText : Option String
  remark : Option String

/-- A request to create or to update an order. -/
structure OrderIn where
  supplierId : Option ℤ
  warehouseId : ℕ
  purchaser : String
  purchaseTime : ℤ
  remark : Option String
  lines : List LineIn

/-! ## Lines of a request -/

/-- A line that is ready to be stored. -/
structure NormLine where
  lineNo : ℤ
  itemId : ℕ
  itemName : String
  itemSku : String
  specText : Option String
  uomId : ℕ
  uomName : String
  ratioToBase : ℤ
  qtyInput : ℤ
  qtyBase : ℤ
  supplyPrice : Option ℚ
  remark : Option String

/-- `_uom_name_snapshot`. -/
def uomNameSnapshot (row : PurchaseUom) : Except Err String :=
  let name := strip (if row.uomName ≠ "" then row.uomName
    else if row.displayName.getD "" ≠ "" then row.displayName.getD "" else row.uom)
  if name = "" then .error (.valueError "PMS export uom_name/uom 不能为空") else .ok name

/-- The ratio of a unit. -/
def requireRatio (row : PurchaseUom) : Except Err ℤ :=
  if row.ratioToBase = 0 then .error (.valueError "PMS export uom.ratio_to_base 必须 >= 1")
  else .ok row.ratioToBase

/-- `require_item_uom_ratio_to_base`. -/
def requireItemUomRatioToBase (reads : PurchasingReads) (itemId uomId : ℕ) :
    Except Err (ℤ × String) := do
  match ← reads.uom uomId with
  | some row =>
    if row.itemId = itemId then
      let ratio ← requireRatio row
      return (ratio, ← uomNameSnapshot row)
    else .error (.valueError s!"uom_id 不存在或不属于该商品：item_id={itemId} uom_id={uomId}")
  | none => .error (.valueError s!"uom_id 不存在或不属于该商品：item_id={itemId} uom_id={uomId}")

/-- `pick_default_purchase_uom`. -/
def pickDefaultPurchaseUom (reads : PurchasingReads) (itemId : ℕ) :
    Except Err (ℕ × ℤ × String) := do
  let default ← reads.purchaseDefaultOrBaseUom itemId
  let uoms ← if default = none then reads.uomsByItem itemId else pure []
  match default.or uoms.head? with
  | some row =>
    let ratio ← requireRatio row
    return (row.id, ratio, ← uomNameSnapshot row)
  | none => .error (.valueError s!"商品缺少 PMS export uoms：item_id={itemId}")

/-- The unit of a line, its ratio and its name. -/
def resolveUom (reads : PurchasingReads) (raw : LineIn) : Except Err (ℕ × ℤ × String) :=
  match raw.uomId with
  | none => pickDefaultPurchaseUom reads raw.itemId
  | some uomId => do
    let found ← requireItemUomRatioToBase reads raw.itemId uomId
    return (uomId, found)

/-- What creating and updating do alike with a line, once it has a number. -/
def normalizeLine (reads : PurchasingReads) (poSupplierId : ℕ) (items : ℕ → Option SuppliedItem)
    (lineNo : ℤ) (raw : LineIn) : Except Err NormLine := do
  match items raw.itemId with
  | none => .error (.valueError s!"商品不存在：item_id={raw.itemId}")
  | some it =>
    if it.supplierId.getD 0 ≠ 0 ∧ it.supplierId.getD 0 ≠ poSupplierId then
      .error (.valueError "商品不属于当前供应商")
    else
      let (uomId, ratioToBase, uomName) ← resolveUom reads raw
      if raw.qtyInput * ratioToBase ≤ 0 then .error (.valueError "行 qty_ordered_base 必须 > 0")
      else return {
        lineNo, uomId, uomName, ratioToBase
        itemId := raw.itemId
        itemName := it.name.text
        itemSku := it.sku.text
        specText := raw.specText
        qtyInput := raw.qtyInput
        qtyBase := raw.qtyInput * ratioToBase
        supplyPrice := raw.supplyPrice.map PriceIn.value
        remark := cleanText raw.remark
      }

/-- A total to which the price of a line is added. -/
def addLineTotal (total : ℚ) (line : NormLine) : Except Err ℚ := do
  let lineTotal ← match line.supplyPrice with
    | none => pure 0
    | some price => decimal (price * line.qtyBase)
  decimal (total + lineTotal)

/-- The loop over the lines of a request, which has a rule for the numbers of the lines. -/
def normalizeLines (reads : PurchasingReads) (poSupplierId : ℕ)
    (items : ℕ → Option SuppliedItem) (number : ℕ → List ℤ → LineIn → Except Err ℤ) :
    ℕ → List ℤ → ℚ → List LineIn → Except Err (ℚ × List NormLine)
  | _, _, total, [] => .ok (total, [])
  | idx, seen, total, raw :: rest => do
    let lineNo ← number idx seen raw
    let line ← normalizeLine reads poSupplierId items lineNo raw
    let total ← addLineTotal total line
    let (total, lines) ←
      normalizeLines reads poSupplierId items number (idx + 1) (lineNo :: seen) total rest
    return (total, line :: lines)

/-- The number that a line has, or its position. -/
def numberOrPosition (idx : ℕ) (raw : LineIn) : ℤ :=
  if raw.lineNo.getD 0 = 0 then idx else raw.lineNo.getD 0

/-- The numbers of the lines of a new order, which only the table checks. -/
def createNumber (idx : ℕ) (_ : List ℤ) (raw : LineIn) : Except Err ℤ :=
  .ok (numberOrPosition idx raw)

/-- The numbers of the lines of an updated order. -/
def updateNumber (idx : ℕ) (seen : List ℤ) (raw : LineIn) : Except Err ℤ :=
  let lineNo := numberOrPosition idx raw
  if lineNo ≤ 0 then .error (.valueError "line_no 必须 > 0")
  else if lineNo ∈ seen then .error (.valueError s!"line_no 重复：{lineNo}")
  else .ok lineNo

/-- `_require_supplier_snapshot_via_projection`. -/
def requireSupplierSnapshot (reads : PurchasingReads) (supplierId : Option ℤ) :
    Except Err (ℕ × String) :=
  match supplierId with
  | none => .error (.valueError "supplier_id 不能为空：采购单必须绑定供应商")
  | some sid =>
    if sid ≤ 0 then .error (.valueError "supplier_id 非法：采购单必须绑定供应商")
    else do
      match ← reads.supplier sid.toNat with
      | none => .error (.valueError s!"supplier_id 不存在：未找到供应商（supplier_id={sid}）")
      | some supplier =>
        if supplier.active then return (supplier.id, strip supplier.name)
        else .error (.valueError
          s!"supplier_id 已停用：不能用于新建或更新采购单（supplier_id={sid}）")

/-- The head and the lines that a request stands for. -/
structure NormOrder where
  supplierId : ℕ
  supplierName : String
  purchaser : String
  totalAmount : ℚ
  lines : List NormLine

/-- What creating and updating do alike with a request, under the name of the service. -/
def normalizePayload (reads : PurchasingReads) (service : String)
    (number : ℕ → List ℤ → LineIn → Except Err ℤ) (payload : OrderIn) : Except Err NormOrder := do
  if payload.lines = [] then
    .error (.valueError (service ++ " 需要至少一行行项目（lines 不可为空）"))
  else if strip payload.purchaser = "" then
    .error (.valueError "purchaser 不能为空：采购单必须填写采购人")
  else
    let (supplierId, supplierName) ← requireSupplierSnapshot reads payload.supplierId
    let items ← reads.itemBasics (payload.lines.map LineIn.itemId)
    let (totalAmount, lines) ← normalizeLines reads supplierId items number 1 [] 0 payload.lines
    return { supplierId, supplierName, purchaser := strip payload.purchaser, totalAmount, lines }

end Wms.Procurement

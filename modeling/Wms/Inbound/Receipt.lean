import Wms.Foundation.Calendar
import Wms.Foundation.Table
import Wms.Text

/-!
# Receipts and receiving operations

An inbound receipt is a task: lines of an item in some unit, each with a planned
quantity. An operation records one delivery against a receipt. What has been received
of a line is the sum over the operations that name the receipt.
-/

namespace Wms

open Foundation

/-- `inbound_receipts.source_type`. -/
inductive ReceiptSource
  | purchaseOrder
  | manual
  | returnOrder
  deriving DecidableEq, Repr

/-- `inbound_receipts.status`. -/
inductive ReceiptStatus
  | draft
  | released
  | completed
  | voided
  deriving DecidableEq, Repr

/-- The status as the database stores it. -/
def ReceiptStatus.code : ReceiptStatus → String
  | draft => "DRAFT"
  | released => "RELEASED"
  | completed => "COMPLETED"
  | voided => "VOIDED"

/-- `InboundReceiptLine`. -/
structure ReceiptLine where
  lineNo : ℕ
  sourceLineId : Option ℕ
  itemId : ℕ
  itemUomId : ℕ
  plannedQty : ℤ
  itemNameSnapshot : Option (Varchar 255)
  itemSpecSnapshot : Option (Varchar 255)
  uomNameSnapshot : Option (Varchar 64)
  ratioToBaseSnapshot : ℤ
  remark : Option (Varchar 500)
  /-- `ck_inbound_receipt_lines_planned_qty_positive`. -/
  planned_pos : 0 < plannedQty
  /-- `ck_inbound_receipt_lines_ratio_positive`. -/
  ratio_pos : 0 < ratioToBaseSnapshot

/-- The planned quantity in base units. -/
def ReceiptLine.plannedQtyBase (l : ReceiptLine) : ℤ := l.plannedQty * l.ratioToBaseSnapshot

/-- `InboundReceipt` with its lines in the order of their numbers. -/
structure InboundReceipt where
  id : ℕ
  receiptNo : Varchar 64
  sourceType : ReceiptSource
  sourceDocId : Option ℕ
  sourceDocNoSnapshot : Option (Varchar 128)
  warehouseId : ℕ
  warehouseNameSnapshot : Option (Varchar 255)
  supplierId : Option ℕ
  counterpartyNameSnapshot : Option (Varchar 255)
  status : ReceiptStatus
  remark : Option (Varchar 500)
  createdBy : Option ℕ
  releasedAt : Option ℤ
  lines : List ReceiptLine
  /-- `uq_inbound_receipt_lines_receipt_line`. -/
  lines_unique : lines.Pairwise fun a b => a.lineNo ≠ b.lineNo

/-- The primary key and `uq_inbound_receipts_receipt_no`. -/
def InboundReceipt.Conflict (a b : InboundReceipt) : Prop :=
  a.id = b.id ∨ a.receiptNo = b.receiptNo

instance : DecidableRel InboundReceipt.Conflict := fun _ _ =>
  inferInstanceAs (Decidable (_ ∨ _))

/-- A released receipt is completed. -/
def InboundReceipt.complete (receiptId : ℕ) (r : InboundReceipt) : InboundReceipt :=
  if r.id = receiptId ∧ r.status = .released then { r with status := .completed } else r

theorem InboundReceipt.complete_keeps (receiptId : ℕ) (r : InboundReceipt) :
    (r.complete receiptId).id = r.id ∧ (r.complete receiptId).receiptNo = r.receiptNo := by
  unfold InboundReceipt.complete
  split <;> exact ⟨rfl, rfl⟩

/-- `WmsInboundOperationLine`. -/
structure OperationLine where
  receiptLineNoSnapshot : ℕ
  itemId : ℕ
  itemNameSnapshot : Option (Varchar 255)
  itemSpecSnapshot : Option (Varchar 255)
  actualItemUomId : ℕ
  actualUomNameSnapshot : Option (Varchar 64)
  actualRatioToBaseSnapshot : ℤ
  actualQtyInput : ℤ
  qtyBase : ℤ
  batchNo : Option (Varchar 128)
  productionDate : Option Date
  expiryDate : Option Date
  lotId : Option ℕ
  remark : Option (Varchar 500)
  /-- `ck_wms_inbound_operation_lines_prod_le_exp`. -/
  prod_le_exp : ∀ pd ∈ productionDate, ∀ ed ∈ expiryDate, pd ≤ ed
  /-- `ck_wms_inbound_operation_lines_actual_ratio_positive`. -/
  ratio_pos : 0 < actualRatioToBaseSnapshot
  /-- `ck_wms_inbound_operation_lines_actual_qty_input_positive`. -/
  qtyInput_pos : 0 < actualQtyInput
  /-- `ck_wms_inbound_operation_lines_actual_qty_base_consistent`. -/
  qtyBase_eq : qtyBase = actualQtyInput * actualRatioToBaseSnapshot

/-- `WmsInboundOperation` with its lines. -/
structure InboundOperation where
  id : ℕ
  receiptNoSnapshot : Varchar 64
  warehouseId : ℕ
  warehouseNameSnapshot : Option (Varchar 255)
  supplierId : Option ℕ
  supplierNameSnapshot : Option (Varchar 255)
  operatorId : Option ℕ
  operatorNameSnapshot : Option (Varchar 255)
  operatedAt : ℤ
  remark : Option (Varchar 500)
  lines : List OperationLine

/-- `received_qty_base` of one line of a receipt. -/
def receivedQtyBase (operations : List InboundOperation) (receiptNo : String) (lineNo : ℕ) : ℤ :=
  (((operations.filter fun o => o.receiptNoSnapshot.text = receiptNo).flatMap
    InboundOperation.lines).filter fun l => l.receiptLineNoSnapshot = lineNo).map
      OperationLine.qtyBase |>.sum

end Wms

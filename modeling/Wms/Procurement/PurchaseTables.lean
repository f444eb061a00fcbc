import Wms.Foundation.Mirror
import Wms.Procurement.PurchaseOrders

/-!
# The tables of purchase orders

Orders, their lines, and the completion of the lines, with the services that write them. A line
belongs to a stored order, and a completion to a stored line and a stored order; both go when
what they belong to goes.
-/

namespace Wms.Procurement

open Foundation Finance

/-! ## Rows -/

/-- A row of `purchase_orders`. -/
structure PurchaseOrder where
  id : ℕ
  poNo : Varchar 64
  supplierId : ℕ
  supplierName : Varchar 255
  warehouseId : ℕ
  purchaser : Varchar 64
  purchaseTime : ℤ
  totalAmount : Option (Numeric 14)
  status : Varchar 32
  closeReason : Option (Varchar 32)
  closeNote : Option String
  closedAt : Option ℤ
  remark : Option (Varchar 255)

/-- A row of `purchase_order_lines`. -/
structure PurchaseOrderLine where
  id : ℕ
  poId : ℕ
  lineNo : ℤ
  itemId : ℕ
  itemName : Option (Varchar 255)
  itemSku : Option (Varchar 128)
  specText : Option (Varchar 255)
  purchaseUomIdSnapshot : ℕ
  purchaseUomNameSnapshot : Varchar 64
  purchaseRatioToBaseSnapshot : ℤ
  qtyOrderedInput : ℤ
  qtyOrderedBase : ℤ
  supplyPrice : Option (Numeric 12)
  remark : Option (Varchar 255)
  /-- `ck_po_lines_qty_ordered_base_positive`. -/
  qty_pos : 0 < qtyOrderedBase

/-- The price of a line times its quantity, in hundredths. -/
def PurchaseOrderLine.amount (l : PurchaseOrderLine) : ℤ := centsOf l.supplyPrice * l.qtyOrderedBase

/-- `line_completion_status`. -/
inductive CompletionStatus
  | notReceived
  | partly
  | received
  deriving DecidableEq

/-- A row of `purchase_order_line_completion`. -/
structure Completion where
  poLineId : ℕ
  poId : ℕ
  poNo : Varchar 64
  lineNo : ℤ
  warehouseId : ℕ
  supplierId : ℕ
  supplierName : Varchar 255
  purchaser : Varchar 64
  purchaseTime : ℤ
  itemId : ℕ
  itemName : Option (Varchar 255)
  itemSku : Option (Varchar 128)
  specText : Option (Varchar 255)
  purchaseUomIdSnapshot : ℕ
  purchaseUomNameSnapshot : Varchar 64
  purchaseRatioToBaseSnapshot : ℤ
  qtyOrderedInput : ℤ
  qtyOrderedBase : ℤ
  supplyPriceSnapshot : Option (Numeric 12)
  plannedLineAmount : Numeric 14
  qtyReceivedBase : ℤ
  qtyRemainingBase : ℤ
  lineCompletionStatus : CompletionStatus
  lastReceivedAt : Option ℤ
  /-- `ck_polc_qty_ordered_input_positive`. -/
  qty_input_pos : 0 < qtyOrderedInput
  /-- `ck_polc_qty_ordered_base_positive`. -/
  qty_base_pos : 0 < qtyOrderedBase
  /-- `ck_polc_ratio_positive`. -/
  ratio_pos : 1 ≤ purchaseRatioToBaseSnapshot
  /-- `ck_polc_qty_received_base_nonneg`. -/
  received_nonneg : 0 ≤ qtyReceivedBase
  /-- `ck_polc_qty_remaining_consistent`, and with it `ck_polc_qty_remaining_base_nonneg`. -/
  remaining_eq : qtyRemainingBase = max (qtyOrderedBase - qtyReceivedBase) 0

/-! ## Tables -/

/-- The tables of purchase orders, with the last values of their sequences. -/
structure PurchaseTables where
  orders : Table PurchaseOrder (Mirror.Clash PurchaseOrder.id PurchaseOrder.poNo)
  lines : Table PurchaseOrderLine
    (Mirror.Clash PurchaseOrderLine.id fun l => (l.poId, l.lineNo))
  completions : Table Completion (Mirror.Clash Completion.poLineId fun c => (c.poId, c.lineNo))
  orderSeq : ℕ
  lineSeq : ℕ
  lines_fk : ∀ l ∈ lines.rows, ∃ po ∈ orders.rows, po.id = l.poId
  completions_fk : ∀ c ∈ completions.rows,
    (∃ l ∈ lines.rows, l.id = c.poLineId) ∧ ∃ po ∈ orders.rows, po.id = c.poId

namespace PurchaseTables

/-- No rows. -/
def empty : PurchaseTables where
  orders := .empty
  lines := .empty
  completions := .empty
  orderSeq := 0
  lineSeq := 0
  lines_fk _ hl := absurd hl List.not_mem_nil
  completions_fk _ hc := absurd hc List.not_mem_nil

/-- The order with a number. -/
def findOrder (s : PurchaseTables) (poId : ℕ) : Option PurchaseOrder :=
  s.orders.rows.find? fun po => po.id = poId

/-- The lines of an order. -/
def linesOf (s : PurchaseTables) (poId : ℕ) : List PurchaseOrderLine :=
  s.lines.rows.filter fun l => l.poId = poId

/-- The completions of an order. -/
def completionsOf (s : PurchaseTables) (poId : ℕ) : List Completion :=
  s.completions.rows.filter fun c => c.poId = poId

/-- Insert an order. -/
def insertOrder (s : PurchaseTables) (po : PurchaseOrder) : Except Err PurchaseTables :=
  match h : s.orders.insert po with
  | none => .error (.integrityError "uq_purchase_orders_po_no")
  | some orders => .ok { s with
      orders
      lines_fk := fun l hl => by
        obtain ⟨po, hpo, hid⟩ := s.lines_fk l hl
        exact ⟨po, Table.mem_of_insert h hpo, hid⟩
      completions_fk := fun c hc => by
        obtain ⟨hline, po, hpo, hid⟩ := s.completions_fk c hc
        exact ⟨hline, po, Table.mem_of_insert h hpo, hid⟩ }

/-- Insert a line of a stored order. -/
def insertLine (s : PurchaseTables) (l : PurchaseOrderLine) : Except Err PurchaseTables :=
  match h : s.lines.insert l with
  | none => .error (.integrityError "uq_purchase_order_lines_po_id_line_no")
  | some lines =>
    if hfk : ∃ po ∈ s.orders.rows, po.id = l.poId then .ok { s with
      lines
      lines_fk := fun a ha => by
        rw [(Table.insert_eq_some.mp h).2, List.mem_append, List.mem_singleton] at ha
        rcases ha with ha | rfl
        · exact s.lines_fk a ha
        · exact hfk
      completions_fk := fun c hc => by
        obtain ⟨⟨a, ha, hid⟩, horder⟩ := s.completions_fk c hc
        exact ⟨⟨a, Table.mem_of_insert h ha, hid⟩, horder⟩ }
    else .error (.integrityError "purchase_order_lines_po_id_fkey")

/-- Delete the lines of an order, and the completions of these lines with them. -/
def deleteLines (s : PurchaseTables) (poId : ℕ) : PurchaseTables where
  orders := s.orders
  lines := s.lines.filter fun l => l.poId ≠ poId
  completions := s.completions.filter fun c =>
    (s.lines.filter fun l => l.poId ≠ poId).rows.any fun l => l.id = c.poLineId
  orderSeq := s.orderSeq
  lineSeq := s.lineSeq
  lines_fk l hl := s.lines_fk l (List.mem_of_mem_filter hl)
  completions_fk c hc := by
    obtain ⟨hc, hline⟩ := List.mem_filter.mp hc
    obtain ⟨l, hl, hid⟩ := List.any_eq_true.mp hline
    exact ⟨⟨l, hl, of_decide_eq_true hid⟩, (s.completions_fk c hc).2⟩

/-- Delete the completions of an order. -/
def deleteCompletions (s : PurchaseTables) (poId : ℕ) : PurchaseTables :=
  { s with
    completions := s.completions.filter fun c => c.poId ≠ poId
    completions_fk := fun c hc => s.completions_fk c (List.mem_of_mem_filter hc) }

/-- Insert a completion, or replace the one of the same line. -/
def putCompletion (s : PurchaseTables) (c : Completion) : Except Err PurchaseTables :=
  match h : Mirror.put s.completions c with
  | none => .error (.integrityError "uq_polc_po_line_no")
  | some completions =>
    if hfk : (∃ l ∈ s.lines.rows, l.id = c.poLineId) ∧ ∃ po ∈ s.orders.rows, po.id = c.poId then
      .ok { s with
        completions
        completions_fk := fun a ha => by
          rcases (Mirror.mem_put h a).mp ha with rfl | ⟨ha, -⟩
          · exact hfk
          · exact s.completions_fk a ha }
    else .error (.integrityError "purchase_order_line_completion_fkey")

/-- Rewrite the order with a number, which keeps its keys. -/
def reviseOrder (s : PurchaseTables) (poId : ℕ) (f : PurchaseOrder → PurchaseOrder)
    (hid : ∀ po, (f po).id = po.id) (hno : ∀ po, (f po).poNo = po.poNo) : PurchaseTables where
  orders := s.orders.map (fun po => if po.id = poId then f po else po) fun a b hclash => by
    split at hclash <;> split at hclash <;> simpa [Mirror.Clash, hid, hno] using hclash
  lines := s.lines
  completions := s.completions
  orderSeq := s.orderSeq
  lineSeq := s.lineSeq
  lines_fk l hl := by
    obtain ⟨po, hpo, h⟩ := s.lines_fk l hl
    refine ⟨_, List.mem_map_of_mem hpo, ?_⟩
    split
    · rw [hid, h]
    · exact h
  completions_fk c hc := by
    obtain ⟨hline, po, hpo, h⟩ := s.completions_fk c hc
    refine ⟨hline, _, List.mem_map_of_mem hpo, ?_⟩
    split
    · rw [hid, h]
    · exact h

/-- Rewrite the completions, which keep their keys. -/
def mapCompletions (s : PurchaseTables) (f : Completion → Completion)
    (hline : ∀ c, (f c).poLineId = c.poLineId) (hpo : ∀ c, (f c).poId = c.poId)
    (hno : ∀ c, (f c).lineNo = c.lineNo) : PurchaseTables :=
  { s with
    completions := s.completions.map f fun a b hclash => by
      simpa [Mirror.Clash, hline, hpo, hno] using hclash
    completions_fk := fun c hc => by
      obtain ⟨old, hold, rfl⟩ := List.mem_map.mp hc
      rw [hline, hpo]
      exact s.completions_fk old hold }

end PurchaseTables

/-! ## Storing -/

/-- `purchase_order_lines` stores a line of an order. -/
def NormLine.row (line : NormLine) (id poId : ℕ) : Except Err PurchaseOrderLine := do
  checkIntegers [line.lineNo, line.itemId, line.uomId, line.ratioToBase, line.qtyInput,
    line.qtyBase]
  let itemName ← Varchar.store? 255 (some line.itemName)
  let itemSku ← Varchar.store? 128 (some line.itemSku)
  let specText ← Varchar.store? 255 line.specText
  let uomName ← Varchar.store 64 line.uomName
  let supplyPrice ← line.supplyPrice.mapM fun price => Numeric.store 12 (toCents price)
  let remark ← Varchar.store? 255 line.remark
  if h : 0 < line.qtyBase then return {
      id, poId, itemName, itemSku, specText, supplyPrice, remark
      lineNo := line.lineNo
      itemId := line.itemId
      purchaseUomIdSnapshot := line.uomId
      purchaseUomNameSnapshot := uomName
      purchaseRatioToBaseSnapshot := line.ratioToBase
      qtyOrderedInput := line.qtyInput
      qtyOrderedBase := line.qtyBase
      qty_pos := h
    }
  else .error (.integrityError "ck_po_lines_qty_ordered_base_positive")

/-- The columns of an order that a request sets. -/
structure StoredHead where
  supplierId : ℕ
  supplierName : Varchar 255
  warehouseId : ℕ
  purchaser : Varchar 64
  purchaseTime : ℤ
  totalAmount : Numeric 14
  remark : Option (Varchar 255)

/-- `purchase_orders` stores the head of a request. -/
def NormOrder.head (norm : NormOrder) (payload : OrderIn) : Except Err StoredHead := do
  checkIntegers [norm.supplierId, payload.warehouseId]
  let supplierName ← Varchar.store 255 norm.supplierName
  let purchaser ← Varchar.store 64 norm.purchaser
  let totalAmount ← Numeric.store 14 (toCents norm.totalAmount)
  let remark ← Varchar.store? 255 (cleanText payload.remark)
  return {
    supplierName, purchaser, totalAmount, remark
    supplierId := norm.supplierId
    warehouseId := payload.warehouseId
    purchaseTime := payload.purchaseTime
  }

/-- A new order. -/
def StoredHead.order (head : StoredHead) (id : ℕ) (poNo : Varchar 64) : PurchaseOrder where
  id
  poNo
  supplierId := head.supplierId
  supplierName := head.supplierName
  warehouseId := head.warehouseId
  purchaser := head.purchaser
  purchaseTime := head.purchaseTime
  totalAmount := some head.totalAmount
  status := ⟨"CREATED", by decide⟩
  closeReason := none
  closeNote := none
  closedAt := none
  remark := head.remark

/-- An order whose head is set again. -/
def StoredHead.revise (head : StoredHead) (po : PurchaseOrder) : PurchaseOrder :=
  { po with
    supplierId := head.supplierId
    supplierName := head.supplierName
    warehouseId := head.warehouseId
    purchaser := head.purchaser
    purchaseTime := head.purchaseTime
    totalAmount := some head.totalAmount
    remark := head.remark }

/-! ## Completions -/

/-- The status of a line of which a quantity is received. -/
def completionStatus (received ordered : ℤ) : CompletionStatus :=
  if received ≤ 0 then .notReceived else if received < ordered then .partly else .received

/-- The completion of a line of which nothing is received. -/
def completionRow (po : PurchaseOrder) (l : PurchaseOrderLine) : Except Err Completion := do
  let plannedLineAmount ← Numeric.store 14 l.amount
  if hinput : 0 < l.qtyOrderedInput then
    if hratio : 1 ≤ l.purchaseRatioToBaseSnapshot then return {
      plannedLineAmount
      poLineId := l.id, poId := po.id, poNo := po.poNo, lineNo := l.lineNo
      warehouseId := po.warehouseId, supplierId := po.supplierId
      supplierName := po.supplierName, purchaser := po.purchaser
      purchaseTime := po.purchaseTime, itemId := l.itemId, itemName := l.itemName
      itemSku := l.itemSku, specText := l.specText
      purchaseUomIdSnapshot := l.purchaseUomIdSnapshot
      purchaseUomNameSnapshot := l.purchaseUomNameSnapshot
      purchaseRatioToBaseSnapshot := l.purchaseRatioToBaseSnapshot
      qtyOrderedInput := l.qtyOrderedInput, qtyOrderedBase := l.qtyOrderedBase
      supplyPriceSnapshot := l.supplyPrice
      qtyReceivedBase := 0
      qtyRemainingBase := l.qtyOrderedBase
      lineCompletionStatus := .notReceived
      lastReceivedAt := none
      qty_input_pos := hinput, qty_base_pos := l.qty_pos, ratio_pos := hratio
      received_nonneg := le_refl 0
      remaining_eq := by rw [sub_zero, max_eq_left l.qty_pos.le]
    }
    else .error (.integrityError "ck_polc_ratio_positive")
  else .error (.integrityError "ck_polc_qty_ordered_input_positive")

/-- A completion of which a quantity is received. -/
def Completion.receive (c : Completion) (received : ℤ) (lastReceivedAt : Option ℤ)
    (h : 0 ≤ received) : Completion :=
  { c with
    qtyReceivedBase := received
    qtyRemainingBase := max (c.qtyOrderedBase - received) 0
    lineCompletionStatus := completionStatus received c.qtyOrderedBase
    lastReceivedAt
    received_nonneg := h
    remaining_eq := rfl }

/-- `ON CONFLICT (po_line_id) DO UPDATE`, which keeps what is received. -/
def upsertCompletion (s : PurchaseTables) (c : Completion) : Except Err PurchaseTables :=
  match s.completions.rows.find? fun old => old.poLineId = c.poLineId with
  | none => s.putCompletion c
  | some old => s.putCompletion
      (c.receive old.qtyReceivedBase old.lastReceivedAt old.received_nonneg)

/-- `upsert_completion_rows_for_po`. -/
def upsertCompletionRowsForPo (poId : ℕ) : Tx PurchaseTables Err Unit := do
  let s ← get
  match s.findOrder poId with
  | none => pure ()
  | some po => (s.linesOf poId).forM fun l => do
    let c ← Tx.ofExcept (completionRow po l)
    let s ← get
    set (← Tx.ofExcept (upsertCompletion s c))

/-- `rebuild_completion_rows_for_po`. -/
def rebuildCompletionRowsForPo (poId : ℕ) : Tx PurchaseTables Err Unit := do
  modify fun s => s.deleteCompletions poId
  upsertCompletionRowsForPo poId

/-! ## Services -/

/-- Add a line to an order. -/
def insertPurchaseOrderLine (poId : ℕ) (line : NormLine) : Tx PurchaseTables Err Unit := do
  let s ← get
  let row ← Tx.ofExcept (line.row (s.lineSeq + 1) poId)
  let s ← Tx.ofExcept ({ s with lineSeq := s.lineSeq + 1 }.insertLine row)
  set s

/-- `create_po_v2`, which returns the number of the order. -/
def createPoV2 (reads : PurchasingReads) (payload : OrderIn) : Tx PurchaseTables Err ℕ := do
  let norm ← Tx.ofExcept (normalizePayload reads "create_po_v2" createNumber payload)
  let s ← get
  let poId := s.orderSeq + 1
  let poNo ← Tx.ofExcept (Varchar.store 64 s!"PO-{poId}")
  let head ← Tx.ofExcept (norm.head payload)
  set (← Tx.ofExcept ({ s with orderSeq := poId }.insertOrder (head.order poId poNo)))
  norm.lines.forM (insertPurchaseOrderLine poId)
  upsertCompletionRowsForPo poId
  return poId

/-- What the tables of receipts say about orders and their lines. -/
structure ReceiptFacts where
  released : ℕ → Bool
  committed : ℕ → Bool

/-- `_require_po_editable`. -/
def requirePoEditable (facts : ReceiptFacts) (s : PurchaseTables) (po : PurchaseOrder) :
    Except Err Unit :=
  let st := upper po.status.text
  if st ≠ "CREATED" then .error (.httpException 409 ("PO 状态不允许编辑：status=" ++ st))
  else if facts.released po.id then
    .error (.httpException 409 "PO 已存在 CONFIRMED 收货单，禁止编辑")
  else if (s.linesOf po.id).any fun l => facts.committed l.id then
    .error (.httpException 409 "PO 已存在正式采购入库事实，禁止编辑")
  else .ok ()

/-- `update_po_v2`. -/
def updatePoV2 (reads : PurchasingReads) (facts : ReceiptFacts) (poId : ℕ) (payload : OrderIn) :
    Tx PurchaseTables Err ℕ := do
  let s ← get
  let po ← Tx.demand (s.findOrder poId) (.httpException 404 "PurchaseOrder not found")
  Tx.ofExcept (requirePoEditable facts s po)
  let norm ← Tx.ofExcept (normalizePayload reads "update_po_v2" updateNumber payload)
  let head ← Tx.ofExcept (norm.head payload)
  set ((s.reviseOrder poId head.revise (fun _ => rfl) fun _ => rfl).deleteLines poId)
  norm.lines.forM (insertPurchaseOrderLine poId)
  rebuildCompletionRowsForPo poId
  return poId

end Wms.Procurement

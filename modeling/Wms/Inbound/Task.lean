import Wms.Inbound.Progress

/-!
# The task of a receipt

`get_inbound_task_repo` shows a receipt as a task: each line with what was planned, what
the operations have received of it and what remains.
-/

namespace Wms

open Foundation

/-- `InboundTaskLineOut`. -/
structure InboundTaskLine where
  lineNo : ℕ
  itemId : ℕ
  itemUomId : ℕ
  plannedQty : ℤ
  plannedQtyBase : ℤ
  itemNameSnapshot : Option (Varchar 255)
  itemSpecSnapshot : Option (Varchar 255)
  uomNameSnapshot : Option (Varchar 64)
  ratioToBaseSnapshot : ℤ
  expiryPolicy : ExpiryPolicy
  lotSourcePolicy : LotSourcePolicy
  derivationAllowed : Bool
  shelfLifeValue : Option ℕ
  shelfLifeUnit : Option ShelfLifeUnit
  receivedQty : ℚ
  remainingQty : ℚ
  receivedQtyBase : ℤ
  remainingQtyBase : ℤ
  remark : Option (Varchar 500)

/-- `InboundTaskReadOut`. -/
structure InboundTask where
  receiptId : ℕ
  receiptNo : Varchar 64
  sourceType : ReceiptSource
  sourceDocNoSnapshot : Option (Varchar 128)
  warehouseId : ℕ
  warehouseNameSnapshot : Option (Varchar 255)
  supplierId : Option ℕ
  counterpartyNameSnapshot : Option (Varchar 255)
  status : ReceiptStatus
  remark : Option (Varchar 500)
  lines : List InboundTaskLine

/-- A line of the task, with the policy of its item. -/
def inboundTaskLine (pms : PmsClient) (operations : List InboundOperation) (receiptNo : String)
    (l : ReceiptLine) : Except Err InboundTaskLine := do
  match ← pms.getItemPolicy l.itemId with
  | none => .error (.httpException 404 s!"item_policy_not_found:{l.itemId}")
  | some policy =>
    let received := Wms.receivedQtyBase operations receiptNo l.lineNo
    let remaining := max (l.plannedQtyBase - received) 0
    return {
      lineNo := l.lineNo, itemId := l.itemId, itemUomId := l.itemUomId
      plannedQty := l.plannedQty, plannedQtyBase := l.plannedQtyBase
      itemNameSnapshot := l.itemNameSnapshot, itemSpecSnapshot := l.itemSpecSnapshot
      uomNameSnapshot := l.uomNameSnapshot, ratioToBaseSnapshot := l.ratioToBaseSnapshot
      expiryPolicy := policy.expiryPolicy, lotSourcePolicy := policy.lotSourcePolicy
      derivationAllowed := policy.derivationAllowed, shelfLifeValue := policy.shelfLifeValue
      shelfLifeUnit := policy.shelfLifeUnit
      receivedQty := received / l.ratioToBaseSnapshot
      remainingQty := remaining / l.ratioToBaseSnapshot
      receivedQtyBase := received, remainingQtyBase := remaining, remark := l.remark }

/-- `get_inbound_task_repo`. -/
def getInboundTask (pms : PmsClient) (db : Database) (receiptNo : String) :
    Except Err InboundTask := do
  match db.findReceipt receiptNo with
  | none => .error (.httpException 404 "inbound_task_not_found")
  | some r =>
    if r.status ≠ .released ∧ r.status ≠ .completed then
      .error (.httpException 409 s!"inbound_task_not_readable:{r.status.code}")
    else
      let lines ← r.lines.mapM' (inboundTaskLine pms db.operations receiptNo)
      return {
        receiptId := r.id, receiptNo := r.receiptNo, sourceType := r.sourceType
        sourceDocNoSnapshot := r.sourceDocNoSnapshot, warehouseId := r.warehouseId
        warehouseNameSnapshot := r.warehouseNameSnapshot, supplierId := r.supplierId
        counterpartyNameSnapshot := r.counterpartyNameSnapshot, status := r.status
        remark := r.remark, lines := lines }

theorem inboundTaskLine_eq_ok {pms : PmsClient} {ops : List InboundOperation} {receiptNo : String}
    {l : ReceiptLine} {t : InboundTaskLine} (h : inboundTaskLine pms ops receiptNo l = .ok t) :
    t.lineNo = l.lineNo ∧ t.plannedQtyBase = l.plannedQtyBase ∧
      t.receivedQtyBase = receivedQtyBase ops receiptNo l.lineNo ∧
      t.remainingQtyBase = max (t.plannedQtyBase - t.receivedQtyBase) 0 := by
  unfold inboundTaskLine at h
  simp only [bind, Except.bind] at h
  split at h
  · cases h
  · split at h
    · cases h
    · cases h
      exact ⟨rfl, rfl, rfl, rfl⟩

/-- The task shows the receipt's lines with the progress that the next operation would
start from. -/
theorem getInboundTask_eq_ok {pms : PmsClient} {db : Database} {receiptNo : String}
    {task : InboundTask} (h : getInboundTask pms db receiptNo = .ok task) :
    ∃ r, db.findReceipt receiptNo = some r ∧ task.status = r.status ∧
      List.Forall₂ (fun l t => inboundTaskLine pms db.operations receiptNo l = .ok t)
        r.lines task.lines := by
  unfold getInboundTask at h
  split at h
  · cases h
  · rename_i r hfind
    split at h
    · cases h
    · simp only [bind, Except.bind] at h
      split at h
      · cases h
      · rename_i lines hlines
        cases h
        exact ⟨r, hfind, rfl, forall₂_of_mapM_ok hlines⟩

end Wms

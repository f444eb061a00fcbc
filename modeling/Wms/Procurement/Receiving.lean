import Wms.Events
import Wms.Foundation.GroupBy
import Wms.Foundation.Paging
import Wms.Procurement.PurchaseTables

/-!
# Closing and receiving purchase orders

An order is closed by hand. What an inbound event receives is added to the completions of the
lines that it names, and the completions of an order are summed up in two places: in the detail
of the order, and in the options for receiving.
-/

namespace Wms.Procurement

open Foundation

/-! ## Closing -/

/-- An order that is closed by hand. -/
def PurchaseOrder.close (now : ℤ) (note : Option String) (po : PurchaseOrder) : PurchaseOrder :=
  { po with
    status := .lit "CLOSED"
    closedAt := some now
    closeReason := some (.lit "MANUAL_TERMINATED")
    closeNote := cleanText note }

/-- `close_purchase_order`. -/
def closePurchaseOrder (now : ℤ) (note : Option String) (poId : ℕ) :
    Tx PurchaseTables Err Unit := do
  let s ← get
  let po ← Tx.demand (s.findOrder poId) (.httpException 404 "PurchaseOrder not found")
  let st := upper po.status.text
  Tx.failIf (st ≠ "CREATED") (.httpException 409 ("PO 状态不允许关闭：status=" ++ st))
  set (s.reviseOrder poId (PurchaseOrder.close now note) (fun _ => rfl) fun _ => rfl)

/-! ## Receiving -/

/-- What the lines of an event receive of a line of an order, if they name it. -/
def deltaOf (lines : List InboundEventLine) (poLineId : ℕ) : Option ℤ :=
  if lines.any fun l => l.sourceLineId = some poLineId then
    some ((lines.filter fun l => l.sourceLineId = some poLineId).map InboundEventLine.qtyBase).sum
  else none

theorem deltaOf_pos {lines : List InboundEventLine} {poLineId : ℕ} {add : ℤ}
    (h : deltaOf lines poLineId = some add) : 0 < add := by
  unfold deltaOf at h
  split at h
  · rename_i hany
    obtain ⟨l, hl, hsource⟩ := List.any_eq_true.mp hany
    rw [← Option.some.inj h]
    apply List.sum_pos
    · intro q hq
      obtain ⟨l', -, rfl⟩ := List.mem_map.mp hq
      exact l'.qtyBase_pos
    · rw [ne_eq, List.map_eq_nil_iff]
      exact List.ne_nil_of_mem (List.mem_filter.mpr ⟨hl, hsource⟩)
  · cases h

/-- The later one of the time that is stored and the time of an event. -/
def laterOf (last : Option ℤ) (occurredAt : ℤ) : ℤ :=
  match last with
  | none => occurredAt
  | some t => if t < occurredAt then occurredAt else t

/-- A completion after an event. -/
def Completion.applyDelta (lines : List InboundEventLine) (occurredAt : ℤ) (c : Completion) :
    Completion :=
  match h : deltaOf lines c.poLineId with
  | none => c
  | some add => c.receive (c.qtyReceivedBase + add) (some (laterOf c.lastReceivedAt occurredAt)) <| by
      have hadd := deltaOf_pos h
      have hreceived := c.received_nonneg
      omega

section ApplyDelta

variable (lines : List InboundEventLine) (occurredAt : ℤ) (c : Completion)

theorem applyDelta_poLineId : (c.applyDelta lines occurredAt).poLineId = c.poLineId := by
  unfold Completion.applyDelta
  split <;> rfl

theorem applyDelta_poId : (c.applyDelta lines occurredAt).poId = c.poId := by
  unfold Completion.applyDelta
  split <;> rfl

theorem applyDelta_lineNo : (c.applyDelta lines occurredAt).lineNo = c.lineNo := by
  unfold Completion.applyDelta
  split <;> rfl

end ApplyDelta

/-- `apply_completion_delta_for_event`, given the lines of the event. -/
def applyCompletionDeltaForEvent (lines : List InboundEventLine) (occurredAt : ℤ) :
    Tx PurchaseTables Err Unit := do
  -- each line that is named gets its sum, also one that has no completion
  Tx.ofExcept (checkIntegers ((lines.filterMap InboundEventLine.sourceLineId).filterMap
    (deltaOf lines)))
  let s ← get
  Tx.ofExcept (checkIntegers (s.completions.rows.filterMap fun c =>
    (deltaOf lines c.poLineId).map fun add => c.qtyReceivedBase + add))
  set (s.mapCompletions (Completion.applyDelta lines occurredAt)
    (applyDelta_poLineId lines occurredAt) (applyDelta_poId lines occurredAt)
    (applyDelta_lineNo lines occurredAt))

/-! ## The detail of an order -/

/-- `_derive_completion_status`. -/
def deriveCompletionStatus (qtyOrderedBase qtyReceivedBase : ℤ) : CompletionStatus :=
  let ordered := max qtyOrderedBase 0
  let received := max qtyReceivedBase 0
  if received ≤ 0 then .notReceived
  else if received < ordered then .partly
  else .received

/-- `PurchaseOrderCompletionSummaryOut`, as far as it is summed up. -/
structure CompletionSummary where
  poId : ℕ
  poNo : Varchar 64
  poStatus : Varchar 32
  totalOrderedBase : ℤ
  totalReceivedBase : ℤ
  totalRemainingBase : ℤ
  completionStatus : CompletionStatus
  lastReceivedAt : Option ℤ

/-- `PurchaseOrderCompletionDetailOut` without the events. -/
structure CompletionDetail where
  summary : CompletionSummary
  lines : List Completion

/-- The later one of two times that may be missing. -/
def laterTime (last new : Option ℤ) : Option ℤ :=
  match last, new with
  | last, none => last
  | none, some t => some t
  | some l, some t => some (if t > l then t else l)

/-- `get_completion_detail`. -/
def getCompletionDetail (s : PurchaseTables) (poId : ℕ) : Except Err CompletionDetail :=
  match s.findOrder poId with
  | none => .error (.valueError "PurchaseOrder not found")
  | some po =>
    let lines := orderBy (fun c : Completion => toLex (c.lineNo, c.poLineId)) (s.completionsOf poId)
    let ordered := (lines.map Completion.qtyOrderedBase).sum
    let received := (lines.map Completion.qtyReceivedBase).sum
    .ok {
      summary := {
        poId := po.id
        poNo := po.poNo
        poStatus := po.status
        totalOrderedBase := ordered
        totalReceivedBase := received
        totalRemainingBase := (lines.map Completion.qtyRemainingBase).sum
        completionStatus := deriveCompletionStatus ordered received
        lastReceivedAt := lines.foldl (fun last c => laterTime last c.lastReceivedAt) none }
      lines := lines }

/-! ## Options for receiving -/

/-- The columns that the options are grouped by. -/
structure SourceHead where
  poId : ℕ
  poNo : Varchar 64
  warehouseId : ℕ
  supplierId : ℕ
  supplierName : Varchar 255
  purchaseTime : ℤ
  poStatus : Varchar 32
  deriving DecidableEq

/-- `PurchaseOrderSourceOptionOut`. -/
structure SourceOption extends SourceHead where
  completionStatus : CompletionStatus
  lastReceivedAt : Option ℤ

/-- The head of the option that a completion of an order belongs to. -/
def sourceHead (po : PurchaseOrder) (c : Completion) : SourceHead where
  poId := c.poId
  poNo := c.poNo
  warehouseId := c.warehouseId
  supplierId := c.supplierId
  supplierName := c.supplierName
  purchaseTime := c.purchaseTime
  poStatus := po.status

/-- The status of a group of completions. -/
def sourceStatus (cs : List Completion) : CompletionStatus :=
  if (cs.map Completion.qtyReceivedBase).sum ≤ 0 then .notReceived
  else if (cs.map Completion.qtyRemainingBase).sum ≤ 0 then .received
  else .partly

/-- What the options may be narrowed down to. -/
structure SourceQuery where
  warehouseId : Option ℕ
  q : Option String
  limit : Option ℤ

/-- `_normalize_limit`. -/
def normalizeSourceLimit (limit : Option ℤ) : ℕ :=
  let x := if limit.getD 0 = 0 then 20 else limit.getD 0
  if x < 1 then 1 else if 50 < x then 50 else x.toNat

/-- `list_purchase_order_source_options`; `ilike` is SQL's comparison with a pattern. -/
def listPurchaseOrderSourceOptions (ilike : String → String → Bool) (s : PurchaseTables)
    (query : SourceQuery) : List SourceOption :=
  let pattern := "%" ++ strip (query.q.getD "") ++ "%"
  let joined := s.completions.rows.filterMap fun c => (s.findOrder c.poId).map fun po => (po, c)
  let found := joined.filter fun p =>
    p.1.status.text = "CREATED" ∧ (∀ w ∈ query.warehouseId, p.2.warehouseId = w) ∧
      (strip (query.q.getD "") = "" ∨ ilike p.2.poNo.text pattern ∨
        ilike p.2.supplierName.text pattern)
  let groups := (groupBy (fun p => sourceHead p.1 p.2) found).filter fun g =>
    0 < (g.2.map fun p => p.2.qtyRemainingBase).sum
  let sorted := orderBy (fun g => toLex (OrderDual.toDual g.1.purchaseTime,
    OrderDual.toDual g.1.poId)) groups
  (page 0 (normalizeSourceLimit query.limit) sorted).map fun g => {
    toSourceHead := g.1
    completionStatus := sourceStatus (g.2.map Prod.snd)
    lastReceivedAt := (g.2.map fun p => p.2.lastReceivedAt).foldl laterTime none }

end Wms.Procurement

import Wms.Database
import Wms.Stock.ThreeBooks

/-!
# Return tasks

A return task puts shipped goods of an order back into the lots that they came from. It
is created from what the ledger has shipped under the reference of the order, collects
what is received, and books the received quantities when it is committed.
-/

namespace Wms

open Foundation

/-! ## The tables -/

/-- `return_tasks.status`. -/
inductive ReturnTaskStatus
  | draft
  | opened
  | committed
  | cancelled
  deriving DecidableEq, Repr

/-- `return_task_lines.status`. -/
inductive ReturnLineStatus
  | draft
  | opened
  | matched
  | mismatch
  | committed
  deriving DecidableEq, Repr

/-- `ReturnTask`: a row of `return_tasks`. -/
structure ReturnTask where
  id : ℕ
  orderId : Varchar 128
  warehouseId : ℕ
  status : ReturnTaskStatus
  deriving DecidableEq

/-- `ReturnTaskLine`: a row of `return_task_lines`. -/
structure ReturnTaskLine where
  id : ℕ
  taskId : ℕ
  itemId : ℕ
  lotId : ℕ
  lotCodeSnapshot : Varchar 64
  expectedQty : Option ℤ
  pickedQty : ℤ
  committedQty : Option ℤ
  status : ReturnLineStatus
  deriving DecidableEq

/-- The database with the return tasks and the snapshots of the balances. -/
structure ReturnTables where
  db : Database
  returnTasks : Table ReturnTask fun a b => a.id = b.id
  returnTaskLines : Table ReturnTaskLine fun a b => a.id = b.id
  stockSnapshots : List StockSnapshot
  /-- A line belongs to a task. -/
  lines_fk : ∀ l ∈ returnTaskLines.rows, l.taskId ∈ returnTasks.rows.map ReturnTask.id

namespace ReturnTables

/-- Replace the database. -/
def putDatabase (db : Database) (t : ReturnTables) : ReturnTables := { t with db := db }

/-- The task with an identifier. -/
def findTask (t : ReturnTables) (taskId : ℕ) : Option ReturnTask :=
  t.returnTasks.rows.find? fun task => task.id = taskId

/-- The lines of a task. -/
def linesOf (t : ReturnTables) (taskId : ℕ) : List ReturnTaskLine :=
  t.returnTaskLines.rows.filter fun l => l.taskId = taskId

/-- Add a task. -/
def addTask (t : ReturnTables) (tasks : Table ReturnTask fun a b => a.id = b.id)
    (h : ∀ task ∈ t.returnTasks.rows, task ∈ tasks.rows) : ReturnTables where
  db := t.db
  returnTasks := tasks
  returnTaskLines := t.returnTaskLines
  stockSnapshots := t.stockSnapshots
  lines_fk l hl := by
    obtain ⟨task, htask, hid⟩ := List.mem_map.mp (t.lines_fk l hl)
    exact List.mem_map.mpr ⟨task, h task htask, hid⟩

/-- Add a line of a stored task. -/
def addLine (t : ReturnTables) {l : ReturnTaskLine}
    {lines : Table ReturnTaskLine fun a b => a.id = b.id}
    (h : t.returnTaskLines.insert l = some lines)
    (hl : l.taskId ∈ t.returnTasks.rows.map ReturnTask.id) : ReturnTables where
  db := t.db
  returnTasks := t.returnTasks
  returnTaskLines := lines
  stockSnapshots := t.stockSnapshots
  lines_fk l' hl' := by
    rw [(Table.insert_eq_some.mp h).2] at hl'
    rcases List.mem_append.mp hl' with hold | hnew
    · exact t.lines_fk l' hold
    · rw [List.mem_singleton.mp hnew]
      exact hl

/-- Rewrite the lines, each within its task. -/
def mapLines (t : ReturnTables) (f : ReturnTaskLine → ReturnTaskLine)
    (hid : ∀ l, (f l).id = l.id) (htask : ∀ l, (f l).taskId = l.taskId) : ReturnTables where
  db := t.db
  returnTasks := t.returnTasks
  returnTaskLines := t.returnTaskLines.map f fun a b h => by rwa [hid, hid] at h
  stockSnapshots := t.stockSnapshots
  lines_fk l hl := by
    obtain ⟨old, hold, rfl⟩ := List.mem_map.mp hl
    rw [htask]
    exact t.lines_fk old hold

/-- Rewrite the tasks. -/
def mapTasks (t : ReturnTables) (f : ReturnTask → ReturnTask) (hid : ∀ task, (f task).id = task.id) :
    ReturnTables where
  db := t.db
  returnTasks := t.returnTasks.map f fun a b h => by rwa [hid, hid] at h
  returnTaskLines := t.returnTaskLines
  stockSnapshots := t.stockSnapshots
  lines_fk l hl := by
    obtain ⟨task, htask, heq⟩ := List.mem_map.mp (t.lines_fk l hl)
    exact List.mem_map.mpr ⟨f task, List.mem_map_of_mem htask, (hid task).trans heq⟩

end ReturnTables

/-- Statements on the database. -/
def onDatabase {α : Type} (x : Trans α) : Tx ReturnTables Err α :=
  x.zoom ReturnTables.db ReturnTables.putDatabase

/-! ## Creating a task -/

/-- The reason of a row is one of `SHIP_OUT_REASONS`. -/
def LedgerRow.ShipsOut (r : LedgerRow) : Prop :=
  upper (strip r.reason.text) ∈ ["SHIPMENT", "OUTBOUND_SHIP"]

instance (r : LedgerRow) : Decidable r.ShipsOut := inferInstanceAs (Decidable (_ ∈ _))

/-- An entry of the shipped summary. -/
structure ShippedFact where
  slot : SlotKey
  lotCodeSnapshot : Option String
  shippedQty : ℤ

/-- `_load_shipped_summary`. -/
def Books.shippedSummary (b : Books) (orderRef : String) : List ShippedFact :=
  let rows := b.stockLedger.rows.filter fun r => r.ref.text = orderRef ∧ r.delta < 0 ∧ r.ShipsOut
  let agg := Dict.tally LedgerRow.slot (fun r => -r.delta) rows
  (agg.filter fun p => 0 < p.2).map fun p =>
    ⟨p.1, (b.findLot p.1.lotId).bind fun l => l.lotCode.map Varchar.text, p.2⟩

/-- The arguments of `create_for_order`. -/
structure ReturnTaskCreateCall where
  orderId : String
  warehouseId : Option ℕ
  includeZeroShipped : Bool

/-- What `create_for_order` puts into its task. -/
def shippedForReturn (call : ReturnTaskCreateCall) (b : Books) : List ShippedFact :=
  ((b.shippedSummary (strip call.orderId)).filter fun x =>
    ∀ w ∈ call.warehouseId, x.slot.warehouseId = w).filter fun x =>
      call.includeZeroShipped = true ∨ 0 < x.shippedQty

/-- The warehouse from which the facts have been shipped. -/
def singleWarehouse (orderRef : String) (shipped : List ShippedFact) : Except Err ℕ :=
  match (shipped.map fun x => x.slot.warehouseId).dedup.insertionSort (· ≤ ·) with
  | [w] => .ok w
  | ws => .error (.valueError s!"order_ref={orderRef} is multi-warehouse: {ws}")

/-- The fact with the lot code that its line will show. -/
def requireLotCode (x : ShippedFact) : Except Err (ShippedFact × String) :=
  match normLotCode x.lotCodeSnapshot with
  | none => .error (.valueError
      s!"return_task_lot_code_snapshot_required_for_display:item_id={x.slot.itemId}:lot_id={x.slot.lotId}")
  | some code => .ok (x, code)

/-- Insert a task without lines. -/
def insertTask (orderRef : String) (warehouseId : ℕ) : Tx ReturnTables Err ReturnTask := do
  let orderId ← Tx.ofExcept (Varchar.store 128 orderRef)
  let t ← get
  let task : ReturnTask :=
    ⟨nextId (t.returnTasks.rows.map ReturnTask.id), orderId, warehouseId, .opened⟩
  match h : t.returnTasks.insert task with
  | none => throw (.integrityError "return_tasks_pkey")
  | some tasks => do
    set (t.addTask tasks fun a ha => by
      rw [(Table.insert_eq_some.mp h).2]
      exact List.mem_append_left _ ha)
    return task

/-- Insert a line of a task. -/
def insertTaskLine (taskId : ℕ) (p : ShippedFact × String) : Tx ReturnTables Err PUnit := do
  let lotCode ← Tx.ofExcept (Varchar.store 64 p.2)
  let t ← get
  let l : ReturnTaskLine := {
    id := nextId (t.returnTaskLines.rows.map ReturnTaskLine.id), taskId := taskId
    itemId := p.1.slot.itemId, lotId := p.1.slot.lotId, lotCodeSnapshot := lotCode
    expectedQty := some p.1.shippedQty, pickedQty := 0, committedQty := some 0
    status := .opened }
  Tx.failIf (¬∃ lot ∈ t.db.books.lots.rows, lot.id = p.1.slot.lotId)
    (.integrityError "fk_return_task_lines_lot")
  match h : t.returnTaskLines.insert l with
  | none => throw (.integrityError "return_task_lines_pkey")
  | some _ =>
    if hl : l.taskId ∈ t.returnTasks.rows.map ReturnTask.id then set (t.addLine h hl)
    else throw (.integrityError "return_task_lines_task_id_fkey")

/-- The latest task of an order that is not committed. -/
def ReturnTables.openTask (t : ReturnTables) (orderRef : String) : Option ReturnTask :=
  ((t.returnTasks.rows.filter fun task => task.orderId.text = orderRef ∧
    task.status ≠ .committed).insertionSort fun a b => b.id ≤ a.id).head?

/-- `create_for_order`. -/
def createForOrder (call : ReturnTaskCreateCall) : Tx ReturnTables Err ReturnTask := do
  let orderRef := strip call.orderId
  Tx.failIf (orderRef = "") (.valueError "order_id(order_ref) is required")
  let t ← get
  match t.openTask orderRef with
  | some existing => return existing
  | none => do
    let shipped := shippedForReturn call t.db.books
    Tx.failIf (shipped = [])
      (.valueError s!"order_ref={orderRef} has no shippable ledger facts for return")
    let warehouseId ← Tx.ofExcept (singleWarehouse orderRef shipped)
    let task ← insertTask orderRef warehouseId
    let lines ← Tx.ofExcept (shipped.mapM' requireLotCode)
    forM lines (insertTaskLine task.id)
    return task

/-! ## Receiving -/

/-- `get_with_lines`. -/
def getTask (taskId : ℕ) : Tx ReturnTables Err ReturnTask := do
  let t ← get
  Tx.demand (t.findTask taskId) (.valueError s!"return_task not found: id={taskId}")

/-- Set the picked quantity of the line with an identifier. -/
def ReturnTaskLine.setPicked (lineId : ℕ) (qty : ℤ) (l : ReturnTaskLine) : ReturnTaskLine :=
  if l.id = lineId then { l with pickedQty := qty } else l

theorem ReturnTaskLine.setPicked_keeps (lineId : ℕ) (qty : ℤ) (l : ReturnTaskLine) :
    (l.setPicked lineId qty).id = l.id ∧ (l.setPicked lineId qty).taskId = l.taskId := by
  unfold ReturnTaskLine.setPicked
  split <;> exact ⟨rfl, rfl⟩

/-- `record_receive`. -/
def recordReceive (taskId itemId : ℕ) (qty : ℤ) : Tx ReturnTables Err ReturnTask := do
  let task ← getTask taskId
  if task.status = .committed then return task
  else do
    let t ← get
    let target ← Tx.demand ((t.linesOf taskId).find? fun l => l.itemId = itemId)
      (.valueError s!"task_line not found for item_id={itemId}")
    let expected := target.expectedQty.getD 0
    let next := target.pickedQty + qty
    Tx.failIf (next < 0) (.valueError "picked_qty cannot be < 0")
    Tx.failIf (expected < next) (.valueError s!"picked_qty({next}) > expected_qty({expected})")
    set (t.mapLines (ReturnTaskLine.setPicked target.id next)
      (fun l => (l.setPicked_keeps _ _).1) fun l => (l.setPicked_keeps _ _).2)
    return task

/-! ## Committing -/

/-- The arguments of `commit`, with the clock, the calendar days of the two times, and the
product master. -/
structure ReturnCommitCall where
  taskId : ℕ
  traceId : Option String
  occurredAt : Option ℤ
  pms : PmsClient
  utcNow : ℤ
  /-- The date of the time at which the commit takes place. -/
  day : Date
  /-- The date of today in UTC. -/
  today : Date

/-- The lot of a line, checked against line and task. -/
def checkReturnLot (task : ReturnTask) (l : ReturnTaskLine) (b : Books) : Except Err Lot :=
  if l.lotId = 0 then .error (.valueError s!"return_task_line_lot_id_required:line_id={l.id}")
  else
    match b.findLot l.lotId with
    | none => .error (.valueError s!"return_task_line_lot_not_found:lot_id={l.lotId}")
    | some lot =>
      let shown := normLotCode (some l.lotCodeSnapshot.text)
      let stored := normLotCode (lot.lotCode.map Varchar.text)
      if lot.warehouseId ≠ task.warehouseId then
        .error (.valueError s!"return_task_line_lot_warehouse_mismatch:line_id={l.id}:task_warehouse_id={task.warehouseId}:lot_warehouse_id={lot.warehouseId}")
      else if lot.itemId ≠ l.itemId then
        .error (.valueError s!"return_task_line_lot_item_mismatch:line_id={l.id}:line_item_id={l.itemId}:lot_item_id={lot.itemId}")
      else if shown ≠ stored then
        let shownText := shown.getD "None"
        let storedText := stored.getD "None"
        .error (.valueError s!"return_task_line_lot_code_snapshot_mismatch:line_id={l.id}:lot_code_snapshot={shownText}:lot_code={storedText}")
      else .ok lot

/-- The movement that puts a line back. -/
def ReturnCommitCall.adjustCall (call : ReturnCommitCall) (task : ReturnTask) (l : ReturnTaskLine)
    (lot : Lot) : AdjustCall where
  itemId := l.itemId
  warehouseId := task.warehouseId
  lotId := some l.lotId
  delta := l.pickedQty
  -- the value of `MovementType.RETURN`
  reason := "RECEIPT"
  ref := task.orderId.text
  refLine := some l.id
  occurredAt := some (call.occurredAt.getD call.utcNow)
  info := ⟨false, some "RETURN_RECEIPT", none⟩
  lotCode := none
  productionDate := lot.productionDate
  expiryDate := lot.expiryDate
  traceId := call.traceId

/-- The slot that a line of a task is put back into. -/
def ReturnTask.slot (task : ReturnTask) (l : ReturnTaskLine) : SlotKey :=
  ⟨task.warehouseId, l.itemId, l.lotId⟩

/-- The effect of a line by the answer of its movement. -/
def ReturnTask.effect (task : ReturnTask) (l : ReturnTaskLine) (out : AdjustOutcome) :
    BookEffect where
  slot := task.slot l
  qty := l.pickedQty
  refLine := l.id
  reason :=
    match out with
    | .skipped => none
    | .applied _ _ => some "RECEIPT"

/-- Put one line back. -/
def commitReturnLine (call : ReturnCommitCall) (knownEvents : List ℕ) (task : ReturnTask)
    (l : ReturnTaskLine) : Tx Books Err (Option BookEffect) := do
  if l.pickedQty ≤ 0 then return none
  else do
    let b ← get
    let lot ← Tx.ofExcept (checkReturnLot task l b)
    let out ← adjustLot ⟨call.pms, knownEvents, call.utcNow⟩ (call.adjustCall task l lot)
    return some (task.effect l out)

/-- The line after its task is committed. -/
def ReturnTaskLine.commit (taskId : ℕ) (l : ReturnTaskLine) : ReturnTaskLine :=
  if l.taskId = taskId ∧ 0 < l.pickedQty then
    { l with committedQty := some l.pickedQty, status := .committed }
  else l

/-- The task after it is committed. -/
def ReturnTask.commit (taskId : ℕ) (task : ReturnTask) : ReturnTask :=
  if task.id = taskId then { task with status := .committed } else task

theorem ReturnTaskLine.commit_keeps (taskId : ℕ) (l : ReturnTaskLine) :
    (l.commit taskId).id = l.id ∧ (l.commit taskId).taskId = l.taskId := by
  unfold ReturnTaskLine.commit
  split <;> exact ⟨rfl, rfl⟩

theorem ReturnTask.commit_keeps (taskId : ℕ) (task : ReturnTask) :
    (task.commit taskId).id = task.id ∧ (task.commit taskId).orderId = task.orderId ∧
      (task.commit taskId).warehouseId = task.warehouseId := by
  unfold ReturnTask.commit
  split <;> exact ⟨rfl, rfl, rfl⟩

/-- The tables after a task is committed. -/
def ReturnTables.commitTask (taskId : ℕ) (t : ReturnTables) : ReturnTables :=
  (t.mapLines (ReturnTaskLine.commit taskId) (fun l => (l.commit_keeps taskId).1)
    fun l => (l.commit_keeps taskId).2).mapTasks (ReturnTask.commit taskId)
      fun task => (task.commit_keeps taskId).1

/-- `commit`. -/
def commitReturnTask (call : ReturnCommitCall) : Tx ReturnTables Err ReturnTask := do
  let task ← getTask call.taskId
  if task.status = .committed then return task
  else do
    let t ← get
    let effects? ← onDatabase (onBooks ((t.linesOf task.id).mapM'
      (commitReturnLine call t.db.eventBook.ids task)))
    modify (ReturnTables.commitTask task.id)
    let t ← get
    let snapshots ← Tx.ofExcept (enforceThreeBooks call.today call.day task.orderId.text
      effects?.reduceOption t.db.books t.stockSnapshots)
    set { t with stockSnapshots := snapshots }
    return task.commit task.id

end Wms

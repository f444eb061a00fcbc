import Wms.Count.CountService

/-!
# Recounting by hand

`stock_recount` brings what is in stock under a lot code to the quantity that is actually
there. The total is read under the code as it is given; where it is wrong, a lot is
resolved from the code and adjusted by the difference.
-/

namespace Wms

open Foundation

/-- A row of `event_log` that a recount writes. -/
structure EventLogRow where
  id : ℕ
  source : String
  scanRef : String
  occurredAt : ℤ

/-- The database with the event log. -/
structure StockTables where
  db : Database
  eventLog : List EventLogRow

/-- Tables without rows. -/
def StockTables.empty : StockTables := ⟨.empty, []⟩

/-- Statements on the database. -/
def onStockDb {α : Type} (x : Trans α) : Tx StockTables Err α :=
  x.zoom StockTables.db fun db t => { t with db := db }

/-- `StockRecountRequest`, with the device of its context. -/
structure RecountRequest where
  itemId : ℕ
  warehouseId : ℕ
  lotCode : Option String
  actual : ℤ
  deviceId : Option String
  /-- `Field(..., ge=1)`. -/
  warehouse_pos : 1 ≤ warehouseId
  /-- `Field(..., ge=0)`. -/
  actual_nonneg : 0 ≤ actual

/-- The answer of a recount. -/
structure RecountResponse where
  scanRef : String
  eventId : ℕ
  onHand : ℤ
  actual : ℤ
  delta : ℤ

/-- `datetime.isoformat` of a time in UTC. -/
def DateTime.isoFormatUtc (d : DateTime) : String :=
  let pad (n width : ℕ) : String :=
    let digits := toString n
    String.ofList (List.replicate (width - digits.length) '0') ++ digits
  let seconds := d.timeOfDay / 1000000
  let micros := d.timeOfDay % 1000000
  let fraction := if micros = 0 then "" else "." ++ pad micros 6
  isoFormat d.date ++ "T" ++ pad (seconds / 3600) 2 ++ ":" ++ pad (seconds / 60 % 60) 2 ++ ":" ++
    pad (seconds % 60) 2 ++ fraction ++ "+00:00"

/-- `_make_scan_ref`. -/
def makeScanRef (deviceId : Option String) (occurredAt : DateTime) (warehouseId : ℕ) : String :=
  let dev := lower ((deviceId.filter fun d => d ≠ "").getD "device")
  lower s!"scan:{dev}:{occurredAt.isoFormatUtc}:wh:{warehouseId}"

example : makeScanRef (some "PDA") ⟨⟨2025, 6, 1, by decide⟩, 3600000001, some 0⟩ 7 =
    "scan:pda:2025-06-01t01:00:00.000001+00:00:wh:7" := by decide +kernel

/-- The movement that makes up for a difference. -/
def RecountRequest.adjustCall (req : RecountRequest) (scanRef : String) (lotId : ℕ)
    (lotCode : Option String) (delta : ℤ) : AdjustCall where
  itemId := req.itemId
  warehouseId := req.warehouseId
  lotId := some lotId
  delta := delta
  reason := "COUNT"
  ref := scanRef
  refLine := none
  occurredAt := none
  info := ⟨false, none, none⟩
  lotCode := lotCode
  productionDate := none
  expiryDate := none
  traceId := none

/-- Resolve the lot of a recount and adjust it. -/
def recountLot (env : AdjustEnv) (scanRef : String) (req : RecountRequest) (delta : ℤ) :
    Tx Books Err PUnit := do
  let (lotId, lotCode) ←
    resolveLotForStockAdjust env.pms req.itemId req.warehouseId req.lotCode none none
  let _ ← adjustLot env (req.adjustCall scanRef lotId lotCode delta)
  pure ⟨⟩

/-- `_insert_event`. -/
def insertEventLog (source scanRef : String) (occurredAt : ℤ) : Tx StockTables Err ℕ := do
  let t ← get
  let row : EventLogRow :=
    ⟨nextId (t.eventLog.map EventLogRow.id), source, scanRef, occurredAt⟩
  set { t with eventLog := t.eventLog ++ [row] }
  return row.id

/-- The transaction of `stock_recount` under a scan reference. -/
def recountUnder (scanRef : String) (pms : PmsClient) (occurredAt : ℤ) (req : RecountRequest) :
    Tx StockTables Err RecountResponse := do
  onStockDb (ensureWarehouseNotFrozen req.warehouseId)
  let t ← get
  let onHand := t.db.books.codeTotal req.warehouseId req.itemId req.lotCode
  let delta := req.actual - onHand
  if delta ≠ 0 then
    onStockDb (onBooks (recountLot ⟨pms, t.db.eventBook.ids, occurredAt⟩ scanRef req delta))
  let eventId ← insertEventLog "stock_recount" scanRef occurredAt
  return ⟨scanRef, eventId, onHand, req.actual, delta⟩

/-- `stock_recount`. -/
def stockRecount (pms : PmsClient) (now : DateTime) (req : RecountRequest) :
    Tx StockTables Err RecountResponse :=
  recountUnder (makeScanRef req.deviceId now req.warehouseId) pms now.wallTime req

end Wms

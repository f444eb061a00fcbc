import Wms.Database
import Wms.Stock.AdjustContract
import Wms.Stock.Snapshots

/-!
# Counting a single lot

`CountService.submit` sets a lot to the quantity that was counted: it reads what is in
stock under the code of the lot and adjusts the lot by the difference. The reference of
the count is the key of the movement.
-/

namespace Wms

open Foundation

/-! ## Dates with a time -/

/-- A `datetime` of a request. -/
structure DateTime where
  date : Date
  /-- The time of the day in microseconds. -/
  timeOfDay : ℕ
  /-- The offset of its time zone in microseconds, if it has one. -/
  utcOffset : Option ℤ
  deriving DecidableEq

namespace DateTime

/-- The time in its own zone. -/
def wallTime (d : DateTime) : ℤ := midnight d.date + d.timeOfDay

/-- `a < b`. -/
def lt (a b : DateTime) : Except Err Bool :=
  match a.utcOffset, b.utcOffset with
  | none, none => .ok (a.wallTime < b.wallTime)
  | some o, some o' => .ok (a.wallTime - o < b.wallTime - o')
  | _, _ => .error (.typeError "can't compare offset-naive and offset-aware datetimes")

end DateTime

/-- The rules for the dates of a batch compare two dates that are both given with their
times; everything else that they do with dates leaves the times alone. -/
def checkDateTimes (lotCode : Option String) (pd ed : Option DateTime) : Except Err Unit :=
  match lotCode, pd, ed with
  | some _, some p, some e => do
    if ← e.lt p then .error (.valueError "production_date cannot be later than expiry_date")
    else .ok ()
  | _, _, _ => .ok ()

/-! ## The request -/

/-- `CountRequest`. -/
structure CountRequest where
  itemId : ℕ
  warehouseId : ℕ
  qty : ℤ
  ref : String
  lotCode : Option String
  occurredAt : ℤ
  productionDate : Option DateTime
  expiryDate : Option DateTime
  /-- `Field(..., ge=1)`. -/
  warehouse_pos : 1 ≤ warehouseId
  /-- `Field(..., ge=0)`. -/
  qty_nonneg : 0 ≤ qty

/-- `CountResponse`. -/
structure CountResponse where
  after : ℤ
  ref : String
  itemId : ℕ
  warehouseId : ℕ
  lotCode : Option String
  occurredAt : ℤ

/-- The part of `submit` that finds the lot of a count, with its code. -/
def resolveCountedLot (pms : PmsClient) (req : CountRequest) : Tx Books Err (ℕ × Option String) := do
  let policies ← Tx.ofExcept (pms.getItemPolicies [req.itemId])
  let policy ← Tx.demand (policies req.itemId) (.lookupError s!"unknown item_id: {req.itemId}")
  let lotCode ← Tx.ofExcept
    (validateLotCodeContract (policy.expiryPolicy = .required) req.lotCode)
  Tx.failIf (policy.expiryPolicy = .required ∧ req.productionDate = none ∧ req.expiryDate = none)
    (.valueError
      "expiry-policy REQUIRED item requires production_date or expiry_date (at least one).")
  resolveLotForStockAdjust pms req.itemId req.warehouseId lotCode
    (req.productionDate.map DateTime.date) (req.expiryDate.map DateTime.date)

/-- The movement that makes up for a difference. -/
def CountRequest.adjustCall (req : CountRequest) (lotId : ℕ) (lotCode : Option String)
    (delta : ℤ) : AdjustCall where
  itemId := req.itemId
  warehouseId := req.warehouseId
  lotId := some lotId
  delta := delta
  reason := "ADJUSTMENT"
  ref := req.ref
  refLine := some 1
  occurredAt := some req.occurredAt
  info := ⟨delta = 0, some (if delta ≠ 0 then "COUNT_ADJUST" else "COUNT_CONFIRM"), none⟩
  lotCode := lotCode
  productionDate := req.productionDate.map DateTime.date
  expiryDate := req.expiryDate.map DateTime.date
  traceId := none

/-- `res.get("after", req.qty)`. -/
def AdjustOutcome.after (out : AdjustOutcome) (qty : ℤ) : ℤ :=
  match out with
  | .skipped => qty
  | .applied _ after => after

/-- The part of `submit` that follows the freeze guard. -/
def countLot (env : AdjustEnv) (req : CountRequest) : Tx Books Err CountResponse := do
  let (lotId, lotCode) ← resolveCountedLot env.pms req
  let b ← get
  let delta := req.qty - b.codeTotal req.warehouseId req.itemId lotCode
  Tx.ofExcept (checkDateTimes lotCode req.productionDate req.expiryDate)
  let out ← adjustLot env (req.adjustCall lotId lotCode delta)
  return {
    after := out.after req.qty, ref := req.ref, itemId := req.itemId
    warehouseId := req.warehouseId, lotCode := lotCode, occurredAt := req.occurredAt }

/-- `CountService.submit`. -/
def submitCount (pms : PmsClient) (utcNow : ℤ) (req : CountRequest) : Trans CountResponse := do
  ensureWarehouseNotFrozen req.warehouseId
  let db ← get
  onBooks (countLot ⟨pms, db.eventBook.ids, utcNow⟩ req)

end Wms

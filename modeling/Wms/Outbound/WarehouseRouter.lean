import Wms.Foundation.Table

/-!
# The warehouse router

The router checks whether one warehouse can fulfil a whole order, and picks the warehouse for an
order: the top warehouses of the store come first, then the others, both by priority. What is
available comes from a provider; the checks of one call read it once, so it does not change
meanwhile.
-/

namespace Wms.Router

open Foundation

/-! ## Data -/

/-- `OrderContext`. -/
structure OrderContext where
  platform : String
  storeCode : String
  orderId : String

/-- `OrderLine`. -/
structure OrderLine where
  itemId : ℤ
  qty : ℤ

/-- `StoreWarehouseBinding`. The warehouse is a row of `warehouses`, whose identifiers count from
one. -/
structure StoreWarehouseBinding where
  platform : String
  storeCode : String
  warehouseId : ℤ
  isTop : Bool
  priority : ℤ
  warehouseId_pos : 0 < warehouseId

/-- `RoutingResult`. -/
structure RoutingResult where
  platform : String
  storeCode : String
  orderId : String
  warehouseId : ℤ
  reason : String
  consideredWarehouses : List ℤ

/-- `InsufficientLine`. -/
structure InsufficientLine where
  itemId : ℤ
  need : ℤ
  available : ℤ
  deriving DecidableEq

/-- The status of a check. -/
inductive CheckStatus
  | ok
  | blocked
  deriving DecidableEq

/-- `FulfillmentCheckResult`. -/
structure FulfillmentCheckResult where
  status : CheckStatus
  warehouseId : ℤ
  insufficient : List InsufficientLine
  deriving DecidableEq

/-- The exceptions of the router, with their texts. -/
inductive RoutingError
  | noWarehouseConfigured (message : String)
  | noWarehouseCanFulfill (message : String)

/-- `AvailabilityProvider`: the quantity of an item in a warehouse, which may be negative. -/
abbrev AvailabilityProvider := String → String → ℤ → ℤ → ℤ

variable (provider : AvailabilityProvider) (ctx : OrderContext)

/-- `_get_avail`. -/
def getAvail (warehouseId itemId : ℤ) : ℤ :=
  max (provider ctx.platform ctx.storeCode warehouseId itemId) 0

/-! ## Routing -/

/-- `_can_fulfill`. -/
def canFulfill (lines : List OrderLine) (warehouseId : ℤ) : Bool :=
  lines.all fun line => line.qty ≤ 0 || !(getAvail provider ctx warehouseId line.itemId < line.qty)

/-- `_sort_key`. -/
def bindingKey (b : StoreWarehouseBinding) : ℤ ×ₗ ℤ := toLex (b.priority, b.warehouseId)

/-- The loop over some bindings: the first that can fulfil the order, and the warehouses that
have been considered. -/
def tryBindings (lines : List OrderLine) :
    List StoreWarehouseBinding → List ℤ → Option StoreWarehouseBinding × List ℤ
  | [], considered => (none, considered)
  | b :: bs, considered =>
    if canFulfill provider ctx lines b.warehouseId then (some b, considered ++ [b.warehouseId])
    else tryBindings lines bs (considered ++ [b.warehouseId])

/-- A list of numbers as Python writes it. -/
def pyNumbers (ns : List ℤ) : String := "[" ++ ", ".intercalate (ns.map toString) ++ "]"

/-- `route`. -/
def route (lines : List OrderLine) (bindings : List StoreWarehouseBinding) :
    Except RoutingError RoutingResult :=
  let place := "platform=" ++ ctx.platform ++ ", store_code=" ++ ctx.storeCode
  if bindings = [] then
    .error (.noWarehouseConfigured ("No warehouse configured for " ++ place))
  else
    let inScope := bindings.filter fun b => b.platform = ctx.platform ∧ b.storeCode = ctx.storeCode
    if inScope = [] then
      .error (.noWarehouseConfigured ("No warehouse configured for " ++ place ++ " (after scoping)"))
    else
      let top := orderBy bindingKey (inScope.filter fun b => b.isTop)
      let backup := orderBy bindingKey (inScope.filter fun b => !b.isTop)
      match tryBindings provider ctx lines top [] with
      | (some b, considered) =>
        .ok ⟨ctx.platform, ctx.storeCode, ctx.orderId, b.warehouseId, "top_warehouse_with_stock",
          considered⟩
      | (none, considered) =>
        match tryBindings provider ctx lines backup considered with
        | (some b, considered) =>
          .ok ⟨ctx.platform, ctx.storeCode, ctx.orderId, b.warehouseId,
            "backup_warehouse_with_stock", considered⟩
        | (none, considered) =>
          .error (.noWarehouseCanFulfill ("No warehouse can fulfill order=" ++ ctx.orderId ++
            " for " ++ place ++ ". Considered warehouses=" ++ pyNumbers considered))

/-! ## Checking one warehouse -/

/-- `check_whole_order`. -/
def checkWholeOrder (warehouseId : ℤ) (lines : List OrderLine) : FulfillmentCheckResult :=
  if warehouseId ≤ 0 then ⟨.blocked, warehouseId, []⟩
  else
    let insufficient := lines.filterMap fun line =>
      if line.qty ≤ 0 then none
      else
        let available := getAvail provider ctx warehouseId line.itemId
        if available < line.qty then some ⟨line.itemId, line.qty, available⟩ else none
    if insufficient ≠ [] then ⟨.blocked, warehouseId, insufficient⟩
    else ⟨.ok, warehouseId, []⟩

/-- `scan_warehouses`: every warehouse is checked once. -/
def scanWarehouses (candidateWarehouseIds : List ℤ) (lines : List OrderLine) :
    List FulfillmentCheckResult :=
  ((candidateWarehouseIds.filter (0 < ·)).eraseDups).map fun warehouseId =>
    checkWholeOrder provider ctx warehouseId lines

end Wms.Router

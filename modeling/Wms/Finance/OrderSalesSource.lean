import Wms.Finance.OrderSales
import Wms.Foundation.GroupBy
import Wms.Foundation.Ordinal
import Wms.Stock.LedgerRoutes

/-!
# The rollups of the sales lines

The page of the order sales shows the figures of a period in total, by day and by store, each from
a query of its own. An order counts with the greatest of the values of its lines. By day and by
store the orders and the lines are grouped apart from each other and joined again.
-/

namespace Wms.Finance

open Foundation

/-- A row of `platform_test_stores`. -/
structure PlatformTestStore where
  platform : String
  storeCode : String
  storeId : Option ℕ
  code : String

/-- The parameters that the rollups use. -/
structure OrderSalesParams where
  fromDate : Date
  toDate : Date
  platform : String
  storeCode : String
  orderNo : String

section Filter

-- the database's capital and small letters
variable (upper lower : String → String)

/-- SQL's `ILIKE`. -/
def ilike (text pattern : String) : Bool := like (lower pattern).toList (lower text).toList

/-- `_base_where`. -/
def baseWhere (testStores : List PlatformTestStore) (params : OrderSalesParams) (f : SalesLine) :
    Bool :=
  (params.fromDate ≤ f.orderDate ∧ f.orderDate ≤ params.toDate) ∧
  (params.platform = "" ∨ f.platform.text = params.platform) ∧
  (params.storeCode = "" ∨ f.storeCode.text = params.storeCode) ∧
  (params.orderNo = "" ∨ ilike lower f.extOrderNo.text ("%" ++ params.orderNo ++ "%") ∨
    ilike lower f.orderRef.text ("%" ++ params.orderNo ++ "%")) ∧
  ¬∃ pts ∈ testStores, pts.code = "DEFAULT" ∧ (pts.storeId = some f.storeId ∨
    (upper pts.platform = upper f.platform.text ∧ btrim pts.storeCode = btrim f.storeCode.text))

/-- `filtered`: the lines that every query begins with. -/
def filteredLines (testStores : List PlatformTestStore) (params : OrderSalesParams)
    (lines : List SalesLine) : List SalesLine :=
  lines.filter (baseWhere upper lower testStores params)

end Filter

/-- `COALESCE(pay_amount, order_amount, 0)`. -/
def SalesLine.value (f : SalesLine) : ℤ := centsOf (f.payAmount.or f.orderAmount)

/-- `order_value`: the greatest value among the lines of an order. -/
def orderValue (lines : List SalesLine) : ℤ := ((lines.map SalesLine.value).max?).getD 0

/-- The figures that the three queries have in common. -/
@[ext] structure Figures where
  orderCount : ℕ
  lineCount : ℕ
  qtySold : ℤ
  revenue : ℤ
  deriving DecidableEq

/-- The sums of figures. -/
def Figures.total (rows : List Figures) : Figures where
  orderCount := (rows.map Figures.orderCount).sum
  lineCount := (rows.map Figures.lineCount).sum
  qtySold := (rows.map Figures.qtySold).sum
  revenue := (rows.map Figures.revenue).sum

/-! ## In total -/

structure OrderSalesSummary extends Figures where
  avgOrderValue : Option ℤ
  medianOrderValue : Option ℤ

/-- `_summary` of the lines that the filter has left. The average is what the database makes of a
sum and a number, rounded to cents. -/
def summary (average : ℤ → ℕ → ℤ) (filtered : List SalesLine) : OrderSalesSummary :=
  let orderValues := (groupBy SalesLine.orderId filtered).map fun g => orderValue g.2
  { orderCount := orderValues.length
    lineCount := filtered.length
    qtySold := (filtered.map SalesLine.qtySold).sum
    revenue := orderValues.sum
    avgOrderValue :=
      if 0 < orderValues.length then some (average orderValues.sum orderValues.length) else none
    medianOrderValue := (orderValues.insertionSort (· ≤ ·))[(orderValues.length + 1) / 2 - 1]? }

/-! ## By day and by store -/

section Groups

variable {κ : Type} [DecidableEq κ] (key : SalesLine → κ) (filtered : List SalesLine)

/-- `order_values`: the orders of each day, or of each store, with their values. -/
def orderValues : List (κ × ℤ) :=
  (groupBy (fun f => (key f, f.orderId)) filtered).map fun g => (g.1.1, orderValue g.2)

/-- A row of `order_agg`. -/
structure OrderAgg (κ : Type) where
  key : κ
  orderCount : ℕ
  revenue : ℤ

/-- `order_agg`. -/
def orderAgg : List (OrderAgg κ) :=
  (groupBy Prod.fst (orderValues key filtered)).map fun g =>
    { key := g.1, orderCount := g.2.length, revenue := (g.2.map Prod.snd).sum }

/-- A row of `line_agg`. -/
structure LineAgg (κ : Type) where
  key : κ
  lineCount : ℕ
  qtySold : ℤ
  deriving DecidableEq

/-- `line_agg`. -/
def lineAgg : List (LineAgg κ) :=
  (groupBy key filtered).map fun g =>
    { key := g.1, lineCount := g.2.length, qtySold := (g.2.map SalesLine.qtySold).sum }

end Groups

structure OrderSalesDailyRow extends Figures where
  day : Date

/-- `_daily`: every day of the period with its orders and its lines. -/
def daily (params : OrderSalesParams) (filtered : List SalesLine) : List OrderSalesDailyRow :=
  (Date.generateSeries params.fromDate params.toDate).flatMap fun day =>
    (leftJoin (orderAgg SalesLine.orderDate filtered) fun oa => oa.key = day).flatMap fun oa =>
      (leftJoin (lineAgg SalesLine.orderDate filtered) fun la => la.key = day).map fun la =>
        { day := day
          orderCount := (oa.map OrderAgg.orderCount).getD 0
          lineCount := (la.map LineAgg.lineCount).getD 0
          qtySold := (la.map LineAgg.qtySold).getD 0
          revenue := (oa.map OrderAgg.revenue).getD 0 }

/-- The columns that the orders and lines of a store are grouped by. -/
structure StoreKey where
  platform : Varchar 32
  storeCode : Varchar 64
  storeName : Option (Varchar 256)
  deriving DecidableEq

def SalesLine.storeKey (f : SalesLine) : StoreKey := ⟨f.platform, f.storeCode, f.storeName⟩

/-- `COALESCE(store_name, '')`. -/
def StoreKey.name (k : StoreKey) : String := (k.storeName.map Varchar.text).getD ""

/-- The condition of the join. A store without a name and one with an empty name meet. -/
def StoreKey.Joins (k k' : StoreKey) : Prop :=
  k.platform = k'.platform ∧ k.storeCode = k'.storeCode ∧ k.name = k'.name

instance : DecidableRel StoreKey.Joins := fun _ _ => inferInstanceAs (Decidable (_ ∧ _))

structure OrderSalesStoreRow extends Figures where
  store : StoreKey

/-- `ORDER BY oa.revenue DESC, oa.platform ASC, oa.store_code ASC`. -/
def OrderSalesStoreRow.columns (row : OrderSalesStoreRow) : ℤ ×ₗ String ×ₗ String :=
  toLex (-row.revenue, toLex (row.store.platform.text, row.store.storeCode.text))

/-- `_by_store`: the orders of every store with the lines that the join finds. -/
def byStore (filtered : List SalesLine) : List OrderSalesStoreRow :=
  orderBy OrderSalesStoreRow.columns <|
    (orderAgg SalesLine.storeKey filtered).flatMap fun oa =>
      (leftJoin (lineAgg SalesLine.storeKey filtered) fun la => la.key.Joins oa.key).map fun la =>
        { store := oa.key
          orderCount := oa.orderCount
          lineCount := (la.map LineAgg.lineCount).getD 0
          qtySold := (la.map LineAgg.qtySold).getD 0
          revenue := oa.revenue }

/-! ## The page -/

/-- The rollups of a page. -/
structure OrderSalesRollups where
  summary : OrderSalesSummary
  daily : List OrderSalesDailyRow
  byStore : List OrderSalesStoreRow

/-- The rollups that `fetch` returns. -/
def fetch (upper lower : String → String) (average : ℤ → ℕ → ℤ)
    (testStores : List PlatformTestStore) (lines : List SalesLine) (params : OrderSalesParams) :
    OrderSalesRollups :=
  let filtered := filteredLines upper lower testStores params lines
  { summary := summary average filtered
    daily := daily params filtered
    byStore := byStore filtered }

end Wms.Finance

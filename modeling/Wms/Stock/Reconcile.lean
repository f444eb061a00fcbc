import Wms.Stock.Snapshots

/-!
# Reconciliation reports

`three_books_compare` and `/reconcile` add up the ledger by slot and put the balances, and
the snapshot of a day, beside the sums. Both start from the ledger: what it has no row for
is in neither report.
-/

namespace Wms

open Foundation

/-- `uq_stock_snapshot_grain_v2`: a slot has one quantity a day. -/
def StockSnapshot.SameGrain (a b : StockSnapshot) : Prop :=
  a.snapshotDate = b.snapshotDate ∧ a.slot = b.slot

/-- The tables that the reports read. -/
structure ReportTables where
  books : Books
  stockSnapshots : Table StockSnapshot StockSnapshot.SameGrain
  /-- `fk_stock_ledger_lot_dims`. -/
  ledger_fk : ∀ r ∈ books.stockLedger.rows, books.HasLot r.slot

/-- The columns that the reports are sorted by. -/
def SlotKey.columns (k : SlotKey) : ℕ ×ₗ ℕ ×ₗ ℕ :=
  toLex (k.warehouseId, toLex (k.itemId, k.lotId))

/-! ## The ledger by slot and lot code -/

/-- `JOIN lots lo ON lo.id = l.lot_id`, of which the reports take the lot code. -/
def Books.joinLots (b : Books) (rows : List LedgerRow) :
    List (LedgerRow × Option (Varchar 64)) :=
  rows.filterMap fun r => (b.findLot r.slot.lotId).map fun l => (r, l.lotCode)

/-- `GROUP BY warehouse_id, item_id, lot_id, lot_code` with the sums of the amounts. -/
def groupLedger (rows : List (LedgerRow × Option (Varchar 64))) :
    List ((SlotKey × Option (Varchar 64)) × ℤ) :=
  Dict.tally (fun p => (p.1.slot, p.2)) (fun p => p.1.delta) rows

/-! ## Three books -/

/-- A row of the comparison of the three books. -/
@[ext] structure BooksRow where
  slot : SlotKey
  lotCode : Option (Varchar 64)
  ledgerQty : ℤ
  stockQty : ℤ
  snapshotQty : ℤ
  diffStock : ℤ
  diffSnapshot : ℤ

/-- Put the other books beside a group of the ledger. -/
def BooksRow.of (t : ReportTables) (g : (SlotKey × Option (Varchar 64)) × ℤ)
    (snapshot : Option StockSnapshot) : BooksRow :=
  let stockQty := (t.books.stocksLot.lookup g.1.1).getD 0
  let snapshotQty := (snapshot.map StockSnapshot.qty).getD 0
  ⟨g.1.1, g.1.2, g.2, stockQty, snapshotQty, g.2 - stockQty, g.2 - snapshotQty⟩

/-- `three_books_compare`. The day of the cut depends on the time zone of the session. -/
def threeBooksCompare (cut : ℤ) (cutDay : Date) (t : ReportTables) : List BooksRow :=
  let ledger := t.books.stockLedger.rows.filter fun l => l.occurredAt ≤ cut
  let rows := (groupLedger (t.books.joinLots ledger)).flatMap fun x =>
    (t.stockSnapshots.leftJoin fun sn => sn.snapshotDate = cutDay ∧ sn.slot = x.1.1).map
      (BooksRow.of t x)
  orderBy (fun row => row.slot.columns) rows

/-! ## The filters of a ledger query -/

/-- The fields of `LedgerQuery` that `/reconcile` reads. A time without a zone counts as
one in UTC. -/
structure LedgerQuery where
  itemId : Option ℤ := none
  warehouseId : Option ℤ := none
  /-- The lot code, if the field is set at all. -/
  lotCode : Option (Option String) := none
  lotId : Option ℤ := none
  timeFrom : Option ℤ := none
  timeTo : Option ℤ := none

namespace LedgerQuery

/-- So many days in microseconds. -/
def days (n : ℤ) : ℤ := n * 86400000000

/-- `normalize_time_range`. -/
def normalizeTimeRange (now : ℤ) (q : LedgerQuery) : Except Err (ℤ × ℤ) :=
  let timeTo := q.timeTo.getD now
  let timeFrom := q.timeFrom.getD (timeTo - days 7)
  if timeTo < timeFrom then .error (.httpException 400 "'time_to' must be >= 'time_from'")
  else if days 90 < timeTo - timeFrom then
    if q.timeFrom.isSome ∧ q.timeTo.isNone then .ok (timeTo - days 90, timeTo)
    else if q.timeTo.isSome ∧ q.timeFrom.isNone then .ok (timeFrom, timeFrom + days 90)
    else .error (.httpException 400 "时间范围过大，请缩小到 90 天以内（<= 90 天）。")
  else .ok (timeFrom, timeTo)

/-- `normalize_optional_lot_code` of the trimmed lot code, if the field is set. -/
def lotCodeFilter (q : LedgerQuery) : Option String :=
  q.lotCode.bind fun lotCode => normLotCode (lotCode.map strip)

/-- `:wh_id IS NULL OR warehouse_id = :wh_id`, and so for the item and the lot. -/
def Selects (q : LedgerQuery) (k : SlotKey) : Prop :=
  (∀ w ∈ q.warehouseId, (k.warehouseId : ℤ) = w) ∧ (∀ i ∈ q.itemId, (k.itemId : ℤ) = i) ∧
    ∀ l ∈ q.lotId, (k.lotId : ℤ) = l

/-- `:lot_code IS NULL OR lo.lot_code IS NOT DISTINCT FROM :lot_code`. -/
def SelectsCode (q : LedgerQuery) (lotCode : Option (Varchar 64)) : Prop :=
  ∀ code ∈ q.lotCodeFilter, lotCode.map Varchar.text = some code

instance (q : LedgerQuery) (k : SlotKey) : Decidable (q.Selects k) :=
  inferInstanceAs (Decidable (_ ∧ _ ∧ _))

instance (q : LedgerQuery) (lotCode : Option (Varchar 64)) : Decidable (q.SelectsCode lotCode) :=
  inferInstanceAs (Decidable (∀ code ∈ q.lotCodeFilter, _))

end LedgerQuery

/-! ## The reconciliation of the ledger with the balances -/

/-- `LedgerReconcileRow`. -/
@[ext] structure LedgerReconcileRow where
  slot : SlotKey
  lotCode : Option (Varchar 64)
  ledgerSumDelta : ℤ
  stockQty : ℤ
  diff : ℤ

/-- `ledger_agg`: the groups of the selected rows of the window. -/
def ledgerAgg (q : LedgerQuery) (window : ℤ × ℤ) (b : Books) :
    List ((SlotKey × Option (Varchar 64)) × ℤ) :=
  groupLedger ((b.joinLots b.stockLedger.rows).filter fun p =>
    window.1 ≤ p.1.occurredAt ∧ p.1.occurredAt ≤ window.2 ∧ q.Selects p.1.slot ∧
      q.SelectsCode p.2)

/-- `stock_agg`: the selected balance of a slot. -/
def stockAgg (q : LedgerQuery) (b : Books) (k : SlotKey) : Option ℤ :=
  if q.Selects k then b.stocksLot.lookup k else none

/-- `reconcile_ledger`: the groups whose sum is not the balance. -/
def reconcileLedger (now : ℤ) (q : LedgerQuery) (t : ReportTables) :
    Except Err (List LedgerReconcileRow) := do
  let window ← q.normalizeTimeRange now
  let rows := (ledgerAgg q window t.books).map fun g =>
    let stockQty := (stockAgg q t.books g.1.1).getD 0
    { slot := g.1.1, lotCode := g.1.2, ledgerSumDelta := g.2, stockQty := stockQty
      diff := g.2 - stockQty : LedgerReconcileRow }
  return orderBy (fun row => row.slot.columns)
    (rows.filter fun row => row.ledgerSumDelta ≠ row.stockQty)

end Wms

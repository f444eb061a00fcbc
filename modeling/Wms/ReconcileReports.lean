import Wms.Stock.Reconcile
import Wms.ReceiptDates

/-!
# What the reconciliation reports list

Both reports list slots that the ledger has rows for, each of them once and with its true
differences. A balance or a snapshot without any ledger row is in neither of them.
-/

namespace Wms

open Foundation

/-- The slot has a ledger row. -/
def Books.InLedger (b : Books) (k : SlotKey) : Prop :=
  ∃ r ∈ b.stockLedger.rows, r.slot = k

/-- The quantity of a slot by the snapshot of a day. -/
def ReportTables.snapshotQty (t : ReportTables) (day : Date) (k : SlotKey) : ℤ :=
  ((t.stockSnapshots.rows.find? fun sn => sn.snapshotDate = day ∧ sn.slot = k).map
    StockSnapshot.qty).getD 0

/-- The three books of a slot, with their true differences. -/
def ReportTables.booksRow (t : ReportTables) (day : Date) (k : SlotKey) : BooksRow :=
  let ledgerQty := ledgerSum t.books.stockLedger.rows k
  ⟨k, t.books.lotCodeOf k, ledgerQty, t.books.stock k, t.snapshotQty day k,
    ledgerQty - t.books.stock k, ledgerQty - t.snapshotQty day k⟩

/-- The ledger and the balance of a slot, with their true difference. -/
def Books.reconcileRow (b : Books) (k : SlotKey) : LedgerReconcileRow :=
  let ledgerQty := ledgerSum b.stockLedger.rows k
  ⟨k, b.lotCodeOf k, ledgerQty, b.stock k, ledgerQty - b.stock k⟩

/-- A query selects a slot by its warehouse, item and lot and by the code of the lot. -/
def LedgerQuery.SelectsSlot (q : LedgerQuery) (b : Books) (k : SlotKey) : Prop :=
  q.Selects k ∧ q.SelectsCode (b.lotCodeOf k)

instance (q : LedgerQuery) (b : Books) (k : SlotKey) : Decidable (q.SelectsSlot b k) :=
  inferInstanceAs (Decidable (_ ∧ _))

/-- The lot code of the query is left out, or it is a code. What a field that is set to
nothing asks for is left open. -/
def LedgerQuery.CodeGiven (q : LedgerQuery) : Prop :=
  q.lotCode = none ∨ q.lotCodeFilter.isSome

/-- The window has every ledger row of a selected slot. -/
def LedgerQuery.WindowHolds (q : LedgerQuery) (window : ℤ × ℤ) (b : Books) : Prop :=
  ∀ r ∈ b.stockLedger.rows, q.SelectsSlot b r.slot →
    window.1 ≤ r.occurredAt ∧ r.occurredAt ≤ window.2

/-- What the reports list from some tables. -/
structure Reports (t : ReportTables) : Prop where
  /-- A cut that is not before any row lists the slots of the ledger. -/
  mem_compare : ∀ cut day, (∀ r ∈ t.books.stockLedger.rows, r.occurredAt ≤ cut) →
    ∀ row, row ∈ threeBooksCompare cut day t ↔
      ∃ k, t.books.InLedger k ∧ row = t.booksRow day k
  /-- Each slot is listed once, in order. -/
  compare_sorted : ∀ cut day,
    (threeBooksCompare cut day t).Pairwise fun a b => a.slot.columns < b.slot.columns
  /-- A window with all rows lists the selected slots of the ledger that differ. -/
  mem_reconcile : ∀ now q window, q.normalizeTimeRange now = .ok window → q.CodeGiven →
    q.WindowHolds window t.books → ∃ rows, reconcileLedger now q t = .ok rows ∧
      ∀ row, row ∈ rows ↔ ∃ k, q.SelectsSlot t.books k ∧ t.books.InLedger k ∧
        ledgerSum t.books.stockLedger.rows k ≠ t.books.stock k ∧ row = t.books.reconcileRow k
  reconcile_sorted : ∀ now q rows, reconcileLedger now q t = .ok rows →
    rows.Pairwise fun a b => a.slot.columns < b.slot.columns

/-! ## Groups of the ledger -/

variable {t : ReportTables} {b : Books} {rows : List LedgerRow} {k : SlotKey}

theorem SlotKey.columns_injective : Function.Injective SlotKey.columns := by
  rintro ⟨w, i, l⟩ ⟨w', i', l'⟩ h
  unfold SlotKey.columns at h
  rw [EmbeddingLike.apply_eq_iff_eq, Prod.mk.injEq, EmbeddingLike.apply_eq_iff_eq,
    Prod.mk.injEq] at h
  obtain ⟨rfl, rfl, rfl⟩ := h
  rfl

/-- Every row of the ledger has its lot, so the join keeps them all. -/
theorem Books.joinLots_eq (h : ∀ r ∈ rows, b.HasLot r.slot) :
    b.joinLots rows = rows.map fun r => (r, b.lotCodeOf r.slot) := by
  unfold Books.joinLots
  rw [← List.filterMap_eq_map]
  apply List.filterMap_congr
  intro r hr
  obtain ⟨l, hl, hid, -⟩ := h r hr
  have hfound : (b.findLot r.slot.lotId).isSome := by
    unfold Books.findLot
    rw [List.find?_isSome]
    exact ⟨l, hl, by simpa using hid⟩
  obtain ⟨l', hl'⟩ := Option.isSome_iff_exists.mp hfound
  simp [Books.lotCodeOf, hl']

/-- The groups are the slots of the rows, each with its lot code and sum. -/
theorem mem_groupLedger {g : (SlotKey × Option (Varchar 64)) × ℤ} :
    g ∈ groupLedger (rows.map fun r => (r, b.lotCodeOf r.slot)) ↔
      ∃ k, (∃ r ∈ rows, r.slot = k) ∧ g = ((k, b.lotCodeOf k), ledgerSum rows k) := by
  obtain ⟨⟨k, code⟩, q⟩ := g
  unfold groupLedger
  rw [Dict.tally_map, Dict.mem_tally]
  have hsame (k : SlotKey) : (rows.filter fun r => ((fun p : LedgerRow × Option (Varchar 64) =>
      (p.1.slot, p.2)) ∘ fun r => (r, b.lotCodeOf r.slot)) r = (k, b.lotCodeOf k)) =
      rows.filter fun r => r.slot = k := by
    apply List.filter_congr
    intro r hr
    simp only [Function.comp_apply, Prod.mk.injEq, decide_eq_decide]
    exact ⟨fun h => h.1, fun h => ⟨h, by rw [h]⟩⟩
  constructor
  · rintro ⟨⟨r, hr, hkey⟩, rfl⟩
    obtain ⟨rfl, rfl⟩ := Prod.mk.inj hkey
    refine ⟨r.slot, ⟨r, hr, rfl⟩, ?_⟩
    rw [hsame]
    rfl
  · rintro ⟨k', ⟨r, hr, rfl⟩, heq⟩
    obtain ⟨hkey, rfl⟩ := Prod.mk.inj heq
    obtain ⟨rfl, rfl⟩ := Prod.mk.inj hkey
    refine ⟨⟨r, hr, rfl⟩, ?_⟩
    rw [hsame]
    rfl

/-- A slot is in one group only. -/
theorem groupLedger_nodup :
    ((groupLedger (rows.map fun r => (r, b.lotCodeOf r.slot))).map
      fun g => g.1.1.columns).Nodup := by
  have hkeys : (groupLedger (rows.map fun r => (r, b.lotCodeOf r.slot))).Nodup :=
    (Dict.tally_spec _ _ _).1.of_map
  refine hkeys.map_on ?_
  intro g hg g' hg' heq
  obtain ⟨k, -, rfl⟩ := mem_groupLedger.mp hg
  obtain ⟨k', -, rfl⟩ := mem_groupLedger.mp hg'
  obtain rfl : k = k' := SlotKey.columns_injective heq
  rfl

/-! ## The two reports -/

/-- A slot has one snapshot a day at most, so the comparison has one row for each group. -/
theorem threeBooksCompare_eq (cut : ℤ) (day : Date) (t : ReportTables) :
    threeBooksCompare cut day t = orderBy (fun row => row.slot.columns)
      ((groupLedger ((t.books.stockLedger.rows.filter fun l => l.occurredAt ≤ cut).map
        fun r => (r, t.books.lotCodeOf r.slot))).map fun x =>
          BooksRow.of t x
            (t.stockSnapshots.rows.find? fun sn => sn.snapshotDate = day ∧ sn.slot = x.1.1)) := by
  have hone (k : SlotKey) :
      (t.stockSnapshots.leftJoin fun sn => sn.snapshotDate = day ∧ sn.slot = k) =
        [t.stockSnapshots.rows.find? fun sn => sn.snapshotDate = day ∧ sn.slot = k] := by
    apply Table.leftJoin_eq
    intro a c ha hc
    simp only [decide_eq_true_eq] at ha hc
    exact ⟨ha.1.trans hc.1.symm, ha.2.trans hc.2.symm⟩
  have hjoin : t.books.joinLots (t.books.stockLedger.rows.filter fun l => l.occurredAt ≤ cut) =
      (t.books.stockLedger.rows.filter fun l => l.occurredAt ≤ cut).map fun r =>
        (r, t.books.lotCodeOf r.slot) :=
    Books.joinLots_eq fun r hr => t.ledger_fk r (List.mem_of_mem_filter hr)
  unfold threeBooksCompare
  simp only [hjoin, hone, List.map_singleton]
  rw [← List.map_eq_flatMap]

/-- The selected rows of a window are joined and grouped like any rows. -/
theorem ledgerAgg_eq (q : LedgerQuery) (window : ℤ × ℤ) (t : ReportTables) :
    ledgerAgg q window t.books = groupLedger ((t.books.stockLedger.rows.filter fun r =>
      window.1 ≤ r.occurredAt ∧ r.occurredAt ≤ window.2 ∧ q.SelectsSlot t.books r.slot).map
        fun r => (r, t.books.lotCodeOf r.slot)) := by
  unfold ledgerAgg
  rw [Books.joinLots_eq t.ledger_fk, List.filter_map]
  rfl

/-- The rows of a slot that is kept are all kept. -/
theorem ledgerSum_filter {p : LedgerRow → Bool} (h : ∀ r ∈ rows, r.slot = k → p r = true) :
    ledgerSum (rows.filter p) k = ledgerSum rows k := by
  unfold ledgerSum
  rw [List.filter_filter]
  congr 2
  apply List.filter_congr
  intro r hr
  by_cases hk : r.slot = k
  · simp [hk, h r hr hk]
  · simp [hk]

theorem reconcileLedger_eq_ok {now : ℤ} {q : LedgerQuery} {out : List LedgerReconcileRow} :
    reconcileLedger now q t = .ok out ↔ ∃ window, q.normalizeTimeRange now = .ok window ∧
      orderBy (fun row => row.slot.columns)
        (((ledgerAgg q window t.books).map fun g =>
          ⟨g.1.1, g.1.2, g.2, (stockAgg q t.books g.1.1).getD 0,
            g.2 - (stockAgg q t.books g.1.1).getD 0⟩).filter fun row : LedgerReconcileRow =>
              row.ledgerSumDelta ≠ row.stockQty) = out := by
  unfold reconcileLedger
  cases hwindow : q.normalizeTimeRange now with
  | error e => simp [bind, Except.bind]
  | ok window => simp [bind, Except.bind, pure, Except.pure]

/-- The comparison at a cut with every row. -/
theorem booksRow_of_ledger {cut : ℤ} {day : Date} {row : BooksRow}
    (hcut : ∀ r ∈ t.books.stockLedger.rows, r.occurredAt ≤ cut) :
    row ∈ threeBooksCompare cut day t ↔ ∃ k, t.books.InLedger k ∧ row = t.booksRow day k := by
  have hall : (t.books.stockLedger.rows.filter fun l => l.occurredAt ≤ cut) =
      t.books.stockLedger.rows := by
    rw [List.filter_eq_self]
    intro r hr
    simpa using hcut r hr
  rw [threeBooksCompare_eq, hall, mem_orderBy, List.mem_map]
  constructor
  · rintro ⟨g, hg, rfl⟩
    obtain ⟨k, hk, rfl⟩ := mem_groupLedger.mp hg
    exact ⟨k, hk, rfl⟩
  · rintro ⟨k, hk, rfl⟩
    exact ⟨_, mem_groupLedger.mpr ⟨k, hk, rfl⟩, rfl⟩

/-- The reconciliation of a window with every selected row. -/
theorem reconcileRow_of_ledger {now : ℤ} {q : LedgerQuery} {window : ℤ × ℤ}
    {out : List LedgerReconcileRow} (hwindow : q.normalizeTimeRange now = .ok window)
    (hholds : q.WindowHolds window t.books) (hout : reconcileLedger now q t = .ok out)
    {row : LedgerReconcileRow} :
    row ∈ out ↔ ∃ k, q.SelectsSlot t.books k ∧ t.books.InLedger k ∧
      ledgerSum t.books.stockLedger.rows k ≠ t.books.stock k ∧
        row = t.books.reconcileRow k := by
  obtain ⟨window', hwindow', rfl⟩ := reconcileLedger_eq_ok.mp hout
  obtain rfl : window = window' := Except.ok.inj (hwindow.symm.trans hwindow')
  have hkept {k : SlotKey} (hk : q.SelectsSlot t.books k) : ∀ r ∈ t.books.stockLedger.rows,
      r.slot = k → decide (window.1 ≤ r.occurredAt ∧ r.occurredAt ≤ window.2 ∧
        q.SelectsSlot t.books r.slot) = true := by
    rintro r hr rfl
    obtain ⟨hfrom, hto⟩ := hholds r hr hk
    exact decide_eq_true ⟨hfrom, hto, hk⟩
  have hstock {k : SlotKey} (hk : q.SelectsSlot t.books k) :
      (stockAgg q t.books k).getD 0 = t.books.stock k := by
    rw [stockAgg, if_pos hk.1]
    rfl
  rw [mem_orderBy, List.mem_filter, List.mem_map, ledgerAgg_eq]
  constructor
  · rintro ⟨⟨g, hg, rfl⟩, hne⟩
    obtain ⟨k, ⟨r, hr, rfl⟩, rfl⟩ := mem_groupLedger.mp hg
    obtain ⟨hmem, hselected⟩ := List.mem_filter.mp hr
    have hslot : q.SelectsSlot t.books r.slot := (of_decide_eq_true hselected).2.2
    rw [ledgerSum_filter (hkept hslot)] at hne ⊢
    rw [hstock hslot] at hne ⊢
    exact ⟨r.slot, hslot, ⟨r, hmem, rfl⟩, by simpa using hne, rfl⟩
  · rintro ⟨k, hslot, ⟨r, hr, rfl⟩, hne, rfl⟩
    have hrow : r ∈ t.books.stockLedger.rows.filter fun r => window.1 ≤ r.occurredAt ∧
        r.occurredAt ≤ window.2 ∧ q.SelectsSlot t.books r.slot :=
      List.mem_filter.mpr ⟨hr, hkept hslot r hr rfl⟩
    refine ⟨⟨_, mem_groupLedger.mpr ⟨r.slot, ⟨r, hrow, rfl⟩, rfl⟩, ?_⟩, decide_eq_true hne⟩
    rw [ledgerSum_filter (hkept hslot), hstock hslot]
    rfl

/-- Books whose ledger rows are gone, and no snapshots. -/
def withoutLedger (b : Books) : ReportTables where
  books := b.putLedger .empty
  stockSnapshots := .empty
  ledger_fk _ hr := absurd hr List.not_mem_nil

theorem threeBooksCompare_withoutLedger (cut : ℤ) (day : Date) (b : Books) :
    threeBooksCompare cut day (withoutLedger b) = [] := by
  rw [threeBooksCompare_eq]
  rfl

theorem reconcileLedger_withoutLedger (b : Books) :
    reconcileLedger 0 {} (withoutLedger b) = .ok [] := by
  rw [reconcileLedger_eq_ok]
  refine ⟨(-LedgerQuery.days 7, 0), by decide, ?_⟩
  rw [ledgerAgg_eq]
  rfl

end Wms

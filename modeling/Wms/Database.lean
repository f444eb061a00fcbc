import Wms.Count.Document
import Wms.Events
import Wms.Inbound.Receipt
import Wms.Outbound.Handoff

/-!
# The database

All tables that the services read and write, the transactions on them, and the guard
that every mover of stock except the adjustment itself asks before it starts.
-/

namespace Wms

open Foundation

/-- The tables. -/
structure Database where
  warehouses : Table Warehouse fun a b => a.id = b.id
  orders : Table Order fun a b => a.id = b.id
  orderLines : Table OrderLine fun a b => a.id = b.id
  manualDocs : Table ManualDoc fun a b => a.id = b.id
  manualLines : Table ManualLine fun a b => a.id = b.id
  receipts : Table InboundReceipt InboundReceipt.Conflict
  operations : List InboundOperation
  countDocs : Table CountDoc CountDoc.Conflict
  exportRecords : ExportRecords
  eventBook : EventBook
  books : Books

namespace Database

/-- Tables without rows. -/
def empty : Database :=
  ⟨.empty, .empty, .empty, .empty, .empty, .empty, [], .empty, .empty, .empty, .empty⟩

/-- Replace the books. -/
def putBooks (b : Books) (db : Database) : Database := { db with books := b }

/-- Replace the event tables. -/
def putEventBook (eb : EventBook) (db : Database) : Database := { db with eventBook := eb }

/-- Replace the export records. -/
def putExportRecords (records : ExportRecords) (db : Database) : Database :=
  { db with exportRecords := records }

/-- The warehouse is stored. -/
def HasWarehouse (db : Database) (warehouseId : ℕ) : Prop :=
  ∃ w ∈ db.warehouses.rows, w.id = warehouseId

instance (db : Database) (w : ℕ) : Decidable (db.HasWarehouse w) :=
  inferInstanceAs (Decidable (∃ _ ∈ db.warehouses.rows, _))

/-- `get_frozen_count_doc_brief`. -/
def frozenCountDoc (db : Database) (warehouseId : ℕ) : Option CountDoc :=
  CountDoc.latest? CountDoc.snapshotAt
    (db.countDocs.rows.filter fun d => d.warehouseId = warehouseId ∧ d.status = .frozen)

/-- A count document of the warehouse is frozen. -/
def Frozen (db : Database) (warehouseId : ℕ) : Prop :=
  ∃ d ∈ db.countDocs.rows, d.warehouseId = warehouseId ∧ d.status = .frozen

instance (db : Database) (w : ℕ) : Decidable (db.Frozen w) :=
  inferInstanceAs (Decidable (∃ _ ∈ db.countDocs.rows, _))

end Database

/-- A transaction on the whole database. -/
abbrev Trans (α : Type) := Tx Database Err α

/-- Statements on lots, balances and ledger. -/
def onBooks {α : Type} (x : Tx Books Err α) : Trans α := x.zoom Database.books Database.putBooks

/-- Statements on the event tables. -/
def onEvents {α : Type} (x : Tx EventBook Err α) : Trans α :=
  x.zoom Database.eventBook Database.putEventBook

/-- Statements on the export records. -/
def onExports {α : Type} (x : Tx ExportRecords Err α) : Trans α :=
  x.zoom Database.exportRecords Database.putExportRecords

/-- `ensure_warehouse_not_frozen`. -/
def ensureWarehouseNotFrozen (warehouseId : ℕ) : Trans PUnit := do
  let db ← get
  match db.frozenCountDoc warehouseId with
  | none => pure ⟨⟩
  | some d => throw (.warehouseFrozen warehouseId d.id d.countNo.text d.snapshotAt)

/-- Insert an event whose warehouse is stored. -/
def recordEvent (v : EventValues) : Trans WmsEvent := do
  let db ← get
  Tx.failIf (¬db.HasWarehouse v.warehouseId) (.integrityError "fk_wms_events_warehouse")
  onEvents (insertEvent v)

/-! ## What the guard and the insertion do -/

variable {db db' : Database} {w : ℕ}

/-- The guard finds a document exactly when the warehouse is frozen. -/
theorem Database.frozenCountDoc_eq_none : db.frozenCountDoc w = none ↔ ¬db.Frozen w := by
  unfold Database.frozenCountDoc CountDoc.latest? Database.Frozen
  rw [List.head?_eq_none_iff, ← List.length_eq_zero_iff, List.length_insertionSort,
    List.length_eq_zero_iff, List.filter_eq_nil_iff]
  simp

theorem ensureWarehouseNotFrozen_run_ok {u : PUnit} :
    (ensureWarehouseNotFrozen w).run db = .ok (u, db') ↔ ¬db.Frozen w ∧ db = db' := by
  unfold ensureWarehouseNotFrozen
  simp only [Tx.run_bind_ok, Tx.run_get_ok, ← Database.frozenCountDoc_eq_none]
  constructor
  · rintro ⟨_, _, ⟨rfl, rfl⟩, h⟩
    split at h
    · rename_i hnone
      exact ⟨hnone, (Tx.run_pure_ok.mp h).2⟩
    · exact (Tx.run_throw_ok.mp h).elim
  · rintro ⟨hnone, rfl⟩
    refine ⟨_, _, ⟨rfl, rfl⟩, ?_⟩
    rw [hnone]
    exact Tx.run_pure_ok.mpr ⟨rfl, rfl⟩

theorem onBooks_run_ok {α : Type} {x : Tx Books Err α} {a : α} :
    (onBooks x).run db = .ok (a, db') ↔
      ∃ b, x.run db.books = .ok (a, b) ∧ db.putBooks b = db' := by
  unfold onBooks
  rw [Tx.run_zoom_ok]

theorem onEvents_run_ok {α : Type} {x : Tx EventBook Err α} {a : α} :
    (onEvents x).run db = .ok (a, db') ↔
      ∃ eb, x.run db.eventBook = .ok (a, eb) ∧ db.putEventBook eb = db' := by
  unfold onEvents
  rw [Tx.run_zoom_ok]

/-- A recorded event is the last row of its table, and nothing else has changed. -/
theorem recordEvent_run_ok {v : EventValues} {e : WmsEvent}
    (h : (recordEvent v).run db = .ok (e, db')) :
    db.HasWarehouse v.warehouseId ∧ v.row (nextId db.eventBook.ids) = .ok e ∧
      (∀ a ∈ db.eventBook.events.rows, ¬a.Conflict e) ∧
      ∃ eb, eb.events.rows = db.eventBook.events.rows ++ [e] ∧
        eb.outboundLines = db.eventBook.outboundLines ∧
        eb.inboundLines = db.eventBook.inboundLines ∧ db.putEventBook eb = db' := by
  unfold recordEvent at h
  simp only [Tx.run_bind_ok, Tx.run_get_ok, Tx.run_failIf_ok, onEvents_run_ok] at h
  obtain ⟨_, _, ⟨rfl, rfl⟩, _, _, ⟨hw, rfl⟩, eb, hinsert, rfl⟩ := h
  obtain ⟨hrow, hfree, hevents, houtbound, hinbound⟩ := insertEvent_run_ok hinsert
  exact ⟨not_not.mp hw, hrow, hfree, eb, hevents, houtbound, hinbound, rfl⟩

end Wms

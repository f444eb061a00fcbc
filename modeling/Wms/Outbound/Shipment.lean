import Wms.Database
import Wms.Stock.Ledger

/-!
# Writing an outbound event

`_write_event_and_ledger` records an event with its lines and then takes each line from
stock: it locks the balance, writes a ledger row and sets the balance. Order and manual
submissions share it.
-/

namespace Wms

open Foundation Foundation.Journal

/-- What `_write_event_and_ledger` is asked to write. -/
structure ShipmentHead where
  warehouseId : ℕ
  sourceType : SourceType
  sourceRef : String
  operatorId : Option ℕ
  traceId : String
  occurredAt : ℤ
  remark : Option String

/-- The values of the event that `insert_outbound_event` inserts. -/
def ShipmentHead.eventValues (h : ShipmentHead) : EventValues where
  eventNo := String.ofList (h.traceId.toList.take 64)
  eventType := .outbound
  warehouseId := h.warehouseId
  sourceType := h.sourceType
  sourceRef := some h.sourceRef
  occurredAt := h.occurredAt
  traceId := h.traceId
  eventKind := .commit
  targetEventId := none
  createdBy := h.operatorId
  remark := h.remark.bind fun r => if r = "" then none else some (strip r)

/-- `load_lot_code_snapshot_map` applied to one line. -/
def OutboundLineValues.withLotCode (b : Books) (l : OutboundLineValues) : OutboundLineValues :=
  { l with lotCodeSnapshot := (b.findLot l.lotId).bind fun lot => lot.lotCode.map Varchar.text }

/-- The slot from which a line of an event is taken. -/
def OutboundEventLine.slot (warehouseId : ℕ) (l : OutboundEventLine) : SlotKey :=
  ⟨warehouseId, l.itemId, l.lotId⟩

/-- The values of the row that `insert_outbound_stock_ledger` inserts. -/
def shipLedgerValues (event : WmsEvent) (l : OutboundEventLine) (afterQty : ℤ) : LedgerValues where
  slot := l.slot event.warehouseId
  reason := "OUTBOUND_SHIP"
  reasonCanon := some .outbound
  subReason := some "ORDER_OUTBOUND"
  ref := (event.sourceRef.map Varchar.text).getD "None"
  refLine := l.refLine
  delta := -l.qtyOutbound
  afterQty := afterQty
  occurredAt := event.occurredAt
  traceId := some event.traceId.text
  eventId := some event.id
  productionDate := none
  expiryDate := none

/-- Take one line of an event from stock. -/
def shipLine (knownEvents : List ℕ) (event : WmsEvent) (l : OutboundEventLine) :
    Tx Books Err PUnit := do
  let k := l.slot event.warehouseId
  let currentQty? ← lockSlot k
  let currentQty ← Tx.demand currentQty? (.valueError
    s!"stock_slot_not_found: warehouse_id={k.warehouseId}, item_id={k.itemId}, lot_id={k.lotId}")
  Tx.failIf (currentQty < l.qtyOutbound) (.valueError
    s!"insufficient_stock: warehouse_id={k.warehouseId}, item_id={k.itemId}, lot_id={k.lotId}, current_qty={currentQty}, need_qty={l.qtyOutbound}")
  insertLedger knownEvents (shipLedgerValues event l (currentQty - l.qtyOutbound))
  setSlotQty k (currentQty - l.qtyOutbound)

/-- `_write_event_and_ledger`. -/
def writeEventAndLedger (head : ShipmentHead) (lines : List OutboundLineValues) :
    Trans (WmsEvent × List OutboundEventLine) := do
  ensureWarehouseNotFrozen head.warehouseId
  let event ← recordEvent head.eventValues
  let db ← get
  let saved ← onEvents (lines.mapM' fun l => insertOutboundLine event.id (l.withLotCode db.books))
  let db ← get
  onBooks (forM saved (shipLine db.eventBook.ids event))
  return (event, saved)

/-! ## What is written -/

/-- The ledger row of a shipped line. -/
structure ShipRow (event : WmsEvent) (l : OutboundEventLine) (row : LedgerRow) : Prop where
  slot_eq : row.slot = l.slot event.warehouseId
  delta_eq : row.delta = -l.qtyOutbound
  refLine_eq : row.refLine = l.refLine
  eventId_eq : row.eventId = some event.id
  reason_eq : row.reason.text = "OUTBOUND_SHIP"
  ref_eq : row.ref.text = (event.sourceRef.map Varchar.text).getD "None"

theorem shipRow_of_values {event : WmsEvent} {l : OutboundEventLine} {after : ℤ}
    {row : LedgerRow} (h : (shipLedgerValues event l after).row = .ok row) :
    ShipRow event l row ∧ row.afterQty = after := by
  obtain ⟨hslot, hline, hdelta, hafter, -, hevent, hreason, href⟩ := LedgerValues.row_eq_ok h
  refine ⟨⟨hslot, hdelta, hline, hevent, ?_, ?_⟩, hafter⟩
  · have hstore : Varchar.store 32 "OUTBOUND_SHIP" = .ok row.reason := hreason
    rw [Varchar.store_of_fits (by decide)] at hstore
    rw [← Except.ok.inj hstore]
  · have hfits : ((event.sourceRef.map Varchar.text).getD "None").length ≤ 128 := by
      cases event.sourceRef with
      | none => decide
      | some ref => exact ref.fits
    have hstore : Varchar.store 128 ((event.sourceRef.map Varchar.text).getD "None") =
        .ok row.ref := href
    rw [Varchar.store_of_fits hfits] at hstore
    rw [← Except.ok.inj hstore]

variable {b b' : Books} {db db' : Database}

/-- A shipped line adds its ledger row and takes its quantity from the slot. -/
theorem shipLine_run_ok {knownEvents : List ℕ} {event : WmsEvent} {l : OutboundEventLine}
    {u : PUnit} (h : (shipLine knownEvents event l).run b = .ok (u, b')) :
    ∃ row, ShipRow event l row ∧ Moved b [row] b' := by
  unfold shipLine at h
  simp only [Tx.run_bind_ok] at h
  obtain ⟨qty?, _, hlock, qty, _, hdemand, _, _, henough, _, b₁, hinsert, hset⟩ := h
  obtain ⟨rfl, rfl⟩ := lockSlot_run_ok.mp hlock
  obtain ⟨hqty, rfl⟩ := Tx.run_demand_ok.mp hdemand
  obtain ⟨hnot, rfl⟩ := Tx.run_failIf_ok.mp henough
  obtain ⟨row, t, hrow, ht, -, rfl⟩ := insertLedger_run_ok.mp hinsert
  obtain ⟨hship, hafter⟩ := shipRow_of_values hrow
  have hmem : l.slot event.warehouseId ∈ (b.putLedger t).stocksLot :=
    AList.lookup_isSome.mp (by rw [show (b.putLedger t).stocksLot = b.stocksLot from rfl, hqty]; rfl)
  obtain ⟨-, rfl⟩ := (setSlotQty_run_ok hmem).mp hset
  have hstock : b.stock row.slot = qty := by
    rw [hship.slot_eq]
    exact Books.stock_of_lookup hqty
  refine ⟨row, hship, Moved.single rfl (Table.insert_eq_some.mp ht).2 ?_ ?_⟩
  · rw [hafter, hstock, hship.delta_eq]
    ring
  · rw [Books.putQty_stock, Books.putLedger_stock, hafter, hship.slot_eq]

/-- The loop over the saved lines adds their rows in order. -/
theorem shipLines_run_ok {knownEvents : List ℕ} {event : WmsEvent}
    {saved : List OutboundEventLine} {u : PUnit}
    (h : (forM saved (shipLine knownEvents event)).run b = .ok (u, b')) :
    ∃ rows, List.Forall₂ (ShipRow event) saved rows ∧ Moved b rows b' := by
  induction saved generalizing b with
  | nil =>
    have hb := Tx.run_forM_nil_ok.mp h
    rw [← hb]
    exact ⟨[], .nil, .nil rfl rfl rfl⟩
  | cons l saved ih =>
    obtain ⟨b₁, hline, hrest⟩ := Tx.run_forM_cons_ok.mp h
    obtain ⟨row, hship, hmoved⟩ := shipLine_run_ok hline
    obtain ⟨rows, hships, hmoved'⟩ := ih hrest
    exact ⟨row :: rows, .cons hship hships, hmoved.append hmoved'⟩

/-- The saved lines are the given lines, stored behind the lines of other events. -/
theorem insertOutboundLines_run_ok {eb eb' : EventBook} {eventId : ℕ}
    {f : OutboundLineValues → OutboundLineValues} {lines : List OutboundLineValues}
    {saved : List OutboundEventLine}
    (h : (lines.mapM' fun l => insertOutboundLine eventId (f l)).run eb = .ok (saved, eb')) :
    List.Forall₂ (fun l s => (f l).row eventId = .ok s) lines saved ∧
      eb'.outboundLines.rows = eb.outboundLines.rows ++ saved ∧ eb'.events = eb.events ∧
      eb'.inboundLines = eb.inboundLines := by
  induction lines generalizing eb saved with
  | nil =>
    obtain ⟨rfl, rfl⟩ := Tx.run_mapM_nil_ok.mp h
    exact ⟨.nil, by rw [List.append_nil], rfl, rfl⟩
  | cons l lines ih =>
    obtain ⟨s, eb₁, saved', hline, hrest, rfl⟩ := Tx.run_mapM_cons_ok.mp h
    obtain ⟨hrow, -, hrows, hevents, hinbound⟩ := insertOutboundLine_run_ok hline
    obtain ⟨hrows', hall, hevents', hinbound'⟩ := ih hrest
    refine ⟨.cons hrow hrows', ?_, hevents'.trans hevents, hinbound'.trans hinbound⟩
    rw [hall, hrows, List.append_assoc]
    rfl

/-- What a written shipment has done to the database. -/
structure Shipped (db : Database) (head : ShipmentHead) (lines : List OutboundLineValues)
    (event : WmsEvent) (saved : List OutboundEventLine) (rows : List LedgerRow)
    (db' : Database) : Prop where
  notFrozen : ¬db.Frozen head.warehouseId
  /-- The event is new. -/
  event_row : head.eventValues.row (nextId db.eventBook.ids) = .ok event
  events_eq : db'.eventBook.events.rows = db.eventBook.events.rows ++ [event]
  /-- Each line is saved as it was given, with the code of its lot. -/
  saved_rows : List.Forall₂ (fun l s => (l.withLotCode db.books).row event.id = .ok s) lines saved
  outboundLines_eq : db'.eventBook.outboundLines.rows = db.eventBook.outboundLines.rows ++ saved
  inboundLines_eq : db'.eventBook.inboundLines = db.eventBook.inboundLines
  /-- Each saved line is taken from stock by one ledger row. -/
  ship_rows : List.Forall₂ (ShipRow event) saved rows
  moved : Moved db.books rows db'.books
  /-- Nothing else has changed. -/
  frame : db' = (db.putEventBook db'.eventBook).putBooks db'.books

/-- A successful `_write_event_and_ledger` has written the shipment. -/
theorem writeEventAndLedger_run_ok {head : ShipmentHead} {lines : List OutboundLineValues}
    {event : WmsEvent} {saved : List OutboundEventLine}
    (h : (writeEventAndLedger head lines).run db = .ok ((event, saved), db')) :
    ∃ rows, Shipped db head lines event saved rows db' := by
  unfold writeEventAndLedger at h
  simp only [Tx.run_bind_ok, ensureWarehouseNotFrozen_run_ok, Tx.run_get_ok, onEvents_run_ok,
    onBooks_run_ok, Tx.run_pure_ok, Prod.mk.injEq] at h
  obtain ⟨_, _, ⟨hfrozen, rfl⟩, event', _, hevent, _, _, ⟨rfl, rfl⟩, saved', _,
    ⟨eb₂, hlines, rfl⟩, _, _, ⟨rfl, rfl⟩, _, _, ⟨b₃, hship, rfl⟩, ⟨rfl, rfl⟩, rfl⟩ := h
  obtain ⟨-, hrow, -, eb₁, hevents, houtbound, hinbound, rfl⟩ := recordEvent_run_ok hevent
  obtain ⟨hsaved, hall, hevents', hinbound'⟩ := insertOutboundLines_run_ok hlines
  obtain ⟨rows, hrows, hmoved⟩ := shipLines_run_ok hship
  have hbook : eb₂.events.rows = db.eventBook.events.rows ++ [event'] := by
    rw [hevents']
    exact hevents
  have hall' : eb₂.outboundLines.rows = db.eventBook.outboundLines.rows ++ saved' := by
    rw [hall, ← houtbound]
    rfl
  exact ⟨rows, hfrozen, hrow, hbook, hsaved, hall', hinbound'.trans hinbound, hrows, hmoved, rfl⟩

end Wms

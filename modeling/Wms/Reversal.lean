import Wms.Database
import Wms.Stock.AdjustLot

/-!
# Reversing an event

A committed inbound or outbound event is undone by a reversal event, which copies the
lines of the original, moves every line back, and marks the original as superseded. The
two services follow one pattern and differ in their tables, in the sign of the movement
and in some texts; the differences are collected in a `ReversalKind`.
-/

namespace Wms

open Foundation

/-- The event kind as the database stores it. -/
def EventKind.code : EventKind → String
  | commit => "COMMIT"
  | reversal => "REVERSAL"
  | correction => "CORRECTION"

/-- The event status as the database stores it. -/
def EventStatus.code : EventStatus → String
  | committed => "COMMITTED"
  | voided => "VOIDED"
  | superseded => "SUPERSEDED"

/-- What distinguishes the reversal of inbound events from that of outbound events. -/
structure ReversalKind (L : Type) where
  eventType : EventType
  /-- The prefix of the error texts. -/
  name : String
  /-- The lines of an event in the order of their numbers. -/
  linesOf : EventBook → ℕ → List L
  lineNo : L → ℕ
  itemId : L → ℕ
  lotId : L → Option ℕ
  qty : L → ℤ
  /-- The error text for a quantity that is not positive. -/
  invalidQty : String
  /-- The movement that undoes a quantity. -/
  undo : ℤ → ℤ
  subReason : String
  /-- Insert the copy of a line into the reversal event. -/
  copy : ℕ → L → Tx EventBook Err PUnit
  copy_keeps : ∀ eventId l eb u eb', (copy eventId l).run eb = .ok (u, eb') → eb'.events = eb.events
  linesOf_apart : ∀ eb id, (linesOf eb id).Pairwise fun a b => lineNo a ≠ lineNo b
  undo_ne_zero : ∀ q, q ≠ 0 → undo q ≠ 0

/-- The arguments of a reversal, with the number and the trace that it mints. -/
structure ReversalCall where
  eventId : ℕ
  occurredAt : ℤ
  remark : Option (Varchar 500)
  userId : Option ℕ
  eventNo : Varchar 64
  traceId : Varchar 64
  pms : PmsClient
  utcNow : ℤ

/-- The committed reversals of an event. -/
def EventBook.reversalsOf (eb : EventBook) (eventType : EventType) (eventId : ℕ) : List WmsEvent :=
  eb.events.rows.filter fun e =>
    e.eventType = eventType ∧ e.eventKind = .reversal ∧ e.targetEventId = some eventId ∧
      e.status = .committed

/-- `get_outbound_event_for_reversal` and `get_inbound_event_for_reversal`. -/
def getEventForReversal (eventType : EventType) (name : String) (eb : EventBook) (eventId : ℕ) :
    Except Err WmsEvent :=
  match eb.events.rows.find? fun e => e.id = eventId ∧ e.eventType = eventType with
  | none => .error (.httpException 404 s!"{name}_not_found:{eventId}")
  | some e =>
    if e.eventKind ≠ .commit then
      .error (.httpException 409 s!"{name}_not_reversible_kind:{e.eventKind.code}")
    else if e.status ≠ .committed then
      .error (.httpException 409 s!"{name}_not_reversible_status:{e.status.code}")
    else .ok e

/-- The values of the reversal event. -/
def reversalValues (original : WmsEvent) (call : ReversalCall) : EventValues where
  eventNo := call.eventNo.text
  eventType := original.eventType
  warehouseId := original.warehouseId
  sourceType := original.sourceType
  sourceRef := cleanText (original.sourceRef.map Varchar.text)
  occurredAt := call.occurredAt
  traceId := call.traceId.text
  eventKind := .reversal
  targetEventId := some original.id
  createdBy := call.userId
  remark := some ((cleanText (call.remark.map Varchar.text)).getD
    s!"reversal of {original.eventNo.text}")

section

variable {L : Type} (kind : ReversalKind L)

/-- The movement that undoes one line. -/
def ReversalKind.adjustCall (call : ReversalCall) (warehouseId eventId : ℕ) (l : L) : AdjustCall where
  itemId := kind.itemId l
  warehouseId := warehouseId
  lotId := kind.lotId l
  delta := kind.undo (kind.qty l)
  reason := "ADJUSTMENT"
  ref := call.eventNo.text
  refLine := some (kind.lineNo l)
  occurredAt := some call.occurredAt
  info := ⟨false, some kind.subReason, some eventId⟩
  lotCode := none
  productionDate := none
  expiryDate := none
  traceId := some call.traceId.text

/-- The checks of one line. -/
def ReversalKind.checkLine (l : L) : Except Err Unit :=
  if kind.lotId l = none then
    .error (.httpException 409 s!"{kind.name}_line_missing_lot:{kind.lineNo l}")
  else if kind.qty l ≤ 0 then
    .error (.httpException 409 s!"{kind.name}_line_{kind.invalidQty}:{kind.lineNo l}")
  else .ok ()

/-- Move one line back. -/
def ReversalKind.undoLine (call : ReversalCall) (knownEvents : List ℕ) (warehouseId eventId : ℕ)
    (l : L) : Tx Books Err PUnit := do
  let _ ← adjustLot ⟨call.pms, knownEvents, call.utcNow⟩ (kind.adjustCall call warehouseId eventId l)
  pure ⟨⟩

/-- Copy one line and move it back. -/
def ReversalKind.reverseLine (call : ReversalCall) (warehouseId eventId : ℕ) (l : L) :
    Trans PUnit := do
  Tx.ofExcept (kind.checkLine l)
  onEvents (kind.copy eventId l)
  let db ← get
  onBooks (kind.undoLine call db.eventBook.ids warehouseId eventId l)

/-- `reverse_outbound_event` and `reverse_inbound_event`. -/
def reverseEvent (call : ReversalCall) : Trans WmsEvent := do
  let db ← get
  match ((db.eventBook.reversalsOf kind.eventType call.eventId).map WmsEvent.id).max? with
  | some id => throw (.httpException 409 s!"{kind.name}_already_reversed:{id}")
  | none => do
    let original ← Tx.ofExcept
      (getEventForReversal kind.eventType kind.name db.eventBook call.eventId)
    Tx.failIf (kind.linesOf db.eventBook original.id = [])
      (.httpException 409 s!"{kind.name}_has_no_lines:{call.eventId}")
    ensureWarehouseNotFrozen original.warehouseId
    let event ← recordEvent (reversalValues original call)
    forM (kind.linesOf db.eventBook original.id)
      (kind.reverseLine call original.warehouseId event.id)
    modify fun db => db.putEventBook (db.eventBook.markSuperseded kind.eventType original.id)
    return event

end

/-- The copy of an outbound line. -/
def OutboundEventLine.copyValues (l : OutboundEventLine) : OutboundLineValues where
  refLine := l.refLine
  itemId := l.itemId
  qtyOutbound := l.qtyOutbound
  lotId := l.lotId
  lotCodeSnapshot := cleanText (l.lotCodeSnapshot.map Varchar.text)
  orderLineId := l.orderLineId
  manualDocLineId := l.manualDocLineId
  itemNameSnapshot := cleanText (l.itemNameSnapshot.map Varchar.text)
  itemSkuSnapshot := cleanText (l.itemSkuSnapshot.map Varchar.text)
  itemSpecSnapshot := cleanText (l.itemSpecSnapshot.map Varchar.text)
  remark := cleanText (l.remark.map Varchar.text)

/-- The copy of an inbound line. -/
def InboundEventLine.copyValues (l : InboundEventLine) : InboundLineValues where
  lineNo := l.lineNo
  itemId := l.itemId
  itemNameSnapshot := cleanText (l.itemNameSnapshot.map Varchar.text)
  itemSpecSnapshot := cleanText (l.itemSpecSnapshot.map Varchar.text)
  actualUomId := l.actualUomId
  actualUomNameSnapshot := cleanText (l.actualUomNameSnapshot.map Varchar.text)
  barcodeInput := cleanText (l.barcodeInput.map Varchar.text)
  actualQtyInput := l.actualQtyInput
  actualRatioToBaseSnapshot := l.actualRatioToBaseSnapshot
  qtyBase := l.qtyBase
  lotCodeInput := cleanText (l.lotCodeInput.map Varchar.text)
  productionDate := l.productionDate
  expiryDate := l.expiryDate
  lotId := l.lotId
  sourceLineId := l.sourceLineId
  remark := cleanText (l.remark.map Varchar.text)

/-- Insert the copy of an outbound line. -/
def copyOutboundLine (eventId : ℕ) (l : OutboundEventLine) : Tx EventBook Err PUnit := do
  let _ ← insertOutboundLine eventId l.copyValues
  pure ⟨⟩

/-- Insert the copy of an inbound line. -/
def copyInboundLine (eventId : ℕ) (l : InboundEventLine) : Tx EventBook Err PUnit := do
  let _ ← insertInboundLine eventId l.copyValues
  pure ⟨⟩

theorem copyOutboundLine_run_ok {eventId : ℕ} {l : OutboundEventLine} {eb eb' : EventBook}
    {u : PUnit} (h : (copyOutboundLine eventId l).run eb = .ok (u, eb')) :
    ∃ s, l.copyValues.row eventId = .ok s ∧
      eb'.outboundLines.rows = eb.outboundLines.rows ++ [s] ∧ eb'.events = eb.events ∧
      eb'.inboundLines = eb.inboundLines := by
  unfold copyOutboundLine at h
  simp only [Tx.run_bind_ok, Tx.run_pure_ok] at h
  obtain ⟨s, _, hinsert, -, rfl⟩ := h
  obtain ⟨hrow, -, hrows, hevents, hinbound⟩ := insertOutboundLine_run_ok hinsert
  exact ⟨s, hrow, hrows, hevents, hinbound⟩

theorem copyInboundLine_run_ok {eventId : ℕ} {l : InboundEventLine} {eb eb' : EventBook}
    {u : PUnit} (h : (copyInboundLine eventId l).run eb = .ok (u, eb')) :
    ∃ s, l.copyValues.row eventId = .ok s ∧
      eb'.inboundLines.rows = eb.inboundLines.rows ++ [s] ∧ eb'.events = eb.events ∧
      eb'.outboundLines = eb.outboundLines := by
  unfold copyInboundLine at h
  simp only [Tx.run_bind_ok, Tx.run_pure_ok] at h
  obtain ⟨s, _, hinsert, -, rfl⟩ := h
  obtain ⟨hrow, hrows, hevents, houtbound⟩ := insertInboundLine_run_ok hinsert
  exact ⟨s, hrow, hrows, hevents, houtbound⟩

/-- The reversal of outbound events. -/
def outboundReversal : ReversalKind OutboundEventLine where
  eventType := .outbound
  name := "outbound_event"
  linesOf := EventBook.outboundLinesOf
  lineNo := OutboundEventLine.refLine
  itemId := OutboundEventLine.itemId
  lotId l := some l.lotId
  qty := OutboundEventLine.qtyOutbound
  invalidQty := "invalid_qty"
  undo q := q
  subReason := "OUTBOUND_REVERSAL"
  copy := copyOutboundLine
  copy_keeps _ _ _ _ _ h := by
    obtain ⟨_, -, -, hevents, -⟩ := copyOutboundLine_run_ok h
    exact hevents
  linesOf_apart := EventBook.outboundLinesOf_apart
  undo_ne_zero _ h := h

/-- The reversal of inbound events. -/
def inboundReversal : ReversalKind InboundEventLine where
  eventType := .inbound
  name := "inbound_event"
  linesOf := EventBook.inboundLinesOf
  lineNo := InboundEventLine.lineNo
  itemId := InboundEventLine.itemId
  lotId := InboundEventLine.lotId
  qty := InboundEventLine.qtyBase
  invalidQty := "invalid_qty_base"
  undo q := -q
  subReason := "INBOUND_REVERSAL"
  copy := copyInboundLine
  copy_keeps _ _ _ _ _ h := by
    obtain ⟨_, -, -, hevents, -⟩ := copyInboundLine_run_ok h
    exact hevents
  linesOf_apart := EventBook.inboundLinesOf_apart
  undo_ne_zero _ h := neg_ne_zero.mpr h

/-- `reverse_outbound_event`. -/
def reverseOutboundEvent : ReversalCall → Trans WmsEvent := reverseEvent outboundReversal

/-- `reverse_inbound_event`. -/
def reverseInboundEvent : ReversalCall → Trans WmsEvent := reverseEvent inboundReversal

/-! ## What a reversal does -/

variable {db db' : Database} {L : Type} {kind : ReversalKind L} {call : ReversalCall}

/-- The loop over the lines is a loop over the event tables next to a loop over the
books. -/
theorem reverseLines_run_ok {w eventId : ℕ} {ls : List L} {u : PUnit}
    (h : (forM ls (kind.reverseLine call w eventId)).run db = .ok (u, db')) :
    (∀ l ∈ ls, kind.checkLine l = .ok ()) ∧
      (forM ls (kind.copy eventId)).run db.eventBook = .ok (⟨⟩, db'.eventBook) ∧
      (forM ls (kind.undoLine call db.eventBook.ids w eventId)).run db.books =
        .ok (⟨⟩, db'.books) ∧
      db'.eventBook.events = db.eventBook.events ∧
      db' = (db.putEventBook db'.eventBook).putBooks db'.books := by
  induction ls generalizing db with
  | nil =>
    have hdb := Tx.run_forM_nil_ok.mp h
    rw [← hdb]
    exact ⟨by simp, Tx.run_forM_nil_ok.mpr rfl, Tx.run_forM_nil_ok.mpr rfl, rfl, rfl⟩
  | cons l ls ih =>
    obtain ⟨db₁, hline, hrest⟩ := Tx.run_forM_cons_ok.mp h
    obtain ⟨hchecks, hcopies, hundos, hevents, hframe⟩ := ih hrest
    unfold ReversalKind.reverseLine at hline
    simp only [Tx.run_bind_ok, Tx.run_ofExcept_ok, onEvents_run_ok, Tx.run_get_ok,
      onBooks_run_ok] at hline
    obtain ⟨_, _, ⟨hcheck, rfl⟩, _, _, ⟨eb₁, hcopy, rfl⟩, _, _, ⟨rfl, rfl⟩, b₁, hundo, rfl⟩ := hline
    have hkeep : eb₁.events = db.eventBook.events := kind.copy_keeps _ _ _ _ _ hcopy
    have hids : (((db.putEventBook eb₁).putBooks b₁).eventBook).ids = db.eventBook.ids := by
      change eb₁.ids = _
      unfold EventBook.ids
      rw [hkeep]
    have hids' : (db.putEventBook eb₁).eventBook.ids = db.eventBook.ids := hids
    rw [hids] at hundos
    rw [hids'] at hundo
    refine ⟨?_, ?_, ?_, hevents.trans hkeep, hframe⟩
    · intro l' hl'
      rcases List.mem_cons.mp hl' with rfl | hmem
      · exact hcheck
      · exact hchecks l' hmem
    · exact Tx.run_forM_cons_ok.mpr ⟨eb₁, hcopy, hcopies⟩
    · exact Tx.run_forM_cons_ok.mpr ⟨b₁, hundo, hundos⟩

theorem getEventForReversal_eq_ok {eventType : EventType} {name : String} {eb : EventBook}
    {eventId : ℕ} {e : WmsEvent} (h : getEventForReversal eventType name eb eventId = .ok e) :
    e ∈ eb.events.rows ∧ e.id = eventId ∧ e.eventType = eventType ∧ e.eventKind = .commit ∧
      e.status = .committed := by
  unfold getEventForReversal at h
  split at h
  · cases h
  · rename_i e' hfind
    split at h
    · cases h
    · rename_i hkind
      split at h
      · cases h
      · rename_i hstatus
        cases h
        have hp := List.find?_some hfind
        simp only [decide_eq_true_eq] at hp
        exact ⟨List.mem_of_find?_eq_some hfind, hp.1, hp.2, not_not.mp hkind, not_not.mp hstatus⟩

/-- What a successful reversal has done. -/
structure Reversed (kind : ReversalKind L) (call : ReversalCall) (db : Database)
    (original event : WmsEvent) (db' : Database) : Prop where
  original_mem : original ∈ db.eventBook.events.rows
  original_id : original.id = call.eventId
  original_type : original.eventType = kind.eventType
  original_kind : original.eventKind = .commit
  original_status : original.status = .committed
  /-- It is the first reversal of the event. -/
  first : db.eventBook.reversalsOf kind.eventType call.eventId = []
  lines_ne : kind.linesOf db.eventBook original.id ≠ []
  checks : ∀ l ∈ kind.linesOf db.eventBook original.id, kind.checkLine l = .ok ()
  notFrozen : ¬db.Frozen original.warehouseId
  event_row : (reversalValues original call).row (nextId db.eventBook.ids) = .ok event
  books : ∃ eb₁ eb₂, eb₁.events.rows = db.eventBook.events.rows ++ [event] ∧
    eb₁.outboundLines = db.eventBook.outboundLines ∧
    eb₁.inboundLines = db.eventBook.inboundLines ∧
    (forM (kind.linesOf db.eventBook original.id) (kind.copy event.id)).run eb₁ = .ok (⟨⟩, eb₂) ∧
    eb₂.events = eb₁.events ∧
    db'.eventBook = eb₂.markSuperseded kind.eventType original.id ∧
    (forM (kind.linesOf db.eventBook original.id)
      (kind.undoLine call eb₁.ids original.warehouseId event.id)).run db.books =
        .ok (⟨⟩, db'.books)
  /-- Nothing else has changed. -/
  frame : db' = (db.putEventBook db'.eventBook).putBooks db'.books

theorem reverseEvent_run_ok {event : WmsEvent}
    (h : (reverseEvent kind call).run db = .ok (event, db')) :
    ∃ original, Reversed kind call db original event db' := by
  unfold reverseEvent at h
  simp only [Tx.run_bind_ok, Tx.run_get_ok] at h
  obtain ⟨_, _, ⟨rfl, rfl⟩, h⟩ := h
  split at h
  · exact (Tx.run_throw_ok.mp h).elim
  · rename_i hmax
    simp only [Tx.run_bind_ok, Tx.run_ofExcept_ok, Tx.run_failIf_ok,
      ensureWarehouseNotFrozen_run_ok, Tx.run_modify_ok, Tx.run_pure_ok] at h
    obtain ⟨original, _, ⟨hget, rfl⟩, _, _, ⟨hne, rfl⟩, _, _, ⟨hfrozen, rfl⟩, event', _, hevent, _,
      db₂, hloop, _, _, rfl, rfl, rfl⟩ := h
    obtain ⟨hmem, hid, htype, hkind, hstatus⟩ := getEventForReversal_eq_ok hget
    obtain ⟨-, hrow, -, eb₁, hevents, houtbound, hinbound, rfl⟩ := recordEvent_run_ok hevent
    obtain ⟨hchecks, hcopies, hundos, hkeep, hframe⟩ := reverseLines_run_ok hloop
    have hfirst : db.eventBook.reversalsOf kind.eventType call.eventId = [] := by
      rw [List.max?_eq_none_iff, List.map_eq_nil_iff] at hmax
      exact hmax
    refine ⟨original, hmem, hid, htype, hkind, hstatus, hfirst, hne, hchecks, hfrozen, hrow,
      ⟨eb₁, db₂.eventBook, hevents, houtbound, hinbound, hcopies, hkeep, rfl, hundos⟩, ?_⟩
    rw [hframe]
    rfl

/-- The key of a movement that undoes a line fits its columns. -/
theorem ReversalKind.adjustCall_verbatim (w eventId : ℕ) (l : L) :
    (kind.adjustCall call w eventId l).Verbatim := by
  have hreason : "ADJUSTMENT".length ≤ 32 := by decide
  have href : call.eventNo.text.length ≤ 128 := call.eventNo.fits.trans (by decide)
  exact AdjustCall.verbatim_of_fits hreason href

theorem ReversalKind.undoLine_bookedIn (knownEvents : List ℕ) (w eventId : ℕ) (l : L) :
    Tx.Follows (BookedIn w) (kind.undoLine call knownEvents w eventId l) := by
  have hadjust : Tx.Follows (BookedIn w) (adjustLot ⟨call.pms, knownEvents, call.utcNow⟩
      (kind.adjustCall call w eventId l)) :=
    fun b out b' h =>
      adjustLot_bookedIn ((kind.adjustCall_verbatim w eventId l).not_swallowed b) h
  exact hadjust.bind fun _ => Tx.follows_pure _

/-- A reversal books stock of the warehouse of the original event. -/
theorem Reversed.booked {original event : WmsEvent}
    (h : Reversed kind call db original event db') :
    BookedIn original.warehouseId db.books db'.books := by
  obtain ⟨eb₁, eb₂, -, -, -, -, -, -, hundo⟩ := h.books
  exact Tx.follows_forM _ (fun l _ => ReversalKind.undoLine_bookedIn eb₁.ids _ _ l) _ _ _ hundo

theorem ReversalKind.checkLine_eq_ok {l : L} (h : kind.checkLine l = .ok ()) :
    (∃ lotId, kind.lotId l = some lotId) ∧ 0 < kind.qty l := by
  unfold ReversalKind.checkLine at h
  split at h
  · cases h
  · rename_i hlot
    split at h
    · cases h
    · rename_i hqty
      exact ⟨Option.ne_none_iff_exists'.mp hlot, by omega⟩

/-- No ledger row has the reference. -/
def Books.RefFree (b : Books) (ref : String) : Prop := ∀ r ∈ b.stockLedger.rows, r.ref.text ≠ ref

/-- When the minted number is not yet a reference, a reversal moves every line of the
original back by one ledger row. -/
theorem Reversed.moved {original event : WmsEvent}
    (h : Reversed kind call db original event db') (hfree : db.books.RefFree call.eventNo.text) :
    ∃ rows, List.Forall₂ (fun l row => AdjustRow
        (kind.adjustCall call original.warehouseId event.id l) row)
      (kind.linesOf db.eventBook original.id) rows ∧ Moved db.books rows db'.books := by
  obtain ⟨eb₁, eb₂, -, -, -, -, -, -, hundo⟩ := h.books
  refine adjustLots_run_ok (fun l _ => kind.adjustCall_verbatim _ _ l) ?_ ?_ ?_ hundo
  · intro l hl
    have hpos := (ReversalKind.checkLine_eq_ok (h.checks l hl)).2
    exact kind.undo_ne_zero _ (by omega)
  · rintro l - lotId - ⟨r, hr, -, -, href, -⟩
    exact hfree r hr href
  · refine (kind.linesOf_apart db.eventBook original.id).imp ?_
    intro l l' hne heq
    exact hne (Int.ofNat_inj.mp heq).symm

/-- The slot of a line in a warehouse. -/
def ReversalKind.slot? (kind : ReversalKind L) (w : ℕ) (l : L) : Option SlotKey :=
  (kind.lotId l).map (SlotKey.mk w (kind.itemId l))

/-- The ledger rows of a reversal move a slot by what undoes the lines of the slot. -/
theorem ReversalKind.movement_adjustRows {w eventId : ℕ} {ls : List L} {rows : List LedgerRow}
    (h : List.Forall₂ (fun l row => AdjustRow (kind.adjustCall call w eventId l) row) ls rows)
    (k : SlotKey) :
    Journal.movement k (rows.map LedgerRow.posting) =
      ((ls.filter fun l => kind.slot? w l = some k).map fun l => kind.undo (kind.qty l)).sum := by
  induction h with
  | nil => rfl
  | @cons l row ls rows hrow _ ih =>
    obtain ⟨lotId, hlot, hslot⟩ := hrow.slot_eq
    have hkey : kind.slot? w l = some row.posting.key := by
      change (kind.lotId l).map _ = some row.slot
      rw [show kind.lotId l = some lotId from hlot, hslot]
      rfl
    have hdelta : row.posting.delta = kind.undo (kind.qty l) := hrow.delta_eq
    rw [List.map_cons, Journal.movement_cons, hdelta, ih, List.filter_cons, hkey]
    by_cases heq : row.posting.key = k <;> simp [heq]

end Wms

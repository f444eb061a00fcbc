import Wms.Outbound.Submit

/-!
# Accepted submissions

What a successful submission has checked and what it has written. The submitted lines,
the lines of the event and the ledger rows correspond to each other one by one.
-/

namespace Wms

open Foundation Foundation.Journal

variable {db db' : Database} {docType : SourceDocType} {source : ℕ → Option SourceLine}

/-! ## From the submitted lines to the event lines -/

/-- The event line records the submitted line. -/
structure Saves (docType : SourceDocType) (raw : SubmitLineIn) (s : OutboundEventLine) : Prop where
  itemId_eq : s.itemId = raw.itemId
  qty_eq : s.qtyOutbound = raw.qtyOutbound
  lotId_eq : s.lotId = raw.lotId
  orderLineId_eq : s.orderLineId = if docType = .orderOutbound then some raw.sourceLineId else none
  manualDocLineId_eq :
    s.manualDocLineId = if docType = .manualOutbound then some raw.sourceLineId else none

/-- The normalized line is the submitted line, checked against its source. -/
structure Normalizes (docType : SourceDocType) (source : ℕ → Option SourceLine)
    (raw : SubmitLineIn) (l : OutboundLineValues) : Prop where
  source_eq : ∃ src, source raw.sourceLineId = some src ∧ raw.itemId = src.itemId
  itemId_eq : l.itemId = raw.itemId
  qty_eq : l.qtyOutbound = raw.qtyOutbound
  lotId_eq : l.lotId = raw.lotId
  orderLineId_eq : l.orderLineId = if docType = .orderOutbound then some raw.sourceLineId else none
  manualDocLineId_eq :
    l.manualDocLineId = if docType = .manualOutbound then some raw.sourceLineId else none

theorem normalizeSubmitLine_eq_ok {refLine : ℕ} {raw : SubmitLineIn} {l : OutboundLineValues}
    (h : normalizeSubmitLine docType source refLine raw = .ok l) :
    Normalizes docType source raw l ∧ l.refLine = refLine := by
  unfold normalizeSubmitLine at h
  split at h
  · cases h
  · rename_i src hsrc
    split at h
    · cases h
    · rename_i hitem
      cases h
      exact ⟨⟨⟨src, hsrc, not_not.mp hitem⟩, rfl, rfl, rfl, rfl, rfl⟩, rfl⟩

/-- The loop keeps the lines one by one and numbers them. -/
theorem normalizeSubmitLinesFrom_eq_ok {refLine : ℕ} {raws : List SubmitLineIn}
    {lines : List OutboundLineValues}
    (h : normalizeSubmitLinesFrom docType source refLine raws = .ok lines) :
    List.Forall₂ (Normalizes docType source) raws lines ∧
      lines.map OutboundLineValues.refLine = List.range' refLine raws.length := by
  induction raws generalizing refLine lines with
  | nil =>
    cases h
    exact ⟨.nil, rfl⟩
  | cons raw raws ih =>
    simp only [normalizeSubmitLinesFrom, bind, Except.bind] at h
    split at h
    · cases h
    · rename_i l hl
      split at h
      · cases h
      · rename_i ls hls
        cases h
        obtain ⟨hnorm, href⟩ := normalizeSubmitLine_eq_ok hl
        obtain ⟨hall, hrefs⟩ := ih hls
        refine ⟨.cons hnorm hall, ?_⟩
        rw [List.map_cons, href, hrefs, List.length_cons, List.range'_succ]

theorem normalizeSubmitLines_eq_ok {raws : List SubmitLineIn} {lines : List OutboundLineValues}
    (h : normalizeSubmitLines docType source raws = .ok lines) :
    raws ≠ [] ∧ List.Forall₂ (Normalizes docType source) raws lines ∧
      lines.map OutboundLineValues.refLine = List.range' 1 raws.length := by
  unfold normalizeSubmitLines at h
  split at h
  · cases h
  · rename_i hne
    obtain ⟨hall, hrefs⟩ := normalizeSubmitLinesFrom_eq_ok h
    exact ⟨hne, hall, hrefs⟩

/-- A saved line has the identity of the normalized line it stores. -/
theorem saves_of_row {b : Books} {raw : SubmitLineIn} {l : OutboundLineValues} {eventId : ℕ}
    {s : OutboundEventLine} (hnorm : Normalizes docType source raw l)
    (hrow : (l.withLotCode b).row eventId = .ok s) : Saves docType raw s := by
  obtain ⟨-, -, hitem, hqty, hlot, horder, hmanual⟩ := OutboundLineValues.row_eq_ok hrow
  exact ⟨hitem.trans hnorm.itemId_eq, hqty.trans hnorm.qty_eq, hlot.trans hnorm.lotId_eq,
    horder.trans hnorm.orderLineId_eq, hmanual.trans hnorm.manualDocLineId_eq⟩

theorem saves_of_rows {b : Books} {raws : List SubmitLineIn} {lines : List OutboundLineValues}
    {eventId : ℕ} {saved : List OutboundEventLine}
    (hnorm : List.Forall₂ (Normalizes docType source) raws lines)
    (hrows : List.Forall₂ (fun l s => (OutboundLineValues.withLotCode b l).row eventId = .ok s)
      lines saved) : List.Forall₂ (Saves docType) raws saved := by
  induction hnorm generalizing saved with
  | nil =>
    cases hrows
    exact .nil
  | cons hline _ ih =>
    cases hrows with
    | cons hrow hrest => exact .cons (saves_of_row hline hrow) (ih hrest)

/-! ## Quantities -/

/-- The event lines of an order line ship what the submission asked for it. -/
theorem sum_saved_order {raws : List SubmitLineIn} {saved : List OutboundEventLine}
    (h : List.Forall₂ (Saves .orderOutbound) raws saved) (id : ℕ) :
    ((saved.filter fun s => s.orderLineId = some id).map OutboundEventLine.qtyOutbound).sum =
      submittedDelta raws id := by
  unfold submittedDelta
  induction h with
  | nil => rfl
  | @cons raw s raws saved hline _ ih =>
    have hid : s.orderLineId = some raw.sourceLineId := hline.orderLineId_eq
    by_cases heq : raw.sourceLineId = id
    · simp [hid, heq, ih, hline.qty_eq]
    · simp [hid, heq, ih]

/-- The event lines of a manual line ship what the submission asked for it. -/
theorem sum_saved_manual {raws : List SubmitLineIn} {saved : List OutboundEventLine}
    (h : List.Forall₂ (Saves .manualOutbound) raws saved) (id : ℕ) :
    ((saved.filter fun s => s.manualDocLineId = some id).map OutboundEventLine.qtyOutbound).sum =
      submittedDelta raws id := by
  unfold submittedDelta
  induction h with
  | nil => rfl
  | @cons raw s raws saved hline _ ih =>
    have hid : s.manualDocLineId = some raw.sourceLineId := hline.manualDocLineId_eq
    by_cases heq : raw.sourceLineId = id
    · simp [hid, heq, ih, hline.qty_eq]
    · simp [hid, heq, ih]

/-- The quantity that a submission takes from a slot. -/
def takenFrom (warehouseId : ℕ) (raws : List SubmitLineIn) (k : SlotKey) : ℤ :=
  ((raws.filter fun r => (⟨warehouseId, r.itemId, r.lotId⟩ : SlotKey) = k).map
    SubmitLineIn.qtyOutbound).sum

theorem sum_saved_slot {w : ℕ} {raws : List SubmitLineIn} {saved : List OutboundEventLine}
    (h : List.Forall₂ (Saves docType) raws saved) (k : SlotKey) :
    ((saved.filter fun s => s.slot w = k).map OutboundEventLine.qtyOutbound).sum =
      takenFrom w raws k := by
  unfold takenFrom
  induction h with
  | nil => rfl
  | @cons raw s raws saved hline _ ih =>
    have hslot : s.slot w = ⟨w, raw.itemId, raw.lotId⟩ := by
      unfold OutboundEventLine.slot
      rw [hline.itemId_eq, hline.lotId_eq]
    by_cases heq : (⟨w, raw.itemId, raw.lotId⟩ : SlotKey) = k
    · simp [hslot, heq, ih, hline.qty_eq]
    · simp [hslot, heq, ih]

/-- The rows of a shipment move a slot by the quantities of its lines. -/
theorem movement_shipRows {event : WmsEvent} {saved : List OutboundEventLine}
    {rows : List LedgerRow} (h : List.Forall₂ (ShipRow event) saved rows) (k : SlotKey) :
    movement k (rows.map LedgerRow.posting) =
      -((saved.filter fun s => s.slot event.warehouseId = k).map
        OutboundEventLine.qtyOutbound).sum := by
  induction h with
  | nil => rfl
  | @cons s row saved rows hrow _ ih =>
    have hkey : row.posting.key = s.slot event.warehouseId := hrow.slot_eq
    have hdelta : row.posting.delta = -s.qtyOutbound := hrow.delta_eq
    rw [List.map_cons, movement_cons, hkey, hdelta, ih]
    by_cases heq : s.slot event.warehouseId = k
    · simp [heq]
      ring
    · simp [heq]

/-- A submission asks a positive quantity for each line that it names. -/
theorem submittedDelta_pos {raws : List SubmitLineIn} {raw : SubmitLineIn} (h : raw ∈ raws) :
    0 < submittedDelta raws raw.sourceLineId := by
  unfold submittedDelta
  have hnonneg : ∀ q ∈ (raws.filter fun l => l.sourceLineId = raw.sourceLineId).map
      SubmitLineIn.qtyOutbound, 0 ≤ q := by
    intro q hq
    obtain ⟨l, -, rfl⟩ := List.mem_map.mp hq
    exact l.qty_pos.le
  have hmem : raw.qtyOutbound ∈ (raws.filter fun l => l.sourceLineId = raw.sourceLineId).map
      SubmitLineIn.qtyOutbound :=
    List.mem_map.mpr ⟨raw, List.mem_filter.mpr ⟨h, by simp⟩, rfl⟩
  exact lt_of_lt_of_le raw.qty_pos (List.single_le_sum hnonneg _ hmem)

/-- A line that a submission does not name is asked nothing for. -/
theorem submittedDelta_eq_zero {raws : List SubmitLineIn} {id : ℕ}
    (h : ∀ raw ∈ raws, raw.sourceLineId ≠ id) : submittedDelta raws id = 0 := by
  unfold submittedDelta
  have hnone : (raws.filter fun l => l.sourceLineId = id) = [] := by simpa using h
  rw [hnone]
  rfl

namespace Shipped

variable {head : ShipmentHead} {lines : List OutboundLineValues} {event : WmsEvent}
  {saved : List OutboundEventLine} {rows : List LedgerRow}

theorem event_warehouse (h : Shipped db head lines event saved rows db') :
    event.warehouseId = head.warehouseId :=
  (EventValues.row_eq_ok h.event_row).2.2.1

theorem event_id (h : Shipped db head lines event saved rows db') :
    event.id = nextId db.eventBook.ids :=
  (EventValues.row_eq_ok h.event_row).1

theorem event_status (h : Shipped db head lines event saved rows db') :
    event.status = .committed :=
  (EventValues.row_eq_ok h.event_row).2.2.2.2.2.1

/-- The saved lines belong to the event. -/
theorem saved_eventId (h : Shipped db head lines event saved rows db') :
    ∀ s ∈ saved, s.eventId = event.id := by
  intro s hs
  obtain ⟨n, hn, rfl⟩ := List.getElem_of_mem hs
  have hlen := h.saved_rows.length_eq
  have hrow := h.saved_rows.get (by omega) hn
  exact (OutboundLineValues.row_eq_ok hrow).1

/-- The stock after a shipment. -/
theorem stock_eq (h : Shipped db head lines event saved rows db') {raws : List SubmitLineIn}
    (hsaves : List.Forall₂ (Saves docType) raws saved) (k : SlotKey) :
    db'.books.stock k = db.books.stock k - takenFrom head.warehouseId raws k := by
  rw [h.moved.stock_eq k, movement_shipRows h.ship_rows k, h.event_warehouse,
    sum_saved_slot hsaves k]
  ring

/-- A shipment books stock of the warehouse of its head. -/
theorem bookedIn (h : Shipped db head lines event saved rows db') :
    BookedIn head.warehouseId db.books db'.books := by
  refine .of_moved h.moved ?_
  intro r hr
  obtain ⟨n, hn, rfl⟩ := List.getElem_of_mem hr
  have hlen := h.ship_rows.length_eq
  have hslot := (h.ship_rows.get (by omega) hn).slot_eq
  simp only [List.get_eq_getElem] at hslot
  rw [hslot, ← h.event_warehouse]
  rfl

end Shipped

/-! ## Accepted order submissions -/

theorem findOrder_eq_some {orderId : ℕ} {order : Order} (h : db.findOrder orderId = some order) :
    order ∈ db.orders.rows ∧ order.id = orderId :=
  ⟨List.mem_of_find?_eq_some h, by simpa using List.find?_some h⟩

theorem mem_orderLinesOf {orderId : ℕ} {l : OrderLine} :
    l ∈ db.orderLinesOf orderId ↔ l ∈ db.orderLines.rows ∧ l.orderId = orderId := by
  simp [Database.orderLinesOf]

/-- A line of an order is found by its identifier. -/
theorem find?_orderLinesOf {orderId : ℕ} {l : OrderLine} (h : l ∈ db.orderLinesOf orderId) :
    ((db.orderLinesOf orderId).find? fun a => a.id = l.id) = some l := by
  obtain ⟨hmem, horder⟩ := mem_orderLinesOf.mp h
  unfold Database.orderLinesOf
  rw [List.find?_filter]
  exact db.orderLines.find?_eq_some hmem (by simp [horder]) fun a ha => by
    simp only [decide_eq_true_eq] at ha
    exact ha.2

theorem orderProgress_eq {orderId : ℕ} {l : OrderLine} (h : l ∈ db.orderLinesOf orderId) :
    orderProgress db orderId l.id = (l.reqQty, db.eventBook.submittedQty l.id) := by
  unfold orderProgress
  rw [find?_orderLinesOf h]

/-- A submitted line is within what remains of its order line. -/
structure WithinRemaining (db : Database) (call : OrderSubmitCall) (raw : SubmitLineIn) :
    Prop where
  exists_line : ∃ l ∈ db.orderLinesOf call.orderId, l.id = raw.sourceLineId ∧
    l.itemId = raw.itemId ∧ db.eventBook.submittedQty l.id + raw.qtyOutbound ≤ l.reqQty

theorem checkOrderLine_eq_ok {order : Order} {call : OrderSubmitCall} {id : ℕ}
    {l : OutboundLineValues} (h : checkOrderLine db order call id l = .ok ()) :
    (orderProgress db call.orderId id).2 + l.qtyOutbound ≤ (orderProgress db call.orderId id).1 ∧
      ¬db.books.HasOrphan order.outboundRef l.refLine ⟨call.warehouseId, l.itemId, l.lotId⟩ := by
  unfold checkOrderLine at h
  simp only at h
  split at h
  · cases h
  · split at h
    · cases h
    · split at h
      · cases h
      · split at h
        · cases h
        · rename_i hover horphan
          exact ⟨by omega, horphan⟩

theorem checkOrderLines_eq_ok {order : Order} {call : OrderSubmitCall}
    {lines : List OutboundLineValues} (h : checkOrderLines db order call lines = .ok ()) :
    ∀ l ∈ lines, checkOrderLine db order call (l.orderLineId.getD 0) l = .ok () := by
  induction lines with
  | nil => simp
  | cons l rest ih =>
    simp only [checkOrderLines, bind, Except.bind] at h
    split at h
    · cases h
    · rename_i hl
      intro l' hl'
      rcases List.mem_cons.mp hl' with rfl | hmem
      · exact hl
      · exact ih h l' hmem

/-- What `prepareOrderSubmit` has established. -/
theorem prepareOrderSubmit_eq_ok {pms : PmsClient} {call : OrderSubmitCall} {order : Order}
    {lines : List OutboundLineValues}
    (h : prepareOrderSubmit pms db call = .ok (order, lines)) :
    db.findOrder call.orderId = some order ∧ call.lines ≠ [] ∧
      List.Forall₂ (Normalizes .orderOutbound (orderSource pms (db.orderLinesOf call.orderId)))
        call.lines lines ∧
      lines.map OutboundLineValues.refLine = List.range' 1 call.lines.length ∧
      ∀ l ∈ lines, checkOrderLine db order call (l.orderLineId.getD 0) l = .ok () := by
  unfold prepareOrderSubmit at h
  split at h
  · cases h
  · rename_i order' hfind
    split at h
    · cases h
    · simp only [bind, Except.bind] at h
      split at h
      · cases h
      · rename_i lines' hnorm
        split at h
        · cases h
        · rename_i hcheck
          cases h
          obtain ⟨hne, hall, hrefs⟩ := normalizeSubmitLines_eq_ok hnorm
          exact ⟨hfind, hne, hall, hrefs, checkOrderLines_eq_ok hcheck⟩

/-- Every line of an accepted submission is within what remains of its order line. -/
theorem withinRemaining_of_prepare {pms : PmsClient} {call : OrderSubmitCall} {order : Order}
    {lines : List OutboundLineValues}
    (h : prepareOrderSubmit pms db call = .ok (order, lines)) :
    ∀ raw ∈ call.lines, WithinRemaining db call raw := by
  obtain ⟨-, -, hall, -, hchecks⟩ := prepareOrderSubmit_eq_ok h
  intro raw hraw
  obtain ⟨n, hn, rfl⟩ := List.getElem_of_mem hraw
  have hlen := hall.length_eq
  have hn' : n < lines.length := by omega
  have hnorm := hall.get hn hn'
  obtain ⟨src, hsrc, hitem⟩ := hnorm.source_eq
  have hline : lines[n].orderLineId = some call.lines[n].sourceLineId :=
    hnorm.orderLineId_eq
  have hcheck := hchecks _ (List.getElem_mem hn')
  rw [hline, Option.getD_some] at hcheck
  obtain ⟨hrem, -⟩ := checkOrderLine_eq_ok hcheck
  simp only [orderSource, List.get_eq_getElem, Option.map_eq_some_iff] at hsrc
  obtain ⟨l, hfind, rfl⟩ := hsrc
  have hmem : l ∈ db.orderLinesOf call.orderId := List.mem_of_find?_eq_some hfind
  have hid : l.id = call.lines[n].sourceLineId := by simpa using List.find?_some hfind
  have hitem' : l.itemId = call.lines[n].itemId := by
    rw [OrderLine.source] at hitem
    split at hitem <;> exact hitem.symm
  refine ⟨l, hmem, hid, hitem', ?_⟩
  have hqty : lines[n].qtyOutbound = call.lines[n].qtyOutbound := hnorm.qty_eq
  rw [← hid, orderProgress_eq hmem, hqty] at hrem
  exact hrem

/-- What an accepted order submission has done. -/
structure OrderSubmitted (pms : PmsClient) (db : Database) (call : OrderSubmitCall)
    (event : WmsEvent) (saved : List OutboundEventLine) (db' : Database) : Prop where
  prepared : ∃ order lines rows db₁, prepareOrderSubmit pms db call = .ok (order, lines) ∧
    Shipped db (call.head order) lines event saved rows db₁ ∧
    db' = db₁.putExportRecords db'.exportRecords ∧
    (¬OrderCompletedAfterSubmit db call → db' = db₁) ∧
    (OrderCompletedAfterSubmit db call →
      (handOff .orderOutbound call.orderId order.sourceDocNo
        (order.handoffValues (db.warehouseNameSnapshot event.warehouseId) event saved)).run db₁ =
        .ok (⟨⟩, db'))
  saves : List.Forall₂ (Saves .orderOutbound) call.lines saved
  nonempty : call.lines ≠ []
  within : ∀ raw ∈ call.lines, WithinRemaining db call raw

theorem handOff_run_ok {docId : ℕ} {docNo : String} {v : HandoffValues} {u : PUnit}
    (h : (handOff docType docId docNo v).run db = .ok (u, db')) :
    db' = db.putExportRecords db'.exportRecords := by
  unfold handOff onExports at h
  simp only [Tx.run_bind_ok, Tx.run_zoom_ok] at h
  obtain ⟨_, _, ⟨t, -, rfl⟩, t', -, rfl⟩ := h
  rfl

/-- A hand-off leaves the document with one payload, made of the given values. -/
theorem handOff_payload {docId : ℕ} {docNo : String} {v : HandoffValues} {u : PUnit}
    (h : (handOff docType docId docNo v).run db = .ok (u, db')) :
    ∃ payload, v.row = .ok payload ∧
      (∃ r ∈ db'.exportRecords.rows, r.IsFor docType docId) ∧
      ∀ r ∈ db'.exportRecords.rows, r.IsFor docType docId → r.payload = some payload := by
  unfold handOff onExports at h
  simp only [Tx.run_bind_ok, Tx.run_zoom_ok] at h
  obtain ⟨_, _, ⟨t, hupsert, rfl⟩, t', hpayload, rfl⟩ := h
  obtain ⟨payload, hrow, hkeep, hall⟩ := upsertPayload_run_ok hpayload
  exact ⟨payload, hrow, hkeep (upsertPending_run_ok hupsert), hall⟩

theorem submitOrderOutboundEvent_run_ok {pms : PmsClient} {call : OrderSubmitCall}
    {event : WmsEvent} {saved : List OutboundEventLine}
    (h : (submitOrderOutboundEvent pms call).run db = .ok ((event, saved), db')) :
    OrderSubmitted pms db call event saved db' := by
  unfold submitOrderOutboundEvent at h
  simp only [Tx.run_bind_ok, Tx.run_get_ok, Tx.run_ofExcept_ok] at h
  obtain ⟨_, _, ⟨rfl, rfl⟩, ⟨order, lines⟩, _, ⟨hprep, rfl⟩, ⟨event', saved'⟩, db₁, hwrite,
    hrest⟩ := h
  obtain ⟨rows, hship⟩ := writeEventAndLedger_run_ok hwrite
  obtain ⟨-, hne, hall, -, -⟩ := prepareOrderSubmit_eq_ok hprep
  have hsaves := saves_of_rows hall hship.saved_rows
  simp only at hrest
  split at hrest
  · rename_i hdone
    simp only [Tx.run_bind_ok, Tx.run_pure_ok, Prod.mk.injEq] at hrest
    obtain ⟨_, _, hhand, ⟨rfl, rfl⟩, rfl⟩ := hrest
    exact ⟨⟨order, lines, rows, db₁, hprep, hship, handOff_run_ok hhand,
      fun hnot => absurd hdone hnot, fun _ => hhand⟩, hsaves, hne,
      withinRemaining_of_prepare hprep⟩
  · rename_i hnot
    simp only [Tx.run_pure_ok, Prod.mk.injEq] at hrest
    obtain ⟨⟨rfl, rfl⟩, rfl⟩ := hrest
    exact ⟨⟨order, lines, rows, db₁, hprep, hship, rfl, fun _ => rfl,
      fun hdone => absurd hdone hnot⟩, hsaves, hne, withinRemaining_of_prepare hprep⟩

/-! ## Accepted manual submissions -/

theorem findManualDoc_eq_some {docId : ℕ} {doc : ManualDoc}
    (h : db.findManualDoc docId = some doc) : doc ∈ db.manualDocs.rows ∧ doc.id = docId :=
  ⟨List.mem_of_find?_eq_some h, by simpa using List.find?_some h⟩

theorem mem_manualLinesOf {docId : ℕ} {l : ManualLine} :
    l ∈ db.manualLinesOf docId ↔ l ∈ db.manualLines.rows ∧ l.docId = docId := by
  unfold Database.manualLinesOf
  rw [List.mem_insertionSort]
  simp

/-- What `prepareManualSubmit` has established. -/
theorem prepareManualSubmit_eq_ok {call : ManualSubmitCall} {doc : ManualDoc}
    {lines : List OutboundLineValues} (h : prepareManualSubmit db call = .ok (doc, lines)) :
    db.findManualDoc call.docId = some doc ∧ doc.status = .released ∧
      db.manualLinesOf call.docId ≠ [] ∧ call.lines ≠ [] ∧
      List.Forall₂ (Normalizes .manualOutbound (manualSource (db.manualLinesOf call.docId)))
        call.lines lines ∧
      lines.map OutboundLineValues.refLine = List.range' 1 call.lines.length := by
  unfold prepareManualSubmit at h
  split at h
  · cases h
  · rename_i doc' hfind
    split at h
    · cases h
    · rename_i hstatus
      split at h
      · cases h
      · rename_i hlines
        simp only [bind, Except.bind] at h
        split at h
        · cases h
        · rename_i lines' hnorm
          cases h
          obtain ⟨hne, hall, hrefs⟩ := normalizeSubmitLines_eq_ok hnorm
          exact ⟨hfind, not_not.mp hstatus, hlines, hne, hall, hrefs⟩

theorem completeManualDoc_run_ok {docId : ℕ} {u : PUnit}
    (h : (completeManualDoc docId).run db = .ok (u, db')) : db' = db.completeDoc docId := by
  unfold completeManualDoc at h
  simp only [Tx.run_bind_ok, Tx.run_get_ok, Tx.run_failIf_ok, Tx.run_set_ok] at h
  obtain ⟨_, _, ⟨rfl, rfl⟩, _, _, ⟨-, rfl⟩, rfl⟩ := h
  rfl

/-- What an accepted manual submission has done. -/
structure ManualSubmitted (db : Database) (call : ManualSubmitCall) (event : WmsEvent)
    (saved : List OutboundEventLine) (db' : Database) : Prop where
  prepared : ∃ doc lines rows db₁, prepareManualSubmit db call = .ok (doc, lines) ∧
    Shipped db (call.head doc) lines event saved rows db₁ ∧
    (¬ManualCompleted db₁ call.docId → db' = db₁) ∧
    (ManualCompleted db₁ call.docId →
      db' = (db₁.completeDoc call.docId).putExportRecords db'.exportRecords ∧
      (handOff .manualOutbound call.docId doc.docNo
        (doc.handoffValues (db.warehouseNameSnapshot event.warehouseId) event saved)).run
        (db₁.completeDoc call.docId) = .ok (⟨⟩, db'))
  saves : List.Forall₂ (Saves .manualOutbound) call.lines saved
  nonempty : call.lines ≠ []

theorem submitManualOutboundEvent_run_ok {call : ManualSubmitCall} {event : WmsEvent}
    {saved : List OutboundEventLine}
    (h : (submitManualOutboundEvent call).run db = .ok ((event, saved), db')) :
    ManualSubmitted db call event saved db' := by
  unfold submitManualOutboundEvent at h
  simp only [Tx.run_bind_ok, Tx.run_get_ok, Tx.run_ofExcept_ok] at h
  obtain ⟨_, _, ⟨rfl, rfl⟩, ⟨doc, lines⟩, _, ⟨hprep, rfl⟩, ⟨event', saved'⟩, db₁, hwrite, _, _,
    ⟨rfl, rfl⟩, hrest⟩ := h
  obtain ⟨rows, hship⟩ := writeEventAndLedger_run_ok hwrite
  obtain ⟨-, -, -, hne, hall, -⟩ := prepareManualSubmit_eq_ok hprep
  have hsaves := saves_of_rows hall hship.saved_rows
  simp only at hrest
  split at hrest
  · rename_i hdone
    simp only [Tx.run_bind_ok, Tx.run_pure_ok, Prod.mk.injEq] at hrest
    obtain ⟨_, db₂, hcomplete, _, _, hhand, ⟨rfl, rfl⟩, rfl⟩ := hrest
    obtain rfl := completeManualDoc_run_ok hcomplete
    exact ⟨⟨doc, lines, rows, db₁, hprep, hship, fun hnot => absurd hdone hnot,
      fun _ => ⟨handOff_run_ok hhand, hhand⟩⟩, hsaves, hne⟩
  · rename_i hnot
    simp only [Tx.run_pure_ok, Prod.mk.injEq] at hrest
    obtain ⟨⟨rfl, rfl⟩, rfl⟩ := hrest
    exact ⟨⟨doc, lines, rows, db₁, hprep, hship, fun _ => rfl,
      fun hdone => absurd hdone hnot⟩, hsaves, hne⟩

end Wms

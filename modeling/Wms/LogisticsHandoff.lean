import Wms.OrderShipment

/-!
# What is handed to logistics

Whether an order is complete is decided over all its events, but the payload is built
from the lines of one submission. It carries the whole shipment of an order exactly when
the submission that completes the order is the first that ships anything of it.
-/

namespace Wms

open Foundation

/-- The payload of an order carries, for each line of the order, the quantity that
committed events have shipped of it. -/
def WholePayload (db : Database) (orderId : ℕ) : Prop :=
  ∃ r ∈ db.exportRecords.rows, r.IsFor .orderOutbound orderId ∧ ∃ p ∈ r.payload,
    ∀ l ∈ db.orderLinesOf orderId,
      (∃ i ∈ p.shipmentItems, i.sourceLineType = .orderLine ∧ i.sourceLineId = some l.id) ∧
      itemQty p.shipmentItems l.id =
        db.eventBook.committedQty OutboundEventLine.orderLineId l.id

instance (db : Database) (orderId : ℕ) : Decidable (WholePayload db orderId) :=
  inferInstanceAs (Decidable (∃ r ∈ db.exportRecords.rows, _ ∧ ∃ p ∈ r.payload, _))

/-- No event line ships a line of the order. -/
def Unshipped (db : Database) (orderId : ℕ) : Prop :=
  ∀ l ∈ db.orderLinesOf orderId, db.eventBook.submittedQty l.id = 0

/-- If the operation submits and completes an order, the payload stored after it carries
the whole shipment. -/
def Op.HandsOverWhole (op : Op) (db : Database) : Prop :=
  match op with
  | .submitOrder _ call =>
    OrderCompletedAfterSubmit db call → WholePayload (op.exec.attempt db) call.orderId
  | _ => True

/-- If the operation submits and completes an order, nothing of the order has been
shipped before. -/
def Op.ShipsAtOnce (op : Op) (db : Database) : Prop :=
  match op with
  | .submitOrder _ call => OrderCompletedAfterSubmit db call → Unshipped db call.orderId
  | _ => True

/-- Every line that has been shipped has been shipped by a committed event. -/
structure ShippedByCommitted (eb : EventBook) : Prop where
  typed : eb.Typed
  covered : ∀ l ∈ eb.outboundLines.rows, ∃ l' ∈ eb.committedLines, l'.orderLineId = l.orderLineId

variable {db db' : Database} {op : Op}

theorem shippedByCommitted_empty : ShippedByCommitted Database.empty.eventBook where
  typed _ hl := absurd hl List.not_mem_nil
  covered _ hl := absurd hl List.not_mem_nil

/-- New lines of committed events cover themselves. -/
theorem Appends.shippedByCommitted {eb eb' : EventBook} {ls : List OutboundEventLine}
    (h : Appends eb ls eb') (heb : ShippedByCommitted eb) : ShippedByCommitted eb' := by
  refine ⟨h.typed heb.typed, ?_⟩
  intro l hl
  obtain ⟨es, hevents⟩ := h.events_eq
  have hcommitted : ∀ l ∈ ls, eb'.Committed l.eventId := by
    intro l hl
    obtain ⟨e, he, hid, -, hstatus⟩ := h.lines_event l hl
    exact ⟨e, he, hid, hstatus⟩
  rw [EventBook.committedLines_append hevents h.lines_eq hcommitted]
  rw [h.lines_eq] at hl
  rcases List.mem_append.mp hl with hold | hnew
  · obtain ⟨l', hl', hline⟩ := heb.covered l hold
    exact ⟨l', List.mem_append_left _ hl', hline⟩
  · exact ⟨l, List.mem_append_right _ hnew, rfl⟩

/-- Where the lines of a superseded event are copied, the copies cover what it covered. -/
theorem Undoes.shippedByCommitted {eb eb' : EventBook} {original : WmsEvent}
    {ls : List OutboundEventLine} (h : Undoes original ls eb eb') (heb : ShippedByCommitted eb)
    (hcopies : ∀ l ∈ eb.outboundLines.rows, l.eventId = original.id →
      ∃ s ∈ ls, s.orderLineId = l.orderLineId) : ShippedByCommitted eb' := by
  refine ⟨h.typed heb.typed, ?_⟩
  intro l hl
  obtain ⟨eb₁, happends, hnew, rfl⟩ := h.steps
  obtain ⟨es, hevents⟩ := happends.events_eq
  have hmem : original ∈ eb₁.events.rows := by
    rw [hevents]
    exact List.mem_append_left _ h.mem
  have hid : original.id ∈ eb.ids := List.mem_map_of_mem h.mem
  -- a committed line of another event still is one
  have hkeep : ∀ s ∈ eb₁.committedLines, s.eventId ≠ original.id →
      s ∈ (eb₁.markSuperseded original.eventType original.id).committedLines := by
    intro s hs hne
    obtain ⟨hrow, hcommitted⟩ := List.mem_filter.mp hs
    refine List.mem_filter.mpr ⟨hrow, decide_eq_true ?_⟩
    rw [EventBook.committed_markSuperseded hmem h.kind]
    exact ⟨of_decide_eq_true hcommitted, hne⟩
  have hadded : ∀ s ∈ ls, s ∈ eb₁.committedLines := by
    intro s hs
    obtain ⟨e, he, heid, -, hstatus⟩ := happends.lines_event s hs
    refine List.mem_filter.mpr ⟨?_, decide_eq_true ⟨e, he, heid, hstatus⟩⟩
    rw [happends.lines_eq]
    exact List.mem_append_right _ hs
  have hl₁ : l ∈ eb₁.outboundLines.rows := hl
  obtain ⟨l', hl', hline⟩ := (happends.shippedByCommitted heb).covered l hl₁
  by_cases horiginal : l'.eventId = original.id
  · have hold : l' ∈ eb.outboundLines.rows := by
      have hrow := (List.mem_filter.mp hl').1
      rw [happends.lines_eq] at hrow
      rcases List.mem_append.mp hrow with hold | hcopy
      · exact hold
      · exact absurd hid (by rw [← horiginal]; exact hnew l' hcopy)
    obtain ⟨s, hs, hsline⟩ := hcopies l' hold horiginal
    refine ⟨s, hkeep s (hadded s hs) ?_, hsline.trans hline⟩
    intro heq
    exact hnew s hs (by rw [heq]; exact hid)
  · exact ⟨l', hkeep l' hl' horiginal, hline⟩

/-- Accepted operations keep every shipped line shipped by a committed event. -/
theorem Step.shippedByCommitted (h : Step db op db') (hdb : ShippedByCommitted db.eventBook) :
    ShippedByCommitted db'.eventBook := by
  rcases h.eventBook with ⟨ls, -, happends⟩ | ⟨call, original, event, rfl, hreversed⟩ |
    ⟨call, original, event, rfl, hreversed⟩
  · exact happends.shippedByCommitted hdb
  · obtain ⟨copies, hcopies, hundoes⟩ := hreversed.undoes_outbound
    refine hundoes.shippedByCommitted hdb ?_
    intro l hl heq
    have hmem : l ∈ db.eventBook.outboundLinesOf original.id := by
      unfold EventBook.outboundLinesOf
      rw [List.mem_insertionSort]
      exact List.mem_filter.mpr ⟨hl, decide_eq_true heq⟩
    obtain ⟨n, hn, rfl⟩ := List.getElem_of_mem hmem
    have hlen := hcopies.length_eq
    have hn' : n < copies.length := by omega
    exact ⟨copies[n], List.getElem_mem hn', (hcopies.get hn hn').orderLineId_eq⟩
  · refine hreversed.undoes_inbound.shippedByCommitted hdb ?_
    intro l hl heq
    obtain ⟨e, he, hid, htype⟩ := hdb.typed l hl
    have hsame := EventBook.eq_of_id_eq he hreversed.original_mem (hid.trans heq)
    rw [hsame, hreversed.original_type] at htype
    cases htype

/-- Once a line has been shipped, committed events have shipped some of it. -/
theorem ShippedByCommitted.submittedQty_eq_zero {eb : EventBook} (h : ShippedByCommitted eb)
    {id : ℕ} (hzero : eb.committedQty OutboundEventLine.orderLineId id = 0) :
    eb.submittedQty id = 0 := by
  refine lineQty_eq_zero ?_
  intro l hl hline
  obtain ⟨l', hl', hline'⟩ := h.covered l hl
  have hmem : l'.qtyOutbound ∈ (eb.committedLines.filter fun s => s.orderLineId = some id).map
      OutboundEventLine.qtyOutbound :=
    List.mem_map_of_mem (List.mem_filter.mpr ⟨hl', by simp [hline', hline]⟩)
  have hnonneg : ∀ q ∈ (eb.committedLines.filter fun s => s.orderLineId = some id).map
      OutboundEventLine.qtyOutbound, 0 ≤ q := by
    intro q hq
    obtain ⟨s, -, rfl⟩ := List.mem_map.mp hq
    exact s.qty_pos.le
  have hle := List.single_le_sum hnonneg _ hmem
  have hpos := l'.qty_pos
  have hsum : ((eb.committedLines.filter fun s => s.orderLineId = some id).map
      OutboundEventLine.qtyOutbound).sum = 0 := hzero
  omega

/-- A completing submission stores a payload with the items of its own lines. -/
theorem OrderSubmitted.payload {pms : PmsClient} {call : OrderSubmitCall} {event : WmsEvent}
    {saved : List OutboundEventLine} (h : OrderSubmitted pms db call event saved db')
    (hdone : OrderCompletedAfterSubmit db call) :
    ∃ payload, payload.shipmentItems = buildShipmentItems saved ∧
      (∃ r ∈ db'.exportRecords.rows, r.IsFor .orderOutbound call.orderId) ∧
      ∀ r ∈ db'.exportRecords.rows, r.IsFor .orderOutbound call.orderId →
        r.payload = some payload := by
  obtain ⟨order, lines, rows, db₁, -, -, -, -, hhand⟩ := h.prepared
  obtain ⟨payload, hrow, hexists, hall⟩ := handOff_payload (hhand hdone)
  exact ⟨payload, (HandoffValues.row_eq_ok hrow).1, hexists, hall⟩

/-- A completing submission hands over the whole shipment exactly when nothing of the
order has been shipped before. -/
theorem OrderSubmitted.wholePayload_iff {pms : PmsClient} {call : OrderSubmitCall}
    {event : WmsEvent} {saved : List OutboundEventLine}
    (h : OrderSubmitted pms db call event saved db') (hdone : OrderCompletedAfterSubmit db call)
    (hdb : ShippedByCommitted db.eventBook) :
    WholePayload db' call.orderId ↔ Unshipped db call.orderId := by
  obtain ⟨payload, hitems, ⟨r, hr, hfor⟩, hall⟩ := h.payload hdone
  have hlines : db'.orderLinesOf call.orderId = db.orderLinesOf call.orderId := by
    unfold Database.orderLinesOf
    rw [h.frame.1.orderLines_eq]
  have hcommitted : ∀ id, db'.eventBook.committedQty OutboundEventLine.orderLineId id =
      db.eventBook.committedQty OutboundEventLine.orderLineId id + submittedDelta call.lines id := by
    intro id
    rw [h.appends.committedQty, lineQty_saved_order h.saves]
  have hcarried : ∀ id, itemQty payload.shipmentItems id = submittedDelta call.lines id := by
    intro id
    rw [hitems, itemQty_buildShipmentItems]
    exact sum_saved_order h.saves id
  constructor
  · rintro ⟨r', hr', hfor', p, hp, hwhole⟩ l hl
    have hpayload := hall r' hr' hfor'
    rw [hpayload] at hp
    obtain rfl := Option.some.inj hp
    have hqty := (hwhole l (by rw [hlines]; exact hl)).2
    rw [hcarried, hcommitted] at hqty
    exact hdb.submittedQty_eq_zero (by omega)
  · intro hunshipped
    refine ⟨r, hr, hfor, payload, hall r hr hfor, ?_⟩
    intro l hl
    rw [hlines] at hl
    have hzero := hunshipped l hl
    have hle := db.eventBook.committedQty_le OutboundEventLine.orderLineId l.id
    rw [← submittedQty_eq, hzero] at hle
    have hnonneg : 0 ≤ db.eventBook.committedQty OutboundEventLine.orderLineId l.id :=
      lineQty_nonneg
    refine ⟨?_, ?_⟩
    · -- the line is asked for, so one of the saved lines ships it
      obtain ⟨hpos, hreached⟩ := hdone.2 l hl
      have hnamed : ∃ raw ∈ call.lines, raw.sourceLineId = l.id := by
        by_contra hnone
        push Not at hnone
        rw [hzero, submittedDelta_eq_zero hnone] at hreached
        omega
      obtain ⟨raw, hraw, hid⟩ := hnamed
      obtain ⟨n, hn, rfl⟩ := List.getElem_of_mem hraw
      have hlen := h.saves.length_eq
      have hn' : n < saved.length := by omega
      have hline := (h.saves.get hn hn').orderLineId_eq
      simp only [List.get_eq_getElem, if_true] at hline
      refine ⟨ShipmentItem.ofLine saved[n], ?_, (ShipmentItem.ofLine_isOf _ _).mpr ?_⟩
      · rw [hitems]
        exact List.mem_map_of_mem (List.getElem_mem hn')
      · rw [hline, hid]
    · rw [hcarried, hcommitted]
      omega

/-- On every run from empty tables, every submission that completes an order hands over
the whole shipment exactly when each of them is the first to ship anything of its
order. -/
theorem handsOverWhole_iff (ops : List Op) :
    Tx.AllAccepted Op.exec (fun op db => op.HandsOverWhole db) ops Database.empty ↔
      Tx.AllAccepted Op.exec (fun op db => op.ShipsAtOnce db) ops Database.empty := by
  refine Tx.allAccepted_congr (I := fun db : Database => ShippedByCommitted db.eventBook)
    (fun _ _ _ _ hdb hrun => (Op.step_of_exec hrun).shippedByCommitted hdb) ?_
    shippedByCommitted_empty
  intro op db u db' hdb hrun
  have hattempt := Tx.attempt_of_run hrun
  have hstep := Op.step_of_exec hrun
  cases hstep with
  | @submitOrder pms call event saved _ hsub =>
    change (OrderCompletedAfterSubmit db call →
        WholePayload ((Op.submitOrder pms call).exec.attempt db) call.orderId) ↔
      (OrderCompletedAfterSubmit db call → Unshipped db call.orderId)
    rw [hattempt]
    exact forall_congr' fun hdone => hsub.wholePayload_iff hdone hdb
  | _ => exact Iff.rfl

/-- A run in which the first of two lines of an order is shipped. -/
def firstLineShipped : List Op :=
  stocked ++ [.importOrder appleOrder [appleLine 1 5, appleLine 2 5],
    .submitOrder plainPms (shipApples "T1" [fiveApples 1])]

/-- The submission of the second line. -/
def shipSecondLine : OrderSubmitCall := shipApples "T2" [fiveApples 2]

/-- The submission of the second line completes the order, but its payload lacks the
first line. -/
theorem not_handsOverWhole_shipSecondLine :
    ¬Tx.AllAccepted Op.exec (fun op db => op.HandsOverWhole db)
      (firstLineShipped ++ [.submitOrder plainPms shipSecondLine]) Database.empty := by
  intro h
  have hlast := (Tx.allAccepted_append.mp h).2.1
  have haccepted : ((Op.submitOrder plainPms shipSecondLine).exec.run
      (Database.after firstLineShipped)).toBool = true := by decide +kernel
  have hdone : OrderCompletedAfterSubmit (Database.after firstLineShipped) shipSecondLine := by
    decide +kernel
  have hnot : ¬WholePayload ((Op.submitOrder plainPms shipSecondLine).exec.attempt
      (Database.after firstLineShipped)) 1 := by decide +kernel
  exact hnot (hlast (Tx.exists_run_of_toBool haccepted) hdone)

end Wms

import Wms.OrderShipment

/-!
# A shipment and its reversal

Reversing an event brings the stock back to what it was before the event. It does not
bring back the progress of the order: the reversal event has lines of its own, which
name the order lines, and the progress query adds them to the lines of the original.
-/

namespace Wms

open Foundation Foundation.Journal

/-- Stock and progress of the order are as they were. -/
structure RoundTrip (db : Database) (orderId : ℕ) (db' : Database) : Prop where
  stock_eq : ∀ k, db'.books.stock k = db.books.stock k
  progress_eq : ∀ l ∈ db.orderLinesOf orderId,
    orderProgress db' orderId l.id = orderProgress db orderId l.id

variable {db db₁ db₂ : Database} {pms : PmsClient} {call : OrderSubmitCall}
  {reversal : ReversalCall} {event reversed original : WmsEvent} {saved : List OutboundEventLine}

/-- A submission creates one event, to which its lines belong. -/
theorem OrderSubmitted.event_new (h : OrderSubmitted pms db call event saved db₁) :
    event.id = nextId db.eventBook.ids ∧ event.warehouseId = call.warehouseId ∧
      db₁.eventBook.events.rows = db.eventBook.events.rows ++ [event] ∧
      ∀ s ∈ saved, s.eventId = event.id := by
  obtain ⟨order, lines, rows, dbs, -, hship, hframe, -⟩ := h.prepared
  have hbook : db₁.eventBook = dbs.eventBook := by rw [hframe]; rfl
  exact ⟨hship.event_id, hship.event_warehouse, by rw [hbook, hship.events_eq], hship.saved_eventId⟩

/-- The lines of the new event are the saved lines. -/
theorem OrderSubmitted.outboundLinesOf (h : OrderSubmitted pms db call event saved db₁) :
    (db₁.eventBook.outboundLinesOf event.id).Perm saved := by
  obtain ⟨hid, -, -, hsaved⟩ := h.event_new
  have hold : db.eventBook.outboundLines.rows.filter (fun l => l.eventId = event.id) = [] := by
    refine EventBook.outboundLinesOf_eq_nil ?_
    rw [hid]
    exact nextId_notMem _
  have hall : saved.filter (fun l => l.eventId = event.id) = saved := by
    rw [List.filter_eq_self]
    intro s hs
    exact decide_eq_true (hsaved s hs)
  unfold EventBook.outboundLinesOf
  rw [h.appends.lines_eq, List.filter_append, hold, hall, List.nil_append]
  exact List.perm_insertionSort _ _

/-- The original of a reversal of the new event is the new event. -/
theorem OrderSubmitted.original_eq (h : OrderSubmitted pms db call event saved db₁)
    (hreversed : Reversed outboundReversal reversal db₁ original reversed db₂)
    (htarget : reversal.eventId = event.id) : original = event := by
  have hmem : event ∈ db₁.eventBook.events.rows := by
    rw [h.event_new.2.2.1]
    simp
  exact EventBook.eq_of_id_eq hreversed.original_mem hmem (hreversed.original_id.trans htarget)

/-- After a submission and its reversal the progress of an order line has grown by twice
the submitted quantity. -/
theorem submittedQty_after_reversal (h : OrderSubmitted pms db call event saved db₁)
    (hreversed : Reversed outboundReversal reversal db₁ original reversed db₂)
    (htarget : reversal.eventId = event.id) (id : ℕ) :
    db₂.eventBook.submittedQty id =
      db.eventBook.submittedQty id + 2 * submittedDelta call.lines id := by
  obtain ⟨copies, hcopies, hundoes⟩ := hreversed.undoes_outbound
  rw [h.original_eq hreversed htarget] at hcopies
  have hcopied : lineQty OutboundEventLine.orderLineId copies id = submittedDelta call.lines id := by
    rw [lineQty_copies hcopies fun _ _ hcopy => hcopy.orderLineId_eq,
      lineQty_perm h.outboundLinesOf, lineQty_saved_order h.saves]
  rw [submittedQty_eq, submittedQty_eq, hundoes.lines_eq, lineQty_append, h.appends.lines_eq,
    lineQty_append, lineQty_saved_order h.saves, hcopied]
  ring

/-- After a submission and its reversal the stock is what it was, if the number of the
reversal was not yet a reference in the ledger. -/
theorem stock_after_reversal (h : OrderSubmitted pms db call event saved db₁)
    (hreversed : Reversed outboundReversal reversal db₁ original reversed db₂)
    (htarget : reversal.eventId = event.id) (hfree : db₁.books.RefFree reversal.eventNo.text)
    (k : SlotKey) : db₂.books.stock k = db.books.stock k := by
  obtain ⟨rows, hrows, hmoved⟩ := hreversed.moved hfree
  rw [h.original_eq hreversed htarget] at hrows
  have hback := ReversalKind.movement_adjustRows hrows k
  have hperm := (((h.outboundLinesOf.filter fun l => l.slot event.warehouseId = k).map
    OutboundEventLine.qtyOutbound)).sum_eq
  obtain ⟨order, lines, shipRows, dbs, -, hship, hframe, -⟩ := h.prepared
  have hbooks : db₁.books = dbs.books := by rw [hframe]; rfl
  have htaken := hship.stock_eq h.saves k
  have hsum := sum_saved_slot (w := event.warehouseId) h.saves k
  have hwarehouse : (call.head order).warehouseId = event.warehouseId := hship.event_warehouse.symm
  rw [hwarehouse] at htaken
  change movement k (rows.map LedgerRow.posting) = (((db₁.eventBook.outboundLinesOf event.id).filter
    fun l => some (l.slot event.warehouseId) = some k).map OutboundEventLine.qtyOutbound).sum at hback
  simp only [Option.some.injEq] at hback
  rw [hmoved.stock_eq k, hback, hperm, hsum, hbooks, htaken]
  ring

/-- Neither a submission nor a reversal changes the lines of orders. -/
theorem orderLinesOf_after_reversal (h : OrderSubmitted pms db call event saved db₁)
    (hreversed : Reversed outboundReversal reversal db₁ original reversed db₂) (orderId : ℕ) :
    db₂.orderLinesOf orderId = db.orderLinesOf orderId := by
  have hlines : db₂.orderLines = db.orderLines := by
    rw [hreversed.frame, ← h.frame.1.orderLines_eq]
    rfl
  unfold Database.orderLinesOf
  rw [hlines]

/-- No submission followed by the reversal of its event is a round trip. -/
theorem not_roundTrip {u : WmsEvent × List OutboundEventLine} {w : WmsEvent}
    (hsubmit : (submitOrderOutboundEvent pms call).run db = .ok (u, db₁))
    (hreverse : (reverseOutboundEvent reversal).run db₁ = .ok (w, db₂))
    (htarget : reversal.eventId = u.1.id) : ¬RoundTrip db call.orderId db₂ := by
  intro hround
  obtain ⟨event, saved⟩ := u
  have h := submitOrderOutboundEvent_run_ok hsubmit
  obtain ⟨original, hreversed⟩ := reverseEvent_run_ok hreverse
  obtain ⟨raw, hraw⟩ := List.exists_mem_of_ne_nil _ h.nonempty
  obtain ⟨l, hl, hid, -⟩ := (h.within raw hraw).exists_line
  have hl' : l ∈ db₂.orderLinesOf call.orderId := by
    rwa [orderLinesOf_after_reversal h hreversed]
  have hsame := hround.progress_eq l hl
  rw [orderProgress_eq hl, orderProgress_eq hl', Prod.mk.injEq] at hsame
  -- the line that was shipped has gone out twice
  have htwice := submittedQty_after_reversal h hreversed htarget l.id
  have hpos := submittedDelta_pos hraw
  rw [← hid] at hpos
  omega

/-- The state with an order of ten pieces. -/
def tenOrdered : Database := Database.after (stocked ++ [.importOrder appleOrder [appleLine 1 10]])

/-- Four pieces of the order. -/
def fourApples : OrderSubmitCall := shipApples "T1" [takeApples 1 4 (by decide)]

/-- The reversal of the event with an identifier. -/
def reverseShipment (eventId : ℕ) : ReversalCall where
  eventId := eventId
  occurredAt := 0
  remark := none
  userId := none
  eventNo := ⟨"OR-1", by decide⟩
  traceId := ⟨"OUT-REV-1", by decide⟩
  pms := plainPms
  utcNow := 0

/-- Ship four pieces and reverse the event. -/
def shipAndReverse : Trans WmsEvent := do
  let u ← submitOrderOutboundEvent plainPms fourApples
  reverseOutboundEvent (reverseShipment u.1.id)

theorem shipAndReverse_run_ok : ∃ u db₁ w,
    (submitOrderOutboundEvent plainPms fourApples).run tenOrdered = .ok (u, db₁) ∧
      (reverseOutboundEvent (reverseShipment u.1.id)).run db₁ =
        .ok (w, shipAndReverse.attempt tenOrdered) := by
  obtain ⟨w, db₂, hrun⟩ := Tx.exists_run_of_toBool (x := shipAndReverse) (s := tenOrdered)
    (by decide +kernel)
  have hstate := Tx.attempt_of_run hrun
  rw [← hstate] at hrun
  obtain ⟨u, db₁, hsubmit, hreverse⟩ := Tx.run_bind_ok.mp hrun
  exact ⟨u, db₁, w, hsubmit, hreverse⟩

theorem not_roundTrip_fourApples :
    ¬RoundTrip tenOrdered fourApples.orderId (shipAndReverse.attempt tenOrdered) := by
  obtain ⟨u, db₁, w, hsubmit, hreverse⟩ := shipAndReverse_run_ok
  exact not_roundTrip hsubmit hreverse rfl

/-- Ten pieces were asked for. After the reversal eight of them count as shipped. -/
theorem not_forall_roundTrip : ¬∀ (ops : List Op) (pms : PmsClient) (call : OrderSubmitCall)
    (reversal : ReversalCall) (u : WmsEvent × List OutboundEventLine) (w : WmsEvent)
    (db₁ db₂ : Database),
    (submitOrderOutboundEvent pms call).run (Database.after ops) = .ok (u, db₁) →
      (reverseOutboundEvent reversal).run db₁ = .ok (w, db₂) → reversal.eventId = u.1.id →
        RoundTrip (Database.after ops) call.orderId db₂ := by
  intro h
  obtain ⟨u, db₁, w, hsubmit, hreverse⟩ := shipAndReverse_run_ok
  have hround := h _ _ _ _ u w db₁ _ hsubmit hreverse rfl
  have hsame := hround.progress_eq (appleLine 1 10) (by decide +kernel)
  exact absurd hsame (by decide +kernel)

end Wms

import Wms.Orders.Counters
import Wms.Inbound.Progress
import Wms.ShipmentRoundTrip

/-!
# What the reconciliation of an order reports

`reconcile_order` is meant to hold an order against the facts: what it asked for, what was
shipped and what came back. It reports what went out under the reference of the order,
reversed or not, and what was received under its released receipts, and the status of the
order follows the totals over its items.
-/

namespace Wms

open Foundation

/-! ## The facts -/

/-- The ledger row belongs to the reversal of an event with the reference. -/
def EventBook.Undoes (eb : EventBook) (ref : String) (r : LedgerRow) : Prop :=
  ∃ e ∈ eb.events.rows, r.eventId = some e.id ∧ e.eventKind = .reversal ∧
    ∃ o ∈ eb.events.rows, e.targetEventId = some o.id ∧ o.sourceRef.map Varchar.text = some ref

instance (eb : EventBook) (ref : String) : DecidablePred (eb.Undoes ref) := fun _ =>
  inferInstanceAs (Decidable (∃ e ∈ _, _ ∧ _ ∧ ∃ o ∈ _, _))

/-- What reversals have brought back of an item that went out under a reference. -/
def Database.reversedOf (db : Database) (ref : String) (itemId : ℕ) : ℤ :=
  ((db.books.stockLedger.rows.filter fun r => db.eventBook.Undoes ref r ∧
    r.slot.itemId = itemId).map LedgerRow.delta).sum

/-- What was shipped of an item and not brought back. -/
def Database.keptShipped (db : Database) (order : Order) (itemId : ℕ) : ℤ :=
  db.books.shippedOf order.outboundRef itemId - db.reversedOf order.outboundRef itemId

/-- What may be refunded of an item: the smaller of ordered and shipped. -/
def OrderTables.refundableOf (t : OrderTables) (order : Order) (itemId : ℕ) : ℤ :=
  min (t.orderedOf order.id itemId) (t.db.keptShipped order itemId)

/-- Replace the database. -/
def OrderTables.putDatabase (t : OrderTables) (db : Database) : OrderTables := { t with db := db }

/-- No fact of the second list leaves more to refund than the fact of the same item in the
first. -/
def RefundsShrink (facts facts' : List OrderLineFact) : Prop :=
  ∀ f ∈ facts, ∀ f' ∈ facts', f'.itemId = f.itemId → f'.remainingRefundable ≤ f.remainingRefundable

/-- The reconciliation is true to the facts: reversals are subtracted, every receipt of the
order counts whatever its status, and the status of the order looks at each item. -/
structure OrderTables.TrueToFacts (t : OrderTables) (order : Order) : Prop where
  reported : ∀ facts, reconcileOrder t order.id = .ok facts → ∀ f ∈ facts,
    f.qtyOrdered = t.orderedOf order.id f.itemId ∧
      f.qtyShipped = t.db.keptShipped order f.itemId ∧
      f.qtyReturned = t.db.returnedTotal order.id f.itemId
  refundable : ∀ call event db', (submitInboundOperation call).run t.db = .ok (event, db') →
    ∀ facts facts', reconcileOrder t order.id = .ok facts →
      reconcileOrder (t.putDatabase db') order.id = .ok facts' → RefundsShrink facts facts'
  counters : ∀ u t', (applyCounters order.id).run t = .ok (u, t') → ∀ i,
    t.itemRows order.id i ≠ [] →
      ((t'.itemRows order.id i).map OrderItem.shippedQty).sum = t.db.keptShipped order i ∧
      ((t'.itemRows order.id i).map OrderItem.returnedQty).sum = t.db.returnedTotal order.id i
  status : ∀ u t' facts, (applyCounters order.id).run t = .ok (u, t') →
    reconcileOrder t order.id = .ok facts → (t.orderStatus order.id).getD "" ≠ "CANCELED" →
      0 < (facts.map fun f => t.db.returnedTotal order.id f.itemId).sum →
        ((∀ f ∈ facts, t.refundableOf order f.itemId ≤ t.db.returnedTotal order.id f.itemId) →
          t'.orderStatus order.id = some "RETURNED") ∧
        ((∃ f ∈ facts, t.db.returnedTotal order.id f.itemId < t.refundableOf order f.itemId) →
          t'.orderStatus order.id = some "PARTIALLY_RETURNED")

/-- What the reconciliation does: it reports what went out under the reference of the
order and what was received under its released receipts, and the status of the order
compares the totals. Of an item with several rows it says nothing here. -/
structure OrderTables.Reconciles (t : OrderTables) (order : Order) : Prop where
  reported : ∃ facts, reconcileOrder t order.id = .ok facts ∧
    (facts.map OrderLineFact.itemId).Nodup ∧
    (∀ i, i ∈ facts.map OrderLineFact.itemId ↔ t.itemRows order.id i ≠ []) ∧
    ∀ f ∈ facts, ((t.itemRows order.id f.itemId).length = 1 →
        f.qtyOrdered = t.orderedOf order.id f.itemId) ∧
      f.qtyShipped = t.db.books.shippedOf order.outboundRef f.itemId ∧
      f.qtyReturned = t.db.returnedOf order.id f.itemId
  refundable : ∀ call event db', (submitInboundOperation call).run t.db = .ok (event, db') →
    (∃ r, db'.findReceipt call.receiptNo = some r ∧ r.status = .released) →
      ∀ facts facts', reconcileOrder t order.id = .ok facts →
        reconcileOrder (t.putDatabase db') order.id = .ok facts' → RefundsShrink facts facts'
  counters : ∀ u t', (applyCounters order.id).run t = .ok (u, t') → ∀ i,
    (t.itemRows order.id i).length = 1 →
      ((t'.itemRows order.id i).map OrderItem.shippedQty).sum =
        t.db.books.shippedOf order.outboundRef i ∧
      ((t'.itemRows order.id i).map OrderItem.returnedQty).sum = t.db.returnedOf order.id i
  status : ∀ u t' facts, (applyCounters order.id).run t = .ok (u, t') →
    reconcileOrder t order.id = .ok facts → (t.orderStatus order.id).getD "" ≠ "CANCELED" →
      0 < (facts.map OrderLineFact.qtyReturned).sum →
      0 < (facts.map fun f => min f.qtyOrdered f.qtyShipped).sum →
        t'.orderStatus order.id = some
          (if (facts.map fun f => min f.qtyOrdered f.qtyShipped).sum ≤
              (facts.map OrderLineFact.qtyReturned).sum then "RETURNED"
            else "PARTIALLY_RETURNED")

variable {t t' : OrderTables} {order : Order} {orderId : ℕ} {facts facts' : List OrderLineFact}

/-! ## What is loaded -/

/-- Every loaded item has one entry, which is one of its rows. -/
theorem loadItems_spec (t : OrderTables) (orderId : ℕ) :
    ((t.loadItems orderId).map Prod.fst).Nodup ∧
      ∀ p ∈ t.loadItems orderId, p.2 ∈ t.itemRows orderId p.1 := by
  suffices hfold : ∀ (rows : List OrderItem) (out : List (ℕ × OrderItem)),
      (∀ oi ∈ rows, oi ∈ t.itemRows orderId oi.itemId) → (out.map Prod.fst).Nodup →
      (∀ p ∈ out, p.2 ∈ t.itemRows orderId p.1) →
        ((rows.foldl (fun out oi => Dict.adjust oi.itemId (fun _ => oi) out) out).map
          Prod.fst).Nodup ∧
        ∀ p ∈ rows.foldl (fun out oi => Dict.adjust oi.itemId (fun _ => oi) out) out,
          p.2 ∈ t.itemRows orderId p.1 by
    apply hfold _ [] _ List.nodup_nil (by simp)
    intro oi hoi
    have hmem := List.mem_filter.mp hoi
    exact mem_itemRows.mpr ⟨hmem.1, by simpa using hmem.2, rfl⟩
  intro rows
  induction rows with
  | nil => exact fun out _ hnodup hout => ⟨hnodup, hout⟩
  | cons oi rows ih =>
    intro out hrows hnodup hout
    obtain ⟨hoi, hrest⟩ := List.forall_mem_cons.mp hrows
    refine ih _ hrest (Dict.nodup_adjust _ _ hnodup) ?_
    intro p hp
    have hlookup := Dict.lookup_of_mem (Dict.nodup_adjust oi.itemId (fun _ => oi) hnodup) hp
    rw [Dict.lookup_adjust] at hlookup
    split at hlookup
    · rename_i hkey
      rw [← Option.some.inj hlookup, hkey]
      exact hoi
    · exact hout p (Dict.mem_of_lookup hlookup)

/-- The facts of a stored order. -/
theorem reconcileOrder_eq (hfind : t.db.findOrder order.id = some order) :
    reconcileOrder t order.id = .ok ((t.loadItems order.id).map (t.fact order)) := by
  unfold reconcileOrder
  rw [hfind]

theorem itemIds_facts (t : OrderTables) (order : Order) :
    ((t.loadItems order.id).map (t.fact order)).map OrderLineFact.itemId =
      (t.loadItems order.id).map Prod.fst := by
  rw [List.map_map]
  rfl

/-- The reported items are those that the order has rows of. -/
theorem mem_itemIds (i : ℕ) :
    i ∈ (t.loadItems orderId).map Prod.fst ↔ t.itemRows orderId i ≠ [] := by
  constructor
  · intro hi
    obtain ⟨p, hp, rfl⟩ := List.mem_map.mp hi
    exact List.ne_nil_of_mem ((loadItems_spec t orderId).2 p hp)
  · intro hne
    obtain ⟨oi, hoi⟩ := List.exists_mem_of_ne_nil _ hne
    obtain ⟨hmem, ho, rfl⟩ := mem_itemRows.mp hoi
    exact mem_loadItems hmem ho

/-- The entry of an item with one row is that row. -/
theorem qty_eq_orderedOf {p : ℕ × OrderItem} (hp : p ∈ t.loadItems orderId)
    (hone : (t.itemRows orderId p.1).length = 1) : p.2.qty.getD 0 = t.orderedOf orderId p.1 := by
  obtain ⟨oi, hoi⟩ := List.length_eq_one_iff.mp hone
  have hmem := (loadItems_spec t orderId).2 p hp
  rw [hoi, List.mem_singleton] at hmem
  rw [OrderTables.orderedOf, hoi, hmem]
  simp

/-! ## What is written -/

theorem applyCounters_eq {u : PUnit} (hfacts : reconcileOrder t orderId = .ok facts)
    (h : (applyCounters orderId).run t = .ok (u, t')) :
    t' = (facts.foldl (OrderTables.setCounters orderId) t).setStatus orderId (returnStatus facts) := by
  unfold applyCounters at h
  simp only [Tx.run_bind_ok, Tx.run_get_ok, Tx.run_ofExcept_ok, Tx.run_set_ok] at h
  obtain ⟨_, _, ⟨rfl, rfl⟩, facts', _, ⟨hfacts', rfl⟩, rfl⟩ := h
  obtain rfl := Except.ok.inj (hfacts.symm.trans hfacts')
  rfl

/-- The updates of the counters neither add nor remove rows of an item, and leave the
status alone. -/
theorem foldl_setCounters_frame (orderId : ℕ) (facts : List OrderLineFact) (t : OrderTables) :
    (facts.foldl (OrderTables.setCounters orderId) t).orderStatus = t.orderStatus ∧
      ∀ o i, ((facts.foldl (OrderTables.setCounters orderId) t).itemRows o i).length =
        (t.itemRows o i).length := by
  induction facts generalizing t with
  | nil => exact ⟨rfl, fun _ _ => rfl⟩
  | cons f facts ih =>
    obtain ⟨hstatus, hlength⟩ := ih (t.setCounters orderId f)
    refine ⟨hstatus, fun o i => (hlength o i).trans ?_⟩
    unfold OrderTables.itemRows
    change ((t.orderItems.rows.map (OrderItem.setCounters orderId f)).filter _).length = _
    rw [List.filter_map, List.length_map]
    congr 1
    apply List.filter_congr
    intro oi _
    obtain ⟨-, ho, -, hi⟩ := oi.setCounters_keeps orderId f
    rw [Function.comp_apply, ho, hi]

/-- After `apply_counters` the one row of an item carries what was shipped and what was
returned of it. -/
theorem counters_of_applyCounters {u : PUnit} (hfind : t.db.findOrder order.id = some order)
    (h : (applyCounters order.id).run t = .ok (u, t')) {i : ℕ}
    (hone : (t.itemRows order.id i).length = 1) :
    ((t'.itemRows order.id i).map OrderItem.shippedQty).sum =
        t.db.books.shippedOf order.outboundRef i ∧
      ((t'.itemRows order.id i).map OrderItem.returnedQty).sum = t.db.returnedOf order.id i := by
  have hrows : (t'.itemRows order.id i).length = 1 := by
    rw [applyCounters_eq (reconcileOrder_eq hfind) h]
    unfold OrderTables.itemRows
    rw [(OrderTables.setStatus_keeps _ _ _).2]
    exact ((foldl_setCounters_frame order.id _ t).2 order.id i).trans hone
  obtain ⟨oi, hoi⟩ := List.length_eq_one_iff.mp hrows
  have hmem : oi ∈ t'.itemRows order.id i := by
    rw [hoi]
    exact List.mem_singleton_self oi
  obtain ⟨hstored, ho, rfl⟩ := mem_itemRows.mp hmem
  obtain ⟨order', hfind', hdb, hfresh⟩ := applyCounters_run_ok h
  obtain rfl := Option.some.inj (hfind'.symm.trans hfind)
  obtain ⟨hshipped, hreturned⟩ := hfresh oi hstored ho
  rw [hdb] at hshipped hreturned
  rw [hoi, ← hshipped, ← hreturned]
  simp

/-- The status that `apply_counters` sets follows the totals. -/
theorem status_of_applyCounters {u : PUnit} (hfacts : reconcileOrder t orderId = .ok facts)
    (h : (applyCounters orderId).run t = .ok (u, t'))
    (hopen : (t.orderStatus orderId).getD "" ≠ "CANCELED")
    (hreturned : 0 < (facts.map OrderLineFact.qtyReturned).sum)
    (hrefundable : 0 < (facts.map fun f => min f.qtyOrdered f.qtyShipped).sum) :
    t'.orderStatus orderId = some
      (if (facts.map fun f => min f.qtyOrdered f.qtyShipped).sum ≤
          (facts.map OrderLineFact.qtyReturned).sum then "RETURNED" else "PARTIALLY_RETURNED") := by
  have hstatus : returnStatus facts = some
      (if (facts.map fun f => min f.qtyOrdered f.qtyShipped).sum ≤
          (facts.map OrderLineFact.qtyReturned).sum then "RETURNED" else "PARTIALLY_RETURNED") := by
    unfold returnStatus
    rw [if_neg (by omega), if_neg (by omega)]
    split
    · rw [if_neg (by omega)]
    · rw [if_pos (by omega)]
  have hkeep := (foldl_setCounters_frame orderId facts t).1
  rw [applyCounters_eq hfacts h, hstatus, OrderTables.setStatus, if_neg (by rw [hkeep]; exact hopen)]
  exact Function.update_self _ _ _

/-! ## Receiving more -/

/-- Rows that put stock in ship nothing. -/
theorem shippedOf_of_received {b b' : Books}
    (h : ∃ rows, b'.stockLedger.rows = b.stockLedger.rows ++ rows ∧ ∀ r ∈ rows, 0 < r.delta)
    (ref : String) (i : ℕ) : b'.shippedOf ref i = b.shippedOf ref i := by
  obtain ⟨rows, hrows, hpos⟩ := h
  have hnone : rows.filter (fun r => r.ref.text = ref ∧ r.delta < 0 ∧ r.slot.itemId = i) = [] := by
    rw [List.filter_eq_nil_iff]
    intro r hr hmatch
    have hneg : r.delta < 0 := (of_decide_eq_true hmatch).2.1
    have hr' := hpos r hr
    omega
  unfold Books.shippedOf
  rw [hrows, List.filter_append, hnone, List.append_nil]

/-- Operations that follow others add to what was received. -/
theorem receivedOf_append_le (ops : List InboundOperation) (o : InboundOperation) (no : String)
    (i : ℕ) : receivedOf ops no i ≤ receivedOf (ops ++ [o]) no i := by
  change (((deliveriesOf ops no).filter _).map _).sum ≤ (((deliveriesOf (ops ++ [o]) no).filter _).map _).sum
  rw [deliveriesOf_append, List.filter_append, List.map_append, List.sum_append]
  refine le_add_of_nonneg_right (List.sum_nonneg fun q hq => ?_)
  obtain ⟨l, -, rfl⟩ := List.mem_map.mp hq
  exact l.qtyBase_pos.le

/-- An operation that leaves its receipt released leaves all receipts and orders as they
are. -/
theorem receipts_of_released {call : OperationCall} {event : WmsEvent} {db db' : Database}
    (h : (submitInboundOperation call).run db = .ok (event, db'))
    (hreleased : ∃ r, db'.findReceipt call.receiptNo = some r ∧ r.status = .released) :
    db'.receipts = db.receipts ∧ db'.orders = db.orders ∧
      (∃ o, db'.operations = db.operations ++ [o]) ∧
      ∃ rows, db'.books.stockLedger.rows = db.books.stockLedger.rows ++ rows ∧
        ∀ r ∈ rows, 0 < r.delta := by
  obtain ⟨receipt, operatorName, st, db₁, hfind, hstatus, -, hsame, rfl⟩ :=
    submitInboundOperation_progress h
  refine ⟨?_, hsame.orders_eq, ⟨_, by rw [← hsame.operations_eq]; rfl⟩, hsame.ledger_grows⟩
  rw [← hsame.receipts_eq]
  unfold Database.closeOperation
  by_cases hfull : receipt.lines ≠ [] ∧ ∀ l ∈ receipt.lines, l.plannedQtyBase ≤ st.received l.lineNo
  · -- a receipt that was completed is not released
    exfalso
    obtain ⟨r, hr, hopen⟩ := hreleased
    unfold Database.findReceipt Database.closeOperation at hr
    simp only [if_pos hfull, Table.rows_map, List.find?_map, Option.map_eq_some_iff] at hr
    obtain ⟨r₀, hr₀, rfl⟩ := hr
    have hsameRow : r₀ = receipt := by
      rw [Database.findReceipt, ← hsame.receipts_eq] at hfind
      have hkey : (fun r : InboundReceipt => decide (r.receiptNo.text = call.receiptNo)) ∘
          InboundReceipt.complete receipt.id =
          fun r => decide (r.receiptNo.text = call.receiptNo) := by
        funext r
        rw [Function.comp_apply, (r.complete_keeps receipt.id).2]
      rw [hkey, hfind] at hr₀
      exact (Option.some.inj hr₀).symm
    rw [hsameRow, InboundReceipt.complete, if_pos ⟨rfl, hstatus⟩] at hopen
    cases hopen
  · rw [if_neg hfull]

/-- An operation that leaves its receipt released adds to what is returned of an item, and
ships nothing. -/
theorem facts_after_receiving {call : OperationCall} {event : WmsEvent} {db' : Database}
    (h : (submitInboundOperation call).run t.db = .ok (event, db'))
    (hreleased : ∃ r, db'.findReceipt call.receiptNo = some r ∧ r.status = .released)
    (order : Order) (i : ℕ) :
    db'.books.shippedOf order.outboundRef i = t.db.books.shippedOf order.outboundRef i ∧
      t.db.returnedOf order.id i ≤ db'.returnedOf order.id i := by
  obtain ⟨hreceipts, -, ⟨o, hoperations⟩, hledger⟩ := receipts_of_released h hreleased
  refine ⟨shippedOf_of_received hledger _ i, ?_⟩
  unfold Database.returnedOf
  rw [hreceipts, hoperations]
  apply List.sum_le_sum
  intro r _
  exact receivedOf_append_le t.db.operations o _ i

/-- Receiving that leaves the receipt released never increases what remains refundable. -/
theorem refundsShrink_of_released {call : OperationCall} {event : WmsEvent} {db' : Database}
    (hfind : t.db.findOrder order.id = some order)
    (h : (submitInboundOperation call).run t.db = .ok (event, db'))
    (hreleased : ∃ r, db'.findReceipt call.receiptNo = some r ∧ r.status = .released)
    (hfacts : reconcileOrder t order.id = .ok facts)
    (hfacts' : reconcileOrder (t.putDatabase db') order.id = .ok facts') :
    RefundsShrink facts facts' := by
  have hfind' : (t.putDatabase db').db.findOrder order.id = some order := by
    rw [← hfind]
    unfold Database.findOrder
    exact congrArg (fun orders : Table Order _ => orders.rows.find? fun o => o.id = order.id)
      (receipts_of_released h hreleased).2.1
  rw [reconcileOrder_eq hfind] at hfacts
  rw [reconcileOrder_eq hfind'] at hfacts'
  obtain rfl := Except.ok.inj hfacts
  obtain rfl := Except.ok.inj hfacts'
  intro f hf f' hf' hitem
  obtain ⟨p, hp, rfl⟩ := List.mem_map.mp hf
  obtain ⟨p', hp', rfl⟩ := List.mem_map.mp hf'
  obtain rfl : p' = p := List.inj_on_of_nodup_map (loadItems_spec t order.id).1 hp' hp hitem
  obtain ⟨hshipped, hreturned⟩ := facts_after_receiving h hreleased order p'.1
  change max (min (p'.2.qty.getD 0) (db'.books.shippedOf order.outboundRef p'.1) -
      db'.returnedOf order.id p'.1) 0 ≤
    max (min (p'.2.qty.getD 0) (t.db.books.shippedOf order.outboundRef p'.1) -
      t.db.returnedOf order.id p'.1) 0
  rw [hshipped]
  omega

/-- In every state the reconciliation of a stored order does what it is described to do. -/
theorem reconciles (t : OrderTables) (order : Order) (hfind : t.db.findOrder order.id = some order) :
    t.Reconciles order where
  reported := by
    refine ⟨_, reconcileOrder_eq hfind, ?_, ?_, ?_⟩
    · rw [itemIds_facts]
      exact (loadItems_spec t order.id).1
    · intro i
      rw [itemIds_facts]
      exact mem_itemIds i
    · intro f hf
      obtain ⟨p, hp, rfl⟩ := List.mem_map.mp hf
      exact ⟨fun hone => qty_eq_orderedOf hp hone, rfl, rfl⟩
  refundable _ _ _ hsubmit hreleased _ _ hfacts hfacts' :=
    refundsShrink_of_released hfind hsubmit hreleased hfacts hfacts'
  counters _ _ happly _ hone := counters_of_applyCounters hfind happly hone
  status _ _ _ happly hfacts hopen hreturned hrefundable :=
    status_of_applyCounters hfacts happly hopen hreturned hrefundable

/-! ## A reversed shipment -/

/-- Five pieces of an order of ten are shipped, and the shipment is reversed. -/
def shippedAndReversed : OrderTables where
  db := Database.after (stocked ++ [.importOrder appleOrder [appleLine 1 10],
    .submitOrder plainPms (shipApples "T1" [fiveApples 1]), .reverseOutbound (reverseShipment 2)])
  orderItems := ⟨[⟨7, 1, 1, none, none, some 10, 0, 0⟩], List.pairwise_singleton _ _⟩
  orderStatus _ := none

theorem findOrder_shippedAndReversed :
    shippedAndReversed.db.findOrder appleOrder.id = some appleOrder := by decide +kernel

theorem reconciles_shippedAndReversed : shippedAndReversed.Reconciles appleOrder :=
  reconciles shippedAndReversed appleOrder findOrder_shippedAndReversed

/-- A reconciliation that is true to the facts subtracts what was reversed. -/
theorem OrderTables.TrueToFacts.shippedOf_eq (h : t.TrueToFacts order)
    (hfind : t.db.findOrder order.id = some order) {i : ℕ}
    (hi : i ∈ (t.loadItems order.id).map Prod.fst) :
    t.db.books.shippedOf order.outboundRef i = t.db.keptShipped order i := by
  obtain ⟨p, hp, rfl⟩ := List.mem_map.mp hi
  exact (h.reported _ (reconcileOrder_eq hfind) (t.fact order p) (List.mem_map_of_mem hp)).2.1

/-- The five pieces are back, and are still reported as shipped. -/
theorem not_trueToFacts_shippedAndReversed :
    ¬∀ (t : OrderTables) (order : Order), t.db.findOrder order.id = some order →
      t.TrueToFacts order := by
  intro h
  have htrue : shippedAndReversed.TrueToFacts appleOrder :=
    h shippedAndReversed appleOrder findOrder_shippedAndReversed
  have hitem : 1 ∈ (shippedAndReversed.loadItems appleOrder.id).map Prod.fst := by
    decide +kernel
  have hshipped := htrue.shippedOf_eq findOrder_shippedAndReversed hitem
  exact absurd hshipped (by decide +kernel)

end Wms

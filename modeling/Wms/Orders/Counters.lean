import Wms.Foundation.Dict
import Wms.Outbound.Submit

/-!
# The counters of an order

`order_items` says what an order asks for, and carries two counters for each row: what
has been shipped and what has been returned of its item. `apply_counters` writes them
from the ledger and from the receiving operations, and moves the status of the order.
-/

namespace Wms

open Foundation

/-- `OrderItem`: a row of `order_items`. -/
structure OrderItem where
  id : ℕ
  orderId : ℕ
  itemId : ℕ
  skuId : Option (Varchar 128)
  title : Option (Varchar 255)
  qty : Option ℤ
  shippedQty : ℤ
  returnedQty : ℤ
  deriving DecidableEq

/-- The primary key and `uq_order_items_ord_sku`. -/
def OrderItem.Conflict (a b : OrderItem) : Prop :=
  a.id = b.id ∨ (a.orderId = b.orderId ∧ a.skuId = b.skuId ∧ a.skuId ≠ none)

instance : DecidableRel OrderItem.Conflict := fun _ _ =>
  inferInstanceAs (Decidable (_ ∨ _ ∧ _ ∧ _))

/-- The database with what the order services keep of an order besides its head. -/
structure OrderTables where
  db : Database
  orderItems : Table OrderItem OrderItem.Conflict
  /-- `orders.status`. -/
  orderStatus : ℕ → Option String

/-! ## What is read -/

/-- The rows of an item of an order. -/
def OrderTables.itemRows (t : OrderTables) (orderId itemId : ℕ) : List OrderItem :=
  t.orderItems.rows.filter fun oi => oi.orderId = orderId ∧ oi.itemId = itemId

/-- What the rows of an item ask for together. -/
def OrderTables.orderedOf (t : OrderTables) (orderId itemId : ℕ) : ℤ :=
  ((t.itemRows orderId itemId).map fun oi => oi.qty.getD 0).sum

/-- `load_shipped`: what the ledger has shipped of an item under a reference. -/
def Books.shippedOf (b : Books) (ref : String) (itemId : ℕ) : ℤ :=
  ((b.stockLedger.rows.filter fun r => r.ref.text = ref ∧ r.delta < 0 ∧
    r.slot.itemId = itemId).map fun r => -r.delta).sum

/-- The receipt returns goods of the order. -/
def InboundReceipt.Returns (r : InboundReceipt) (orderId : ℕ) : Prop :=
  r.sourceType = .returnOrder ∧ r.sourceDocId = some orderId

instance (r : InboundReceipt) (orderId : ℕ) : Decidable (r.Returns orderId) :=
  inferInstanceAs (Decidable (_ ∧ _))

/-- What operations have received of an item under a receipt number. -/
def receivedOf (operations : List InboundOperation) (receiptNo : String) (itemId : ℕ) : ℤ :=
  ((((operations.filter fun o => o.receiptNoSnapshot.text = receiptNo).flatMap
    InboundOperation.lines).filter fun l => l.itemId = itemId).map OperationLine.qtyBase).sum

/-- `load_returned`: what has been received of an item under the released receipts of an
order. -/
def Database.returnedOf (db : Database) (orderId itemId : ℕ) : ℤ :=
  ((db.receipts.rows.filter fun r => r.Returns orderId ∧ r.status = .released).map
    fun r => receivedOf db.operations r.receiptNo.text itemId).sum

/-- Everything that was received of an item under the receipts of an order. -/
def Database.returnedTotal (db : Database) (orderId itemId : ℕ) : ℤ :=
  ((db.receipts.rows.filter fun r => r.Returns orderId).map
    fun r => receivedOf db.operations r.receiptNo.text itemId).sum

/-- `OrderLineFact`. -/
structure OrderLineFact where
  itemId : ℕ
  skuId : String
  title : String
  qtyOrdered : ℤ
  qtyShipped : ℤ
  qtyReturned : ℤ
  remainingRefundable : ℤ

/-- `load_items`: of several rows of an item the last one is kept. -/
def OrderTables.loadItems (t : OrderTables) (orderId : ℕ) : List (ℕ × OrderItem) :=
  (t.orderItems.rows.filter fun oi => oi.orderId = orderId).foldl
    (fun out oi => Dict.adjust oi.itemId (fun _ => oi) out) []

/-- The fact about one item. -/
def OrderTables.fact (t : OrderTables) (order : Order) (p : ℕ × OrderItem) : OrderLineFact :=
  let ordered := p.2.qty.getD 0
  let shipped := t.db.books.shippedOf order.outboundRef p.1
  let returned := t.db.returnedOf order.id p.1
  { itemId := p.1, skuId := (p.2.skuId.map Varchar.text).getD ""
    title := (p.2.title.map Varchar.text).getD "", qtyOrdered := ordered, qtyShipped := shipped
    qtyReturned := returned, remainingRefundable := max (min ordered shipped - returned) 0 }

/-- `reconcile_order`: the facts about the items of an order. -/
def reconcileOrder (t : OrderTables) (orderId : ℕ) : Except Err (List OrderLineFact) :=
  match t.db.findOrder orderId with
  | none => .error (.valueError s!"order not found: id={orderId}")
  | some order => .ok ((t.loadItems orderId).map (t.fact order))

/-! ## What is written -/

/-- The row after the update for one fact. -/
def OrderItem.setCounters (orderId : ℕ) (fact : OrderLineFact) (oi : OrderItem) : OrderItem :=
  if oi.orderId = orderId ∧ oi.itemId = fact.itemId then
    { oi with shippedQty := fact.qtyShipped, returnedQty := fact.qtyReturned }
  else oi

theorem OrderItem.setCounters_keeps (orderId : ℕ) (fact : OrderLineFact) (oi : OrderItem) :
    (oi.setCounters orderId fact).id = oi.id ∧ (oi.setCounters orderId fact).orderId = oi.orderId ∧
      (oi.setCounters orderId fact).skuId = oi.skuId ∧
      (oi.setCounters orderId fact).itemId = oi.itemId := by
  unfold OrderItem.setCounters
  split <;> exact ⟨rfl, rfl, rfl, rfl⟩

/-- The update for one fact. -/
def OrderTables.setCounters (orderId : ℕ) (t : OrderTables) (fact : OrderLineFact) :
    OrderTables :=
  { t with
    orderItems := t.orderItems.map (OrderItem.setCounters orderId fact) fun a b h => by
      obtain ⟨ha, ha', ha'', -⟩ := a.setCounters_keeps orderId fact
      obtain ⟨hb, hb', hb'', -⟩ := b.setCounters_keeps orderId fact
      unfold OrderItem.Conflict at h ⊢
      rwa [ha, ha', ha'', hb, hb', hb''] at h }

/-- The status that the facts call for, when anything has been returned. -/
def returnStatus (facts : List OrderLineFact) : Option String :=
  let totalRefundable := (facts.map fun f => min f.qtyOrdered f.qtyShipped).sum
  let totalReturned := (facts.map OrderLineFact.qtyReturned).sum
  if totalReturned ≤ 0 then none
  else if totalRefundable ≤ 0 then none
  else if totalReturned < totalRefundable then some "PARTIALLY_RETURNED"
  else some "RETURNED"

/-- The update of the status, from which canceled orders are exempt. -/
def OrderTables.setStatus (orderId : ℕ) (status : Option String) (t : OrderTables) : OrderTables :=
  match status with
  | none => t
  | some st =>
    if (t.orderStatus orderId).getD "" = "CANCELED" then t
    else { t with orderStatus := Function.update t.orderStatus orderId (some st) }

/-- `apply_counters`. -/
def applyCounters (orderId : ℕ) : Tx OrderTables Err PUnit := do
  let t ← get
  let facts ← Tx.ofExcept (reconcileOrder t orderId)
  set ((facts.foldl (OrderTables.setCounters orderId) t).setStatus orderId (returnStatus facts))

/-! ## What the counters say -/

variable {t t' : OrderTables} {orderId : ℕ} {order : Order}

theorem mem_itemRows {oi : OrderItem} {i : ℕ} :
    oi ∈ t.itemRows orderId i ↔ oi ∈ t.orderItems.rows ∧ oi.orderId = orderId ∧ oi.itemId = i := by
  simp [OrderTables.itemRows]

/-- The counters of an order are what ledger and operations say. -/
def OrderTables.CountersFresh (t : OrderTables) (order : Order) : Prop :=
  ∀ oi ∈ t.orderItems.rows, oi.orderId = order.id →
    oi.shippedQty = t.db.books.shippedOf order.outboundRef oi.itemId ∧
      oi.returnedQty = t.db.returnedOf order.id oi.itemId

theorem OrderTables.setStatus_keeps (orderId : ℕ) (status : Option String) (t : OrderTables) :
    (t.setStatus orderId status).db = t.db ∧
      (t.setStatus orderId status).orderItems = t.orderItems := by
  unfold OrderTables.setStatus
  split
  · exact ⟨rfl, rfl⟩
  · split <;> exact ⟨rfl, rfl⟩

/-- Every item of the order is among those that are loaded. -/
theorem mem_loadItems {oi : OrderItem} (hoi : oi ∈ t.orderItems.rows) (ho : oi.orderId = orderId) :
    oi.itemId ∈ (t.loadItems orderId).map Prod.fst := by
  suffices hfold : ∀ (rows : List OrderItem) (out : List (ℕ × OrderItem)),
      (oi ∈ rows ∨ oi.itemId ∈ out.map Prod.fst) → oi.itemId ∈ (rows.foldl
        (fun out oi => Dict.adjust oi.itemId (fun _ => oi) out) out).map Prod.fst from
    hfold _ [] (.inl (List.mem_filter.mpr ⟨hoi, by simpa using ho⟩))
  intro rows
  induction rows with
  | nil => exact fun out h => h.resolve_left List.not_mem_nil
  | cons r rows ih =>
    intro out h
    refine ih _ ?_
    rw [Dict.mem_keys_adjust, List.mem_cons] at *
    rcases h with (rfl | hmem) | hout
    · exact .inr (.inl rfl)
    · exact .inl hmem
    · exact .inr (.inr hout)

/-- The updates leave everything but the counters alone, and set the counters of the rows
that they are for. -/
theorem foldl_setCounters (orderId : ℕ) (facts : List OrderLineFact) (t : OrderTables) :
    (facts.foldl (OrderTables.setCounters orderId) t).db = t.db ∧
      ∀ shipped returned : ℕ → ℤ,
        (∀ f ∈ facts, f.qtyShipped = shipped f.itemId ∧ f.qtyReturned = returned f.itemId) →
        ∀ oi ∈ (facts.foldl (OrderTables.setCounters orderId) t).orderItems.rows,
          ∃ old ∈ t.orderItems.rows, oi.orderId = old.orderId ∧ oi.itemId = old.itemId ∧
            ((oi.shippedQty = shipped oi.itemId ∧ oi.returnedQty = returned oi.itemId) ∨
              (oi = old ∧ (oi.orderId = orderId → oi.itemId ∉ facts.map OrderLineFact.itemId))) := by
  induction facts generalizing t with
  | nil =>
    exact ⟨rfl, fun _ _ _ oi hoi => ⟨oi, hoi, rfl, rfl, .inr ⟨rfl, fun _ => List.not_mem_nil⟩⟩⟩
  | cons f facts ih =>
    obtain ⟨hdb, hrows⟩ := ih (t.setCounters orderId f)
    refine ⟨hdb, fun shipped returned hfacts oi hoi => ?_⟩
    obtain ⟨hf, hrest⟩ := List.forall_mem_cons.mp hfacts
    obtain ⟨mid, hmid, horder, hitem, hcases⟩ := hrows shipped returned hrest oi hoi
    obtain ⟨old, hold, rfl⟩ := List.mem_map.mp hmid
    obtain ⟨-, hkeep, -, hkeep'⟩ := old.setCounters_keeps orderId f
    refine ⟨old, hold, horder.trans hkeep, hitem.trans hkeep', ?_⟩
    rcases hcases with hright | ⟨rfl, hnot⟩
    · exact .inl hright
    · by_cases hfor : old.orderId = orderId ∧ old.itemId = f.itemId
      · -- the row is set by this fact and by no later one
        have hset : old.setCounters orderId f =
            { old with shippedQty := f.qtyShipped, returnedQty := f.qtyReturned } := if_pos hfor
        rw [hset]
        exact .inl ⟨by rw [hfor.2]; exact hf.1, by rw [hfor.2]; exact hf.2⟩
      · have hset : old.setCounters orderId f = old := if_neg hfor
        rw [hset] at hnot ⊢
        refine .inr ⟨rfl, fun ho => ?_⟩
        rw [List.map_cons, List.mem_cons, not_or]
        exact ⟨fun heq => hfor ⟨ho, heq⟩, hnot ho⟩

/-- After `apply_counters` the counters of the order are fresh, and only they and the
status have changed. -/
theorem applyCounters_run_ok {u : PUnit} (h : (applyCounters orderId).run t = .ok (u, t')) :
    ∃ order, t.db.findOrder orderId = some order ∧ t'.db = t.db ∧ t'.CountersFresh order := by
  unfold applyCounters reconcileOrder at h
  simp only [Tx.run_bind_ok, Tx.run_get_ok, Tx.run_ofExcept_ok, Tx.run_set_ok] at h
  obtain ⟨_, _, ⟨rfl, rfl⟩, facts, _, ⟨hfacts, rfl⟩, rfl⟩ := h
  split at hfacts
  · cases hfacts
  · rename_i order hfind
    obtain rfl := Except.ok.inj hfacts
    have hid : order.id = orderId := by simpa using List.find?_some hfind
    obtain ⟨hdb, hrows⟩ := foldl_setCounters orderId
      ((t.loadItems orderId).map (t.fact order)) t
    obtain ⟨hdb', hitems⟩ := OrderTables.setStatus_keeps orderId
      (returnStatus ((t.loadItems orderId).map (t.fact order)))
      (((t.loadItems orderId).map (t.fact order)).foldl (OrderTables.setCounters orderId) t)
    refine ⟨order, hfind, hdb'.trans hdb, fun oi hoi ho => ?_⟩
    rw [hitems] at hoi
    rw [hdb'.trans hdb]
    obtain ⟨old, hold, horder, hitem, hright | ⟨-, hnot⟩⟩ := hrows
      (t.db.books.shippedOf order.outboundRef) (t.db.returnedOf order.id)
      (fun f hf => by
        obtain ⟨p, -, rfl⟩ := List.mem_map.mp hf
        exact ⟨rfl, rfl⟩) oi hoi
    · exact hright
    · exfalso
      refine hnot (ho.trans hid) ?_
      rw [List.map_map, hitem]
      exact mem_loadItems hold (horder.symm.trans (ho.trans hid))

end Wms

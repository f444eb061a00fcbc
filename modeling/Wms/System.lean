import Wms.Count.CountDoc
import Wms.Inbound.Commit
import Wms.Outbound.Quantities

/-!
# The system

The operations that a client can ask for, each a transaction on the whole database, and
the steps of the other parts of the application that bring warehouses, orders, manual
documents and receipts into it. A run attempts operations in any order; an operation
that fails is rolled back.
-/

namespace Wms

open Foundation

/-! ## Bringing documents into the database -/

/-- Store a warehouse. -/
def addWarehouse (w : Warehouse) : Trans PUnit := do
  let db ← get
  let t ← Tx.demand (db.warehouses.insert w) (.integrityError "warehouses_pkey")
  set { db with warehouses := t }

/-- Insert the rows of a list. -/
def insertAll {ρ : Type} {Conflict : ρ → ρ → Prop} [DecidableRel Conflict]
    (t : Table ρ Conflict) : List ρ → Option (Table ρ Conflict)
  | [] => some t
  | r :: rest => (t.insert r).bind fun t' => insertAll t' rest

theorem rows_insertAll {ρ : Type} {Conflict : ρ → ρ → Prop} [DecidableRel Conflict]
    {t t' : Table ρ Conflict} {rs : List ρ} (h : insertAll t rs = some t') :
    t'.rows = t.rows ++ rs := by
  induction rs generalizing t with
  | nil =>
    obtain rfl := Option.some.inj h
    rw [List.append_nil]
  | cons r rest ih =>
    obtain ⟨t₁, hinsert, hrest⟩ := Option.bind_eq_some_iff.mp h
    rw [ih hrest, (Table.insert_eq_some.mp hinsert).2, List.append_assoc]
    rfl

/-- Import an order with its lines, whose quantities must be positive. -/
def importOrder (o : Order) (lines : List OrderLine) : Trans PUnit := do
  Tx.failIf (∃ l ∈ lines, l.reqQty ≤ 0)
    (.valueError "component_required_qty_must_be_positive_integer")
  Tx.failIf (∃ l ∈ lines, l.orderId ≠ o.id) (.integrityError "fk_order_lines_order")
  let db ← get
  let orders ← Tx.demand (db.orders.insert o) (.integrityError "orders_pkey")
  let orderLines ← Tx.demand (insertAll db.orderLines lines) (.integrityError "order_lines_pkey")
  set { db with orders := orders, orderLines := orderLines }

/-- Create a manual document, a draft, with its lines. -/
def createManualDoc (d : ManualDoc) (lines : List ManualLine) : Trans PUnit := do
  Tx.failIf (∃ l ∈ lines, l.docId ≠ d.id) (.integrityError "fk_manual_outbound_lines_doc")
  let db ← get
  Tx.failIf (¬db.HasWarehouse d.warehouseId) (.integrityError "fk_manual_outbound_docs_warehouse")
  let docs ← Tx.demand (db.manualDocs.insert { d with status := .draft })
    (.integrityError "manual_outbound_docs_pkey")
  let manualLines ← Tx.demand (insertAll db.manualLines lines)
    (.integrityError "manual_outbound_lines_pkey")
  set { db with manualDocs := docs, manualLines := manualLines }

/-- The fields that a document needs before it is released and that are blank. -/
def ManualDoc.missingReceiver (d : ManualDoc) : List String :=
  ([("recipient_name", cleanVarchar d.recipientName),
    ("receiver_phone", cleanVarchar d.receiverPhone),
    ("receiver_province", cleanVarchar d.receiverProvince),
    ("receiver_city", cleanVarchar d.receiverCity),
    ("receiver_address", cleanVarchar d.receiverAddress)].filter fun f => f.2 = none).map Prod.fst

/-- `release_manual_doc`. -/
def releaseManualDoc (docId : ℕ) : Trans PUnit := do
  let db ← get
  Tx.failIf (db.manualLinesOf docId = []) (.valueError "manual_doc_has_no_lines")
  let d ← Tx.demand (db.findManualDoc docId) (.valueError s!"manual_doc_not_found: id={docId}")
  Tx.failIf (d.missingReceiver ≠ [])
    (.valueError ("manual_doc_receiver_incomplete: missing=" ++ ",".intercalate d.missingReceiver))
  Tx.failIf (d.status ≠ .draft) (.valueError s!"manual_doc_release_reject: id={docId}")
  set { db with
    manualDocs := db.manualDocs.map (ManualDoc.release docId) fun a b h => by
      rwa [a.release_id, b.release_id] at h }

/-- `void_manual_doc`. -/
def voidManualDoc (docId : ℕ) : Trans PUnit := do
  let db ← get
  Tx.failIf (¬∃ d ∈ db.manualDocs.rows, d.id = docId ∧ (d.status = .draft ∨ d.status = .released))
    (.valueError s!"manual_doc_void_reject: id={docId}")
  set { db with
    manualDocs := db.manualDocs.map (ManualDoc.void docId) fun a b h => by
      rwa [a.void_id, b.void_id] at h }

/-- Store a receipt. -/
def storeReceipt (r : InboundReceipt) : Trans PUnit := do
  let db ← get
  Tx.failIf (¬db.HasWarehouse r.warehouseId) (.integrityError "fk_inbound_receipts_warehouse")
  let t ← Tx.demand (db.receipts.insert r) (.integrityError "uq_inbound_receipts_receipt_no")
  set { db with receipts := t }

/-! ## Operations -/

/-- An operation with its arguments. -/
inductive Op
  | adjustLot (pms : PmsClient) (utcNow : ℤ) (call : AdjustCall)
  | submitOrder (pms : PmsClient) (call : OrderSubmitCall)
  | submitManual (call : ManualSubmitCall)
  | submitInbound (call : OperationCall)
  | commitInbound (call : CommitCall)
  | reverseOutbound (call : ReversalCall)
  | reverseInbound (call : ReversalCall)
  | createCountDoc (call : CountCreateCall)
  | freezeCountDoc (pms : PmsClient) (docId : ℕ)
  | updateCountDoc (call : CountUpdateCall)
  | postCountDoc (call : CountPostCall)
  | voidCountDoc (docId : ℕ)
  | addWarehouse (w : Warehouse)
  | importOrder (o : Order) (lines : List OrderLine)
  | createManualDoc (d : ManualDoc) (lines : List ManualLine)
  | releaseManualDoc (docId : ℕ)
  | voidManualDoc (docId : ℕ)
  | storeReceipt (r : InboundReceipt)

/-- A direct call of `adjust_lot_impl`. -/
def adjustLotDirectly (pms : PmsClient) (utcNow : ℤ) (call : AdjustCall) : Trans PUnit := do
  let db ← get
  let _ ← onBooks (adjustLot ⟨pms, db.eventBook.ids, utcNow⟩ call)
  pure ⟨⟩

/-- Carry out an operation; its answer is not looked at. -/
def Op.exec : Op → Trans PUnit
  | .adjustLot pms utcNow call => adjustLotDirectly pms utcNow call
  | .submitOrder pms call => (fun _ => ⟨⟩) <$> submitOrderOutboundEvent pms call
  | .submitManual call => (fun _ => ⟨⟩) <$> submitManualOutboundEvent call
  | .submitInbound call => (fun _ => ⟨⟩) <$> submitInboundOperation call
  | .commitInbound call => (fun _ => ⟨⟩) <$> Wms.commitInbound call
  | .reverseOutbound call => (fun _ => ⟨⟩) <$> reverseOutboundEvent call
  | .reverseInbound call => (fun _ => ⟨⟩) <$> reverseInboundEvent call
  | .createCountDoc call => (fun _ => ⟨⟩) <$> createDoc call
  | .freezeCountDoc pms docId => (fun _ => ⟨⟩) <$> freezeDoc pms docId
  | .updateCountDoc call => (fun _ => ⟨⟩) <$> updateDocLines call
  | .postCountDoc call => (fun _ => ⟨⟩) <$> postDoc call
  | .voidCountDoc docId => voidDoc docId
  | .addWarehouse w => Wms.addWarehouse w
  | .importOrder o lines => Wms.importOrder o lines
  | .createManualDoc d lines => Wms.createManualDoc d lines
  | .releaseManualDoc docId => Wms.releaseManualDoc docId
  | .voidManualDoc docId => Wms.voidManualDoc docId
  | .storeReceipt r => Wms.storeReceipt r

/-- The state after a run from empty tables. -/
def Database.after (ops : List Op) : Database := Tx.attemptAll Op.exec ops Database.empty

/-! ## A warehouse with stock -/

/-- An entry of a receipt: ten pieces of an item. -/
def tenPieces (itemId : ℕ) : CommitLineIn where
  itemId := some itemId
  barcode := none
  uomId := some itemId
  qtyInput := 10
  lotCodeInput := none
  productionDate := none
  expiryDate := none
  sourceLineId := none
  remark := none
  qty_pos := by decide
  identity h := by cases h
  uom_input h := by cases h
  dates_ordered _ h := by cases h

/-- The receipt of ten pieces of two items. -/
def receiveTwoItems : CommitCall where
  warehouseId := 1
  sourceType := .manual
  sourceRef := none
  occurredAt := 0
  remark := none
  lines := [tenPieces 1, tenPieces 2]
  userId := none
  eventNo := ⟨"IE-1", by decide⟩
  traceId := ⟨"IN-COMMIT-1", by decide⟩
  pms := plainPms
  utcNow := 0
  lines_ne := List.cons_ne_nil _ _

/-- A run after which the internal lots of two items hold ten pieces each. -/
def stocked : List Op := [.addWarehouse ⟨1, ⟨"W", by decide⟩⟩, .commitInbound receiveTwoItems]

example : (Database.after stocked).books.stock ⟨1, 2, 2⟩ = 10 := by decide +kernel

/-- An order. -/
def appleOrder : Order where
  id := 1
  platform := .lit "PDD"
  storeCode := .lit "S1"
  extOrderNo := .lit "E1"
  buyerName := none
  buyerPhone := none
  address := none

/-- A line of the order, which asks for some pieces of the item with its number. -/
def appleLine (id : ℕ) (reqQty : ℤ) : OrderLine := ⟨id, 1, id, reqQty, none⟩

/-- An entry that takes some pieces of an item, for the line with its number, from its
internal lot, which has its number too. -/
def takeApples (id : ℕ) (qty : ℤ) (h : 0 < qty) : SubmitLineIn where
  sourceLineId := id
  itemId := id
  qtyOutbound := qty
  lotId := id
  remark := none
  qty_pos := h

theorem five_pos : (0 : ℤ) < 5 := by decide

/-- Five pieces of the item with a number. -/
def fiveApples (id : ℕ) : SubmitLineIn := takeApples id 5 five_pos

/-- A submission for the order. -/
def shipApples (traceId : String) (lines : List SubmitLineIn) : OrderSubmitCall where
  orderId := 1
  warehouseId := 1
  operatorId := none
  traceId := traceId
  occurredAt := 0
  remark := none
  lines := lines

/-! ## What an accepted operation does -/

variable {db db' : Database}

theorem adjustLotDirectly_run_ok {pms : PmsClient} {utcNow : ℤ} {call : AdjustCall} {u : PUnit}
    (h : (adjustLotDirectly pms utcNow call).run db = .ok (u, db')) :
    ∃ out, (adjustLot ⟨pms, db.eventBook.ids, utcNow⟩ call).run db.books = .ok (out, db'.books) ∧
      db' = db.putBooks db'.books := by
  unfold adjustLotDirectly at h
  simp only [Tx.run_bind_ok, Tx.run_get_ok, onBooks_run_ok, Tx.run_pure_ok] at h
  obtain ⟨_, _, ⟨rfl, rfl⟩, out, _, ⟨b, hadjust, rfl⟩, -, rfl⟩ := h
  exact ⟨out, hadjust, rfl⟩

/-- The event that a reversal names is found under its identifier. -/
theorem Reversed.findEvent {L : Type} {kind : ReversalKind L} {call : ReversalCall}
    {original event : WmsEvent} (h : Reversed kind call db original event db') :
    db.eventBook.findEvent call.eventId = some original := by
  rw [← h.original_id]
  exact db.eventBook.events.find?_eq_some h.original_mem (by simp)
    fun _ ha => Or.inl (by simpa using ha)

/-- An imported order brings lines with positive quantities. -/
theorem importOrder_run_ok {o : Order} {lines : List OrderLine} {u : PUnit}
    (h : (importOrder o lines).run db = .ok (u, db')) :
    (∀ l ∈ lines, 0 < l.reqQty) ∧ db'.orderLines.rows = db.orderLines.rows ++ lines ∧
      db' = { db with orders := db'.orders, orderLines := db'.orderLines } := by
  unfold importOrder at h
  simp only [Tx.run_bind_ok, Tx.run_failIf_ok, Tx.run_get_ok, Tx.run_demand_ok,
    Tx.run_set_ok] at h
  obtain ⟨_, _, ⟨hpos, rfl⟩, _, _, ⟨-, rfl⟩, _, _, ⟨rfl, rfl⟩, orders, _, ⟨-, rfl⟩, orderLines, _,
    ⟨hlines, rfl⟩, rfl⟩ := h
  push Not at hpos
  exact ⟨hpos, rows_insertAll hlines, rfl⟩

theorem addWarehouse_run_ok {w : Warehouse} {u : PUnit}
    (h : (addWarehouse w).run db = .ok (u, db')) :
    db'.warehouses.rows = db.warehouses.rows ++ [w] ∧
      db' = { db with warehouses := db'.warehouses } := by
  unfold addWarehouse at h
  simp only [Tx.run_bind_ok, Tx.run_get_ok, Tx.run_demand_ok, Tx.run_set_ok] at h
  obtain ⟨_, _, ⟨rfl, rfl⟩, t, _, ⟨ht, rfl⟩, rfl⟩ := h
  exact ⟨(Table.insert_eq_some.mp ht).2, rfl⟩

/-- A created document is a draft with its own lines, all of which are new. -/
theorem createManualDoc_run_ok {d : ManualDoc} {lines : List ManualLine} {u : PUnit}
    (h : (createManualDoc d lines).run db = .ok (u, db')) :
    (∀ l ∈ lines, l.docId = d.id) ∧ (∀ a ∈ db.manualDocs.rows, a.id ≠ d.id) ∧
      db'.manualDocs.rows = db.manualDocs.rows ++ [{ d with status := .draft }] ∧
      db'.manualLines.rows = db.manualLines.rows ++ lines ∧
      db' = { db with manualDocs := db'.manualDocs, manualLines := db'.manualLines } := by
  unfold createManualDoc at h
  simp only [Tx.run_bind_ok, Tx.run_failIf_ok, Tx.run_get_ok, Tx.run_demand_ok,
    Tx.run_set_ok] at h
  obtain ⟨_, _, ⟨hdoc, rfl⟩, _, _, ⟨rfl, rfl⟩, _, _, ⟨-, rfl⟩, docs, _, ⟨hdocs, rfl⟩, manualLines,
    _, ⟨hlines, rfl⟩, rfl⟩ := h
  push Not at hdoc
  obtain ⟨hfree, hrows⟩ := Table.insert_eq_some.mp hdocs
  exact ⟨hdoc, hfree, hrows, rows_insertAll hlines, rfl⟩

/-- A released document has lines and was a draft. -/
theorem releaseManualDoc_run_ok {docId : ℕ} {u : PUnit}
    (h : (releaseManualDoc docId).run db = .ok (u, db')) :
    ∃ d, db.findManualDoc docId = some d ∧ d.status = .draft ∧ db.manualLinesOf docId ≠ [] ∧
      db'.manualDocs.rows = db.manualDocs.rows.map (ManualDoc.release docId) ∧
      db' = { db with manualDocs := db'.manualDocs } := by
  unfold releaseManualDoc at h
  simp only [Tx.run_bind_ok, Tx.run_get_ok, Tx.run_failIf_ok, Tx.run_demand_ok,
    Tx.run_set_ok] at h
  obtain ⟨_, _, ⟨rfl, rfl⟩, _, _, ⟨hlines, rfl⟩, d, _, ⟨hfind, rfl⟩, _, _, ⟨-, rfl⟩, _, _,
    ⟨hstatus, rfl⟩, rfl⟩ := h
  exact ⟨d, hfind, not_not.mp hstatus, hlines, rfl, rfl⟩

theorem voidManualDoc_run_ok {docId : ℕ} {u : PUnit}
    (h : (voidManualDoc docId).run db = .ok (u, db')) :
    db'.manualDocs.rows = db.manualDocs.rows.map (ManualDoc.void docId) ∧
      db' = { db with manualDocs := db'.manualDocs } := by
  unfold voidManualDoc at h
  simp only [Tx.run_bind_ok, Tx.run_get_ok, Tx.run_failIf_ok, Tx.run_set_ok] at h
  obtain ⟨_, _, ⟨rfl, rfl⟩, _, _, ⟨-, rfl⟩, rfl⟩ := h
  exact ⟨rfl, rfl⟩

theorem storeReceipt_run_ok {r : InboundReceipt} {u : PUnit}
    (h : (storeReceipt r).run db = .ok (u, db')) :
    db' = { db with receipts := db'.receipts } := by
  unfold storeReceipt at h
  simp only [Tx.run_bind_ok, Tx.run_get_ok, Tx.run_failIf_ok, Tx.run_demand_ok,
    Tx.run_set_ok] at h
  obtain ⟨_, _, ⟨rfl, rfl⟩, _, _, ⟨-, rfl⟩, t, _, ⟨-, rfl⟩, rfl⟩ := h
  rfl

theorem ManualSubmitted.bookedIn {call : ManualSubmitCall} {event : WmsEvent}
    {saved : List OutboundEventLine} (h : ManualSubmitted db call event saved db') :
    ∃ doc, db.findManualDoc call.docId = some doc ∧
      BookedIn doc.warehouseId db.books db'.books := by
  obtain ⟨doc, lines, rows, db₁, hprep, hship, hopen, hdone⟩ := h.prepared
  refine ⟨doc, (prepareManualSubmit_eq_ok hprep).1, ?_⟩
  have hbooks : db'.books = db₁.books := by
    by_cases hcompleted : ManualCompleted db₁ call.docId
    · rw [(hdone hcompleted).1]
      rfl
    · rw [hopen hcompleted]
  rw [hbooks]
  exact hship.bookedIn

theorem OrderSubmitted.bookedIn {pms : PmsClient} {call : OrderSubmitCall} {event : WmsEvent}
    {saved : List OutboundEventLine} (h : OrderSubmitted pms db call event saved db') :
    BookedIn call.warehouseId db.books db'.books := by
  obtain ⟨order, lines, rows, db₁, -, hship, hframe, -⟩ := h.prepared
  have hbooks : db'.books = db₁.books := by
    rw [hframe]
    rfl
  rw [hbooks]
  exact hship.bookedIn

/-- What an accepted operation does, for each operation. -/
inductive Step (db : Database) : Op → Database → Prop
  | adjustLot {pms : PmsClient} {utcNow : ℤ} {call : AdjustCall} {out : AdjustOutcome} {b : Books}
      (h : (Wms.adjustLot ⟨pms, db.eventBook.ids, utcNow⟩ call).run db.books = .ok (out, b)) :
      Step db (.adjustLot pms utcNow call) (db.putBooks b)
  | submitOrder {pms : PmsClient} {call : OrderSubmitCall} {event : WmsEvent}
      {saved : List OutboundEventLine} {db' : Database}
      (h : OrderSubmitted pms db call event saved db') : Step db (.submitOrder pms call) db'
  | submitManual {call : ManualSubmitCall} {event : WmsEvent} {saved : List OutboundEventLine}
      {db' : Database} (h : ManualSubmitted db call event saved db') :
      Step db (.submitManual call) db'
  | submitInbound {call : OperationCall} {receipt : InboundReceipt} {db' : Database}
      (hfind : db.findReceipt call.receiptNo = some receipt)
      (h : InboundOnly receipt.warehouseId db db') : Step db (.submitInbound call) db'
  | commitInbound {call : CommitCall} {db' : Database} (h : InboundOnly call.warehouseId db db') :
      Step db (.commitInbound call) db'
  | reverseOutbound {call : ReversalCall} {original event : WmsEvent} {db' : Database}
      (h : Reversed outboundReversal call db original event db') :
      Step db (.reverseOutbound call) db'
  | reverseInbound {call : ReversalCall} {original event : WmsEvent} {db' : Database}
      (h : Reversed inboundReversal call db original event db') :
      Step db (.reverseInbound call) db'
  | createCountDoc {call : CountCreateCall} {doc : CountDoc} {db' : Database}
      (h : (createDoc call).run db = .ok (doc, db')) : Step db (.createCountDoc call) db'
  | freezeCountDoc {pms : PmsClient} {docId : ℕ} {out : ℕ × ℕ} {db' : Database}
      (h : (freezeDoc pms docId).run db = .ok (out, db')) : Step db (.freezeCountDoc pms docId) db'
  | updateCountDoc {call : CountUpdateCall} {out : ℕ} {db' : Database}
      (h : (updateDocLines call).run db = .ok (out, db')) : Step db (.updateCountDoc call) db'
  | repostCountDoc {call : CountPostCall} {doc : CountDoc}
      (hfind : db.findCountDoc call.docId = some doc) (h : doc.status = .posted) :
      Step db (.postCountDoc call) db
  | postCountDoc {call : CountPostCall} {doc : CountDoc} {event : WmsEvent} {db' : Database}
      (h : Posted call db doc event db') : Step db (.postCountDoc call) db'
  | voidCountDoc {docId : ℕ} {db' : Database} (h : (voidDoc docId).run db = .ok (⟨⟩, db')) :
      Step db (.voidCountDoc docId) db'
  | addWarehouse {w : Warehouse} {db' : Database} (h : (Wms.addWarehouse w).run db = .ok (⟨⟩, db')) :
      Step db (.addWarehouse w) db'
  | importOrder {o : Order} {lines : List OrderLine} {db' : Database}
      (h : (Wms.importOrder o lines).run db = .ok (⟨⟩, db')) : Step db (.importOrder o lines) db'
  | createManualDoc {d : ManualDoc} {lines : List ManualLine} {db' : Database}
      (h : (Wms.createManualDoc d lines).run db = .ok (⟨⟩, db')) :
      Step db (.createManualDoc d lines) db'
  | releaseManualDoc {docId : ℕ} {db' : Database}
      (h : (Wms.releaseManualDoc docId).run db = .ok (⟨⟩, db')) :
      Step db (.releaseManualDoc docId) db'
  | voidManualDoc {docId : ℕ} {db' : Database}
      (h : (Wms.voidManualDoc docId).run db = .ok (⟨⟩, db')) : Step db (.voidManualDoc docId) db'
  | storeReceipt {r : InboundReceipt} {db' : Database}
      (h : (Wms.storeReceipt r).run db = .ok (⟨⟩, db')) : Step db (.storeReceipt r) db'

/-- An accepted operation is a step. -/
theorem Op.step_of_exec {op : Op} {u : PUnit} (h : op.exec.run db = .ok (u, db')) :
    Step db op db' := by
  cases op with
  | adjustLot pms utcNow call =>
    obtain ⟨out, hadjust, hframe⟩ := adjustLotDirectly_run_ok h
    rw [hframe]
    exact .adjustLot hadjust
  | submitOrder pms call =>
    obtain ⟨⟨event, saved⟩, hsubmit, -⟩ := Tx.run_map_ok.mp h
    exact .submitOrder (submitOrderOutboundEvent_run_ok hsubmit)
  | submitManual call =>
    obtain ⟨⟨event, saved⟩, hsubmit, -⟩ := Tx.run_map_ok.mp h
    exact .submitManual (submitManualOutboundEvent_run_ok hsubmit)
  | submitInbound call =>
    obtain ⟨event, hsubmit, -⟩ := Tx.run_map_ok.mp h
    obtain ⟨receipt, hfind, honly⟩ := submitInboundOperation_run_ok hsubmit
    exact .submitInbound hfind honly
  | commitInbound call =>
    obtain ⟨event, hcommit, -⟩ := Tx.run_map_ok.mp h
    exact .commitInbound (commitInbound_inboundOnly call _ _ _ hcommit)
  | reverseOutbound call =>
    obtain ⟨event, hreverse, -⟩ := Tx.run_map_ok.mp h
    obtain ⟨original, hreversed⟩ := reverseEvent_run_ok hreverse
    exact .reverseOutbound hreversed
  | reverseInbound call =>
    obtain ⟨event, hreverse, -⟩ := Tx.run_map_ok.mp h
    obtain ⟨original, hreversed⟩ := reverseEvent_run_ok hreverse
    exact .reverseInbound hreversed
  | createCountDoc call =>
    obtain ⟨doc, hcreate, -⟩ := Tx.run_map_ok.mp h
    exact .createCountDoc hcreate
  | freezeCountDoc pms docId =>
    obtain ⟨out, hfreeze, -⟩ := Tx.run_map_ok.mp h
    exact .freezeCountDoc hfreeze
  | updateCountDoc call =>
    obtain ⟨out, hupdate, -⟩ := Tx.run_map_ok.mp h
    exact .updateCountDoc hupdate
  | postCountDoc call =>
    obtain ⟨out, hpost, -⟩ := Tx.run_map_ok.mp h
    obtain ⟨doc, hfind, ⟨hstatus, rfl⟩ | ⟨event, hposted⟩⟩ := postDoc_run_ok hpost
    · exact .repostCountDoc hfind hstatus
    · exact .postCountDoc hposted
  | voidCountDoc docId => exact .voidCountDoc h
  | addWarehouse w => exact .addWarehouse h
  | importOrder o lines => exact .importOrder h
  | createManualDoc d lines => exact .createManualDoc h
  | releaseManualDoc docId => exact .releaseManualDoc h
  | voidManualDoc docId => exact .voidManualDoc h
  | storeReceipt r => exact .storeReceipt h

/-- Only the operations on count documents change them. -/
def Op.OnCountDocs : Op → Prop
  | .createCountDoc _ | .freezeCountDoc _ _ | .updateCountDoc _ | .postCountDoc _
  | .voidCountDoc _ => True
  | _ => False

/-- What the operations on stock and on count documents leave alone. -/
structure SameDocuments (db db' : Database) : Prop where
  warehouses_eq : db'.warehouses = db.warehouses
  orders_eq : db'.orders = db.orders
  orderLines_eq : db'.orderLines = db.orderLines
  manualLines_eq : db'.manualLines = db.manualLines

theorem OrderSubmitted.frame {pms : PmsClient} {call : OrderSubmitCall} {event : WmsEvent}
    {saved : List OutboundEventLine} (h : OrderSubmitted pms db call event saved db') :
    SameDocuments db db' ∧ db'.countDocs = db.countDocs ∧ db'.manualDocs = db.manualDocs := by
  obtain ⟨order, lines, rows, db₁, -, hship, hframe, -⟩ := h.prepared
  rw [hframe, hship.frame]
  exact ⟨⟨rfl, rfl, rfl, rfl⟩, rfl, rfl⟩

theorem ManualSubmitted.frame {call : ManualSubmitCall} {event : WmsEvent}
    {saved : List OutboundEventLine} (h : ManualSubmitted db call event saved db') :
    SameDocuments db db' ∧ db'.countDocs = db.countDocs := by
  obtain ⟨doc, lines, rows, db₁, -, hship, hopen, hdone⟩ := h.prepared
  by_cases hcompleted : ManualCompleted db₁ call.docId
  · rw [(hdone hcompleted).1, hship.frame]
    exact ⟨⟨rfl, rfl, rfl, rfl⟩, rfl⟩
  · rw [hopen hcompleted, hship.frame]
    exact ⟨⟨rfl, rfl, rfl, rfl⟩, rfl⟩

/-- An accepted operation other than those on count documents leaves them alone. -/
theorem Step.countDocs_eq {op : Op} (h : Step db op db') (hop : ¬op.OnCountDocs) :
    db'.countDocs = db.countDocs := by
  cases h with
  | adjustLot h => rfl
  | submitOrder h => exact h.frame.2.1
  | submitManual h => exact h.frame.2
  | submitInbound hfind h => rw [h.frame]
  | commitInbound h => rw [h.frame]
  | reverseOutbound h => rw [h.frame]; rfl
  | reverseInbound h => rw [h.frame]; rfl
  | createCountDoc h => exact absurd trivial hop
  | freezeCountDoc h => exact absurd trivial hop
  | updateCountDoc h => exact absurd trivial hop
  | repostCountDoc hfind h => exact absurd trivial hop
  | postCountDoc h => exact absurd trivial hop
  | voidCountDoc h => exact absurd trivial hop
  | addWarehouse h => rw [(addWarehouse_run_ok h).2]
  | importOrder h => rw [(importOrder_run_ok h).2.2]
  | createManualDoc h => rw [(createManualDoc_run_ok h).2.2.2.2]
  | releaseManualDoc h =>
    obtain ⟨-, -, -, -, -, hframe⟩ := releaseManualDoc_run_ok h
    rw [hframe]
  | voidManualDoc h => rw [(voidManualDoc_run_ok h).2]
  | storeReceipt h => rw [storeReceipt_run_ok h]

/-! ## Stock -/

/-- The warehouse whose stock an operation may move. -/
def Op.stockWarehouse (db : Database) : Op → Option ℕ
  | .adjustLot _ _ call => some call.warehouseId
  | .submitOrder _ call => some call.warehouseId
  | .submitManual call => (db.findManualDoc call.docId).map ManualDoc.warehouseId
  | .submitInbound call => (db.findReceipt call.receiptNo).map InboundReceipt.warehouseId
  | .commitInbound call => some call.warehouseId
  | .reverseOutbound call => (db.eventBook.findEvent call.eventId).map WmsEvent.warehouseId
  | .reverseInbound call => (db.eventBook.findEvent call.eventId).map WmsEvent.warehouseId
  | .postCountDoc call => (db.findCountDoc call.docId).map CountDoc.warehouseId
  | _ => none

/-- The operation is a direct adjustment whose ledger row would be swallowed. -/
def Op.Swallowed (db : Database) : Op → Prop
  | .adjustLot _ _ call => call.Swallowed db.books
  | _ => False

/-- An accepted operation books stock of its warehouse, or leaves the books alone; only
an adjustment whose row is swallowed does otherwise. -/
theorem Step.bookedIn {op : Op} (h : Step db op db') (hnot : ¬op.Swallowed db) :
    (∃ w, op.stockWarehouse db = some w ∧ BookedIn w db.books db'.books) ∨
      db'.books = db.books := by
  cases h with
  | adjustLot h => exact .inl ⟨_, rfl, adjustLot_bookedIn hnot h⟩
  | submitOrder h => exact .inl ⟨_, rfl, h.bookedIn⟩
  | submitManual h =>
    obtain ⟨doc, hfind, hbooked⟩ := h.bookedIn
    exact .inl ⟨doc.warehouseId, by simp [Op.stockWarehouse, hfind], hbooked⟩
  | @submitInbound call receipt _ hfind h =>
    exact .inl ⟨receipt.warehouseId, by simp [Op.stockWarehouse, hfind], h.booked⟩
  | commitInbound h => exact .inl ⟨_, rfl, h.booked⟩
  | @reverseOutbound call original _ _ h =>
    exact .inl ⟨original.warehouseId, by simp [Op.stockWarehouse, h.findEvent], h.booked⟩
  | @reverseInbound call original _ _ h =>
    exact .inl ⟨original.warehouseId, by simp [Op.stockWarehouse, h.findEvent], h.booked⟩
  | createCountDoc h =>
    obtain ⟨-, -, -, -, hframe⟩ := createDoc_run_ok h
    rw [hframe]
    exact .inr rfl
  | freezeCountDoc h =>
    obtain ⟨doc, basics, -, -, rfl⟩ := freezeDoc_run_ok h
    exact .inr rfl
  | updateCountDoc h =>
    obtain ⟨doc, countedBy, lines, -, -, -, -, rfl⟩ := updateDocLines_run_ok h
    exact .inr rfl
  | repostCountDoc hfind h => exact .inr rfl
  | @postCountDoc call doc _ _ h =>
    exact .inl ⟨doc.warehouseId, by simp [Op.stockWarehouse, h.found], h.booked⟩
  | voidCountDoc h =>
    obtain ⟨doc, -, rfl⟩ := voidDoc_run_ok h
    exact .inr rfl
  | addWarehouse h =>
    rw [(addWarehouse_run_ok h).2]
    exact .inr rfl
  | importOrder h =>
    rw [(importOrder_run_ok h).2.2]
    exact .inr rfl
  | createManualDoc h =>
    rw [(createManualDoc_run_ok h).2.2.2.2]
    exact .inr rfl
  | releaseManualDoc h =>
    obtain ⟨-, -, -, -, -, hframe⟩ := releaseManualDoc_run_ok h
    rw [hframe]
    exact .inr rfl
  | voidManualDoc h =>
    rw [(voidManualDoc_run_ok h).2]
    exact .inr rfl
  | storeReceipt h =>
    rw [storeReceipt_run_ok h]
    exact .inr rfl

/-- An accepted operation keeps the balances of other warehouses than its own. -/
theorem Step.stock_eq {op : Op} (h : Step db op db') {k : SlotKey}
    (hk : op.stockWarehouse db ≠ some k.warehouseId) :
    db'.books.stock k = db.books.stock k := by
  by_cases hswallowed : op.Swallowed db
  · cases h with
    | @adjustLot _ _ _ _ b h =>
      rcases adjustLot_cases h with ⟨hb, -⟩ | ⟨a, hprep, -, ⟨row, -, hnot⟩ | ⟨hover, -⟩⟩
      · rw [← hb]
        rfl
      · exact absurd hswallowed hnot
      · obtain ⟨⟨lotId, -, hslot⟩, -⟩ := prepareAdjustment_eq_some hprep
        change b.stock k = _
        rw [hover.stock_eq, Function.update_of_ne]
        intro heq
        refine hk ?_
        rw [heq, hslot]
        rfl
    | _ => exact hswallowed.elim
  · rcases h.bookedIn hswallowed with ⟨w, hw, hbooked⟩ | hbooks
    · refine hbooked.stock_eq ?_
      intro heq
      exact hk (by rw [hw, heq])
    · rw [hbooks]

/-! ## Events -/

/-- The lines that an operation ships, as they are saved. -/
def Op.Ships (ls : List OutboundEventLine) : Op → Prop
  | .submitOrder _ call => List.Forall₂ (Saves .orderOutbound) call.lines ls
  | .submitManual call => List.Forall₂ (Saves .manualOutbound) call.lines ls
  | _ => ls = []

theorem OrderSubmitted.appends {pms : PmsClient} {call : OrderSubmitCall} {event : WmsEvent}
    {saved : List OutboundEventLine} (h : OrderSubmitted pms db call event saved db') :
    Appends db.eventBook saved db'.eventBook := by
  obtain ⟨order, lines, rows, db₁, -, hship, hframe, -⟩ := h.prepared
  rw [hframe]
  exact hship.appends

theorem ManualSubmitted.appends {call : ManualSubmitCall} {event : WmsEvent}
    {saved : List OutboundEventLine} (h : ManualSubmitted db call event saved db') :
    Appends db.eventBook saved db'.eventBook := by
  obtain ⟨doc, lines, rows, db₁, -, hship, hopen, hdone⟩ := h.prepared
  by_cases hcompleted : ManualCompleted db₁ call.docId
  · rw [(hdone hcompleted).1]
    exact hship.appends
  · rw [hopen hcompleted]
    exact hship.appends

theorem InboundOnly.appends {w : ℕ} (h : InboundOnly w db db') :
    Appends db.eventBook [] db'.eventBook := by
  obtain ⟨es, hevents⟩ := h.events_eq
  exact .of_eq hevents h.outboundLines_eq

/-- An accepted operation adds the lines that it ships, or undoes an event: an outbound
reversal with copies of its lines, an inbound reversal with none. -/
theorem Step.eventBook {op : Op} (h : Step db op db') :
    (∃ ls, op.Ships ls ∧ Appends db.eventBook ls db'.eventBook) ∨
      (∃ call original event, op = .reverseOutbound call ∧
        Reversed outboundReversal call db original event db') ∨
      ∃ call original event, op = .reverseInbound call ∧
        Reversed inboundReversal call db original event db' := by
  cases h with
  | adjustLot h => exact .inl ⟨[], rfl, .refl _⟩
  | submitOrder h => exact .inl ⟨_, h.saves, h.appends⟩
  | submitManual h => exact .inl ⟨_, h.saves, h.appends⟩
  | submitInbound hfind h => exact .inl ⟨[], rfl, h.appends⟩
  | commitInbound h => exact .inl ⟨[], rfl, h.appends⟩
  | reverseOutbound h => exact .inr (.inl ⟨_, _, _, rfl, h⟩)
  | reverseInbound h => exact .inr (.inr ⟨_, _, _, rfl, h⟩)
  | createCountDoc h =>
    obtain ⟨-, -, -, -, hframe⟩ := createDoc_run_ok h
    rw [hframe]
    exact .inl ⟨[], rfl, .refl _⟩
  | freezeCountDoc h =>
    obtain ⟨doc, basics, -, -, rfl⟩ := freezeDoc_run_ok h
    exact .inl ⟨[], rfl, .refl _⟩
  | updateCountDoc h =>
    obtain ⟨doc, countedBy, lines, -, -, -, -, rfl⟩ := updateDocLines_run_ok h
    exact .inl ⟨[], rfl, .refl _⟩
  | repostCountDoc hfind h => exact .inl ⟨[], rfl, .refl _⟩
  | postCountDoc h => exact .inl ⟨[], rfl, .of_eq h.events_eq h.outboundLines_eq⟩
  | voidCountDoc h =>
    obtain ⟨doc, -, rfl⟩ := voidDoc_run_ok h
    exact .inl ⟨[], rfl, .refl _⟩
  | addWarehouse h =>
    rw [(addWarehouse_run_ok h).2]
    exact .inl ⟨[], rfl, .refl _⟩
  | importOrder h =>
    rw [(importOrder_run_ok h).2.2]
    exact .inl ⟨[], rfl, .refl _⟩
  | createManualDoc h =>
    rw [(createManualDoc_run_ok h).2.2.2.2]
    exact .inl ⟨[], rfl, .refl _⟩
  | releaseManualDoc h =>
    obtain ⟨-, -, -, -, -, hframe⟩ := releaseManualDoc_run_ok h
    rw [hframe]
    exact .inl ⟨[], rfl, .refl _⟩
  | voidManualDoc h =>
    rw [(voidManualDoc_run_ok h).2]
    exact .inl ⟨[], rfl, .refl _⟩
  | storeReceipt h =>
    rw [storeReceipt_run_ok h]
    exact .inl ⟨[], rfl, .refl _⟩

/-! ## Documents -/

/-- Operations that bring warehouses, orders or manual documents into the database. -/
def Op.BringsDocuments : Op → Prop
  | .addWarehouse _ | .importOrder _ _ | .createManualDoc _ _ => True
  | _ => False

/-- Other accepted operations leave warehouses, orders and the lines of documents alone. -/
theorem Step.sameDocuments {op : Op} (h : Step db op db') (hop : ¬op.BringsDocuments) :
    SameDocuments db db' := by
  cases h with
  | adjustLot h => exact ⟨rfl, rfl, rfl, rfl⟩
  | submitOrder h => exact h.frame.1
  | submitManual h => exact h.frame.1
  | submitInbound hfind h =>
    rw [h.frame]
    exact ⟨rfl, rfl, rfl, rfl⟩
  | commitInbound h =>
    rw [h.frame]
    exact ⟨rfl, rfl, rfl, rfl⟩
  | reverseOutbound h =>
    rw [h.frame]
    exact ⟨rfl, rfl, rfl, rfl⟩
  | reverseInbound h =>
    rw [h.frame]
    exact ⟨rfl, rfl, rfl, rfl⟩
  | createCountDoc h =>
    obtain ⟨-, -, -, -, hframe⟩ := createDoc_run_ok h
    rw [hframe]
    exact ⟨rfl, rfl, rfl, rfl⟩
  | freezeCountDoc h =>
    obtain ⟨doc, basics, -, -, rfl⟩ := freezeDoc_run_ok h
    exact ⟨rfl, rfl, rfl, rfl⟩
  | updateCountDoc h =>
    obtain ⟨doc, countedBy, lines, -, -, -, -, rfl⟩ := updateDocLines_run_ok h
    exact ⟨rfl, rfl, rfl, rfl⟩
  | repostCountDoc hfind h => exact ⟨rfl, rfl, rfl, rfl⟩
  | postCountDoc h =>
    rw [h.frame]
    exact ⟨rfl, rfl, rfl, rfl⟩
  | voidCountDoc h =>
    obtain ⟨doc, -, rfl⟩ := voidDoc_run_ok h
    exact ⟨rfl, rfl, rfl, rfl⟩
  | addWarehouse h => exact absurd trivial hop
  | importOrder h => exact absurd trivial hop
  | createManualDoc h => exact absurd trivial hop
  | releaseManualDoc h =>
    obtain ⟨-, -, -, -, -, hframe⟩ := releaseManualDoc_run_ok h
    rw [hframe]
    exact ⟨rfl, rfl, rfl, rfl⟩
  | voidManualDoc h =>
    rw [(voidManualDoc_run_ok h).2]
    exact ⟨rfl, rfl, rfl, rfl⟩
  | storeReceipt h =>
    rw [storeReceipt_run_ok h]
    exact ⟨rfl, rfl, rfl, rfl⟩

/-- An accepted operation other than an import leaves the order lines alone. -/
theorem Step.orderLines_eq {op : Op} (h : Step db op db')
    (hop : ∀ o lines, op ≠ .importOrder o lines) : db'.orderLines = db.orderLines := by
  by_cases hbrings : op.BringsDocuments
  · cases h with
    | addWarehouse h => rw [(addWarehouse_run_ok h).2]
    | @importOrder o lines _ h => exact absurd rfl (hop o lines)
    | createManualDoc h => rw [(createManualDoc_run_ok h).2.2.2.2]
    | _ => exact hbrings.elim
  · exact (h.sameDocuments hbrings).orderLines_eq

/-- An accepted operation other than a creation leaves the lines of manual documents
alone. -/
theorem Step.manualLines_eq {op : Op} (h : Step db op db')
    (hop : ∀ d lines, op ≠ .createManualDoc d lines) : db'.manualLines = db.manualLines := by
  by_cases hbrings : op.BringsDocuments
  · cases h with
    | addWarehouse h => rw [(addWarehouse_run_ok h).2]
    | importOrder h => rw [(importOrder_run_ok h).2.2]
    | @createManualDoc d lines _ h => exact absurd rfl (hop d lines)
    | _ => exact hbrings.elim
  · exact (h.sameDocuments hbrings).manualLines_eq

/-- Operations on the manual document with an identifier. -/
def Op.OnManualDoc (docId : ℕ) : Op → Prop
  | .submitManual call => call.docId = docId
  | .createManualDoc d _ => d.id = docId
  | .releaseManualDoc id => id = docId
  | .voidManualDoc id => id = docId
  | _ => False

/-- A change of the documents that keeps their identifiers. -/
theorem findManualDoc_map {f : ManualDoc → ManualDoc} (hid : ∀ d, (f d).id = d.id)
    (hrows : db'.manualDocs.rows = db.manualDocs.rows.map f) (docId : ℕ) :
    db'.findManualDoc docId = (db.findManualDoc docId).map f := by
  unfold Database.findManualDoc
  have hcomp : (fun d : ManualDoc => decide (d.id = docId)) ∘ f = fun d => decide (d.id = docId) := by
    funext d
    change decide ((f d).id = docId) = _
    rw [hid]
  rw [hrows, List.find?_map, hcomp]

/-- A change that leaves a document alone does not change what is found. -/
theorem findManualDoc_map_eq {f : ManualDoc → ManualDoc} (hid : ∀ d, (f d).id = d.id)
    (hrows : db'.manualDocs.rows = db.manualDocs.rows.map f) {docId : ℕ}
    (hkeep : ∀ d, d.id = docId → f d = d) : db'.findManualDoc docId = db.findManualDoc docId := by
  rw [findManualDoc_map hid hrows]
  cases hfind : db.findManualDoc docId with
  | none => rfl
  | some d => rw [Option.map_some, hkeep d (findManualDoc_eq_some hfind).2]

/-- What a submission does to the documents: its own is completed when all its lines have
gone out. -/
theorem ManualSubmitted.doc_eq {call : ManualSubmitCall} {event : WmsEvent}
    {saved : List OutboundEventLine} (h : ManualSubmitted db call event saved db') :
    ∃ doc, db.findManualDoc call.docId = some doc ∧ doc.status = .released ∧
      db.manualLinesOf call.docId ≠ [] ∧
      ((ManualCompleted db' call.docId ∧
          db'.manualDocs.rows = db.manualDocs.rows.map (ManualDoc.complete call.docId)) ∨
        (¬ManualCompleted db' call.docId ∧ db'.manualDocs = db.manualDocs)) := by
  obtain ⟨doc, lines, rows, db₁, hprep, hship, hopen, hdone⟩ := h.prepared
  obtain ⟨hfind, hstatus, hlines, -, -, -⟩ := prepareManualSubmit_eq_ok hprep
  refine ⟨doc, hfind, hstatus, hlines, ?_⟩
  have hdocs : db₁.manualDocs = db.manualDocs := by rw [hship.frame]; rfl
  by_cases hcompleted : ManualCompleted db₁ call.docId
  · refine .inl ⟨?_, ?_⟩
    · rw [(hdone hcompleted).1]
      exact hcompleted
    · rw [(hdone hcompleted).1, ← hdocs]
      rfl
  · rw [hopen hcompleted]
    exact .inr ⟨hcompleted, hdocs⟩

/-- A submission names lines of its document. -/
theorem ManualSubmitted.named {call : ManualSubmitCall} {event : WmsEvent}
    {saved : List OutboundEventLine} (h : ManualSubmitted db call event saved db') :
    ∀ raw ∈ call.lines, ∃ l ∈ db.manualLinesOf call.docId, l.id = raw.sourceLineId := by
  obtain ⟨doc, lines, rows, db₁, hprep, -, -, -⟩ := h.prepared
  obtain ⟨-, -, -, -, hall, -⟩ := prepareManualSubmit_eq_ok hprep
  intro raw hraw
  obtain ⟨n, hn, rfl⟩ := List.getElem_of_mem hraw
  have hlen := hall.length_eq
  obtain ⟨src, hsrc, -⟩ := (hall.get hn (by omega)).source_eq
  obtain ⟨l, hfind, -⟩ := Option.map_eq_some_iff.mp hsrc
  exact ⟨l, List.mem_of_find?_eq_some hfind, by simpa using List.find?_some hfind⟩

/-- Operations that change manual documents. -/
def Op.ChangesManualDocs : Op → Prop
  | .submitManual _ | .createManualDoc _ _ | .releaseManualDoc _ | .voidManualDoc _ => True
  | _ => False

theorem Step.manualDocs_eq {op : Op} (h : Step db op db') (hop : ¬op.ChangesManualDocs) :
    db'.manualDocs = db.manualDocs := by
  cases h with
  | adjustLot h => rfl
  | submitOrder h => exact h.frame.2.2
  | submitManual h => exact absurd trivial hop
  | submitInbound hfind h => rw [h.frame]
  | commitInbound h => rw [h.frame]
  | reverseOutbound h => rw [h.frame]; rfl
  | reverseInbound h => rw [h.frame]; rfl
  | createCountDoc h =>
    obtain ⟨-, -, -, -, hframe⟩ := createDoc_run_ok h
    rw [hframe]
  | freezeCountDoc h =>
    obtain ⟨doc, basics, -, -, rfl⟩ := freezeDoc_run_ok h
    rfl
  | updateCountDoc h =>
    obtain ⟨doc, countedBy, lines, -, -, -, -, rfl⟩ := updateDocLines_run_ok h
    rfl
  | repostCountDoc hfind h => rfl
  | postCountDoc h => rw [h.frame]
  | voidCountDoc h =>
    obtain ⟨doc, -, rfl⟩ := voidDoc_run_ok h
    rfl
  | addWarehouse h => rw [(addWarehouse_run_ok h).2]
  | importOrder h => rw [(importOrder_run_ok h).2.2]
  | createManualDoc h => exact absurd trivial hop
  | releaseManualDoc h => exact absurd trivial hop
  | voidManualDoc h => exact absurd trivial hop
  | storeReceipt h => rw [storeReceipt_run_ok h]

/-- An accepted operation that is not on a manual document leaves it alone. -/
theorem Step.findManualDoc_eq {op : Op} (h : Step db op db') {docId : ℕ}
    (hop : ¬op.OnManualDoc docId) : db'.findManualDoc docId = db.findManualDoc docId := by
  by_cases hchanges : op.ChangesManualDocs
  · cases h with
    | @submitManual call event saved _ h =>
      obtain ⟨doc, -, -, -, ⟨-, hrows⟩ | ⟨-, hdocs⟩⟩ := h.doc_eq
      · refine findManualDoc_map_eq (ManualDoc.complete_id _) hrows fun d hd => ?_
        exact if_neg fun heq => hop (heq.1.symm.trans hd)
      · unfold Database.findManualDoc
        rw [hdocs]
    | @createManualDoc d lines _ h =>
      obtain ⟨-, -, hrows, -, -⟩ := createManualDoc_run_ok h
      unfold Database.findManualDoc
      have hother : d.id ≠ docId := hop
      rw [hrows, List.find?_append, List.find?_singleton, if_neg (by simpa using hother),
        Option.or_none]
    | @releaseManualDoc id _ h =>
      obtain ⟨-, -, -, -, hrows, -⟩ := releaseManualDoc_run_ok h
      refine findManualDoc_map_eq (ManualDoc.release_id _) hrows fun d hd => ?_
      exact if_neg fun heq => hop (heq.1.symm.trans hd)
    | @voidManualDoc id _ h =>
      refine findManualDoc_map_eq (ManualDoc.void_id _) (voidManualDoc_run_ok h).1 fun d hd => ?_
      exact if_neg fun heq => hop (heq.1.symm.trans hd)
    | _ => exact hchanges.elim
  · unfold Database.findManualDoc
    rw [h.manualDocs_eq hchanges]

end Wms

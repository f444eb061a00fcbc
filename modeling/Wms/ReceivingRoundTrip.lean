import Wms.Inbound.Task
import Wms.Reversal
import Wms.System

/-!
# Receiving and its reversal

Reversing the event of an operation takes the received stock out again. The operation
stays, with its lines, and so does the mark of a completed receipt: the progress of the
receipt, which is the sum over its operations, is not brought back.
-/

namespace Wms

open Foundation Foundation.Journal

/-- Stock and progress of the receipt are as they were, for the next operation and for
the task, and the receipt is not completed. -/
structure ReceivingUndone (db : Database) (receiptNo : String) (db' : Database) : Prop where
  stock_eq : ∀ k, db'.books.stock k = db.books.stock k
  received_eq : ∀ r, db.findReceipt receiptNo = some r → ∀ l ∈ r.lines,
    receivedQtyBase db'.operations receiptNo l.lineNo =
      receivedQtyBase db.operations receiptNo l.lineNo
  task_eq : ∀ pms task task', getInboundTask pms db receiptNo = .ok task →
    getInboundTask pms db' receiptNo = .ok task' →
      task'.lines.map InboundTaskLine.receivedQtyBase =
        task.lines.map InboundTaskLine.receivedQtyBase
  notCompleted : ∀ r, db'.findReceipt receiptNo = some r → r.status ≠ .completed

variable {db db' db₁ db₂ : Database} {call : OperationCall} {reversal : ReversalCall}
  {event reversed original : WmsEvent} {receipt : InboundReceipt} {line : ReceiptLine}
  {policy : ItemPolicy} {st st' : OperationProgress}

/-! ## What an operation adds -/

/-- The loop over the entries of a line adds lines of the operation. -/
theorem receiveEntries_lines {entries : List OperationEntryIn}
    (h : (entries.foldlM (receiveEntry call receipt event line policy) st).run db = .ok (st', db')) :
    ∃ ls, st'.lines = st.lines ++ ls ∧ ls.length = entries.length := by
  induction entries generalizing st db with
  | nil =>
    obtain ⟨rfl, -⟩ := Tx.run_pure_ok.mp h
    exact ⟨[], (List.append_nil _).symm, rfl⟩
  | cons entry entries ih =>
    rw [List.foldlM_cons, Tx.run_bind_ok] at h
    obtain ⟨st₁, db₁, hentry, hrest⟩ := h
    obtain ⟨l, -, hlines, -⟩ := receiveEntry_run_ok hentry
    obtain ⟨ls, hls, hlength⟩ := ih hrest
    refine ⟨l :: ls, ?_, by rw [List.length_cons, List.length_cons, hlength]⟩
    rw [hls, hlines, List.append_assoc, List.singleton_append]

theorem receiveLine_lines {raw : OperationLineIn}
    (h : (receiveLine call receipt event st raw).run db = .ok (st', db')) :
    ∃ ls, st'.lines = st.lines ++ ls ∧ ls ≠ [] := by
  unfold receiveLine at h
  simp only [Tx.run_bind_ok, Tx.run_demand_ok, Tx.run_ofExcept_ok] at h
  obtain ⟨line, _, ⟨-, rfl⟩, _, _, ⟨-, rfl⟩, policy, _, ⟨-, rfl⟩, hloop⟩ := h
  obtain ⟨ls, hls, hlength⟩ := receiveEntries_lines hloop
  refine ⟨ls, hls, ?_⟩
  rw [← List.length_pos_iff_ne_nil, hlength]
  exact List.length_pos_iff_ne_nil.mpr raw.entries_ne

/-- The loop over the lines adds at least one line of the operation. -/
theorem receiveLines_lines {raws : List OperationLineIn} (hne : raws ≠ [])
    (h : (raws.foldlM (receiveLine call receipt event) st).run db = .ok (st', db')) :
    st'.lines ≠ [] := by
  obtain ⟨raw, raws, rfl⟩ := List.exists_cons_of_ne_nil hne
  rw [List.foldlM_cons, Tx.run_bind_ok] at h
  obtain ⟨st₁, db₁, hraw, hrest⟩ := h
  obtain ⟨ls, hls, hne⟩ := receiveLine_lines hraw
  have hstart : st₁.lines ≠ [] := by
    rw [hls]
    exact List.append_ne_nil_of_right_ne_nil _ hne
  refine Tx.foldlM_invariant (I := fun st' _ => st'.lines ≠ []) ?_ hstart hrest
  rintro raw' - st₂ db₂ st₃ db₃ hst hrun
  obtain ⟨ls', hls', -⟩ := receiveLine_lines hrun
  rw [hls']
  exact List.append_ne_nil_of_left_ne_nil hst _

/-- A reversal leaves the receipts and the operations alone. -/
theorem Reversed.tasks_eq {L : Type} {kind : ReversalKind L}
    (h : Reversed kind reversal db original event db') :
    db'.receipts = db.receipts ∧ db'.operations = db.operations := by
  rw [h.frame]
  exact ⟨rfl, rfl⟩

/-- After an operation and a reversal each line of the receipt has received what the
operation delivered for it, for the operation delivered something. -/
theorem receivedQtyBase_after_reversal
    (hsubmit : (submitInboundOperation call).run db = .ok (event, db₁))
    (hreverse : (reverseInboundEvent reversal).run db₁ = .ok (reversed, db₂)) :
    ∃ receipt ls, db.findReceipt call.receiptNo = some receipt ∧ ls ≠ [] ∧
      (∀ l ∈ ls, ∃ rl ∈ receipt.lines, l.For rl) ∧
      ∀ n, receivedQtyBase db₂.operations call.receiptNo n =
        receivedQtyBase db.operations call.receiptNo n + deliveredQty ls n := by
  obtain ⟨receipt, operatorName, db', st, db'', hfind, -, hevent, hloop, rfl⟩ :=
    submitInboundOperation_steps hsubmit
  obtain ⟨hdelivered, hsame⟩ := receiveLines_run_ok (Delivered.start receipt _) hloop
  obtain ⟨original, hreversed⟩ := reverseEvent_run_ok hreverse
  have hno : receipt.receiptNo.text = call.receiptNo := by simpa using List.find?_some hfind
  have hsame' : SameTasks db db'' := trans_of SameTasks (recordEvent_sameTasks _ db _ db' hevent) hsame
  refine ⟨receipt, st.lines, hfind, receiveLines_lines call.lines_ne hloop, ?_, ?_⟩
  · intro l hl
    obtain ⟨rl, hrl, hfor, -⟩ := hdelivered.lines_for l hl
    exact ⟨rl, hrl, hfor⟩
  · intro n
    rw [hreversed.tasks_eq.2]
    change deliveredQty (deliveriesOf (db''.operations ++ [_]) call.receiptNo) n =
      deliveredQty (deliveriesOf db.operations call.receiptNo) n + _
    rw [deliveriesOf_append, if_pos hno, deliveredQty_append, hsame'.operations_eq]

/-- No operation followed by the reversal of its event is undone. -/
theorem not_receivingUndone
    (hsubmit : (submitInboundOperation call).run db = .ok (event, db₁))
    (hreverse : (reverseInboundEvent reversal).run db₁ = .ok (reversed, db₂)) :
    ¬ReceivingUndone db call.receiptNo db₂ := by
  intro hundone
  obtain ⟨receipt, ls, hfind, hne, hfor, hreceived⟩ := receivedQtyBase_after_reversal hsubmit hreverse
  obtain ⟨l, hl⟩ := List.exists_mem_of_ne_nil _ hne
  obtain ⟨rl, hrl, hline, -⟩ := hfor l hl
  have hsame := hundone.received_eq receipt hfind rl hrl
  have hpos : 0 < deliveredQty ls rl.lineNo := by
    apply List.sum_pos
    · intro q hq
      obtain ⟨l', -, rfl⟩ := List.mem_map.mp hq
      exact l'.qtyBase_pos
    · intro hnil
      have hmem : l ∈ ls.filter fun l => l.receiptLineNoSnapshot = rl.lineNo :=
        List.mem_filter.mpr ⟨hl, decide_eq_true hline⟩
      rw [List.map_eq_nil_iff.mp hnil] at hmem
      cases hmem
  rw [hreceived] at hsame
  omega

/-! ## The stock -/

/-- What inbound lines put into a slot of the warehouse. -/
def receivedInto (w : ℕ) (ls : List InboundEventLine) (k : SlotKey) : ℤ :=
  ((ls.filter fun l => l.lotId.map (SlotKey.mk w l.itemId) = some k).map
    InboundEventLine.qtyBase).sum

theorem receivedInto_append (w : ℕ) (ls ms : List InboundEventLine) (k : SlotKey) :
    receivedInto w (ls ++ ms) k = receivedInto w ls k + receivedInto w ms k := by
  simp [receivedInto]

theorem receivedInto_perm {w : ℕ} {ls ms : List InboundEventLine} (h : ls.Perm ms) (k : SlotKey) :
    receivedInto w ls k = receivedInto w ms k :=
  ((h.filter _).map _).sum_eq

/-- The transaction has added lines to the event and put their quantities into stock. -/
def Receives (w eventId : ℕ) (db db' : Database) : Prop :=
  ∃ ls, db'.eventBook.inboundLines.rows = db.eventBook.inboundLines.rows ++ ls ∧
    (∀ l ∈ ls, l.eventId = eventId) ∧
    ∀ k, db'.books.stock k = db.books.stock k + receivedInto w ls k

instance (w eventId : ℕ) : IsPreorder Database (Receives w eventId) where
  refl _ := ⟨[], (List.append_nil _).symm, by simp, fun _ => (add_zero _).symm⟩
  trans a b c := by
    rintro ⟨ls, hls, hevent, hstock⟩ ⟨ms, hms, hevent', hstock'⟩
    refine ⟨ls ++ ms, by rw [hms, hls, List.append_assoc], ?_, ?_⟩
    · intro l hl
      rcases List.mem_append.mp hl with h | h
      · exact hevent l h
      · exact hevent' l h
    · intro k
      rw [hstock', hstock, receivedInto_append, add_assoc]

/-- An entry puts its quantity into the slot of its lot. -/
theorem receiveEntry_receives (entry : OperationEntryIn) :
    Tx.Follows (Receives receipt.warehouseId event.id)
      (receiveEntry call receipt event line policy st entry) := by
  intro db st' db' h
  unfold receiveEntry at h
  simp only [Tx.run_bind_ok, Tx.run_ofExcept_ok, Tx.run_failIf_ok, Tx.run_get_ok,
    Tx.run_pure_ok, onBooks_run_ok, onEvents_run_ok] at h
  obtain ⟨uom, _, ⟨-, rfl⟩, _, _, ⟨-, rfl⟩, _, _, ⟨-, rfl⟩, _, _, ⟨-, rfl⟩, _, _, ⟨-, rfl⟩,
    lotId, _, ⟨b₁, hlot, rfl⟩, _, _, ⟨-, rfl⟩, l, _, ⟨eb, hinsert, rfl⟩, _, _, ⟨rfl, rfl⟩, _, _,
    ⟨b₂, hstock, rfl⟩, -, rfl⟩ := h
  obtain ⟨hrow, hlines, -, -⟩ := insertInboundLine_run_ok hinsert
  obtain ⟨hevent, -, hitem, hqty, hlotId⟩ := InboundLineValues.row_eq_ok hrow
  have hsame : SameStock db.books b₁ := resolveInboundLot_sameStock _ _ _ _ _ _ _ _ _ hlot
  obtain ⟨row, hrow', hslot, hmoved⟩ := receiveStock_run_ok
    (v := operationLedgerValues call event ⟨receipt.warehouseId, line.itemId, lotId⟩ entry
      (entry.qtyInbound * uom.ratio) (st.eventLineNo + 1))
    (fun _ => rfl) (fun _ => rfl) (fun _ => rfl) hstock
  have hdelta : row.delta = l.qtyBase := by
    rw [hqty]
    exact (LedgerValues.row_eq_ok hrow').2.2.1
  refine ⟨[l], hlines, ?_, ?_⟩
  · intro l' hl'
    rw [List.mem_singleton.mp hl', hevent]
  · intro k
    have hkey : l.lotId.map (SlotKey.mk receipt.warehouseId l.itemId) =
        some ⟨receipt.warehouseId, line.itemId, lotId⟩ := by
      rw [hlotId, hitem]
      rfl
    have hinto : receivedInto receipt.warehouseId [l] k =
        movement k ([row].map LedgerRow.posting) := by
      rw [List.map_singleton, movement_cons]
      change _ = (if row.slot = k then row.delta else 0) + 0
      rw [hslot, hdelta, add_zero, receivedInto, List.filter_cons, List.filter_nil]
      by_cases heq : (⟨receipt.warehouseId, line.itemId, lotId⟩ : SlotKey) = k <;>
        simp [hkey, heq]
    rw [hinto]
    change b₂.stock k = db.books.stock k + _
    rw [hmoved.stock_eq k, ← congrFun hsame.1 k]
    rfl

theorem receiveLine_receives (st : OperationProgress) (raw : OperationLineIn) :
    Tx.Follows (Receives receipt.warehouseId event.id) (receiveLine call receipt event st raw) :=
  (Tx.follows_demand _ _).bind fun _ => (Tx.follows_ofExcept _).bind fun _ =>
    (Tx.follows_demand _ _).bind fun _ =>
    Tx.follows_foldlM _ (fun _ entry => receiveEntry_receives entry) st

/-- An event that is not there has no inbound lines. -/
theorem EventBook.inboundLinesOf_eq_nil {eb : EventBook} {id : ℕ} (h : id ∉ eb.ids) :
    eb.inboundLines.rows.filter (fun l => l.eventId = id) = [] := by
  rw [List.filter_eq_nil_iff]
  intro l hl heq
  have hmem := eb.inbound_fk l hl
  rw [of_decide_eq_true heq] at hmem
  exact h hmem

/-- The lines of the event of an operation, and what they have put into stock. -/
theorem submitInboundOperation_receives
    (h : (submitInboundOperation call).run db = .ok (event, db')) :
    event ∈ db'.eventBook.events.rows ∧
      ∀ k, db'.books.stock k = db.books.stock k +
        receivedInto event.warehouseId (db'.eventBook.inboundLinesOf event.id) k := by
  obtain ⟨receipt, operatorName, db₁, st, db₂, -, -, hevent, hloop, rfl⟩ :=
    submitInboundOperation_steps h
  obtain ⟨-, hrow, -, eb, hevents, -, hinbound, rfl⟩ := recordEvent_run_ok hevent
  obtain ⟨hid, -, hwarehouse, -⟩ := EventValues.row_eq_ok hrow
  obtain ⟨-, -, ⟨es, hes⟩, -⟩ :=
    Tx.follows_foldlM _ (receiveLine_inboundOnly call receipt event) _ _ _ _ hloop
  have hline : ∀ st raw, Tx.Follows (Receives receipt.warehouseId event.id)
      (receiveLine call receipt event st raw) := fun st raw => receiveLine_receives st raw
  obtain ⟨ls, hls, hof, hstock⟩ := Tx.follows_foldlM _ hline _ _ _ _ hloop
  constructor
  · change event ∈ db₂.eventBook.events.rows
    rw [hes]
    change event ∈ eb.events.rows ++ es
    simp [hevents]
  · intro k
    -- the event is new, so that all its lines are those of the loop
    have hold : db.eventBook.inboundLines.rows.filter (fun l => l.eventId = event.id) = [] := by
      apply EventBook.inboundLinesOf_eq_nil
      rw [hid]
      exact nextId_notMem _
    have hall : ls.filter (fun l => l.eventId = event.id) = ls :=
      List.filter_eq_self.mpr fun l hl => decide_eq_true (hof l hl)
    have hperm : (db₂.eventBook.inboundLinesOf event.id).Perm ls := by
      unfold EventBook.inboundLinesOf
      rw [hls, List.filter_append, hall]
      change (List.insertionSort _ (eb.inboundLines.rows.filter _ ++ ls)).Perm ls
      rw [hinbound, hold, List.nil_append]
      exact List.perm_insertionSort _ _
    change db₂.books.stock k = db.books.stock k +
      receivedInto event.warehouseId (db₂.eventBook.inboundLinesOf event.id) k
    rw [receivedInto_perm hperm, hwarehouse]
    exact hstock k

/-- After an operation and the reversal of its event the stock is what it was, if the
number of the reversal was not yet a reference in the ledger. -/
theorem stock_after_receiving_reversal
    (hsubmit : (submitInboundOperation call).run db = .ok (event, db₁))
    (hreverse : (reverseInboundEvent reversal).run db₁ = .ok (reversed, db₂))
    (htarget : reversal.eventId = event.id) (hfree : db₁.books.RefFree reversal.eventNo.text)
    (k : SlotKey) : db₂.books.stock k = db.books.stock k := by
  obtain ⟨hmem, hstock⟩ := submitInboundOperation_receives hsubmit
  obtain ⟨original, hreversed⟩ := reverseEvent_run_ok hreverse
  obtain rfl : original = event :=
    EventBook.eq_of_id_eq hreversed.original_mem hmem (hreversed.original_id.trans htarget)
  obtain ⟨rows, hrows, hmoved⟩ := hreversed.moved hfree
  have hback : movement k (rows.map LedgerRow.posting) =
      -receivedInto original.warehouseId (db₁.eventBook.inboundLinesOf original.id) k := by
    rw [ReversalKind.movement_adjustRows hrows k, receivedInto, List.sum_neg, List.map_map]
    rfl
  rw [hmoved.stock_eq k, hback, hstock k]
  ring

/-! ## A receipt of five pieces -/

/-- The line of the receipt. -/
def fivePlannedLine : ReceiptLine where
  lineNo := 1
  sourceLineId := none
  itemId := 1
  itemUomId := 1
  plannedQty := 5
  itemNameSnapshot := none
  itemSpecSnapshot := none
  uomNameSnapshot := none
  ratioToBaseSnapshot := 1
  remark := none
  planned_pos := by decide
  ratio_pos := by decide

/-- A released receipt of five pieces. -/
def fivePlanned : InboundReceipt where
  id := 1
  receiptNo := ⟨"IR-M-1", by decide⟩
  sourceType := .manual
  sourceDocId := none
  sourceDocNoSnapshot := none
  warehouseId := 1
  warehouseNameSnapshot := none
  supplierId := none
  counterpartyNameSnapshot := none
  status := .released
  remark := none
  createdBy := none
  releasedAt := some 0
  lines := [fivePlannedLine]
  lines_unique := List.pairwise_singleton _ _

theorem fivePieces_pos : (1 : ℤ) ≤ 5 := by decide

theorem undated_ordered : ∀ pd ∈ (none : Option Date), ∀ ed ∈ (none : Option Date), pd ≤ ed := by
  intro _ h
  cases h

/-- All five pieces are delivered. -/
def deliverFive : OperationCall where
  receiptNo := "IR-M-1"
  remark := none
  lines := [⟨1, [⟨5, none, none, none, none, none, none, fivePieces_pos, undated_ordered⟩],
    List.cons_ne_nil _ _⟩]
  operatorId := none
  operatorName := none
  operatedAt := 0
  eventNo := ⟨"IE-M-1", by decide⟩
  traceId := ⟨"IN-M-1", by decide⟩
  pms := plainPms
  lines_ne := List.cons_ne_nil _ _
  lines_unique := List.pairwise_singleton _ _

/-- The state with the receipt. -/
def receiptReleased : Database :=
  Database.after [.addWarehouse ⟨1, ⟨"WH1", by decide⟩⟩, .storeReceipt fivePlanned]

/-- The reversal of an inbound event. -/
def reverseDelivery (eventId : ℕ) : ReversalCall where
  eventId := eventId
  occurredAt := 0
  remark := none
  userId := none
  eventNo := ⟨"IR-1", by decide⟩
  traceId := ⟨"IN-REV-1", by decide⟩
  pms := plainPms
  utcNow := 0

/-- Receive the five pieces and reverse the event. -/
def deliverAndReverse : Trans WmsEvent := do
  let event ← submitInboundOperation deliverFive
  reverseInboundEvent (reverseDelivery event.id)

theorem deliverAndReverse_run_ok : ∃ event db₁ reversed,
    (submitInboundOperation deliverFive).run receiptReleased = .ok (event, db₁) ∧
      (reverseInboundEvent (reverseDelivery event.id)).run db₁ =
        .ok (reversed, deliverAndReverse.attempt receiptReleased) := by
  obtain ⟨reversed, db₂, hrun⟩ := Tx.exists_run_of_toBool (x := deliverAndReverse)
    (s := receiptReleased) (by decide +kernel)
  have hstate := Tx.attempt_of_run hrun
  rw [← hstate] at hrun
  obtain ⟨event, db₁, hsubmit, hreverse⟩ := Tx.run_bind_ok.mp hrun
  exact ⟨event, db₁, reversed, hsubmit, hreverse⟩

theorem not_receivingUndone_deliverFive : ¬ReceivingUndone receiptReleased deliverFive.receiptNo
    (deliverAndReverse.attempt receiptReleased) := by
  obtain ⟨event, db₁, reversed, hsubmit, hreverse⟩ := deliverAndReverse_run_ok
  exact not_receivingUndone hsubmit hreverse

/-- The five pieces still count as received, and the receipt stays completed. -/
theorem not_forall_receivingUndone : ¬∀ (ops : List Op) (call : OperationCall)
    (reversal : ReversalCall) (event reversed : WmsEvent) (db₁ db₂ : Database),
    (submitInboundOperation call).run (Database.after ops) = .ok (event, db₁) →
      (reverseInboundEvent reversal).run db₁ = .ok (reversed, db₂) →
        reversal.eventId = event.id → ReceivingUndone (Database.after ops) call.receiptNo db₂ := by
  intro h
  obtain ⟨event, db₁, reversed, hsubmit, hreverse⟩ := deliverAndReverse_run_ok
  have hundone := h _ _ _ event reversed db₁ _ hsubmit hreverse rfl
  have hlines : (receiptReleased.findReceipt deliverFive.receiptNo).map
      (fun r => r.lines.map ReceiptLine.lineNo) = some [1] := by decide +kernel
  obtain ⟨r, hfind, hnos⟩ := Option.map_eq_some_iff.mp hlines
  obtain ⟨l, hl, hno⟩ := List.mem_map.mp (hnos ▸ List.mem_singleton_self 1)
  have hsame := hundone.received_eq r hfind l hl
  rw [hno] at hsame
  exact absurd hsame (by decide +kernel)

end Wms

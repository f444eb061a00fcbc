import Wms.Inbound.Operation

/-!
# The progress of a receipt

What an operation adds to the deliveries of its receipt. Every line of the operation is
for a line of the receipt, and after it no line that it delivers for has received more
than was planned, counted from the progress that the operation started with.
-/

namespace Wms

open Foundation

/-- The quantity that lines of operations deliver for one line of a receipt. -/
def deliveredQty (lines : List OperationLine) (lineNo : ℕ) : ℤ :=
  ((lines.filter fun l => l.receiptLineNoSnapshot = lineNo).map OperationLine.qtyBase).sum

@[simp] theorem deliveredQty_nil (n : ℕ) : deliveredQty [] n = 0 := rfl

theorem deliveredQty_append (ls ms : List OperationLine) (n : ℕ) :
    deliveredQty (ls ++ ms) n = deliveredQty ls n + deliveredQty ms n := by
  simp [deliveredQty]

theorem deliveredQty_singleton (l : OperationLine) (n : ℕ) :
    deliveredQty [l] n = if l.receiptLineNoSnapshot = n then l.qtyBase else 0 := by
  by_cases h : l.receiptLineNoSnapshot = n <;> simp [deliveredQty, h]

/-- A delivery is never negative. -/
theorem OperationLine.qtyBase_pos (l : OperationLine) : 0 < l.qtyBase := by
  rw [l.qtyBase_eq]
  exact mul_pos l.qtyInput_pos l.ratio_pos

theorem deliveredQty_nonneg (ls : List OperationLine) (n : ℕ) : 0 ≤ deliveredQty ls n := by
  refine List.sum_nonneg fun q hq => ?_
  obtain ⟨l, -, rfl⟩ := List.mem_map.mp hq
  exact l.qtyBase_pos.le

/-- The lines that operations have delivered under a receipt number. -/
def deliveriesOf (operations : List InboundOperation) (receiptNo : String) : List OperationLine :=
  (operations.filter fun o => o.receiptNoSnapshot.text = receiptNo).flatMap InboundOperation.lines

theorem deliveriesOf_append (ops : List InboundOperation) (o : InboundOperation) (no : String) :
    deliveriesOf (ops ++ [o]) no =
      deliveriesOf ops no ++ if o.receiptNoSnapshot.text = no then o.lines else [] := by
  unfold deliveriesOf
  by_cases h : o.receiptNoSnapshot.text = no <;> simp [h]

/-- No two lines of a receipt have the same number. -/
theorem InboundReceipt.line_ext (r : InboundReceipt) {a b : ReceiptLine} (ha : a ∈ r.lines)
    (hb : b ∈ r.lines) (h : a.lineNo = b.lineNo) : a = b := by
  have hnodup : (r.lines.map ReceiptLine.lineNo).Nodup := List.pairwise_map.mpr r.lines_unique
  exact List.inj_on_of_nodup_map hnodup ha hb h

/-- The line is a delivery for the line of the receipt. -/
def OperationLine.For (l : OperationLine) (rl : ReceiptLine) : Prop :=
  l.receiptLineNoSnapshot = rl.lineNo ∧ l.itemId = rl.itemId

/-- What the loop over the entries has done to the progress that it started with. -/
structure Delivered (receipt : InboundReceipt) (received₀ : ℕ → ℤ) (st : OperationProgress) :
    Prop where
  /-- Every line is a delivery for a line of the receipt, which has received no more than
  planned. -/
  lines_for : ∀ l ∈ st.lines, ∃ rl ∈ receipt.lines, l.For rl ∧
    st.received rl.lineNo ≤ rl.plannedQtyBase
  /-- The progress has grown by the lines. -/
  received_eq : ∀ n, st.received n = received₀ n + deliveredQty st.lines n

/-- The transaction has stored no receipt, no operation and no order, and the ledger has
only grown by rows that put stock in. -/
structure SameTasks (db db' : Database) : Prop where
  receipts_eq : db'.receipts = db.receipts
  operations_eq : db'.operations = db.operations
  orders_eq : db'.orders = db.orders
  ledger_grows : ∃ rows, db'.books.stockLedger.rows = db.books.stockLedger.rows ++ rows ∧
    ∀ r ∈ rows, 0 < r.delta

instance : IsPreorder Database SameTasks where
  refl _ := ⟨rfl, rfl, rfl, [], (List.append_nil _).symm, by simp⟩
  trans a b c hab hbc := by
    obtain ⟨rows, hrows, hpos⟩ := hab.ledger_grows
    obtain ⟨rows', hrows', hpos'⟩ := hbc.ledger_grows
    refine ⟨hbc.1.trans hab.1, hbc.2.trans hab.2, hbc.3.trans hab.3, rows ++ rows', ?_, ?_⟩
    · rw [hrows', hrows, List.append_assoc]
    · intro r hr
      rcases List.mem_append.mp hr with h | h
      · exact hpos r h
      · exact hpos' r h

theorem onBooks_sameTasks {α : Type} {x : Tx Books Err α}
    (hx : ∀ b a b', x.run b = .ok (a, b') →
      ∃ rows, b'.stockLedger.rows = b.stockLedger.rows ++ rows ∧ ∀ r ∈ rows, 0 < r.delta) :
    Tx.Follows SameTasks (onBooks x) := by
  intro db a db' h
  obtain ⟨b, hrun, rfl⟩ := onBooks_run_ok.mp h
  exact ⟨rfl, rfl, rfl, hx _ a b hrun⟩

theorem onEvents_sameTasks {α : Type} (x : Tx EventBook Err α) :
    Tx.Follows SameTasks (onEvents x) := by
  intro db a db' h
  obtain ⟨eb, -, rfl⟩ := onEvents_run_ok.mp h
  exact ⟨rfl, rfl, rfl, [], (List.append_nil _).symm, by simp⟩

theorem recordEvent_sameTasks (v : EventValues) : Tx.Follows SameTasks (recordEvent v) := by
  intro db e db' h
  obtain ⟨-, -, -, eb, -, -, -, rfl⟩ := recordEvent_run_ok h
  exact ⟨rfl, rfl, rfl, [], (List.append_nil _).symm, by simp⟩

variable {call : OperationCall} {receipt : InboundReceipt} {event : WmsEvent} {line : ReceiptLine}
  {policy : ItemPolicy} {st st' : OperationProgress} {entry : OperationEntryIn}
  {db db' : Database} {received₀ : ℕ → ℤ}

/-- The line of an operation says which line of the receipt it is for, and how much. -/
theorem operationLine_eq_ok {uom : UomSnapshot} {lotId : ℕ} {l : OperationLine}
    (h : operationLine line entry uom lotId = .ok l) :
    l.For line ∧ l.qtyBase = entry.qtyInbound * uom.ratio := by
  unfold operationLine at h
  simp only [bind, Except.bind] at h
  split at h
  · cases h
  · split at h
    · cases h
      exact ⟨⟨rfl, rfl⟩, rfl⟩
    · cases h

/-- Receiving stock adds a row to the ledger. -/
theorem receiveOperationStock_grows (knownEvents : List ℕ) (call : OperationCall)
    (event : WmsEvent) (k : SlotKey) (entry : OperationEntryIn) {delta : ℤ} (hpos : 0 < delta)
    (n : ℕ) (b : Books) (u : PUnit) (b' : Books)
    (h : (receiveStock knownEvents (operationLedgerValues call event k entry delta n) k delta).run
      b = .ok (u, b')) :
    ∃ rows, b'.stockLedger.rows = b.stockLedger.rows ++ rows ∧ ∀ r ∈ rows, 0 < r.delta := by
  obtain ⟨row, hrow, -, hmoved⟩ := receiveStock_run_ok
    (v := operationLedgerValues call event k entry delta n) (fun _ => rfl) (fun _ => rfl)
    (fun _ => rfl) h
  refine ⟨[row], hmoved.ledger_eq, ?_⟩
  intro r hr
  have hdelta : row.delta = delta := (LedgerValues.row_eq_ok hrow).2.2.1
  rw [List.mem_singleton.mp hr, hdelta]
  exact hpos

/-- An entry adds one line, and is refused when the receipt would have too much. -/
theorem receiveEntry_run_ok
    (h : (receiveEntry call receipt event line policy st entry).run db = .ok (st', db')) :
    ∃ l : OperationLine, l.For line ∧ st'.lines = st.lines ++ [l] ∧
      st'.received = Function.update st.received line.lineNo
        (st.received line.lineNo + l.qtyBase) ∧
      st.received line.lineNo + l.qtyBase ≤ line.plannedQtyBase ∧ SameTasks db db' := by
  unfold receiveEntry at h
  simp only [Tx.run_bind_ok, Tx.run_ofExcept_ok, Tx.run_failIf_ok, Tx.run_get_ok,
    Tx.run_pure_ok] at h
  obtain ⟨uom, _, ⟨-, rfl⟩, _, _, ⟨hfits, rfl⟩, _, _, ⟨-, rfl⟩, _, _, ⟨-, rfl⟩, _, _, ⟨-, rfl⟩,
    lotId, db₁, hlot, l, _, ⟨hline, rfl⟩, _, db₂, hinsert, _, _, ⟨rfl, rfl⟩, _, db₃, hstock, rfl,
    rfl⟩ := h
  obtain ⟨hfor, hqty⟩ := operationLine_eq_ok hline
  have hsame : SameTasks db db₁ := onBooks_sameTasks (fun b id b' hrun =>
    ⟨[], by rw [(resolveInboundLot_sameStock _ _ _ _ _ _ b id b' hrun).2, List.append_nil],
      by simp⟩)
    db lotId db₁ hlot
  have hsame' : SameTasks db₁ db₂ := onEvents_sameTasks _ db₁ _ db₂ hinsert
  have hsame'' : SameTasks db₂ db₃ := onBooks_sameTasks 
    (receiveOperationStock_grows _ call event _ entry (hqty ▸ l.qtyBase_pos) _) db₂ _ db₃ hstock
  refine ⟨l, hfor, rfl, by rw [hqty], ?_, trans_of SameTasks (trans_of SameTasks hsame hsame') hsame''⟩
  rw [hqty]
  exact not_lt.mp hfits

theorem Delivered.receiveEntry (hdelivered : Delivered receipt received₀ st)
    (hline : line ∈ receipt.lines)
    (h : (receiveEntry call receipt event line policy st entry).run db = .ok (st', db')) :
    Delivered receipt received₀ st' := by
  obtain ⟨l, hfor, hlines, hreceived, hfits, -⟩ := receiveEntry_run_ok h
  refine ⟨?_, fun n => ?_⟩
  · intro l' hl'
    rw [hlines] at hl'
    rcases List.mem_append.mp hl' with hold | hnew
    · obtain ⟨rl, hrl, hfor', hle⟩ := hdelivered.lines_for l' hold
      refine ⟨rl, hrl, hfor', ?_⟩
      rw [hreceived]
      by_cases hno : rl.lineNo = line.lineNo
      · obtain rfl := receipt.line_ext hrl hline hno
        rw [Function.update_self]
        exact hfits
      · rw [Function.update_of_ne hno]
        exact hle
    · rw [List.mem_singleton.mp hnew]
      refine ⟨line, hline, hfor, ?_⟩
      rw [hreceived, Function.update_self]
      exact hfits
  · rw [hreceived, hlines, deliveredQty_append, deliveredQty_singleton, hfor.1]
    have hold := hdelivered.received_eq
    by_cases hn : n = line.lineNo
    · rw [hn, Function.update_self, hold, if_pos rfl, add_assoc]
    · rw [Function.update_of_ne hn, hold, if_neg (Ne.symm hn), add_zero]

theorem receiveLine_run_ok {raw : OperationLineIn} (hdelivered : Delivered receipt received₀ st)
    (h : (receiveLine call receipt event st raw).run db = .ok (st', db')) :
    Delivered receipt received₀ st' ∧ SameTasks db db' := by
  unfold receiveLine at h
  simp only [Tx.run_bind_ok, Tx.run_demand_ok, Tx.run_ofExcept_ok] at h
  obtain ⟨line, _, ⟨hfind, rfl⟩, _, _, ⟨-, rfl⟩, policy, _, ⟨-, rfl⟩, hloop⟩ := h
  have hline : line ∈ receipt.lines := List.mem_of_find?_eq_some hfind
  refine Tx.foldlM_invariant
    (I := fun st' db' => Delivered receipt received₀ st' ∧ SameTasks db db') ?_
    ⟨hdelivered, refl_of SameTasks db⟩ hloop
  rintro entry - st₁ db₁ st₂ db₂ ⟨hst, hsame⟩ hentry
  obtain ⟨-, -, -, -, -, hsame'⟩ := receiveEntry_run_ok hentry
  exact ⟨hst.receiveEntry hline hentry, trans_of SameTasks hsame hsame'⟩

/-- Before the loop nothing is delivered. -/
theorem Delivered.start (receipt : InboundReceipt) (received₀ : ℕ → ℤ) :
    Delivered receipt received₀ ⟨0, received₀, []⟩ :=
  ⟨fun _ hl => absurd hl List.not_mem_nil, fun _ => (add_zero _).symm⟩

/-- The loop over the lines of an operation. -/
theorem receiveLines_run_ok {raws : List OperationLineIn}
    (hdelivered : Delivered receipt received₀ st)
    (h : (raws.foldlM (receiveLine call receipt event) st).run db = .ok (st', db')) :
    Delivered receipt received₀ st' ∧ SameTasks db db' := by
  refine Tx.foldlM_invariant
    (I := fun st' db' => Delivered receipt received₀ st' ∧ SameTasks db db') ?_
    ⟨hdelivered, refl_of SameTasks db⟩ h
  rintro raw - st₁ db₁ st₂ db₂ ⟨hst, hsame⟩ hline
  obtain ⟨hst', hsame'⟩ := receiveLine_run_ok hst hline
  exact ⟨hst', trans_of SameTasks hsame hsame'⟩

/-- A successful operation finds its receipt released, records its event, receives its
lines and closes. -/
theorem submitInboundOperation_steps
    (h : (submitInboundOperation call).run db = .ok (event, db')) :
    ∃ receipt operatorName db₁ st db₂, db.findReceipt call.receiptNo = some receipt ∧
      receipt.status = .released ∧
      (recordEvent (operationEventValues call receipt)).run db = .ok (event, db₁) ∧
      (call.lines.foldlM (receiveLine call receipt event)
        ⟨0, receivedQtyBase db.operations call.receiptNo, []⟩).run db₁ = .ok (st, db₂) ∧
      db' = db₂.closeOperation call receipt operatorName st := by
  unfold submitInboundOperation at h
  simp only [Tx.run_bind_ok, Tx.run_get_ok, Tx.run_demand_ok, Tx.run_failIf_ok, not_not,
    ensureWarehouseNotFrozen_run_ok, Tx.run_ofExcept_ok, Tx.run_modify_ok, Tx.run_pure_ok] at h
  obtain ⟨_, _, ⟨rfl, rfl⟩, receipt, _, ⟨hfind, rfl⟩, _, _, ⟨hreleased, rfl⟩, _, _, ⟨-, rfl⟩,
    operatorName, _, ⟨-, rfl⟩, event, db₁, hevent, st, db₂, hloop, _, _, rfl, rfl, rfl⟩ := h
  exact ⟨receipt, operatorName, db₁, st, db₂, hfind, hreleased, hevent, hloop, rfl⟩

/-- A successful operation adds its deliveries and, when they complete the receipt, the
mark. -/
theorem submitInboundOperation_progress
    (h : (submitInboundOperation call).run db = .ok (event, db')) :
    ∃ receipt operatorName st db₁, db.findReceipt call.receiptNo = some receipt ∧
      receipt.status = .released ∧
      Delivered receipt (receivedQtyBase db.operations call.receiptNo) st ∧ SameTasks db db₁ ∧
      db' = db₁.closeOperation call receipt operatorName st := by
  obtain ⟨receipt, operatorName, db₁, st, db₂, hfind, hreleased, hevent, hloop, rfl⟩ :=
    submitInboundOperation_steps h
  obtain ⟨hdelivered, hsame⟩ := receiveLines_run_ok (Delivered.start receipt _) hloop
  have hevent' : SameTasks db db₁ := recordEvent_sameTasks _ db _ db₁ hevent
  exact ⟨receipt, operatorName, st, db₂, hfind, hreleased, hdelivered,
    trans_of SameTasks hevent' hsame, rfl⟩

end Wms

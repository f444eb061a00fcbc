import Wms.Outbound.Success
import Wms.ManualShipment
import Wms.ShipmentRoundTrip

/-!
# Partial shipments

An order or a manual document may be shipped by several submissions. Every submission
numbers its lines from one, and all of them write the reference of the document into the
ledger, so two of them collide when they have, at the same position, lines that take from
the same slot. Apart from that, and from texts that do not fit, submissions that are
within the quantities and within the stock compose.
-/

namespace Wms

open Foundation Foundation.Journal

/-- The lines that an operation submits. -/
def Op.submitLines : Op → List SubmitLineIn
  | .submitOrder _ call => call.lines
  | .submitManual call => call.lines
  | _ => []

/-- The head of the shipment that a submission writes. -/
def Op.head (db : Database) : Op → Option ShipmentHead
  | .submitOrder _ call => (db.findOrder call.orderId).map call.head
  | .submitManual call => (db.findManualDoc call.docId).map call.head
  | _ => none

/-- The operation submits for the document. -/
def Op.SubmitsFor (docType : SourceDocType) (docId : ℕ) : Op → Prop
  | .submitOrder _ call => docType = .orderOutbound ∧ call.orderId = docId
  | .submitManual call => docType = .manualOutbound ∧ call.docId = docId
  | _ => False

/-- Each line of the submission names a line of the document with its item, and is within
what remains of it; a manual document must have been released. -/
def Op.WithinRemaining (db : Database) : Op → Prop
  | .submitOrder _ call => ∀ raw ∈ call.lines, Wms.WithinRemaining db call raw
  | .submitManual call => (∃ d, db.findManualDoc call.docId = some d ∧ d.status = .released) ∧
      ∀ raw ∈ call.lines, ∃ l ∈ db.manualLinesOf call.docId, l.id = raw.sourceLineId ∧
        l.itemId = raw.itemId ∧
        db.eventBook.submittedManualQty l.id + raw.qtyOutbound ≤ l.requestedQty
  | _ => False

/-- A submission for the document that is admissible in a state: it is within what remains,
its warehouse is stored and not frozen, its trace is new, and each slot that it names holds
enough for all its lines. (A slot holds stock only when its lot is one of its item and
warehouse.) -/
structure Op.Admissible (docType : SourceDocType) (docId : ℕ) (op : Op) (db : Database) :
    Prop where
  submits : op.SubmitsFor docType docId
  within : op.WithinRemaining db
  stocked : ∃ head, op.head db = some head ∧ head.Writable db ∧
    ∀ k, takenFrom head.warehouseId op.submitLines k ≤ db.books.stock k

/-- What an operation takes from a slot. -/
def Op.taken (db : Database) (op : Op) (k : SlotKey) : ℤ :=
  match op.head db with
  | some head => takenFrom head.warehouseId op.submitLines k
  | none => 0

/-- The keys of the lines of an operation. -/
def Op.keys (db : Database) (op : Op) : List (ℕ × SlotKey) :=
  match op.head db with
  | some head => shipKeys head.warehouseId op.submitLines
  | none => []

/-- The submission completes its document. -/
def Op.Completes (db : Database) : Op → Prop
  | .submitOrder _ call => OrderCompletedAfterSubmit db call
  | .submitManual call => db.manualLinesOf call.docId ≠ [] ∧
      ∀ l ∈ db.manualLinesOf call.docId, l.requestedQty ≤
        db.eventBook.submittedManualQty l.id + submittedDelta call.lines l.id
  | _ => False

/-- The texts that the hand-off of the document needs fit. -/
def Op.TextsFit (db : Database) : Op → Prop
  | .submitOrder _ call => ∀ o, db.findOrder call.orderId = some o → o.HandoffFits
  | .submitManual call => ∀ d, db.findManualDoc call.docId = some d → d.HandoffFits
  | _ => True

/-- Every submission succeeds when its turn comes, and what is taken from each slot is the
sum of what the submissions ask of it. -/
structure Composes (ops : List Op) (db : Database) : Prop where
  succeeds : Tx.Along Op.exec (fun op db => ∃ u db', op.exec.run db = .ok (u, db')) ops db
  taken : ∀ k, (Tx.attemptAll Op.exec ops db).books.stock k =
    db.books.stock k - (ops.map fun op => op.taken db k).sum

/-- What the success of the submissions depends on besides their admissibility. -/
structure Composable (ops : List Op) (db : Database) : Prop where
  nonempty : ∀ op ∈ ops, op.submitLines ≠ []
  /-- The reference of the document can be stored. -/
  ref_fits : ∀ op ∈ ops, ∀ head, op.head db = some head →
    ∃ ref, Varchar.store 128 head.sourceRef = .ok ref
  /-- No two submissions take from the same slot at the same position. -/
  keys_apart : (ops.flatMap fun op => op.keys db).Nodup
  /-- Nor did one before. -/
  keys_free : ∀ op ∈ ops, ∀ head, op.head db = some head →
    KeysFree db.books head.sourceRef (op.keys db)
  /-- A submission that completes the document can hand it over. -/
  texts_fit : Tx.Along Op.exec (fun op db => op.Completes db → op.TextsFit db) ops db

variable {db db' : Database} {op : Op} {docType : SourceDocType} {docId : ℕ}

/-! ## What a shipment writes into the ledger -/

theorem shipKeysFrom_le {w n : ℕ} {raws : List SubmitLineIn} {key : ℕ × SlotKey}
    (h : key ∈ shipKeysFrom w n raws) : n ≤ key.1 := by
  induction raws generalizing n with
  | nil => cases h
  | cons raw rest ih =>
    rcases List.mem_cons.mp h with rfl | hmem
    · exact le_refl n
    · have hle := ih hmem
      omega

/-- The lines of one payload have different numbers. -/
theorem shipKeysFrom_nodup (w n : ℕ) (raws : List SubmitLineIn) :
    (shipKeysFrom w n raws).Nodup := by
  induction raws generalizing n with
  | nil => exact List.nodup_nil
  | cons raw rest ih =>
    refine List.nodup_cons.mpr ⟨?_, ih (n + 1)⟩
    intro hmem
    have hle := shipKeysFrom_le hmem
    simp at hle

section Shipped

variable {head : ShipmentHead} {lines : List OutboundLineValues} {event : WmsEvent}
  {saved : List OutboundEventLine} {rows : List LedgerRow}

theorem Shipped.ref (h : Shipped db head lines event saved rows db') :
    ∃ ref, Varchar.store 128 head.sourceRef = .ok ref ∧ event.sourceRef = some ref := by
  obtain ⟨-, -, -, -, -, -, -, hsource, -⟩ := EventValues.row_eq_ok h.event_row
  have hstore : (Varchar.store 128 head.sourceRef).map some = .ok event.sourceRef := hsource
  cases href : Varchar.store 128 head.sourceRef with
  | error e =>
    rw [href] at hstore
    cases hstore
  | ok ref =>
    rw [href] at hstore
    exact ⟨ref, rfl, (Except.ok.inj hstore).symm⟩

/-- A ledger row for each line, with the slot and the number of the line. -/
theorem Shipped.rows_keys (h : Shipped db head lines event saved rows db') :
    List.Forall₂ (fun l r => r.slot = l.slot head.warehouseId ∧ r.refLine = l.refLine ∧
      Varchar.store 32 "OUTBOUND_SHIP" = .ok r.reason ∧
      Varchar.store 128 head.sourceRef = .ok r.ref) lines rows := by
  obtain ⟨ref, href, hsource⟩ := h.ref
  rw [List.forall₂_iff_get]
  have hlen := h.saved_rows.length_eq
  have hlen' := h.ship_rows.length_eq
  refine ⟨by omega, ?_⟩
  intro n hn hn'
  have hns : n < saved.length := by omega
  obtain ⟨-, hline, hitem, -, hlot, -, -⟩ := OutboundLineValues.row_eq_ok (h.saved_rows.get hn hns)
  have hrow := h.ship_rows.get hns hn'
  have hreason : Varchar.store 32 (rows.get ⟨n, hn'⟩).reason.text =
      .ok (rows.get ⟨n, hn'⟩).reason := Varchar.store_isOk_of_text _
  have hreftext : (rows.get ⟨n, hn'⟩).ref.text = ref.text := by
    rw [hrow.ref_eq, hsource]
    rfl
  have hrefstore : Varchar.store 128 ref.text = .ok (rows.get ⟨n, hn'⟩).ref := by
    rw [← hreftext]
    exact Varchar.store_isOk_of_text _
  refine ⟨?_, ?_, ?_, ?_⟩
  · rw [hrow.slot_eq, h.event_warehouse]
    exact SlotKey.ext rfl hitem hlot
  · rw [hrow.refLine_eq, hline]
    rfl
  · rw [← hrow.reason_eq]
    exact hreason
  · rw [href, ← Varchar.store_isOk_of_text ref]
    exact hrefstore

/-- After a shipment the ledger has the keys of its lines besides the old ones. -/
theorem Shipped.hasStoredKey_iff (h : Shipped db head lines event saved rows db') {n : ℕ}
    {k : SlotKey} : db'.books.HasStoredKey k "OUTBOUND_SHIP" head.sourceRef n ↔
      db.books.HasStoredKey k "OUTBOUND_SHIP" head.sourceRef n ∨
        (n, k) ∈ lines.map fun l => (l.refLine, l.slot head.warehouseId) := by
  have hkeys := h.rows_keys
  have hlen := hkeys.length_eq
  rw [h.moved.hasStoredKey]
  refine or_congr_right ?_
  constructor
  · rintro ⟨r, hr, hslot, hline, -, -⟩
    obtain ⟨i, hi, rfl⟩ := List.getElem_of_mem hr
    have hi' : i < lines.length := by omega
    obtain ⟨hslot', hline', -, -⟩ := hkeys.get hi' hi
    simp only [List.get_eq_getElem] at hslot' hline'
    refine List.mem_map.mpr ⟨lines[i], List.getElem_mem hi', ?_⟩
    rw [← hslot, hslot']
    have hn : lines[i].refLine = n := by omega
    rw [hn]
  · intro hmem
    obtain ⟨l, hl, heq⟩ := List.mem_map.mp hmem
    obtain ⟨i, hi, rfl⟩ := List.getElem_of_mem hl
    have hi' : i < rows.length := by omega
    obtain ⟨hslot, hline, hreason, href⟩ := hkeys.get hi hi'
    simp only [List.get_eq_getElem] at hslot hline hreason href
    rw [Prod.mk.injEq] at heq
    refine ⟨rows[i], List.getElem_mem hi', ?_, ?_, hreason, href⟩
    · rw [hslot, heq.2]
    · rw [hline, heq.1]

/-- The keys of a shipment were free. -/
theorem Shipped.keys_free (h : Shipped db head lines event saved rows db') :
    KeysFree db.books head.sourceRef
      (lines.map fun l => (l.refLine, l.slot head.warehouseId)) := by
  have hkeys := h.rows_keys
  have hlen := hkeys.length_eq
  intro key hkey hstored
  obtain ⟨l, hl, rfl⟩ := List.mem_map.mp hkey
  obtain ⟨i, hi, rfl⟩ := List.getElem_of_mem hl
  have hi' : i < rows.length := by omega
  obtain ⟨hslot, hline, hreason, href⟩ := hkeys.get hi hi'
  simp only [List.get_eq_getElem] at hslot hline hreason href
  obtain ⟨a, ha, haslot, haline, hareason, haref⟩ := hstored
  have hunique := db'.books.stockLedger.unique
  rw [h.moved.ledger_eq] at hunique
  refine (List.pairwise_append.mp hunique).2.2 a ha rows[i] (List.getElem_mem hi') ?_
  rw [hareason] at hreason
  rw [haref] at href
  exact ⟨Except.ok.inj hreason, Except.ok.inj href, haline.trans hline.symm, haslot.trans hslot.symm⟩

end Shipped

/-! ## One submission -/

/-- What a successful submission for a document has established and done. -/
structure Op.Done (op : Op) (head : ShipmentHead) (db db' : Database) : Prop where
  nonempty : op.submitLines ≠ []
  ref_fits : ∃ ref, Varchar.store 128 head.sourceRef = .ok ref
  keys_free : KeysFree db.books head.sourceRef (shipKeys head.warehouseId op.submitLines)
  keys_iff : ∀ n : ℕ, ∀ k, db'.books.HasStoredKey k "OUTBOUND_SHIP" head.sourceRef n ↔
    db.books.HasStoredKey k "OUTBOUND_SHIP" head.sourceRef n ∨
      (n, k) ∈ shipKeys head.warehouseId op.submitLines
  stock_eq : ∀ k, db'.books.stock k =
    db.books.stock k - takenFrom head.warehouseId op.submitLines k
  texts_fit : op.Completes db → op.TextsFit db
  heads_eq : ∀ op' : Op, op'.head db' = op'.head db

/-- The heads of submissions read the orders and, of a manual document, what its
completion does not change. -/
theorem head_eq_of_documents (horders : db'.orders = db.orders)
    (hdocs : db'.manualDocs = db.manualDocs ∨
      ∃ id, db'.manualDocs.rows = db.manualDocs.rows.map (ManualDoc.complete id)) (op : Op) :
    op.head db' = op.head db := by
  cases op with
  | submitOrder pms call =>
    change (db'.findOrder call.orderId).map _ = (db.findOrder call.orderId).map _
    unfold Database.findOrder
    rw [horders]
  | submitManual call =>
    change (db'.findManualDoc call.docId).map _ = (db.findManualDoc call.docId).map _
    rcases hdocs with hsame | ⟨id, hrows⟩
    · unfold Database.findManualDoc
      rw [hsame]
    · rw [findManualDoc_map (ManualDoc.complete_id id) hrows, Option.map_map]
      refine congrArg (fun f => Option.map f _) (funext fun d => ?_)
      change call.head (d.complete id) = call.head d
      unfold ManualDoc.complete
      split <;> rfl
  | _ => rfl

/-- The shipment of a submission for an order. -/
theorem OrderSubmitted.done {pms : PmsClient} {call : OrderSubmitCall} {event : WmsEvent}
    {saved : List OutboundEventLine} (h : OrderSubmitted pms db call event saved db') :
    ∃ head, (Op.submitOrder pms call).head db = some head ∧
      (Op.submitOrder pms call).Done head db db' := by
  obtain ⟨order, lines, rows, db₁, hprep, hship, hframe, -, hhand⟩ := h.prepared
  obtain ⟨hfind, hne, hall, hrefs, -⟩ := prepareOrderSubmit_eq_ok hprep
  have hkeys := keys_normalized (w := call.warehouseId) hall hrefs
  have hbooks : db'.books = db₁.books := by rw [hframe]; rfl
  obtain ⟨ref, href, -⟩ := hship.ref
  refine ⟨call.head order, ?_, hne, ⟨ref, href⟩, ?_, ?_, ?_, ?_, ?_⟩
  · change (db.findOrder call.orderId).map call.head = _
    rw [hfind]
    rfl
  · have hfree := hship.keys_free
    rw [show lines.map (fun l => (l.refLine, l.slot (call.head order).warehouseId)) = _ from hkeys]
      at hfree
    exact hfree
  · intro n k
    rw [hbooks, hship.hasStoredKey_iff,
      show lines.map (fun l => (l.refLine, l.slot (call.head order).warehouseId)) = _ from hkeys]
    exact Iff.rfl
  · intro k
    rw [hbooks, hship.stock_eq h.saves]
    rfl
  · intro hdone o ho
    obtain rfl : order = o := Option.some.inj (hfind.symm.trans ho)
    obtain ⟨payload, hrow, -, -⟩ := handOff_payload (hhand hdone)
    obtain ⟨-, horderRef, hname⟩ := HandoffValues.row_eq_ok hrow
    exact ⟨handOff_docNo (hhand hdone), ⟨_, horderRef⟩, ⟨_, hname⟩⟩
  · exact head_eq_of_documents h.frame.1.orders_eq (.inl h.frame.2.2)

/-- A manual document is complete after a shipment when the quantities of the submission
complete it. -/
theorem Shipped.manualCompleted_iff {call : ManualSubmitCall} {doc : ManualDoc}
    {lines : List OutboundLineValues} {event : WmsEvent} {saved : List OutboundEventLine}
    {rows : List LedgerRow} (h : Shipped db (call.head doc) lines event saved rows db')
    (hsaves : List.Forall₂ (Saves .manualOutbound) call.lines saved) :
    ManualCompleted db' call.docId ↔ (Op.submitManual call).Completes db := by
  have hlines : db'.manualLinesOf call.docId = db.manualLinesOf call.docId := by
    rw [h.frame]
    rfl
  have hqty : ∀ id, db'.eventBook.submittedManualQty id =
      db.eventBook.submittedManualQty id + submittedDelta call.lines id := by
    intro id
    rw [submittedManualQty_eq, submittedManualQty_eq, h.appends.submittedQty,
      lineQty_saved_manual hsaves]
  unfold ManualCompleted
  rw [hlines]
  simp only [hqty]
  exact Iff.rfl

/-- The shipment of a submission for a manual document. -/
theorem ManualSubmitted.done {call : ManualSubmitCall} {event : WmsEvent}
    {saved : List OutboundEventLine} (h : ManualSubmitted db call event saved db') :
    ∃ head, (Op.submitManual call).head db = some head ∧
      (Op.submitManual call).Done head db db' := by
  obtain ⟨doc, lines, rows, db₁, hprep, hship, hopen, hdone⟩ := h.prepared
  obtain ⟨hfind, -, -, hne, hall, hrefs⟩ := prepareManualSubmit_eq_ok hprep
  have hkeys := keys_normalized (w := doc.warehouseId) hall hrefs
  have hcompletes := hship.manualCompleted_iff h.saves
  have hbooks : db'.books = db₁.books := by
    by_cases hcompleted : ManualCompleted db₁ call.docId
    · rw [(hdone hcompleted).1]
      rfl
    · rw [hopen hcompleted]
  obtain ⟨ref, href, -⟩ := hship.ref
  refine ⟨call.head doc, ?_, hne, ⟨ref, href⟩, ?_, ?_, ?_, ?_, ?_⟩
  · change (db.findManualDoc call.docId).map call.head = _
    rw [hfind]
    rfl
  · have hfree := hship.keys_free
    rw [show lines.map (fun l => (l.refLine, l.slot (call.head doc).warehouseId)) = _ from hkeys]
      at hfree
    exact hfree
  · intro n k
    rw [hbooks, hship.hasStoredKey_iff,
      show lines.map (fun l => (l.refLine, l.slot (call.head doc).warehouseId)) = _ from hkeys]
    exact Iff.rfl
  · intro k
    rw [hbooks, hship.stock_eq h.saves]
    rfl
  · intro hcomplete d hd
    obtain rfl : doc = d := Option.some.inj (hfind.symm.trans hd)
    have hhand := (hdone (hcompletes.mpr hcomplete)).2
    obtain ⟨payload, hrow, -, -⟩ := handOff_payload hhand
    obtain ⟨-, -, hname⟩ := HandoffValues.row_eq_ok hrow
    exact ⟨handOff_docNo hhand, ⟨_, hname⟩⟩
  · refine head_eq_of_documents h.frame.1.orders_eq ?_
    obtain ⟨-, -, -, -, ⟨-, hrows⟩ | ⟨-, hdocs⟩⟩ := h.doc_eq
    · exact .inr ⟨_, hrows⟩
    · exact .inl hdocs

/-- A submission that succeeds is done. -/
theorem Op.SubmitsFor.done (h : op.SubmitsFor docType docId) {u : PUnit}
    (hrun : op.exec.run db = .ok (u, db')) : ∃ head, op.head db = some head ∧ op.Done head db db' := by
  have hstep := Op.step_of_exec hrun
  cases hstep with
  | submitOrder hsub => exact hsub.done
  | submitManual hsub => exact hsub.done
  | _ => exact h.elim

/-- A submission for a manual document goes through when its lines are lines of the
document, its slots hold enough, its keys are free and the texts it needs fit. -/
theorem submitManualOutboundEvent_succeeds {call : ManualSubmitCall} {doc : ManualDoc}
    {ref : Varchar 128} (hfind : db.findManualDoc call.docId = some doc)
    (hstatus : doc.status = .released) (hhead : (call.head doc).Writable db) (hne : call.lines ≠ [])
    (hlines : ∀ raw ∈ call.lines, ∃ l ∈ db.manualLinesOf call.docId, l.id = raw.sourceLineId ∧
      l.itemId = raw.itemId)
    (henough : ∀ k, takenFrom doc.warehouseId call.lines k ≤ db.books.stock k)
    (href : Varchar.store 128 doc.docNo = .ok ref)
    (hfree : KeysFree db.books doc.docNo (shipKeys doc.warehouseId call.lines))
    (htexts : (Op.submitManual call).Completes db → doc.HandoffFits) :
    ∃ u db', (submitManualOutboundEvent call).run db = .ok (u, db') := by
  have hsource : ∀ id src, manualSource (db.manualLinesOf call.docId) id = some src → src.Fits :=
    fun id src h => manualSource_fits h
  have hraws : ∀ raw ∈ call.lines, ∃ src,
      manualSource (db.manualLinesOf call.docId) raw.sourceLineId = some src ∧
        raw.itemId = src.itemId := by
    intro raw hraw
    obtain ⟨l, hl, hid, hitem⟩ := hlines raw hraw
    have hfound : (db.manualLinesOf call.docId).find? (fun a => a.id = raw.sourceLineId) = some l := by
      cases hsome : (db.manualLinesOf call.docId).find? fun a => a.id = raw.sourceLineId with
      | none =>
        rw [List.find?_eq_none] at hsome
        exact absurd hid (by simpa using hsome l hl)
      | some l' =>
        have hid' : l'.id = raw.sourceLineId := by simpa using List.find?_some hsome
        have hl' := (mem_manualLinesOf.mp (List.mem_of_find?_eq_some hsome)).1
        rw [manualLine_eq_of_id_eq (mem_manualLinesOf.mp hl).1 hl' (hid.trans hid'.symm)]
    refine ⟨l.source, ?_, hitem.symm⟩
    unfold manualSource
    rw [hfound]
    rfl
  obtain ⟨lines, hnormal, hfits⟩ : ∃ lines,
      normalizeSubmitLines .manualOutbound (manualSource (db.manualLinesOf call.docId))
        call.lines = .ok lines ∧ ∀ l ∈ lines, (l.withLotCode db.books).Fits :=
    normalizeSubmitLines_succeeds hne hsource hraws db.books
  obtain ⟨-, hall, hrefs⟩ := normalizeSubmitLines_eq_ok hnormal
  have hkeys := keys_normalized (w := doc.warehouseId) hall hrefs
  obtain ⟨raw, hraw⟩ := List.exists_mem_of_ne_nil _ hne
  obtain ⟨l, hl, -⟩ := hlines raw hraw
  have hprep : prepareManualSubmit db call = .ok (doc, lines) := by
    unfold prepareManualSubmit
    rw [hfind]
    simp only
    rw [if_neg (not_not.mpr hstatus), if_neg (List.ne_nil_of_mem hl)]
    simp only [bind, Except.bind, hnormal]
    rfl
  obtain ⟨event, saved, db₁, hwrite⟩ := writeEventAndLedger_succeeds hhead href hfits
    (by rw [hrefs]; exact List.nodup_range' _)
    (fun k => by
      rw [linesFrom_normalized hall]
      exact henough k) (hfree.of_lines hkeys)
  obtain ⟨rows, hship⟩ := writeEventAndLedger_run_ok hwrite
  have hcompletes := hship.manualCompleted_iff (saves_of_rows hall hship.saved_rows)
  unfold submitManualOutboundEvent
  simp only [Tx.run_bind_ok, Tx.run_get_ok, Tx.run_ofExcept_ok]
  by_cases hdone : ManualCompleted db₁ call.docId
  · have hfits := htexts (hcompletes.mp hdone)
    obtain ⟨no, hno⟩ := hfits.docNo
    obtain ⟨payload, hpayload⟩ : ∃ payload,
        (doc.handoffValues (db.warehouseNameSnapshot event.warehouseId) event saved).row =
          .ok payload := hfits.row_isOk _ _ _
    obtain ⟨db₂, hhand⟩ : ∃ db₂, (handOff .manualOutbound call.docId doc.docNo
        (doc.handoffValues (db.warehouseNameSnapshot event.warehouseId) event saved)).run
          (db₁.completeDoc call.docId) = .ok (⟨⟩, db₂) := handOff_succeeds hno hpayload
    have hdocs : db₁.manualDocs = db.manualDocs := by rw [hship.frame]; rfl
    have hreleased : ∃ d ∈ db₁.manualDocs.rows, d.id = call.docId ∧ d.status = .released := by
      obtain ⟨hmem, hid⟩ := findManualDoc_eq_some hfind
      exact ⟨doc, by rw [hdocs]; exact hmem, hid, hstatus⟩
    have hcomplete : (completeManualDoc call.docId).run db₁ =
        .ok (⟨⟩, db₁.completeDoc call.docId) := by
      unfold completeManualDoc
      simp only [Tx.run_bind_ok, Tx.run_get_ok, Tx.run_failIf_ok, Tx.run_set_ok]
      exact ⟨db₁, db₁, ⟨rfl, rfl⟩, ⟨⟩, db₁, ⟨not_not.mpr hreleased, rfl⟩, rfl⟩
    refine ⟨(event, saved), db₂, db, db, ⟨rfl, rfl⟩, (doc, lines), db, ⟨hprep, rfl⟩,
      (event, saved), db₁, hwrite, db₁, db₁, ⟨rfl, rfl⟩, ?_⟩
    simp only [if_pos hdone]
    simp only [Tx.run_bind_ok, Tx.run_pure_ok]
    exact ⟨⟨⟩, _, hcomplete, ⟨⟩, db₂, hhand, trivial, rfl⟩
  · refine ⟨(event, saved), db₁, db, db, ⟨rfl, rfl⟩, (doc, lines), db, ⟨hprep, rfl⟩,
      (event, saved), db₁, hwrite, db₁, db₁, ⟨rfl, rfl⟩, ?_⟩
    simp only [if_neg hdone]
    exact Tx.run_pure_ok.mpr ⟨rfl, rfl⟩

/-! ## Sequences of submissions -/

/-- An admissible submission succeeds when it is not empty, its reference can be stored,
its keys are free and the texts it needs fit. -/
theorem Op.Admissible.succeeds {head : ShipmentHead} (h : op.Admissible docType docId db)
    (hhead : op.head db = some head) (hne : op.submitLines ≠ [])
    (href : ∃ ref, Varchar.store 128 head.sourceRef = .ok ref)
    (hfree : KeysFree db.books head.sourceRef (shipKeys head.warehouseId op.submitLines))
    (htexts : op.Completes db → op.TextsFit db) : ∃ u db', op.exec.run db = .ok (u, db') := by
  obtain ⟨head', hhead', hwritable, henough⟩ := h.stocked
  obtain rfl : head = head' := Option.some.inj (hhead.symm.trans hhead')
  obtain ⟨ref, href⟩ := href
  have hwithin := h.within
  cases op with
  | submitOrder pms call =>
    obtain ⟨order, hfind, rfl⟩ := Option.map_eq_some_iff.mp hhead
    obtain ⟨u, db', hrun⟩ := submitOrderOutboundEvent_succeeds pms hfind hwritable hne
      hwithin henough href hfree fun hdone => htexts hdone order hfind
    exact ⟨⟨⟩, db', Tx.run_map_ok.mpr ⟨u, hrun, rfl⟩⟩
  | submitManual call =>
    obtain ⟨doc, hfind, rfl⟩ := Option.map_eq_some_iff.mp hhead
    obtain ⟨⟨doc', hfind', hstatus⟩, hlines⟩ := hwithin
    obtain rfl : doc = doc' := Option.some.inj (hfind.symm.trans hfind')
    have hraws : ∀ raw ∈ call.lines, ∃ l ∈ db.manualLinesOf call.docId, l.id = raw.sourceLineId ∧
        l.itemId = raw.itemId := by
      intro raw hraw
      obtain ⟨l, hl, hid, hitem, -⟩ := hlines raw hraw
      exact ⟨l, hl, hid, hitem⟩
    obtain ⟨u, db', hrun⟩ := submitManualOutboundEvent_succeeds hfind hstatus hwritable hne hraws
      henough href hfree fun hdone => htexts hdone doc hfind
    exact ⟨⟨⟩, db', Tx.run_map_ok.mpr ⟨u, hrun, rfl⟩⟩
  | _ => exact h.submits.elim

/-- Submissions for one document write one reference into the ledger. -/
theorem Op.SubmitsFor.sourceRef_eq {op' : Op} {head head' : ShipmentHead}
    (h : op.SubmitsFor docType docId) (h' : op'.SubmitsFor docType docId)
    (hhead : op.head db = some head) (hhead' : op'.head db = some head') :
    head'.sourceRef = head.sourceRef := by
  cases op with
  | submitOrder pms call =>
    obtain ⟨rfl, rfl⟩ := h
    cases op' with
    | submitOrder pms' call' =>
      obtain ⟨-, hid⟩ := h'
      obtain ⟨order, hfind, rfl⟩ := Option.map_eq_some_iff.mp hhead
      obtain ⟨order', hfind', rfl⟩ := Option.map_eq_some_iff.mp hhead'
      rw [hid, hfind] at hfind'
      rw [← Option.some.inj hfind']
      rfl
    | submitManual call' => cases h'.1
    | _ => exact h'.elim
  | submitManual call =>
    obtain ⟨rfl, rfl⟩ := h
    cases op' with
    | submitOrder pms' call' => cases h'.1
    | submitManual call' =>
      obtain ⟨-, hid⟩ := h'
      obtain ⟨doc, hfind, rfl⟩ := Option.map_eq_some_iff.mp hhead
      obtain ⟨doc', hfind', rfl⟩ := Option.map_eq_some_iff.mp hhead'
      rw [hid, hfind] at hfind'
      rw [← Option.some.inj hfind']
      rfl
    | _ => exact h'.elim
  | _ => exact h.elim

theorem Op.keys_eq {head : ShipmentHead} (hhead : op.head db = some head) :
    op.keys db = shipKeys head.warehouseId op.submitLines := by
  unfold Op.keys
  rw [hhead]

theorem Op.taken_eq {head : ShipmentHead} (hhead : op.head db = some head) (k : SlotKey) :
    op.taken db k = takenFrom head.warehouseId op.submitLines k := by
  unfold Op.taken
  rw [hhead]

/-- Keys and quantities of submissions do not change when the heads do not. -/
theorem keys_taken_of_heads (hheads : ∀ op' : Op, op'.head db' = op'.head db) (op' : Op) :
    op'.keys db' = op'.keys db ∧ ∀ k, op'.taken db' k = op'.taken db k := by
  unfold Op.keys Op.taken
  rw [hheads]
  exact ⟨rfl, fun _ => rfl⟩

/-- After a submission for the document the rest of a sequence composes exactly when the
whole sequence does. -/
theorem composable_cons {ops : List Op} {head : ShipmentHead} (hsubmits : op.SubmitsFor docType docId)
    (hrest : ∀ op' ∈ ops, op'.SubmitsFor docType docId) (hhead : op.head db = some head)
    (hdone : op.Done head db (op.exec.attempt db)) :
    Composable (op :: ops) db ↔ Composable ops (op.exec.attempt db) := by
  have hsame := fun op' => keys_taken_of_heads hdone.heads_eq op'
  have hflat : (ops.flatMap fun op' => op'.keys (op.exec.attempt db)) =
      ops.flatMap fun op' => op'.keys db := by
    refine List.flatMap_congr ?_
    intro op' _
    exact (hsame op').1
  have hkeys := Op.keys_eq hhead
  constructor
  · intro h
    have hnodup := h.keys_apart
    rw [List.flatMap_cons, List.nodup_append] at hnodup
    refine ⟨?_, ?_, ?_, ?_, h.texts_fit.2⟩
    · exact fun op' hop' => h.nonempty op' (List.mem_cons_of_mem _ hop')
    · intro op' hop' head' hhead'
      rw [hdone.heads_eq] at hhead'
      exact h.ref_fits op' (List.mem_cons_of_mem _ hop') head' hhead'
    · rw [hflat]
      exact hnodup.2.1
    · intro op' hop' head' hhead' key hkey hstored
      rw [hdone.heads_eq] at hhead'
      rw [(hsame op').1] at hkey
      rw [hsubmits.sourceRef_eq (hrest op' hop') hhead hhead', hdone.keys_iff] at hstored
      rcases hstored with hold | hnew
      · refine h.keys_free op' (List.mem_cons_of_mem _ hop') head' hhead' key hkey ?_
        rw [hsubmits.sourceRef_eq (hrest op' hop') hhead hhead']
        exact hold
      · have hmem : key ∈ ops.flatMap fun op' => op'.keys db := List.mem_flatMap.mpr ⟨op', hop', hkey⟩
        exact hnodup.2.2 key (by rw [hkeys]; exact hnew) key hmem rfl
  · intro h
    refine ⟨?_, ?_, ?_, ?_, hdone.texts_fit, h.texts_fit⟩
    · intro op' hop'
      rcases List.mem_cons.mp hop' with rfl | hmem
      · exact hdone.nonempty
      · exact h.nonempty op' hmem
    · intro op' hop' head' hhead'
      rcases List.mem_cons.mp hop' with rfl | hmem
      · rw [← Option.some.inj (hhead.symm.trans hhead')]
        exact hdone.ref_fits
      · exact h.ref_fits op' hmem head' (by rw [hdone.heads_eq]; exact hhead')
    · rw [List.flatMap_cons, List.nodup_append, ← hflat]
      refine ⟨by rw [hkeys]; exact shipKeysFrom_nodup _ _ _, h.keys_apart, ?_⟩
      intro key hkey key' hkey' heq
      obtain ⟨op', hop', hmem⟩ := List.mem_flatMap.mp hkey'
      have hne : ∃ head', op'.head db = some head' := by
        cases hhead' : op'.head db with
        | none =>
          rw [(hsame op').1] at hmem
          unfold Op.keys at hmem
          rw [hhead'] at hmem
          cases hmem
        | some head' => exact ⟨head', rfl⟩
      obtain ⟨head', hhead'⟩ := hne
      refine h.keys_free op' hop' head' (by rw [hdone.heads_eq]; exact hhead') key' hmem ?_
      rw [hsubmits.sourceRef_eq (hrest op' hop') hhead hhead', hdone.keys_iff, ← heq]
      exact .inr (by rw [← hkeys]; exact hkey)
    · intro op' hop' head' hhead' key hkey hstored
      rcases List.mem_cons.mp hop' with rfl | hmem
      · obtain rfl := Option.some.inj (hhead.symm.trans hhead')
        exact hdone.keys_free key (by rw [← hkeys]; exact hkey) hstored
      · refine h.keys_free op' hmem head' (by rw [hdone.heads_eq]; exact hhead') key
          (by rw [(hsame op').1]; exact hkey) ?_
        rw [hsubmits.sourceRef_eq (hrest op' hmem) hhead hhead'] at hstored ⊢
        exact (hdone.keys_iff _ _).mpr (.inl hstored)

/-- A sequence of submissions for one document, each admissible when its turn comes,
composes exactly when none of them is empty, the reference of the document can be stored,
no two lines of the sequence share number and slot, the ledger has no row under their
keys, and the texts of the hand-off fit when the document is completed. -/
theorem composes_iff (docType : SourceDocType) (docId : ℕ) (ops : List Op) (db : Database)
    (hadmissible : Tx.Along Op.exec (Op.Admissible docType docId) ops db) :
    Composes ops db ↔ Composable ops db := by
  induction ops generalizing db with
  | nil =>
    refine ⟨fun _ => ⟨by simp, by simp, List.nodup_nil, by simp, trivial⟩,
      fun _ => ⟨trivial, fun k => ?_⟩⟩
    simp [Tx.attemptAll]
  | cons op ops ih =>
    obtain ⟨hop, hops⟩ := hadmissible
    have hrest : ∀ op' ∈ ops, op'.SubmitsFor docType docId :=
      hops.forall_mem fun _ _ h => h.submits
    -- a first submission that succeeds leaves the rest to the induction
    have hstep : ∀ {u : PUnit} {db' : Database}, op.exec.run db = .ok (u, db') →
        ((∀ k, (Tx.attemptAll Op.exec (op :: ops) db).books.stock k = db.books.stock k -
            ((op :: ops).map fun op' => op'.taken db k).sum) ↔
          ∀ k, (Tx.attemptAll Op.exec ops (op.exec.attempt db)).books.stock k =
            (op.exec.attempt db).books.stock k -
              (ops.map fun op' => op'.taken (op.exec.attempt db) k).sum) ∧
          (Composable (op :: ops) db ↔ Composable ops (op.exec.attempt db)) := by
      intro u db' hrun
      obtain ⟨head, hhead, hdone⟩ := hop.submits.done hrun
      rw [← Tx.attempt_of_run hrun] at hdone
      refine ⟨forall_congr' fun k => ?_, composable_cons hop.submits hrest hhead hdone⟩
      have hsame : (ops.map fun op' => op'.taken (op.exec.attempt db) k) =
          ops.map fun op' => op'.taken db k :=
        List.map_congr_left fun op' _ => (keys_taken_of_heads hdone.heads_eq op').2 k
      rw [hsame, hdone.stock_eq, List.map_cons, List.sum_cons, Op.taken_eq hhead, sub_add_eq_sub_sub]
      exact Iff.rfl
    constructor
    · rintro ⟨⟨⟨u, db', hrun⟩, hsucceeds⟩, htaken⟩
      obtain ⟨hstock, hcomposable⟩ := hstep hrun
      exact hcomposable.mpr ((ih _ hops).mp ⟨hsucceeds, hstock.mp htaken⟩)
    · intro h
      obtain ⟨head, hhead, -, -⟩ := hop.stocked
      have hfree := h.keys_free op List.mem_cons_self head hhead
      rw [Op.keys_eq hhead] at hfree
      obtain ⟨u, db', hrun⟩ := hop.succeeds hhead (h.nonempty op List.mem_cons_self)
        (h.ref_fits op List.mem_cons_self head hhead) hfree h.texts_fit.1
      obtain ⟨hstock, hcomposable⟩ := hstep hrun
      obtain ⟨hsucceeds, htaken⟩ := (ih _ hops).mpr (hcomposable.mp h)
      exact ⟨⟨⟨u, db', hrun⟩, hsucceeds⟩, hstock.mpr htaken⟩

/-- Two submissions for one document with lines that share number and slot do not both
succeed. -/
theorem Op.SubmitsFor.keys_disjoint {op' : Op} {db₁ db₂ : Database} {u u' : PUnit}
    (h : op.SubmitsFor docType docId) (h' : op'.SubmitsFor docType docId)
    (hrun : op.exec.run db = .ok (u, db₁)) (hrun' : op'.exec.run db₁ = .ok (u', db₂))
    {key : ℕ × SlotKey} (hkey : key ∈ op.keys db) : key ∉ op'.keys db := by
  intro hkey'
  obtain ⟨head, hhead, hdone⟩ := h.done hrun
  obtain ⟨head', hhead', hdone'⟩ := h'.done hrun'
  rw [hdone.heads_eq] at hhead'
  rw [Op.keys_eq hhead] at hkey
  rw [Op.keys_eq hhead'] at hkey'
  have hfree := hdone'.keys_free key hkey'
  rw [h.sourceRef_eq h' hhead hhead', hdone.keys_iff] at hfree
  exact hfree (.inr hkey)

/-! ## Two submissions for one order line -/

/-- A payload with one line asks of no slot more than what the slot of the line holds. -/
theorem takenFrom_singleton_le {w : ℕ} {raw : SubmitLineIn}
    (hstock : raw.qtyOutbound ≤ db.books.stock ⟨w, raw.itemId, raw.lotId⟩)
    (hnonneg : ∀ e ∈ db.books.stocksLot.entries, 0 ≤ e.2) (k : SlotKey) :
    takenFrom w [raw] k ≤ db.books.stock k := by
  by_cases hk : (⟨w, raw.itemId, raw.lotId⟩ : SlotKey) = k
  · have htaken : takenFrom w [raw] k = raw.qtyOutbound := by simp [takenFrom, hk]
    rw [htaken, ← hk]
    exact hstock
  · have htaken : takenFrom w [raw] k = 0 := by simp [takenFrom, hk]
    rw [htaken]
    cases hlookup : db.books.stocksLot.lookup k with
    | none => simp [Books.stock, hlookup]
    | some q =>
      rw [Books.stock_of_lookup hlookup]
      exact hnonneg ⟨k, q⟩ (AList.mem_lookup_iff.mp hlookup)

/-- A submission of some pieces of the first line of the order. -/
def shipSome (traceId : String) (qty : ℤ) (h : 0 < qty) : Op :=
  .submitOrder plainPms (shipApples traceId [takeApples 1 qty h])

theorem four_pos : (0 : ℤ) < 4 := by decide

theorem three_pos : (0 : ℤ) < 3 := by decide

/-- A submission of pieces that the order line and its lot still have is admissible. -/
theorem admissible_shipSome {traceId : String} {qty : ℤ} {h : 0 < qty}
    (hline : appleLine 1 10 ∈ db.orderLinesOf 1) (hdone : db.eventBook.submittedQty 1 + qty ≤ 10)
    (horder : db.findOrder 1 = some appleOrder)
    (hwritable : ((shipApples traceId [takeApples 1 qty h]).head appleOrder).Writable db)
    (hstock : qty ≤ db.books.stock ⟨1, 1, 1⟩)
    (hnonneg : ∀ e ∈ db.books.stocksLot.entries, 0 ≤ e.2) :
    (shipSome traceId qty h).Admissible .orderOutbound 1 db := by
  refine ⟨⟨rfl, rfl⟩, ?_, ?_⟩
  · intro raw hraw
    obtain rfl := List.mem_singleton.mp hraw
    exact ⟨appleLine 1 10, hline, rfl, rfl, hdone⟩
  · refine ⟨(shipApples traceId [takeApples 1 qty h]).head appleOrder, ?_, hwritable,
      takenFrom_singleton_le hstock hnonneg⟩
    change (db.findOrder 1).map _ = _
    rw [horder]
    rfl

theorem admissible_fourOfTen :
    (shipSome "T1" 4 four_pos).Admissible .orderOutbound 1 tenOrdered :=
  admissible_shipSome (by decide +kernel) (by decide +kernel) (by decide +kernel)
    ⟨by decide +kernel, by decide +kernel, by simp [OrderSubmitCall.head, shipApples],
      by decide +kernel, by decide +kernel⟩ (by decide +kernel) (by decide +kernel)

/-- The state after the first four pieces. -/
def fourShipped : Database := (shipSome "T1" 4 four_pos).exec.attempt tenOrdered

theorem admissible_threeOfSix : (shipSome "T2" 3 three_pos).Admissible .orderOutbound 1 fourShipped :=
  admissible_shipSome (by decide +kernel) (by decide +kernel) (by decide +kernel)
    ⟨by decide +kernel, by decide +kernel, by simp [OrderSubmitCall.head, shipApples],
      by decide +kernel, by decide +kernel⟩ (by decide +kernel) (by decide +kernel)

theorem composes_iff_fourOfTen : Composes [shipSome "T1" 4 four_pos] tenOrdered ↔
    Composable [shipSome "T1" 4 four_pos] tenOrdered :=
  composes_iff .orderOutbound 1 [shipSome "T1" 4 four_pos] tenOrdered
    ⟨admissible_fourOfTen, trivial⟩

/-- Four pieces and then three of the ten, both from the one lot: the second submission
writes the ledger key of the first. -/
theorem not_composes_threeOfSix : ¬∀ (docType : SourceDocType) (docId : ℕ) (before ops : List Op),
    Tx.Along Op.exec (Op.Admissible docType docId) ops (Database.after before) →
      Composes ops (Database.after before) := by
  intro h
  have hadmissible : Tx.Along Op.exec (Op.Admissible .orderOutbound 1)
      [shipSome "T1" 4 four_pos, shipSome "T2" 3 three_pos] tenOrdered :=
    ⟨admissible_fourOfTen, admissible_threeOfSix, trivial⟩
  have hcomposes := h .orderOutbound 1 (stocked ++ [Op.importOrder appleOrder [appleLine 1 10]])
    [shipSome "T1" 4 four_pos, shipSome "T2" 3 three_pos]
  rw [← tenOrdered] at hcomposes
  obtain ⟨⟨u, db₁, hrun⟩, ⟨u', db₂, hrun'⟩, -⟩ := (hcomposes hadmissible).succeeds
  rw [Tx.attempt_of_run hrun] at hrun'
  have hkey : ((1, ⟨1, 1, 1⟩) : ℕ × SlotKey) ∈ (shipSome "T1" 4 four_pos).keys tenOrdered := by
    decide +kernel
  exact admissible_fourOfTen.submits.keys_disjoint admissible_threeOfSix.submits hrun hrun' hkey
    (by decide +kernel)

end Wms

import Wms.Inbound.ReturnSource

/-!
# Receipts for returned goods

`create_inbound_receipt_from_return_order` plans the return of rows of an order, unless
the order has a receipt already, and `release_inbound_receipt` opens a receipt for
operations.
-/

namespace Wms

open Foundation

/-! ## Creating a receipt -/

/-- `InboundReceiptCreateFromReturnOrderLineIn`. -/
structure ReturnLineIn where
  orderLineId : ℕ
  itemId : ℕ
  plannedQty : ℤ
  remark : Option (Varchar 500)
  /-- The contract asks for a positive quantity. -/
  qty_pos : 1 ≤ plannedQty

/-- `InboundReceiptCreateFromReturnOrderIn` with the other arguments of the call and the
number that it mints. -/
structure ReturnCall where
  orderKey : String
  remark : Option (Varchar 500)
  lines : List ReturnLineIn
  createdBy : Option ℕ
  receiptNo : Varchar 64
  pms : PmsClient
  lines_ne : lines ≠ []

/-- The line of the receipt that a line of the payload becomes. -/
def ReturnSourceLine.receiptLine (src : ReturnSourceLine) (lineNo : ℕ) (line : ReturnLineIn) :
    ReceiptLine where
  lineNo := lineNo
  sourceLineId := some line.orderLineId
  itemId := src.itemId
  itemUomId := src.itemUomId
  plannedQty := line.plannedQty
  itemNameSnapshot := some src.itemNameSnapshot
  itemSpecSnapshot := src.itemSpecSnapshot
  uomNameSnapshot := some src.uomNameSnapshot
  ratioToBaseSnapshot := src.ratioToBaseSnapshot
  remark := line.remark
  planned_pos := lt_of_lt_of_le Int.one_pos line.qty_pos
  ratio_pos := by
    have hratio := src.ratio_pos
    omega

/-- The checks of one line of the payload against the source. -/
def returnReceiptLine (source : List ReturnSourceLine) (lineNo : ℕ) (seen : List ℕ)
    (line : ReturnLineIn) : Except Err ReceiptLine :=
  if line.orderLineId ∈ seen then
    .error (.httpException 409 s!"duplicate_return_order_line:{line.orderLineId}")
  else
    match source.find? fun l => l.orderLineId = line.orderLineId with
    | none => .error (.httpException 404 s!"return_order_line_not_found:{line.orderLineId}")
    | some src =>
      if src.itemId ≠ line.itemId then .error (.httpException 409
        s!"return_order_line_item_mismatch:order_line_id={line.orderLineId},source_item_id={src.itemId},payload_item_id={line.itemId}")
      else if src.qtyRemainingRefundable < line.plannedQty then .error (.httpException 409
        s!"return_qty_exceeds_remaining:order_line_id={line.orderLineId},remaining={src.qtyRemainingRefundable},planned={line.plannedQty}")
      else .ok (src.receiptLine lineNo line)

/-- The loop over the payload, which numbers the lines. -/
def returnReceiptLines (source : List ReturnSourceLine) :
    ℕ → List ℕ → List ReturnLineIn → Except Err (List ReceiptLine)
  | _, _, [] => .ok []
  | lineNo, seen, line :: rest => do
    let l ← returnReceiptLine source lineNo seen line
    let ls ← returnReceiptLines source (lineNo + 1) (line.orderLineId :: seen) rest
    return l :: ls

/-- `counterparty_name_snapshot`. -/
def counterpartyName (source : ReturnSource) : Option String :=
  if source.platform ≠ "" ∧ source.storeCode ≠ "" then
    some s!"{source.platform}:{source.storeCode}"
  else if source.platform ≠ "" then some source.platform
  else if source.storeCode ≠ "" then some source.storeCode
  else none

/-- A receipt and its lines, which the table of lines must be able to hold. -/
def InboundReceipt.withLines (header : InboundReceipt) (lines : List ReceiptLine) :
    Except Err InboundReceipt :=
  if h : lines.Pairwise fun a b => a.lineNo ≠ b.lineNo then
    .ok { header with lines := lines, lines_unique := h }
  else .error (.integrityError "uq_inbound_receipt_lines_receipt_line")

/-- The header of the receipt, without lines. -/
def ReturnCall.header (call : ReturnCall) (id : ℕ) (source : ReturnSource) :
    Except Err InboundReceipt := do
  let docNo ← Varchar.store 128
    (if source.extOrderNo = "" then source.orderRef else source.extOrderNo)
  let counterparty ← Varchar.store? 255 (counterpartyName source)
  return {
    id := id, receiptNo := call.receiptNo, sourceType := .returnOrder
    sourceDocId := some source.orderId, sourceDocNoSnapshot := some docNo
    warehouseId := source.warehouseId, warehouseNameSnapshot := source.warehouseNameSnapshot
    supplierId := none, counterpartyNameSnapshot := counterparty, status := .draft
    remark := call.remark, createdBy := call.createdBy, releasedAt := none, lines := []
    lines_unique := .nil }

/-- `create_inbound_receipt_from_return_order_repo`. The header is checked before the
lines, and both are stored. -/
def createFromReturnOrder (call : ReturnCall) : Tx OrderTables Err InboundReceipt := do
  let t ← get
  let source ← Tx.ofExcept (returnSource call.pms t call.orderKey)
  let existing := source.existingReceiptNo.getD ""
  Tx.failIf (source.existingReceiptNo ≠ none)
    (.httpException 409 s!"inbound_receipt_already_exists:{existing}")
  Tx.failIf (source.lines = []) (.httpException 409 "return_order_has_no_refundable_lines")
  let header ← Tx.ofExcept
    (call.header (nextId (t.db.receipts.rows.map InboundReceipt.id)) source)
  Tx.failIf (¬t.db.HasWarehouse source.warehouseId)
    (.integrityError "fk_inbound_receipts_warehouse")
  Tx.failIf (t.db.receipts.insert header).isNone
    (.integrityError "uq_inbound_receipts_receipt_no")
  let lines ← Tx.ofExcept (returnReceiptLines source.lines 1 [] call.lines)
  let receipt ← Tx.ofExcept (header.withLines lines)
  let receipts ← Tx.demand (t.db.receipts.insert receipt)
    (.integrityError "uq_inbound_receipts_receipt_no")
  set { t with db := { t.db with receipts := receipts } }
  return receipt

/-! ## Releasing and voiding -/

/-- A receipt that is still a draft is released. -/
def InboundReceipt.release (receiptId : ℕ) (now : ℤ) (r : InboundReceipt) : InboundReceipt :=
  if r.id = receiptId ∧ r.status = .draft then
    { r with status := .released, releasedAt := some (r.releasedAt.getD now) }
  else r

theorem InboundReceipt.release_keeps (receiptId : ℕ) (now : ℤ) (r : InboundReceipt) :
    (r.release receiptId now).id = r.id ∧ (r.release receiptId now).receiptNo = r.receiptNo := by
  unfold InboundReceipt.release
  split <;> exact ⟨rfl, rfl⟩

/-- The status becomes void. No service does this; the column and the checks of the
services provide for it. -/
def InboundReceipt.void (receiptId : ℕ) (r : InboundReceipt) : InboundReceipt :=
  if r.id = receiptId then { r with status := .voided } else r

theorem InboundReceipt.void_keeps (receiptId : ℕ) (r : InboundReceipt) :
    (r.void receiptId).id = r.id ∧ (r.void receiptId).receiptNo = r.receiptNo := by
  unfold InboundReceipt.void
  split <;> exact ⟨rfl, rfl⟩

/-- Rewrite the receipts by a function that keeps their keys. -/
def Database.mapReceipts (db : Database) (f : InboundReceipt → InboundReceipt)
    (hf : ∀ r, (f r).id = r.id ∧ (f r).receiptNo = r.receiptNo) : Database :=
  { db with
    receipts := db.receipts.map f fun a b h => by
      unfold InboundReceipt.Conflict at h ⊢
      rwa [(hf a).1, (hf a).2, (hf b).1, (hf b).2] at h }

/-- The receipt with the identifier becomes void. -/
def Database.voidReceipt (receiptId : ℕ) (db : Database) : Database :=
  db.mapReceipts (InboundReceipt.void receiptId) (InboundReceipt.void_keeps receiptId)

/-- `release_inbound_receipt_repo`: releasing a released receipt again changes nothing. -/
def releaseInboundReceipt (receiptId : ℕ) (now : ℤ) : Trans InboundReceipt := do
  let db ← get
  let r ← Tx.demand (db.receipts.rows.find? fun r => r.id = receiptId)
    (.httpException 404 "inbound_receipt_not_found")
  match r.status with
  | .draft => do
    set (db.mapReceipts (InboundReceipt.release receiptId now)
      (InboundReceipt.release_keeps receiptId now))
    return r.release receiptId now
  | .released => return r
  | status => throw (.httpException 409 s!"inbound_receipt_not_releasable:{status.code}")

/-! ## What the creation of a receipt does -/

variable {source : List ReturnSourceLine} {seen : List ℕ} {n : ℕ} {line : ReturnLineIn}
  {lines : List ReturnLineIn} {rl : ReceiptLine} {rls : List ReceiptLine}

theorem returnReceiptLine_eq_ok :
    returnReceiptLine source n seen line = .ok rl ↔
      line.orderLineId ∉ seen ∧ ∃ src, source.find? (fun l => l.orderLineId = line.orderLineId) =
          some src ∧ src.itemId = line.itemId ∧ line.plannedQty ≤ src.qtyRemainingRefundable ∧
        src.receiptLine n line = rl := by
  unfold returnReceiptLine
  constructor
  · intro h
    split at h
    · cases h
    · rename_i hseen
      refine ⟨hseen, ?_⟩
      split at h
      · cases h
      · rename_i src hsrc
        split at h
        · cases h
        · split at h
          · cases h
          · rename_i hitem hqty
            exact ⟨src, hsrc, not_not.mp hitem, not_lt.mp hqty, Except.ok.inj h⟩
  · rintro ⟨hseen, src, hsrc, hitem, hqty, rfl⟩
    rw [if_neg hseen, hsrc]
    simp only
    rw [if_neg (not_not.mpr hitem), if_neg (not_lt.mpr hqty)]

theorem returnReceiptLines_cons_eq_ok :
    returnReceiptLines source n seen (line :: lines) = .ok rls ↔
      ∃ l ls, returnReceiptLine source n seen line = .ok l ∧
        returnReceiptLines source (n + 1) (line.orderLineId :: seen) lines = .ok ls ∧
        l :: ls = rls := by
  rw [returnReceiptLines]
  simp only [bind, Except.bind]
  constructor
  · intro h
    split at h
    · cases h
    · rename_i l hl
      split at h
      · cases h
      · rename_i ls hls
        exact ⟨l, ls, hl, hls, Except.ok.inj h⟩
  · rintro ⟨l, ls, hl, hls, rfl⟩
    rw [hl, hls]
    rfl

/-- The lines are numbered in order. -/
theorem returnReceiptLines_lineNo (h : returnReceiptLines source n seen lines = .ok rls) :
    (∀ l ∈ rls, n ≤ l.lineNo) ∧ rls.Pairwise fun a b => a.lineNo ≠ b.lineNo := by
  induction lines generalizing n seen rls with
  | nil =>
    obtain rfl := Except.ok.inj h
    exact ⟨fun l hl => (by cases hl), .nil⟩
  | cons line lines ih =>
    obtain ⟨l, ls, hl, hls, rfl⟩ := returnReceiptLines_cons_eq_ok.mp h
    obtain ⟨-, src, -, -, -, rfl⟩ := returnReceiptLine_eq_ok.mp hl
    obtain ⟨hle, hpairwise⟩ := ih hls
    refine ⟨?_, List.pairwise_cons.mpr ⟨fun l hl => ?_, hpairwise⟩⟩
    · intro l hl
      rcases List.mem_cons.mp hl with rfl | hmem
      · exact le_refl n
      · exact (Nat.le_succ n).trans (hle l hmem)
    · have hlt := hle l hl
      change n ≠ l.lineNo
      omega

/-- The base quantity of an item that lines of a receipt plan to receive. -/
def receivableOf (lines : List ReceiptLine) (itemId : ℕ) : ℤ :=
  ((lines.filter fun l => l.itemId = itemId).map ReceiptLine.plannedQtyBase).sum

/-- The base quantity of an item that can be received under a receipt. -/
def InboundReceipt.receivable (r : InboundReceipt) (itemId : ℕ) : ℤ := receivableOf r.lines itemId

theorem receivableOf_cons (l : ReceiptLine) (ls : List ReceiptLine) (i : ℕ) :
    receivableOf (l :: ls) i = (if l.itemId = i then l.plannedQtyBase else 0) + receivableOf ls i := by
  unfold receivableOf
  by_cases h : l.itemId = i <;> simp [h]

/-- Each line of the source is the only one of its item, and its unit is a base unit. -/
def OneBaseLinePerItem (source : List ReturnSourceLine) : Prop :=
  ∀ l ∈ source, l.ratioToBaseSnapshot = 1 ∧
    ∀ l' ∈ source, l'.itemId = l.itemId → l'.orderLineId = l.orderLineId

instance (source : List ReturnSourceLine) : Decidable (OneBaseLinePerItem source) :=
  inferInstanceAs (Decidable (∀ l ∈ source, _ ∧ ∀ l' ∈ source, _))

/-- When each item has one line, in base units, no payload plans more of an item than
remains of it. -/
theorem receivableOf_le {remaining : ℕ → ℤ} (hone : OneBaseLinePerItem source)
    (hremaining : ∀ l ∈ source, l.qtyRemainingRefundable ≤ remaining l.itemId)
    (hnonneg : ∀ i, 0 ≤ remaining i) (h : returnReceiptLines source n seen lines = .ok rls) (i : ℕ) :
    receivableOf rls i ≤ remaining i ∧
      ((∃ src ∈ source, src.itemId = i ∧ src.orderLineId ∈ seen) → receivableOf rls i = 0) := by
  induction lines generalizing n seen rls with
  | nil =>
    obtain rfl := Except.ok.inj h
    exact ⟨hnonneg i, fun _ => rfl⟩
  | cons line lines ih =>
    obtain ⟨l, ls, hl, hls, rfl⟩ := returnReceiptLines_cons_eq_ok.mp h
    obtain ⟨hseen, src, hsrc, hitem, hqty, rfl⟩ := returnReceiptLine_eq_ok.mp hl
    have hmem : src ∈ source := List.mem_of_find?_eq_some hsrc
    have hid : src.orderLineId = line.orderLineId := by simpa using List.find?_some hsrc
    obtain ⟨hle, hzero⟩ := ih hls
    rw [receivableOf_cons]
    change (if src.itemId = i then line.plannedQty * src.ratioToBaseSnapshot else 0) + _ ≤ _ ∧ _
    by_cases hi : src.itemId = i
    · -- the later lines cannot name this line of the source again
      have hrest := hzero ⟨src, hmem, hi, hid ▸ List.mem_cons_self⟩
      refine ⟨?_, fun ⟨src', hmem', hi', hseen'⟩ => ?_⟩
      · have hbound := hremaining src hmem
        rw [hi] at hbound
        rw [if_pos hi, hrest, (hone src hmem).1]
        omega
      · rw [(hone src hmem).2 src' hmem' (hi'.trans hi.symm), hid] at hseen'
        exact absurd hseen' hseen
    · have hskip : (src.receiptLine n line).itemId ≠ i := hi
      rw [if_neg hi, if_neg hskip, zero_add]
      exact ⟨hle, fun ⟨src', hmem', hi', hseen'⟩ =>
        hzero ⟨src', hmem', hi', List.mem_cons_of_mem _ hseen'⟩⟩

/-- A receipt with lines keeps the rest of its header. -/
theorem InboundReceipt.withLines_eq_ok {header r : InboundReceipt} :
    header.withLines rls = .ok r ↔ ∃ h : rls.Pairwise fun a b => a.lineNo ≠ b.lineNo,
      { header with lines := rls, lines_unique := h } = r := by
  unfold InboundReceipt.withLines
  split
  · rename_i h
    constructor
    · intro heq
      exact ⟨h, Except.ok.inj heq⟩
    · rintro ⟨_, heq⟩
      exact congrArg _ heq
  · rename_i h
    constructor
    · intro heq
      cases heq
    · rintro ⟨h', _⟩
      exact absurd h' h

theorem ReturnCall.header_eq_ok {call : ReturnCall} {id : ℕ} {s : ReturnSource}
    {header : InboundReceipt} (h : call.header id s = .ok header) :
    header.id = id ∧ header.receiptNo = call.receiptNo ∧ header.Returns s.orderId ∧
      header.status = .draft := by
  unfold ReturnCall.header at h
  simp only [bind, Except.bind] at h
  split at h
  · cases h
  · split at h
    · cases h
    · cases h
      exact ⟨rfl, rfl, ⟨rfl, rfl⟩, rfl⟩

variable {call : ReturnCall} {t t' : OrderTables} {r : InboundReceipt}

/-- A call succeeds when the order has a source and no receipt, the header can be stored,
and the lines pass their checks; the receipt is then stored behind the others. -/
theorem createFromReturnOrder_run_ok :
    (createFromReturnOrder call).run t = .ok (r, t') ↔
      ∃ s header rls receipts, returnSource call.pms t call.orderKey = .ok s ∧
        s.existingReceiptNo = none ∧ s.lines ≠ [] ∧
        call.header (nextId (t.db.receipts.rows.map InboundReceipt.id)) s = .ok header ∧
        t.db.HasWarehouse s.warehouseId ∧ (t.db.receipts.insert header).isSome ∧
        returnReceiptLines s.lines 1 [] call.lines = .ok rls ∧ header.withLines rls = .ok r ∧
        t.db.receipts.insert r = some receipts ∧
        { t with db := { t.db with receipts := receipts } } = t' := by
  unfold createFromReturnOrder
  simp only [Tx.run_bind_ok, Tx.run_get_ok, Tx.run_ofExcept_ok, Tx.run_failIf_ok,
    Tx.run_demand_ok, Tx.run_set_ok, Tx.run_pure_ok, not_not, Bool.not_eq_true,
    Option.isNone_eq_false_iff]
  constructor
  · rintro ⟨_, _, ⟨rfl, rfl⟩, s, _, ⟨hs, rfl⟩, _, _, ⟨hexisting, rfl⟩, _, _, ⟨hlines, rfl⟩, header,
      _, ⟨hheader, rfl⟩, _, _, ⟨hw, rfl⟩, _, _, ⟨hfree, rfl⟩, rls, _, ⟨hrls, rfl⟩, _, _,
      ⟨hreceipt, rfl⟩, receipts, _, ⟨hinsert, rfl⟩, _, _, rfl, rfl, rfl⟩
    exact ⟨s, header, rls, receipts, hs, hexisting, hlines, hheader, hw, hfree, hrls, hreceipt,
      hinsert, rfl⟩
  · rintro ⟨s, header, rls, receipts, hs, hexisting, hlines, hheader, hw, hfree, hrls, hreceipt,
      hinsert, rfl⟩
    exact ⟨t, t, ⟨rfl, rfl⟩, s, t, ⟨hs, rfl⟩, ⟨⟩, t, ⟨hexisting, rfl⟩, ⟨⟩, t, ⟨hlines, rfl⟩, header,
      t, ⟨hheader, rfl⟩, ⟨⟩, t, ⟨hw, rfl⟩, ⟨⟩, t, ⟨hfree, rfl⟩, rls, t, ⟨hrls, rfl⟩, r, t,
      ⟨hreceipt, rfl⟩, receipts, t, ⟨hinsert, rfl⟩, ⟨⟩, _, rfl, rfl, rfl⟩

end Wms

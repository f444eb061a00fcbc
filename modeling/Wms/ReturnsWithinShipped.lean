import Wms.Inbound.Progress
import Wms.Inbound.ReturnReceipt
import Wms.System

/-!
# Returned goods never exceed shipped goods

A return receipt is planned against the counters of the order. The plan of a row is
checked in base units and stored in the unit in which its item is received, and the
counters of a row are those of its item. So the plan stays within what is left of an
item exactly when each refundable row is the only one of its item and has a base unit.
Receipts planned in this way never return more than was shipped.
-/

namespace Wms

open Foundation

variable {t t' : OrderTables} {order : Order} {pms : PmsClient} {key : String}
  {s : ReturnSource} {call : ReturnCall} {r : InboundReceipt}

/-! ## One receipt -/

/-- While an order has no receipt, nothing counts as returned. -/
theorem returnedOf_eq_zero {db : Database} {orderId : ℕ} (h : db.existingReturn orderId = none)
    (i : ℕ) : db.returnedOf orderId i = 0 := by
  have hnone : (db.receipts.rows.filter fun r => r.Returns orderId ∧ r.status = .released) = [] := by
    rw [List.filter_eq_nil_iff]
    intro r hr
    simp only [decide_eq_true_eq, not_and]
    intro hreturns hreleased
    have hvoided := existingReturn_eq_none.mp h r hr hreturns
    rw [hvoided] at hreleased
    cases hreleased
  unfold Database.returnedOf
  rw [hnone]
  rfl

theorem shippedOf_nonneg (b : Books) (ref : String) (i : ℕ) : 0 ≤ b.shippedOf ref i := by
  refine List.sum_nonneg fun q hq => ?_
  obtain ⟨r, hr, rfl⟩ := List.mem_map.mp hq
  have hmatch := (List.mem_filter.mp hr).2
  simp only [decide_eq_true_eq] at hmatch
  omega

/-- What is left of an item of the order by ledger and operations. -/
def OrderTables.left (t : OrderTables) (order : Order) (itemId : ℕ) : ℤ :=
  t.db.books.shippedOf order.outboundRef itemId - t.db.returnedOf order.id itemId

/-- With fresh counters a line of the source shows what is left of its item. -/
theorem sourceLine_remaining (hfresh : t.CountersFresh order)
    (hlines : List.Forall₂ ReturnSourceLine.Shows s.lines (t.refundable order.id))
    {l : ReturnSourceLine} (hl : l ∈ s.lines) :
    l.qtyRemainingRefundable = t.left order l.itemId ∧ 0 < l.qtyRemainingRefundable := by
  obtain ⟨oi, hoi, -, hitem, hremaining⟩ := exists_of_forall₂ hlines hl
  obtain ⟨hmem, ho, hpos⟩ := mem_refundable.mp hoi
  obtain ⟨hshipped, hreturned⟩ := hfresh oi hmem ho
  unfold OrderItem.remaining at hpos hremaining
  unfold OrderTables.left
  rw [hitem, ← hshipped, ← hreturned]
  omega

/-- A line of the source is found by its identifier. -/
theorem sourceLines_find {l : ReturnSourceLine}
    (hlines : List.Forall₂ ReturnSourceLine.Shows s.lines (t.refundable order.id))
    (hl : l ∈ s.lines) :
    s.lines.find? (fun x => x.orderLineId = l.orderLineId) = some l := by
  have hids : s.lines.map ReturnSourceLine.orderLineId =
      (t.refundable order.id).map OrderItem.id := by
    rw [← List.forall₂_eq_eq_eq, List.forall₂_map_left_iff, List.forall₂_map_right_iff]
    exact hlines.imp fun _ _ hshows => hshows.1
  have hnodup : (s.lines.map ReturnSourceLine.orderLineId).Nodup := by
    rw [hids]
    exact refundable_nodup t order.id
  obtain ⟨x, hx⟩ : ∃ x, s.lines.find? (fun x => x.orderLineId = l.orderLineId) = some x :=
    Option.isSome_iff_exists.mp (List.find?_isSome.mpr ⟨l, hl, by simp⟩)
  have hsame : x.orderLineId = l.orderLineId := by simpa using List.find?_some hx
  rw [hx, List.inj_on_of_nodup_map hnodup (List.mem_of_find?_eq_some hx) hl hsame]

/-- The plans of the order that a payload can make stay within what is left of each
item. -/
def PlansWithin (pms : PmsClient) (key : String) (order : Order) (t : OrderTables) : Prop :=
  ∀ call r t', call.pms = pms → call.orderKey = key →
    (createFromReturnOrder call).run t = .ok (r, t') → ∀ i, r.receivable i ≤ t.left order i

/-- Some payload for the key is accepted. -/
def Returnable (pms : PmsClient) (key : String) (t : OrderTables) : Prop :=
  ∃ call r t', call.pms = pms ∧ call.orderKey = key ∧
    (createFromReturnOrder call).run t = .ok (r, t')

/-- Each refundable row of the order that the key names is the only one of its item, and
the item is received in base units by default. -/
def BaseLinesOnly (pms : PmsClient) (key : String) (t : OrderTables) : Prop :=
  ∀ s, returnSource pms t key = .ok s → OneBaseLinePerItem s.lines

/-- What is known of an accepted call: the source is that of the order, nothing counts as
returned, and the plan is made from the source. -/
theorem createFromReturnOrder_accepted (hresolve : resolveOrderId t.db call.orderKey = .ok order.id)
    (h : (createFromReturnOrder call).run t = .ok (r, t')) :
    ∃ s, returnSource call.pms t call.orderKey = .ok s ∧ r.Returns order.id ∧ r.status = .draft ∧
      (∀ x ∈ t.db.receipts.rows, x.Returns order.id → x.status = .voided) ∧
      List.Forall₂ ReturnSourceLine.Shows s.lines (t.refundable order.id) ∧
      returnReceiptLines s.lines 1 [] call.lines = .ok r.lines := by
  obtain ⟨s, header, rls, receipts, hs, hexisting, -, hheader, -, -, hrls, hreceipt, -, -⟩ :=
    createFromReturnOrder_run_ok.mp h
  obtain ⟨order', hresolve', -, hid, hno, hlines⟩ := returnSource_eq_ok hs
  have hsame : order'.id = order.id := Except.ok.inj (hresolve'.symm.trans hresolve)
  rw [hsame] at hno hlines hid
  obtain ⟨-, -, hreturns, hdraft⟩ := ReturnCall.header_eq_ok hheader
  obtain ⟨hpairwise, rfl⟩ := InboundReceipt.withLines_eq_ok.mp hreceipt
  rw [hexisting, eq_comm, Option.map_eq_none_iff] at hno
  rw [hid] at hreturns
  exact ⟨s, hs, hreturns, hdraft, existingReturn_eq_none.mp hno, hlines, hrls⟩

/-- Where every line is in base units and alone of its item, an accepted plan stays within
what is left. -/
theorem receivable_le_left (hresolve : resolveOrderId t.db call.orderKey = .ok order.id)
    (hfresh : t.CountersFresh order) (hbase : BaseLinesOnly call.pms call.orderKey t)
    (h : (createFromReturnOrder call).run t = .ok (r, t')) (i : ℕ) :
    r.receivable i ≤ t.left order i := by
  obtain ⟨s, hs, -, -, hvoided, hlines, hrls⟩ := createFromReturnOrder_accepted hresolve h
  refine (receivableOf_le (hbase s hs)
    (fun l hl => (sourceLine_remaining hfresh hlines hl).1.le) (fun i => ?_) hrls i).1
  unfold OrderTables.left
  rw [returnedOf_eq_zero (existingReturn_eq_none.mpr hvoided), sub_zero]
  exact shippedOf_nonneg _ _ _

/-- A payload line that asks for all that remains of a line of the source. -/
def ReturnSourceLine.returnAll (l : ReturnSourceLine) (h : 1 ≤ l.qtyRemainingRefundable) :
    ReturnLineIn := ⟨l.orderLineId, l.itemId, l.qtyRemainingRefundable, none, h⟩

/-- A call that is accepted is also accepted with other lines that pass the checks. -/
theorem createFromReturnOrder_of_lines {lines : List ReturnLineIn} {rls : List ReceiptLine}
    (hne : lines ≠ []) (hs : returnSource call.pms t call.orderKey = .ok s)
    (h : (createFromReturnOrder call).run t = .ok (r, t'))
    (hrls : returnReceiptLines s.lines 1 [] lines = .ok rls) :
    ∃ call' r' t'', call'.pms = call.pms ∧ call'.orderKey = call.orderKey ∧
      (createFromReturnOrder call').run t = .ok (r', t'') ∧ r'.lines = rls := by
  obtain ⟨s', header, -, -, hs', hexisting, hsome, hheader, hw, hfree, -, -, -, -⟩ :=
    createFromReturnOrder_run_ok.mp h
  obtain rfl : s = s' := Except.ok.inj (hs.symm.trans hs')
  obtain ⟨hid, hno, -, -⟩ := ReturnCall.header_eq_ok hheader
  have hpairwise := (returnReceiptLines_lineNo hrls).2
  -- the key of a receipt is in its header
  obtain ⟨receipts, hinsert⟩ : ∃ receipts, t.db.receipts.insert
      { header with lines := rls, lines_unique := hpairwise } = some receipts := by
    obtain ⟨receipts, hheaderInsert⟩ := Option.isSome_iff_exists.mp hfree
    refine Option.ne_none_iff_exists'.mp fun hnone => ?_
    obtain ⟨a, ha, hconf⟩ := Table.insert_eq_none.mp hnone
    exact (Table.insert_eq_some.mp hheaderInsert).1 a ha hconf
  exact ⟨{ call with lines := lines, lines_ne := hne }, _, _, rfl, rfl,
    createFromReturnOrder_run_ok.mpr ⟨s, header, rls, receipts, hs, hexisting, hsome, hheader, hw,
      hfree, hrls, InboundReceipt.withLines_eq_ok.mpr ⟨hpairwise, rfl⟩, hinsert, rfl⟩, rfl⟩

/-- When every plan stays within what is left, and one is accepted, every line is in base
units and alone of its item. -/
theorem baseLinesOnly_of_plansWithin (hresolve : resolveOrderId t.db key = .ok order.id)
    (hfresh : t.CountersFresh order) (hwithin : PlansWithin pms key order t)
    (hreturnable : Returnable pms key t) : BaseLinesOnly pms key t := by
  obtain ⟨call, r, t', rfl, rfl, hrun⟩ := hreturnable
  intro s hs
  obtain ⟨s', hs', -, -, -, hlines, -⟩ := createFromReturnOrder_accepted hresolve hrun
  obtain rfl : s = s' := Except.ok.inj (hs.symm.trans hs')
  have hratio : ∀ l ∈ s.lines, l.ratioToBaseSnapshot = 1 := by
    intro l hl
    obtain ⟨hleft, hpos⟩ := sourceLine_remaining hfresh hlines hl
    -- a return of all that remains of the line
    have hrls : returnReceiptLines s.lines 1 [] [l.returnAll hpos] =
        .ok [l.receiptLine 1 (l.returnAll hpos)] := by
      refine returnReceiptLines_cons_eq_ok.mpr ⟨_, [], returnReceiptLine_eq_ok.mpr
        ⟨List.not_mem_nil, l, sourceLines_find hlines hl, rfl, le_rfl, rfl⟩, rfl, rfl⟩
    obtain ⟨call', r', t'', hpms, hkey, hrun', hr'⟩ :=
      createFromReturnOrder_of_lines (List.cons_ne_nil _ _) hs hrun hrls
    have hle := hwithin call' r' t'' hpms hkey hrun' l.itemId
    unfold InboundReceipt.receivable at hle
    rw [hr', receivableOf_cons, ← hleft] at hle
    change (if l.itemId = l.itemId then l.qtyRemainingRefundable * l.ratioToBaseSnapshot else 0) + 0
      ≤ _ at hle
    rw [if_pos rfl, add_zero] at hle
    have hone : (l.ratioToBaseSnapshot : ℤ) ≤ 1 := by
      by_contra hgt
      have htwo : (2 : ℤ) ≤ l.ratioToBaseSnapshot := by omega
      have hmul := mul_le_mul_of_nonneg_left htwo hpos.le
      omega
    have hratio := l.ratio_pos
    omega
  refine fun l hl => ⟨hratio l hl, fun l' hl' hitem => ?_⟩
  by_contra hne
  obtain ⟨hleft, hpos⟩ := sourceLine_remaining hfresh hlines hl
  obtain ⟨hleft', hpos'⟩ := sourceLine_remaining hfresh hlines hl'
  -- a return of all that remains of both lines
  have hrls : returnReceiptLines s.lines 1 [] [l.returnAll hpos, l'.returnAll hpos'] =
      .ok [l.receiptLine 1 (l.returnAll hpos), l'.receiptLine 2 (l'.returnAll hpos')] := by
    refine returnReceiptLines_cons_eq_ok.mpr ⟨_, _, returnReceiptLine_eq_ok.mpr
      ⟨List.not_mem_nil, l, sourceLines_find hlines hl, rfl, le_rfl, rfl⟩,
      returnReceiptLines_cons_eq_ok.mpr ⟨_, [], returnReceiptLine_eq_ok.mpr
        ⟨?_, l', sourceLines_find hlines hl', rfl, le_rfl, rfl⟩, rfl, rfl⟩, rfl⟩
    exact fun hmem => hne (List.mem_singleton.mp hmem)
  obtain ⟨call', r', t'', hpms, hkey, hrun', hr'⟩ :=
    createFromReturnOrder_of_lines (List.cons_ne_nil _ _) hs hrun hrls
  have hle := hwithin call' r' t'' hpms hkey hrun' l.itemId
  unfold InboundReceipt.receivable at hle
  rw [hr', receivableOf_cons, receivableOf_cons, ← hleft] at hle
  change (if l.itemId = l.itemId then l.qtyRemainingRefundable * l.ratioToBaseSnapshot else 0) +
    ((if l'.itemId = l.itemId then l'.qtyRemainingRefundable * l'.ratioToBaseSnapshot else 0) + 0)
      ≤ _ at hle
  rw [if_pos rfl, if_pos hitem, hratio l hl, hratio l' hl'] at hle
  omega

/-- With fresh counters the plans of an order stay within what is left exactly when no
payload is accepted, or every line is in base units and alone of its item. -/
theorem plansWithin_iff (hresolve : resolveOrderId t.db key = .ok order.id)
    (hfresh : t.CountersFresh order) :
    PlansWithin pms key order t ↔ (Returnable pms key t → BaseLinesOnly pms key t) := by
  constructor
  · exact baseLinesOnly_of_plansWithin hresolve hfresh
  · rintro h call r t' rfl rfl hrun
    exact receivable_le_left hresolve hfresh (h ⟨call, r, t', rfl, rfl, hrun⟩) hrun

/-! ## A sequence of receipts -/

/-- No more of an item has been returned than was shipped. -/
def OrderTables.ReturnedWithinShipped (t : OrderTables) (order : Order) : Prop :=
  ∀ i, t.db.returnedTotal order.id i ≤ t.db.books.shippedOf order.outboundRef i

/-- What happens to an order and its receipts. -/
inductive ReturnOp
  | applyCounters (orderId : ℕ)
  | create (call : ReturnCall)
  | release (receiptId : ℕ) (now : ℤ)
  | submit (call : OperationCall)
  | void (receiptId : ℕ)
  /-- Any other transaction, which leads to the given state. -/
  | elsewhere (t' : OrderTables)

/-- The operation leads from one state to another. Other transactions keep receipts,
operations and stored orders, and the ledger loses no shipment. -/
def ReturnOp.Step : ReturnOp → OrderTables → OrderTables → Prop
  | applyCounters orderId, t, t' => ∃ u, (Wms.applyCounters orderId).run t = .ok (u, t')
  | create call, t, t' => ∃ r, (createFromReturnOrder call).run t = .ok (r, t')
  | release receiptId now, t, t' =>
    ∃ r db', (releaseInboundReceipt receiptId now).run t.db = .ok (r, db') ∧
      { t with db := db' } = t'
  | submit call, t, t' =>
    ∃ event db', (submitInboundOperation call).run t.db = .ok (event, db') ∧
      { t with db := db' } = t'
  | void receiptId, t, t' => { t with db := t.db.voidReceipt receiptId } = t'
  | elsewhere t'', t, t' =>
    t'' = t' ∧ t'.db.receipts = t.db.receipts ∧ t'.db.operations = t.db.operations ∧
      (∀ order, t.db.findOrder order.id = some order → t'.db.findOrder order.id = some order) ∧
      ∀ ref i, t.db.books.shippedOf ref i ≤ t'.db.books.shippedOf ref i

/-- A receipt of the order is created when the counters are fresh, every refundable row is
alone of its item and has a base unit, and a receipt of the order is voided only before
anything is received under it. -/
def ReturnOp.Meets (order : Order) : ReturnOp → OrderTables → Prop
  | create call, t => resolveOrderId t.db call.orderKey = .ok order.id →
    t.CountersFresh order ∧ BaseLinesOnly call.pms call.orderKey t
  | void receiptId, t => ∀ r ∈ t.db.receipts.rows, r.id = receiptId → r.Returns order.id →
    deliveriesOf t.db.operations r.receiptNo.text = []
  | _, _ => True

/-- A run of operations that meet the condition. -/
inductive ReturnRun (order : Order) (t₀ : OrderTables) : OrderTables → Prop
  | start : ReturnRun order t₀ t₀
  | step {t t' : OrderTables} (op : ReturnOp) : ReturnRun order t₀ t → op.Meets order t →
    op.Step t t' → ReturnRun order t₀ t'

/-- The deliveries under a receipt are within its plan. -/
structure WithinPlan (operations : List InboundOperation) (r : InboundReceipt) : Prop where
  lines_for : ∀ l ∈ deliveriesOf operations r.receiptNo.text, ∃ rl ∈ r.lines, l.For rl
  received_le : ∀ rl ∈ r.lines,
    receivedQtyBase operations r.receiptNo.text rl.lineNo ≤ rl.plannedQtyBase

/-- What the run keeps: deliveries are within the plans of the receipts of the order, a
voided receipt has none, and the one receipt that is not voided plans no more than was
shipped. -/
structure ReturnsKept (order : Order) (db : Database) : Prop where
  order_stored : db.findOrder order.id = some order
  operations_for : ∀ o ∈ db.operations, ∃ r ∈ db.receipts.rows,
    r.receiptNo = o.receiptNoSnapshot
  withinPlan : ∀ r ∈ db.receipts.rows, r.Returns order.id → WithinPlan db.operations r
  voided : ∀ r ∈ db.receipts.rows, r.Returns order.id → r.status = .voided →
    deliveriesOf db.operations r.receiptNo.text = []
  open_unique : ∀ r ∈ db.receipts.rows, ∀ r' ∈ db.receipts.rows, r.Returns order.id →
    r'.Returns order.id → r.status ≠ .voided → r'.status ≠ .voided → r = r'
  receivable_le : ∀ r ∈ db.receipts.rows, r.Returns order.id → r.status ≠ .voided → ∀ i,
    r.receivable i ≤ db.books.shippedOf order.outboundRef i

/-- What is delivered of an item for lines of a receipt is at most what is delivered for
the lines of that item. -/
theorem delivered_le_of_for {rls : List ReceiptLine} {ls : List OperationLine} (i : ℕ)
    (hfor : ∀ l ∈ ls, ∃ rl ∈ rls, l.For rl) :
    ((ls.filter fun l => l.itemId = i).map OperationLine.qtyBase).sum ≤
      ((rls.filter fun rl => rl.itemId = i).map fun rl => deliveredQty ls rl.lineNo).sum := by
  induction ls with
  | nil => simp
  | cons l ls ih =>
    obtain ⟨hhead, htail⟩ := List.forall_mem_cons.mp hfor
    have hsplit : ∀ n, deliveredQty (l :: ls) n = deliveredQty [l] n + deliveredQty ls n :=
      fun n => deliveredQty_append [l] ls n
    simp only [hsplit, List.sum_map_add]
    have hrest := ih htail
    by_cases hi : l.itemId = i
    · -- the delivery counts for the line that it is for
      obtain ⟨rl, hrl, hno, hitem⟩ := hhead
      have hone : l.qtyBase ≤
          ((rls.filter fun rl => rl.itemId = i).map fun rl => deliveredQty [l] rl.lineNo).sum := by
        have hmem : deliveredQty [l] rl.lineNo ∈
            (rls.filter fun rl => rl.itemId = i).map fun rl => deliveredQty [l] rl.lineNo :=
          List.mem_map_of_mem (List.mem_filter.mpr ⟨hrl, by simpa using hitem.symm.trans hi⟩)
        rw [deliveredQty_singleton, if_pos hno] at hmem
        refine List.single_le_sum ?_ _ hmem
        intro q hq
        obtain ⟨rl', -, rfl⟩ := List.mem_map.mp hq
        exact deliveredQty_nonneg [l] _
      rw [List.filter_cons_of_pos (by simpa using hi), List.map_cons, List.sum_cons]
      exact add_le_add hone hrest
    · have hnonneg : 0 ≤
          ((rls.filter fun rl => rl.itemId = i).map fun rl => deliveredQty [l] rl.lineNo).sum := by
        refine List.sum_nonneg fun q hq => ?_
        obtain ⟨rl', -, rfl⟩ := List.mem_map.mp hq
        exact deliveredQty_nonneg [l] _
      rw [List.filter_cons_of_neg (by simpa using hi)]
      omega

theorem WithinPlan.receivedOf_le {ops : List InboundOperation} (h : WithinPlan ops r) (i : ℕ) :
    receivedOf ops r.receiptNo.text i ≤ r.receivable i := by
  refine (delivered_le_of_for i h.lines_for).trans ?_
  refine List.sum_le_sum fun rl hrl => ?_
  exact h.received_le rl (List.mem_filter.mp hrl).1

theorem receipts_nodup (db : Database) : db.receipts.rows.Nodup :=
  db.receipts.unique.imp fun hab heq => hab (.inl (congrArg InboundReceipt.id heq))

/-- A sum of which at most one term is not zero. -/
theorem sum_eq_of_unique {α : Type} {f : α → ℤ} {l : List α} {a : α} (ha : a ∈ l) (hl : l.Nodup)
    (hzero : ∀ b ∈ l, b ≠ a → f b = 0) : (l.map f).sum = f a := by
  classical
  rw [← List.sum_toFinset f hl]
  refine Finset.sum_eq_single a (fun b hb => hzero b (List.mem_toFinset.mp hb)) fun hnot => ?_
  exact absurd (List.mem_toFinset.mpr ha) hnot

/-- What is kept bounds the total. -/
theorem ReturnsKept.returnedWithinShipped (h : ReturnsKept order t.db) :
    t.ReturnedWithinShipped order := by
  intro i
  have hzero : ∀ r ∈ t.db.receipts.rows, r.Returns order.id → r.status = .voided →
      receivedOf t.db.operations r.receiptNo.text i = 0 := by
    intro r hr hreturns hvoided
    have hnone := h.voided r hr hreturns hvoided
    unfold receivedOf
    unfold deliveriesOf at hnone
    rw [hnone]
    rfl
  have hshipped := shippedOf_nonneg t.db.books order.outboundRef i
  unfold Database.returnedTotal
  by_cases hopen : ∃ r ∈ t.db.receipts.rows, r.Returns order.id ∧ r.status ≠ .voided
  · obtain ⟨r, hr, hreturns, hnot⟩ := hopen
    have hmem : r ∈ t.db.receipts.rows.filter fun r => r.Returns order.id :=
      List.mem_filter.mpr ⟨hr, by simpa using hreturns⟩
    rw [sum_eq_of_unique hmem ((receipts_nodup t.db).filter _)]
    · exact ((h.withinPlan r hr hreturns).receivedOf_le i).trans
        (h.receivable_le r hr hreturns hnot i)
    · intro r' hr' hne
      obtain ⟨hr', hreturns'⟩ := List.mem_filter.mp hr'
      have hreturns' : r'.Returns order.id := by simpa using hreturns'
      refine hzero r' hr' hreturns' ?_
      by_contra hnot'
      exact hne (h.open_unique r' hr' r hr hreturns' hreturns hnot' hnot)
  · have hall : ∀ q ∈ (t.db.receipts.rows.filter fun r => r.Returns order.id).map
        fun r => receivedOf t.db.operations r.receiptNo.text i, q = 0 := by
      intro q hq
      obtain ⟨r, hr, rfl⟩ := List.mem_map.mp hq
      obtain ⟨hr, hreturns⟩ := List.mem_filter.mp hr
      have hreturns : r.Returns order.id := by simpa using hreturns
      refine hzero r hr hreturns ?_
      by_contra hnot
      exact hopen ⟨r, hr, hreturns, hnot⟩
    rw [List.sum_eq_zero hall]
    exact hshipped

/-! ### What a step keeps -/

variable {db db' : Database}

/-- Nothing has been received under a number that no receipt has. -/
theorem ReturnsKept.deliveriesOf_eq_nil (h : ReturnsKept order db) {no : Varchar 64}
    (hfree : ∀ r ∈ db.receipts.rows, r.receiptNo ≠ no) :
    deliveriesOf db.operations no.text = [] := by
  unfold deliveriesOf
  have hnone : (db.operations.filter fun o => o.receiptNoSnapshot.text = no.text) = [] := by
    rw [List.filter_eq_nil_iff]
    intro o ho hsame
    obtain ⟨r, hr, hno⟩ := h.operations_for o ho
    refine hfree r hr (hno.trans ?_)
    cases hsnapshot : o.receiptNoSnapshot
    cases no
    simpa [hsnapshot] using hsame
  rw [hnone]
  rfl

/-- What is kept does not depend on other tables, and more shipments do no harm. -/
theorem ReturnsKept.of_frame (h : ReturnsKept order db) (hreceipts : db'.receipts = db.receipts)
    (hoperations : db'.operations = db.operations)
    (horder : db'.findOrder order.id = some order)
    (hshipped : ∀ i, db.books.shippedOf order.outboundRef i ≤
      db'.books.shippedOf order.outboundRef i) :
    ReturnsKept order db' := by
  obtain ⟨-, hfor, hplan, hvoided, hunique, hle⟩ := h
  rw [← hreceipts, ← hoperations] at hfor hplan hvoided
  rw [← hreceipts] at hunique hle
  exact ⟨horder, hfor, hplan, hvoided, hunique,
    fun r hr hreturns hnot i => (hle r hr hreturns hnot i).trans (hshipped i)⟩

/-- A change of receipts that keeps their numbers, sources and plans, reopens no voided
receipt, and voids only receipts without deliveries. -/
structure KeepsPlans (order : Order) (db : Database) (f : InboundReceipt → InboundReceipt) :
    Prop where
  receiptNo_eq : ∀ r, (f r).receiptNo = r.receiptNo
  returns_iff : ∀ r, (f r).Returns order.id ↔ r.Returns order.id
  lines_eq : ∀ r, (f r).lines = r.lines
  voided : ∀ r ∈ db.receipts.rows, r.Returns order.id → (f r).status = .voided →
    r.status = .voided ∨ deliveriesOf db.operations r.receiptNo.text = []
  not_voided : ∀ r, (f r).status ≠ .voided → r.status ≠ .voided

theorem ReturnsKept.mapReceipts (h : ReturnsKept order db) {f : InboundReceipt → InboundReceipt}
    (hf : KeepsPlans order db f) (hrows : db'.receipts.rows = db.receipts.rows.map f)
    (hoperations : db'.operations = db.operations) (horders : db'.orders = db.orders)
    (hbooks : db'.books = db.books) : ReturnsKept order db' := by
  have hmem : ∀ r' ∈ db'.receipts.rows, ∃ r ∈ db.receipts.rows, f r = r' := by
    intro r' hr'
    rw [hrows] at hr'
    exact List.mem_map.mp hr'
  refine ⟨?_, ?_, ?_, ?_, ?_, ?_⟩
  · unfold Database.findOrder
    rw [horders]
    exact h.order_stored
  · intro o ho
    rw [hoperations] at ho
    obtain ⟨r, hr, hno⟩ := h.operations_for o ho
    refine ⟨f r, ?_, (hf.receiptNo_eq r).trans hno⟩
    rw [hrows]
    exact List.mem_map_of_mem hr
  · intro r' hr' hreturns
    obtain ⟨r, hr, rfl⟩ := hmem r' hr'
    obtain ⟨hfor, hle⟩ := h.withinPlan r hr ((hf.returns_iff r).mp hreturns)
    refine ⟨?_, ?_⟩
    · rw [hoperations, hf.receiptNo_eq, hf.lines_eq]
      exact hfor
    · rw [hoperations, hf.receiptNo_eq, hf.lines_eq]
      exact hle
  · intro r' hr' hreturns hvoided
    obtain ⟨r, hr, rfl⟩ := hmem r' hr'
    rw [hoperations, hf.receiptNo_eq]
    have hreturns := (hf.returns_iff r).mp hreturns
    rcases hf.voided r hr hreturns hvoided with hold | hnone
    · exact h.voided r hr hreturns hold
    · exact hnone
  · intro a' ha' b' hb' hra hrb hna hnb
    obtain ⟨a, ha, rfl⟩ := hmem a' ha'
    obtain ⟨b, hb, rfl⟩ := hmem b' hb'
    rw [h.open_unique a ha b hb ((hf.returns_iff a).mp hra) ((hf.returns_iff b).mp hrb)
      (hf.not_voided a hna) (hf.not_voided b hnb)]
  · intro r' hr' hreturns hnot i
    obtain ⟨r, hr, rfl⟩ := hmem r' hr'
    unfold InboundReceipt.receivable
    rw [hf.lines_eq, hbooks]
    exact h.receivable_le r hr ((hf.returns_iff r).mp hreturns) (hf.not_voided r hnot) i

/-- Releasing a receipt changes no plan. -/
theorem keepsPlans_release (receiptId : ℕ) (now : ℤ) :
    KeepsPlans order db (InboundReceipt.release receiptId now) := by
  refine ⟨fun r => (r.release_keeps receiptId now).2, fun r => ?_, fun r => ?_,
    fun r _ _ h => ?_, fun r h => ?_⟩ <;> unfold InboundReceipt.release at *
  · split <;> rfl
  · split <;> rfl
  · split at h
    · cases h
    · exact .inl h
  · split at h
    · rename_i hdraft
      rw [hdraft.2]
      exact fun hvoided => (by cases hvoided)
    · exact h

/-- Completing a receipt changes no plan. -/
theorem keepsPlans_complete (receiptId : ℕ) :
    KeepsPlans order db (InboundReceipt.complete receiptId) := by
  refine ⟨fun r => (r.complete_keeps receiptId).2, fun r => ?_, fun r => ?_,
    fun r _ _ h => ?_, fun r h => ?_⟩ <;> unfold InboundReceipt.complete at *
  · split <;> rfl
  · split <;> rfl
  · split at h
    · cases h
    · exact .inl h
  · split at h
    · rename_i hreleased
      rw [hreleased.2]
      exact fun hvoided => (by cases hvoided)
    · exact h

/-- Voiding a receipt without deliveries changes no plan. -/
theorem keepsPlans_void {receiptId : ℕ}
    (hnone : ∀ r ∈ db.receipts.rows, r.id = receiptId → r.Returns order.id →
      deliveriesOf db.operations r.receiptNo.text = []) :
    KeepsPlans order db (InboundReceipt.void receiptId) := by
  refine ⟨fun r => (r.void_keeps receiptId).2, fun r => ?_, fun r => ?_,
    fun r hr hreturns h => ?_, fun r h => ?_⟩ <;> unfold InboundReceipt.void at *
  · split <;> rfl
  · split <;> rfl
  · split at h
    · rename_i hid
      exact .inr (hnone r hr hid hreturns)
    · exact .inl h
  · split at h
    · exact absurd rfl h
    · exact h

/-- A new receipt of the order is the only one that is not voided, and plans what is
left. -/
theorem ReturnsKept.create (h : ReturnsKept order t.db)
    (hmeets : (ReturnOp.create call).Meets order t)
    (hrun : (createFromReturnOrder call).run t = .ok (r, t')) : ReturnsKept order t'.db := by
  obtain ⟨s, header, rls, receipts, hs, -, -, hheader, -, -, -, hreceipt, hinsert, rfl⟩ :=
    createFromReturnOrder_run_ok.mp hrun
  obtain ⟨order', hresolve, -, hid, -, -⟩ := returnSource_eq_ok hs
  obtain ⟨-, -, hreturns, -⟩ := ReturnCall.header_eq_ok hheader
  obtain ⟨hpairwise, rfl⟩ := InboundReceipt.withLines_eq_ok.mp hreceipt
  obtain ⟨hfree, hrows⟩ := Table.insert_eq_some.mp hinsert
  rw [hid] at hreturns
  set r : InboundReceipt := { header with lines := rls, lines_unique := hpairwise } with hr
  have hnone : deliveriesOf t.db.operations r.receiptNo.text = [] :=
    h.deliveriesOf_eq_nil fun a ha hno => hfree a ha (.inr hno)
  -- what is known of the receipt when it is one of the order
  have hnew : r.Returns order.id → resolveOrderId t.db call.orderKey = .ok order.id := by
    intro hr'
    have hsame : order'.id = order.id := Option.some.inj (hreturns.2.symm.trans hr'.2)
    rw [← hsame]
    exact hresolve
  have hold : ∀ a ∈ receipts.rows, a = r ∨ a ∈ t.db.receipts.rows := by
    intro a ha
    rw [hrows] at ha
    exact (List.mem_append.mp ha).symm.imp_left List.mem_singleton.mp
  have hvoided : r.Returns order.id → ∀ a ∈ t.db.receipts.rows, a.Returns order.id →
      a.status = .voided := by
    intro hr'
    obtain ⟨-, -, -, -, hvoided, -, -⟩ := createFromReturnOrder_accepted (hnew hr') hrun
    exact hvoided
  refine ⟨h.order_stored, ?_, ?_, ?_, ?_, ?_⟩
  · intro o ho
    obtain ⟨a, ha, hno⟩ := h.operations_for o ho
    exact ⟨a, by rw [hrows]; exact List.mem_append_left _ ha, hno⟩
  · intro a ha hreturnsA
    rcases hold a ha with rfl | hmem
    · refine ⟨fun l hl => ?_, fun rl _ => ?_⟩
      · change l ∈ deliveriesOf t.db.operations r.receiptNo.text at hl
        rw [hnone] at hl
        cases hl
      · change deliveredQty (deliveriesOf t.db.operations r.receiptNo.text) rl.lineNo ≤ _
        rw [hnone]
        exact (mul_pos rl.planned_pos rl.ratio_pos).le
    · exact h.withinPlan a hmem hreturnsA
  · intro a ha hreturnsA hvoidedA
    rcases hold a ha with rfl | hmem
    · exact hnone
    · exact h.voided a hmem hreturnsA hvoidedA
  · intro a ha b hb hra hrb hna hnb
    rcases hold a ha with rfl | hmemA <;> rcases hold b hb with rfl | hmemB
    · rfl
    · exact absurd (hvoided hra b hmemB hrb) hnb
    · exact absurd (hvoided hrb a hmemA hra) hna
    · exact h.open_unique a hmemA b hmemB hra hrb hna hnb
  · intro a ha hreturnsA hnot i
    rcases hold a ha with rfl | hmem
    · obtain ⟨hfresh, hbase⟩ := hmeets (hnew hreturnsA)
      have hle := receivable_le_left (hnew hreturnsA) hfresh hbase hrun i
      unfold OrderTables.left at hle
      rw [returnedOf_eq_zero (existingReturn_eq_none.mpr (hvoided hreturnsA)), sub_zero] at hle
      exact hle
    · exact h.receivable_le a hmem hreturnsA hnot i

/-- A ledger that has grown has shipped at least as much. -/
theorem shippedOf_le_of_grows {b b' : Books}
    (h : ∃ rows, b'.stockLedger.rows = b.stockLedger.rows ++ rows) (ref : String) (i : ℕ) :
    b.shippedOf ref i ≤ b'.shippedOf ref i := by
  obtain ⟨rows, hrows⟩ := h
  unfold Books.shippedOf
  rw [hrows, List.filter_append, List.map_append, List.sum_append]
  refine le_add_of_nonneg_right (List.sum_nonneg fun q hq => ?_)
  obtain ⟨r, hr, rfl⟩ := List.mem_map.mp hq
  have hmatch := (List.mem_filter.mp hr).2
  simp only [decide_eq_true_eq] at hmatch
  omega

/-- The deliveries of an operation stay within the plan of its receipt. -/
theorem WithinPlan.append {ops : List InboundOperation} {o : InboundOperation}
    {st : OperationProgress} (h : WithinPlan ops r)
    (hdelivered : Delivered r (receivedQtyBase ops r.receiptNo.text) st)
    (hno : o.receiptNoSnapshot = r.receiptNo) (hlines : o.lines = st.lines) :
    WithinPlan (ops ++ [o]) r := by
  have hall : deliveriesOf (ops ++ [o]) r.receiptNo.text =
      deliveriesOf ops r.receiptNo.text ++ st.lines := by
    rw [deliveriesOf_append, hno, if_pos rfl, hlines]
  refine ⟨fun l hl => ?_, fun rl hrl => ?_⟩
  · rw [hall] at hl
    rcases List.mem_append.mp hl with hold | hnew
    · exact h.lines_for l hold
    · obtain ⟨rl, hrl, hfor, -⟩ := hdelivered.lines_for l hnew
      exact ⟨rl, hrl, hfor⟩
  · change deliveredQty (deliveriesOf (ops ++ [o]) r.receiptNo.text) rl.lineNo ≤ _
    rw [hall, deliveredQty_append]
    have hreceived := hdelivered.received_eq rl.lineNo
    change st.received rl.lineNo =
      deliveredQty (deliveriesOf ops r.receiptNo.text) rl.lineNo + _ at hreceived
    rw [← hreceived]
    by_cases hsome : ∃ l ∈ st.lines, l.receiptLineNoSnapshot = rl.lineNo
    · obtain ⟨l, hl, hlno⟩ := hsome
      obtain ⟨rl', hrl', hfor, hle⟩ := hdelivered.lines_for l hl
      rw [← r.line_ext hrl' hrl (hfor.1.symm.trans hlno)]
      exact hle
    · -- the operation delivers nothing for this line
      have hzero : deliveredQty st.lines rl.lineNo = 0 := by
        unfold deliveredQty
        rw [List.filter_eq_nil_iff.mpr fun l hl hlno => hsome ⟨l, hl, by simpa using hlno⟩]
        rfl
      rw [hreceived, hzero, add_zero]
      exact h.received_le rl hrl

/-- An operation keeps the plans. -/
theorem ReturnsKept.submit {call : OperationCall} {event : WmsEvent} (h : ReturnsKept order db)
    (hrun : (submitInboundOperation call).run db = .ok (event, db')) : ReturnsKept order db' := by
  obtain ⟨receipt, operatorName, st, db₁, hfind, hreleased, hdelivered, hsame, rfl⟩ :=
    submitInboundOperation_progress hrun
  have hmem : receipt ∈ db.receipts.rows := List.mem_of_find?_eq_some hfind
  have hno : receipt.receiptNo.text = call.receiptNo := by simpa using List.find?_some hfind
  rw [← hno] at hdelivered
  set o : InboundOperation := {
    id := nextId (db₁.operations.map InboundOperation.id)
    receiptNoSnapshot := receipt.receiptNo, warehouseId := receipt.warehouseId
    warehouseNameSnapshot := receipt.warehouseNameSnapshot, supplierId := receipt.supplierId
    supplierNameSnapshot := receipt.counterpartyNameSnapshot, operatorId := call.operatorId
    operatorNameSnapshot := operatorName, operatedAt := call.operatedAt
    remark := call.remark, lines := st.lines } with ho
  have hsameNo : ∀ r ∈ db.receipts.rows, o.receiptNoSnapshot.text = r.receiptNo.text →
      r = receipt := by
    intro r hr hnos
    refine db.receipts.eq_of_conflict (fun a b hab => hab.imp Eq.symm Eq.symm) hr hmem (.inr ?_)
    change receipt.receiptNo.text = r.receiptNo.text at hnos
    cases hrNo : r.receiptNo
    cases hreceiptNo : receipt.receiptNo
    simpa [hrNo, hreceiptNo] using hnos.symm
  -- the operation is stored
  have hstored : ReturnsKept order { db₁ with operations := db₁.operations ++ [o] } := by
    refine ⟨?_, ?_, ?_, ?_, ?_, ?_⟩
    · unfold Database.findOrder
      change db₁.orders.rows.find? _ = _
      rw [hsame.orders_eq]
      exact h.order_stored
    · intro o' ho'
      change ∃ r ∈ db₁.receipts.rows, _
      rw [hsame.receipts_eq]
      change o' ∈ db₁.operations ++ [o] at ho'
      rw [hsame.operations_eq] at ho'
      rcases List.mem_append.mp ho' with hold | hnew
      · exact h.operations_for o' hold
      · rw [List.mem_singleton.mp hnew]
        exact ⟨receipt, hmem, rfl⟩
    · intro r hr hreturns
      change WithinPlan (db₁.operations ++ [o]) r
      change r ∈ db₁.receipts.rows at hr
      rw [hsame.operations_eq]
      rw [hsame.receipts_eq] at hr
      have hplan := h.withinPlan r hr hreturns
      by_cases hnos : o.receiptNoSnapshot.text = r.receiptNo.text
      · obtain rfl := hsameNo r hr hnos
        exact hplan.append hdelivered rfl rfl
      · obtain ⟨hfor, hle⟩ := hplan
        have hall : deliveriesOf (db.operations ++ [o]) r.receiptNo.text =
            deliveriesOf db.operations r.receiptNo.text := by
          rw [deliveriesOf_append, if_neg hnos, List.append_nil]
        refine ⟨by rw [hall]; exact hfor, fun rl hrl => ?_⟩
        change deliveredQty (deliveriesOf (db.operations ++ [o]) r.receiptNo.text) rl.lineNo ≤ _
        rw [hall]
        exact hle rl hrl
    · intro r hr hreturns hvoided
      change deliveriesOf (db₁.operations ++ [o]) r.receiptNo.text = []
      change r ∈ db₁.receipts.rows at hr
      rw [hsame.receipts_eq] at hr
      have hnos : ¬o.receiptNoSnapshot.text = r.receiptNo.text := by
        intro hnos
        rw [hsameNo r hr hnos, hreleased] at hvoided
        cases hvoided
      rw [hsame.operations_eq, deliveriesOf_append, if_neg hnos, List.append_nil]
      exact h.voided r hr hreturns hvoided
    · intro a ha b hb
      change a ∈ db₁.receipts.rows at ha
      change b ∈ db₁.receipts.rows at hb
      rw [hsame.receipts_eq] at ha hb
      exact h.open_unique a ha b hb
    · intro r hr hreturns hnot i
      change r ∈ db₁.receipts.rows at hr
      rw [hsame.receipts_eq] at hr
      exact (h.receivable_le r hr hreturns hnot i).trans
        (shippedOf_le_of_grows (hsame.ledger_grows.imp fun _ hrows => hrows.1) _ i)
  by_cases hfull : receipt.lines ≠ [] ∧ ∀ l ∈ receipt.lines, l.plannedQtyBase ≤ st.received l.lineNo
  · refine hstored.mapReceipts (keepsPlans_complete receipt.id) ?_ rfl rfl rfl
    unfold Database.closeOperation
    simp only
    rw [if_pos hfull]
    rfl
  · refine hstored.of_frame ?_ rfl hstored.order_stored fun i => le_refl _
    unfold Database.closeOperation
    simp only
    rw [if_neg hfull]

/-- Every step that meets the condition keeps what the run keeps. -/
theorem ReturnsKept.step {op : ReturnOp} (h : ReturnsKept order t.db) (hmeets : op.Meets order t)
    (hstep : op.Step t t') : ReturnsKept order t'.db := by
  cases op with
  | applyCounters orderId =>
    obtain ⟨u, hrun⟩ := hstep
    obtain ⟨-, -, hdb, -⟩ := applyCounters_run_ok hrun
    rw [hdb]
    exact h
  | create call =>
    obtain ⟨r, hrun⟩ := hstep
    exact h.create hmeets hrun
  | release receiptId now =>
    obtain ⟨r, db', hrun, rfl⟩ := hstep
    unfold releaseInboundReceipt at hrun
    simp only [Tx.run_bind_ok, Tx.run_get_ok, Tx.run_demand_ok] at hrun
    obtain ⟨_, _, ⟨rfl, rfl⟩, r, _, ⟨-, rfl⟩, hrest⟩ := hrun
    split at hrest
    · simp only [Tx.run_bind_ok, Tx.run_set_ok, Tx.run_pure_ok] at hrest
      obtain ⟨_, _, rfl, -, rfl⟩ := hrest
      exact h.mapReceipts (keepsPlans_release receiptId now) rfl rfl rfl rfl
    · obtain ⟨-, rfl⟩ := Tx.run_pure_ok.mp hrest
      exact h
    · exact (Tx.run_throw_ok.mp hrest).elim
  | submit call =>
    obtain ⟨event, db', hrun, rfl⟩ := hstep
    exact h.submit hrun
  | void receiptId =>
    obtain rfl := hstep
    exact h.mapReceipts (keepsPlans_void hmeets) rfl rfl rfl rfl
  | elsewhere t'' =>
    obtain ⟨-, hreceipts, hoperations, horder, hshipped⟩ := hstep
    exact h.of_frame hreceipts hoperations (horder order h.order_stored) (hshipped _)

theorem ReturnRun.kept {t₀ : OrderTables} (h : ReturnsKept order t₀.db)
    (hrun : ReturnRun order t₀ t) : ReturnsKept order t.db := by
  induction hrun with
  | start => exact h
  | step op _ hmeets hstep ih => exact ih.step hmeets hstep

/-- A state in which the order is stored and no receipt returns it. -/
structure NotYetReturned (order : Order) (db : Database) : Prop where
  order_stored : db.findOrder order.id = some order
  operations_for : ∀ o ∈ db.operations, ∃ r ∈ db.receipts.rows, r.receiptNo = o.receiptNoSnapshot
  no_receipt : ∀ r ∈ db.receipts.rows, ¬r.Returns order.id

theorem NotYetReturned.kept (h : NotYetReturned order db) : ReturnsKept order db where
  order_stored := h.order_stored
  operations_for := h.operations_for
  withinPlan r hr hreturns := absurd hreturns (h.no_receipt r hr)
  voided r hr hreturns := absurd hreturns (h.no_receipt r hr)
  open_unique r hr _ _ hreturns := absurd hreturns (h.no_receipt r hr)
  receivable_le r hr hreturns := absurd hreturns (h.no_receipt r hr)

/-- After `apply_counters` the plans that payloads can make for an order stay within what
was shipped and not returned exactly when no payload is accepted, or every refundable row
is alone of its item and has a base unit. And no run whose receipts are created so, and
voided only before anything is received under them, returns more than was shipped. -/
theorem returns_within_shipped (order : Order) :
    (∀ t₀ t pms key, t₀.db.findOrder order.id = some order →
      (applyCounters order.id).run t₀ = .ok (⟨⟩, t) → resolveOrderId t.db key = .ok order.id →
      (PlansWithin pms key order t ↔ (Returnable pms key t → BaseLinesOnly pms key t))) ∧
      ∀ t₀ t, NotYetReturned order t₀.db → ReturnRun order t₀ t → t.ReturnedWithinShipped order := by
  constructor
  · intro t₀ t pms key hfind hrun hresolve
    obtain ⟨order', hfind', -, hfresh⟩ := applyCounters_run_ok hrun
    obtain rfl : order' = order := Option.some.inj (hfind'.symm.trans hfind)
    exact plansWithin_iff hresolve hfresh
  · intro t₀ t hstart hrun
    exact (hrun.kept hstart.kept).returnedWithinShipped

/-! ## An order of which five pieces are shipped -/

/-- The state after the shipment. -/
def fivePiecesShipped : Database :=
  Database.after (stocked ++ [.importOrder appleOrder [appleLine 1 10],
    .submitOrder plainPms (shipApples "T1" [fiveApples 1])])

/-- The order asks for its item in one row. -/
def oneRowTables : OrderTables where
  db := fivePiecesShipped
  orderItems := ⟨[⟨1, 1, 1, none, none, some 10, 0, 0⟩], List.pairwise_singleton _ _⟩
  orderStatus _ := none

/-- The state in which the counters have been refreshed. -/
def countedTables : OrderTables := (applyCounters 1).attempt oneRowTables

theorem applyCounters_oneRowTables :
    (applyCounters 1).run oneRowTables = .ok (⟨⟩, countedTables) := by
  obtain ⟨u, t, hrun⟩ := Tx.exists_run_of_toBool
    (x := applyCounters 1) (s := oneRowTables) (by decide +kernel)
  rw [hrun, countedTables, Tx.attempt_of_run hrun]

/-- With items received in pieces, no payload plans too much. -/
theorem plansWithin_countedTables : PlansWithin plainPms "1" appleOrder countedTables := by
  refine ((returns_within_shipped appleOrder).1 oneRowTables countedTables plainPms "1"
    (by decide +kernel) applyCounters_oneRowTables (by decide +kernel)).mpr fun _ s hs => ?_
  have hbase : (match returnSource plainPms countedTables "1" with
      | .ok s => decide (OneBaseLinePerItem s.lines)
      | .error _ => false) = true := by decide +kernel
  rw [hs] at hbase
  simpa using hbase

theorem twelve_pos : 1 ≤ 12 := by decide

/-- A product master whose items are received by the dozen. -/
def dozenPms : PmsClient :=
  { plainPms with
    listUoms := fun itemIds => .ok (itemIds.map fun i =>
      { plainUom i with ratioToBase := 12, isBase := false, ratio_pos := twelve_pos }) }

theorem five_ge_one : (1 : ℤ) ≤ 5 := by decide

/-- A return of five. -/
def returnFive : ReturnCall where
  orderKey := "1"
  remark := none
  lines := [⟨1, 1, 5, none, five_ge_one⟩]
  createdBy := none
  receiptNo := ⟨"IR-RO-1", by decide⟩
  pms := dozenPms
  lines_ne := List.cons_ne_nil _ _

/-- With items received by the dozen, a return of five is planned as sixty pieces. -/
theorem not_plansWithin_returnFive : ¬∀ order t₀ t pms key, t₀.db.findOrder order.id = some order →
    (applyCounters order.id).run t₀ = .ok (⟨⟩, t) → resolveOrderId t.db key = .ok order.id →
      PlansWithin pms key order t := by
  intro h
  have hwithin := h appleOrder oneRowTables countedTables dozenPms "1" (by decide +kernel)
    applyCounters_oneRowTables (by decide +kernel)
  have hplan : (match (createFromReturnOrder returnFive).run countedTables with
      | .ok (r, _) => decide (countedTables.left appleOrder 1 < r.receivable 1)
      | .error _ => false) = true := by decide +kernel
  cases hrun : (createFromReturnOrder returnFive).run countedTables with
  | error e =>
    rw [hrun] at hplan
    cases hplan
  | ok p =>
    rw [hrun] at hplan
    have hle := hwithin returnFive p.1 p.2 rfl rfl hrun 1
    exact absurd hle (not_le.mpr (by simpa using hplan))

end Wms

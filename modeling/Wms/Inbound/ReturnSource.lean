import Wms.Orders.Counters
import Wms.Orders.Resolve

/-!
# What of an order can be returned

`get_inbound_return_source` lists the rows of an order of which something is shipped and
not returned, each with the unit in which its item is received by default.
-/

namespace Wms

open Foundation

/-! ## Units -/

/-- The rank of a unit among the units of its item. -/
def ItemUom.inboundRank (u : ItemUom) : ℕ := if u.isInboundDefault then 0 else if u.isBase then 1 else 2

/-- The sort key of `_load_inbound_default_uoms_by_item_id`. -/
def ItemUom.InboundLe (a b : ItemUom) : Prop :=
  a.itemId < b.itemId ∨ (a.itemId = b.itemId ∧
    (a.inboundRank < b.inboundRank ∨ (a.inboundRank = b.inboundRank ∧ a.id ≤ b.id)))

instance : DecidableRel ItemUom.InboundLe := fun _ _ => inferInstanceAs (Decidable (_ ∨ _))

/-- `_clean_item_ids`. -/
def cleanItemIds (values : List ℕ) : List ℕ := (values.filter (0 < ·)).dedup.insertionSort (· ≤ ·)

/-- `_load_inbound_default_uoms_by_item_id`: the first unit of each item. -/
def loadInboundDefaultUoms (pms : PmsClient) (itemIds : List ℕ) :
    Except Err (ℕ → Option ItemUom) :=
  let ids := cleanItemIds itemIds
  if ids = [] then .ok fun _ => none
  else do
    let uoms ← pms.listUoms ids
    let sorted := uoms.insertionSort ItemUom.InboundLe
    return fun itemId => sorted.find? fun u => u.itemId = itemId

/-! ## The source -/

/-- `InboundReceiptReturnSourceLineOut`. -/
structure ReturnSourceLine where
  orderLineId : ℕ
  itemId : ℕ
  itemNameSnapshot : Varchar 255
  itemSpecSnapshot : Option (Varchar 255)
  itemUomId : ℕ
  uomNameSnapshot : Varchar 64
  ratioToBaseSnapshot : ℕ
  qtyOrdered : ℤ
  qtyShipped : ℤ
  qtyReturned : ℤ
  qtyRemainingRefundable : ℤ
  /-- The contract asks for a positive ratio. -/
  ratio_pos : 1 ≤ ratioToBaseSnapshot

/-- `InboundReceiptReturnSourceOut`. -/
structure ReturnSource where
  orderId : ℕ
  orderRef : String
  platform : String
  storeCode : String
  extOrderNo : String
  warehouseId : ℕ
  warehouseNameSnapshot : Option (Varchar 255)
  remainingQty : ℤ
  /-- The number of the receipt that the order has. -/
  existingReceiptNo : Option String
  lines : List ReturnSourceLine

/-- `order_ref` of `_resolve_order_identity`, which leaves the platform as it is stored. -/
def Order.returnRef (o : Order) : String :=
  s!"ORD:{o.platform.text}:{o.storeCode.text}:{o.extOrderNo.text}"

/-- The warehouses from which the ledger has shipped under a reference. -/
def Books.shippingWarehouses (b : Books) (ref : String) : List ℕ :=
  ((((b.stockLedger.rows.filter fun r => r.ref.text = ref ∧ r.delta < 0 ∧
    (r.reason.text = "SHIPMENT" ∨ r.reason.text = "OUTBOUND_SHIP")).map
      fun r => r.slot.warehouseId).dedup).insertionSort (· ≤ ·)).take 2

/-- `_load_return_source_warehouse`. -/
def loadReturnSourceWarehouse (db : Database) (orderRef : String) :
    Except Err (ℕ × Option (Varchar 255)) :=
  match db.books.shippingWarehouses orderRef with
  | [] => .error (.httpException 409 "return_order_has_no_shipped_facts")
  | [w] => .ok (w, (db.warehouses.rows.find? fun x => x.id = w).map fun x =>
      ⟨x.name.text, x.name.fits.trans (by decide)⟩)
  | w :: ws => .error (.httpException 409
      ("return_order_multi_warehouse:" ++ ",".intercalate ((w :: ws).map toString)))

/-- `qty_remaining_refundable`. -/
def OrderItem.remaining (oi : OrderItem) : ℤ := max (oi.shippedQty - oi.returnedQty) 0

/-- The rows of an order of which something can be returned. -/
def OrderTables.refundable (t : OrderTables) (orderId : ℕ) : List OrderItem :=
  (t.orderItems.rows.filter fun oi => oi.orderId = orderId ∧ 0 < oi.remaining).insertionSort
    fun a b => a.id ≤ b.id

/-- `item_name_snapshot`. -/
def returnItemName (item : Option ItemBasic) (oi : OrderItem) : String :=
  match cleanText (item.map fun i => i.name.text) with
  | some name => name
  | none =>
    match cleanText (oi.title.map Varchar.text) with
    | some title => title
    | none => s!"ITEM-{oi.itemId}"

/-- One line of the source. -/
def returnSourceLine (items : ℕ → Option ItemBasic) (uoms : ℕ → Option ItemUom)
    (oi : OrderItem) : Except Err ReturnSourceLine := do
  match uoms oi.itemId with
  | none => .error (.httpException 409 s!"item_has_no_inbound_uom:item_id={oi.itemId}")
  | some uom => do
    let name ← Varchar.store 255 (returnItemName (items oi.itemId) oi)
    let spec := (items oi.itemId).bind ItemBasic.spec
    return {
      orderLineId := oi.id, itemId := oi.itemId, itemNameSnapshot := name
      itemSpecSnapshot := spec.map fun s => ⟨s.text, s.fits.trans (by decide)⟩
      itemUomId := uom.id
      uomNameSnapshot := ⟨strip uom.uomName.text,
        ((strip_length_le _).trans uom.uomName.fits).trans (by decide)⟩
      ratioToBaseSnapshot := uom.ratioToBase, qtyOrdered := oi.qty.getD 0
      qtyShipped := oi.shippedQty, qtyReturned := oi.returnedQty
      qtyRemainingRefundable := oi.remaining, ratio_pos := uom.ratio_pos }

/-- The receipt of an order that is not voided; of several the latest. -/
def Database.existingReturn (db : Database) (orderId : ℕ) : Option InboundReceipt :=
  ((db.receipts.rows.filter fun r => r.Returns orderId ∧ r.status ≠ .voided).insertionSort
    fun a b => b.id ≤ a.id).head?

/-- `get_inbound_return_source_repo`. -/
def returnSource (pms : PmsClient) (t : OrderTables) (key : String) : Except Err ReturnSource := do
  let orderId ← resolveOrderId t.db key
  match t.db.findOrder orderId with
  | none => .error (.httpException 404 "return_order_not_found")
  | some order => do
    let warehouse ← loadReturnSourceWarehouse t.db order.returnRef
    let rows := t.refundable orderId
    if rows = [] then .error (.httpException 409 "return_order_has_no_refundable_lines")
    else do
      let ids := rows.map OrderItem.itemId
      let items ← pms.getItemBasics (cleanItemIds ids)
      let uoms ← loadInboundDefaultUoms pms ids
      let lines ← rows.mapM' (returnSourceLine items uoms)
      if 128 < order.returnRef.length then .error (.valueError "order_ref")
      else return {
        orderId := order.id, orderRef := order.returnRef, platform := order.platform.text
        storeCode := order.storeCode.text, extOrderNo := order.extOrderNo.text
        warehouseId := warehouse.1, warehouseNameSnapshot := warehouse.2
        remainingQty := (rows.map OrderItem.remaining).sum
        existingReceiptNo := (t.db.existingReturn order.id).map fun r => r.receiptNo.text
        lines := lines }

/-! ## What the source says -/

/-- The line of the source shows the row. -/
def ReturnSourceLine.Shows (l : ReturnSourceLine) (oi : OrderItem) : Prop :=
  l.orderLineId = oi.id ∧ l.itemId = oi.itemId ∧ l.qtyRemainingRefundable = oi.remaining

variable {items : ℕ → Option ItemBasic} {uoms : ℕ → Option ItemUom} {oi : OrderItem}
  {l : ReturnSourceLine} {pms : PmsClient} {t : OrderTables} {key : String} {s : ReturnSource}

theorem returnSourceLine_eq_ok (h : returnSourceLine items uoms oi = .ok l) : l.Shows oi := by
  unfold returnSourceLine at h
  simp only [bind, Except.bind] at h
  split at h
  · cases h
  · split at h
    · cases h
    · cases h
      exact ⟨rfl, rfl, rfl⟩

theorem returnSourceLines_eq_ok {rows : List OrderItem} {lines : List ReturnSourceLine}
    (h : rows.mapM' (returnSourceLine items uoms) = .ok lines) :
    List.Forall₂ ReturnSourceLine.Shows lines rows := by
  apply List.Forall₂.flip
  exact (forall₂_of_mapM_ok h).imp fun _ _ hline => returnSourceLine_eq_ok hline

/-- A source is about a stored order, has a line for each of its refundable rows, and
names a receipt exactly when the order has one. -/
theorem returnSource_eq_ok (h : returnSource pms t key = .ok s) :
    ∃ order, resolveOrderId t.db key = .ok order.id ∧ t.db.findOrder order.id = some order ∧
      s.orderId = order.id ∧
      s.existingReceiptNo = (t.db.existingReturn order.id).map (fun r => r.receiptNo.text) ∧
      List.Forall₂ ReturnSourceLine.Shows s.lines (t.refundable order.id) := by
  unfold returnSource at h
  simp only [bind, Except.bind] at h
  split at h
  · cases h
  · rename_i orderId hresolve
    split at h
    · cases h
    · rename_i order hfind
      have hid : order.id = orderId := by simpa using List.find?_some hfind
      subst hid
      split at h
      · cases h
      · split at h
        · cases h
        · split at h
          · cases h
          · split at h
            · cases h
            · split at h
              · cases h
              · rename_i lines hlines
                split at h
                · cases h
                · cases h
                  exact ⟨order, hresolve, hfind, rfl, rfl, returnSourceLines_eq_ok hlines⟩

theorem mem_refundable {orderId : ℕ} :
    oi ∈ t.refundable orderId ↔
      oi ∈ t.orderItems.rows ∧ oi.orderId = orderId ∧ 0 < oi.remaining := by
  unfold OrderTables.refundable
  rw [List.mem_insertionSort, List.mem_filter]
  simp only [decide_eq_true_eq]

/-- The refundable rows have different identifiers. -/
theorem refundable_nodup (t : OrderTables) (orderId : ℕ) :
    ((t.refundable orderId).map OrderItem.id).Nodup := by
  unfold OrderTables.refundable
  rw [((List.perm_insertionSort _ _).map _).nodup_iff]
  refine List.pairwise_map.mpr ?_
  exact (t.orderItems.unique.imp fun hab heq => hab (.inl heq)).filter _

/-- A receipt that is not voided is found. -/
theorem existingReturn_eq_none {db : Database} {orderId : ℕ} :
    db.existingReturn orderId = none ↔
      ∀ r ∈ db.receipts.rows, r.Returns orderId → r.status = .voided := by
  unfold Database.existingReturn
  rw [List.head?_eq_none_iff, ← List.length_eq_zero_iff, List.length_insertionSort,
    List.length_eq_zero_iff, List.filter_eq_nil_iff]
  simp only [decide_eq_true_eq, not_and, not_not]

end Wms

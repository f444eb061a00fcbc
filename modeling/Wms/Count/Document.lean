import Wms.Outbound.Documents
import Wms.Stock.Books

/-!
# Count documents

A count document records what the books say about a warehouse at one moment, what was
counted, and the difference. Freezing takes the snapshot: one line for each item in
stock, with the lots that make up its quantity. Lines, snapshots and counts carry the
checks of their tables.
-/

namespace Wms

open Foundation

/-- `count_docs.status`. -/
inductive CountDocStatus
  | draft
  | frozen
  | counted
  | posted
  | voided
  deriving DecidableEq, Repr

/-- The status as the database stores it. -/
def CountDocStatus.code : CountDocStatus → String
  | draft => "DRAFT"
  | frozen => "FROZEN"
  | counted => "COUNTED"
  | posted => "POSTED"
  | voided => "VOIDED"

/-- A document that stands in the way of a new one for its warehouse. -/
def CountDocStatus.Active (s : CountDocStatus) : Prop := s = .draft ∨ s = .frozen ∨ s = .counted

instance (s : CountDocStatus) : Decidable s.Active := inferInstanceAs (Decidable (_ ∨ _))

/-- `CountDocLineLotSnapshot`: what a lot held when the document was frozen. -/
structure LotSnapshot where
  lotId : ℕ
  lotCodeSnapshot : Option (Varchar 64)
  snapshotQtyBase : ℤ
  /-- `ck_count_doc_line_lot_snapshots_snapshot_qty_base_nonneg`. -/
  qty_nonneg : 0 ≤ snapshotQtyBase
  deriving DecidableEq

/-- The columns of a line that are filled when it is counted. -/
structure CountedQty where
  itemUomId : ℕ
  uomNameSnapshot : Varchar 64
  ratioToBaseSnapshot : ℤ
  qtyInput : ℤ
  qtyBase : ℤ
  diffQtyBase : ℤ
  /-- `ck_count_doc_lines_counted_ratio_positive`. -/
  ratio_pos : 1 ≤ ratioToBaseSnapshot
  /-- `ck_count_doc_lines_counted_qty_input_nonneg`. -/
  input_nonneg : 0 ≤ qtyInput
  /-- The first equation of `ck_count_doc_lines_count_payload_consistent`. -/
  base_eq : qtyBase = qtyInput * ratioToBaseSnapshot

/-- `CountDocLine`: the snapshot of one item and, once there is one, its count. -/
structure CountDocLine where
  id : ℕ
  lineNo : ℕ
  itemId : ℕ
  itemNameSnapshot : Option (Varchar 255)
  itemSpecSnapshot : Option (Varchar 255)
  snapshotQtyBase : ℤ
  counted : Option CountedQty
  lotSnapshots : List LotSnapshot
  /-- `ck_count_doc_lines_line_no_positive`. -/
  lineNo_pos : 1 ≤ lineNo
  /-- `ck_count_doc_lines_snapshot_qty_base_nonneg`. -/
  snapshot_nonneg : 0 ≤ snapshotQtyBase
  /-- The second equation of `ck_count_doc_lines_count_payload_consistent`. -/
  diff_eq : ∀ c ∈ counted, c.diffQtyBase = c.qtyBase - snapshotQtyBase
  /-- `uq_count_doc_line_lot_snapshots_line_lot`. -/
  lots_unique : lotSnapshots.Pairwise fun a b => a.lotId ≠ b.lotId

/-- `uq_count_doc_lines_doc_line`, `uq_count_doc_lines_doc_item` and the primary key. -/
def CountDocLine.Apart (a b : CountDocLine) : Prop :=
  a.id ≠ b.id ∧ a.lineNo ≠ b.lineNo ∧ a.itemId ≠ b.itemId

/-- `CountDoc`: a count document with its lines. -/
structure CountDoc where
  id : ℕ
  countNo : Varchar 64
  warehouseId : ℕ
  snapshotAt : ℤ
  status : CountDocStatus
  postedEventId : Option ℕ
  createdBy : Option ℕ
  countedByNameSnapshot : Option (Varchar 128)
  reviewedByNameSnapshot : Option (Varchar 128)
  remark : Option (Varchar 500)
  createdAt : ℤ
  countedAt : Option ℤ
  postedAt : Option ℤ
  lines : List CountDocLine
  lines_unique : lines.Pairwise CountDocLine.Apart

/-- The primary key and `uq_count_docs_count_no`. -/
def CountDoc.Conflict (a b : CountDoc) : Prop := a.id = b.id ∨ a.countNo = b.countNo

instance : DecidableRel CountDoc.Conflict := fun _ _ => inferInstanceAs (Decidable (_ ∨ _))

/-- The newest document by some time stamp, the larger identifier deciding a tie. -/
def CountDoc.latest? (time : CountDoc → ℤ) (docs : List CountDoc) : Option CountDoc :=
  (docs.insertionSort fun a b => time b < time a ∨ (time a = time b ∧ b.id ≤ a.id)).head?

/-- `get_line_lot_snapshots`: the lots of a line, the largest quantity first. -/
def CountDocLine.sortedLotSnapshots (l : CountDocLine) : List LotSnapshot :=
  l.lotSnapshots.insertionSort fun a b =>
    b.snapshotQtyBase < a.snapshotQtyBase ∨
      (a.snapshotQtyBase = b.snapshotQtyBase ∧ a.lotId ≤ b.lotId)

/-! ## Taking the snapshot -/

/-- The slot is one of the item in the warehouse. -/
def SlotKey.Of (warehouseId itemId : ℕ) (k : SlotKey) : Prop :=
  k.warehouseId = warehouseId ∧ k.itemId = itemId

instance (w i : ℕ) : DecidablePred (SlotKey.Of w i) := fun _ =>
  inferInstanceAs (Decidable (_ ∧ _))

namespace Books

/-- `SUM(qty)` of an item in a warehouse. -/
def itemStock (b : Books) (warehouseId itemId : ℕ) : ℤ :=
  ((b.stocksLot.entries.filter fun e => SlotKey.Of warehouseId itemId e.1).map Sigma.snd).sum

/-- The items with a row in a warehouse, in the order of their identifiers. -/
def warehouseItems (b : Books) (warehouseId : ℕ) : List ℕ :=
  (((b.stocksLot.entries.filter fun e => e.1.warehouseId = warehouseId).map
    fun e => e.1.itemId).dedup).insertionSort (· ≤ ·)

/-- The items of a warehouse whose quantities have a positive sum. -/
def itemsInStock (b : Books) (warehouseId : ℕ) : List ℕ :=
  (b.warehouseItems warehouseId).filter fun i => 0 < b.itemStock warehouseId i

/-- The lots of an item in a warehouse that hold something. -/
def lotSnapshots (b : Books) (warehouseId itemId : ℕ) : List LotSnapshot :=
  b.stocksLot.entries.filterMap fun e =>
    if h : SlotKey.Of warehouseId itemId e.1 ∧ 0 < e.2 then
      some ⟨e.1.lotId, (b.findLot e.1.lotId).bind Lot.lotCode, e.2, h.2.le⟩
    else none

/-- A snapshot of a lot comes from a row with its quantity. -/
theorem mem_lotSnapshots {b : Books} {w i : ℕ} {s : LotSnapshot} :
    s ∈ b.lotSnapshots w i ↔
      0 < s.snapshotQtyBase ∧ b.stocksLot.lookup ⟨w, i, s.lotId⟩ = some s.snapshotQtyBase ∧
        s.lotCodeSnapshot = (b.findLot s.lotId).bind Lot.lotCode := by
  unfold lotSnapshots
  rw [List.mem_filterMap]
  constructor
  · rintro ⟨⟨⟨w', i', l⟩, q⟩, hmem, hsome⟩
    simp only [Option.dite_none_right_eq_some, Option.some.injEq] at hsome
    obtain ⟨⟨⟨rfl, rfl⟩, hpos⟩, rfl⟩ := hsome
    exact ⟨hpos, AList.mem_lookup_iff.mpr hmem, rfl⟩
  · rintro ⟨hpos, hlookup, hcode⟩
    refine ⟨⟨⟨w, i, s.lotId⟩, s.snapshotQtyBase⟩, AList.mem_lookup_iff.mp hlookup, ?_⟩
    rw [dif_pos ⟨⟨rfl, rfl⟩, hpos⟩, ← hcode]

theorem lotSnapshots_unique (b : Books) (w i : ℕ) :
    (b.lotSnapshots w i).Pairwise fun a b => a.lotId ≠ b.lotId := by
  unfold lotSnapshots
  have hnodup := b.stocksLot.nodupKeys
  rw [List.nodupKeys_iff_pairwise] at hnodup
  refine List.Pairwise.filterMap _ ?_ hnodup
  rintro ⟨⟨w₁, i₁, l₁⟩, q₁⟩ ⟨⟨w₂, i₂, l₂⟩, q₂⟩ hne s hs t ht hlot
  simp only [Option.dite_none_right_eq_some, Option.some.injEq] at hs ht
  obtain ⟨⟨⟨hw₁, hi₁⟩, _⟩, rfl⟩ := hs
  obtain ⟨⟨⟨hw₂, hi₂⟩, _⟩, rfl⟩ := ht
  refine hne (SlotKey.ext ?_ ?_ hlot)
  · exact hw₁.trans hw₂.symm
  · exact hi₁.trans hi₂.symm

theorem itemsInStock_nodup (b : Books) (w : ℕ) : (b.itemsInStock w).Nodup := by
  unfold itemsInStock warehouseItems
  refine List.Nodup.filter _ ?_
  rw [(List.perm_insertionSort _ _).nodup_iff]
  exact List.nodup_dedup _

theorem itemStock_pos_of_mem {b : Books} {w i : ℕ} (h : i ∈ b.itemsInStock w) :
    0 < b.itemStock w i := by
  simpa using (List.mem_filter.mp h).2

/-- The line that freezing makes for the item at one place of the list. -/
def freezeLine (b : Books) (warehouseId firstId : ℕ) (basics : ℕ → Option ItemBasic) (n : ℕ)
    (i : { i // i ∈ b.itemsInStock warehouseId }) : CountDocLine where
  id := firstId + n
  lineNo := n + 1
  itemId := i.1
  itemNameSnapshot := (basics i.1).bind fun item => item.name.clean 255 (by decide)
  itemSpecSnapshot := (basics i.1).bind fun item =>
    item.spec.bind fun spec => spec.clean 255 (by decide)
  snapshotQtyBase := b.itemStock warehouseId i.1
  counted := none
  lotSnapshots := b.lotSnapshots warehouseId i.1
  lineNo_pos := Nat.succ_pos n
  snapshot_nonneg := (itemStock_pos_of_mem i.2).le
  diff_eq _ h := absurd h (by simp)
  lots_unique := b.lotSnapshots_unique _ _

/-- The lines of `freeze_doc_lines_from_current_stock`, numbered from one. -/
def freezeLines (b : Books) (warehouseId firstId : ℕ) (basics : ℕ → Option ItemBasic) :
    List CountDocLine :=
  (b.itemsInStock warehouseId).attach.mapIdx (b.freezeLine warehouseId firstId basics)

theorem freezeLines_unique (b : Books) (w firstId : ℕ) (basics : ℕ → Option ItemBasic) :
    (b.freezeLines w firstId basics).Pairwise CountDocLine.Apart := by
  rw [List.pairwise_iff_getElem]
  intro m n hm hn hlt
  have hm' : m < (b.itemsInStock w).attach.length := by simpa [freezeLines] using hm
  have hn' : n < (b.itemsInStock w).attach.length := by simpa [freezeLines] using hn
  have hline : ∀ (p : ℕ) (hp : p < (b.freezeLines w firstId basics).length)
      (hp' : p < (b.itemsInStock w).attach.length),
      (b.freezeLines w firstId basics)[p] =
        b.freezeLine w firstId basics p (b.itemsInStock w).attach[p] :=
    fun p hp hp' => List.getElem_mapIdx
  rw [hline m hm hm', hline n hn hn']
  refine ⟨?_, ?_, ?_⟩
  · change firstId + m ≠ firstId + n
    omega
  · change m + 1 ≠ n + 1
    omega
  · have hnodup : (b.itemsInStock w).attach.Nodup := (b.itemsInStock_nodup w).attach
    intro heq
    have hsame : (b.itemsInStock w).attach[m] = (b.itemsInStock w).attach[n] := Subtype.ext heq
    have hindex := (List.Nodup.getElem_inj_iff hnodup).mp hsame
    omega

end Books

end Wms

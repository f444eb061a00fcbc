import Wms.Count.CountDoc
import Wms.Stock.ZerosShed

/-!
# Count documents up to the order of lot snapshots

A snapshot is taken in the order in which the rows of `stocks_lot` come, and every reader
sorts it. A document in canonical form has its lot snapshots sorted; two documents with
the same canonical form are told apart by no operation. Books that differ in rows that
hold zero freeze to the same canonical lines.
-/

namespace Wms

open Foundation

/-! ## Sorted lot snapshots -/

/-- The order in which the lots of a line are read. -/
def LotSnapshot.Before (a b : LotSnapshot) : Prop :=
  b.snapshotQtyBase < a.snapshotQtyBase ∨
    (a.snapshotQtyBase = b.snapshotQtyBase ∧ a.lotId ≤ b.lotId)

instance : DecidableRel LotSnapshot.Before := fun _ _ => inferInstanceAs (Decidable (_ ∨ _))

instance : Std.Total LotSnapshot.Before where
  total a b := by
    unfold LotSnapshot.Before
    omega

instance : IsTrans LotSnapshot LotSnapshot.Before where
  trans a b c hab hbc := by
    unfold LotSnapshot.Before at *
    omega

/-- The snapshots in the order in which they are read. -/
def sortSnapshots (ss : List LotSnapshot) : List LotSnapshot :=
  ss.insertionSort LotSnapshot.Before

theorem sortSnapshots_perm (ss : List LotSnapshot) : (sortSnapshots ss).Perm ss :=
  List.perm_insertionSort _ ss

theorem sortSnapshots_sortSnapshots (ss : List LotSnapshot) :
    sortSnapshots (sortSnapshots ss) = sortSnapshots ss :=
  List.Pairwise.insertionSort_eq (List.pairwise_insertionSort LotSnapshot.Before ss)

/-- The order in which snapshots of different lots come does not matter. -/
theorem sortSnapshots_eq_of_perm {ss ts : List LotSnapshot}
    (hapart : ss.Pairwise fun a b => a.lotId ≠ b.lotId) (h : ss.Perm ts) :
    sortSnapshots ss = sortSnapshots ts := by
  have hperm : (sortSnapshots ss).Perm (sortSnapshots ts) :=
    (sortSnapshots_perm ss).trans (h.trans (sortSnapshots_perm ts).symm)
  refine List.Perm.eq_of_pairwise ?_ (List.pairwise_insertionSort LotSnapshot.Before ss)
    (List.pairwise_insertionSort LotSnapshot.Before ts) hperm
  intro a b ha hb hab hba
  have hlot : a.lotId = b.lotId := by
    unfold LotSnapshot.Before at hab hba
    omega
  have ha' : a ∈ ss := (sortSnapshots_perm ss).mem_iff.mp ha
  have hb' : b ∈ ss := h.mem_iff.mpr ((sortSnapshots_perm ts).mem_iff.mp hb)
  by_contra hne
  have hsymm : Std.Symm fun a b : LotSnapshot => a.lotId ≠ b.lotId := ⟨fun _ _ => Ne.symm⟩
  exact hapart.forall ha' hb' hne hlot

/-! ## Canonical documents -/

namespace CountDocLine

/-- The line with its lot snapshots sorted. -/
def canonical (l : CountDocLine) : CountDocLine :=
  { l with
    lotSnapshots := l.sortedLotSnapshots
    lots_unique := ((sortSnapshots_perm l.lotSnapshots).pairwise_iff fun h => Ne.symm h).mpr
      l.lots_unique }

@[simp] theorem canonical_id (l : CountDocLine) : l.canonical.id = l.id := rfl

@[simp] theorem canonical_itemId (l : CountDocLine) : l.canonical.itemId = l.itemId := rfl

@[simp] theorem canonical_counted (l : CountDocLine) : l.canonical.counted = l.counted := rfl

theorem sortedLotSnapshots_canonical (l : CountDocLine) :
    l.canonical.sortedLotSnapshots = l.sortedLotSnapshots :=
  sortSnapshots_sortSnapshots l.lotSnapshots

theorem canonical_count (l : CountDocLine) (uom : ItemUom) (patch : CountPatch) :
    (l.count uom patch).canonical = l.canonical.count uom patch := rfl

/-- Lines that agree in all but the order of their lot snapshots. -/
theorem canonical_eq {l l' : CountDocLine} (hid : l.id = l'.id) (hlineNo : l.lineNo = l'.lineNo)
    (hitemId : l.itemId = l'.itemId) (hname : l.itemNameSnapshot = l'.itemNameSnapshot)
    (hspec : l.itemSpecSnapshot = l'.itemSpecSnapshot)
    (hqty : l.snapshotQtyBase = l'.snapshotQtyBase) (hcounted : l.counted = l'.counted)
    (hsorted : l.sortedLotSnapshots = l'.sortedLotSnapshots) : l.canonical = l'.canonical := by
  unfold canonical
  congr

theorem length_lotSnapshots_canonical (l : CountDocLine) :
    l.canonical.lotSnapshots.length = l.lotSnapshots.length :=
  (sortSnapshots_perm l.lotSnapshots).length_eq

theorem canonical_apart {a b : CountDocLine} : a.canonical.Apart b.canonical ↔ a.Apart b := Iff.rfl

end CountDocLine

namespace CountDoc

/-- The document with the lot snapshots of all lines sorted. -/
def canonical (d : CountDoc) : CountDoc :=
  { d with
    lines := d.lines.map CountDocLine.canonical
    lines_unique := List.pairwise_map.mpr (d.lines_unique.imp CountDocLine.canonical_apart.mpr) }

/-- Two documents that no reader tells apart. -/
def Same (d d' : CountDoc) : Prop := d.canonical = d'.canonical

namespace Same

variable {d d' : CountDoc}

theorem canonical_eq (h : d.Same d') : d.canonical = d'.canonical := h

/-- Whatever does not depend on the order is the same. -/
theorem field_eq {α : Type} {f : CountDoc → α} (hf : ∀ d, f d.canonical = f d) (h : d.Same d') :
    f d = f d' := by
  rw [← hf d, h.canonical_eq, hf d']

theorem id_eq (h : d.Same d') : d.id = d'.id := h.field_eq fun _ => rfl

theorem countNo_eq (h : d.Same d') : d.countNo = d'.countNo := h.field_eq fun _ => rfl

theorem warehouseId_eq (h : d.Same d') : d.warehouseId = d'.warehouseId := h.field_eq fun _ => rfl

theorem status_eq (h : d.Same d') : d.status = d'.status := h.field_eq fun _ => rfl

theorem lines_eq (h : d.Same d') :
    d.lines.map CountDocLine.canonical = d'.lines.map CountDocLine.canonical := by
  change d.canonical.lines = d'.canonical.lines
  rw [h.canonical_eq]

end Same

end CountDoc

/-! ## What is done with a document -/

/-- The lines with their lot snapshots sorted. -/
def CountLines.canonical (lines : CountLines) : CountLines :=
  ⟨lines.1.map CountDocLine.canonical,
    List.pairwise_map.mpr (lines.2.imp CountDocLine.canonical_apart.mpr)⟩

theorem CountLines.canonical_count (lines : CountLines) (uom : ItemUom) (patch : CountPatch) :
    (lines.count uom patch).canonical = lines.canonical.count uom patch := by
  refine Subtype.ext ?_
  change (lines.1.map _).map CountDocLine.canonical = (lines.1.map CountDocLine.canonical).map _
  rw [List.map_map, List.map_map]
  refine List.map_congr_left fun l _ => ?_
  change (if l.id = patch.lineId then l.count uom patch else l).canonical =
    if l.id = patch.lineId then l.canonical.count uom patch else l.canonical
  split <;> rfl

theorem CountLines.countWith_canonical (lines : CountLines) (patch : CountPatch)
    (uom : Option ItemUom) (e : Err) :
    (match uom with
      | none => .error e
      | some uom => .ok (lines.count uom patch) : Except Err CountLines).map CountLines.canonical =
      match uom with
      | none => .error e
      | some uom => .ok (lines.canonical.count uom patch) := by
  cases uom with
  | none => rfl
  | some uom => exact congrArg Except.ok (lines.canonical_count uom patch)

/-- Counting a line does not depend on the order of lot snapshots. -/
theorem updateLineCount_canonical (pms : PmsClient) (lines : CountLines) (patch : CountPatch) :
    (updateLineCount pms lines patch).map CountLines.canonical =
      updateLineCount pms lines.canonical patch := by
  have hfind : lines.canonical.1.find? (fun l => l.id = patch.lineId) =
      (lines.1.find? fun l => l.id = patch.lineId).map CountDocLine.canonical := by
    unfold CountLines.canonical
    rw [List.find?_map]
    rfl
  unfold updateLineCount
  rw [hfind]
  cases hline : lines.1.find? fun l => l.id = patch.lineId with
  | none => rfl
  | some line =>
    simp only [Option.map_some, CountDocLine.canonical_itemId]
    cases hmap : getBaseUomMap pms [line.itemId] with
    | error e => rfl
    | ok uoms =>
      exact lines.countWith_canonical patch (uoms line.itemId) _

theorem updateLineCounts_canonical (pms : PmsClient) (lines : CountLines)
    (patches : List CountPatch) :
    (updateLineCounts pms lines patches).map CountLines.canonical =
      updateLineCounts pms lines.canonical patches := by
  induction patches generalizing lines with
  | nil => rfl
  | cons patch rest ih =>
    rw [updateLineCounts, updateLineCounts, ← updateLineCount_canonical]
    cases updateLineCount pms lines patch with
    | error e => rfl
    | ok lines' => exact ih lines'

/-- Posting a line does not depend on the order of its lot snapshots. -/
theorem postLineDiff_canonical (call : CountPostCall) (knownEvents : List ℕ)
    (warehouseId eventId : ℕ) (l : CountDocLine) :
    postLineDiff call knownEvents warehouseId eventId l.canonical =
      postLineDiff call knownEvents warehouseId eventId l := by
  have htake : ∀ remaining ss, takeFromLots call knownEvents warehouseId eventId l.canonical
      remaining ss = takeFromLots call knownEvents warehouseId eventId l remaining ss := by
    intro remaining ss
    induction ss generalizing remaining with
    | nil => rfl
    | cons s rest ih =>
      rw [takeFromLots, takeFromLots, ih, ih]
      rfl
  unfold postLineDiff
  rw [l.sortedLotSnapshots_canonical]
  simp only [htake]
  rfl

namespace CountDoc

theorem canonical_freeze (d : CountDoc) (lines : CountLines) :
    (d.freeze lines).canonical = d.canonical.freeze lines.canonical := rfl

theorem canonical_recordCounts (d : CountDoc) (lines : CountLines) (countedBy : Varchar 128) :
    (d.recordCounts lines countedBy).canonical =
      d.canonical.recordCounts lines.canonical countedBy := rfl

theorem canonical_tryMarkCounted (d : CountDoc) (now : ℤ) :
    (d.tryMarkCounted now).canonical = d.canonical.tryMarkCounted now := by
  have hsame : (d.canonical.status = .frozen ∧ d.canonical.lines ≠ [] ∧
      ∀ l ∈ d.canonical.lines, l.counted.isSome) ↔
      (d.status = .frozen ∧ d.lines ≠ [] ∧ ∀ l ∈ d.lines, l.counted.isSome) := by
    unfold canonical
    simp
  unfold tryMarkCounted
  split
  · rw [if_pos (hsame.mpr ‹_›)]
    rfl
  · rw [if_neg (mt hsame.mp ‹_›)]

theorem canonical_review (d : CountDoc) (reviewedBy : Varchar 128) :
    (d.review reviewedBy).canonical = d.canonical.review reviewedBy := rfl

theorem canonical_post (d : CountDoc) (eventId : ℕ) (postedAt : ℤ) :
    (d.post eventId postedAt).canonical = d.canonical.post eventId postedAt := by
  unfold post
  change _ = if d.status = .counted then _ else _
  split <;> rfl

theorem canonical_void (d : CountDoc) : d.void.canonical = d.canonical.void := by
  unfold void
  change _ = if d.status.Active then _ else _
  split <;> rfl

theorem checkPostable_canonical (d : CountDoc) : checkPostable d.canonical = checkPostable d := by
  have hfind : d.canonical.lines.find? (fun l => l.counted = none) =
      (d.lines.find? fun l => l.counted = none).map CountDocLine.canonical := by
    unfold canonical
    rw [List.find?_map]
    rfl
  have hcounted : checkAllCounted d.canonical.lines = checkAllCounted d.lines := by
    unfold checkAllCounted
    rw [hfind]
    cases d.lines.find? fun l => l.counted = none with
    | none => rfl
    | some l => rfl
  have hnil : d.canonical.lines = [] ↔ d.lines = [] := List.map_eq_nil_iff
  unfold checkPostable
  rw [hcounted]
  simp only [hnil]
  rfl

end CountDoc

/-- The same lines are posted. -/
theorem CountDoc.Same.forM_postLineDiff {d d' : CountDoc} (h : d.Same d') (call : CountPostCall)
    (knownEvents : List ℕ) (warehouseId eventId : ℕ) :
    forM d.lines (postLineDiff call knownEvents warehouseId eventId) =
      forM d'.lines (postLineDiff call knownEvents warehouseId eventId) := by
  have hsorted : ∀ ls : List CountDocLine,
      forM ls (postLineDiff call knownEvents warehouseId eventId) =
        forM (ls.map CountDocLine.canonical)
          (postLineDiff call knownEvents warehouseId eventId) := by
    intro ls
    induction ls with
    | nil => rfl
    | cons l rest ih =>
      rw [List.map_cons, List.forM_cons, List.forM_cons, ih, postLineDiff_canonical]
  rw [hsorted d.lines, h.lines_eq, ← hsorted d'.lines]

/-! ## Lists of documents -/

/-- Document by document the same. -/
abbrev SameDocs : List CountDoc → List CountDoc → Prop := List.Forall₂ CountDoc.Same

namespace SameDocs

variable {ds ds' : List CountDoc}

theorem map_eq {α : Type} {f : CountDoc → α} (h : SameDocs ds ds')
    (hf : ∀ d d', d.Same d' → f d = f d') : ds.map f = ds'.map f := by
  induction h with
  | nil => rfl
  | cons hd _ ih => rw [List.map_cons, List.map_cons, hf _ _ hd, ih]

theorem iff_map_canonical :
    SameDocs ds ds' ↔ ds.map CountDoc.canonical = ds'.map CountDoc.canonical := by
  rw [← List.forall₂_eq_eq_eq, List.forall₂_map_left_iff, List.forall₂_map_right_iff]
  rfl

theorem exists_iff (h : SameDocs ds ds') {p : CountDoc → Prop}
    (hp : ∀ d d', d.Same d' → (p d ↔ p d')) : (∃ d ∈ ds, p d) ↔ ∃ d ∈ ds', p d := by
  induction h with
  | nil => exact Iff.rfl
  | cons hd _ ih => rw [List.exists_mem_cons_iff, List.exists_mem_cons_iff, hp _ _ hd, ih]

theorem filter (h : SameDocs ds ds') {p : CountDoc → Bool}
    (hp : ∀ d d', d.Same d' → p d = p d') : SameDocs (ds.filter p) (ds'.filter p) := by
  induction h with
  | nil => exact .nil
  | @cons d d' rest rest' hd _ ih =>
    rw [List.filter_cons, List.filter_cons, hp d d' hd]
    split
    · exact .cons hd ih
    · exact ih

theorem head? (h : SameDocs ds ds') : Option.Rel CountDoc.Same ds.head? ds'.head? := by
  cases h with
  | nil => exact .none
  | cons hd _ => exact .some hd

theorem find? (h : SameDocs ds ds') {p : CountDoc → Bool}
    (hp : ∀ d d', d.Same d' → p d = p d') : Option.Rel CountDoc.Same (ds.find? p) (ds'.find? p) := by
  rw [← List.head?_filter, ← List.head?_filter]
  exact (h.filter hp).head?

/-- The newest document is the same one. -/
theorem latest? (h : SameDocs ds ds') {time : CountDoc → ℤ}
    (htime : ∀ d, time d.canonical = time d) :
    Option.Rel CountDoc.Same (CountDoc.latest? time ds) (CountDoc.latest? time ds') := by
  have hsort : ∀ l : List CountDoc,
      (l.insertionSort fun a b => time b < time a ∨ (time a = time b ∧ b.id ≤ a.id)).map
        CountDoc.canonical = (l.map CountDoc.canonical).insertionSort
          fun a b => time b < time a ∨ (time a = time b ∧ b.id ≤ a.id) := by
    refine fun l => List.map_insertionSort _ _ CountDoc.canonical l fun a _ b _ => ?_
    rw [htime, htime]
    rfl
  refine head? (iff_map_canonical.mpr ?_)
  rw [hsort, hsort, iff_map_canonical.mp h]

theorem revise (h : SameDocs ds ds') {f g : CountDoc → CountDoc} {docId : ℕ}
    (hfg : ∀ d d', d.Same d' → (f d).Same (g d')) :
    SameDocs (ds.map fun d => if d.id = docId then f d else d)
      (ds'.map fun d => if d.id = docId then g d else d) := by
  rw [SameDocs, List.forall₂_map_left_iff, List.forall₂_map_right_iff]
  refine List.Forall₂.imp (fun d d' hd => ?_) h
  rw [← hd.id_eq]
  split
  · exact hfg d d' hd
  · exact hd

/-- A document is inserted into both tables or into neither. -/
theorem insert {t t' : Table CountDoc CountDoc.Conflict} (h : SameDocs t.rows t'.rows)
    (d : CountDoc) :
    Option.Rel (fun u u' => SameDocs u.rows u'.rows) (t.insert d) (t'.insert d) := by
  have hfree : ∀ {ds ds' : List CountDoc}, SameDocs ds ds' →
      ((∀ a ∈ ds, ¬a.Conflict d) ↔ ∀ a ∈ ds', ¬a.Conflict d) := by
    intro ds ds' hds
    induction hds with
    | nil => exact Iff.rfl
    | cons hd _ ih =>
      unfold CountDoc.Conflict at ih ⊢
      rw [List.forall_mem_cons, List.forall_mem_cons, hd.id_eq, hd.countNo_eq, ih]
  unfold Table.insert
  by_cases hnew : ∀ a ∈ t.rows, ¬a.Conflict d
  · rw [dif_pos hnew, dif_pos ((hfree h).mp hnew)]
    exact .some (List.rel_append h (.cons rfl .nil))
  · rw [dif_neg hnew, dif_neg (mt (hfree h).mpr hnew)]
    exact .none

end SameDocs

/-! ## Frozen lines -/

namespace Books.ZerosShed

variable {b c : Books}

/-- The rows that hold something are the same, in whatever order. -/
theorem perm_nonzero (h : b.ZerosShed c) :
    (c.stocksLot.entries.filter fun e => e.2 ≠ 0).Perm
      (b.stocksLot.entries.filter fun e => e.2 ≠ 0) := by
  have hnodup : ∀ d : Books, (d.stocksLot.entries.filter fun e => e.2 ≠ 0).Nodup :=
    fun d => d.stocksLot.nodupKeys.nodup.filter _
  rw [List.perm_ext_iff_of_nodup (hnodup c) (hnodup b)]
  have hmem : ∀ (d : Books) (e : Σ _ : SlotKey, ℤ),
      e ∈ d.stocksLot.entries.filter (fun e => e.2 ≠ 0) ↔ d.stock e.1 = e.2 ∧ e.2 ≠ 0 := by
    rintro d ⟨k, q⟩
    rw [List.mem_filter, ← AList.mem_lookup_iff]
    constructor
    · rintro ⟨hlookup, hne⟩
      exact ⟨Books.stock_of_lookup hlookup, by simpa using hne⟩
    · rintro ⟨hstock, hne⟩
      have hk : k ∈ d.stocksLot := mem_stocksLot_of_stock_ne_zero (hstock ▸ hne)
      obtain ⟨q', hq'⟩ := Option.isSome_iff_exists.mp (AList.lookup_isSome.mpr hk)
      have hsame : q' = q := (Books.stock_of_lookup hq').symm.trans hstock
      exact ⟨by rw [Option.mem_def, hq', hsame], by simpa using hne⟩
  intro e
  rw [hmem, hmem, h.stock_eq]

theorem itemStock_eq (h : b.ZerosShed c) (w i : ℕ) : c.itemStock w i = b.itemStock w i := by
  have hsum : ∀ d : Books, d.itemStock w i =
      (((d.stocksLot.entries.filter fun e => e.2 ≠ 0).filter
        fun e => SlotKey.Of w i e.1).map Sigma.snd).sum := by
    intro d
    unfold Books.itemStock
    induction d.stocksLot.entries with
    | nil => rfl
    | cons e rest ih =>
      by_cases hslot : SlotKey.Of w i e.1
      · by_cases hzero : e.2 = 0
        · simp [hslot, hzero, ih]
        · simp [hslot, hzero, ih]
      · by_cases hzero : e.2 = 0
        · simp [hslot, hzero, ih]
        · simp [hslot, hzero, ih]
  rw [hsum, hsum]
  exact ((h.perm_nonzero.filter _).map _).sum_eq

theorem findLot_eq (h : b.ZerosShed c) (lotId : ℕ) : c.findLot lotId = b.findLot lotId := by
  unfold Books.findLot
  rw [h.lots_eq]

theorem lotSnapshots_perm (h : b.ZerosShed c) (w i : ℕ) :
    (c.lotSnapshots w i).Perm (b.lotSnapshots w i) := by
  have hnonzero : ∀ d : Books, d.lotSnapshots w i =
      (d.stocksLot.entries.filter fun e => e.2 ≠ 0).filterMap fun e =>
        if h : SlotKey.Of w i e.1 ∧ 0 < e.2 then
          some ⟨e.1.lotId, (d.findLot e.1.lotId).bind Lot.lotCode, e.2, h.2.le⟩
        else none := by
    intro d
    unfold Books.lotSnapshots
    rw [List.filterMap_filter]
    refine List.filterMap_congr fun e _ => ?_
    by_cases hzero : e.2 = 0
    · rw [dif_neg (by omega), if_neg (by simpa using hzero)]
    · rw [if_pos (by simpa using hzero)]
  rw [hnonzero, hnonzero]
  simp only [h.findLot_eq]
  exact h.perm_nonzero.filterMap _

/-- An item is in stock when its quantities have a positive sum. -/
theorem mem_itemsInStock (d : Books) (w i : ℕ) : i ∈ d.itemsInStock w ↔ 0 < d.itemStock w i := by
  refine ⟨Books.itemStock_pos_of_mem, fun hpos => ?_⟩
  obtain ⟨e, he, hslot⟩ : ∃ e ∈ d.stocksLot.entries, SlotKey.Of w i e.1 := by
    by_contra hnone
    push Not at hnone
    have hnil : d.stocksLot.entries.filter (fun e => SlotKey.Of w i e.1) = [] := by
      simpa [List.filter_eq_nil_iff] using hnone
    unfold Books.itemStock at hpos
    rw [hnil] at hpos
    cases hpos
  refine List.mem_filter.mpr ⟨?_, by simpa using hpos⟩
  unfold Books.warehouseItems
  rw [List.mem_insertionSort, List.mem_dedup, List.mem_map]
  exact ⟨e, List.mem_filter.mpr ⟨he, by simpa using hslot.1⟩, hslot.2⟩

theorem itemsInStock_eq (h : b.ZerosShed c) (w : ℕ) : c.itemsInStock w = b.itemsInStock w := by
  have hsorted : ∀ d : Books, (d.itemsInStock w).Pairwise (· ≤ ·) :=
    fun d => (List.pairwise_insertionSort (· ≤ ·) _).filter _
  refine List.Perm.eq_of_pairwise (fun _ _ _ _ => le_antisymm) (hsorted c) (hsorted b) ?_
  rw [List.perm_ext_iff_of_nodup (c.itemsInStock_nodup w) (b.itemsInStock_nodup w)]
  intro i
  rw [mem_itemsInStock, mem_itemsInStock, h.itemStock_eq]

/-- The lines that are frozen from both books are the same up to order. -/
theorem freezeLines_canonical (h : b.ZerosShed c) (w firstId : ℕ) (basics : ℕ → Option ItemBasic) :
    (c.freezeLines w firstId basics).map CountDocLine.canonical =
      (b.freezeLines w firstId basics).map CountDocLine.canonical := by
  have hline : ∀ (n : ℕ) (i : { i // i ∈ c.itemsInStock w }) (j : { i // i ∈ b.itemsInStock w }),
      i.1 = j.1 → (c.freezeLine w firstId basics n i).canonical =
        (b.freezeLine w firstId basics n j).canonical := by
    intro n i j hij
    have hsnapshots : sortSnapshots (c.lotSnapshots w i.1) = sortSnapshots (b.lotSnapshots w i.1) :=
      sortSnapshots_eq_of_perm (c.lotSnapshots_unique w i.1) (h.lotSnapshots_perm w i.1)
    have hname : (c.freezeLine w firstId basics n i).itemNameSnapshot =
        (b.freezeLine w firstId basics n j).itemNameSnapshot := by
      unfold Books.freezeLine
      simp only [hij]
    have hspec : (c.freezeLine w firstId basics n i).itemSpecSnapshot =
        (b.freezeLine w firstId basics n j).itemSpecSnapshot := by
      unfold Books.freezeLine
      simp only [hij]
    refine CountDocLine.canonical_eq rfl rfl hij hname hspec ?_ rfl ?_
    · change c.itemStock w i.1 = b.itemStock w j.1
      rw [h.itemStock_eq, hij]
    · change sortSnapshots (c.lotSnapshots w i.1) = sortSnapshots (b.lotSnapshots w j.1)
      rw [hsnapshots, hij]
  have hitems := h.itemsInStock_eq w
  have hlength : (c.itemsInStock w).length = (b.itemsInStock w).length := by rw [hitems]
  refine List.ext_getElem (by simpa [Books.freezeLines] using hlength) fun n hn hn' => ?_
  simp only [Books.freezeLines, List.getElem_map, List.getElem_mapIdx]
  refine hline n _ _ ?_
  simp only [List.getElem_attach, hitems]

end Books.ZerosShed

end Wms

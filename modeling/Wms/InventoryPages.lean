import Wms.BooksAlong
import Wms.ReceiptDates
import Wms.Stock.InventoryRead

/-!
# What the inventory pages cover

Lots of one item in one warehouse can share their code when they differ in the production date, and
the order of the pages does not tell them apart. The pages list every selected balance once,
whatever order the database chooses in each request, exactly when no page ends between balances
that are equal in item, warehouse and lot code.
-/

namespace Wms

open Foundation

/-- The calls for what a page shows succeed. -/
structure InventoryPms.Answers (pms : InventoryPms) : Prop where
  items : ∀ ids, ∃ items, pms.getItemBasics ids = .ok items
  uoms : ∀ ids, ∃ uoms, pms.listUoms ids = .ok uoms
  barcodes : ∀ ids, ∃ barcodes, pms.listBarcodes ids = .ok barcodes

/-- Whatever order the database chooses in each request, the pages at the multiples of the limit up
to the total list every selected balance once. -/
def PagesCover {κ : Type} [LinearOrder κ] (collate : String → κ) (pms : InventoryPms)
    (today : Date) (db : Database) (f : InventoryFilter) (qItemIds : Option (List ℕ))
    (limit : ℕ) : Prop :=
  ∀ orders : ℕ → List StockJoin → List StockJoin,
    (∀ i, Arranges (StockJoin.sortKey collate) (db.inventory today f qItemIds)
      (orders i (db.inventory today f qItemIds))) →
    ∃ (total : ℕ) (rows : ℕ → List InventoryRow),
      (∀ i, queryInventoryRows pms today (orders i) db f (i * limit) limit =
        .ok (total, rows i)) ∧
      ((List.range (total / limit + 1)).flatMap fun i =>
        (rows i).map InventoryRow.toStockColumns).Perm
          ((db.inventory today f qItemIds).map StockJoin.columns)

/-- A supplier lot has a production date. -/
def Books.SuppliersDated (b : Books) : Prop :=
  ∀ l ∈ b.lots.rows, l.lotCodeSource = .supplier → l.productionDate.isSome

/-! ## The lots that are written -/

/-- Supplier lots stay dated. -/
def StaysDated (b b' : Books) : Prop := b.SuppliersDated → b'.SuppliersDated

instance : IsPreorder Books StaysDated where
  refl _ := id
  trans _ _ _ h h' := h' ∘ h

theorem staysDated_followedByLots : FollowedByLots StaysDated where
  insert v _ hdate := by
    intro b o b' h hb
    rcases insertLot_run_ok h with ⟨-, rfl⟩ | ⟨l, hrows, -, -, hsource, hpd, -⟩
    · exact hb
    · intro l' hl'
      rw [hrows] at hl'
      rcases List.mem_append.mp hl' with hold | hnew
      · exact hb l' hold
      · rw [List.mem_singleton.mp hnew, hsource, hpd]
        exact hdate
  patch id ed := by
    intro b u b' h hb
    rcases patchLotExpiryIfNull_run_ok h with rfl | ⟨e, -, rfl⟩
    · exact hb
    · intro l' hl'
      obtain ⟨l, hl, rfl⟩ := List.mem_map.mp hl'
      obtain ⟨-, -, -, hsource, -, hpd⟩ := l.patchExpiryOf_keeps id e
      rw [hsource, hpd]
      exact hb l hl

/-- Supplier lots are dated in every state of a run. -/
theorem suppliersDated_after (ops : List Op) : (Database.after ops).books.SuppliersDated := by
  refine Tx.attemptAll_invariant (I := fun db : Database => db.books.SuppliersDated)
    (P := fun _ _ => True) ?_ (fun l hl => absurd hl List.not_mem_nil)
    (Tx.allAccepted_true ops Database.empty)
  intro op db u db' hdb _ hrun
  refine Op.exec_along staysDated_followedByLots (fun b b' hlots hb => ?_) hrun hdb
  unfold Books.SuppliersDated
  rw [hlots]
  exact hb

/-! ## One row for each balance -/

variable {db : Database} {s s' : StockJoin}

/-- What a condition selects, of which stored rows that meet it conflict. -/
theorem filter_eq_find? {ρ : Type} {Conflict : ρ → ρ → Prop} (t : Table ρ Conflict) {p : ρ → Bool}
    (hkey : ∀ a b, p a = true → p b = true → Conflict a b) :
    t.rows.filter p = (t.rows.find? p).toList := by
  have hjoin := t.leftJoin_eq hkey
  unfold Table.leftJoin at hjoin
  cases hfilter : t.rows.filter p with
  | nil =>
    rw [hfilter] at hjoin
    rw [← List.singleton_inj.mp hjoin, Option.toList_none]
  | cons r rs =>
    rw [hfilter] at hjoin
    obtain ⟨hr, hrs⟩ := List.cons.inj hjoin
    rw [← hr, List.map_eq_nil_iff.mp hrs, Option.toList_some]

/-- The joins give each balance one row, if its warehouse is stored. -/
theorem stockJoins_eq (db : Database) : db.stockJoins =
    db.books.stocksLot.entries.filterMap fun e =>
      (db.warehouses.rows.find? fun w => w.id = e.1.warehouseId).map fun w =>
        ⟨e.1, e.2, w, db.books.findLot e.1.lotId⟩ := by
  unfold Database.stockJoins
  rw [List.filterMap_eq_flatMap_toList]
  congr 1
  funext e
  have hlots : (db.books.lots.leftJoin fun l => l.id = e.1.lotId) =
      [db.books.findLot e.1.lotId] := by
    apply Table.leftJoin_eq
    intro a b ha hb
    exact .inl ((of_decide_eq_true ha).trans (of_decide_eq_true hb).symm)
  rw [hlots, filter_eq_find?]
  · cases db.warehouses.rows.find? fun w => w.id = e.1.warehouseId with
    | none => rfl
    | some w => rfl
  · intro a b ha hb
    exact (of_decide_eq_true ha).trans (of_decide_eq_true hb).symm

theorem stockJoins_slot_nodup (db : Database) : (db.stockJoins.map StockJoin.slot).Nodup := by
  rw [stockJoins_eq, List.Nodup, List.pairwise_map, List.pairwise_filterMap]
  refine (List.nodupKeys_iff_pairwise.mp db.books.stocksLot.nodupKeys).imp ?_
  intro e e' hne s hs s' hs'
  obtain ⟨w, -, rfl⟩ := Option.map_eq_some_iff.mp hs
  obtain ⟨w', -, rfl⟩ := Option.map_eq_some_iff.mp hs'
  exact hne

/-- The lot of a balance is found and is one of its warehouse and item. -/
theorem exists_lot_of_mem (hs : s ∈ db.stockJoins) :
    ∃ l ∈ db.books.lots.rows, s.lot = some l ∧ l.id = s.slot.lotId ∧
      l.BelongsTo s.slot.warehouseId s.slot.itemId := by
  rw [stockJoins_eq] at hs
  obtain ⟨e, he, hsome⟩ := List.mem_filterMap.mp hs
  obtain ⟨w, -, rfl⟩ := Option.map_eq_some_iff.mp hsome
  obtain ⟨l, hl, hid, hbelongs⟩ := db.books.slot_fk e.1 (List.mem_map_of_mem he)
  have hfound : db.books.findLot e.1.lotId = some l := by
    rw [← hid]
    exact findLot_eq_some hl
  exact ⟨l, hl, hfound, hid, hbelongs⟩

/-- Where supplier lots are dated, a lot is known by its warehouse, item, code and date. -/
theorem Books.SuppliersDated.lot_eq {b : Books} (hb : b.SuppliersDated) {l l' : Lot}
    (hl : l ∈ b.lots.rows) (hl' : l' ∈ b.lots.rows) (hbelongs : l.BelongsTo l'.warehouseId l'.itemId)
    (hcode : l.lotCode = l'.lotCode) (hpd : l.productionDate = l'.productionDate) : l = l' := by
  have hsymm : ∀ a b : Lot, a.Conflict b → b.Conflict a := by
    rintro a b (hid | ⟨⟨hw, hi⟩, ha, hb, har, hbr, hpd⟩ | ⟨⟨hw, hi⟩, ha, hb⟩)
    · exact .inl hid.symm
    · exact .inr (.inl ⟨⟨hw.symm, hi.symm⟩, hb, ha, hbr, har, hpd.symm⟩)
    · exact .inr (.inr ⟨⟨hw.symm, hi.symm⟩, hb, ha⟩)
  refine b.lots.eq_of_conflict hsymm hl hl' ?_
  cases hsource : l.lotCodeSource with
  | supplier =>
    have hsource' : l'.lotCodeSource = .supplier := by
      rw [l'.lotCode_by_source, ← hcode]
      exact l.lotCode_by_source.mp hsource
    exact .inr (.inl ⟨hbelongs, hsource, hsource',
      l.productionDate_by_policy.mpr (hb l hl hsource),
      l'.productionDate_by_policy.mpr (hb l' hl' hsource'), hpd⟩)
  | internal =>
    have hsource' : l'.lotCodeSource = .internal := by
      cases hcase : l'.lotCodeSource with
      | internal => rfl
      | supplier =>
        have hsome := l'.lotCode_by_source.mp hcase
        rw [← hcode] at hsome
        rw [l.lotCode_by_source.mpr hsome] at hsource
        cases hsource
    exact .inr (.inr ⟨hbelongs, hsource, hsource'⟩)

/-- Different balances have different columns. -/
theorem columns_nodup (hb : db.books.SuppliersDated) : (db.stockJoins.map StockJoin.columns).Nodup := by
  have hnodup := stockJoins_slot_nodup db
  refine hnodup.of_map.map_on ?_
  intro s hs s' hs' heq
  refine List.inj_on_of_nodup_map hnodup hs hs' ?_
  obtain ⟨l, hl, hlot, hid, hw, hi⟩ := exists_lot_of_mem hs
  obtain ⟨l', hl', hlot', hid', hw', hi'⟩ := exists_lot_of_mem hs'
  have hitem : s.slot.itemId = s'.slot.itemId := congrArg StockColumns.itemId heq
  have hwarehouse : s.slot.warehouseId = s'.slot.warehouseId :=
    congrArg StockColumns.warehouseId heq
  have hcode : s.lot.bind Lot.lotCode = s'.lot.bind Lot.lotCode :=
    congrArg StockColumns.lotCode heq
  have hpd : s.lot.bind Lot.productionDate = s'.lot.bind Lot.productionDate :=
    congrArg StockColumns.productionDate heq
  rw [hlot, hlot', Option.bind_some, Option.bind_some] at hcode hpd
  have hsame : l = l' := hb.lot_eq hl hl'
    ⟨by rw [hw, hw', hwarehouse], by rw [hi, hi', hitem]⟩ hcode hpd
  have hlotId : s.slot.lotId = s'.slot.lotId := by rw [← hid, ← hid', hsame]
  exact SlotKey.ext hwarehouse hitem hlotId

/-! ## The pages -/

variable {κ : Type} [LinearOrder κ] {collate : String → κ} {pms : InventoryPms} {today : Date}
  {f : InventoryFilter} {qItemIds : Option (List ℕ)} {limit : ℕ}

/-- A request answers the columns of a page of the selected rows. -/
theorem exists_queryInventoryRows (hq : resolveInventoryQItemIds pms f.q = .ok qItemIds)
    (hpms : pms.Answers) (today : Date) (order : List StockJoin → List StockJoin) (db : Database)
    (offset limit : ℕ) :
    ∃ rows, queryInventoryRows pms today order db f offset limit =
        .ok ((db.inventory today f qItemIds).length, rows) ∧
      rows.map InventoryRow.toStockColumns =
        (page offset limit (order (db.inventory today f qItemIds))).map StockJoin.columns := by
  have hmaps (itemIds : List ℕ) : ∃ maps, loadInventoryDisplayMaps pms itemIds = .ok maps := by
    obtain ⟨items, hitems⟩ := hpms.items (cleanIds itemIds)
    obtain ⟨uoms, huoms⟩ := hpms.uoms (cleanIds itemIds)
    obtain ⟨barcodes, hbarcodes⟩ := hpms.barcodes (cleanIds itemIds)
    unfold loadInventoryDisplayMaps
    dsimp only
    split
    · exact ⟨_, rfl⟩
    · rw [hitems, huoms, hbarcodes]
      exact ⟨_, rfl⟩
  obtain ⟨maps, hmaps⟩ := hmaps
    (((page offset limit (order (db.inventory today f qItemIds))).map StockJoin.columns).map
      StockColumns.itemId)
  refine ⟨((page offset limit (order (db.inventory today f qItemIds))).map
    StockJoin.columns).map (StockColumns.enrich maps), ?_, ?_⟩
  · unfold queryInventoryRows enrichInventoryRows
    rw [hq]
    simp only [bind, Except.bind, hmaps]
    rfl
  · rw [List.map_map]
    exact List.map_id _

/-- The requests answer the columns of their pages. -/
theorem answered_columns {orders : ℕ → List StockJoin → List StockJoin} {n total : ℕ}
    {rows : ℕ → List InventoryRow} (hq : resolveInventoryQItemIds pms f.q = .ok qItemIds)
    (hpms : pms.Answers)
    (hrows : ∀ i, queryInventoryRows pms today (orders i) db f (i * limit) limit =
      .ok (total, rows i)) :
    total = (db.inventory today f qItemIds).length ∧
      ((List.range n).flatMap fun i => (rows i).map InventoryRow.toStockColumns) =
        (pages limit n fun i => orders i (db.inventory today f qItemIds)).map
          StockJoin.columns := by
  have hanswer (i : ℕ) : total = (db.inventory today f qItemIds).length ∧
      (rows i).map InventoryRow.toStockColumns = (page (i * limit) limit
        (orders i (db.inventory today f qItemIds))).map StockJoin.columns := by
    obtain ⟨rows', hquery, hcolumns⟩ :=
      exists_queryInventoryRows hq hpms today (orders i) db (i * limit) limit
    rw [hrows i] at hquery
    obtain ⟨rfl, rfl⟩ := Prod.mk.inj (Except.ok.inj hquery)
    exact ⟨rfl, hcolumns⟩
  refine ⟨(hanswer 0).1, ?_⟩
  unfold pages
  rw [List.map_flatMap]
  congr 1
  funext i
  exact (hanswer i).2

/-- In every state of a run, the pages list every selected balance once, whatever the database
chooses, exactly when no page ends between rows that are equal in the order. -/
theorem pagesCover_iff (ops : List Op) (hlimit : 1 ≤ limit)
    (hq : resolveInventoryQItemIds pms f.q = .ok qItemIds) (hpms : pms.Answers) :
    PagesCover collate pms today (Database.after ops) f qItemIds limit ↔
      ∀ s ∈ (Database.after ops).inventory today f qItemIds,
        OnOnePage (StockJoin.sortKey collate) limit
          ((Database.after ops).inventory today f qItemIds) s := by
  have hcolumns : (((Database.after ops).inventory today f qItemIds).map
      StockJoin.columns).Nodup :=
    (columns_nodup (suppliersDated_after ops)).sublist (List.filter_sublist.map _)
  have hlength : ((Database.after ops).inventory today f qItemIds).length ≤
      (((Database.after ops).inventory today f qItemIds).length / limit + 1) * limit :=
    (Nat.lt_mul_of_div_lt (Nat.lt_succ_self _) hlimit).le
  constructor
  · intro hcover s hs
    by_contra hnot
    obtain ⟨orders, horders, htwice⟩ :=
      exists_orders_of_not_onOnePage hlimit hlength hs hnot
    obtain ⟨total, rows, hrows, hperm⟩ := hcover (fun i _ => orders i) horders
    obtain ⟨rfl, hanswered⟩ := answered_columns (n := total / limit + 1) hq hpms hrows
    rw [hanswered] at hperm
    exact htwice (List.Nodup.of_map _ (hperm.nodup_iff.mpr hcolumns))
  · intro hone orders horders
    choose rows hrows _ using fun i => exists_queryInventoryRows hq hpms today (orders i)
      (Database.after ops) (i * limit) limit
    refine ⟨_, rows, hrows, ?_⟩
    rw [(answered_columns hq hpms hrows).2]
    exact (pages_perm hcolumns.of_map hlimit hlength horders hone).map _

/-! ## Two batches under one code -/

/-- A line of a receipt of milk. -/
def milkLine (producedOn : Date) (h : producedOn ≤ earlyExpiry) : CommitLineIn where
  itemId := some 1
  barcode := none
  uomId := some 1
  qtyInput := 1
  lotCodeInput := some ⟨"MILK", by decide⟩
  productionDate := some producedOn
  expiryDate := some earlyExpiry
  sourceLineId := none
  remark := none
  qty_pos := Int.zero_lt_one
  identity := one_given
  uom_input := one_given
  dates_ordered pd hpd ed hed := by
    rw [← Option.some.inj hpd, ← Option.some.inj hed]
    exact h

/-- A day later. -/
def producedLater : Date := ⟨2025, 6, 2, by decide⟩

theorem producedLater_le_earlyExpiry : producedLater ≤ earlyExpiry := by decide +kernel

/-- The receipt of milk of two days, all under the same lot code. -/
def receiveMilk : CommitCall where
  warehouseId := 1
  sourceType := .manual
  sourceRef := none
  occurredAt := 0
  remark := none
  lines := [milkLine producedOn producedOn_le_earlyExpiry,
    milkLine producedLater producedLater_le_earlyExpiry]
  userId := none
  eventNo := ⟨"IE-MILK", by decide⟩
  traceId := ⟨"IN-MILK", by decide⟩
  pms := datedPms
  utcNow := 0
  lines_ne := List.cons_ne_nil _ _

def milkRun : List Op := [.addWarehouse ⟨1, .lit "W-MILK"⟩, .commitInbound receiveMilk]

/-- A product master without barcodes. -/
def milkPms : InventoryPms where
  listItemBasics _ := .ok []
  getItemBasics _ := .ok fun itemId => some ⟨plainItem itemId, none, none⟩
  listUoms itemIds := .ok (itemIds.map plainUom)
  listBarcodes _ := .ok []

theorem milkPms_answers : milkPms.Answers where
  items _ := ⟨_, rfl⟩
  uoms _ := ⟨_, rfl⟩
  barcodes _ := ⟨_, rfl⟩

/-- All balances. -/
def noFilter : InventoryFilter := ⟨none, none, none, none, none⟩

/-- Sort keys by the numbers of the characters. -/
def codePoints (text : String) : List ℕ := text.toList.map Char.toNat

/-- Both batches fit one page. -/
theorem pagesCover_milkRun :
    PagesCover codePoints milkPms producedLater (Database.after milkRun) noFilter none 2 :=
  (pagesCover_iff milkRun (by decide) rfl milkPms_answers).mpr (by decide +kernel)

/-- On pages of one row, the first batch can come first in the first request and second in the
other. -/
theorem not_pagesCover_milkRun :
    ¬PagesCover codePoints milkPms producedLater (Database.after milkRun) noFilter none 1 := by
  intro hcover
  have hsorted : ((Database.after milkRun).inventory producedLater noFilter none).Pairwise
      fun a b => a.sortKey codePoints ≤ b.sortKey codePoints := by decide +kernel
  have hreverse : ((Database.after milkRun).inventory producedLater noFilter none).reverse.Pairwise
      fun a b => a.sortKey codePoints ≤ b.sortKey codePoints := by decide +kernel
  obtain ⟨total, rows, hrows, hperm⟩ := hcover
    (fun i rows => if i = 0 then rows else rows.reverse) fun i => by
      split
      · exact ⟨List.Perm.refl _, hsorted⟩
      · exact ⟨List.reverse_perm _, hreverse⟩
  obtain ⟨htotal, hanswered⟩ := answered_columns (n := total / 1 + 1) rfl milkPms_answers hrows
  rw [hanswered, htotal] at hperm
  exact absurd hperm (by decide +kernel)

end Wms

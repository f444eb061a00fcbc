import Wms.Stock.LedgerRoutes

/-!
# The export against the query

Both routes select with the same conditions, sort in the same order and cut the same page, but the
export does not ask for the items of the keyword. It writes the rows of the query exactly when the
keyword finds the item of every row up to the end of the page, or no row is left for the page.
-/

namespace Wms

open Foundation

/-- The line of the export for a row of the answer. -/
def LedgerContract.LedgerRow.exportLine (item : LedgerContract.LedgerRow) : ExportLine where
  id := item.id
  delta := item.delta
  reason := item.reason.text
  subReason := (item.subReason.map Varchar.text).getD ""
  ref := item.ref.text
  refLine := item.refLine
  occurredAt := item.occurredAt
  createdAt := item.createdAt
  afterQty := item.afterQty
  itemId := item.itemId
  warehouseId := item.warehouseId
  lotCode := item.lotCode.map Varchar.text
  lotId := item.lotId
  traceId := (item.traceId.map Varchar.text).getD ""

/-- The rows of a window that meet all filters of a payload but the keyword. -/
def LedgerTables.rowsWithoutKeyword (t : LedgerTables) (q : LedgerPayload) (window : ℤ × ℤ) :
    List StockLedgerRow :=
  t.select (buildCommonFilters t q window none)

/-- The keyword finds an item, or is blank. -/
def LedgerPayload.FindsItem (q : LedgerPayload) (pms : LedgerPms) (itemId : ℕ) : Prop :=
  ∀ ids, resolveLedgerItemKeywordItemIds pms q = .ok (some ids) → (itemId : ℤ) ∈ cleanIds ids

variable {pms : LedgerPms} {t : LedgerTables} {q : LedgerPayload} {window : ℤ × ℤ}

/-! ## What the routes select -/

theorem LedgerQuery.normalizeTimeRange_given {q : LedgerQuery} {timeFrom timeTo now : ℤ}
    (hfrom : q.timeFrom = some timeFrom) (hto : q.timeTo = some timeTo)
    (h : q.normalizeTimeRange now = .ok window) : window = (timeFrom, timeTo) := by
  unfold normalizeTimeRange at h
  simp only [hfrom, hto, Option.getD_some, Option.isSome_some, Option.isNone_some,
    Bool.false_eq_true, and_false, if_false] at h
  split at h
  · cases h
  · split at h
    · cases h
    · exact (Except.ok.inj h).symm

/-- The keyword adds one condition to those of the other filters. -/
theorem LedgerTables.select_keyword (ids : List ℤ) :
    t.select (buildCommonFilters t q window (some ids)) =
      (t.rowsWithoutKeyword q window).filter fun r => (r.slot.itemId : ℤ) ∈ cleanIds ids := by
  unfold rowsWithoutKeyword select
  rw [List.filter_filter]
  apply List.filter_congr
  intro r _
  have hkeyword : (if cleanIds ids ≠ [] then decide ((r.slot.itemId : ℤ) ∈ cleanIds ids)
      else false) = decide ((r.slot.itemId : ℤ) ∈ cleanIds ids) := by
    split
    · rfl
    · rename_i hids
      rw [not_not.mp hids]
      rfl
  unfold buildCommonFilters condition
  simp only [List.all_append, Option.map_some, Option.map_none, Option.toList_some,
    Option.toList_none, List.all_nil, List.all_cons, hkeyword, Bool.and_true]
  grind

theorem LedgerTables.eq_of_id {a b : StockLedgerRow} (ha : a ∈ t.stockLedger.rows)
    (hb : b ∈ t.stockLedger.rows) (h : a.id = b.id) : a = b := by
  refine t.stockLedger.eq_of_conflict ?_ ha hb (.inl h)
  rintro x y (hid | ⟨hreason, href, hline, hslot⟩)
  · exact .inl hid.symm
  · exact .inr ⟨hreason.symm, href.symm, hline.symm, hslot.symm⟩

/-- Identifiers are unique, so asking for those of some stored rows finds these rows. -/
theorem LedgerTables.filter_ids (conditions : List (StockLedgerRow → Bool)) :
    (t.stockLedger.rows.filter fun r =>
      r.id ∈ (t.select conditions).map StockLedgerRow.id) = t.select conditions := by
  apply List.filter_congr
  intro r hr
  rw [Bool.eq_iff_iff, decide_eq_true_iff, List.mem_map]
  unfold select
  constructor
  · rintro ⟨a, ha, hid⟩
    obtain ⟨hmem, hall⟩ := List.mem_filter.mp ha
    obtain rfl : a = r := t.eq_of_id hmem hr hid
    exact hall
  · intro hall
    exact ⟨r, List.mem_filter.mpr ⟨hr, hall⟩, rfl⟩

/-- The rows of a selection have different places in the order. -/
theorem LedgerTables.newest_nodup (conditions : List (StockLedgerRow → Bool)) :
    ((t.select conditions).map StockLedgerRow.newest).Nodup := by
  have hrows : t.stockLedger.rows.Nodup := by
    refine t.stockLedger.unique.imp ?_
    rintro a b hab rfl
    exact hab (.inl rfl)
  refine (hrows.filter _).map_on ?_
  intro a ha b hb heq
  apply t.eq_of_id (List.mem_filter.mp ha).1 (List.mem_filter.mp hb).1
  unfold StockLedgerRow.newest at heq
  rw [EmbeddingLike.apply_eq_iff_eq, Prod.mk.injEq, EmbeddingLike.apply_eq_iff_eq,
    EmbeddingLike.apply_eq_iff_eq] at heq
  exact heq.2

/-! ## What the routes answer -/

/-- The sub-reason is filtered a second time, which changes nothing. -/
theorem filter_subReason :
    (match q.subReason with
      | none => t.rowsWithoutKeyword q window
      | some v => (t.rowsWithoutKeyword q window).filter fun r =>
          r.subReason.map Varchar.text = some v.value) = t.rowsWithoutKeyword q window := by
  cases hsub : q.subReason with
  | none => rfl
  | some v =>
    apply List.filter_eq_self.mpr
    intro r hr
    have hall := (List.mem_filter.mp hr).2
    simp only [buildCommonFilters, condition, hsub, List.all_append, Option.map_some,
      Option.toList_some, List.all_cons, Bool.and_eq_true] at hall
    grind

/-- The export writes a page of the rows that meet the filters without the keyword. -/
theorem exportLedger_eq {now : ℤ} {lines : List ExportLine}
    (hwindow : ∀ w, q.normalizeTimeRange now = .ok w → w = window)
    (h : exportLedger now t q = .ok lines) :
    lines = (page q.offset q.limit
      (orderBy StockLedgerRow.newest (t.rowsWithoutKeyword q window))).map (exportLine t) := by
  obtain ⟨w, hw, h⟩ := except_bind_eq_ok.mp h
  obtain rfl := hwindow w hw
  rw [← Except.ok.inj h]
  exact congrArg (fun rows => (page q.offset q.limit
    (orderBy StockLedgerRow.newest rows)).map (exportLine t)) filter_subReason

/-- The query answers a page of those of them whose items the keyword finds. -/
theorem queryLedger_eq {now : ℤ} {list : LedgerContract.LedgerList}
    (hwindow : ∀ w, q.normalizeTimeRange now = .ok w → w = window)
    (h : queryLedger pms now t q = .ok list) :
    ∃ (found : StockLedgerRow → Bool) (maps : LedgerDisplayMaps),
      (∀ r, found r = true ↔ q.FindsItem pms r.slot.itemId) ∧
        list.items = (page q.offset q.limit (orderBy StockLedgerRow.newest
          ((t.rowsWithoutKeyword q window).filter found))).map (ledgerItem t maps) := by
  obtain ⟨w, hw, h⟩ := except_bind_eq_ok.mp h
  obtain rfl := hwindow w hw
  obtain ⟨itemIds, hids, h⟩ := except_bind_eq_ok.mp h
  obtain ⟨maps, -, h⟩ := except_bind_eq_ok.mp h
  rw [← Except.ok.inj h]
  cases itemIds with
  | none =>
    refine ⟨fun _ => true, maps, fun r => ?_, ?_⟩
    · refine iff_of_true rfl ?_
      intro ids hsome
      rw [hids] at hsome
      cases hsome
    · dsimp only
      rw [t.filter_ids, List.filter_true]
      rfl
  | some ids =>
    refine ⟨fun r => (r.slot.itemId : ℤ) ∈ cleanIds ids, maps, fun r => ?_, ?_⟩
    · rw [decide_eq_true_iff]
      constructor
      · intro hmem ids' hsome
        rw [hids] at hsome
        obtain rfl : ids = ids' := by simpa using hsome
        exact hmem
      · intro hfinds
        exact hfinds ids hids
    · dsimp only
      rw [t.filter_ids, t.select_keyword]

/-- Stored rows with the same lines are the same. -/
theorem exportLines_inj {rows rows' : List StockLedgerRow} (h : ∀ r ∈ rows, r ∈ t.stockLedger.rows)
    (h' : ∀ r ∈ rows', r ∈ t.stockLedger.rows) :
    rows.map (exportLine t) = rows'.map (exportLine t) ↔ rows = rows' := by
  constructor
  · intro heq
    induction rows generalizing rows' with
    | nil => exact (List.map_eq_nil_iff.mp heq.symm).symm
    | cons r rs ih =>
      cases rows' with
      | nil => cases heq
      | cons r' rs' =>
        obtain ⟨hline, hlines⟩ := List.cons.inj heq
        have hid : r.id = r'.id := congrArg ExportLine.id hline
        rw [t.eq_of_id (h r List.mem_cons_self) (h' r' List.mem_cons_self) hid,
          ih (fun a ha => h a (List.mem_cons_of_mem r ha))
            (fun a ha => h' a (List.mem_cons_of_mem r' ha)) hlines]
  · exact congrArg _

/-- A payload with both times is exported as it is queried exactly when no row is left for the page
or the keyword finds the item of every row that comes before the end of the page. -/
theorem export_eq_query_iff {now now' timeFrom timeTo : ℤ} {list : LedgerContract.LedgerList}
    {lines : List ExportLine} (hfrom : q.timeFrom = some timeFrom) (hto : q.timeTo = some timeTo)
    (hquery : queryLedger pms now t q = .ok list) (hexport : exportLedger now' t q = .ok lines) :
    lines = list.items.map LedgerContract.LedgerRow.exportLine ↔
      (t.rowsWithoutKeyword q (timeFrom, timeTo)).length ≤ q.offset ∨
        ∀ r ∈ t.rowsWithoutKeyword q (timeFrom, timeTo),
          rowsBefore StockLedgerRow.newest (t.rowsWithoutKeyword q (timeFrom, timeTo)) r <
            q.offset + q.limit → q.FindsItem pms r.slot.itemId := by
  have hwindow {n : ℤ} : ∀ w, q.normalizeTimeRange n = .ok w → w = (timeFrom, timeTo) :=
    fun w hw => LedgerQuery.normalizeTimeRange_given hfrom hto hw
  obtain ⟨found, maps, hfound, hitems⟩ := queryLedger_eq hwindow hquery
  have hlines := exportLedger_eq hwindow hexport
  have hnewest : ((t.rowsWithoutKeyword q (timeFrom, timeTo)).map StockLedgerRow.newest).Nodup :=
    t.newest_nodup _
  have hstored {r : StockLedgerRow} (hr : r ∈ t.rowsWithoutKeyword q (timeFrom, timeTo)) :
      r ∈ t.stockLedger.rows := (List.mem_filter.mp hr).1
  generalize t.rowsWithoutKeyword q (timeFrom, timeTo) = rows at *
  have hsorted := orderBy_pairwise hnewest
  have hnodup : (orderBy StockLedgerRow.newest rows).Nodup := by
    refine hsorted.imp ?_
    rintro a b hab rfl
    exact lt_irrefl _ hab
  have hperm : (orderBy StockLedgerRow.newest rows).Perm rows := List.perm_insertionSort _ rows
  have hanswer : list.items.map LedgerContract.LedgerRow.exportLine =
      (page q.offset q.limit
        ((orderBy StockLedgerRow.newest rows).filter found)).map (exportLine t) := by
    rw [hitems, orderBy_filter hnewest, List.map_map]
    rfl
  rw [hlines, hanswer, exportLines_inj, page_eq_filter_iff hnodup q.limit_ge, hperm.length_eq]
  · apply or_congr_right
    constructor
    · intro h r hr hlt
      rw [← rowsBefore_perm hperm] at hlt
      exact (hfound r).mp (h r ((mem_take_iff_rowsBefore hsorted).mpr ⟨mem_orderBy.mpr hr, hlt⟩))
    · intro h r hr
      obtain ⟨hmem, hlt⟩ := (mem_take_iff_rowsBefore hsorted).mp hr
      rw [rowsBefore_perm hperm] at hlt
      exact (hfound r).mpr (h r (mem_orderBy.mp hmem) hlt)
  · intro r hr
    exact hstored (mem_orderBy.mp (mem_of_mem_page hr))
  · intro r hr
    exact hstored (mem_orderBy.mp (List.mem_filter.mp (mem_of_mem_page hr)).1)

/-! ## A keyword -/

theorem pear_dates_ordered :
    ∀ pd ∈ (none : Option Date), ∀ ed ∈ (none : Option Date), pd ≤ ed := nofun

/-- A lot of pears without a code. -/
def pearLot : Lot where
  id := 1
  warehouseId := 1
  itemId := 7
  lotCodeSource := .internal
  lotCode := none
  productionDate := none
  expiryDate := none
  shelfLifeValueSnapshot := none
  shelfLifeUnitSnapshot := none
  lotSourcePolicySnapshot := .internalOnly
  expiryPolicySnapshot := .none
  derivationAllowedSnapshot := false
  uomGovernanceEnabledSnapshot := false
  id_pos := by decide
  lotCode_by_source := by decide
  shelfLife_pair := by decide
  shelfLife_by_policy := by decide
  productionDate_by_policy := by decide
  production_le_expiry := pear_dates_ordered
  required_supplier := by decide

/-- Ten pears were received. -/
def pearReceipt : StockLedgerRow where
  slot := ⟨1, 7, 1⟩
  reason := ⟨"RECEIPT", by decide⟩
  reasonCanon := some .receipt
  subReason := none
  ref := ⟨"PO-1", by decide⟩
  refLine := 1
  delta := 10
  afterQty := 10
  occurredAt := 100
  traceId := none
  eventId := none
  productionDate := none
  expiryDate := none
  afterQty_nonneg := by decide
  dates_only_on_receipt := by simp
  id := 1
  createdAt := 100

def pearTables : LedgerTables where
  lots := ⟨[pearLot], List.pairwise_singleton _ _⟩
  stockLedger := ⟨[pearReceipt], List.pairwise_singleton _ _⟩
  ledger_fk := by simp [pearReceipt, pearLot, Lot.BelongsTo]

/-- A product master that knows pears only. -/
def pearPms : LedgerPms where
  searchReportItemIdsByKeyword keyword := .ok (if keyword = "pear" then [7] else [])
  getReportMetaByItemIds _ := .ok fun i => if i = 7 then some "pear" else none
  listUoms itemIds := .ok (itemIds.map plainUom)

/-- A request for all rows of an item. -/
def keywordPayload (keyword : String) : LedgerPayload where
  itemKeyword := some keyword
  timeFrom := some 0
  timeTo := some 1000

theorem export_eq_query_pear : ∃ list lines,
    queryLedger pearPms 0 pearTables (keywordPayload "pear") = .ok list ∧
      exportLedger 0 pearTables (keywordPayload "pear") = .ok lines ∧
      lines = list.items.map LedgerContract.LedgerRow.exportLine := by
  have hquery : queryLedger pearPms 0 pearTables (keywordPayload "pear") =
      .ok ⟨1, [ledgerItem pearTables ⟨fun _ => some "pear", fun i => some (plainUom i)⟩
        pearReceipt]⟩ := by decide +kernel
  have hexport : exportLedger 0 pearTables (keywordPayload "pear") =
      .ok [exportLine pearTables pearReceipt] := by decide +kernel
  refine ⟨_, _, hquery, hexport, (export_eq_query_iff rfl rfl hquery hexport).mpr (.inr ?_)⟩
  intro r hr _ ids hids
  obtain rfl : r = pearReceipt := List.mem_singleton.mp (List.mem_filter.mp hr).1
  have hpear : resolveLedgerItemKeywordItemIds pearPms (keywordPayload "pear") =
      .ok (some [7]) := by decide +kernel
  obtain rfl : [7] = ids := by simpa [hpear] using hids
  decide +kernel

/-- Nothing is found for apples, and the export writes the pears. -/
theorem not_export_eq_query_apple : ∃ list lines,
    queryLedger pearPms 0 pearTables (keywordPayload "apple") = .ok list ∧
      exportLedger 0 pearTables (keywordPayload "apple") = .ok lines ∧
      lines ≠ list.items.map LedgerContract.LedgerRow.exportLine := by
  refine ⟨⟨0, []⟩, [exportLine pearTables pearReceipt], by decide +kernel, by decide +kernel, ?_⟩
  exact List.cons_ne_nil _ _

end Wms

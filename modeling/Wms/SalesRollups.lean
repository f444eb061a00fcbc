import Wms.Finance.OrderSalesSource

/-!
# The rollups of the sales lines agree

Where the lines of an order have one day and one store, an order is counted on one day and in one
store only. The days of the period cover all lines, so the figures by day add up to those in
total. The figures by store do too, except where a store is both without a name and with an empty
one: then the join finds the lines of either for the orders of either.
-/

namespace Wms.Finance

open Foundation

/-- The lines of an order have one store and one day. -/
def SharedByOrder (lines : List SalesLine) : Prop :=
  ∀ f ∈ lines, ∀ g ∈ lines, f.orderId = g.orderId →
    f.platform = g.platform ∧ f.storeCode = g.storeCode ∧ f.storeName = g.storeName ∧
      f.orderDate = g.orderDate

/-- Of a store there is a line without a store name and one with an empty name. -/
def NullBesideEmpty (lines : List SalesLine) : Prop :=
  ∃ f ∈ lines, ∃ g ∈ lines, f.platform = g.platform ∧ f.storeCode = g.storeCode ∧
    f.storeName = none ∧ g.storeKey.name = "" ∧ g.storeName ≠ none

/-- The figures by day and those by store add up to the figures in total. -/
def OrderSalesRollups.Agree (r : OrderSalesRollups) : Prop :=
  r.summary.toFigures = Figures.total (r.daily.map OrderSalesDailyRow.toFigures) ∧
    r.summary.toFigures = Figures.total (r.byStore.map OrderSalesStoreRow.toFigures)

variable {κ : Type} [DecidableEq κ] {key : SalesLine → κ} {lines : List SalesLine} {k : κ}
  {params : OrderSalesParams} {average : ℤ → ℕ → ℤ}

/-! ## Figures group by group -/

/-- The figures of the orders and lines of one key. -/
def figuresAt (key : SalesLine → κ) (lines : List SalesLine) (k : κ) : Figures where
  orderCount := ((orderValues key lines).filter fun v => v.1 = k).length
  lineCount := (lines.filter fun f => key f = k).length
  qtySold := ((lines.filter fun f => key f = k).map SalesLine.qtySold).sum
  revenue := (((orderValues key lines).filter fun v => v.1 = k).map Prod.snd).sum

theorem exists_of_mem_orderValues {v : κ × ℤ} (h : v ∈ orderValues key lines) :
    ∃ f ∈ lines, key f = v.1 := by
  obtain ⟨g, hg, rfl⟩ := List.mem_map.mp h
  obtain ⟨⟨f, hf, hkey⟩, -⟩ := mem_groupBy.mp hg
  exact ⟨f, hf, congrArg Prod.fst hkey⟩

theorem exists_mem_orderValues (key : SalesLine → κ) {f : SalesLine} (hf : f ∈ lines) :
    ∃ v ∈ orderValues key lines, v.1 = key f := by
  have hgroup : ((key f, f.orderId), lines.filter fun g => (key g, g.orderId) = (key f, f.orderId)) ∈
      groupBy (fun f => (key f, f.orderId)) lines := mem_groupBy.mpr ⟨⟨f, hf, rfl⟩, rfl⟩
  exact ⟨_, List.mem_map_of_mem hgroup, rfl⟩

/-- Where an order has one key, its value is that of the summary. -/
theorem orderValues_perm (h : ∀ f ∈ lines, ∀ g ∈ lines, f.orderId = g.orderId → key f = key g) :
    ((orderValues key lines).map Prod.snd).Perm
      ((groupBy SalesLine.orderId lines).map fun g => orderValue g.2) := by
  have hgroups := (groupBy_pair h).map orderValue
  rw [List.map_map, List.map_map] at hgroups
  rw [orderValues, List.map_map]
  exact hgroups

/-- The figures of keys that cover all lines add up to those in total. -/
theorem total_figuresAt (h : ∀ f ∈ lines, ∀ g ∈ lines, f.orderId = g.orderId → key f = key g)
    {ks : List κ} (hnodup : ks.Nodup) (hcover : ∀ f ∈ lines, key f ∈ ks) :
    Figures.total (ks.map (figuresAt key lines)) = (summary average lines).toFigures := by
  have horders := orderValues_perm h
  have hcover' : ∀ v ∈ orderValues key lines, v.1 ∈ ks := by
    intro v hv
    obtain ⟨f, hf, hkey⟩ := exists_of_mem_orderValues hv
    rw [← hkey]
    exact hcover f hf
  have hcounts := sum_map_filter hnodup hcover' fun _ => 1
  have hrevenue := sum_map_filter hnodup hcover' Prod.snd
  have hlines := sum_map_filter hnodup hcover fun _ => 1
  have hqty := sum_map_filter hnodup hcover SalesLine.qtySold
  have hlength := horders.length_eq
  have hsum := horders.sum_eq
  simp only [List.length_map] at hlength
  simp only [List.map_const', List.sum_replicate, smul_eq_mul, mul_one] at hcounts hlines
  ext
  · simpa [Figures.total, figuresAt, summary, Function.comp_def, hlength] using hcounts
  · simpa [Figures.total, figuresAt, summary, Function.comp_def] using hlines
  · simpa [Figures.total, figuresAt, summary, Function.comp_def] using hqty
  · simpa [Figures.total, figuresAt, summary, Function.comp_def, hsum] using hrevenue

theorem Figures.total_perm {rows rows' : List Figures} (h : rows.Perm rows') :
    Figures.total rows = Figures.total rows' := by
  ext
  · exact (h.map _).sum_eq
  · exact (h.map _).sum_eq
  · exact (h.map _).sum_eq
  · exact (h.map _).sum_eq

/-! ## By day -/

theorem leftJoin_orderAgg : leftJoin (orderAgg key lines) (fun oa => oa.key = k) =
    [if ((orderValues key lines).filter fun v => v.1 = k) = [] then none
      else some ⟨k, (figuresAt key lines k).orderCount, (figuresAt key lines k).revenue⟩] := by
  rw [orderAgg, leftJoin_map, leftJoin_groupBy]
  split <;> rfl

theorem leftJoin_lineAgg : leftJoin (lineAgg key lines) (fun la => la.key = k) =
    [if (lines.filter fun f => key f = k) = [] then none
      else some ⟨k, (figuresAt key lines k).lineCount, (figuresAt key lines k).qtySold⟩] := by
  rw [lineAgg, leftJoin_map, leftJoin_groupBy]
  split <;> rfl

/-- A row for each day, with the figures of the day. -/
theorem daily_figures : (daily params lines).map OrderSalesDailyRow.toFigures =
    (Date.generateSeries params.fromDate params.toDate).map
      (figuresAt SalesLine.orderDate lines) := by
  have hday : ∀ day, (leftJoin (orderAgg SalesLine.orderDate lines) fun oa => oa.key = day).flatMap
      (fun oa => (leftJoin (lineAgg SalesLine.orderDate lines) fun la => la.key = day).map fun la =>
        (⟨⟨(oa.map OrderAgg.orderCount).getD 0, (la.map LineAgg.lineCount).getD 0,
          (la.map LineAgg.qtySold).getD 0, (oa.map OrderAgg.revenue).getD 0⟩, day⟩ :
            OrderSalesDailyRow)) =
      [⟨figuresAt SalesLine.orderDate lines day, day⟩] := by
    intro day
    rw [leftJoin_orderAgg, leftJoin_lineAgg]
    by_cases horders : ((orderValues SalesLine.orderDate lines).filter fun v => v.1 = day) = [] <;>
      by_cases hlines : (lines.filter fun f => f.orderDate = day) = [] <;>
        simp [figuresAt, horders, hlines]
  unfold daily
  simp only [hday]
  rw [← List.map_eq_flatMap, List.map_map]
  rfl

/-- By day the figures always add up to those in total. -/
theorem total_daily (h : SharedByOrder lines)
    (hperiod : ∀ f ∈ lines, params.fromDate ≤ f.orderDate ∧ f.orderDate ≤ params.toDate) :
    Figures.total ((daily params lines).map OrderSalesDailyRow.toFigures) =
      (summary average lines).toFigures := by
  rw [daily_figures]
  refine total_figuresAt (fun f hf g hg hsame => (h f hf g hg hsame).2.2.2)
    (Date.nodup_generateSeries _ _) fun f hf => ?_
  exact Date.mem_generateSeries.mpr (hperiod f hf)

/-! ## By store -/

/-- The rows of the stores before they are ordered. -/
def storeRows (lines : List SalesLine) : List OrderSalesStoreRow :=
  (orderAgg SalesLine.storeKey lines).flatMap fun oa =>
    (leftJoin (lineAgg SalesLine.storeKey lines) fun la => la.key.Joins oa.key).map fun la =>
      { store := oa.key
        orderCount := oa.orderCount
        lineCount := (la.map LineAgg.lineCount).getD 0
        qtySold := (la.map LineAgg.qtySold).getD 0
        revenue := oa.revenue }

theorem total_byStore : Figures.total ((byStore lines).map OrderSalesStoreRow.toFigures) =
    Figures.total ((storeRows lines).map OrderSalesStoreRow.toFigures) :=
  Figures.total_perm ((List.perm_insertionSort _ _).map _)

theorem mem_orderAgg {oa : OrderAgg κ} (h : oa ∈ orderAgg key lines) :
    (∃ f ∈ lines, key f = oa.key) ∧ oa = ⟨oa.key, (figuresAt key lines oa.key).orderCount,
      (figuresAt key lines oa.key).revenue⟩ := by
  obtain ⟨g, hg, rfl⟩ := List.mem_map.mp h
  obtain ⟨⟨v, hv, hkey⟩, hrows⟩ := mem_groupBy.mp hg
  obtain ⟨f, hf, hfkey⟩ := exists_of_mem_orderValues hv
  refine ⟨⟨f, hf, hfkey.trans hkey⟩, ?_⟩
  rw [hrows]
  rfl

/-- The lines of a key together. -/
def lineAggAt (key : SalesLine → κ) (lines : List SalesLine) (k : κ) : LineAgg κ where
  key := k
  lineCount := (figuresAt key lines k).lineCount
  qtySold := (figuresAt key lines k).qtySold

theorem mem_lineAgg {la : LineAgg κ} : la ∈ lineAgg key lines ↔
    (∃ f ∈ lines, key f = la.key) ∧ la = lineAggAt key lines la.key := by
  constructor
  · intro h
    obtain ⟨g, hg, rfl⟩ := List.mem_map.mp h
    obtain ⟨hkey, hrows⟩ := mem_groupBy.mp hg
    refine ⟨hkey, ?_⟩
    rw [hrows]
    rfl
  · rintro ⟨hkey, hla⟩
    rw [hla]
    exact List.mem_map.mpr ⟨(la.key, _), mem_groupBy.mpr ⟨hkey, rfl⟩, rfl⟩

/-- The keys of the orders are different and cover all lines. -/
theorem orderAgg_keys : ((orderAgg key lines).map OrderAgg.key).Nodup ∧
    ∀ f ∈ lines, key f ∈ (orderAgg key lines).map OrderAgg.key := by
  have hkeys : (orderAgg key lines).map OrderAgg.key =
      ((orderValues key lines).map Prod.fst).dedup := by
    rw [← groupBy_keys, orderAgg, List.map_map]
    rfl
  rw [hkeys]
  refine ⟨List.nodup_dedup _, fun f hf => ?_⟩
  obtain ⟨v, hv, hkey⟩ := exists_mem_orderValues key hf
  rw [List.mem_dedup, ← hkey]
  exact List.mem_map_of_mem hv

/-- Without an empty name beside a missing one the join compares the stores themselves. -/
theorem eq_of_joins (hne : ¬NullBesideEmpty lines) {f g : SalesLine} (hf : f ∈ lines)
    (hg : g ∈ lines) (h : f.storeKey.Joins g.storeKey) : f.storeKey = g.storeKey := by
  obtain ⟨hplatform, hcode, hname⟩ := h
  have hnames : f.storeName = g.storeName := by
    cases hfn : f.storeName with
    | none =>
      cases hgn : g.storeName with
      | none => rfl
      | some t =>
        have hempty : g.storeKey.name = "" := by
          rw [← hname]
          simp [StoreKey.name, SalesLine.storeKey, hfn]
        exact absurd ⟨f, hf, g, hg, hplatform, hcode, hfn, hempty, by simp [hgn]⟩ hne
    | some s =>
      cases hgn : g.storeName with
      | none =>
        have hempty : f.storeKey.name = "" := by
          rw [hname]
          simp [StoreKey.name, SalesLine.storeKey, hgn]
        exact absurd ⟨g, hg, f, hf, hplatform.symm, hcode.symm, hgn, hempty, by simp [hfn]⟩ hne
      | some t =>
        have htext : s.text = t.text := by
          simpa [StoreKey.name, SalesLine.storeKey, hfn, hgn] using hname
        rw [Option.some_inj, Varchar.mk.injEq]
        exact htext
  unfold SalesLine.storeKey
  rw [hnames]
  exact congrArg₂ (fun p c => StoreKey.mk p c g.storeName) hplatform hcode

/-- Without an empty name beside a missing one there is a row for each store. -/
theorem storeRows_figures (hne : ¬NullBesideEmpty lines) :
    (storeRows lines).map OrderSalesStoreRow.toFigures =
      ((orderAgg SalesLine.storeKey lines).map OrderAgg.key).map
        (figuresAt SalesLine.storeKey lines) := by
  unfold storeRows
  rw [List.map_flatMap, List.map_map, List.map_eq_flatMap]
  apply List.flatMap_congr
  intro oa hoa
  obtain ⟨⟨f, hf, hkey⟩, hfigures⟩ := mem_orderAgg hoa
  have hjoin : leftJoin (lineAgg SalesLine.storeKey lines) (fun la => la.key.Joins oa.key) =
      leftJoin (lineAgg SalesLine.storeKey lines) fun la => la.key = oa.key := by
    apply leftJoin_congr
    intro la hla
    obtain ⟨⟨g, hg, hgkey⟩, -⟩ := mem_lineAgg.mp hla
    rw [decide_eq_decide, ← hkey, ← hgkey]
    constructor
    · exact eq_of_joins hne hg hf
    · intro hsame
      rw [hsame]
      exact ⟨rfl, rfl, rfl⟩
  have hlines : (lines.filter fun g => g.storeKey = oa.key) ≠ [] :=
    List.ne_nil_of_mem (List.mem_filter.mpr ⟨hf, decide_eq_true hkey⟩)
  rw [hjoin, leftJoin_lineAgg, if_neg hlines]
  have hcount : oa.orderCount = (figuresAt SalesLine.storeKey lines oa.key).orderCount :=
    congrArg OrderAgg.orderCount hfigures
  have hrevenue : oa.revenue = (figuresAt SalesLine.storeKey lines oa.key).revenue :=
    congrArg OrderAgg.revenue hfigures
  simp [hcount, hrevenue]

theorem lineCount_pos (key : SalesLine → κ) {f : SalesLine} (hf : f ∈ lines) :
    0 < (figuresAt key lines (key f)).lineCount :=
  List.length_pos_of_mem (List.mem_filter.mpr ⟨hf, decide_eq_true rfl⟩)

/-- With an empty name beside a missing one, lines are counted twice. -/
theorem length_lt_of_nullBesideEmpty (h : NullBesideEmpty lines) :
    lines.length < ((storeRows lines).map fun row => row.lineCount).sum := by
  have hjoined : ((storeRows lines).map fun row => row.lineCount).sum =
      ((orderAgg SalesLine.storeKey lines).map fun oa =>
        (((lineAgg SalesLine.storeKey lines).filter fun la => la.key.Joins oa.key).map
          LineAgg.lineCount).sum).sum := by
    unfold storeRows
    rw [List.map_flatMap, List.flatMap_def, List.sum_flatten, List.map_map]
    congr 1
    apply List.map_congr_left
    intro oa _
    rw [← sum_leftJoin, Function.comp_apply, List.map_map]
    rfl
  have hlines : lines.length = ((orderAgg SalesLine.storeKey lines).map fun oa =>
      (figuresAt SalesLine.storeKey lines oa.key).lineCount).sum := by
    have hkeys : ((orderAgg SalesLine.storeKey lines).map OrderAgg.key).Nodup ∧
        ∀ f ∈ lines, f.storeKey ∈ (orderAgg SalesLine.storeKey lines).map OrderAgg.key :=
      orderAgg_keys
    have hsum := sum_map_filter hkeys.1 hkeys.2 fun _ => 1
    simp only [List.map_const', List.sum_replicate, smul_eq_mul, mul_one, List.map_map] at hsum
    exact hsum.symm
  -- the lines of a store are found for its orders
  have hown : ∀ oa ∈ orderAgg SalesLine.storeKey lines, lineAggAt SalesLine.storeKey lines oa.key ∈
      (lineAgg SalesLine.storeKey lines).filter fun la => la.key.Joins oa.key := by
    intro oa hoa
    exact List.mem_filter.mpr ⟨mem_lineAgg.mpr ⟨(mem_orderAgg hoa).1, rfl⟩,
      decide_eq_true ⟨rfl, rfl, rfl⟩⟩
  rw [hjoined, hlines]
  apply List.sum_lt_sum
  · intro oa hoa
    exact List.le_sum_of_mem (List.mem_map_of_mem (f := LineAgg.lineCount) (hown oa hoa))
  · -- for the store without a name, those of the other one are found as well
    obtain ⟨f, hf, g, hg, hplatform, hcode, hnone, hempty, hsome⟩ := h
    have hmem : f.storeKey ∈ (orderAgg SalesLine.storeKey lines).map OrderAgg.key :=
      orderAgg_keys.2 f hf
    obtain ⟨oa, hoa, hkey⟩ := List.mem_map.mp hmem
    have hother : lineAggAt SalesLine.storeKey lines g.storeKey ∈
        (lineAgg SalesLine.storeKey lines).filter fun la => la.key.Joins oa.key := by
      refine List.mem_filter.mpr ⟨mem_lineAgg.mpr ⟨⟨g, hg, rfl⟩, rfl⟩, decide_eq_true ?_⟩
      rw [hkey]
      refine ⟨hplatform.symm, hcode.symm, ?_⟩
      change g.storeKey.name = f.storeKey.name
      rw [hempty]
      simp [StoreKey.name, SalesLine.storeKey, hnone]
    have hne : lineAggAt SalesLine.storeKey lines g.storeKey ≠
        lineAggAt SalesLine.storeKey lines oa.key := by
      intro hsame
      have hnames := congrArg (fun la : LineAgg StoreKey => la.key.storeName) hsame
      simp only [lineAggAt, hkey] at hnames
      exact hsome (hnames.trans hnone)
    have hrest := (List.mem_erase_of_ne hne).mpr hother
    have hpos := lineCount_pos SalesLine.storeKey hg
    have hle := List.le_sum_of_mem (List.mem_map_of_mem (f := LineAgg.lineCount) hrest)
    refine ⟨oa, hoa, ?_⟩
    rw [← List.sum_map_erase LineAgg.lineCount (hown oa hoa)]
    exact Nat.lt_add_of_pos_right (hpos.trans_le hle)

/-- By store the figures add up to those in total unless an empty name is beside a missing one. -/
theorem total_byStore_iff (average : ℤ → ℕ → ℤ) (h : SharedByOrder lines) :
    (summary average lines).toFigures =
      Figures.total ((byStore lines).map OrderSalesStoreRow.toFigures) ↔ ¬NullBesideEmpty lines := by
  rw [total_byStore]
  constructor
  · intro htotal hboth
    have hlt := length_lt_of_nullBesideEmpty hboth
    have hcount := congrArg Figures.lineCount htotal
    simp only [summary, Figures.total, List.map_map] at hcount
    exact absurd hcount hlt.ne
  · intro hne
    rw [storeRows_figures hne]
    refine (total_figuresAt (fun f hf g hg hsame => ?_) orderAgg_keys.1 orderAgg_keys.2).symm
    obtain ⟨hplatform, hcode, hname, -⟩ := h f hf g hg hsame
    unfold SalesLine.storeKey
    rw [hplatform, hcode, hname]

/-- The rollups of a page agree unless, among the lines that the filter leaves, a store has a line
without a store name and one with an empty name. -/
theorem rollups_agree_iff {upper lower : String → String} {testStores : List PlatformTestStore}
    (h : SharedByOrder lines) :
    (fetch upper lower average testStores lines params).Agree ↔
      ¬NullBesideEmpty (filteredLines upper lower testStores params lines) := by
  have hshared : SharedByOrder (filteredLines upper lower testStores params lines) :=
    fun f hf g hg => h f (List.mem_of_mem_filter hf) g (List.mem_of_mem_filter hg)
  have hperiod : ∀ f ∈ filteredLines upper lower testStores params lines,
      params.fromDate ≤ f.orderDate ∧ f.orderDate ≤ params.toDate := by
    intro f hf
    exact (of_decide_eq_true (List.mem_filter.mp hf).2).1
  rw [← total_byStore_iff average hshared]
  constructor
  · exact fun hagree => hagree.2
  · exact fun hstores => ⟨(total_daily hshared hperiod).symm, hstores⟩

/-! ## A store without a name and with an empty one -/

/-- A line of one piece on the first of May, with the given order and store name. -/
def mayLine (orderId : ℕ) (storeName : Option (Varchar 256)) : SalesLine where
  orderId := orderId
  platform := .lit "PDD"
  storeId := 1
  storeCode := .lit "S1"
  storeName := storeName
  extOrderNo := .lit "E1"
  orderRef := ⟨"ORD:PDD:S1:E1", by decide⟩
  orderStatus := none
  orderCreatedAt := 0
  orderDate := ⟨2025, 5, 1, by decide⟩
  receiverProvince := none
  receiverCity := none
  receiverDistrict := none
  itemId := 7
  skuId := none
  title := none
  qtySold := 1
  unitPrice := none
  discountAmount := 0
  lineAmount := ⟨1000, by decide⟩
  orderAmount := some ⟨1000, by decide⟩
  payAmount := none
  sourceUpdatedAt := 0
  qty_nonneg := by decide

/-- All lines of May. -/
def may : OrderSalesParams where
  fromDate := ⟨2025, 5, 1, by decide⟩
  toDate := ⟨2025, 5, 31, by decide⟩
  platform := ""
  storeCode := ""
  orderNo := ""

/-- Two orders of one store, the first without a store name, the second with an empty one. Each
is found for the other one's row too. -/
theorem not_rollups_agree :
    ¬∀ (upper lower : String → String) (average : ℤ → ℕ → ℤ) (testStores : List PlatformTestStore)
      (lines : List SalesLine) (params : OrderSalesParams), SharedByOrder lines →
        (fetch upper lower average testStores lines params).Agree := by
  intro h
  have hshared : SharedByOrder [mayLine 1 none, mayLine 2 (some ⟨"", by decide⟩)] := by
    unfold SharedByOrder
    decide
  have hstores := (h upper lower (fun sum n => sum / n) [] _ may hshared).2
  have hcounts : ((fetch upper lower (fun sum n => sum / n) []
      [mayLine 1 none, mayLine 2 (some ⟨"", by decide⟩)] may).summary.orderCount = 2) ∧
      (Figures.total ((fetch upper lower (fun sum n => sum / n) []
        [mayLine 1 none, mayLine 2 (some ⟨"", by decide⟩)] may).byStore.map
          OrderSalesStoreRow.toFigures)).orderCount = 4 := by
    decide +kernel
  have horders := congrArg Figures.orderCount hstores
  rw [hcounts.1, hcounts.2] at horders
  cases horders

/-- With one name in both orders. -/
theorem rollups_agree_iff_may :
    (fetch upper lower (fun sum n => sum / n) [] [mayLine 1 none, mayLine 2 none] may).Agree ↔
      ¬NullBesideEmpty (filteredLines upper lower [] may [mayLine 1 none, mayLine 2 none]) := by
  apply rollups_agree_iff
  unfold SharedByOrder
  decide

end Wms.Finance

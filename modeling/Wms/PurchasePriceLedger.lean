import Wms.Finance.PurchasePrices

/-!
# The purchase price ledger and the orders it is computed from

Every trigger computes the ledger lines again whose purchase order lines are joined with the
row that the statement is about, and the columns that the triggers listen to are all that the
query reads. So the ledger follows every statement, also one that moves a line to another
order or an order to another warehouse.
-/

namespace Wms.Finance.PurchasePrices

open Foundation Materialised

/-- There is a ledger line for every line of a purchase order, computed from the rows that it
is joined with now, and no other. -/
structure Mirrors (dateOf : ℤ → Date) (t : PriceTables) : Prop where
  row_of_line : ∀ pol ∈ t.src.lines.rows, ∃ po ∈ t.src.orders.rows, po.id = pol.poId ∧
    ∃ wh ∈ t.src.warehouses.rows, wh.id = po.warehouseId ∧
      ∃ row, ledgerLine dateOf pol po wh = .ok row ∧ t.rows pol.id = some row
  line_of_row : ∀ i, (t.rows i).isSome → ∃ pol ∈ t.src.lines.rows, pol.id = i

variable {dateOf : ℤ → Date} {src src' : SourceTables} {t t' : PriceTables} {i : ℕ}
  {pol : PurchaseOrderLine} {po : PurchaseOrder} {wh : Warehouse} {u : PUnit}

/-! ## What the query selects -/

/-- The rows that a line is joined with are there. -/
theorem exists_joined (hpol : src.lines.find i = some pol) :
    ∃ po, src.orders.find pol.poId = some po ∧
      ∃ wh, src.warehouses.find po.warehouseId = some wh := by
  obtain ⟨po, hpo, horder⟩ := src.lines_fk pol (Table.find_eq_some.mp hpol).1
  obtain ⟨wh, hwh, hwarehouse⟩ := src.orders_fk po hpo
  exact ⟨po, Table.find_eq_some.mpr ⟨hpo, horder⟩, wh, Table.find_eq_some.mpr ⟨hwh, hwarehouse⟩⟩

theorem select_of_joined (hpol : src.lines.find i = some pol)
    (hpo : src.orders.find pol.poId = some po) (hwh : src.warehouses.find po.warehouseId = some wh) :
    selectLedgerLine dateOf src i = (ledgerLine dateOf pol po wh).map some := by
  simp only [selectLedgerLine, hpol, hpo, hwh]

theorem select_of_not_line (h : src.lines.find i = none) :
    selectLedgerLine dateOf src i = .ok none := by
  simp only [selectLedgerLine, h]

/-- A line that is there has its order and its warehouse, so a row is selected for it. -/
theorem select_ne_none (hpol : src.lines.find i = some pol) :
    selectLedgerLine dateOf src i ≠ .ok none := by
  obtain ⟨po, hpo, wh, hwh⟩ := exists_joined hpol
  rw [select_of_joined hpol hpo hwh]
  cases ledgerLine dateOf pol po wh with
  | error e => exact nofun
  | ok row => exact nofun

/-- The selection stays the same where the joined rows do. -/
theorem select_congr (hline : src'.lines.find i = src.lines.find i)
    (horder : ∀ pol po, src.lines.find i = some pol → src.orders.find pol.poId = some po →
      src'.orders.find pol.poId = some po)
    (hwarehouse : ∀ pol po wh, src.lines.find i = some pol → src.orders.find pol.poId = some po →
      src.warehouses.find po.warehouseId = some wh →
        src'.warehouses.find po.warehouseId = some wh) :
    selectLedgerLine dateOf src' i = selectLedgerLine dateOf src i := by
  cases hpol : src.lines.find i with
  | none => rw [select_of_not_line hpol, select_of_not_line (hline.trans hpol)]
  | some pol =>
    obtain ⟨po, hpo, wh, hwh⟩ := exists_joined hpol
    rw [select_of_joined hpol hpo hwh, select_of_joined (hline.trans hpol) (horder pol po hpol hpo)
      (hwarehouse pol po wh hpol hpo hwh)]

theorem UpToDate.mirrors (h : t.UpToDate (selectLedgerLine dateOf)) : Mirrors dateOf t where
  row_of_line pol hpol := by
    have hfind : t.src.lines.find pol.id = some pol := Table.find_eq_some.mpr ⟨hpol, rfl⟩
    obtain ⟨po, hpo, wh, hwh⟩ := exists_joined hfind
    have hselect := h pol.id
    rw [select_of_joined hfind hpo hwh] at hselect
    refine ⟨po, (Table.find_eq_some.mp hpo).1, (Table.find_eq_some.mp hpo).2, wh,
      (Table.find_eq_some.mp hwh).1, (Table.find_eq_some.mp hwh).2, ?_⟩
    cases hrow : ledgerLine dateOf pol po wh with
    | error e =>
      rw [hrow] at hselect
      cases hselect
    | ok row =>
      rw [hrow] at hselect
      exact ⟨row, rfl, (Except.ok.inj hselect).symm⟩
  line_of_row i hsome := by
    have hselect := h i
    cases hpol : t.src.lines.find i with
    | none =>
      rw [select_of_not_line hpol] at hselect
      rw [← Except.ok.inj hselect] at hsome
      cases hsome
    | some pol => exact ⟨pol, Table.find_eq_some.mp hpol⟩

/-! ## Which lines are refreshed -/

theorem mem_linesOf {poId : ℕ} :
    i ∈ src.linesOf poId ↔ ∃ pol, src.lines.find i = some pol ∧ pol.poId = poId := by
  unfold SourceTables.linesOf
  simp only [List.mem_map, List.mem_filter, decide_eq_true_eq, Table.find_eq_some]
  constructor
  · rintro ⟨pol, ⟨hpol, horder⟩, hid⟩
    exact ⟨pol, ⟨hpol, hid⟩, horder⟩
  · rintro ⟨pol, ⟨hpol, hid⟩, horder⟩
    exact ⟨pol, ⟨hpol, horder⟩, hid⟩

theorem mem_linesOfWarehouse {warehouseId : ℕ} :
    i ∈ src.linesOfWarehouse warehouseId ↔ ∃ pol po, src.lines.find i = some pol ∧
      src.orders.find pol.poId = some po ∧ po.warehouseId = warehouseId := by
  unfold SourceTables.linesOfWarehouse
  simp only [List.mem_map, List.mem_filter, Option.any_eq_true, decide_eq_true_eq]
  constructor
  · rintro ⟨pol, ⟨hpol, po, hpo, hwarehouse⟩, hid⟩
    exact ⟨pol, po, Table.find_eq_some.mpr ⟨hpol, hid⟩, hpo, hwarehouse⟩
  · rintro ⟨pol, po, hpol, hpo, hwarehouse⟩
    obtain ⟨hmem, hid⟩ := Table.find_eq_some.mp hpol
    exact ⟨pol, ⟨hmem, po, hpo, hwarehouse⟩, hid⟩

theorem trgLedgerPoRefresh_run_ok {poId : ℕ}
    (h : (trgLedgerPoRefresh dateOf poId).run t = .ok (u, t')) :
    Materialised.Refreshes (selectLedgerLine dateOf) (fun j => j ∈ t.src.linesOf poId) t t' := by
  unfold trgLedgerPoRefresh at h
  simp only [Tx.run_bind_ok, Tx.run_get_ok] at h
  obtain ⟨_, _, ⟨rfl, rfl⟩, h⟩ := h
  refine forM_refresh_run_ok (fun j hj => ?_) h
  obtain ⟨pol, hpol, -⟩ := mem_linesOf.mp hj
  exact select_ne_none hpol

theorem trgLedgerWarehouseRefresh_run_ok {warehouseId : ℕ}
    (h : (trgLedgerWarehouseRefresh dateOf warehouseId).run t = .ok (u, t')) :
    Materialised.Refreshes (selectLedgerLine dateOf)
      (fun j => j ∈ t.src.linesOfWarehouse warehouseId) t t' := by
  unfold trgLedgerWarehouseRefresh at h
  simp only [Tx.run_bind_ok, Tx.run_get_ok] at h
  obtain ⟨_, _, ⟨rfl, rfl⟩, h⟩ := h
  refine forM_refresh_run_ok (fun j hj => ?_) h
  obtain ⟨pol, po, hpol, -⟩ := mem_linesOfWarehouse.mp hj
  exact select_ne_none hpol

/-! ## What a statement changes -/

theorem withWarehouses_ok {warehouses : Table Warehouse (SameKey Warehouse.id)}
    (h : src.withWarehouses warehouses = .ok src') :
    src'.warehouses = warehouses ∧ src'.orders = src.orders ∧ src'.lines = src.lines := by
  unfold SourceTables.withWarehouses at h
  split at h
  · cases h
    exact ⟨rfl, rfl, rfl⟩
  · cases h

theorem withOrders_ok {orders : Table PurchaseOrder (SameKey PurchaseOrder.id)}
    (h : src.withOrders orders = .ok src') :
    src'.orders = orders ∧ src'.warehouses = src.warehouses ∧ src'.lines = src.lines := by
  unfold SourceTables.withOrders at h
  split at h
  · split at h
    · cases h
      exact ⟨rfl, rfl, rfl⟩
    · cases h
  · cases h

theorem withLines_ok {lines : Table PurchaseOrderLine (SameKey PurchaseOrderLine.id)}
    (h : src.withLines lines = .ok src') :
    src'.lines = lines ∧ src'.warehouses = src.warehouses ∧ src'.orders = src.orders := by
  unfold SourceTables.withLines at h
  split at h
  · cases h
    exact ⟨rfl, rfl, rfl⟩
  · cases h

/-- Warehouses may be written where the joined ones stay. -/
theorem select_withWarehouses {warehouses : Table Warehouse (SameKey Warehouse.id)}
    (h : src.withWarehouses warehouses = .ok src')
    (hwarehouse : ∀ pol po wh, src.lines.find i = some pol → src.orders.find pol.poId = some po →
      src.warehouses.find po.warehouseId = some wh → warehouses.find po.warehouseId = some wh) :
    selectLedgerLine dateOf src' i = selectLedgerLine dateOf src i := by
  obtain ⟨rfl, horders, hlines⟩ := withWarehouses_ok h
  refine select_congr (by rw [hlines]) (fun pol po _ hpo => ?_) hwarehouse
  rw [horders]
  exact hpo

/-- Orders may be written where the joined ones stay. -/
theorem select_withOrders {orders : Table PurchaseOrder (SameKey PurchaseOrder.id)}
    (h : src.withOrders orders = .ok src')
    (horder : ∀ pol po, src.lines.find i = some pol → src.orders.find pol.poId = some po →
      orders.find pol.poId = some po) :
    selectLedgerLine dateOf src' i = selectLedgerLine dateOf src i := by
  obtain ⟨rfl, hwarehouses, hlines⟩ := withOrders_ok h
  refine select_congr (by rw [hlines]) horder fun pol po wh _ _ hwh => ?_
  rw [hwarehouses]
  exact hwh

/-- Lines may be written where the line itself stays. -/
theorem select_withLines {lines : Table PurchaseOrderLine (SameKey PurchaseOrderLine.id)}
    (h : src.withLines lines = .ok src') (hline : lines.find i = src.lines.find i) :
    selectLedgerLine dateOf src' i = selectLedgerLine dateOf src i := by
  obtain ⟨rfl, hwarehouses, horders⟩ := withLines_ok h
  refine select_congr hline (fun pol po _ hpo => ?_) fun pol po wh _ _ hwh => ?_
  · rw [horders]
    exact hpo
  · rw [hwarehouses]
    exact hwh

/-! ## One statement -/

/-- A change that no trigger follows. -/
theorem upToDate_of_no_trigger (h : t.UpToDate (selectLedgerLine dateOf))
    (hrun : (pure ⟨⟩ : PriceTx PUnit).run { t with src := src } = .ok (u, t'))
    (hsame : ∀ i, selectLedgerLine dateOf src i = selectLedgerLine dateOf t.src i) :
    t'.UpToDate (selectLedgerLine dateOf) := by
  obtain ⟨-, rfl⟩ := Tx.run_pure_ok.mp hrun
  exact h.of_refreshes .refl fun i _ => hsame i

theorem updateWarehouse_upToDate {id : ℕ} {name : Option (Varchar 100)}
    (h : t.UpToDate (selectLedgerLine dateOf))
    (hchange : Statement.change t.src (.updateWarehouse id name) = .ok src)
    (hrun : ((Statement.updateWarehouse id name).triggers dateOf t.src).run { t with src := src } =
      .ok (u, t')) : t'.UpToDate (selectLedgerLine dateOf) := by
  simp only [Statement.change] at hchange
  simp only [Statement.triggers] at hrun
  cases hfind : t.src.warehouses.find id with
  | none =>
    rw [hfind] at hchange hrun
    cases hchange
    exact upToDate_of_no_trigger h hrun fun _ => rfl
  | some old =>
    rw [hfind] at hchange hrun
    obtain ⟨hold, rfl⟩ := Table.find_eq_some.mp hfind
    by_cases hname : name = none
    · -- the name is not set, so the row stays the same
      subst hname
      have hsame : t.src.warehouses.replace { old with name := (none : Option _).getD old.name } =
          t.src.warehouses := Table.replace_of_mem hold
      refine upToDate_of_no_trigger h hrun fun i => select_withWarehouses hchange ?_
      intro pol po wh _ _ hwh
      rw [hsame, hwh]
    · rw [if_pos ⟨rfl, hname⟩] at hrun
      obtain ⟨-, horders, hlines⟩ := withWarehouses_ok hchange
      refine h.of_refreshes (trgLedgerWarehouseRefresh_run_ok hrun) fun i hi => ?_
      apply select_withWarehouses hchange
      intro pol po wh hpol hpo hwh
      have hne : po.warehouseId ≠ old.id := by
        intro hsame
        apply hi
        rw [mem_linesOfWarehouse, hlines, horders]
        exact ⟨pol, po, hpol, hpo, hsame⟩
      rw [Table.find_replace_of_ne, hwh]
      exact hne

theorem updateOrder_upToDate {id : ℕ} {set : OrderSet} (h : t.UpToDate (selectLedgerLine dateOf))
    (hchange : Statement.change t.src (.updateOrder id set) = .ok src)
    (hrun : ((Statement.updateOrder id set).triggers dateOf t.src).run { t with src := src } =
      .ok (u, t')) : t'.UpToDate (selectLedgerLine dateOf) := by
  simp only [Statement.change] at hchange
  simp only [Statement.triggers] at hrun
  cases hfind : t.src.orders.find id with
  | none =>
    rw [hfind] at hchange hrun
    cases hchange
    exact upToDate_of_no_trigger h hrun fun _ => rfl
  | some old =>
    rw [hfind] at hchange hrun
    obtain ⟨hold, rfl⟩ := Table.find_eq_some.mp hfind
    by_cases hset : set = .none
    · -- no column of the ledger is set, so the row stays the same
      subst hset
      rw [if_neg (by simp)] at hrun
      have hsame : t.src.orders.replace (OrderSet.none.apply old) = t.src.orders :=
        Table.replace_of_mem hold
      refine upToDate_of_no_trigger h hrun fun i => select_withOrders hchange ?_
      intro pol po _ hpo
      rw [hsame, hpo]
    · rw [if_pos ⟨rfl, hset⟩] at hrun
      obtain ⟨-, -, hlines⟩ := withOrders_ok hchange
      refine h.of_refreshes (trgLedgerPoRefresh_run_ok hrun) fun i hi => ?_
      apply select_withOrders hchange
      intro pol po hpol hpo
      have hne : pol.poId ≠ old.id := by
        intro hsame
        apply hi
        rw [mem_linesOf, hlines]
        exact ⟨pol, hpol, hsame⟩
      rw [Table.find_replace_of_ne, hpo]
      exact hne

/-- The delete triggers of the lines that an order takes with it delete their rows. -/
theorem deleteOrder_upToDate {id : ℕ} (h : t.UpToDate (selectLedgerLine dateOf))
    (hrun : (forM (t.src.linesOf id) trgLedgerLineDelete).run
      { t with src := t.src.withoutOrder id } = .ok (u, t')) :
    t'.UpToDate (selectLedgerLine dateOf) := by
  have hline : ∀ i, (t.src.withoutOrder id).lines.find i =
      (t.src.lines.find i).filter fun pol => pol.poId ≠ id := fun i => Table.find_filter
  have hr : Materialised.Refreshes (selectLedgerLine dateOf) (fun j => j ∈ t.src.linesOf id)
      { t with src := t.src.withoutOrder id } t' := by
    refine forM_discard_run_ok (fun j hj => ?_) hrun
    obtain ⟨pol, hpol, horder⟩ := mem_linesOf.mp hj
    apply select_of_not_line
    rw [hline, hpol]
    simp [horder]
  refine h.of_refreshes hr fun i hi => ?_
  have hne : ∀ pol, t.src.lines.find i = some pol → pol.poId ≠ id := by
    intro pol hpol hsame
    exact hi (mem_linesOf.mpr ⟨pol, hpol, hsame⟩)
  refine select_congr ?_ (fun pol po hpol hpo => ?_) fun pol po wh _ _ hwh => hwh
  · rw [hline]
    cases hpol : t.src.lines.find i with
    | none => rfl
    | some pol => rw [Option.filter_some, if_pos (decide_eq_true (hne pol hpol))]
  · have horder := (Table.find_eq_some.mp hpo).2
    refine Table.find_filter.trans ?_
    rw [hpo, Option.filter_some, if_pos]
    rw [horder]
    exact decide_eq_true (hne pol hpol)

/-- An accepted statement leaves the ledger up to date. -/
theorem Statement.upToDate {s : Statement} (h : t.UpToDate (selectLedgerLine dateOf))
    (hrun : (s.exec dateOf).run t = .ok (u, t')) : t'.UpToDate (selectLedgerLine dateOf) := by
  obtain ⟨src, hchange, hrun⟩ := statement_run_ok.mp hrun
  cases s with
  | insertWarehouse new =>
    simp only [Statement.change] at hchange
    split at hchange
    · cases hchange
    · rename_i warehouses hinsert
      refine upToDate_of_no_trigger h hrun fun i => select_withWarehouses hchange ?_
      intro pol po wh _ _ hwh
      exact Table.find_insert_of_some hinsert hwh
  | updateWarehouse id name => exact updateWarehouse_upToDate h hchange hrun
  | deleteWarehouse id =>
    refine upToDate_of_no_trigger h hrun fun i => select_withWarehouses hchange ?_
    intro pol po wh _ hpo hwh
    obtain ⟨hwarehouses, horders, -⟩ := withWarehouses_ok hchange
    -- the order needs a warehouse, so its own is not the deleted one
    apply Table.find_filter_ne_of_mem hwh
    rw [← hwarehouses]
    refine src.orders_fk po ?_
    rw [horders]
    exact (Table.find_eq_some.mp hpo).1
  | insertOrder new =>
    simp only [Statement.change] at hchange
    split at hchange
    · cases hchange
    · rename_i orders hinsert
      refine upToDate_of_no_trigger h hrun fun i => select_withOrders hchange ?_
      intro pol po _ hpo
      exact Table.find_insert_of_some hinsert hpo
  | updateOrder id set => exact updateOrder_upToDate h hchange hrun
  | deleteOrder id =>
    cases hchange
    exact deleteOrder_upToDate h hrun
  | insertLine new =>
    simp only [Statement.change] at hchange
    split at hchange
    · cases hchange
    · rename_i lines hinsert
      have hnew : src.lines.find new.id = some new := by
        rw [(withLines_ok hchange).1, Table.find_insert hinsert, if_pos rfl]
      refine h.of_refreshes (refresh_run_ok (select_ne_none hnew) hrun) fun i hi => ?_
      apply select_withLines hchange
      rw [Table.find_insert hinsert, if_neg hi]
  | updateLine new =>
    simp only [Statement.triggers] at hrun
    cases hfind : t.src.lines.find new.id with
    | none =>
      rw [hfind] at hrun
      have hno := Table.find_eq_none.mp hfind
      refine upToDate_of_no_trigger h hrun fun i => select_withLines hchange ?_
      by_cases hi : i = new.id
      · rw [hi, hfind, Table.find_eq_none]
        intro pol hpol
        rcases Table.mem_replace.mp hpol with ⟨-, b, hb, hkey⟩ | ⟨-, hne⟩
        · exact absurd hkey (hno b hb)
        · exact hne
      · exact Table.find_replace_of_ne hi
    | some old =>
      rw [hfind, if_pos Option.isSome_some] at hrun
      have hnew : src.lines.find new.id = some new := by
        rw [(withLines_ok hchange).1]
        exact Table.find_replace ⟨old, Table.find_eq_some.mp hfind⟩
      refine h.of_refreshes (refresh_run_ok (select_ne_none hnew) hrun) fun i hi => ?_
      exact select_withLines hchange (Table.find_replace_of_ne hi)
  | deleteLine id =>
    simp only [Statement.triggers] at hrun
    cases hfind : t.src.lines.find id with
    | none =>
      rw [hfind] at hrun
      refine upToDate_of_no_trigger h hrun fun i => select_withLines hchange ?_
      rw [Table.find_filter_ne]
      split
      · rename_i hi
        rw [hi, hfind]
      · rfl
    | some old =>
      rw [hfind, if_pos Option.isSome_some] at hrun
      have hgone : src.lines.find id = none := by
        rw [(withLines_ok hchange).1, Table.find_filter_ne, if_pos rfl]
      refine h.of_refreshes (discard_run_ok (select_of_not_line hgone) hrun) fun i hi => ?_
      apply select_withLines hchange
      rw [Table.find_filter_ne, if_neg hi]

/-- From empty tables the ledger mirrors the purchase orders after every statement. -/
theorem ledger_mirrors (dateOf : ℤ → Date) (statements : List Statement) :
    Mirrors dateOf (Tx.attemptAll (Statement.exec dateOf) statements ⟨.empty, fun _ => none⟩) := by
  apply UpToDate.mirrors
  refine Tx.attemptAll_invariant (P := fun _ _ => True) ?_ ?_ (Tx.allAccepted_true _ _)
  · intro s t u t' h _ hrun
    exact Statement.upToDate h hrun
  · intro i
    rfl

end Wms.Finance.PurchasePrices

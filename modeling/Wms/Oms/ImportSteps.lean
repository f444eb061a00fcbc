import Wms.Oms.OrderImport

/-!
# What an import writes

An import writes the rows of an order that is new, a line and an audit row for each of its
components and an item for each of its articles. The rows of all other orders stay as they are.
-/

namespace Wms.Oms

open Foundation
open Procurement (checkIntegers)

/-! ## Sums over rows -/

/-- Rewriting the row with an identifier changes a sum by what it changes the row's term. -/
theorem sum_map_update {ρ : Type} {id : ρ → ℕ} {rows : List ρ} (hids : (rows.map id).Nodup)
    {old : ρ} (hold : old ∈ rows) (f : ρ → ρ) (w : ρ → ℤ) :
    ((rows.map fun r => if id r = id old then f r else r).map w).sum =
      (rows.map w).sum + (w (f old) - w old) := by
  induction rows with
  | nil => simp at hold
  | cons r rows ih =>
    obtain ⟨hr, hids⟩ := List.nodup_cons.mp hids
    rw [List.map_cons, List.map_cons, List.sum_cons, List.map_cons, List.sum_cons]
    rcases List.mem_cons.mp hold with rfl | hmem
    · have hsame : (rows.map fun r => if id r = id old then f r else r) = rows := by
        rw [List.map_congr_left (g := fun r => r)]
        · exact List.map_id' rows
        · intro a ha
          rw [if_neg]
          intro heq
          exact hr (List.mem_map.mpr ⟨a, ha, heq⟩)
      rw [hsame, if_pos rfl]
      omega
    · have hne : id r ≠ id old := by
        intro heq
        exact hr (List.mem_map.mpr ⟨old, hmem, heq.symm⟩)
      rw [if_neg hne, ih hids hmem]
      omega

/-! ## Accounts of an order -/

/-- The line was made of the component. -/
structure ComponentImport.Fills (l : ExecutionLine) (c : ComponentImport) : Prop where
  line_eq : c.orderLineId = l.id
  item_eq : c.resolvedItemId = l.itemId
  qty_eq : c.requiredQty.count = l.reqQty * 10 ^ 6

/-- What the items of an order sell of an article. -/
def soldQty (items : List ExecutionItem) (skuId : Varchar 128) : ℤ :=
  (items.map fun oi => if oi.skuId = some skuId then oi.qty.getD 0 else 0).sum

/-- What the components of an order ask for of an article, in millionths. -/
def askedQty (cs : List ComponentImport) (skuId : Varchar 128) : ℤ :=
  (cs.map fun c => if c.skuCodeSnapshot = skuId then c.requiredQty.count else 0).sum

/-- The item sells some of an article. -/
def ExecutionItem.Sells (oi : ExecutionItem) : Prop :=
  ∃ skuId qty, oi.skuId = some skuId ∧ oi.qty = some qty ∧ 0 < qty

/-- The lines and the items of an order are what its components ask for. -/
structure OrderAccounts (s : ImportTables) (orderId : ℕ) : Prop where
  lines : List.Forall₂ ComponentImport.Fills (s.linesOf orderId) (s.componentImportsOf orderId)
  sold : ∀ skuId, soldQty (s.itemsOf orderId) skuId * 10 ^ 6 =
    askedQty (s.componentImportsOf orderId) skuId
  items : ∀ oi ∈ s.itemsOf orderId, oi.Sells

/-- The audit row says what the component of the projection says. -/
structure ComponentProjection.ImportedAs (orderId : ℕ) (c : ComponentProjection)
    (i : ComponentImport) : Prop where
  order_eq : i.orderId = orderId
  ids_eq : i.readyComponentId = c.readyComponentId ∧ i.readyLineId = c.readyLineId ∧
    i.readyOrderId = c.readyOrderId
  item_eq : i.resolvedItemId = c.resolvedItemId ∧
    i.resolvedItemSkuCodeId = c.resolvedItemSkuCodeId ∧
    i.resolvedItemUomId = c.resolvedItemUomId ∧ i.skuCodeSnapshot = c.skuCodeSnapshot
  qty_eq : i.requiredQty = c.requiredQty

/-- All that is stored of an order. -/
structure OrderFile where
  orders : List ExecutionOrder
  addresses : List AddressRow
  fulfillments : List OrderFulfillment
  lines : List ExecutionLine
  items : List ExecutionItem
  components : List ComponentImport

/-- All that is stored of the order. -/
def ImportTables.fileOf (s : ImportTables) (orderId : ℕ) : OrderFile where
  orders := s.orders.rows.filter fun o => o.id = orderId
  addresses := s.addresses.rows.filter fun a => a.orderId = orderId
  fulfillments := s.fulfillments.rows.filter fun f => f.orderId = orderId
  lines := s.linesOf orderId
  items := s.itemsOf orderId
  components := s.componentImportsOf orderId

/-- Only what belongs to the one order is written, and not the order itself. -/
structure WritesOrder (orderId : ℕ) (s s' : ImportTables) : Prop where
  projection_eq : s'.projection = s.projection
  orders_eq : s'.orders = s.orders
  imports_eq : s'.imports = s.imports
  others : ∀ id, id ≠ orderId → s'.fileOf id = s.fileOf id

theorem WritesOrder.refl {orderId : ℕ} (s : ImportTables) : WritesOrder orderId s s :=
  ⟨rfl, rfl, rfl, fun _ _ => rfl⟩

theorem WritesOrder.trans {orderId : ℕ} {s s' s'' : ImportTables} (h : WritesOrder orderId s s')
    (h' : WritesOrder orderId s' s'') : WritesOrder orderId s s'' where
  projection_eq := h'.projection_eq.trans h.projection_eq
  orders_eq := h'.orders_eq.trans h.orders_eq
  imports_eq := h'.imports_eq.trans h.imports_eq
  others id hid := (h'.others id hid).trans (h.others id hid)

/-! ## Writing rows -/

section Rows

variable {s s' : ImportTables}

theorem insertOrder_eq_some {o : ExecutionOrder} (h : s.insertOrder o = some s') :
    s.orders.insert o = some s'.orders ∧ s'.projection = s.projection ∧ s'.lines = s.lines ∧
      s'.items = s.items ∧ s'.imports = s.imports ∧ s'.componentImports = s.componentImports ∧
        s'.addresses = s.addresses ∧ s'.fulfillments = s.fulfillments := by
  unfold ImportTables.insertOrder at h
  split at h
  · cases h
  · rename_i orders hinsert
    obtain rfl := Option.some.inj h
    exact ⟨hinsert, rfl, rfl, rfl, rfl, rfl, rfl, rfl⟩

theorem insertLine_ok {l : ExecutionLine} (h : s.insertLine l = .ok s') :
    s.lines.insert l = some s'.lines ∧ s'.items = s.items ∧
      s'.componentImports = s.componentImports ∧ WritesOrder l.orderId s s' := by
  unfold ImportTables.insertLine at h
  split at h
  · split at h
    · cases h
    · rename_i lines hinsert
      obtain rfl := Except.ok.inj h
      refine ⟨hinsert, rfl, rfl, rfl, rfl, rfl, fun id hid => ?_⟩
      have hrows := (Table.insert_eq_some.mp hinsert).2
      simp [ImportTables.fileOf, ImportTables.linesOf, ImportTables.itemsOf,
        ImportTables.componentImportsOf, hrows, hid.symm]
  · cases h

theorem insertItem_ok {oi : ExecutionItem} (h : s.insertItem oi = .ok s') :
    s.items.insert oi = some s'.items ∧ s'.lines = s.lines ∧
      s'.componentImports = s.componentImports ∧ WritesOrder oi.orderId s s' := by
  unfold ImportTables.insertItem at h
  split at h
  · split at h
    · cases h
    · rename_i items hinsert
      obtain rfl := Except.ok.inj h
      refine ⟨hinsert, rfl, rfl, rfl, rfl, rfl, fun id hid => ?_⟩
      have hrows := (Table.insert_eq_some.mp hinsert).2
      simp [ImportTables.fileOf, ImportTables.linesOf, ImportTables.itemsOf,
        ImportTables.componentImportsOf, hrows, hid.symm]
  · cases h

/-- An audit row is stored behind the others of its order. -/
theorem insertComponentImport_ok {i : ComponentImport}
    {componentImports : Table ComponentImport
      (Mirror.Clash ComponentImport.readyComponentId ComponentImport.orderLineId)}
    (h : s.componentImports.insert i = some componentImports) :
    ({ s with componentImports } : ImportTables).componentImportsOf i.orderId =
        s.componentImportsOf i.orderId ++ [i] ∧
      WritesOrder i.orderId s { s with componentImports } := by
  have hrows := (Table.insert_eq_some.mp h).2
  refine ⟨?_, rfl, rfl, rfl, fun id hid => ?_⟩
  · unfold ImportTables.componentImportsOf
    rw [hrows, List.filter_append]
    simp
  · simp [ImportTables.fileOf, ImportTables.linesOf, ImportTables.itemsOf,
      ImportTables.componentImportsOf, hrows, hid.symm]

/-- The item with more of its article. -/
def ExecutionItem.withTotals (qty : ℤ) (amount : Finance.Numeric 14) (oi : ExecutionItem) :
    ExecutionItem :=
  { oi with qty := some qty, amount := some amount }

theorem mapItems_rows (old : ExecutionItem) (qty : ℤ) (amount : Finance.Numeric 14) :
    (s.mapItems fun oi =>
        if oi.id = old.id then (some qty, some amount) else (oi.qty, oi.amount)).items.rows =
      s.items.rows.map fun oi => if oi.id = old.id then oi.withTotals qty amount else oi := by
  change s.items.rows.map _ = _
  apply List.map_congr_left
  intro oi _
  dsimp only
  split <;> rfl

theorem mapItems_itemsOf (old : ExecutionItem) (qty : ℤ) (amount : Finance.Numeric 14) (id : ℕ) :
    (s.mapItems fun oi =>
        if oi.id = old.id then (some qty, some amount) else (oi.qty, oi.amount)).itemsOf id =
      (s.itemsOf id).map fun oi => if oi.id = old.id then oi.withTotals qty amount else oi := by
  unfold ImportTables.itemsOf
  rw [mapItems_rows, List.filter_map]
  congr 1
  apply List.filter_congr
  intro oi _
  dsimp only [Function.comp]
  split <;> rfl

theorem items_ids_nodup (s : ImportTables) : (s.items.rows.map ExecutionItem.id).Nodup := by
  have hunique := s.items.unique
  rw [List.Nodup, List.pairwise_map]
  exact hunique.imp fun hne heq => hne (.inl heq)

theorem itemsOf_ids_nodup (s : ImportTables) (orderId : ℕ) :
    ((s.itemsOf orderId).map ExecutionItem.id).Nodup :=
  (items_ids_nodup s).sublist (List.filter_sublist.map _)

theorem mapItems_of_ne {old : ExecutionItem} (hold : old ∈ s.items.rows) (qty : ℤ)
    (amount : Finance.Numeric 14) {id : ℕ} (hid : id ≠ old.orderId) :
    (s.mapItems fun oi =>
        if oi.id = old.id then (some qty, some amount) else (oi.qty, oi.amount)).itemsOf id =
      s.itemsOf id := by
  rw [mapItems_itemsOf]
  have hsame : ∀ oi ∈ s.itemsOf id,
      (if oi.id = old.id then oi.withTotals qty amount else oi) = oi := by
    intro oi hoi
    obtain ⟨hrow, horder⟩ := List.mem_filter.mp hoi
    rw [if_neg]
    intro heq
    have hrows := List.inj_on_of_nodup_map (items_ids_nodup s) hrow hold heq
    subst hrows
    exact hid (of_decide_eq_true horder).symm
  rw [List.map_congr_left hsame]
  exact List.map_id' _

end Rows

/-! ## Importing a component -/

section Component

variable {s s' : ImportTables} {orderId : ℕ} {component : ComponentProjection} {qty : ℤ}

theorem executionItem_ok {id : ℕ} {row : ExecutionItem}
    (h : executionItem component orderId id qty = .ok row) :
    row.orderId = orderId ∧ row.skuId = some component.skuCodeSnapshot ∧ row.qty = some qty := by
  simp only [executionItem, except_bind_eq_ok] at h
  obtain ⟨_, -, _, -, _, -, _, -, h⟩ := h
  obtain rfl := Except.ok.inj h
  exact ⟨rfl, rfl, rfl⟩

theorem requiredQtyToInt_eq_some {value : Millionths} (h : requiredQtyToInt value = some qty) :
    value.count = qty * 10 ^ 6 ∧ 0 < qty := by
  unfold requiredQtyToInt at h
  split at h
  · cases h
  · split at h
    · cases h
    · obtain rfl := Option.some.inj h
      omega

/-- The order sells more of the component's article. -/
theorem insertOrderItem_run {u : Unit}
    (h : (insertOrderItemFromComponent orderId component qty).run s = .ok (u, s')) :
    s'.lines = s.lines ∧ s'.componentImports = s.componentImports ∧ WritesOrder orderId s s' ∧
      (∀ skuId, soldQty (s'.itemsOf orderId) skuId = soldQty (s.itemsOf orderId) skuId +
        if component.skuCodeSnapshot = skuId then qty else 0) ∧
      (0 < qty → (∀ oi ∈ s.itemsOf orderId, oi.Sells) → ∀ oi ∈ s'.itemsOf orderId, oi.Sells) := by
  obtain ⟨s₀, s₁, hget, h⟩ := Tx.run_bind_ok.mp h
  obtain ⟨rfl, rfl⟩ := Tx.run_get_ok.mp hget
  obtain ⟨row, s₂, hrow, h⟩ := Tx.run_bind_ok.mp h
  obtain ⟨hitem, rfl⟩ := Tx.run_ofExcept_ok.mp hrow
  obtain ⟨horder, hsku, hqty⟩ := executionItem_ok hitem
  split at h
  · -- no item sells the article yet
    obtain ⟨t, s₃, hinsert, h⟩ := Tx.run_bind_ok.mp h
    obtain ⟨hinserted, rfl⟩ := Tx.run_ofExcept_ok.mp hinsert
    obtain rfl := Tx.run_set_ok.mp h
    obtain ⟨hitems, hlines, hcomponents, hwrites⟩ := insertItem_ok hinserted
    rw [horder] at hwrites
    have hof : t.itemsOf orderId = s.itemsOf orderId ++ [row] := by
      unfold ImportTables.itemsOf
      rw [(Table.insert_eq_some.mp hitems).2, List.filter_append]
      simp [horder]
    refine ⟨hlines, hcomponents, hwrites, fun skuId => ?_, fun hpos hold oi hoi => ?_⟩
    · rw [hof]
      simp [soldQty, hsku, hqty]
    · rw [hof, List.mem_append, List.mem_singleton] at hoi
      rcases hoi with hoi | rfl
      · exact hold oi hoi
      · exact ⟨_, _, hsku, hqty, hpos⟩
  · -- the item that sells it gets more
    rename_i old hfind
    obtain ⟨v, s₃, hcheck, h⟩ := Tx.run_bind_ok.mp h
    obtain ⟨-, rfl⟩ := Tx.run_ofExcept_ok.mp hcheck
    obtain ⟨amount, s₄, hamount, h⟩ := Tx.run_bind_ok.mp h
    obtain ⟨-, rfl⟩ := Tx.run_ofExcept_ok.mp hamount
    obtain rfl := Tx.run_set_ok.mp h
    have hmem := List.mem_of_find?_eq_some hfind
    have hkey : old.orderId = orderId ∧ old.skuId = row.skuId := by
      simpa using List.find?_some hfind
    have hold : old ∈ s.itemsOf orderId := List.mem_filter.mpr ⟨hmem, decide_eq_true hkey.1⟩
    refine ⟨rfl, rfl, ⟨rfl, rfl, rfl, fun id hid => ?_⟩, fun skuId => ?_,
      fun hpos hsells oi hoi => ?_⟩
    · rw [← hkey.1] at hid
      unfold ImportTables.fileOf
      rw [mapItems_of_ne hmem (old.qty.getD 0 + qty) amount hid]
      rfl
    · unfold soldQty
      rw [mapItems_itemsOf, sum_map_update (itemsOf_ids_nodup s orderId) hold]
      have hold_sku : old.skuId = some component.skuCodeSnapshot := hkey.2.trans hsku
      simp only [ExecutionItem.withTotals, hold_sku, Option.some.injEq]
      split
      · simp
      · simp
    · rw [mapItems_itemsOf] at hoi
      obtain ⟨a, ha, rfl⟩ := List.mem_map.mp hoi
      split
      · obtain ⟨skuId, n, hskuId, hn, hnpos⟩ := hsells old hold
        obtain ⟨skuId', n', hskuId', hn', hnpos'⟩ := hsells a ha
        refine ⟨skuId', _, hskuId', rfl, ?_⟩
        rw [hn, Option.getD_some]
        omega
      · exact hsells a ha

/-- The accounts go on with a line that is made of a component, if what it asks for is sold. -/
theorem OrderAccounts.append {l : ExecutionLine} {i : ComponentImport}
    (h : OrderAccounts s orderId) (hfills : i.Fills l)
    (hlines : s'.linesOf orderId = s.linesOf orderId ++ [l])
    (haudits : s'.componentImportsOf orderId = s.componentImportsOf orderId ++ [i])
    (hsold : ∀ skuId, soldQty (s'.itemsOf orderId) skuId = soldQty (s.itemsOf orderId) skuId +
      if i.skuCodeSnapshot = skuId then l.reqQty else 0)
    (hitems : ∀ oi ∈ s'.itemsOf orderId, oi.Sells) : OrderAccounts s' orderId := by
  refine ⟨?_, fun skuId => ?_, hitems⟩
  · rw [hlines, haudits]
    exact List.rel_append h.lines (.cons hfills .nil)
  · have hasked : askedQty (s.componentImportsOf orderId ++ [i]) skuId =
        askedQty (s.componentImportsOf orderId) skuId +
          if i.skuCodeSnapshot = skuId then i.requiredQty.count else 0 := by
      simp [askedQty]
    rw [haudits, hasked, hsold skuId, add_mul, h.sold skuId, hfills.qty_eq]
    split
    · rfl
    · simp

/-- Importing a component adds its line and its audit row, and sells its article. -/
theorem importComponent_run {u : Unit}
    (h : (importComponent orderId component).run s = .ok (u, s')) :
    WritesOrder orderId s s' ∧ ∃ l i, s'.linesOf orderId = s.linesOf orderId ++ [l] ∧
      s'.componentImportsOf orderId = s.componentImportsOf orderId ++ [i] ∧
      i.Fills l ∧ component.ImportedAs orderId i ∧
      (OrderAccounts s orderId → OrderAccounts s' orderId) := by
  obtain ⟨qty, s₁, hqty, h⟩ := Tx.run_bind_ok.mp h
  obtain ⟨hquantity, rfl⟩ := Tx.run_demand_ok.mp hqty
  obtain ⟨v, s₂, hcheck, h⟩ := Tx.run_bind_ok.mp h
  obtain ⟨-, rfl⟩ := Tx.run_ofExcept_ok.mp hcheck
  obtain ⟨s₃, s₄, hget, h⟩ := Tx.run_bind_ok.mp h
  obtain ⟨rfl, rfl⟩ := Tx.run_get_ok.mp hget
  obtain ⟨s₅, s₆, hline, h⟩ := Tx.run_bind_ok.mp h
  obtain ⟨hinsertLine, rfl⟩ := Tx.run_ofExcept_ok.mp hline
  obtain ⟨v', s₇, hset, h⟩ := Tx.run_bind_ok.mp h
  obtain rfl := Tx.run_set_ok.mp hset
  obtain ⟨v'', s₈, hitem, h⟩ := Tx.run_bind_ok.mp h
  obtain ⟨hash, s₉, hhash, h⟩ := Tx.run_bind_ok.mp h
  obtain ⟨-, rfl⟩ := Tx.run_ofExcept_ok.mp hhash
  obtain ⟨s₁₀, s₁₁, hget, h⟩ := Tx.run_bind_ok.mp h
  obtain ⟨rfl, rfl⟩ := Tx.run_get_ok.mp hget
  obtain ⟨componentImports, s₁₂, hinsert, h⟩ := Tx.run_bind_ok.mp h
  obtain ⟨hinserted, rfl⟩ := Tx.run_demand_ok.mp hinsert
  obtain rfl := Tx.run_set_ok.mp h
  obtain ⟨hcount, hpos⟩ := requiredQtyToInt_eq_some hquantity
  obtain ⟨hlines, hitems₅, hcomponents₅, hwrites₅⟩ := insertLine_ok hinsertLine
  obtain ⟨hlines₈, hcomponents₈, hwrites₈, hsold, hsells⟩ := insertOrderItem_run hitem
  obtain ⟨haudits₉, hwrites₉⟩ := insertComponentImport_ok hinserted
  set line : ExecutionLine := ⟨nextId (s.lines.rows.map ExecutionLine.id), orderId,
    component.resolvedItemId, qty⟩ with hlineEq
  set audit : ComponentImport := {
    orderId
    sourceHash := hash
    readyComponentId := component.readyComponentId
    readyOrderId := component.readyOrderId
    readyLineId := component.readyLineId
    orderLineId := line.id
    resolvedItemId := component.resolvedItemId
    resolvedItemSkuCodeId := component.resolvedItemSkuCodeId
    resolvedItemUomId := component.resolvedItemUomId
    componentSkuCode := component.componentSkuCode
    skuCodeSnapshot := component.skuCodeSnapshot
    itemNameSnapshot := component.itemNameSnapshot
    uomSnapshot := component.uomSnapshot
    requiredQty := component.requiredQty
    required_pos := component.required_pos }
  set t : ImportTables := { s₈ with componentImports }
  have hlinesOf : t.linesOf orderId = s.linesOf orderId ++ [line] := by
    change s₈.lines.rows.filter _ = _
    rw [hlines₈, (Table.insert_eq_some.mp hlines).2, List.filter_append]
    simp [ImportTables.linesOf, hlineEq]
  have hauditsOf : t.componentImportsOf orderId = s.componentImportsOf orderId ++ [audit] := by
    refine haudits₉.trans ?_
    unfold ImportTables.componentImportsOf
    rw [hcomponents₈, hcomponents₅]
  have hitemsOf : s₅.itemsOf orderId = s.itemsOf orderId := by
    unfold ImportTables.itemsOf
    rw [hitems₅]
  rw [hitemsOf] at hsold hsells
  have hwrites : WritesOrder orderId s t :=
    WritesOrder.trans (WritesOrder.trans hwrites₅ hwrites₈) hwrites₉
  have hfills : audit.Fills line := ⟨rfl, rfl, hcount⟩
  exact ⟨hwrites, line, audit, hlinesOf, hauditsOf, hfills,
    ⟨rfl, ⟨rfl, rfl, rfl⟩, ⟨rfl, rfl, rfl, rfl⟩, rfl⟩,
    fun hold => hold.append hfills hlinesOf hauditsOf hsold (hsells hpos hold.items)⟩

end Component

/-- Importing the components of an order one after the other. -/
theorem importComponents_run {s s' : ImportTables} {orderId : ℕ}
    {components : List ComponentProjection} {u : Unit}
    (h : (components.forM (importComponent orderId)).run s = .ok (u, s')) :
    WritesOrder orderId s s' ∧ (∃ audits,
      s'.componentImportsOf orderId = s.componentImportsOf orderId ++ audits ∧
        List.Forall₂ (ComponentProjection.ImportedAs orderId) components audits) ∧
      (OrderAccounts s orderId → OrderAccounts s' orderId) := by
  induction components generalizing s with
  | nil =>
    obtain rfl := Tx.run_forM_nil_ok.mp h
    exact ⟨.refl s, ⟨[], by simp, .nil⟩, id⟩
  | cons component components ih =>
    obtain ⟨s₁, hfirst, hrest⟩ := Tx.run_forM_cons_ok.mp h
    obtain ⟨hwrites, l, audit, -, haudit, -, himported, haccounts⟩ := importComponent_run hfirst
    obtain ⟨hwrites', ⟨audits, haudits, hall⟩, haccounts'⟩ := ih hrest
    refine ⟨hwrites.trans hwrites', ⟨audit :: audits, ?_, .cons himported hall⟩,
      fun hold => haccounts' (haccounts hold)⟩
    rw [haudits, haudit]
    simp

/-! ## Importing an order -/

section Order

variable {env : ImportEnv} {s s' : ImportTables} {order : OrderProjection}

theorem ensureStore_run {storeId : ℕ}
    (h : (ensureStoreFromProjection order).run s = .ok (storeId, s')) :
    ∃ stores, s' = { s with stores } := by
  obtain ⟨platform, s₁, hplatform, h⟩ := Tx.run_bind_ok.mp h
  obtain ⟨-, rfl⟩ := Tx.run_ofExcept_ok.mp hplatform
  obtain ⟨storeName, s₂, hname, h⟩ := Tx.run_bind_ok.mp h
  obtain ⟨-, rfl⟩ := Tx.run_ofExcept_ok.mp hname
  obtain ⟨s₃, s₄, hget, h⟩ := Tx.run_bind_ok.mp h
  obtain ⟨rfl, rfl⟩ := Tx.run_get_ok.mp hget
  split at h
  · obtain ⟨u, s₅, hset, h⟩ := Tx.run_bind_ok.mp h
    obtain rfl := Tx.run_set_ok.mp hset
    obtain ⟨-, rfl⟩ := Tx.run_pure_ok.mp h
    exact ⟨_, rfl⟩
  · obtain ⟨stores, s₅, hinsert, h⟩ := Tx.run_bind_ok.mp h
    obtain ⟨-, rfl⟩ := Tx.run_demand_ok.mp hinsert
    obtain ⟨u, s₆, hset, h⟩ := Tx.run_bind_ok.mp h
    obtain rfl := Tx.run_set_ok.mp hset
    obtain ⟨-, rfl⟩ := Tx.run_pure_ok.mp h
    exact ⟨stores, rfl⟩

/-- The execution order has the number of the ready order. -/
structure ExecutionOrder.Numbered (order : OrderProjection) (o : ExecutionOrder) : Prop where
  platform_eq : o.platform.text = platformToWms order.platform.text
  store_eq : Varchar.store 64 order.storeCode.text = .ok o.storeCode
  no_eq : o.extOrderNo = order.platformOrderNo

theorem platformToWms_fits (platform : ReadyPlatform) {n : ℕ} (hn : 6 ≤ n) :
    Varchar.Verbatim n (platformToWms platform.text) := by
  have hlength : (platformToWms platform.text).length ≤ 6 := by cases platform <;> decide
  exact .inl (hlength.trans hn)

theorem executionOrder_ok {storeId id : ℕ} {o : ExecutionOrder}
    (h : executionOrder env order storeId id = .ok o) : o.id = id ∧ o.Numbered order := by
  simp only [executionOrder, except_bind_eq_ok] at h
  obtain ⟨platform, hplatform, storeCode, hstore, _, -, _, -, _, -, h⟩ := h
  obtain rfl := Except.ok.inj h
  exact ⟨rfl, (platformToWms_fits order.platform (by omega)).text_of_store hplatform, hstore, rfl⟩

/-- The condition of `_load_existing_order_conflicts`. -/
def ExecutionOrder.ConflictsWith (order : OrderProjection) (o : ExecutionOrder) : Prop :=
  upper o.platform.text = upper order.platform.text ∧ o.storeCode.text = order.storeCode.text ∧
    o.extOrderNo = order.platformOrderNo

theorem upper_platformToWms (platform : ReadyPlatform) :
    upper (platformToWms platform.text) = upper platform.text := by
  cases platform <;> decide

/-- An order is inserted, or one that conflicts is taken. -/
theorem insertExecutionOrder_run {storeId orderId : ℕ}
    (h : (insertExecutionOrder env order storeId).run s = .ok (orderId, s')) :
    (∃ o, s.insertOrder o = some s' ∧ o.id = orderId ∧
      orderId = nextId (s.orders.rows.map ExecutionOrder.id) ∧ o.Numbered order) ∨
    (s' = s ∧ ∃ o ∈ s.orders.rows, o.id = orderId ∧ o.ConflictsWith order) := by
  obtain ⟨s₁, s₂, hget, h⟩ := Tx.run_bind_ok.mp h
  obtain ⟨rfl, rfl⟩ := Tx.run_get_ok.mp hget
  obtain ⟨row, s₃, hrow, h⟩ := Tx.run_bind_ok.mp h
  obtain ⟨hexecution, rfl⟩ := Tx.run_ofExcept_ok.mp hrow
  obtain ⟨hid, hnumbered⟩ := executionOrder_ok hexecution
  split at h
  · rename_i t hinsert
    obtain ⟨u, s₄, hset, h⟩ := Tx.run_bind_ok.mp h
    obtain rfl := Tx.run_set_ok.mp hset
    obtain ⟨rfl, rfl⟩ := Tx.run_pure_ok.mp h
    exact .inl ⟨row, hinsert, rfl, hid, hnumbered⟩
  · obtain ⟨existing, s₄, hfind, h⟩ := Tx.run_bind_ok.mp h
    obtain ⟨hfound, rfl⟩ := Tx.run_demand_ok.mp hfind
    obtain ⟨rfl, rfl⟩ := Tx.run_pure_ok.mp h
    have hkey : upper existing.platform.text = upper row.platform.text ∧
        existing.storeCode.text = order.storeCode.text ∧
          existing.extOrderNo = order.platformOrderNo := by
      simpa using List.find?_some hfound
    rw [hnumbered.platform_eq, upper_platformToWms] at hkey
    exact .inr ⟨rfl, existing, List.mem_of_find?_eq_some hfound, rfl, hkey⟩

/-- A row that belongs to the order is the only one that is written. -/
structure WritesHead (orderId : ℕ) (s s' : ImportTables) : Prop extends
    WritesOrder orderId s s' where
  lines_eq : s'.lines = s.lines
  items_eq : s'.items = s.items
  components_eq : s'.componentImports = s.componentImports

theorem upsertExecutionOrderAddress_run {orderId : ℕ} {u : Unit}
    (h : (upsertExecutionOrderAddress orderId order).run s = .ok (u, s')) :
    WritesHead orderId s s' := by
  simp only [upsertExecutionOrderAddress, Tx.run_bind_ok, Tx.run_ofExcept_ok] at h
  obtain ⟨_, _, ⟨-, rfl⟩, _, _, ⟨-, rfl⟩, _, _, ⟨-, rfl⟩, _, _, ⟨-, rfl⟩, _, _, ⟨-, rfl⟩, _, _,
    ⟨-, rfl⟩, _, _, ⟨-, rfl⟩, h⟩ := h
  obtain rfl := Tx.run_modify_ok.mp h
  refine ⟨⟨rfl, rfl, rfl, fun id hid => ?_⟩, rfl, rfl, rfl⟩
  unfold ImportTables.fileOf
  congr 1
  dsimp only
  split
  · rename_i addresses hinsert
    rw [(Table.insert_eq_some.mp hinsert).2, List.filter_append]
    simp [hid.symm]
  · apply Table.filter_replace
    · intro a _ hkey
      rw [hkey]
      simp [hid.symm]
    · simp [hid.symm]

theorem insertPlaceholder_run {orderId : ℕ} {u : Unit}
    (h : (insertOrderFulfillmentPlaceholder orderId).run s = .ok (u, s')) :
    WritesHead orderId s s' := by
  obtain rfl := Tx.run_modify_ok.mp h
  refine ⟨⟨rfl, rfl, rfl, fun id hid => ?_⟩, rfl, rfl, rfl⟩
  unfold ImportTables.fileOf
  congr 1
  dsimp only
  cases hinsert : s.fulfillments.insert (placeholderRow orderId) with
  | none => rfl
  | some fulfillments =>
    rw [Option.getD_some, (Table.insert_eq_some.mp hinsert).2, List.filter_append]
    simp [placeholderRow, hid.symm]

/-- The row says from which ready order the order was imported, and with how many components. -/
structure OrderImport.Of (order : OrderProjection) (orderId componentCount : ℕ)
    (i : OrderImport) : Prop where
  ready_eq : i.readyOrderId = order.readyOrderId
  order_eq : i.orderId = orderId
  platform_eq : i.platform.text = platformToWms order.platform.text
  store_eq : i.storeCode = order.storeCode
  no_eq : i.platformOrderNo = order.platformOrderNo
  line_count : i.orderLineCount = componentCount
  component_count : i.componentCount = componentCount

theorem insertAudit_run {orderId componentCount : ℕ} {userId : Option ℕ} {u : Unit}
    (h : (insertOrderImportAudit orderId order componentCount userId).run s = .ok (u, s')) :
    ∃ i : OrderImport, s.imports.insert i = some s'.imports ∧
      i.Of order orderId componentCount ∧ s' = { s with imports := s'.imports } := by
  simp only [insertOrderImportAudit, Tx.run_bind_ok, Tx.run_ofExcept_ok] at h
  obtain ⟨platform, _, ⟨hplatform, rfl⟩, sourceHash, _, ⟨-, rfl⟩, h⟩ := h
  obtain ⟨s₁, s₂, hget, imports, s₃, hinsert, h⟩ := h
  obtain ⟨rfl, rfl⟩ := Tx.run_get_ok.mp hget
  obtain ⟨hinserted, rfl⟩ := Tx.run_demand_ok.mp hinsert
  obtain rfl := Tx.run_set_ok.mp h
  have htext := (platformToWms_fits order.platform (by omega)).text_of_store hplatform
  exact ⟨_, hinserted, ⟨rfl, rfl, htext, rfl, rfl, rfl, rfl⟩, rfl⟩

/-- An order is made of a ready order, and no other order is written. -/
structure Creates (order : OrderProjection) (components : List ComponentProjection)
    (orderId : ℕ) (s s' : ImportTables) : Prop where
  projection_eq : s'.projection = s.projection
  fresh : ∀ o ∈ s.orders.rows, o.id ≠ orderId
  orders : ∃ o, s'.orders.rows = s.orders.rows ++ [o] ∧ o.id = orderId ∧ o.Numbered order
  imports : ∃ i, s'.imports.rows = s.imports.rows ++ [i] ∧ i.Of order orderId components.length
  components : List.Forall₂ (ComponentProjection.ImportedAs orderId) components
    (s'.componentImportsOf orderId)
  accounts : OrderAccounts s' orderId
  others : ∀ id, id ≠ orderId → s'.fileOf id = s.fileOf id

/-- Nothing belongs to an order that is not there. -/
theorem childless {orderId : ℕ} (hfresh : ∀ o ∈ s.orders.rows, o.id ≠ orderId)
    (haudits : ∀ c ∈ s.componentImports.rows, ∃ o ∈ s.orders.rows, o.id = c.orderId) :
    s.linesOf orderId = [] ∧ s.itemsOf orderId = [] ∧ s.componentImportsOf orderId = [] := by
  have hnone : ∀ id, (∃ o ∈ s.orders.rows, o.id = id) → ¬decide (id = orderId) = true := by
    rintro id ⟨o, ho, rfl⟩ heq
    exact hfresh o ho (of_decide_eq_true heq)
  refine ⟨?_, ?_, ?_⟩
  · exact List.filter_eq_nil_iff.mpr fun l hl => hnone l.orderId (s.lines_fk l hl)
  · exact List.filter_eq_nil_iff.mpr fun oi hoi => hnone oi.orderId (s.items_fk oi hoi)
  · exact List.filter_eq_nil_iff.mpr fun c hc => hnone c.orderId (haudits c hc)

theorem OrderAccounts.of_childless {orderId : ℕ} (hlines : s.linesOf orderId = [])
    (hitems : s.itemsOf orderId = []) (haudits : s.componentImportsOf orderId = []) :
    OrderAccounts s orderId := by
  constructor
  · rw [hlines, haudits]
    exact .nil
  · intro skuId
    simp [hitems, haudits, soldQty, askedQty]
  · simp [hitems]

/-- An import that succeeds makes a new order, if each order that conflicts with it was imported
and audit rows have their orders. -/
theorem importOrder_run {userId : Option ℕ} {readyOrderId : String}
    {components : List ComponentProjection} {r : ImportResult}
    (hconflicts : ∀ o ∈ s.orders.rows, o.ConflictsWith order →
      ∃ i ∈ s.imports.rows, i.orderId = o.id)
    (haudits : ∀ c ∈ s.componentImports.rows, ∃ o ∈ s.orders.rows, o.id = c.orderId)
    (h : (importOrder env userId readyOrderId order components).run s = .ok (r, s')) :
    ∃ orderId, r = result readyOrderId .imported (some orderId) (some order) components.length
      components.length "imported_execution_order" ∧ Creates order components orderId s s' := by
  obtain ⟨storeId, s₁, hstore, h⟩ := Tx.run_bind_ok.mp h
  obtain ⟨stores, rfl⟩ := ensureStore_run hstore
  obtain ⟨orderId, s₂, horder, h⟩ := Tx.run_bind_ok.mp h
  obtain ⟨u₁, s₃, haddress, h⟩ := Tx.run_bind_ok.mp h
  obtain ⟨u₂, s₄, hplaceholder, h⟩ := Tx.run_bind_ok.mp h
  obtain ⟨u₃, s₅, haudit, h⟩ := Tx.run_bind_ok.mp h
  obtain ⟨u₄, s₆, hcomponents, h⟩ := Tx.run_bind_ok.mp h
  obtain ⟨rfl, rfl⟩ := Tx.run_pure_ok.mp h
  refine ⟨orderId, rfl, ?_⟩
  have hhead₃ := upsertExecutionOrderAddress_run haddress
  have hhead₄ := insertPlaceholder_run hplaceholder
  obtain ⟨i, himport, hof, hs₅⟩ := insertAudit_run haudit
  obtain ⟨hwrites₆, ⟨audits, haudited, hall⟩, haccounts⟩ := importComponents_run hcomponents
  have himports₄ : s₄.imports = s₂.imports := hhead₄.imports_eq.trans hhead₃.imports_eq
  obtain ⟨hnew, himports₅⟩ := Table.insert_eq_some.mp himport
  rw [himports₄] at hnew himports₅
  rcases insertExecutionOrder_run horder with ⟨o, hinsert, hid, hnext, hnumbered⟩ |
    ⟨rfl, o, ho, hid, hconflict⟩
  · obtain ⟨horders₂, hprojection₂, hlines₂, hitems₂, himports₂, hcomponents₂, haddresses₂,
      hfulfillments₂⟩ := insertOrder_eq_some hinsert
    have hrows := (Table.insert_eq_some.mp horders₂).2
    have hfresh : ∀ a ∈ s.orders.rows, a.id ≠ orderId := by
      intro a ha heq
      rw [hnext] at heq
      exact nextId_notMem _ (List.mem_map.mpr ⟨a, ha, heq⟩)
    have hfile₂ : ∀ id, id ≠ orderId → s₂.fileOf id = s.fileOf id := by
      intro id hne
      have hother : orderId ≠ id := hne.symm
      simp [ImportTables.fileOf, ImportTables.linesOf, ImportTables.itemsOf,
        ImportTables.componentImportsOf, hlines₂, hitems₂, hcomponents₂, haddresses₂,
        hfulfillments₂, hrows, hid, hother]
    have hfile₅ : ∀ id, s₅.fileOf id = s₄.fileOf id := by
      intro id
      rw [hs₅]
      rfl
    have hlines : s₅.lines = s.lines := by
      rw [hs₅]
      exact hhead₄.lines_eq.trans (hhead₃.lines_eq.trans hlines₂)
    have hitems : s₅.items = s.items := by
      rw [hs₅]
      exact hhead₄.items_eq.trans (hhead₃.items_eq.trans hitems₂)
    have hcomponents₅ : s₅.componentImports = s.componentImports := by
      rw [hs₅]
      exact hhead₄.components_eq.trans (hhead₃.components_eq.trans hcomponents₂)
    obtain ⟨hnoLines, hnoItems, hnoAudits⟩ := childless hfresh haudits
    unfold ImportTables.linesOf at hnoLines
    unfold ImportTables.itemsOf at hnoItems
    unfold ImportTables.componentImportsOf at hnoAudits
    rw [← hlines] at hnoLines
    rw [← hitems] at hnoItems
    rw [← hcomponents₅] at hnoAudits
    have hstart : OrderAccounts s₅ orderId := .of_childless hnoLines hnoItems hnoAudits
    have hprojection₅ : s₅.projection = s.projection := by
      rw [hs₅]
      exact hhead₄.projection_eq.trans (hhead₃.projection_eq.trans hprojection₂)
    have horders₅ : s₅.orders = s₂.orders := by
      rw [hs₅]
      exact hhead₄.orders_eq.trans hhead₃.orders_eq
    refine ⟨hwrites₆.projection_eq.trans hprojection₅, hfresh, ⟨o, ?_, hid, hnumbered⟩,
      ⟨i, ?_, hof⟩, ?_, haccounts hstart, fun id hne => ?_⟩
    · rw [hwrites₆.orders_eq, horders₅]
      exact hrows
    · rw [hwrites₆.imports_eq, himports₅, himports₂]
    · have hnone : s₅.componentImportsOf orderId = [] := hnoAudits
      rw [haudited, hnone]
      exact hall
    · rw [hwrites₆.others id hne, hfile₅, hhead₄.others id hne, hhead₃.others id hne,
        hfile₂ id hne]
  · -- the order that was taken was imported already
    obtain ⟨i', hi', horder'⟩ := hconflicts o ho hconflict
    exact absurd (.inr (.inl (horder'.trans (hid.trans hof.order_eq.symm)))) (hnew i' hi')

end Order

end Wms.Oms

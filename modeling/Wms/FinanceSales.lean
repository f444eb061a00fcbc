import Wms.Finance.OrderSales
import Wms.Foundation.Derived

/-!
# Sales lines and the orders they are computed from

The line of an item that has no amount of its own depends on how many items its order has,
but the triggers on items compute only the line of the item again that a statement is
about; and a statement that moves an address to another order computes the lines of the new
order only. Apart from these two the lines follow every statement.
-/

namespace Wms.Finance

open Foundation Derived

/-! ## Lines in step with their sources -/

/-- What is stored for an item, as the outcome of a computation. -/
def SalesTables.stored (t : SalesTables) (i : ℕ) : Except Err (Option SalesLine) := .ok (t.lines i)

/-- There is a line for every item that has an order, for no other, and it is the one that
would be computed now. -/
structure SalesTables.UpToDate (dateOf : ℤ → Date) (t : SalesTables) : Prop where
  line_iff : ∀ i, (t.lines i).isSome ↔
    ∃ oi ∈ t.src.items.rows, oi.id = i ∧ ∃ o ∈ t.src.orders.rows, o.id = oi.orderId
  line_eq : ∀ i line, t.lines i = some line → selectSalesLine dateOf t.src i = .ok (some line)

/-- Every line belongs to an item. -/
def SalesTables.NoOrphans (t : SalesTables) : Prop :=
  ∀ i, (t.lines i).isSome → ∃ oi ∈ t.src.items.rows, oi.id = i

variable {dateOf : ℤ → Date} {src src' : SourceTables} {t t' t'' : SalesTables} {i : ℕ}
  {oi : OrderItem} {o : Order} {line : SalesLine}

/-- Nothing is computed for an item that is not there. -/
theorem selectSalesLine_of_not_item (h : ∀ oi ∈ src.items.rows, oi.id ≠ i) :
    selectSalesLine dateOf src i = .ok none := by
  unfold selectSalesLine
  rw [Table.find_eq_none.mpr h]

theorem map_some_inj {x y : Except Err SalesLine} : x.map some = y.map some ↔ x = y := by
  refine ⟨fun h => ?_, fun h => by rw [h]⟩
  cases x <;> cases y <;> cases h <;> rfl

theorem map_some_eq_ok {x : Except Err SalesLine} (h : x.map some = .ok (some line)) :
    x = .ok line :=
  map_some_inj.mp h

/-- What is computed for an item that is there. -/
theorem selectSalesLine_of_item (hoi : oi ∈ src.items.rows) (ho : o ∈ src.orders.rows)
    (hid : o.id = oi.orderId) :
    selectSalesLine dateOf src oi.id =
      (salesLine dateOf o (src.stores.find o.storeId) (src.addressOf oi.orderId) oi
        (src.itemsOf oi.orderId).length).map some := by
  unfold selectSalesLine
  rw [Table.find_eq_some.mpr ⟨hoi, rfl⟩]
  dsimp only
  rw [Table.find_eq_some.mpr ⟨ho, hid⟩]
  dsimp only
  rw [hid]

/-- An item that is there has an order, so a line is computed for it. -/
theorem selectSalesLine_ne_none (hoi : oi ∈ src.items.rows) :
    selectSalesLine dateOf src oi.id ≠ .ok none := by
  obtain ⟨o, ho, hid⟩ := src.items_fk oi hoi
  rw [selectSalesLine_of_item hoi ho hid]
  intro h
  cases hline : salesLine dateOf o (src.stores.find o.storeId) (src.addressOf oi.orderId) oi
      (src.itemsOf oi.orderId).length with
  | error e =>
    rw [hline] at h
    cases h
  | ok line =>
    rw [hline] at h
    cases h

/-- Where a line is computed, its item is there. -/
theorem exists_item_of_select (h : selectSalesLine dateOf src i = .ok (some line)) :
    ∃ oi ∈ src.items.rows, oi.id = i := by
  by_contra hnone
  push Not at hnone
  rw [selectSalesLine_of_not_item hnone] at h
  cases h

/-- The lines are up to date exactly when the stored ones are the computed ones. -/
theorem upToDate_iff_inSync :
    t.UpToDate dateOf ↔ InSync (selectSalesLine dateOf) t.src t.stored := by
  constructor
  · intro h i
    unfold SalesTables.stored
    cases hline : t.lines i with
    | some line => exact h.line_eq i line hline
    | none =>
      refine selectSalesLine_of_not_item fun oi hoi hid => ?_
      have hsome := (h.line_iff i).mpr ⟨oi, hoi, hid, t.src.items_fk oi hoi⟩
      rw [hline] at hsome
      cases hsome
  · intro h
    refine ⟨fun i => ⟨fun hsome => ?_, ?_⟩, fun i line hline => ?_⟩
    · obtain ⟨line, hline⟩ := Option.isSome_iff_exists.mp hsome
      have hselect := h i
      unfold SalesTables.stored at hselect
      rw [hline] at hselect
      obtain ⟨oi, hoi, hid⟩ := exists_item_of_select hselect
      exact ⟨oi, hoi, hid, t.src.items_fk oi hoi⟩
    · rintro ⟨oi, hoi, rfl, -⟩
      have hselect := h oi.id
      cases hline : t.lines oi.id with
      | some line => rfl
      | none =>
        unfold SalesTables.stored at hselect
        rw [hline] at hselect
        exact absurd hselect (selectSalesLine_ne_none hoi)
    · rw [h i, SalesTables.stored, hline]

theorem SalesTables.UpToDate.noOrphans (h : t.UpToDate dateOf) : t.NoOrphans := by
  intro i hsome
  obtain ⟨oi, hoi, hid, -⟩ := (h.line_iff i).mp hsome
  exact ⟨oi, hoi, hid⟩

/-! ## What is refreshed -/

/-- The lines of some items were computed again from unchanged sources. -/
structure Refreshes (dateOf : ℤ → Date) (R : ℕ → Prop) (t t' : SalesTables) : Prop where
  src_eq : t'.src = t.src
  refreshed : Refreshed (selectSalesLine dateOf) R t.src t.stored t'.stored

section Refreshes

variable {R S : ℕ → Prop}

theorem Refreshes.refl : Refreshes dateOf (fun _ => False) t t := ⟨rfl, .refl⟩

theorem Refreshes.trans (h : Refreshes dateOf R t t') (h' : Refreshes dateOf S t' t'') :
    Refreshes dateOf (fun i => R i ∨ S i) t t'' where
  src_eq := h'.src_eq.trans h.src_eq
  refreshed := by
    have hsecond := h'.refreshed
    rw [h.src_eq] at hsecond
    exact h.refreshed.trans hsecond

theorem Refreshes.congr (h : Refreshes dateOf R t t') (hR : ∀ i, R i ↔ S i) :
    Refreshes dateOf S t t' := ⟨h.src_eq, h.refreshed.congr hR⟩

/-- Refreshing leaves no line without an item. -/
theorem Refreshes.noOrphans (h : Refreshes dateOf R t t') (hno : t.NoOrphans) : t'.NoOrphans := by
  intro i hsome
  obtain ⟨line, hline⟩ := Option.isSome_iff_exists.mp hsome
  rw [h.src_eq]
  by_cases hi : R i
  · have hfresh := h.refreshed.fresh i hi
    unfold SalesTables.stored at hfresh
    rw [hline] at hfresh
    exact exists_item_of_select hfresh
  · have hkept := h.refreshed.kept i hi
    unfold SalesTables.stored at hkept
    refine hno i ?_
    rw [← Except.ok.inj hkept]
    exact hsome

/-- A loop refreshes what its passes refresh, where these rely on something that refreshing
keeps. -/
theorem Refreshes.forM {α : Type} {f : α → SalesTx PUnit} {P : SalesTables → Prop}
    {R : α → ℕ → Prop} {xs : List α} {u : PUnit}
    (hP : ∀ {R : ℕ → Prop} {t t'}, Refreshes dateOf R t t' → P t → P t')
    (hf : ∀ x ∈ xs, ∀ t t', t.src = src → P t → (f x).run t = .ok (⟨⟩, t') →
      Refreshes dateOf (R x) t t')
    (hsrc : t.src = src) (ht : P t) (h : (forM xs f).run t = .ok (u, t')) :
    Refreshes dateOf (fun i => ∃ x ∈ xs, R x i) t t' := by
  induction xs generalizing t with
  | nil =>
    obtain rfl := Tx.run_forM_nil_ok.mp h
    exact Refreshes.refl.congr fun i => by simp
  | cons x xs ih =>
    obtain ⟨t₁, hx, hrest⟩ := Tx.run_forM_cons_ok.mp h
    have hfirst := hf x List.mem_cons_self t t₁ hsrc ht hx
    have hothers := ih (fun x' hx' => hf x' (List.mem_cons_of_mem x hx'))
      (hfirst.src_eq.trans hsrc) (hP hfirst ht) hrest
    exact (hfirst.trans hothers).congr fun i => by simp

theorem refreshOrderSalesLine_run_ok {u : PUnit} (hoi : oi ∈ t.src.items.rows)
    (h : (refreshOrderSalesLine dateOf oi.id).run t = .ok (u, t')) :
    Refreshes dateOf (fun i => oi.id = i) t t' := by
  unfold refreshOrderSalesLine at h
  simp only [Tx.run_bind_ok, Tx.run_get_ok, Tx.run_ofExcept_ok] at h
  obtain ⟨_, _, ⟨rfl, rfl⟩, row, _, ⟨hselect, rfl⟩, h⟩ := h
  cases row with
  | none => exact absurd hselect (selectSalesLine_ne_none hoi)
  | some line =>
    obtain rfl := Tx.run_set_ok.mp h
    refine ⟨rfl, ?_, ?_⟩
    · rintro i rfl
      rw [hselect]
      unfold SalesTables.stored
      dsimp only
      rw [Function.update_self]
    · intro i hi
      unfold SalesTables.stored
      dsimp only
      rw [Function.update_of_ne (Ne.symm hi)]

/-- Where every line has its item, there are no orphans to delete. -/
theorem deleteOrphanLines_run_ok {u : PUnit} {orderId : ℕ} (hno : t.NoOrphans)
    (h : (deleteOrphanLines orderId).run t = .ok (u, t')) : t' = t := by
  unfold deleteOrphanLines at h
  rw [← Tx.run_modify_ok.mp h]
  have hlines : (fun i => (t.lines i).filter fun line =>
      decide ¬(line.orderId = orderId ∧ (t.src.items.find i).isNone = true)) = t.lines := by
    funext i
    cases hline : t.lines i with
    | none => rfl
    | some line =>
      obtain ⟨oi, hoi, hid⟩ := hno i (by rw [hline]; rfl)
      rw [Option.filter_some, Table.find_eq_some.mpr ⟨hoi, hid⟩]
      simp
  rw [hlines]

/-- The items of an order. -/
def SourceTables.Item (src : SourceTables) (orderId i : ℕ) : Prop :=
  ∃ oi ∈ src.items.rows, oi.orderId = orderId ∧ oi.id = i

theorem refreshOrderSalesLinesForOrder_run_ok {u : PUnit} {orderId : ℕ} (hno : t.NoOrphans)
    (h : (refreshOrderSalesLinesForOrder dateOf orderId).run t = .ok (u, t')) :
    Refreshes dateOf (t.src.Item orderId) t t' := by
  unfold refreshOrderSalesLinesForOrder at h
  simp only [Tx.run_bind_ok, Tx.run_get_ok] at h
  obtain ⟨_, _, ⟨rfl, rfl⟩, _, t₁, hloop, horphans⟩ := h
  have hitems : Refreshes dateOf (fun i => ∃ oi ∈ t.src.itemsOf orderId, oi.id = i) t t₁ :=
    Refreshes.forM (P := SalesTables.NoOrphans) Refreshes.noOrphans
    (fun oi hoi t₁ t₂ hsrc _ hrun => by
      refine refreshOrderSalesLine_run_ok ?_ hrun
      rw [hsrc]
      exact List.mem_of_mem_filter hoi) rfl hno hloop
  rw [deleteOrphanLines_run_ok (hitems.noOrphans hno) horphans]
  refine hitems.congr fun i => ?_
  unfold SourceTables.itemsOf SourceTables.Item
  simp only [List.mem_filter, decide_eq_true_eq, and_assoc]

theorem trgOrderSalesStoreRefresh_run_ok {u : PUnit} {new : Store} (hno : t.NoOrphans)
    (h : (trgOrderSalesStoreRefresh dateOf new).run t = .ok (u, t')) :
    Refreshes dateOf (fun i => ∃ o ∈ t.src.orders.rows, o.storeId = new.id ∧ t.src.Item o.id i)
      t t' := by
  unfold trgOrderSalesStoreRefresh at h
  simp only [Tx.run_bind_ok, Tx.run_get_ok] at h
  obtain ⟨_, _, ⟨rfl, rfl⟩, hloop⟩ := h
  have horders : Refreshes dateOf (fun i => ∃ o ∈ t.src.orders.rows.filter
      fun o => o.storeId = new.id, t.src.Item o.id i) t t' :=
    Refreshes.forM (P := SalesTables.NoOrphans) Refreshes.noOrphans
    (fun o _ t₁ t₂ hsrc hno hrun => by
      have hitems := refreshOrderSalesLinesForOrder_run_ok hno hrun
      rwa [hsrc] at hitems) rfl hno hloop
  refine horders.congr fun i => ?_
  simp only [List.mem_filter, decide_eq_true_eq, and_assoc]

/-- Refreshing after every address of a list. -/
theorem forM_trgOrderSalesAddressRefresh_run_ok {u : PUnit} {rows : List OrderAddress}
    (hno : t.NoOrphans)
    (h : (forM rows (trgOrderSalesAddressRefresh dateOf)).run t = .ok (u, t')) :
    Refreshes dateOf (fun i => ∃ oa ∈ rows, t.src.Item oa.orderId i) t t' :=
  Refreshes.forM (P := SalesTables.NoOrphans) (R := fun (oa : OrderAddress) => t.src.Item oa.orderId)
    Refreshes.noOrphans (fun oa _ t₁ t₂ hsrc hno hrun => by
      have hitems := refreshOrderSalesLinesForOrder_run_ok hno hrun
      rwa [hsrc] at hitems) rfl hno h

/-- Where the item is gone, deleting its line is computing it again. -/
theorem trgOrderSalesLineDelete_run_ok {u : PUnit} (hgone : ∀ x ∈ t.src.items.rows, x.id ≠ oi.id)
    (h : (trgOrderSalesLineDelete oi).run t = .ok (u, t')) :
    Refreshes dateOf (fun i => oi.id = i) t t' := by
  obtain rfl := Tx.run_modify_ok.mp h
  refine ⟨rfl, ?_, ?_⟩
  · rintro i rfl
    rw [selectSalesLine_of_not_item hgone]
    unfold SalesTables.stored
    dsimp only
    rw [Function.update_self]
  · intro i hi
    unfold SalesTables.stored
    dsimp only
    rw [Function.update_of_ne (Ne.symm hi)]

end Refreshes

/-! ## What a line depends on -/

section Lines

variable {store : Option Store} {address : Option OrderAddress} {oa : OrderAddress} {n m : ℕ}

/-- The columns of a line that come from its order, its address and the number of items. -/
theorem salesLine_ok (h : salesLine dateOf o store address oi n = .ok line) :
    line.orderId = o.id ∧ line.lineAmount.cents = computedLineAmount o oi n ∧
      line.receiverProvince = address.bind OrderAddress.province ∧
      line.receiverCity = address.bind OrderAddress.city ∧
      line.receiverDistrict = address.bind OrderAddress.district ∧
      line.sourceUpdatedAt = sourceUpdatedAt o address := by
  unfold salesLine at h
  simp only [bind, Except.bind] at h
  split at h
  · cases h
  · rename_i lineAmount hamount
    split at h
    · cases h
    · split at h
      · cases h
        refine ⟨rfl, ?_, rfl, rfl, rfl, rfl⟩
        unfold Numeric.store at hamount
        split at hamount
        · cases hamount
          rfl
        · cases hamount
      · cases h

/-- The amount depends on the number of items exactly where there is no own amount and the
order has a value. -/
theorem computedLineAmount_eq_iff : computedLineAmount o oi m = computedLineAmount o oi n ↔
    (m = 1 ↔ n = 1) ∨ oi.ownAmount ≠ none ∨ o.value ≤ 0 := by
  unfold computedLineAmount
  cases hown : oi.ownAmount with
  | some amount => simp
  | none =>
    rw [Option.getD_none, Option.getD_none]
    by_cases hvalue : 0 < o.value
    · have hne : o.value ≠ 0 := by omega
      have hnle : ¬o.value ≤ 0 := by omega
      by_cases hm : m = 1 <;> by_cases hn : n = 1 <;> simp [hm, hn, hvalue, hne, hne.symm]
    · have hle : o.value ≤ 0 := by omega
      simp [hvalue, hle]

/-- So does the line. -/
theorem salesLine_count_iff (h : salesLine dateOf o store address oi n = .ok line) :
    salesLine dateOf o store address oi m = salesLine dateOf o store address oi n ↔
      (m = 1 ↔ n = 1) ∨ oi.ownAmount ≠ none ∨ o.value ≤ 0 := by
  rw [← computedLineAmount_eq_iff]
  constructor
  · intro heq
    rw [← (salesLine_ok h).2.1, ← (salesLine_ok (heq.trans h)).2.1]
  · intro heq
    unfold salesLine
    rw [heq]

/-- Something of the address is in the lines of the order: a name, or its time. -/
def OrderAddress.Shows (oa : OrderAddress) (o : Order) : Prop :=
  oa.province ≠ none ∨ oa.city ≠ none ∨ oa.district ≠ none ∨
    (oa.createdAt ≠ o.createdAt ∧ (o.updatedAt.getD o.createdAt < oa.createdAt ∨
      o.updatedAt.getD o.createdAt < o.createdAt))

theorem sourceUpdatedAt_eq_iff : sourceUpdatedAt o none = sourceUpdatedAt o (some oa) ↔
    ¬(oa.createdAt ≠ o.createdAt ∧ (o.updatedAt.getD o.createdAt < oa.createdAt ∨
      o.updatedAt.getD o.createdAt < o.createdAt)) := by
  unfold sourceUpdatedAt
  rw [Option.map_none, Option.getD_none, Option.map_some, Option.getD_some]
  omega

theorem orderId_of_select (hoi : oi ∈ src.items.rows)
    (h : selectSalesLine dateOf src oi.id = .ok (some line)) : line.orderId = oi.orderId := by
  obtain ⟨o, ho, hid⟩ := src.items_fk oi hoi
  rw [selectSalesLine_of_item hoi ho hid] at h
  rw [← hid]
  exact (salesLine_ok (map_some_eq_ok h)).1

/-- A line is the same without the address exactly when nothing of this is in it. -/
theorem salesLine_address_iff (h : salesLine dateOf o store (some oa) oi n = .ok line) :
    salesLine dateOf o store none oi n = salesLine dateOf o store (some oa) oi n ↔
      ¬oa.Shows o := by
  have hshows : ¬oa.Shows o ↔ oa.province = none ∧ oa.city = none ∧ oa.district = none ∧
      sourceUpdatedAt o none = sourceUpdatedAt o (some oa) := by
    unfold OrderAddress.Shows
    rw [sourceUpdatedAt_eq_iff, not_or, not_or, not_or, not_ne_iff, not_ne_iff, not_ne_iff]
  rw [hshows]
  constructor
  · intro heq
    obtain ⟨-, -, hprovince, hcity, hdistrict, htime⟩ := salesLine_ok h
    obtain ⟨-, -, hprovince', hcity', hdistrict', htime'⟩ := salesLine_ok (heq.trans h)
    exact ⟨hprovince.symm.trans hprovince', hcity.symm.trans hcity',
      hdistrict.symm.trans hdistrict', htime'.symm.trans htime⟩
  · rintro ⟨hprovince, hcity, hdistrict, htime⟩
    unfold salesLine
    rw [htime, Option.bind_some, Option.bind_some, Option.bind_some, hprovince, hcity, hdistrict]
    rfl

/-- The item is the only one of its order. -/
def SourceTables.Alone (src : SourceTables) (oi : OrderItem) : Prop :=
  ∀ x ∈ src.items.rows, x.orderId = oi.orderId → x.id = oi.id

theorem length_itemsOf_eq_one (hoi : oi ∈ src.items.rows) :
    (src.itemsOf oi.orderId).length = 1 ↔ src.Alone oi := by
  have hmem : ∀ x, x ∈ src.itemsOf oi.orderId ↔ x ∈ src.items.rows ∧ x.orderId = oi.orderId := by
    intro x
    unfold SourceTables.itemsOf
    rw [List.mem_filter, decide_eq_true_eq]
  have hunique : (src.itemsOf oi.orderId).Pairwise fun a b => ¬SameKey OrderItem.id a b :=
    src.items.unique.filter _
  have hself := (hmem oi).mpr ⟨hoi, rfl⟩
  have halone : src.Alone oi ↔ ∀ x ∈ src.itemsOf oi.orderId, x.id = oi.id := by
    simp only [hmem, and_imp]
    rfl
  rw [halone]
  generalize src.itemsOf oi.orderId = items at hunique hself ⊢
  constructor
  · intro hone x hx
    obtain ⟨a, rfl⟩ := List.length_eq_one_iff.mp hone
    rw [List.mem_singleton.mp hx, List.mem_singleton.mp hself]
  · intro hall
    match items, hunique with
    | [], _ => exact absurd hself List.not_mem_nil
    | [a], _ => rfl
    | a :: b :: rest, hunique =>
      have ha := hall a List.mem_cons_self
      have hb := hall b (List.mem_cons_of_mem _ List.mem_cons_self)
      exact absurd (ha.trans hb.symm) ((List.pairwise_cons.mp hunique).1 b List.mem_cons_self)

/-- What is computed for an item stays the same when its row does and its order has the same
line for it. -/
theorem selectSalesLine_congr (hitem : ∀ oi, oi.id = i → (oi ∈ src'.items.rows ↔ oi ∈ src.items.rows))
    (hline : ∀ oi ∈ src.items.rows, oi.id = i → ∀ o ∈ src.orders.rows, o.id = oi.orderId →
      ∃ o' ∈ src'.orders.rows, o'.id = oi.orderId ∧
        salesLine dateOf o' (src'.stores.find o'.storeId) (src'.addressOf oi.orderId) oi
            (src'.itemsOf oi.orderId).length =
          salesLine dateOf o (src.stores.find o.storeId) (src.addressOf oi.orderId) oi
            (src.itemsOf oi.orderId).length) :
    selectSalesLine dateOf src' i = selectSalesLine dateOf src i := by
  by_cases hoi : ∃ oi ∈ src.items.rows, oi.id = i
  · obtain ⟨oi, hoi, rfl⟩ := hoi
    obtain ⟨o, ho, hid⟩ := src.items_fk oi hoi
    obtain ⟨o', ho', hid', hsame⟩ := hline oi hoi rfl o ho hid
    rw [selectSalesLine_of_item hoi ho hid,
      selectSalesLine_of_item ((hitem oi rfl).mpr hoi) ho' hid', hsame]
  · push Not at hoi
    rw [selectSalesLine_of_not_item hoi, selectSalesLine_of_not_item fun oi hmem hid =>
      hoi oi ((hitem oi hid).mp hmem) hid]

end Lines

/-! ## Statements that fit -/

/-- Besides a certain item, the order has one item, which has no amount of its own, and the
order has a value. -/
def SourceTables.LoneFallback (src : SourceTables) (orderId i : ℕ) : Prop :=
  ∃ s ∈ src.items.rows, s.orderId = orderId ∧ s.id ≠ i ∧
    (∀ x ∈ src.items.rows, x.orderId = orderId → x.id = s.id ∨ x.id = i) ∧
    s.ownAmount = none ∧ ∃ o ∈ src.orders.rows, o.id = orderId ∧ 0 < o.value

/-- Something of the address is in a line. -/
def SourceTables.InLines (src : SourceTables) (oa : OrderAddress) : Prop :=
  ∃ o ∈ src.orders.rows, o.id = oa.orderId ∧ oa.Shows o ∧
    ∃ oi ∈ src.items.rows, oi.orderId = o.id

/-- An item comes to an order or leaves it only where no other item thereby becomes the only
one, or stops to be, and has its amount from the order; an address that is in a line stays
with its order. -/
def Statement.Fits : Statement → SalesTables → Prop
  | .insertItem new, t => ¬t.src.LoneFallback new.orderId new.id
  | .updateItem new, t => ∀ old ∈ t.src.items.rows, old.id = new.id →
      old.orderId = new.orderId ∨
        (¬t.src.LoneFallback old.orderId new.id ∧ ¬t.src.LoneFallback new.orderId new.id)
  | .deleteItem id, t => ∀ old ∈ t.src.items.rows, old.id = id →
      ¬t.src.LoneFallback old.orderId id
  | .updateAddress new, t => ∀ old ∈ t.src.addresses.rows, old.id = new.id →
      old.orderId = new.orderId ∨ ¬t.src.InLines old
  | _, _ => True

section Items

variable (horders : src'.orders = src.orders) (hstores : src'.stores = src.stores)
  (haddresses : src'.addresses = src.addresses)
  (hitems : ∀ x : OrderItem, x.id ≠ i → (x ∈ src'.items.rows ↔ x ∈ src.items.rows))

include hitems in
/-- Where one item comes, goes or changes its order, another one is the only item of its
order before and after unless the first is in this order just once. -/
theorem alone_iff_alone (hoi : oi.id ≠ i) : (src'.Alone oi ↔ src.Alone oi) ↔
    (∀ x ∈ src.items.rows, x.orderId = oi.orderId → x.id = oi.id ∨ x.id = i) →
      (src'.Item oi.orderId i ↔ src.Item oi.orderId i) := by
  have hbefore : src.Alone oi ↔
      (∀ x ∈ src.items.rows, x.orderId = oi.orderId → x.id = oi.id ∨ x.id = i) ∧
        ¬src.Item oi.orderId i := by
    constructor
    · intro h
      refine ⟨fun x hx hid => .inl (h x hx hid), ?_⟩
      rintro ⟨x, hx, hid, rfl⟩
      exact hoi (h x hx hid).symm
    · rintro ⟨h, hnot⟩ x hx hid
      exact (h x hx hid).resolve_right fun hi => hnot ⟨x, hx, hid, hi⟩
  have hafter : src'.Alone oi ↔
      (∀ x ∈ src.items.rows, x.orderId = oi.orderId → x.id = oi.id ∨ x.id = i) ∧
        ¬src'.Item oi.orderId i := by
    constructor
    · intro h
      refine ⟨fun x hx hid => ?_, ?_⟩
      · by_cases hi : x.id = i
        · exact .inr hi
        · exact .inl (h x ((hitems x hi).mpr hx) hid)
      · rintro ⟨x, hx, hid, rfl⟩
        exact hoi (h x hx hid).symm
    · rintro ⟨h, hnot⟩ x hx hid
      by_cases hi : x.id = i
      · exact absurd ⟨x, hx, hid, hi⟩ hnot
      · exact (h x ((hitems x hi).mp hx) hid).resolve_right hi
  rw [hbefore, hafter]
  tauto

include horders hstores haddresses hitems in
/-- Where one item comes, goes or changes its order, the lines of the others stay the same
exactly when it does so in no order whose other item has its amount from the order. -/
theorem select_others_iff (hsync : ∀ oi ∈ src.items.rows, ∃ line,
      selectSalesLine dateOf src oi.id = .ok (some line)) :
    (∀ j, j ≠ i → selectSalesLine dateOf src' j = selectSalesLine dateOf src j) ↔
      ∀ orderId, src.LoneFallback orderId i → (src'.Item orderId i ↔ src.Item orderId i) := by
  -- what is computed for another item depends on whether it is the only one
  have hother : ∀ oi ∈ src.items.rows, oi.id ≠ i → ∀ o ∈ src.orders.rows, o.id = oi.orderId →
      (selectSalesLine dateOf src' oi.id = selectSalesLine dateOf src oi.id ↔
        (src'.Alone oi ↔ src.Alone oi) ∨ oi.ownAmount ≠ none ∨ o.value ≤ 0) := by
    intro oi hoi hne o ho hid
    have hoi' := (hitems oi hne).mpr hoi
    have ho' : o ∈ src'.orders.rows := by
      rw [horders]
      exact ho
    have haddress : src'.addressOf oi.orderId = src.addressOf oi.orderId := by
      unfold SourceTables.addressOf
      rw [haddresses]
    obtain ⟨line, hline⟩ := hsync oi hoi
    rw [selectSalesLine_of_item hoi ho hid] at hline ⊢
    rw [selectSalesLine_of_item hoi' ho' hid, hstores, haddress, ← length_itemsOf_eq_one hoi,
      ← length_itemsOf_eq_one hoi', map_some_inj]
    exact salesLine_count_iff (map_some_eq_ok hline)
  constructor
  · rintro h orderId ⟨s, hs, rfl, hne, honly, hown, o, ho, hid, hvalue⟩
    refine (alone_iff_alone hitems hne).mp ?_ honly
    rcases (hother s hs hne o ho hid).mp (h s.id hne) with halone | hown' | hvalue'
    · exact halone
    · exact absurd hown hown'
    · omega
  · intro h j hj
    by_cases hoi : ∃ oi ∈ src.items.rows, oi.id = j
    · obtain ⟨oi, hoi, rfl⟩ := hoi
      obtain ⟨o, ho, hid⟩ := src.items_fk oi hoi
      refine (hother oi hoi hj o ho hid).mpr ?_
      by_cases hown : oi.ownAmount = none
      · by_cases hvalue : 0 < o.value
        · refine .inl ((alone_iff_alone hitems hj).mpr fun honly => ?_)
          exact h oi.orderId ⟨oi, hoi, rfl, hj, honly, hown, o, ho, hid, hvalue⟩
        · exact .inr (.inr (by omega))
      · exact .inr (.inl hown)
    · push Not at hoi
      rw [selectSalesLine_of_not_item hoi, selectSalesLine_of_not_item fun oi hmem hid => ?_]
      have hne : oi.id ≠ i := by
        rw [hid]
        exact hj
      exact hoi oi ((hitems oi hne).mp hmem) hid

end Items

/-! ## Statements -/

section Statements

variable {u : PUnit}

theorem writeSource_run_ok : (writeSource src).run t = .ok (u, t') ↔ { t with src := src } = t' :=
  Tx.run_modify_ok

/-- After a change of the sources and some refreshing the lines are up to date exactly when
the others did not change. -/
theorem SalesTables.UpToDate.iff_of_refreshes {R : ℕ → Prop} (h : t.UpToDate dateOf)
    (hr : Refreshes dateOf R { t with src := src } t') :
    t'.UpToDate dateOf ↔
      ∀ i, ¬R i → selectSalesLine dateOf src i = selectSalesLine dateOf t.src i := by
  rw [upToDate_iff_inSync, hr.src_eq]
  exact hr.refreshed.inSync_iff (upToDate_iff_inSync.mp h)

/-- What is computed for an item stays the same when the items do, and its order, the store
and the address of the order. -/
theorem selectSalesLine_frame (hitems : src'.items = src.items)
    (h : ∀ oi ∈ src.items.rows, oi.id = i → ∀ o ∈ src.orders.rows, o.id = oi.orderId →
      o ∈ src'.orders.rows ∧ src'.stores.find o.storeId = src.stores.find o.storeId ∧
        src'.addressOf o.id = src.addressOf o.id) :
    selectSalesLine dateOf src' i = selectSalesLine dateOf src i := by
  refine selectSalesLine_congr (fun oi _ => by rw [hitems]) fun oi hoi hid o ho horder => ?_
  obtain ⟨ho', hstore, haddress⟩ := h oi hoi hid o ho horder
  refine ⟨o, ho', horder, ?_⟩
  unfold SourceTables.itemsOf
  rw [hstore, ← horder, haddress, hitems]

theorem insertIntoStores_upToDate {new : Store} (h : t.UpToDate dateOf)
    (hrun : (insertIntoStores new).run t = .ok (u, t')) : t'.UpToDate dateOf := by
  unfold insertIntoStores at hrun
  simp only [Tx.run_bind_ok, Tx.run_get_ok] at hrun
  obtain ⟨_, _, ⟨rfl, rfl⟩, hrun⟩ := hrun
  split at hrun
  · exact (Tx.run_throw_ok.mp hrun).elim
  · rename_i stores hinsert
    obtain rfl := writeSource_run_ok.mp hrun
    refine (h.iff_of_refreshes .refl).mpr fun i _ => selectSalesLine_frame rfl ?_
    intro oi _ _ o ho _
    obtain ⟨s, hs, hid⟩ := t.src.orders_fk o ho
    have hne : o.storeId ≠ new.id := by
      rw [← hid]
      exact (Table.insert_eq_some.mp hinsert).1 s hs
    exact ⟨ho, by rw [Table.find_insert hinsert, if_neg hne], rfl⟩

theorem deleteFromStores_upToDate {id : ℕ} (h : t.UpToDate dateOf)
    (hrun : (deleteFromStores id).run t = .ok (u, t')) : t'.UpToDate dateOf := by
  unfold deleteFromStores at hrun
  simp only [Tx.run_bind_ok, Tx.run_get_ok] at hrun
  obtain ⟨_, _, ⟨rfl, rfl⟩, hrun⟩ := hrun
  split at hrun
  · rename_i hfk
    obtain rfl := writeSource_run_ok.mp hrun
    refine (h.iff_of_refreshes .refl).mpr fun i _ => selectSalesLine_frame rfl ?_
    intro oi _ _ o ho _
    obtain ⟨s, hs, hid⟩ := hfk o ho
    refine ⟨ho, ?_, rfl⟩
    rw [Table.find_eq_some.mpr ⟨hs, hid⟩,
      Table.find_eq_some.mpr ⟨List.mem_of_mem_filter hs, hid⟩]
  · exact (Tx.run_throw_ok.mp hrun).elim

theorem updateStores_upToDate {id : ℕ} {set : StoreSet} (h : t.UpToDate dateOf)
    (hrun : (updateStores dateOf id set).run t = .ok (u, t')) : t'.UpToDate dateOf := by
  unfold updateStores at hrun
  simp only [Tx.run_bind_ok, Tx.run_get_ok] at hrun
  obtain ⟨_, _, ⟨rfl, rfl⟩, hrun⟩ := hrun
  split at hrun
  · obtain ⟨-, rfl⟩ := Tx.run_pure_ok.mp hrun
    exact h
  · rename_i old hfind
    obtain ⟨hold, rfl⟩ := Table.find_eq_some.mp hfind
    split at hrun
    · simp only [Tx.run_bind_ok, writeSource_run_ok] at hrun
      obtain ⟨_, _, rfl, hrun⟩ := hrun
      have hsame : ∀ o ∈ t.src.orders.rows, o.storeId ≠ old.id →
          (t.src.stores.replace (set.apply old)).find o.storeId = t.src.stores.find o.storeId :=
        fun o _ hne => Table.find_replace_of_ne hne
      split at hrun
      · have hr := trgOrderSalesStoreRefresh_run_ok (by exact h.noOrphans) hrun
        refine (h.iff_of_refreshes hr).mpr fun i hi => selectSalesLine_frame rfl ?_
        intro oi hoi hid o ho horder
        refine ⟨ho, hsame o ho fun hstore => hi ?_, rfl⟩
        exact ⟨o, ho, hstore, oi, hoi, horder.symm, hid⟩
      · -- no column of the lines is set
        rename_i hset
        obtain ⟨-, rfl⟩ := Tx.run_pure_ok.mp hrun
        have happly : set.apply old = old := by
          rw [not_not.mp hset]
          rfl
        refine (h.iff_of_refreshes .refl).mpr fun i _ => selectSalesLine_frame rfl ?_
        intro oi _ _ o ho _
        refine ⟨ho, ?_, rfl⟩
        by_cases hstore : o.storeId = old.id
        · rw [hstore, hfind]
          change (t.src.stores.replace (set.apply old)).find old.id = some old
          rw [happly]
          exact Table.find_replace ⟨old, hold, rfl⟩
        · exact hsame o ho hstore
    · exact (Tx.run_throw_ok.mp hrun).elim

theorem insertIntoOrders_upToDate {new : Order} (h : t.UpToDate dateOf)
    (hrun : (insertIntoOrders new).run t = .ok (u, t')) : t'.UpToDate dateOf := by
  unfold insertIntoOrders at hrun
  simp only [Tx.run_bind_ok, Tx.run_get_ok] at hrun
  obtain ⟨_, _, ⟨rfl, rfl⟩, hrun⟩ := hrun
  split at hrun
  · exact (Tx.run_throw_ok.mp hrun).elim
  · rename_i orders hinsert
    split at hrun
    · obtain rfl := writeSource_run_ok.mp hrun
      refine (h.iff_of_refreshes .refl).mpr fun i _ => selectSalesLine_frame rfl ?_
      intro oi _ _ o ho _
      exact ⟨Table.mem_of_insert hinsert ho, rfl, rfl⟩
    · exact (Tx.run_throw_ok.mp hrun).elim

theorem updateOrders_upToDate {id : ℕ} {set : OrderSet} (h : t.UpToDate dateOf)
    (hrun : (updateOrders dateOf id set).run t = .ok (u, t')) : t'.UpToDate dateOf := by
  unfold updateOrders at hrun
  simp only [Tx.run_bind_ok, Tx.run_get_ok] at hrun
  obtain ⟨_, _, ⟨rfl, rfl⟩, hrun⟩ := hrun
  split at hrun
  · obtain ⟨-, rfl⟩ := Tx.run_pure_ok.mp hrun
    exact h
  · rename_i old hfind
    obtain ⟨hold, rfl⟩ := Table.find_eq_some.mp hfind
    split at hrun
    · split at hrun
      · simp only [Tx.run_bind_ok, writeSource_run_ok] at hrun
        obtain ⟨_, _, rfl, hrun⟩ := hrun
        split at hrun
        · have hr := refreshOrderSalesLinesForOrder_run_ok (by exact h.noOrphans) hrun
          refine (h.iff_of_refreshes hr).mpr fun i hi => selectSalesLine_frame rfl ?_
          intro oi hoi hid o ho horder
          refine ⟨Table.mem_replace.mpr (.inr ⟨ho, fun hsame => hi ?_⟩), rfl, rfl⟩
          exact ⟨oi, hoi, horder.symm.trans hsame, hid⟩
        · -- no column of the lines is set
          rename_i hset
          obtain ⟨-, rfl⟩ := Tx.run_pure_ok.mp hrun
          have happly : set.apply old = old := by
            rw [not_not.mp hset]
            rfl
          refine (h.iff_of_refreshes .refl).mpr fun i _ => selectSalesLine_frame rfl ?_
          intro oi _ _ o ho _
          refine ⟨Table.mem_replace.mpr ?_, rfl, rfl⟩
          rw [happly]
          by_cases hsame : o.id = old.id
          · have heq := Table.find_eq_some.mpr ⟨ho, hsame⟩
            rw [hfind] at heq
            exact .inl ⟨(Option.some.inj heq).symm, old, hold, rfl⟩
          · exact .inr ⟨ho, hsame⟩
      · exact (Tx.run_throw_ok.mp hrun).elim
    · exact (Tx.run_throw_ok.mp hrun).elim

/-- A line is computed for every item. -/
theorem SalesTables.UpToDate.exists_line (h : t.UpToDate dateOf) (hoi : oi ∈ t.src.items.rows) :
    ∃ line, selectSalesLine dateOf t.src oi.id = .ok (some line) := by
  have hselect := upToDate_iff_inSync.mp h oi.id
  cases hline : t.lines oi.id with
  | some line => exact ⟨line, h.line_eq oi.id line hline⟩
  | none =>
    unfold SalesTables.stored at hselect
    rw [hline] at hselect
    exact absurd hselect (selectSalesLine_ne_none hoi)

/-- After a change to one item whose line alone was computed again, the lines are up to date
exactly when the item comes to, or leaves, no order whose other item has its amount from
the order. -/
theorem SalesTables.UpToDate.item_iff (h : t.UpToDate dateOf)
    (hr : Refreshes dateOf (fun j => i = j) { t with src := src } t')
    (horders : src.orders = t.src.orders) (hstores : src.stores = t.src.stores)
    (haddresses : src.addresses = t.src.addresses)
    (hitems : ∀ x : OrderItem, x.id ≠ i → (x ∈ src.items.rows ↔ x ∈ t.src.items.rows)) :
    t'.UpToDate dateOf ↔
      ∀ orderId, t.src.LoneFallback orderId i → (src.Item orderId i ↔ t.src.Item orderId i) := by
  rw [h.iff_of_refreshes hr,
    ← select_others_iff horders hstores haddresses hitems fun oi hoi => h.exists_line hoi]
  exact forall_congr' fun j => by rw [ne_comm]

theorem insertIntoOrderItems_upToDate_iff {new : OrderItem} (h : t.UpToDate dateOf)
    (hrun : (insertIntoOrderItems dateOf new).run t = .ok (u, t')) :
    t'.UpToDate dateOf ↔ ¬t.src.LoneFallback new.orderId new.id := by
  unfold insertIntoOrderItems at hrun
  simp only [Tx.run_bind_ok, Tx.run_get_ok] at hrun
  obtain ⟨_, _, ⟨rfl, rfl⟩, hrun⟩ := hrun
  split at hrun
  · exact (Tx.run_throw_ok.mp hrun).elim
  · rename_i items hinsert
    obtain ⟨hnew, hrows⟩ := Table.insert_eq_some.mp hinsert
    split at hrun
    · simp only [Tx.run_bind_ok, writeSource_run_ok] at hrun
      obtain ⟨_, _, rfl, hrun⟩ := hrun
      have hmem : ∀ x, x ∈ items.rows ↔ x ∈ t.src.items.rows ∨ x = new := by
        intro x
        rw [hrows, List.mem_append, List.mem_singleton]
      have hr := refreshOrderSalesLine_run_ok ((hmem new).mpr (.inr rfl)) hrun
      rw [h.item_iff hr rfl rfl rfl fun x hx => ?_]
      · have hbefore : ∀ orderId, ¬t.src.Item orderId new.id := by
          rintro orderId ⟨x, hx, -, hid⟩
          exact hnew x hx hid
        constructor
        · intro hall hlone
          exact hbefore _ ((hall _ hlone).mp ⟨new, (hmem new).mpr (.inr rfl), rfl, rfl⟩)
        · rintro hfits orderId hlone
          refine iff_of_false ?_ (hbefore orderId)
          rintro ⟨x, hx, rfl, hid⟩
          rcases (hmem x).mp hx with hold | rfl
          · exact hnew x hold hid
          · exact hfits hlone
      · change x ∈ items.rows ↔ _
        rw [hmem, or_iff_left]
        rintro rfl
        exact hx rfl
    · exact (Tx.run_throw_ok.mp hrun).elim

theorem deleteFromOrderItems_upToDate_iff {id : ℕ} (h : t.UpToDate dateOf)
    (hrun : (deleteFromOrderItems id).run t = .ok (u, t')) :
    t'.UpToDate dateOf ↔
      ∀ old ∈ t.src.items.rows, old.id = id → ¬t.src.LoneFallback old.orderId id := by
  unfold deleteFromOrderItems at hrun
  simp only [Tx.run_bind_ok, Tx.run_get_ok] at hrun
  obtain ⟨_, _, ⟨rfl, rfl⟩, hrun⟩ := hrun
  split at hrun
  · rename_i hfind
    obtain ⟨-, rfl⟩ := Tx.run_pure_ok.mp hrun
    exact iff_of_true h fun old hold hid => absurd hid (Table.find_eq_none.mp hfind old hold)
  · rename_i old hfind
    obtain ⟨hold, rfl⟩ := Table.find_eq_some.mp hfind
    simp only [Tx.run_bind_ok, writeSource_run_ok] at hrun
    obtain ⟨_, _, rfl, hrun⟩ := hrun
    have hmem : ∀ x, x ∈ (t.src.items.filter fun oi => oi.id ≠ old.id).rows ↔
        x ∈ t.src.items.rows ∧ x.id ≠ old.id := by
      intro x
      unfold Table.filter
      rw [List.mem_filter, decide_eq_true_eq]
    have hr : Refreshes dateOf (fun i => old.id = i) _ t' :=
      trgOrderSalesLineDelete_run_ok (fun x hx => ((hmem x).mp hx).2) hrun
    rw [h.item_iff hr rfl rfl rfl fun x hx => ?_]
    · have hafter : ∀ orderId, ¬SourceTables.Item { t.src with
          items := t.src.items.filter fun oi => oi.id ≠ old.id
          items_fk := fun oi hi => t.src.items_fk oi (List.mem_of_mem_filter hi) } orderId old.id := by
        rintro orderId ⟨x, hx, -, hid⟩
        exact ((hmem x).mp hx).2 hid
      constructor
      · rintro hall x hx hid hlone
        exact hafter _ ((hall _ hlone).mpr ⟨x, hx, rfl, hid⟩)
      · intro hfits orderId hlone
        refine iff_of_false (hafter orderId) ?_
        rintro ⟨x, hx, rfl, hid⟩
        exact hfits x hx hid hlone
    · exact (hmem x).trans (and_iff_left hx)

theorem updateOrderItems_upToDate_iff {new : OrderItem} (h : t.UpToDate dateOf)
    (hrun : (updateOrderItems dateOf new).run t = .ok (u, t')) :
    t'.UpToDate dateOf ↔ ∀ old ∈ t.src.items.rows, old.id = new.id →
      old.orderId = new.orderId ∨
        (¬t.src.LoneFallback old.orderId new.id ∧ ¬t.src.LoneFallback new.orderId new.id) := by
  unfold updateOrderItems at hrun
  simp only [Tx.run_bind_ok, Tx.run_get_ok] at hrun
  obtain ⟨_, _, ⟨rfl, rfl⟩, hrun⟩ := hrun
  split at hrun
  · rename_i hfind
    obtain ⟨-, rfl⟩ := Tx.run_pure_ok.mp hrun
    exact iff_of_true h fun old hold hid => absurd hid (Table.find_eq_none.mp hfind old hold)
  · rename_i old hfind
    obtain ⟨hold, hid⟩ := Table.find_eq_some.mp hfind
    split at hrun
    · simp only [Tx.run_bind_ok, writeSource_run_ok] at hrun
      obtain ⟨_, _, rfl, hrun⟩ := hrun
      have hnew : new ∈ (t.src.items.replace new).rows :=
        Table.mem_replace.mpr (.inl ⟨rfl, old, hold, hid⟩)
      have hr := refreshOrderSalesLine_run_ok (by exact hnew) hrun
      have honly : ∀ x ∈ t.src.items.rows, x.id = new.id → x = old := by
        intro x hx hx'
        have hfound := Table.find_eq_some.mpr ⟨hx, hx'⟩
        rw [hfind] at hfound
        exact (Option.some.inj hfound).symm
      have hbefore : ∀ orderId, t.src.Item orderId new.id ↔ orderId = old.orderId := by
        intro orderId
        constructor
        · rintro ⟨x, hx, rfl, hx'⟩
          rw [honly x hx hx']
        · rintro rfl
          exact ⟨old, hold, rfl, hid⟩
      rw [h.item_iff hr rfl rfl rfl fun x hx => ?_]
      · have hafter : ∀ x ∈ (t.src.items.replace new).rows, x.id = new.id → x = new := by
          intro x hx hx'
          rcases Table.mem_replace.mp hx with ⟨rfl, -⟩ | ⟨-, hne⟩
          · rfl
          · exact absurd hx' hne
        constructor
        · rintro hall x hx hx'
          rw [honly x hx hx']
          by_cases hsame : old.orderId = new.orderId
          · exact .inl hsame
          · refine .inr ⟨fun hlone => ?_, fun hlone => ?_⟩
            · obtain ⟨y, hy, horder, hy'⟩ := (hall _ hlone).mpr ((hbefore _).mpr rfl)
              rw [hafter y hy hy'] at horder
              exact hsame horder.symm
            · exact hsame ((hbefore _).mp ((hall _ hlone).mp ⟨new, hnew, rfl, rfl⟩)).symm
        · intro hfits orderId hlone
          rw [hbefore]
          constructor
          · rintro ⟨y, hy, rfl, hy'⟩
            rw [hafter y hy hy'] at hlone ⊢
            rcases hfits old hold hid with hsame | ⟨-, hfree⟩
            · exact hsame.symm
            · exact absurd hlone hfree
          · rintro rfl
            rcases hfits old hold hid with hsame | ⟨hfree, -⟩
            · exact ⟨new, hnew, hsame.symm, rfl⟩
            · exact absurd hlone hfree
      · change x ∈ (t.src.items.replace new).rows ↔ _
        rw [Table.mem_replace]
        constructor
        · rintro (⟨rfl, -⟩ | ⟨hmem, -⟩)
          · exact absurd rfl hx
          · exact hmem
        · intro hmem
          exact .inr ⟨hmem, hx⟩
    · exact (Tx.run_throw_ok.mp hrun).elim

theorem addressOf_eq_some {orderId : ℕ} {oa : OrderAddress} :
    src.addressOf orderId = some oa ↔ oa ∈ src.addresses.rows ∧ oa.orderId = orderId := by
  constructor
  · intro h
    exact ⟨List.mem_of_find?_eq_some h, of_decide_eq_true
      (List.find?_some (p := fun oa : OrderAddress => decide (oa.orderId = orderId)) h)⟩
  · rintro ⟨hmem, rfl⟩
    exact src.addresses.find?_eq_some hmem (decide_eq_true rfl)
      fun a ha => .inr (of_decide_eq_true ha)

theorem addressOf_congr {orderId : ℕ} (h : ∀ oa : OrderAddress, oa.orderId = orderId →
    (oa ∈ src'.addresses.rows ↔ oa ∈ src.addresses.rows)) :
    src'.addressOf orderId = src.addressOf orderId := by
  ext oa
  rw [addressOf_eq_some, addressOf_eq_some]
  exact and_congr_left fun hid => h oa hid

theorem insertIntoOrderAddress_upToDate {new : OrderAddress} (h : t.UpToDate dateOf)
    (hrun : (insertIntoOrderAddress dateOf new).run t = .ok (u, t')) : t'.UpToDate dateOf := by
  unfold insertIntoOrderAddress at hrun
  simp only [Tx.run_bind_ok, Tx.run_get_ok] at hrun
  obtain ⟨_, _, ⟨rfl, rfl⟩, hrun⟩ := hrun
  split at hrun
  · simp only [Tx.run_bind_ok, Tx.run_throw_ok, false_and, exists_false] at hrun
  · rename_i hfree
    split at hrun
    · exact (Tx.run_throw_ok.mp hrun).elim
    · rename_i addresses hput
      simp only [Tx.run_bind_ok, writeSource_run_ok] at hrun
      obtain ⟨_, _, rfl, hrun⟩ := hrun
      have hr := refreshOrderSalesLinesForOrder_run_ok (by exact h.noOrphans) hrun
      refine (h.iff_of_refreshes hr).mpr fun i hi => selectSalesLine_frame rfl ?_
      intro oi hoi hid o ho horder
      refine ⟨ho, rfl, addressOf_congr fun oa hoa => ?_⟩
      change oa ∈ addresses.rows ↔ _
      rw [Mirror.mem_put hput]
      constructor
      · rintro (rfl | ⟨hmem, -⟩)
        · exact absurd ⟨oi, hoi, horder.symm.trans hoa.symm, hid⟩ hi
        · exact hmem
      · intro hmem
        exact .inr ⟨hmem, fun hsame => hfree ⟨oa, hmem, hsame⟩⟩

theorem deleteFromOrderAddress_upToDate {id : ℕ} (h : t.UpToDate dateOf)
    (hrun : (deleteFromOrderAddress dateOf id).run t = .ok (u, t')) : t'.UpToDate dateOf := by
  unfold deleteFromOrderAddress at hrun
  simp only [Tx.run_bind_ok, Tx.run_get_ok] at hrun
  obtain ⟨_, _, ⟨rfl, rfl⟩, hrun⟩ := hrun
  split at hrun
  · obtain ⟨-, rfl⟩ := Tx.run_pure_ok.mp hrun
    exact h
  · rename_i old hfind
    have hold := List.mem_of_find?_eq_some hfind
    obtain rfl : old.id = id := of_decide_eq_true
      (List.find?_some (p := fun oa : OrderAddress => decide (oa.id = id)) hfind)
    simp only [Tx.run_bind_ok, writeSource_run_ok] at hrun
    obtain ⟨_, _, rfl, hrun⟩ := hrun
    have hr := refreshOrderSalesLinesForOrder_run_ok (by exact h.noOrphans) hrun
    refine (h.iff_of_refreshes hr).mpr fun i hi => selectSalesLine_frame rfl ?_
    intro oi hoi hid o ho horder
    refine ⟨ho, rfl, addressOf_congr fun oa hoa => ?_⟩
    unfold Table.filter
    rw [List.mem_filter, decide_eq_true_eq]
    refine and_iff_left_of_imp fun hmem hsame => hi ?_
    obtain rfl := Mirror.eq_of_pk t.src.addresses hmem hold hsame
    exact ⟨oi, hoi, horder.symm.trans hoa.symm, hid⟩

theorem updateOrderAddress_upToDate_iff {new : OrderAddress} (h : t.UpToDate dateOf)
    (hrun : (updateOrderAddress dateOf new).run t = .ok (u, t')) :
    t'.UpToDate dateOf ↔ ∀ old ∈ t.src.addresses.rows, old.id = new.id →
      old.orderId = new.orderId ∨ ¬t.src.InLines old := by
  unfold updateOrderAddress at hrun
  simp only [Tx.run_bind_ok, Tx.run_get_ok] at hrun
  obtain ⟨_, _, ⟨rfl, rfl⟩, hrun⟩ := hrun
  split at hrun
  · rename_i hfind
    obtain ⟨-, rfl⟩ := Tx.run_pure_ok.mp hrun
    refine iff_of_true h fun old hold hid => ?_
    exact absurd (decide_eq_true hid) (List.find?_eq_none.mp hfind old hold)
  · rename_i old hfind
    have hold := List.mem_of_find?_eq_some hfind
    have hid : old.id = new.id := of_decide_eq_true
      (List.find?_some (p := fun oa : OrderAddress => decide (oa.id = new.id)) hfind)
    have honly : ∀ oa ∈ t.src.addresses.rows, oa.id = new.id → oa = old := fun oa hoa hsame =>
      Mirror.eq_of_pk t.src.addresses hoa hold (hsame.trans hid.symm)
    split at hrun
    · exact (Tx.run_throw_ok.mp hrun).elim
    · rename_i addresses hput
      simp only [Tx.run_bind_ok, writeSource_run_ok] at hrun
      obtain ⟨_, _, rfl, hrun⟩ := hrun
      have hr := refreshOrderSalesLinesForOrder_run_ok (by exact h.noOrphans) hrun
      rw [h.iff_of_refreshes hr]
      -- the order that the address leaves has none any more, and other orders keep theirs
      have hleft : old.orderId ≠ new.orderId →
          SourceTables.addressOf { t.src with addresses := addresses } old.orderId = none := by
        intro hmoved
        rw [Option.eq_none_iff_forall_ne_some]
        intro oa hoa
        obtain ⟨hmem, horder⟩ := addressOf_eq_some.mp hoa
        rcases (Mirror.mem_put hput oa).mp hmem with rfl | ⟨hmem, hne⟩
        · exact hmoved horder.symm
        · exact hne ((congrArg OrderAddress.id
            (Mirror.eq_of_uk t.src.addresses hmem hold horder)).trans hid)
      have hkept : ∀ orderId, orderId ≠ new.orderId → orderId ≠ old.orderId →
          SourceTables.addressOf { t.src with addresses := addresses } orderId =
            t.src.addressOf orderId := by
        intro orderId hnew hne
        refine addressOf_congr fun oa hoa => ?_
        rw [Mirror.mem_put hput]
        constructor
        · rintro (rfl | ⟨hmem, -⟩)
          · exact absurd hoa.symm hnew
          · exact hmem
        · intro hmem
          refine .inr ⟨hmem, fun hsame => hne ?_⟩
          rw [← hoa, honly oa hmem hsame]
      have hbefore : t.src.addressOf old.orderId = some old := addressOf_eq_some.mpr ⟨hold, rfl⟩
      -- what the change means for the line of an item of the order that the address leaves
      have hline : old.orderId ≠ new.orderId → ∀ oi ∈ t.src.items.rows, ∀ o ∈ t.src.orders.rows,
          o.id = oi.orderId → o.id = old.orderId →
          (selectSalesLine dateOf { t.src with addresses := addresses } oi.id =
            selectSalesLine dateOf t.src oi.id ↔ ¬old.Shows o) := by
        intro hmoved oi hoi o ho horder hsame
        obtain ⟨line, hselect⟩ := h.exists_line hoi
        have hoa : oi.orderId = old.orderId := horder.symm.trans hsame
        rw [selectSalesLine_of_item hoi ho horder, hoa, hbefore] at hselect ⊢
        rw [selectSalesLine_of_item (by exact hoi) (by exact ho) horder, hoa, hleft hmoved,
          map_some_inj]
        exact salesLine_address_iff (map_some_eq_ok hselect)
      constructor
      · intro hall oa hoa hsame
        rw [honly oa hoa hsame]
        by_cases hmoved : old.orderId = new.orderId
        · exact .inl hmoved
        · refine .inr ?_
          rintro ⟨o, ho, horder, hshows, oi, hoi, hoi'⟩
          refine (hline hmoved oi hoi o ho hoi'.symm horder).mp (hall oi.id ?_) hshows
          rintro ⟨x, hx, hxorder, hx'⟩
          have hfound := Table.find_eq_some.mpr ⟨hx, hx'⟩
          rw [Table.find_eq_some.mpr ⟨hoi, rfl⟩] at hfound
          rw [← Option.some.inj hfound] at hxorder
          exact hmoved (horder.symm.trans (hoi'.symm.trans hxorder))
      · intro hfits i hi
        by_cases hitem : ∃ oi ∈ t.src.items.rows, oi.id = i
        · obtain ⟨oi, hoi, rfl⟩ := hitem
          obtain ⟨o, ho, horder⟩ := t.src.items_fk oi hoi
          have hnew : oi.orderId ≠ new.orderId := fun hsame => hi ⟨oi, hoi, hsame, rfl⟩
          by_cases hsame : oi.orderId = old.orderId
          · have hmoved : old.orderId ≠ new.orderId := hsame ▸ hnew
            refine (hline hmoved oi hoi o ho horder (horder.trans hsame)).mpr fun hshows => ?_
            rcases hfits old hold hid with hstay | hfree
            · exact hmoved hstay
            · exact hfree ⟨o, ho, horder.trans hsame, hshows, oi, hoi, horder.symm⟩
          · refine selectSalesLine_frame rfl fun x hx hx' o' ho' horder' => ⟨ho', rfl, ?_⟩
            have hfound := Table.find_eq_some.mpr ⟨hx, hx'⟩
            rw [Table.find_eq_some.mpr ⟨hoi, rfl⟩] at hfound
            rw [← Option.some.inj hfound] at horder'
            rw [horder']
            exact hkept oi.orderId hnew hsame
        · push Not at hitem
          rw [selectSalesLine_of_not_item hitem, selectSalesLine_of_not_item (by exact hitem)]

/-- The lines that are left have another order. -/
theorem trgOrderSalesOrderDelete_run_ok {old : Order}
    (hgone : ∀ i line, t.lines i = some line → line.orderId ≠ old.id)
    (h : (trgOrderSalesOrderDelete old).run t = .ok (u, t')) : t' = t := by
  unfold trgOrderSalesOrderDelete at h
  rw [← Tx.run_modify_ok.mp h]
  have hlines : (fun i => (t.lines i).filter fun line => decide (line.orderId ≠ old.id)) =
      t.lines := by
    funext i
    cases hline : t.lines i with
    | none => rfl
    | some line => rw [Option.filter_some, if_pos (decide_eq_true (hgone i line hline))]
  rw [hlines]

theorem mem_withoutOrder_items {id : ℕ} {x : OrderItem} :
    x ∈ (src.withoutOrder id).items.rows ↔ x ∈ src.items.rows ∧ x.orderId ≠ id := by
  unfold SourceTables.withoutOrder Table.filter
  rw [List.mem_filter, decide_eq_true_eq]

/-- What is computed for the items of the other orders stays the same. -/
theorem selectSalesLine_withoutOrder {id : ℕ} (hi : ¬src.Item id i) :
    selectSalesLine dateOf (src.withoutOrder id) i = selectSalesLine dateOf src i := by
  have hother : ∀ oi ∈ src.items.rows, oi.id = i → oi.orderId ≠ id :=
    fun oi hoi hid horder => hi ⟨oi, hoi, horder, hid⟩
  refine selectSalesLine_congr (fun oi hid => ?_) fun oi hoi hid o ho horder => ?_
  · rw [mem_withoutOrder_items]
    exact and_iff_left_of_imp fun hmem => hother oi hmem hid
  · have hne := hother oi hoi hid
    refine ⟨o, List.mem_filter.mpr ⟨ho, decide_eq_true ?_⟩, horder, ?_⟩
    · rw [horder]
      exact hne
    · have haddress : (src.withoutOrder id).addressOf oi.orderId = src.addressOf oi.orderId := by
        refine addressOf_congr fun oa hoa => ?_
        unfold SourceTables.withoutOrder Table.filter
        rw [List.mem_filter, decide_eq_true_eq, hoa]
        exact and_iff_left hne
      have hitems : (src.withoutOrder id).itemsOf oi.orderId = src.itemsOf oi.orderId := by
        unfold SourceTables.itemsOf SourceTables.withoutOrder Table.filter
        rw [List.filter_filter]
        refine List.filter_congr fun x _ => ?_
        by_cases hx : x.orderId = oi.orderId
        · simp [hx, hne]
        · simp [hx]
      rw [haddress, hitems]
      rfl

theorem deleteFromOrders_upToDate {id : ℕ} (h : t.UpToDate dateOf)
    (hrun : (deleteFromOrders dateOf id).run t = .ok (u, t')) : t'.UpToDate dateOf := by
  unfold deleteFromOrders at hrun
  simp only [Tx.run_bind_ok, Tx.run_get_ok] at hrun
  obtain ⟨_, _, ⟨rfl, rfl⟩, hrun⟩ := hrun
  split at hrun
  · obtain ⟨-, rfl⟩ := Tx.run_pure_ok.mp hrun
    exact h
  · rename_i old hfind
    obtain ⟨-, rfl⟩ := Table.find_eq_some.mp hfind
    simp only [Tx.run_bind_ok, writeSource_run_ok] at hrun
    obtain ⟨_, _, rfl, _, t₁, hitems, _, t₂, haddresses, hdelete⟩ := hrun
    have hmem : ∀ i, (∃ oi ∈ t.src.itemsOf old.id, oi.id = i) ↔ t.src.Item old.id i := by
      intro i
      unfold SourceTables.itemsOf SourceTables.Item
      simp only [List.mem_filter, decide_eq_true_eq, and_assoc]
    -- the triggers on the items delete their lines
    have hr₁ : Refreshes dateOf (t.src.Item old.id) { t with src := t.src.withoutOrder old.id } t₁ := by
      refine (Refreshes.forM (P := fun _ => True) (R := fun (oi : OrderItem) i => oi.id = i)
        (fun _ _ => trivial) (fun oi hoi t₃ t₄ hsrc _ hline => ?_) rfl trivial hitems).congr hmem
      refine trgOrderSalesLineDelete_run_ok (fun x hx hid => ?_) hline
      rw [hsrc] at hx
      obtain ⟨hold, hne⟩ := mem_withoutOrder_items.mp hx
      obtain ⟨hoi', horder⟩ := List.mem_filter.mp hoi
      have hsame := Table.find_eq_some.mpr ⟨hold, hid⟩
      rw [Table.find_eq_some.mpr ⟨hoi', rfl⟩] at hsame
      rw [← Option.some.inj hsame] at hne
      exact hne (of_decide_eq_true horder)
    have hlines : ∀ i line, t₁.lines i = some line → ¬t.src.Item old.id i ∧ t.lines i = some line := by
      intro i line hline
      by_cases hi : t.src.Item old.id i
      · have hfresh := hr₁.refreshed.fresh i hi
        unfold SalesTables.stored at hfresh
        rw [hline] at hfresh
        obtain ⟨x, hx, hid⟩ := exists_item_of_select hfresh
        obtain ⟨hold, hne⟩ := mem_withoutOrder_items.mp hx
        obtain ⟨y, hy, horder, hid'⟩ := hi
        have hsame := Table.find_eq_some.mpr ⟨hold, hid⟩
        rw [Table.find_eq_some.mpr ⟨hy, hid'⟩] at hsame
        rw [← Option.some.inj hsame] at hne
        exact absurd horder hne
      · have hkept := hr₁.refreshed.kept i hi
        unfold SalesTables.stored at hkept
        exact ⟨hi, (Except.ok.inj hkept).symm.trans hline⟩
    have hitem : ∀ i line, t₁.lines i = some line →
        ∃ oi ∈ t.src.items.rows, oi.id = i ∧ oi.orderId ≠ old.id ∧ line.orderId = oi.orderId := by
      intro i line hline
      obtain ⟨hi, hbefore⟩ := hlines i line hline
      obtain ⟨oi, hoi, rfl, -⟩ := (h.line_iff i).mp (by rw [hbefore]; rfl)
      exact ⟨oi, hoi, rfl, fun horder => hi ⟨oi, hoi, horder, rfl⟩,
        orderId_of_select hoi (h.line_eq _ line hbefore)⟩
    have hno : t₁.NoOrphans := by
      intro i hsome
      obtain ⟨line, hline⟩ := Option.isSome_iff_exists.mp hsome
      obtain ⟨oi, hoi, hid, hne, -⟩ := hitem i line hline
      rw [hr₁.src_eq]
      exact ⟨oi, mem_withoutOrder_items.mpr ⟨hoi, hne⟩, hid⟩
    -- the order has no items any more, so the trigger on its address has nothing to do
    have hr₂ : Refreshes dateOf (fun _ => False) t₁ t₂ := by
      refine (forM_trgOrderSalesAddressRefresh_run_ok hno haddresses).congr fun i => ?_
      refine iff_of_false ?_ id
      rintro ⟨oa, hoa, x, hx, horder, -⟩
      rw [hr₁.src_eq] at hx
      have hid : oa.orderId = old.id := of_decide_eq_true (List.mem_filter.mp hoa).2
      exact (mem_withoutOrder_items.mp hx).2 (horder.trans hid)
    have hsame : t₂.lines = t₁.lines := by
      funext i
      exact Except.ok.inj (hr₂.refreshed.kept i id)
    rw [trgOrderSalesOrderDelete_run_ok (fun i line hline => ?_) hdelete]
    · refine (h.iff_of_refreshes (hr₁.trans hr₂)).mpr fun i hi => ?_
      exact selectSalesLine_withoutOrder (not_or.mp hi).1
    · rw [hsame] at hline
      obtain ⟨oi, -, -, hne, horder⟩ := hitem i line hline
      rw [horder]
      exact hne

/-- An accepted statement leaves the lines up to date exactly when it fits. -/
theorem Statement.upToDate_iff {statement : Statement} (h : t.UpToDate dateOf)
    (hrun : (statement.exec dateOf).run t = .ok (u, t')) :
    t'.UpToDate dateOf ↔ statement.Fits t := by
  cases statement with
  | insertStore new => exact iff_of_true (insertIntoStores_upToDate h hrun) trivial
  | updateStore id set => exact iff_of_true (updateStores_upToDate h hrun) trivial
  | deleteStore id => exact iff_of_true (deleteFromStores_upToDate h hrun) trivial
  | insertOrder new => exact iff_of_true (insertIntoOrders_upToDate h hrun) trivial
  | updateOrder id set => exact iff_of_true (updateOrders_upToDate h hrun) trivial
  | deleteOrder id => exact iff_of_true (deleteFromOrders_upToDate h hrun) trivial
  | insertItem new => exact insertIntoOrderItems_upToDate_iff h hrun
  | updateItem new => exact updateOrderItems_upToDate_iff h hrun
  | deleteItem id => exact deleteFromOrderItems_upToDate_iff h hrun
  | insertAddress new => exact iff_of_true (insertIntoOrderAddress_upToDate h hrun) trivial
  | updateAddress new => exact updateOrderAddress_upToDate_iff h hrun
  | deleteAddress id => exact iff_of_true (deleteFromOrderAddress_upToDate h hrun) trivial

theorem upToDate_empty : SalesTables.empty.UpToDate dateOf where
  line_iff _ := by
    refine iff_of_false Bool.false_ne_true ?_
    rintro ⟨oi, hoi, -⟩
    exact absurd hoi List.not_mem_nil
  line_eq _ _ h := by cases h

end Statements

/-- From empty tables the lines are up to date after every statement exactly when the
accepted statements fit. -/
theorem salesLines_upToDate_iff (dateOf : ℤ → Date) (statements : List Statement) :
    (∀ n, (Tx.attemptAll (Statement.exec dateOf) (statements.take n)
      SalesTables.empty).UpToDate dateOf) ↔
        Tx.AllAccepted (Statement.exec dateOf) Statement.Fits statements SalesTables.empty := by
  apply Tx.forall_attemptAll_iff (I := SalesTables.UpToDate dateOf)
  · intro statement t u t' h hfits hrun
    exact (statement.upToDate_iff h hrun).mpr hfits
  · intro t h
    exact h
  · intro statement t u t' h hrun hup
    exact (statement.upToDate_iff h hrun).mp hup
  · exact upToDate_empty

/-! ## A second item of an order -/

/-- An item without an amount of its own. -/
def pricelessItem (id : ℕ) : OrderItem where
  id := id
  orderId := 1
  itemId := id
  skuId := none
  title := none
  qty := some 1
  price := some ⟨0, by decide⟩
  unitPrice := none
  discount := some ⟨0, by decide⟩
  amount := some ⟨0, by decide⟩
  lineAmount := none

/-- An order of a hundred with two such items. -/
def twoPricelessItems : List Statement :=
  [.insertStore ⟨1, ⟨"PDD", by decide⟩, ⟨"S1", by decide⟩, ⟨"Store", by decide⟩⟩,
    .insertOrder {
      id := 1, storeId := 1, platform := ⟨"PDD", by decide⟩, storeCode := ⟨"S1", by decide⟩
      extOrderNo := ⟨"E1", by decide⟩, status := none, orderAmount := some ⟨10000, by decide⟩
      payAmount := some ⟨10000, by decide⟩, createdAt := 0, updatedAt := none },
    .insertItem (pricelessItem 1), .insertItem (pricelessItem 2)]

/-- Every time is in the first days of 2026. -/
def newYear : ℤ → Date := fun _ => ⟨2026, 1, 1, by decide⟩

/-- The state after the second item. -/
def afterTwoItems : SalesTables :=
  Tx.attemptAll (Statement.exec newYear) twoPricelessItems SalesTables.empty

/-- The line of the first item still has the value of the order, and would be computed to
zero now. -/
theorem not_upToDate_afterTwoItems :
    (afterTwoItems.lines 1).map (fun line => line.lineAmount.cents) = some 10000 ∧
      (afterTwoItems.lines 2).isSome ∧
      ((selectSalesLine newYear afterTwoItems.src 1).toOption.bind id).map
        (fun line => line.lineAmount.cents) = some 0 ∧
      ¬afterTwoItems.UpToDate newYear := by
  have hline : (afterTwoItems.lines 1).map (fun line => line.lineAmount.cents) = some 10000 := by
    decide +kernel
  have hsecond : (afterTwoItems.lines 2).isSome := by decide +kernel
  have hcomputed : ((selectSalesLine newYear afterTwoItems.src 1).toOption.bind id).map
      (fun line => line.lineAmount.cents) = some 0 := by
    decide +kernel
  generalize afterTwoItems = t at hline hsecond hcomputed ⊢
  refine ⟨hline, hsecond, hcomputed, fun h => ?_⟩
  obtain ⟨line, hstored, hamount⟩ := Option.map_eq_some_iff.mp hline
  rw [h.line_eq 1 line hstored] at hcomputed
  have hzero : line.lineAmount.cents = 0 := Option.some.inj hcomputed
  rw [hzero] at hamount
  exact absurd hamount (by decide)

end Wms.Finance

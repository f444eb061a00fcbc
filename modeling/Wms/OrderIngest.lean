import Wms.Orders.Ingest
import Wms.System

/-!
# Taking in an order again

An order that is taken in once should keep its lines when it is taken in again, for
shipments refer to them, and its items, its lines and the payload should ask for the same.
But a call for a stored order deletes the lines and writes new ones, the items skip a
repeated sku, and the lines skip what is not positive. The lines stay exactly when such a
call asks for nothing, and the sums agree exactly when what is skipped adds up to nothing.
-/

namespace Wms

open Foundation

/-! ## The sums -/

/-- What the lines of a payload ask for of an item. -/
def payloadQty (items : List IngestItem) (itemId : ℕ) : ℤ :=
  ((items.filter fun it => it.itemId = some itemId).map fun it => it.qty.getD 0).sum

/-- What the lines of an order ask for of an item. -/
def OmsTables.reqQtyOf (t : OmsTables) (orderId itemId : ℕ) : ℤ :=
  (((t.db.orderLinesOf orderId).filter fun l => l.itemId = itemId).map OrderLine.reqQty).sum

/-- The lines of a payload that repeat no sku, neither a seen one nor that of an earlier
line. -/
def firstOfSku (seen : List (Varchar 128)) : List IngestItem → List IngestItem
  | [] => []
  | it :: rest =>
    match normStr 128 it.skuId with
    | none => it :: firstOfSku seen rest
    | some sku =>
      if sku ∈ seen then firstOfSku seen rest else it :: firstOfSku (sku :: seen) rest

/-- The line asks for some pieces of an item. -/
def IngestItem.Asks (it : IngestItem) : Prop := 0 < it.itemId.getD 0 ∧ 0 < it.qty.getD 0

instance : DecidablePred IngestItem.Asks := fun _ => inferInstanceAs (Decidable (_ ∧ _))

/-- The lines that repeat a sku add up to nothing for each item, and so do those that do
not ask for anything. -/
def AddsUp (items : List IngestItem) : Prop :=
  ∀ i, payloadQty (firstOfSku [] items) i = payloadQty items i ∧
    payloadQty (items.filter IngestItem.Asks) i = payloadQty items i

theorem payloadQty_cons (it : IngestItem) (items : List IngestItem) (i : ℕ) :
    payloadQty (it :: items) i =
      (if it.itemId = some i then it.qty.getD 0 else 0) + payloadQty items i := by
  unfold payloadQty
  by_cases hi : it.itemId = some i
  · rw [List.filter_cons_of_pos (by simpa using hi), List.map_cons, List.sum_cons, if_pos hi]
  · rw [List.filter_cons_of_neg (by simpa using hi), if_neg hi, zero_add]

/-- Summing the positive quantities of each item does not lose any. -/
theorem sum_extractReqQty {items : List IngestItem} (hitems : ∀ it ∈ items, it.itemId ≠ none)
    (i : ℕ) : (((extractReqQty items).filter fun p => p.1 = i).map Prod.snd).sum =
      payloadQty (items.filter IngestItem.Asks) i := by
  obtain ⟨hnodup, hsum⟩ := Dict.tally_spec (fun it : IngestItem => it.itemId.getD 0)
    (fun it => it.qty.getD 0) (items.filter IngestItem.Asks)
  have hsame : ∀ it ∈ items.filter IngestItem.Asks,
      decide (it.itemId.getD 0 = i) = decide (it.itemId = some i) := by
    intro it hit
    obtain ⟨n, hn⟩ := Option.ne_none_iff_exists'.mp (hitems it (List.mem_filter.mp hit).1)
    simp [hn]
  unfold payloadQty
  rw [← List.filter_congr hsame, ← hsum i]
  exact Dict.sum_filter_key hnodup i

/-! ## The head -/

variable {t t' : OmsTables} {call : IngestCall} {orderId : ℕ} {items : List IngestItem} {u : PUnit}

/-- An order that is found by the key of a call is found by the key that is stored. -/
theorem findByKey_of_orderOf {order row : Order} {id : ℕ} (horder : t.orderOf call = some order)
    (hrow : call.orderRow id = .ok row) :
    t.findByKey row.platform.text row.storeCode.text row.extOrderNo.text = some order := by
  have hkey := List.find?_some horder
  simp only [decide_eq_true_eq] at hkey
  obtain ⟨hplat, hstore, hno⟩ := hkey
  unfold IngestCall.orderRow at hrow
  rw [← hplat, ← hstore, ← hno, Varchar.store_isOk_of_text, Varchar.store_isOk_of_text,
    Varchar.store_isOk_of_text] at hrow
  simp only [bind, Except.bind, pure, Except.pure] at hrow
  split at hrow
  · cases hrow
  · split at hrow
    · cases hrow
    · obtain rfl := Except.ok.inj hrow
      dsimp only
      rw [hplat, hstore, hno]
      exact horder

/-- The head of a stored order is found, and that of a new one is written. -/
theorem insertOrder_run_ok {p : Order × Bool}
    (h : (insertOrderOrGetIdempotent call).run t = .ok (p, t')) :
    (p.2 = true ∧ t.orderOf call = some p.1 ∧ t' = t) ∨
      (p.2 = false ∧ t.orderOf call = none ∧ (∀ o ∈ t.db.orders.rows, o.id ≠ p.1.id) ∧
        t'.db.orders.rows = t.db.orders.rows ++ [p.1] ∧
        t'.db = { t.db with orders := t'.db.orders } ∧
        t'.tables.orderItems = t.tables.orderItems ∧ t'.lineSeq = t.lineSeq) := by
  unfold insertOrderOrGetIdempotent at h
  simp only [Tx.run_bind_ok, Tx.run_get_ok, Tx.run_ofExcept_ok] at h
  obtain ⟨_, _, ⟨rfl, rfl⟩, row, _, ⟨hrow, rfl⟩, h⟩ := h
  split at h
  · simp only [Tx.run_bind_ok, Tx.run_demand_ok, Tx.run_pure_ok] at h
    obtain ⟨order, _, ⟨horder, rfl⟩, rfl, rfl⟩ := h
    exact .inl ⟨rfl, horder, rfl⟩
  · rename_i hnone
    split at h
    · exact (Tx.run_throw_ok.mp h).elim
    · rename_i orders hinsert
      simp only [Tx.run_bind_ok, Tx.run_set_ok, Tx.run_pure_ok] at h
      obtain ⟨_, _, rfl, rfl, rfl⟩ := h
      have hnew : t.orderOf call = none := by
        cases horder : t.orderOf call with
        | none => rfl
        | some order =>
          rw [findByKey_of_orderOf horder hrow] at hnone
          cases hnone
      obtain ⟨hfree, hrows⟩ := Table.insert_eq_some.mp hinsert
      exact .inr ⟨rfl, hnew, hfree, hrows, rfl, rfl, rfl⟩

/-! ## The items -/

/-- The order has an item with the sku. -/
def OmsTables.HasSku (t : OmsTables) (orderId : ℕ) (sku : Varchar 128) : Prop :=
  ∃ oi ∈ t.tables.orderItems.rows, oi.orderId = orderId ∧ oi.skuId = some sku

/-- A line is skipped when its sku is there already, and becomes an item otherwise. -/
theorem insertOrderItem_run_ok {it : IngestItem}
    (h : (insertOrderItem orderId it).run t = .ok (u, t')) :
    ∃ itemId, it.itemId = some itemId ∧ t'.db = t.db ∧ t'.lineSeq = t.lineSeq ∧
      ((∃ sku, normStr 128 it.skuId = some sku ∧ t.HasSku orderId sku ∧ t' = t) ∨
        ((∀ sku, normStr 128 it.skuId = some sku → ¬t.HasSku orderId sku) ∧
          ∃ id, t'.tables.orderItems.rows =
            t.tables.orderItems.rows ++ [it.row orderId itemId id])) := by
  unfold insertOrderItem at h
  simp only [Tx.run_bind_ok, Tx.run_get_ok, Tx.run_demand_ok] at h
  obtain ⟨_, _, ⟨rfl, rfl⟩, itemId, _, ⟨hitem, rfl⟩, h⟩ := h
  split at h
  · rename_i hnone
    obtain ⟨-, rfl⟩ := Tx.run_pure_ok.mp h
    obtain ⟨a, ha, hid | ⟨horder, hsku, hne⟩⟩ := Table.insert_eq_none.mp hnone
    · have hmem := List.mem_map_of_mem (f := OrderItem.id) ha
      rw [hid] at hmem
      exact absurd hmem (nextId_notMem _)
    · obtain ⟨sku, hsome⟩ := Option.ne_none_iff_exists'.mp hne
      have hnorm : normStr 128 it.skuId = some sku := hsku.symm.trans hsome
      exact ⟨itemId, hitem, rfl, rfl, .inl ⟨sku, hnorm, ⟨a, ha, horder, hsome⟩, rfl⟩⟩
  · rename_i hinsert
    split at h
    · obtain rfl := Tx.run_set_ok.mp h
      obtain ⟨hfree, hrows⟩ := Table.insert_eq_some.mp hinsert
      refine ⟨itemId, hitem, rfl, rfl, .inr ⟨?_, _, hrows⟩⟩
      rintro sku hnorm ⟨a, ha, horder, hsome⟩
      refine hfree a ha (.inr ⟨horder, hsome.trans hnorm.symm, ?_⟩)
      rw [hsome]
      exact Option.some_ne_none _
    · exact (Tx.run_throw_ok.mp h).elim

/-- The items of an order grow by the lines that repeat no sku. -/
theorem insertOrderItems_run_ok {seen : List (Varchar 128)}
    (hseen : ∀ sku, sku ∈ seen ↔ t.HasSku orderId sku)
    (h : (forM items (insertOrderItem orderId)).run t = .ok (u, t')) :
    (∀ it ∈ items, it.itemId ≠ none) ∧ t'.db = t.db ∧ t'.lineSeq = t.lineSeq ∧
      ∀ i, t'.tables.orderedOf orderId i =
        t.tables.orderedOf orderId i + payloadQty (firstOfSku seen items) i := by
  induction items generalizing t seen with
  | nil =>
    obtain rfl := Tx.run_forM_nil_ok.mp h
    exact ⟨by simp, rfl, rfl, fun i => (add_zero _).symm⟩
  | cons it items ih =>
    obtain ⟨t₁, hone, hrest⟩ := Tx.run_forM_cons_ok.mp h
    obtain ⟨itemId, hitem, hdb, hseq, hcases⟩ := insertOrderItem_run_ok hone
    have hsome : it.itemId ≠ none := by rw [hitem]; exact Option.some_ne_none _
    rcases hcases with ⟨sku, hnorm, hsku, rfl⟩ | ⟨hfree, id, hrows⟩
    · obtain ⟨hall, hdb', hseq', hsum⟩ := ih hseen hrest
      refine ⟨List.forall_mem_cons.mpr ⟨hsome, hall⟩, hdb', hseq', fun i => ?_⟩
      rw [hsum, firstOfSku, hnorm]
      dsimp only
      rw [if_pos ((hseen sku).mpr hsku)]
    · -- the row of the line is the only new one
      have hgrows : ∀ i, t₁.tables.orderedOf orderId i = t.tables.orderedOf orderId i +
          (if it.itemId = some i then it.qty.getD 0 else 0) := by
        intro i
        unfold OrderTables.orderedOf OrderTables.itemRows
        rw [hrows, List.filter_append, List.map_append, List.sum_append, hitem]
        by_cases hi : itemId = i
        · simp [IngestItem.row, hi]
        · simp [IngestItem.row, hi]
      have hsku₁ : ∀ sku, t₁.HasSku orderId sku ↔
          normStr 128 it.skuId = some sku ∨ t.HasSku orderId sku := by
        intro sku
        unfold OmsTables.HasSku
        rw [hrows]
        simp only [List.mem_append, List.mem_singleton, or_and_right, exists_or, exists_eq_left]
        rw [or_comm]
        simp [IngestItem.row]
      have hkept : ∃ seen', (∀ sku, sku ∈ seen' ↔ t₁.HasSku orderId sku) ∧
          firstOfSku seen (it :: items) = it :: firstOfSku seen' items := by
        rw [firstOfSku]
        cases hnorm : normStr 128 it.skuId with
        | none =>
          refine ⟨seen, fun sku => ?_, rfl⟩
          rw [hsku₁, hnorm, hseen]
          simp
        | some sku =>
          dsimp only
          rw [if_neg fun hmem => hfree sku hnorm ((hseen sku).mp hmem)]
          refine ⟨sku :: seen, fun sku' => ?_, rfl⟩
          rw [hsku₁, hnorm, List.mem_cons, hseen, Option.some.injEq, eq_comm]
      obtain ⟨seen', hseen', hfirst⟩ := hkept
      obtain ⟨hall, hdb', hseq', hsum⟩ := ih hseen' hrest
      refine ⟨List.forall_mem_cons.mpr ⟨hsome, hall⟩, hdb'.trans hdb, hseq'.trans hseq,
        fun i => ?_⟩
      rw [hsum, hgrows, hfirst, payloadQty_cons, add_assoc]

/-! ## The lines -/

/-- Only the order lines have changed. -/
structure LinesOnly (t t' : OmsTables) : Prop where
  db_eq : t'.db = { t.db with orderLines := t'.db.orderLines }
  items_eq : t'.tables.orderItems = t.tables.orderItems

theorem LinesOnly.trans {t'' : OmsTables} (h : LinesOnly t t') (h' : LinesOnly t' t'') :
    LinesOnly t t'' :=
  ⟨by rw [h'.db_eq, h.db_eq], h'.items_eq.trans h.items_eq⟩

theorem insertOrderLine_run_ok {p : ℕ × ℤ} (h : (insertOrderLine orderId p).run t = .ok (u, t')) :
    LinesOnly t t' ∧ t'.lineSeq = t.lineSeq + 1 ∧
      t'.db.orderLines.rows =
        t.db.orderLines.rows ++ [⟨t.lineSeq, orderId, p.1, p.2, none⟩] := by
  unfold insertOrderLine at h
  simp only [Tx.run_bind_ok, Tx.run_get_ok] at h
  obtain ⟨_, _, ⟨rfl, rfl⟩, h⟩ := h
  split at h
  · exact (Tx.run_throw_ok.mp h).elim
  · rename_i hinsert
    split at h
    · obtain rfl := Tx.run_set_ok.mp h
      exact ⟨⟨rfl, rfl⟩, rfl, (Table.insert_eq_some.mp hinsert).2⟩
    · exact (Tx.run_throw_ok.mp h).elim

/-- The new lines have new identifiers. -/
theorem insertLines_run_ok {ps : List (ℕ × ℤ)}
    (h : (forM ps (insertOrderLine orderId)).run t = .ok (u, t')) :
    LinesOnly t t' ∧ ∃ new, t'.db.orderLines.rows = t.db.orderLines.rows ++ new ∧
      new.map (fun l => (l.itemId, l.reqQty)) = ps ∧
      ∀ l ∈ new, l.orderId = orderId ∧ t.lineSeq ≤ l.id := by
  induction ps generalizing t with
  | nil =>
    obtain rfl := Tx.run_forM_nil_ok.mp h
    exact ⟨⟨rfl, rfl⟩, [], (List.append_nil _).symm, rfl, by simp⟩
  | cons p ps ih =>
    obtain ⟨t₁, hone, hrest⟩ := Tx.run_forM_cons_ok.mp h
    obtain ⟨honly, hseq, hrows⟩ := insertOrderLine_run_ok hone
    obtain ⟨honly', new, hrows', hnew, hids⟩ := ih hrest
    refine ⟨honly.trans honly', ⟨t.lineSeq, orderId, p.1, p.2, none⟩ :: new, ?_, ?_, ?_⟩
    · rw [hrows', hrows, List.append_assoc]
      rfl
    · rw [List.map_cons, hnew]
    · rintro l hl
      rcases List.mem_cons.mp hl with rfl | hmem
      · exact ⟨rfl, le_rfl⟩
      · obtain ⟨horder, hid⟩ := hids l hmem
        have hlt := hseq ▸ hid
        exact ⟨horder, by omega⟩

/-- What `insert_order_lines` does to the lines of all orders. -/
structure LinesWritten (orderId : ℕ) (items : List IngestItem) (t t' : OmsTables) : Prop where
  frame : LinesOnly t t'
  others : ∀ o, o ≠ orderId → t'.db.orderLinesOf o = t.db.orderLinesOf o
  nothing : extractReqQty items = [] → t'.db.orderLinesOf orderId = t.db.orderLinesOf orderId
  written : extractReqQty items ≠ [] →
    (t'.db.orderLinesOf orderId).map (fun l => (l.itemId, l.reqQty)) = extractReqQty items ∧
      ∀ l ∈ t'.db.orderLinesOf orderId, t.lineSeq ≤ l.id

theorem insertOrderLines_run_ok (h : (insertOrderLines orderId items).run t = .ok (u, t')) :
    LinesWritten orderId items t t' := by
  unfold insertOrderLines at h
  split at h
  · rename_i hnothing
    obtain ⟨-, rfl⟩ := Tx.run_pure_ok.mp h
    exact ⟨⟨rfl, rfl⟩, fun _ _ => rfl, fun _ => rfl, fun hne => absurd hnothing hne⟩
  · rename_i hne
    unfold deleteOrderLines at h
    simp only [Tx.run_bind_ok, Tx.run_get_ok, Tx.run_failIf_ok, Tx.run_set_ok] at h
    obtain ⟨_, _, ⟨_, _, ⟨rfl, rfl⟩, _, _, ⟨-, rfl⟩, _, _, ⟨-, rfl⟩, rfl⟩, hinsert⟩ := h
    obtain ⟨honly, new, hrows, hnew, hids⟩ := insertLines_run_ok hinsert
    have hself : t'.db.orderLinesOf orderId = new := by
      have hgone : (t.db.orderLines.rows.filter fun l => ¬l.orderId = orderId).filter
          (fun l => l.orderId = orderId) = [] := by
        rw [List.filter_eq_nil_iff]
        intro l hl
        simpa using (List.mem_filter.mp hl).2
      have hall : new.filter (fun l => l.orderId = orderId) = new := by
        rw [List.filter_eq_self]
        intro l hl
        simpa using (hids l hl).1
      unfold Database.orderLinesOf
      rw [hrows, List.filter_append, hall]
      exact congrArg (· ++ new) hgone
    refine ⟨⟨honly.db_eq, honly.items_eq⟩, fun o ho => ?_, fun hnothing => absurd hnothing hne,
      fun _ => ⟨by rw [hself, hnew], fun l hl => (hids l (hself ▸ hl)).2⟩⟩
    have hkept : (t.db.orderLines.rows.filter fun l => ¬l.orderId = orderId).filter
        (fun l => l.orderId = o) = t.db.orderLines.rows.filter fun l => l.orderId = o := by
      rw [List.filter_filter]
      apply List.filter_congr
      intro l _
      by_cases hl : l.orderId = o
      · simp [hl, ho]
      · simp [hl]
    have hnone : new.filter (fun l => l.orderId = o) = [] := by
      rw [List.filter_eq_nil_iff]
      intro l hl
      rw [(hids l hl).1]
      simpa using Ne.symm ho
    unfold Database.orderLinesOf
    rw [hrows, List.filter_append, hnone, List.append_nil]
    exact hkept

/-- The lines of the order stay exactly when the payload asks for nothing. -/
theorem LinesWritten.unchanged_iff (h : LinesWritten orderId items t t') :
    t'.db.orderLinesOf orderId = t.db.orderLinesOf orderId ↔ extractReqQty items = [] := by
  constructor
  · intro hsame
    by_contra hne
    obtain ⟨hlines, hids⟩ := h.written hne
    have hsome : t'.db.orderLinesOf orderId ≠ [] := by
      intro hnil
      rw [hnil] at hlines
      exact hne hlines.symm
    obtain ⟨l, hl⟩ := List.exists_mem_of_ne_nil _ hsome
    have hnew := hids l hl
    rw [hsame] at hl
    have hold := t.lines_lt l (mem_orderLinesOf.mp hl).1
    omega
  · exact h.nothing

/-- The lines of a new order ask for what the payload asks for. -/
theorem LinesWritten.reqQtyOf (h : LinesWritten orderId items t t')
    (hnew : t.db.orderLinesOf orderId = []) (hitems : ∀ it ∈ items, it.itemId ≠ none) (i : ℕ) :
    t'.reqQtyOf orderId i = payloadQty (items.filter IngestItem.Asks) i := by
  have hlines : (t'.db.orderLinesOf orderId).map (fun l => (l.itemId, l.reqQty)) =
      extractReqQty items := by
    by_cases hne : extractReqQty items = []
    · rw [h.nothing hne, hnew, hne]
      rfl
    · exact (h.written hne).1
  rw [← sum_extractReqQty hitems, ← hlines, List.filter_map, List.map_map]
  rfl

/-! ## The whole call -/

/-- What an accepted call does. -/
structure Ingested (call : IngestCall) (t : OmsTables) (r : IngestResult) (t' : OmsTables) :
    Prop where
  orders : ∀ o ∈ t.db.orders.rows, o ∈ t'.db.orders.rows
  events : t'.db.eventBook = t.db.eventBook
  others : ∀ o, o ≠ r.id → t'.db.orderLinesOf o = t.db.orderLinesOf o
  again : t.orderOf call ≠ none →
    (t'.db.orderLinesOf r.id = t.db.orderLinesOf r.id ↔ extractReqQty call.items = [])
  unstored : t.orderOf call = none → ∀ o ∈ t.db.orders.rows, o.id ≠ r.id
  sums : t.orderOf call = none → ∀ i,
    t'.tables.orderedOf r.id i = payloadQty (firstOfSku [] call.items) i ∧
      t'.reqQtyOf r.id i = payloadQty (call.items.filter IngestItem.Asks) i

/-- Routing touches nothing but the fulfilment rows. -/
theorem upsertRoute_run_ok {route : RoutePayload}
    (h : (upsertOrderFulfillmentRoute orderId route).run t = .ok (u, t')) :
    t'.tables = t.tables := by
  unfold upsertOrderFulfillmentRoute upsertFulfillment insertFulfillment at h
  simp only [Tx.run_bind_ok, Tx.run_get_ok, Tx.run_failIf_ok] at h
  obtain ⟨_, _, ⟨rfl, rfl⟩, _, _, ⟨-, rfl⟩, _, _, ⟨rfl, rfl⟩, h⟩ := h
  split at h
  · simp only [Tx.run_bind_ok, Tx.run_get_ok, Tx.run_failIf_ok, Tx.run_demand_ok,
      Tx.run_set_ok] at h
    obtain ⟨_, _, ⟨rfl, rfl⟩, _, _, ⟨-, rfl⟩, rows, _, ⟨-, rfl⟩, rfl⟩ := h
    rfl
  · rw [← Tx.run_modify_ok.mp h]
    rfl

theorem ingest_run_ok {r : IngestResult} (h : (ingest call).run t = .ok (r, t')) :
    Ingested call t r t' := by
  unfold ingest at h
  simp only [Tx.run_bind_ok] at h
  obtain ⟨⟨order, hit⟩, t₁, hhead, h⟩ := h
  rcases insertOrder_run_ok hhead with ⟨rfl, horder, rfl⟩ | ⟨rfl, hnone, hfree, hrows, hdb, hitems,
    hseq⟩
  · simp only [if_true, Tx.run_bind_ok, Tx.run_get_ok, Tx.run_pure_ok] at h
    obtain ⟨_, t₂, hlines, _, _, ⟨rfl, rfl⟩, rfl, rfl⟩ := h
    have hwritten := insertOrderLines_run_ok hlines
    have hknown : t₁.orderOf call ≠ none := by
      rw [horder]
      exact Option.some_ne_none _
    refine ⟨fun o ho => ?_, ?_, hwritten.others, fun _ => hwritten.unchanged_iff,
      fun hnone => absurd hnone hknown, fun hnone => absurd hnone hknown⟩
    · rw [hwritten.frame.db_eq]
      exact ho
    · rw [hwritten.frame.db_eq]
  · simp only [Bool.false_eq_true, if_false, Tx.run_bind_ok, Tx.run_get_ok, Tx.run_pure_ok] at h
    obtain ⟨_, t₂, hloop, _, t₃, hlines, _, _, ⟨rfl, rfl⟩, _, t₄, hroute, rfl, rfl⟩ := h
    -- an order that was not stored has neither items nor lines
    have hnoItems : ∀ oi ∈ t₁.tables.orderItems.rows, oi.orderId ≠ order.id := by
      intro oi hoi heq
      rw [hitems] at hoi
      obtain ⟨o, ho, hid⟩ := t.items_fk oi hoi
      exact hfree o ho (hid.trans heq)
    have hnoSku : ∀ sku, sku ∈ ([] : List (Varchar 128)) ↔ t₁.HasSku order.id sku := by
      intro sku
      refine iff_of_false List.not_mem_nil ?_
      rintro ⟨oi, hoi, heq, -⟩
      exact hnoItems oi hoi heq
    obtain ⟨hall, hdb₂, -, hsum⟩ := insertOrderItems_run_ok hnoSku hloop
    have hwritten := insertOrderLines_run_ok hlines
    have htables : t₄.tables = t₃.tables := upsertRoute_run_ok hroute
    have hdb₄ : t₄.db = t₃.db := congrArg OrderTables.db htables
    have hsame : ∀ o, t₂.db.orderLinesOf o = t.db.orderLinesOf o := by
      intro o
      rw [hdb₂, hdb]
      rfl
    have hnoLines : t₂.db.orderLinesOf order.id = [] := by
      rw [hsame, Database.orderLinesOf, List.filter_eq_nil_iff]
      intro l hl
      obtain ⟨o, ho, hid⟩ := t.lines_fk l hl
      have hne := hfree o ho
      rw [hid] at hne
      simpa using hne
    have hnoOrdered : ∀ i, t₁.tables.orderedOf order.id i = 0 := by
      intro i
      unfold OrderTables.orderedOf OrderTables.itemRows
      have hnil : (t₁.tables.orderItems.rows.filter fun oi =>
          oi.orderId = order.id ∧ oi.itemId = i) = [] := by
        rw [List.filter_eq_nil_iff]
        intro oi hoi
        simpa using fun heq => absurd heq (hnoItems oi hoi)
      rw [hnil]
      rfl
    refine ⟨fun o ho => ?_, ?_, fun o ho => ?_, fun hknown => absurd hnone hknown,
      fun _ => hfree, fun _ i => ⟨?_, ?_⟩⟩
    · rw [hdb₄, hwritten.frame.db_eq]
      change o ∈ t₂.db.orders.rows
      rw [hdb₂, hrows]
      exact List.mem_append_left _ ho
    · rw [hdb₄, hwritten.frame.db_eq]
      change t₂.db.eventBook = _
      rw [hdb₂, hdb]
    · rw [hdb₄, hwritten.others o ho, hsame]
    · have hkept : t₄.tables.orderItems = t₂.tables.orderItems := by
        rw [htables, hwritten.frame.items_eq]
      have hordered : t₄.tables.orderedOf order.id i = t₂.tables.orderedOf order.id i := by
        unfold OrderTables.orderedOf OrderTables.itemRows
        rw [hkept]
      rw [hordered, hsum, hnoOrdered, zero_add]
    · have hreq : t₄.reqQtyOf order.id i = t₃.reqQtyOf order.id i := by
        unfold OmsTables.reqQtyOf
        rw [hdb₄]
      rw [hreq, hwritten.reqQtyOf hnoLines hall]

/-! ## Runs -/

/-- The orders that items and lines refer to are stored. -/
def OmsTables.ForeignKeys (t : OmsTables) (db : Database) : Prop :=
  (∀ oi ∈ t.tables.orderItems.rows, ∃ o ∈ db.orders.rows, o.id = oi.orderId) ∧
    ∀ l ∈ db.orderLines.rows, ∃ o ∈ db.orders.rows, o.id = l.orderId

instance (t : OmsTables) (db : Database) : Decidable (t.ForeignKeys db) :=
  inferInstanceAs (Decidable ((∀ _ ∈ _, ∃ _ ∈ _, _) ∧ ∀ _ ∈ _, ∃ _ ∈ _, _))

/-- Replace the database. -/
def OmsTables.putDatabase (t : OmsTables) (db : Database) (h : t.ForeignKeys db) : OmsTables where
  tables := { t.tables with db := db }
  fulfillment := t.fulfillment
  areas := t.areas
  lineSeq := max t.lineSeq (nextId (db.orderLines.rows.map OrderLine.id))
  items_fk := h.1
  lines_fk := h.2
  lines_lt _ hl := lt_max_of_lt_right (lt_nextId (List.mem_map_of_mem hl))

/-- Statements on the database. -/
def inDatabase (x : Trans PUnit) : OmsTx PUnit := fun t =>
  match x.run t.db with
  | .ok (_, db) =>
    if h : t.ForeignKeys db then .ok (⟨⟩, t.putDatabase db h)
    else .error (.integrityError "order_lines_order_id_fkey")
  | .error e => .error e

/-- An ingest of an order, or any other operation of the system: shipments among them. -/
inductive OrderOp
  | ingest (call : IngestCall)
  | database (op : Op)

namespace OrderOp

/-- Carry out one operation. -/
def exec : OrderOp → OmsTx PUnit
  | ingest call => (fun _ => ⟨⟩) <$> Wms.ingest call
  | database op => inDatabase op.exec

/-- A stored order is taken in again without asking for anything, and what a new order
skips adds up to nothing. -/
def LosesNothing : OrderOp → OmsTables → Prop
  | ingest call, t =>
    (t.orderOf call ≠ none → extractReqQty call.items = []) ∧
      (t.orderOf call = none → AddsUp call.items)
  | database _, _ => True

end OrderOp

namespace OmsTables

/-- The state after the first `n` operations. -/
def afterOrders (t : OmsTables) (ops : List OrderOp) (n : ℕ) : OmsTables :=
  Tx.attemptAll OrderOp.exec (ops.take n) t

/-- Every order that is stored keeps its lines. -/
def KeepsLines (t t' : OmsTables) : Prop :=
  ∀ o ∈ t.db.orders.rows, o ∈ t'.db.orders.rows ∧ t'.db.orderLinesOf o.id = t.db.orderLinesOf o.id

instance : IsPreorder OmsTables KeepsLines where
  refl t o ho := ⟨ho, rfl⟩
  trans t t' t'' h h' o ho := by
    obtain ⟨ho', hlines⟩ := h o ho
    obtain ⟨ho'', hlines'⟩ := h' o ho'
    exact ⟨ho'', hlines'.trans hlines⟩

end OmsTables

/-- What an accepted call should do: items and lines of a new order add up to the payload,
and a stored order keeps its lines and their progress. -/
structure IngestSound (call : IngestCall) (t : OmsTables) (r : IngestResult) (t' : OmsTables) :
    Prop where
  conserving : t.orderOf call = none → ∀ i,
    t'.tables.orderedOf r.id i = payloadQty call.items i ∧
      t'.reqQtyOf r.id i = payloadQty call.items i
  lines : t.orderOf call ≠ none → t'.db.orderLinesOf r.id = t.db.orderLinesOf r.id
  progress : t.orderOf call ≠ none → ∀ lineId,
    orderProgress t'.db r.id lineId = orderProgress t.db r.id lineId

/-- Over a run every accepted ingest is sound, and an order keeps its lines from when it is
stored. -/
structure IngestKept (t : OmsTables) (ops : List OrderOp) : Prop where
  sound : ∀ n call r t', ops[n]? = some (.ingest call) →
    (ingest call).run (t.afterOrders ops n) = .ok (r, t') →
      IngestSound call (t.afterOrders ops n) r t'
  stable : ∀ n m, n ≤ m → OmsTables.KeepsLines (t.afterOrders ops n) (t.afterOrders ops m)

/-- A call is sound exactly when it loses nothing. -/
theorem ingestSound_iff {r : IngestResult} (h : (ingest call).run t = .ok (r, t')) :
    IngestSound call t r t' ↔ (OrderOp.ingest call).LosesNothing t := by
  have hingested := ingest_run_ok h
  constructor
  · intro hsound
    refine ⟨fun hknown => (hingested.again hknown).mp (hsound.lines hknown), fun hnew i => ?_⟩
    obtain ⟨hitems, hlines⟩ := hsound.conserving hnew i
    obtain ⟨hitems', hlines'⟩ := hingested.sums hnew i
    exact ⟨hitems'.symm.trans hitems, hlines'.symm.trans hlines⟩
  · rintro ⟨hagain, hsums⟩
    have hlines : t.orderOf call ≠ none → t'.db.orderLinesOf r.id = t.db.orderLinesOf r.id :=
      fun hknown => (hingested.again hknown).mpr (hagain hknown)
    refine ⟨fun hnew i => ?_, hlines, fun hknown lineId => ?_⟩
    · obtain ⟨hitems, hreq⟩ := hsums hnew i
      obtain ⟨hitems', hreq'⟩ := hingested.sums hnew i
      exact ⟨hitems'.trans hitems, hreq'.trans hreq⟩
    · unfold orderProgress
      rw [hlines hknown, hingested.events]

/-- A sound call keeps the lines of all stored orders. -/
theorem IngestSound.keepsLines {r : IngestResult} (hsound : IngestSound call t r t')
    (h : Ingested call t r t') : OmsTables.KeepsLines t t' := by
  intro o ho
  refine ⟨h.orders o ho, ?_⟩
  by_cases hid : o.id = r.id
  · have hknown : t.orderOf call ≠ none := fun hnone => h.unstored hnone o ho hid
    rw [hid]
    exact hsound.lines hknown
  · exact h.others o.id hid

/-- An operation on the database adds lines to new orders only. -/
theorem Step.keepsLines {db db' : Database} {op : Op} (h : Step db op db') :
    ∀ o ∈ db.orders.rows, o ∈ db'.orders.rows ∧ db'.orderLinesOf o.id = db.orderLinesOf o.id := by
  intro o ho
  by_cases hbrings : op.BringsDocuments
  · cases h with
    | addWarehouse h =>
      rw [(addWarehouse_run_ok h).2]
      exact ⟨ho, rfl⟩
    | createManualDoc h =>
      rw [(createManualDoc_run_ok h).2.2.2.2]
      exact ⟨ho, rfl⟩
    | @importOrder o' lines _ h =>
      unfold Wms.importOrder at h
      simp only [Tx.run_bind_ok, Tx.run_failIf_ok, Tx.run_get_ok, Tx.run_demand_ok,
        Tx.run_set_ok] at h
      obtain ⟨_, _, ⟨-, rfl⟩, _, _, ⟨hown, rfl⟩, _, _, ⟨rfl, rfl⟩, orders, _, ⟨horders, rfl⟩,
        orderLines, _, ⟨hlines, rfl⟩, rfl⟩ := h
      push Not at hown
      refine ⟨Table.mem_of_insert horders ho, ?_⟩
      have hother : o.id ≠ o'.id := (Table.insert_eq_some.mp horders).1 o ho
      have hnone : lines.filter (fun l => l.orderId = o.id) = [] := by
        rw [List.filter_eq_nil_iff]
        intro l hl
        rw [hown l hl]
        simpa using Ne.symm hother
      unfold Database.orderLinesOf
      rw [rows_insertAll hlines, List.filter_append, hnone, List.append_nil]
    | _ => exact hbrings.elim
  · have hsame := h.sameDocuments hbrings
    unfold Database.orderLinesOf
    rw [hsame.orders_eq, hsame.orderLines_eq]
    exact ⟨ho, rfl⟩

/-- An accepted operation that loses nothing keeps the lines. -/
theorem OrderOp.keepsLines {op : OrderOp} (hop : op.LosesNothing t)
    (h : op.exec.run t = .ok (u, t')) : OmsTables.KeepsLines t t' := by
  cases op with
  | ingest call =>
    obtain ⟨r, hrun, -⟩ := Tx.run_map_ok.mp h
    exact ((ingestSound_iff hrun).mpr hop).keepsLines (ingest_run_ok hrun)
  | database op =>
    dsimp only [OrderOp.exec, inDatabase, StateT.run] at h
    split at h
    · rename_i hexec
      split at h
      · obtain ⟨-, rfl⟩ := Prod.mk.inj (Except.ok.inj h)
        exact (Op.step_of_exec hexec).keepsLines
      · cases h
    · cases h

/-- Over a run of ingests and other operations, every ingest is sound and the orders keep
their lines exactly when the accepted ingests lose nothing. -/
theorem ingestKept_iff (t : OmsTables) (ops : List OrderOp) :
    IngestKept t ops ↔ Tx.AllAccepted OrderOp.exec OrderOp.LosesNothing ops t := by
  constructor
  · intro hkept
    apply Tx.allAccepted_of_at
    intro n op u t' hop hrun
    cases op with
    | ingest call =>
      obtain ⟨r, hingest, -⟩ := Tx.run_map_ok.mp hrun
      exact (ingestSound_iff hingest).mp (hkept.sound n call r t' hop hingest)
    | database op => trivial
  · intro hall
    constructor
    · intro n call r t' hop hingest
      have hrun : (OrderOp.ingest call).exec.run (t.afterOrders ops n) = .ok (⟨⟩, t') :=
        Tx.run_map_ok.mpr ⟨r, hingest, rfl⟩
      exact (ingestSound_iff hingest).mpr (hall.at hop hrun)
    · intro n m hle
      have hstep : ∀ (op : OrderOp) (t : OmsTables) (u : PUnit) (t' : OmsTables), True →
          op.LosesNothing t → op.exec.run t = .ok (u, t') → True ∧ OmsTables.KeepsLines t t' :=
        fun _ _ _ _ _ hop hrun => ⟨trivial, OrderOp.keepsLines hop hrun⟩
      exact (Tx.attemptAll_along hstep trivial hall hle).2

/-! ## Taking in the same order twice -/

/-- No orders. -/
def noOrdersYet : OmsTables := .noOrders .empty ⟨[], [], []⟩

/-- An order of two pieces of an item. -/
def twoPieces : IngestCall where
  platform := "JD"
  storeCode := "S2"
  extOrderNo := "2001"
  buyerName := none
  buyerPhone := none
  items := [⟨some 3, some "B3", none, some 2⟩]
  address := ⟨none, none, none, none⟩

/-- The second call gives the line another identifier. -/
theorem not_ingestKept_twice :
    ¬∀ (t : OmsTables) (ops : List OrderOp), IngestKept t ops := by
  intro h
  have hstable := (h noOrdersYet [.ingest twoPieces, .ingest twoPieces]).stable 1 2 (by decide)
  have horders : (noOrdersYet.afterOrders [.ingest twoPieces, .ingest twoPieces]
      1).db.orders.rows.map Order.id = [1] := by
    decide +kernel
  have hbefore : ((noOrdersYet.afterOrders [.ingest twoPieces, .ingest twoPieces]
      1).db.orderLinesOf 1).map OrderLine.id = [1] := by
    decide +kernel
  have hafter : ((noOrdersYet.afterOrders [.ingest twoPieces, .ingest twoPieces]
      2).db.orderLinesOf 1).map OrderLine.id = [2] := by
    decide +kernel
  obtain ⟨o, ho, hid⟩ := List.mem_map.mp (horders ▸ List.mem_singleton_self _)
  have hsame := (hstable o ho).2
  rw [hid] at hsame
  rw [hsame, hbefore] at hafter
  exact absurd hafter (by decide)

end Wms

import Wms.Oms.ReadySync

/-!
# The projection has whole trees

An order of the projection is written with its lines and its components, or not at all. So every
row counts its own children, in every state that syncs reach, and a sync leaves for each order the
tree that it has fetched last.
-/

namespace Wms.Oms

open Foundation

/-! ## Writing a tree -/

theorem text_eq_iff {n : ℕ} {v w : Varchar n} : v.text = w.text ↔ v = w := by
  cases v
  cases w
  simp

/-- The rows of the tree of an order. -/
structure Tree where
  order : OrderProjection
  lines : List LineProjection
  components : List ComponentProjection

/-- The tree is that of an order of the list. -/
structure Tree.IsOf (hash : ModelHash) (ready : ReadyOrderIn) (t : Tree) : Prop where
  order_eq : orderRow hash ready = .ok t.order
  lines_eq : List.Forall₂ (fun line l => lineRow hash ready line = .ok l) ready.lines t.lines
  components_eq : List.Forall₂ (fun component c => componentRow hash ready component = .ok c)
    ready.components t.components

/-- The tree takes the place of the one with its identifier. -/
structure Tree.Replaces (t : Tree) (p p' : Projection) : Prop where
  orders : ∀ o, o ∈ p'.orders.rows ↔
    o = t.order ∨ (o ∈ p.orders.rows ∧ o.readyOrderId ≠ t.order.readyOrderId)
  lines : p'.lines.rows =
    (p.lines.rows.filter fun l => l.readyOrderId ≠ t.order.readyOrderId) ++ t.lines
  components : p'.components.rows =
    (p.components.rows.filter fun c => c.readyOrderId ≠ t.order.readyOrderId) ++ t.components

section Upsert

variable {hash : ModelHash} {ready : ReadyOrderIn} {p p' : Projection}

theorem insertLines_run {lines : List ReadyLineIn} {u : Unit}
    (h : (lines.forM (insertLine hash ready)).run p = .ok (u, p')) :
    p'.orders = p.orders ∧ p'.components = p.components ∧ ∃ rows,
      List.Forall₂ (fun line l => lineRow hash ready line = .ok l) lines rows ∧
        p'.lines.rows = p.lines.rows ++ rows := by
  induction lines generalizing p with
  | nil =>
    obtain rfl := Tx.run_forM_nil_ok.mp h
    exact ⟨rfl, rfl, [], .nil, by simp⟩
  | cons line lines ih =>
    obtain ⟨p₁, hline, hrest⟩ := Tx.run_forM_cons_ok.mp h
    obtain ⟨row, p₂, hrow, hline⟩ := Tx.run_bind_ok.mp hline
    obtain ⟨hstored, rfl⟩ := Tx.run_ofExcept_ok.mp hrow
    obtain ⟨p₃, p₄, hget, hline⟩ := Tx.run_bind_ok.mp hline
    obtain ⟨rfl, rfl⟩ := Tx.run_get_ok.mp hget
    obtain ⟨t, p₅, hinsert, hline⟩ := Tx.run_bind_ok.mp hline
    obtain ⟨hinserted, rfl⟩ := Tx.run_demand_ok.mp hinsert
    obtain rfl := Tx.run_set_ok.mp hline
    obtain ⟨horders, hcomponents, rows, hrows, heq⟩ := ih hrest
    refine ⟨horders, hcomponents, row :: rows, .cons hstored hrows, ?_⟩
    rw [heq, (Table.insert_eq_some.mp hinserted).2]
    simp

theorem insertComponents_run {components : List ReadyComponentIn} {u : Unit}
    (h : (components.forM (insertComponent hash ready)).run p = .ok (u, p')) :
    p'.orders = p.orders ∧ p'.lines = p.lines ∧ ∃ rows,
      List.Forall₂ (fun component c => componentRow hash ready component = .ok c)
        components rows ∧ p'.components.rows = p.components.rows ++ rows := by
  induction components generalizing p with
  | nil =>
    obtain rfl := Tx.run_forM_nil_ok.mp h
    exact ⟨rfl, rfl, [], .nil, by simp⟩
  | cons component components ih =>
    obtain ⟨p₁, hcomponent, hrest⟩ := Tx.run_forM_cons_ok.mp h
    obtain ⟨row, p₂, hrow, hcomponent⟩ := Tx.run_bind_ok.mp hcomponent
    obtain ⟨hstored, rfl⟩ := Tx.run_ofExcept_ok.mp hrow
    obtain ⟨p₃, p₄, hget, hcomponent⟩ := Tx.run_bind_ok.mp hcomponent
    obtain ⟨rfl, rfl⟩ := Tx.run_get_ok.mp hget
    obtain ⟨t, p₅, hinsert, hcomponent⟩ := Tx.run_bind_ok.mp hcomponent
    obtain ⟨hinserted, rfl⟩ := Tx.run_demand_ok.mp hinsert
    obtain rfl := Tx.run_set_ok.mp hcomponent
    obtain ⟨horders, hlines, rows, hrows, heq⟩ := ih hrest
    refine ⟨horders, hlines, row :: rows, .cons hstored hrows, ?_⟩
    rw [heq, (Table.insert_eq_some.mp hinserted).2]
    simp

theorem orderRow_ok {o : OrderProjection} (h : orderRow hash ready = .ok o) :
    Varchar.store 192 ready.readyOrderId = .ok o.readyOrderId ∧
      o.lineCount = ready.lines.length ∧ o.componentCount = ready.components.length := by
  simp only [orderRow, except_bind_eq_ok] at h
  obtain ⟨_, -, _, -, _, -, id, hid, _, -, _, -, _, -, _, -, _, -, _, -, _, -, _, -, _, -, _, -, _, -,
    _, -, h⟩ := h
  split at h
  · cases h
    exact ⟨hid, rfl, rfl⟩
  · cases h

theorem lineRow_ok {line : ReadyLineIn} {l : LineProjection}
    (h : lineRow hash ready line = .ok l) :
    Varchar.store 192 ready.readyOrderId = .ok l.readyOrderId := by
  simp only [lineRow, except_bind_eq_ok] at h
  obtain ⟨_, -, _, -, id, hid, _, -, _, -, _, -, _, -, _, -, _, -, _, -, _, -, _, -, _, -, _, -, h⟩ := h
  split at h
  · cases h
    exact hid
  · cases h

theorem componentRow_ok {component : ReadyComponentIn} {c : ComponentProjection}
    (h : componentRow hash ready component = .ok c) :
    Varchar.store 192 ready.readyOrderId = .ok c.readyOrderId := by
  simp only [componentRow, except_bind_eq_ok] at h
  obtain ⟨_, -, _, -, _, -, _, -, id, hid, _, -, _, -, _, -, _, -, _, -, _, -, _, -, h⟩ := h
  split at h
  · split at h
    · split at h
      · split at h
        · cases h
          exact hid
        · cases h
      · cases h
    · cases h
  · cases h

/-- Writing an order puts its tree in the place of the one that was there. -/
theorem upsertOrderTree_run {counts : ℕ × ℕ × ℕ} (hid : Varchar.Verbatim 192 ready.readyOrderId)
    (h : (upsertOrderTree hash ready).run p = .ok (counts, p')) :
    counts = (1, ready.lines.length, ready.components.length) ∧
      ∃ t : Tree, t.IsOf hash ready ∧ t.Replaces p p' := by
  obtain ⟨u, p₁, hmodify, h⟩ := Tx.run_bind_ok.mp h
  obtain rfl := Tx.run_modify_ok.mp hmodify
  obtain ⟨row, p₂, hrow, h⟩ := Tx.run_bind_ok.mp h
  obtain ⟨hstored, rfl⟩ := Tx.run_ofExcept_ok.mp hrow
  obtain ⟨p₃, p₄, hget, h⟩ := Tx.run_bind_ok.mp h
  obtain ⟨rfl, rfl⟩ := Tx.run_get_ok.mp hget
  obtain ⟨orders, p₅, hput, h⟩ := Tx.run_bind_ok.mp h
  obtain ⟨hputs, rfl⟩ := Tx.run_demand_ok.mp hput
  obtain ⟨u', p₆, hset, h⟩ := Tx.run_bind_ok.mp h
  obtain rfl := Tx.run_set_ok.mp hset
  obtain ⟨u₁, p₇, hlines, h⟩ := Tx.run_bind_ok.mp h
  obtain ⟨u₂, p₈, hcomponents, h⟩ := Tx.run_bind_ok.mp h
  obtain ⟨rfl, rfl⟩ := Tx.run_pure_ok.mp h
  obtain ⟨horders₁, hcomponents₁, lines, hlinesOf, hlinesEq⟩ := insertLines_run hlines
  obtain ⟨horders₂, hlines₂, components, hcomponentsOf, hcomponentsEq⟩ :=
    insertComponents_run hcomponents
  have htext : row.readyOrderId.text = ready.readyOrderId :=
    hid.text_of_store (orderRow_ok hstored).1
  have hne : ∀ v : Varchar 192, v.text ≠ ready.readyOrderId ↔ v ≠ row.readyOrderId := by
    intro v
    rw [← htext, not_iff_not]
    exact text_eq_iff
  refine ⟨rfl, ⟨row, lines, components⟩, ⟨hstored, hlinesOf, hcomponentsOf⟩, ?_, ?_, ?_⟩
  · intro o
    rw [horders₂, horders₁]
    exact Mirror.mem_put hputs o
  · rw [hlines₂, hlinesEq]
    simp only [replaceOrderChildren, Table.filter, hne]
  · rw [hcomponentsEq, hcomponents₁]
    simp only [replaceOrderChildren, Table.filter, hne]

end Upsert

/-! ## Trees that are stored -/

/-- The projection has the tree. -/
structure Projection.HasTree (p : Projection) (t : Tree) : Prop where
  order_mem : t.order ∈ p.orders.rows
  lines_eq : p.linesOf t.order.readyOrderId = t.lines
  components_eq : p.componentsOf t.order.readyOrderId = t.components

/-- The projection has an order with the identifier. -/
def Projection.Has (p : Projection) (id : Varchar 192) : Prop :=
  ∃ o ∈ p.orders.rows, o.readyOrderId = id

/-- Each order counts its children, and each child has its order. -/
structure Whole (p : Projection) : Prop where
  line_count : ∀ o ∈ p.orders.rows, o.lineCount = (p.linesOf o.readyOrderId).length
  component_count : ∀ o ∈ p.orders.rows, o.componentCount = (p.componentsOf o.readyOrderId).length
  line_order : ∀ l ∈ p.lines.rows, p.Has l.readyOrderId
  component_order : ∀ c ∈ p.components.rows, p.Has c.readyOrderId

section Trees

variable {hash : ModelHash} {ready : ReadyOrderIn} {t : Tree} {p p' : Projection}

theorem Tree.IsOf.line_id (h : t.IsOf hash ready) {l : LineProjection} (hl : l ∈ t.lines) :
    l.readyOrderId = t.order.readyOrderId := by
  obtain ⟨line, -, hrow⟩ := exists_of_forall₂ h.lines_eq.flip hl
  exact Except.ok.inj ((lineRow_ok hrow).symm.trans (orderRow_ok h.order_eq).1)

theorem Tree.IsOf.component_id (h : t.IsOf hash ready) {c : ComponentProjection}
    (hc : c ∈ t.components) : c.readyOrderId = t.order.readyOrderId := by
  obtain ⟨component, -, hrow⟩ := exists_of_forall₂ h.components_eq.flip hc
  exact Except.ok.inj ((componentRow_ok hrow).symm.trans (orderRow_ok h.order_eq).1)

/-- A key that selects the new rows only, or old ones only. -/
theorem filter_replaced {ρ : Type} {key : ρ → Varchar 192} {old new : List ρ} {id : Varchar 192}
    (hnew : ∀ r ∈ new, key r = id) (k : Varchar 192) :
    ((old.filter fun r => key r ≠ id) ++ new).filter (fun r => key r = k) =
      if k = id then new else old.filter fun r => key r = k := by
  rw [List.filter_append, List.filter_filter]
  split
  · rename_i hk
    subst hk
    have hall : new.filter (fun r => key r = k) = new :=
      List.filter_eq_self.mpr fun r hr => decide_eq_true (hnew r hr)
    rw [hall, List.filter_eq_nil_iff.mpr, List.nil_append]
    intro r _
    simp
  · rename_i hk
    have hnone : new.filter (fun r => key r = k) = [] := by
      rw [List.filter_eq_nil_iff]
      intro r hr
      rw [hnew r hr]
      simpa using Ne.symm hk
    rw [hnone, List.append_nil]
    apply List.filter_congr
    intro r _
    by_cases hr : key r = k
    · simp [hr, hk]
    · simp [hr]

theorem Tree.Replaces.linesOf_eq (h : t.Replaces p p') (ht : t.IsOf hash ready)
    (id : Varchar 192) :
    p'.linesOf id = if id = t.order.readyOrderId then t.lines else p.linesOf id := by
  unfold Projection.linesOf
  rw [h.lines]
  exact filter_replaced (fun l hl => ht.line_id hl) id

theorem Tree.Replaces.componentsOf_eq (h : t.Replaces p p') (ht : t.IsOf hash ready)
    (id : Varchar 192) :
    p'.componentsOf id = if id = t.order.readyOrderId then t.components else p.componentsOf id := by
  unfold Projection.componentsOf
  rw [h.components]
  exact filter_replaced (fun c hc => ht.component_id hc) id

/-- Afterwards the tree is there, and of the others those with other identifiers. -/
theorem Tree.Replaces.hasTree_iff (h : t.Replaces p p') (ht : t.IsOf hash ready) (a : Tree) :
    p'.HasTree a ↔ a = t ∨ (p.HasTree a ∧ a.order.readyOrderId ≠ t.order.readyOrderId) := by
  by_cases hid : a.order.readyOrderId = t.order.readyOrderId
  · have hlines := h.linesOf_eq ht a.order.readyOrderId
    have hcomponents := h.componentsOf_eq ht a.order.readyOrderId
    rw [if_pos hid] at hlines hcomponents
    constructor
    · rintro ⟨horder, hlinesOf, hcomponentsOf⟩
      have hrow := ((h.orders a.order).mp horder).resolve_right fun hold => hold.2 hid
      cases a
      cases t
      simp_all
    · rintro (rfl | ⟨-, hne⟩)
      · exact ⟨(h.orders a.order).mpr (.inl rfl), hlines, hcomponents⟩
      · exact absurd hid hne
  · have hlines := h.linesOf_eq ht a.order.readyOrderId
    have hcomponents := h.componentsOf_eq ht a.order.readyOrderId
    rw [if_neg hid] at hlines hcomponents
    constructor
    · rintro ⟨horder, hlinesOf, hcomponentsOf⟩
      rcases (h.orders a.order).mp horder with heq | ⟨hold, -⟩
      · exact absurd (congrArg OrderProjection.readyOrderId heq) hid
      · exact .inr ⟨⟨hold, hlines.symm.trans hlinesOf, hcomponents.symm.trans hcomponentsOf⟩, hid⟩
    · rintro (rfl | ⟨⟨horder, hlinesOf, hcomponentsOf⟩, -⟩)
      · exact absurd rfl hid
      · exact ⟨(h.orders a.order).mpr (.inr ⟨horder, hid⟩), hlines.trans hlinesOf,
          hcomponents.trans hcomponentsOf⟩

theorem Tree.Replaces.has (h : t.Replaces p p') {id : Varchar 192} (hid : p.Has id) :
    p'.Has id := by
  obtain ⟨o, ho, rfl⟩ := hid
  by_cases hsame : o.readyOrderId = t.order.readyOrderId
  · exact ⟨t.order, (h.orders t.order).mpr (.inl rfl), hsame.symm⟩
  · exact ⟨o, (h.orders o).mpr (.inr ⟨ho, hsame⟩), rfl⟩

theorem Whole.replace (hp : Whole p) (h : t.Replaces p p') (ht : t.IsOf hash ready) :
    Whole p' := by
  have hlength := ht.lines_eq.length_eq
  have hlength' := ht.components_eq.length_eq
  obtain ⟨-, hlineCount, hcomponentCount⟩ := orderRow_ok ht.order_eq
  have hexists : ∀ id, (id = t.order.readyOrderId ∨ p.Has id) → p'.Has id := by
    rintro id (rfl | hid)
    · exact ⟨t.order, (h.orders t.order).mpr (.inl rfl), rfl⟩
    · exact h.has hid
  refine ⟨fun o ho => ?_, fun o ho => ?_, fun l hl => ?_, fun c hc => ?_⟩
  · rw [h.linesOf_eq ht]
    rcases (h.orders o).mp ho with rfl | ⟨hold, hne⟩
    · rw [if_pos rfl, hlineCount, hlength]
    · rw [if_neg hne]
      exact hp.line_count o hold
  · rw [h.componentsOf_eq ht]
    rcases (h.orders o).mp ho with rfl | ⟨hold, hne⟩
    · rw [if_pos rfl, hcomponentCount, hlength']
    · rw [if_neg hne]
      exact hp.component_count o hold
  · rw [h.lines, List.mem_append, List.mem_filter] at hl
    rcases hl with ⟨hold, -⟩ | hnew
    · exact hexists _ (.inr (hp.line_order l hold))
    · exact hexists _ (.inl (ht.line_id hnew))
  · rw [h.components, List.mem_append, List.mem_filter] at hc
    rcases hc with ⟨hold, -⟩ | hnew
    · exact hexists _ (.inr (hp.component_order c hold))
    · exact hexists _ (.inl (ht.component_id hnew))

end Trees

/-! ## What was written last -/

/-- The projection has the trees that were written last, and those of the first state that were
not written again. -/
def Written (base : Projection) (written : List (ModelHash × ReadyOrderIn)) (p : Projection) :
    Prop :=
  ∀ t : Tree, p.HasTree t ↔
    (∃ w, Last (fun later => later.2.readyOrderId = t.order.readyOrderId.text) written w ∧
      t.IsOf w.1 w.2) ∨
    (base.HasTree t ∧ ∀ w ∈ written, w.2.readyOrderId ≠ t.order.readyOrderId.text)

section Written

variable {hash : ModelHash} {ready : ReadyOrderIn} {t : Tree} {base p p' : Projection}
  {written : List (ModelHash × ReadyOrderIn)}

theorem eq_of_forall₂_ok {α β : Type} {f : α → Except Err β} {as : List α} {bs cs : List β}
    (hbs : List.Forall₂ (fun a b => f a = .ok b) as bs)
    (hcs : List.Forall₂ (fun a c => f a = .ok c) as cs) : bs = cs := by
  induction hbs generalizing cs with
  | nil =>
    cases hcs
    rfl
  | cons hb _ ih =>
    cases hcs with
    | cons hc hrest => rw [ih hrest, Except.ok.inj (hb.symm.trans hc)]

/-- An order has one tree. -/
theorem Tree.IsOf.unique {a : Tree} (ha : a.IsOf hash ready) (ht : t.IsOf hash ready) : a = t := by
  have horder := Except.ok.inj (ha.order_eq.symm.trans ht.order_eq)
  have hlines := eq_of_forall₂_ok ha.lines_eq ht.lines_eq
  have hcomponents := eq_of_forall₂_ok ha.components_eq ht.components_eq
  cases a
  cases t
  simp_all

theorem Tree.IsOf.text_eq (ht : t.IsOf hash ready)
    (hid : Varchar.Verbatim 192 ready.readyOrderId) :
    t.order.readyOrderId.text = ready.readyOrderId :=
  hid.text_of_store (orderRow_ok ht.order_eq).1

theorem written_nil (p : Projection) : Written p [] p := by
  intro t
  simp [not_last_nil]

theorem Written.replace (h : Written base written p) (ht : t.IsOf hash ready)
    (hid : Varchar.Verbatim 192 ready.readyOrderId) (hreplaces : t.Replaces p p') :
    Written base (written ++ [(hash, ready)]) p' := by
  intro a
  have htext := ht.text_eq hid
  have hne : a.order.readyOrderId ≠ t.order.readyOrderId ↔
      ready.readyOrderId ≠ a.order.readyOrderId.text := by
    rw [← htext, ne_comm, not_iff_not]
    exact text_eq_iff.symm
  have hsame : a = t ↔ a.IsOf hash ready := by
    refine ⟨?_, fun hof => hof.unique ht⟩
    rintro rfl
    exact ht
  rw [hreplaces.hasTree_iff ht, h a, hne, hsame, exists_last_append_singleton,
    List.forall_mem_append, List.forall_mem_singleton]
  rw [or_and_right, or_assoc, and_assoc]

/-- Writing orders one after the other. -/
theorem upsertTrees_run {orders : List ReadyOrderIn} {counts : List (ℕ × ℕ × ℕ)}
    (hids : ∀ ready ∈ orders, Varchar.Verbatim 192 ready.readyOrderId)
    (h : (orders.mapM' (upsertOrderTree hash)).run p = .ok (counts, p')) :
    (Whole p → Whole p') ∧ (∀ id, p.Has id → p'.Has id) ∧ ∀ written,
      Written base written p → Written base (written ++ orders.map (hash, ·)) p' := by
  induction orders generalizing p counts with
  | nil =>
    obtain ⟨-, rfl⟩ := Tx.run_mapM_nil_ok.mp h
    simp
  | cons ready orders ih =>
    obtain ⟨hid, hids⟩ := List.forall_mem_cons.mp hids
    obtain ⟨n, p₁, ns, hfirst, hrest, -⟩ := Tx.run_mapM_cons_ok.mp h
    obtain ⟨-, t, ht, hreplaces⟩ := upsertOrderTree_run hid hfirst
    obtain ⟨hwhole, hhas, hwritten⟩ := ih hids hrest
    refine ⟨fun hp => hwhole (hp.replace hreplaces ht), fun id hp => hhas id (hreplaces.has hp),
      fun written hp => ?_⟩
    have hnext := hwritten (written ++ [(hash, ready)]) (hp.replace ht hid hreplaces)
    rwa [List.append_assoc] at hnext

end Written

/-! ## A list that is served -/

/-- What writing an order counts. -/
def ReadyOrderIn.counts (ready : ReadyOrderIn) : ℕ × ℕ × ℕ :=
  (1, ready.lines.length, ready.components.length)

theorem upsertOrderTree_counts (hash : ModelHash) (ready : ReadyOrderIn) :
    (fun _ => ready.counts) <$> upsertOrderTree hash ready = upsertOrderTree hash ready := by
  simp [upsertOrderTree, ReadyOrderIn.counts]

theorem mapM_counts (hash : ModelHash) (orders : List ReadyOrderIn) :
    (fun _ => orders.map ReadyOrderIn.counts) <$> orders.mapM' (upsertOrderTree hash) =
      orders.mapM' (upsertOrderTree hash) := by
  induction orders with
  | nil => simp
  | cons ready orders ih =>
    rw [List.mapM'_cons, ← upsertOrderTree_counts, ← ih]
    simp

theorem mapM_append (hash : ModelHash) (as bs : List ReadyOrderIn) :
    (as ++ bs).mapM' (upsertOrderTree hash) = (do
      let xs ← as.mapM' (upsertOrderTree hash)
      let ys ← bs.mapM' (upsertOrderTree hash)
      return xs ++ ys) := by
  induction as with
  | nil => simp
  | cons a as ih => simp [ih]

/-- The order system serves its list by offset. -/
def servedReady (orders : List ReadyOrderIn) : ReadyQuery → Except Err ReadyPage := fun query =>
  .ok ⟨(orders.drop query.offset).take query.limit, orders.length⟩

/-- What a sync answers that has still to write the orders from an offset on. -/
def ReadySyncResult.finish (done : ReadySyncResult) (rest : List ReadyOrderIn) (pageSize : ℕ)
    (offset : ℕ) (total : ℤ) : ReadySyncResult where
  fetched := done.fetched + rest.length
  upsertedOrders := done.upsertedOrders + rest.length
  upsertedLines := done.upsertedLines + (rest.map fun o => o.lines.length).sum
  upsertedComponents := done.upsertedComponents + (rest.map fun o => o.components.length).sum
  pages := done.pages + ((rest.length - 1) / pageSize + 1)
  lastOffset := offset + (rest.length - 1) / pageSize * pageSize
  total

theorem safeLimit_pos (value : ℤ) : 0 < safeLimit value := by
  unfold safeLimit
  omega

theorem finish_append {done : ReadySyncResult} {page rest : List ReadyOrderIn}
    {pageSize offset : ℕ} {total : ℤ} (hpos : 0 < pageSize) (hpage : page.length = pageSize)
    (hrest : rest ≠ []) :
    ReadySyncResult.finish {
        pages := done.pages + 1, total, lastOffset := offset
        fetched := done.fetched + page.length
        upsertedOrders := done.upsertedOrders + (page.map fun _ => 1).sum
        upsertedLines := done.upsertedLines + (page.map fun o => o.lines.length).sum
        upsertedComponents := done.upsertedComponents + (page.map fun o => o.components.length).sum }
      rest pageSize (offset + pageSize) total =
    done.finish (page ++ rest) pageSize offset total := by
  have hlength : 0 < rest.length := List.length_pos_iff.mpr hrest
  have hpages : (page.length + rest.length - 1) / pageSize = (rest.length - 1) / pageSize + 1 := by
    have hsub : page.length + rest.length - 1 = rest.length - 1 + pageSize := by omega
    rw [hsub, Nat.add_div_right _ hpos]
  unfold ReadySyncResult.finish
  simp only [List.length_append, List.map_append, List.sum_append, hpages, ReadySyncResult.mk.injEq]
  simp
  refine ⟨by omega, by omega, by omega, by omega, by omega, ?_⟩
  ring

theorem syncPages_served {call : ReadySyncCall} {orders : List ReadyOrderIn}
    (hcall : call.fetchPage = servedReady orders) {fuel offset : ℕ} {done : ReadySyncResult}
    (hoffset : offset ≤ orders.length) (hfuel : orders.length < offset + fuel) :
    syncPages call fuel done offset =
      (fun _ => done.finish (orders.drop offset) (safeLimit call.limit) offset orders.length) <$>
        (orders.drop offset).mapM' (upsertOrderTree call.hash) := by
  have hpos := safeLimit_pos call.limit
  induction fuel generalizing offset done with
  | zero => omega
  | succ fuel ih =>
    rw [syncPages, hcall]
    have hpage : Tx.ofExcept (servedReady orders (call.query offset)) =
        (pure ⟨(orders.drop offset).take (safeLimit call.limit), orders.length⟩ :
          Tx Projection Err ReadyPage) := rfl
    rw [hpage, pure_bind]
    by_cases hnil : orders.drop offset = []
    · simp [hnil, ReadySyncResult.finish]
    · have hlength : (orders.drop offset).length = orders.length - offset := List.length_drop
      have hsome : 0 < (orders.drop offset).length := List.length_pos_iff.mpr hnil
      have hitems : ((orders.drop offset).take (safeLimit call.limit)).isEmpty = false := by
        rw [List.isEmpty_eq_false_iff, ← List.length_pos_iff, List.length_take]
        omega
      simp only [hitems, Bool.false_eq_true, if_false]
      rw [← mapM_counts, bind_map_left]
      simp only [List.map_map, Function.comp_def, ReadyOrderIn.counts]
      by_cases hlast : (orders.length : ℤ) ≤ offset + safeLimit call.limit
      · have hall : (orders.drop offset).take (safeLimit call.limit) = orders.drop offset :=
          List.take_of_length_le (by omega)
        have honly : ((orders.drop offset).length - 1) / safeLimit call.limit = 0 :=
          Nat.div_eq_of_lt (by omega)
        simp only [hlast, if_true, hall, ReadySyncResult.finish, honly]
        simp
      · have hrest : orders.drop (offset + safeLimit call.limit) ≠ [] := by
          rw [← List.length_pos_iff, List.length_drop]
          omega
        have hfull : ((orders.drop offset).take (safeLimit call.limit)).length =
            safeLimit call.limit := by
          rw [List.length_take]
          omega
        have hsplit : orders.drop offset =
            (orders.drop offset).take (safeLimit call.limit) ++
              orders.drop (offset + safeLimit call.limit) := by
          rw [← List.drop_drop, List.take_append_drop]
        simp only [hlast, if_false]
        conv_rhs => rw [hsplit, mapM_append]
        rw [← finish_append hpos hfull hrest]
        simp only [map_bind, map_pure]
        apply bind_congr
        intro counts
        rw [ih (by omega) (by omega)]
        simp

/-- A request to sync, and what the order system lists for it. -/
structure ServedSync where
  hash : ModelHash
  platform : Option ReadyPlatform
  storeCode : Option String
  limit : ℤ
  orders : List ReadyOrderIn
  ids_fit : ∀ ready ∈ orders, Varchar.Verbatim 192 ready.readyOrderId

namespace ServedSync

variable (sync : ServedSync)

/-- Carry out the sync; more pages than there are orders are enough. -/
def exec (more : ℕ) : Tx Projection Err ReadySyncResult :=
  syncOmsFulfillmentProjectionOnce (sync.orders.length + 1 + more) {
    hash := sync.hash
    fetchPage := servedReady sync.orders
    platform := sync.platform
    storeCode := sync.storeCode
    limit := sync.limit }

/-- What the sync answers. -/
def answer : ReadySyncResult where
  fetched := sync.orders.length
  upsertedOrders := sync.orders.length
  upsertedLines := (sync.orders.map fun o => o.lines.length).sum
  upsertedComponents := (sync.orders.map fun o => o.components.length).sum
  pages := (sync.orders.length - 1) / safeLimit sync.limit + 1
  lastOffset := (sync.orders.length - 1) / safeLimit sync.limit * safeLimit sync.limit
  total := sync.orders.length

theorem exec_eq (more : ℕ) :
    sync.exec more = (fun _ => sync.answer) <$> sync.orders.mapM' (upsertOrderTree sync.hash) := by
  unfold exec syncOmsFulfillmentProjectionOnce
  rw [syncPages_served rfl (Nat.zero_le _) (by omega)]
  simp [ReadySyncResult.finish, answer]

end ServedSync

/-- The orders that a sync fetches from an offset on. -/
def ReadySyncCall.fetched (call : ReadySyncCall) : ℕ → ℕ → Except Err (List ReadyOrderIn)
  | 0, _ => .error (.runtimeError "the list of ready orders does not end")
  | fuel + 1, offset => do
    let data ← call.fetchPage (call.query offset)
    if data.items.isEmpty then return []
    else if data.total ≤ offset + safeLimit call.limit then return data.items
    else
      let rest ← call.fetched fuel (offset + safeLimit call.limit)
      return data.items ++ rest

/-- A sync, with whatever pages the order system answers; their identifiers are not padded
beyond the width of their column. -/
structure ReadySync where
  call : ReadySyncCall
  fuel : ℕ
  ids_fit : ∀ query page, call.fetchPage query = .ok page →
    ∀ ready ∈ page.items, Varchar.Verbatim 192 ready.readyOrderId

/-- Carry out the sync. -/
def ReadySync.exec (sync : ReadySync) : Tx Projection Err ReadySyncResult :=
  syncOmsFulfillmentProjectionOnce sync.fuel sync.call

/-- What the sync writes if it is accepted. -/
def ReadySync.writes (sync : ReadySync) : List (ModelHash × ReadyOrderIn) :=
  match sync.call.fetched sync.fuel 0 with
  | .ok orders => orders.map (sync.call.hash, ·)
  | .error _ => []

/-- The projection after a run of syncs, of which those that fail change nothing. -/
def Projection.after (syncs : List ReadySync) : Projection :=
  Tx.attemptAll ReadySync.exec syncs .empty

theorem syncPages_run {call : ReadySyncCall} {fuel offset : ℕ} {done r : ReadySyncResult}
    {p p' : Projection} (h : (syncPages call fuel done offset).run p = .ok (r, p')) :
    ∃ orders counts, call.fetched fuel offset = .ok orders ∧
      (orders.mapM' (upsertOrderTree call.hash)).run p = .ok (counts, p') := by
  induction fuel generalizing offset done p with
  | zero => exact (Tx.run_throw_ok.mp h).elim
  | succ fuel ih =>
    rw [syncPages] at h
    obtain ⟨data, p₁, hfetch, h⟩ := Tx.run_bind_ok.mp h
    obtain ⟨hpage, rfl⟩ := Tx.run_ofExcept_ok.mp hfetch
    simp only [ReadySyncCall.fetched, hpage, except_bind_eq_ok, Except.ok.injEq, exists_eq_left']
    split at h
    · rename_i hnil
      obtain ⟨-, rfl⟩ := Tx.run_pure_ok.mp h
      rw [if_pos hnil]
      exact ⟨[], [], rfl, rfl⟩
    · rename_i hnil
      rw [if_neg hnil]
      obtain ⟨counts, p₂, hupsert, h⟩ := Tx.run_bind_ok.mp h
      split at h
      · rename_i hlast
        obtain ⟨-, rfl⟩ := Tx.run_pure_ok.mp h
        rw [if_pos hlast]
        exact ⟨data.items, counts, rfl, hupsert⟩
      · rename_i hlast
        obtain ⟨rest, counts', hrest, hupserts⟩ := ih h
        rw [if_neg hlast, hrest]
        refine ⟨data.items ++ rest, counts ++ counts', rfl, ?_⟩
        rw [mapM_append]
        exact Tx.run_bind_ok.mpr ⟨counts, p₂, hupsert,
          Tx.run_bind_ok.mpr ⟨counts', p', hupserts, Tx.run_pure_ok.mpr ⟨rfl, rfl⟩⟩⟩

theorem fetched_fits {sync : ReadySync} {fuel offset : ℕ} {orders : List ReadyOrderIn}
    (h : sync.call.fetched fuel offset = .ok orders) :
    ∀ ready ∈ orders, Varchar.Verbatim 192 ready.readyOrderId := by
  induction fuel generalizing offset orders with
  | zero => cases h
  | succ fuel ih =>
    rw [ReadySyncCall.fetched] at h
    obtain ⟨data, hpage, h⟩ := except_bind_eq_ok.mp h
    have hdata := sync.ids_fit _ data hpage
    split at h
    · obtain rfl := Except.ok.inj h
      simp
    · split at h
      · obtain rfl := Except.ok.inj h
        exact hdata
      · obtain ⟨rest, hrest, h⟩ := except_bind_eq_ok.mp h
        obtain rfl := Except.ok.inj h
        exact List.forall_mem_append.mpr ⟨hdata, ih hrest⟩

theorem ReadySync.exec_run {sync : ReadySync} {r : ReadySyncResult} {base p p' : Projection}
    (h : sync.exec.run p = .ok (r, p')) :
    (Whole p → Whole p') ∧ (∀ id, p.Has id → p'.Has id) ∧ ∀ written,
      Written base written p → Written base (written ++ sync.writes) p' := by
  obtain ⟨orders, counts, hfetched, hrun⟩ := syncPages_run h
  have hwrites : sync.writes = orders.map (sync.call.hash, ·) := by
    rw [ReadySync.writes, hfetched]
  rw [hwrites]
  exact upsertTrees_run (fetched_fits hfetched) hrun

theorem whole_empty : Whole .empty :=
  ⟨by simp [Projection.empty], by simp [Projection.empty], by simp [Projection.empty],
    by simp [Projection.empty]⟩

end Wms.Oms

import Wms.Oms.ImportSteps
import Wms.OmsTrees

/-!
# Every ready order becomes one order

Syncs and imports take turns. Each import makes a new order of a ready order, whose lines and items
are what the components ask for; nothing that is stored of another order changes, then or later.
So the imports that are stored are those that were answered, each ready order was imported at most
once, and what an import answers can be said in terms of what is stored.
-/

namespace Wms.Oms

open Foundation

/-! ## Runs -/

/-- What happens to the tables. -/
inductive OmsOp
  | sync (call : ReadySync)
  | importOrders (env : ImportEnv) (readyOrderIds : List String) (dryRun : Bool)
      (importedByUserId : Option ℕ)

/-- Carry out an operation; an import answers what became of each ready order. -/
def OmsOp.exec : OmsOp → ImportTx (List ImportResult)
  | sync call => do
    let _ ← Tx.zoom ImportTables.projection (fun p s => { s with projection := p }) call.exec
    return []
  | importOrders env readyOrderIds dryRun importedByUserId => do
    let out ← importOrdersFromOmsProjection env readyOrderIds dryRun importedByUserId
    return out.results

/-- The tables before the first sync, with whatever orders there are from elsewhere. -/
def ImportTables.unsynced (s : ImportTables) : ImportTables :=
  { s with projection := .empty, imports := .empty, componentImports := .empty }

/-- The tables after a run, in which an operation that fails changes nothing. -/
def ImportTables.after (ops : List OmsOp) (s : ImportTables) : ImportTables :=
  Tx.attemptAll OmsOp.exec ops s.unsynced

/-! ## The invariant -/

/-- The order that was imported is there, made of what was asked for. -/
structure OrderImport.Accounted (s : ImportTables) (i : OrderImport) : Prop where
  ready : s.projection.Has i.readyOrderId
  order : ∃ o ∈ s.orders.rows, o.id = i.orderId ∧ o.platform.text = i.platform.text ∧
    Varchar.store 64 i.storeCode.text = .ok o.storeCode ∧ o.extOrderNo = i.platformOrderNo
  accounts : OrderAccounts s i.orderId
  line_count : i.orderLineCount = (s.linesOf i.orderId).length
  component_count : i.componentCount = (s.componentImportsOf i.orderId).length
  ready_eq : ∀ c ∈ s.componentImportsOf i.orderId, c.readyOrderId = i.readyOrderId

/-- The projection has whole trees, every import is accounted for, and audit rows belong to
imports. -/
structure ImportsAccounted (s : ImportTables) : Prop where
  whole : Whole s.projection
  imports : ∀ i ∈ s.imports.rows, i.Accounted s
  audits : ∀ c ∈ s.componentImports.rows, ∃ i ∈ s.imports.rows, i.orderId = c.orderId

/-- What is stored of orders stays as it is, and so do the imports. -/
structure OrdersKept (s s' : ImportTables) : Prop where
  files : ∀ o ∈ s.orders.rows, s'.fileOf o.id = s.fileOf o.id
  imports : s.imports.rows <+: s'.imports.rows

theorem mem_orders_of_fileOf {s s' : ImportTables} {o : ExecutionOrder}
    (ho : o ∈ s.orders.rows) (h : s'.fileOf o.id = s.fileOf o.id) : o ∈ s'.orders.rows := by
  have horders := congrArg OrderFile.orders h
  have hmem : o ∈ (s.fileOf o.id).orders := List.mem_filter.mpr ⟨ho, decide_eq_true rfl⟩
  rw [← horders] at hmem
  exact (List.mem_filter.mp hmem).1

instance : IsPreorder ImportTables OrdersKept where
  refl s := ⟨fun _ _ => rfl, List.prefix_rfl⟩
  trans s s' s'' h h' := by
    refine ⟨fun o ho => ?_, h.imports.trans h'.imports⟩
    have hkept := h.files o ho
    exact (h'.files o (mem_orders_of_fileOf ho hkept)).trans hkept

/-! ## Steps -/

section Steps

variable {env : ImportEnv} {s s' before : ImportTables} {order : OrderProjection}
  {components : List ComponentProjection} {orderId : ℕ}

theorem OrderAccounts.of_fileOf (h : OrderAccounts s orderId)
    (hfile : s'.fileOf orderId = s.fileOf orderId) : OrderAccounts s' orderId := by
  have hlines : s'.linesOf orderId = s.linesOf orderId := congrArg OrderFile.lines hfile
  have hitems : s'.itemsOf orderId = s.itemsOf orderId := congrArg OrderFile.items hfile
  have haudits : s'.componentImportsOf orderId = s.componentImportsOf orderId :=
    congrArg OrderFile.components hfile
  constructor
  · rw [hlines, haudits]
    exact h.lines
  · rw [hitems, haudits]
    exact h.sold
  · rw [hitems]
    exact h.items

theorem OrderImport.Accounted.of_fileOf {i : OrderImport} (h : i.Accounted s)
    (hhas : s.projection.Has i.readyOrderId → s'.projection.Has i.readyOrderId)
    (hfile : s'.fileOf i.orderId = s.fileOf i.orderId) : i.Accounted s' := by
  have hlines : s'.linesOf i.orderId = s.linesOf i.orderId := congrArg OrderFile.lines hfile
  have haudits : s'.componentImportsOf i.orderId = s.componentImportsOf i.orderId :=
    congrArg OrderFile.components hfile
  obtain ⟨o, ho, hid, hnumber⟩ := h.order
  refine ⟨hhas h.ready, ⟨o, ?_, hid, hnumber⟩, h.accounts.of_fileOf hfile, ?_, ?_, ?_⟩
  · exact mem_orders_of_fileOf ho (hid.symm ▸ hfile)
  · rw [hlines]
    exact h.line_count
  · rw [haudits]
    exact h.component_count
  · rw [haudits]
    exact h.ready_eq

/-- What the projection has been asked for when an order is made of it. -/
structure Importable (env : ImportEnv) (s : ImportTables) (order : OrderProjection)
    (components : List ComponentProjection) : Prop where
  order_mem : order ∈ s.projection.orders.rows
  components_eq : components = s.projectionComponents env order.readyOrderId.text

theorem projectionComponents_perm (env : ImportEnv) (s : ImportTables)
    (readyOrderId : Varchar 192) :
    (s.projectionComponents env readyOrderId.text).Perm (s.projection.componentsOf readyOrderId) := by
  have hfilter : s.projection.components.rows.filter
      (fun c => c.readyOrderId.text = readyOrderId.text) = s.projection.componentsOf readyOrderId := by
    unfold Projection.componentsOf
    simp only [text_eq_iff]
  unfold ImportTables.projectionComponents
  rw [hfilter]
  exact env.arrange_perm _

theorem Importable.of_projection_eq (h : Importable env s order components)
    (hprojection : s'.projection = s.projection) : Importable env s' order components := by
  refine ⟨?_, h.components_eq.trans ?_⟩
  · rw [hprojection]
    exact h.order_mem
  · unfold ImportTables.projectionComponents
    rw [hprojection]

theorem ImportsAccounted.audits_orders (hs : ImportsAccounted s) :
    ∀ c ∈ s.componentImports.rows, ∃ o ∈ s.orders.rows, o.id = c.orderId := by
  intro c hc
  obtain ⟨i, hi, hid⟩ := hs.audits c hc
  obtain ⟨o, ho, hoid, -⟩ := (hs.imports i hi).order
  exact ⟨o, ho, hoid.trans hid⟩

theorem Creates.kept (h : Creates order components orderId s s') : OrdersKept s s' := by
  obtain ⟨i, hi, -⟩ := h.imports
  refine ⟨fun o ho => h.others o.id (h.fresh o ho), ?_⟩
  rw [hi]
  exact List.prefix_append _ _

/-- The import that was recorded is accounted for. -/
theorem Creates.accounted (h : Creates order components orderId s s')
    (hfrom : Importable env s order components) {i : OrderImport}
    (hof : i.Of order orderId components.length) : i.Accounted s' := by
  obtain ⟨o, horders, hid, hnumbered⟩ := h.orders
  have hlength := h.components.length_eq
  have hready : ∀ c ∈ s'.componentImportsOf orderId, c.readyOrderId = order.readyOrderId := by
    intro c hc
    obtain ⟨component, hcomponent, himported⟩ := exists_of_forall₂ h.components.flip hc
    have hmem : component ∈ components := hcomponent
    rw [hfrom.components_eq, (projectionComponents_perm env s _).mem_iff] at hmem
    exact himported.ids_eq.2.2.trans (of_decide_eq_true (List.mem_filter.mp hmem).2)
  refine ⟨?_, ⟨o, ?_, hid.trans hof.order_eq.symm, ?_, ?_, ?_⟩, ?_, ?_, ?_, ?_⟩
  · rw [h.projection_eq, hof.ready_eq]
    exact ⟨order, hfrom.order_mem, rfl⟩
  · rw [horders]
    exact List.mem_append_right _ (List.mem_singleton_self o)
  · exact hnumbered.platform_eq.trans hof.platform_eq.symm
  · rw [hof.store_eq]
    exact hnumbered.store_eq
  · exact hnumbered.no_eq.trans hof.no_eq.symm
  · rw [hof.order_eq]
    exact h.accounts
  · rw [hof.line_count, hof.order_eq, hlength, h.accounts.lines.length_eq]
  · rw [hof.component_count, hof.order_eq, hlength]
  · rw [hof.order_eq, hof.ready_eq]
    exact hready

theorem ImportsAccounted.create (hs : ImportsAccounted s)
    (hfrom : Importable env s order components) (h : Creates order components orderId s s') :
    ImportsAccounted s' := by
  obtain ⟨i, himports, hof⟩ := h.imports
  refine ⟨?_, fun a ha => ?_, fun c hc => ?_⟩
  · rw [h.projection_eq]
    exact hs.whole
  · rw [himports, List.mem_append, List.mem_singleton] at ha
    rcases ha with ha | rfl
    · have hold := hs.imports a ha
      obtain ⟨o, ho, hid, -⟩ := hold.order
      have hne : a.orderId ≠ orderId := by
        rw [← hid]
        exact h.fresh o ho
      refine hold.of_fileOf ?_ (h.others a.orderId hne)
      rw [h.projection_eq]
      exact id
    · exact h.accounted hfrom hof
  · by_cases hid : c.orderId = orderId
    · refine ⟨i, ?_, hof.order_eq.trans hid.symm⟩
      rw [himports]
      exact List.mem_append_right _ (List.mem_singleton_self i)
    · have hfile := congrArg OrderFile.components (h.others c.orderId hid)
      have hmem : c ∈ (s'.fileOf c.orderId).components :=
        List.mem_filter.mpr ⟨hc, decide_eq_true rfl⟩
      rw [hfile] at hmem
      obtain ⟨a, ha, horder⟩ := hs.audits c (List.mem_filter.mp hmem).1
      refine ⟨a, ?_, horder⟩
      rw [himports]
      exact List.mem_append_left _ ha

end Steps

/-! ## What becomes of a ready order -/

/-- The ready order can be imported: it is in the projection with components in whole numbers, and
no order has its number. -/
def ImportTables.Ready (s : ImportTables) (readyOrderId : String) : Prop :=
  ∃ order ∈ s.projection.orders.rows, order.readyOrderId.text = readyOrderId ∧
    (∀ i ∈ s.imports.rows, i.readyOrderId.text ≠ readyOrderId) ∧
    (∀ o ∈ s.orders.rows, ¬o.ConflictsWith order) ∧
    s.projection.componentsOf order.readyOrderId ≠ [] ∧
    ∀ c ∈ s.projection.componentsOf order.readyOrderId, c.requiredQty.count % 10 ^ 6 = 0

/-- The answer is what is stored before the call: an order that was imported is named, and one
that can be imported is imported, or would be. -/
structure ImportResult.Settled (s : ImportTables) (dryRun : Bool) (r : ImportResult) : Prop where
  already : r.status = .alreadyImported ↔
    ∃ i ∈ s.imports.rows, i.readyOrderId.text = r.readyOrderId
  already_order : r.status = .alreadyImported →
    ∃ i ∈ s.imports.rows, i.readyOrderId.text = r.readyOrderId ∧ r.orderId = some i.orderId
  imported : r.status = .imported ↔ dryRun = false ∧ s.Ready r.readyOrderId
  dry_run : r.status = .dryRun ↔ dryRun = true ∧ s.Ready r.readyOrderId

/-- The order that was made is that of the projection, with its components. -/
def ImportResult.Made (before s : ImportTables) (r : ImportResult) : Prop :=
  ∃ order ∈ before.projection.orders.rows, ∃ o ∈ s.orders.rows,
    order.readyOrderId.text = r.readyOrderId ∧ r.orderId = some o.id ∧ o.Numbered order ∧
      ∃ components, components.Perm (before.projection.componentsOf order.readyOrderId) ∧
        List.Forall₂ (ComponentProjection.ImportedAs o.id) components (s.componentImportsOf o.id)

section Answers

variable {env : ImportEnv} {s s' before : ImportTables} {readyOrderId : String}
  {order : OrderProjection} {components : List ComponentProjection} {r : ImportResult}

theorem projectionOrder_eq_some (h : s.projectionOrder readyOrderId = some order) :
    order ∈ s.projection.orders.rows ∧ order.readyOrderId.text = readyOrderId :=
  ⟨List.mem_of_find?_eq_some h, by simpa using List.find?_some h⟩

/-- The projection has one order with the identifier. -/
theorem eq_of_projectionOrder (h : s.projectionOrder readyOrderId = some order)
    {a : OrderProjection} (ha : a ∈ s.projection.orders.rows)
    (hid : a.readyOrderId.text = readyOrderId) : a = order := by
  obtain ⟨hmem, htext⟩ := projectionOrder_eq_some h
  exact Mirror.eq_of_pk s.projection.orders ha hmem (text_eq_iff.mp (hid.trans htext.symm))

theorem existingImport_eq_none (h : s.existingImport readyOrderId = none) :
    ∀ i ∈ s.imports.rows, i.readyOrderId.text ≠ readyOrderId := by
  unfold ImportTables.existingImport at h
  rw [Option.map_eq_none_iff, List.find?_eq_none] at h
  intro i hi
  simpa using h i hi

theorem existingImport_eq_some {orderId : ℕ} (h : s.existingImport readyOrderId = some orderId) :
    ∃ i ∈ s.imports.rows, i.readyOrderId.text = readyOrderId ∧ i.orderId = orderId := by
  unfold ImportTables.existingImport at h
  obtain ⟨i, hfind, hid⟩ := Option.map_eq_some_iff.mp h
  exact ⟨i, List.mem_of_find?_eq_some hfind, by simpa using List.find?_some hfind, hid⟩

theorem existingOrderConflict_eq_none (h : s.existingOrderConflict order = none) :
    ∀ o ∈ s.orders.rows, ¬o.ConflictsWith order := by
  unfold ImportTables.existingOrderConflict at h
  rw [Option.map_eq_none_iff, List.getLast?_eq_none_iff, List.filter_eq_nil_iff] at h
  intro o ho hconflict
  have hkey : upper o.platform.text = upper order.platform.text ∧
      o.storeCode.text = order.storeCode.text ∧ o.extOrderNo = order.platformOrderNo := hconflict
  exact h o ho (decide_eq_true hkey)

theorem existingOrderConflict_eq_some {orderId : ℕ}
    (h : s.existingOrderConflict order = some orderId) :
    ∃ o ∈ s.orders.rows, o.ConflictsWith order := by
  unfold ImportTables.existingOrderConflict at h
  obtain ⟨o, hlast, -⟩ := Option.map_eq_some_iff.mp h
  obtain ⟨hmem, hconflict⟩ := List.mem_filter.mp (List.mem_of_getLast? hlast)
  have hkey := of_decide_eq_true hconflict
  exact ⟨o, hmem, hkey⟩

theorem requiredQtyToInt_eq_none_iff (c : ComponentProjection) :
    requiredQtyToInt c.requiredQty = none ↔ ¬c.requiredQty.count % 10 ^ 6 = 0 := by
  have hpos := c.required_pos
  unfold requiredQtyToInt
  rw [if_neg (by omega)]
  split <;> simp_all

theorem projectionOrder_eq_none (h : s.projectionOrder readyOrderId = none) :
    ∀ o ∈ s.projection.orders.rows, o.readyOrderId.text ≠ readyOrderId := by
  unfold ImportTables.projectionOrder at h
  rw [List.find?_eq_none] at h
  intro o ho
  simpa using h o ho

/-- An order of the projection is ready exactly when it passes the checks. -/
theorem ready_iff (env : ImportEnv) (h : s.projectionOrder readyOrderId = some order) :
    s.Ready readyOrderId ↔
      (∀ i ∈ s.imports.rows, i.readyOrderId.text ≠ readyOrderId) ∧
      (∀ o ∈ s.orders.rows, ¬o.ConflictsWith order) ∧
      s.projectionComponents env readyOrderId ≠ [] ∧
      ∀ c ∈ s.projectionComponents env readyOrderId, requiredQtyToInt c.requiredQty ≠ none := by
  obtain ⟨hmem, htext⟩ := projectionOrder_eq_some h
  have hperm := projectionComponents_perm env s order.readyOrderId
  rw [htext] at hperm
  have hsome : s.projectionComponents env readyOrderId ≠ [] ↔
      s.projection.componentsOf order.readyOrderId ≠ [] := by
    rw [← List.length_pos_iff, ← List.length_pos_iff, hperm.length_eq]
  have hwhole : (∀ c ∈ s.projectionComponents env readyOrderId,
        requiredQtyToInt c.requiredQty ≠ none) ↔
      ∀ c ∈ s.projection.componentsOf order.readyOrderId, c.requiredQty.count % 10 ^ 6 = 0 := by
    refine forall_congr' fun c => ?_
    rw [hperm.mem_iff, ne_eq, requiredQtyToInt_eq_none_iff, not_not]
  rw [hsome, hwhole]
  constructor
  · rintro ⟨o, ho, hid, hchecks⟩
    obtain rfl := eq_of_projectionOrder h ho hid
    exact hchecks
  · intro hchecks
    exact ⟨order, hmem, htext, hchecks⟩

/-- An order that is left to be imported is ready. -/
theorem assess_inr (h : assess env s readyOrderId = .inr (order, components)) :
    order ∈ s.projection.orders.rows ∧ order.readyOrderId.text = readyOrderId ∧
      (∀ o ∈ s.orders.rows, ¬o.ConflictsWith order) ∧
      components = s.projectionComponents env order.readyOrderId.text ∧ s.Ready readyOrderId := by
  unfold assess at h
  split at h
  · cases h
  · rename_i found hfound
    obtain ⟨hmem, htext⟩ := projectionOrder_eq_some hfound
    split at h
    · cases h
    · rename_i himport
      split at h
      · cases h
      · rename_i hconflict
        dsimp only at h
        split at h
        · cases h
        · rename_i hsome
          split at h
          · cases h
          · split at h
            · cases h
            · rename_i hwhole
              obtain ⟨rfl, rfl⟩ := Prod.mk.inj (Sum.inr.inj h)
              have hnone := existingOrderConflict_eq_none hconflict
              have hready : s.Ready readyOrderId := by
                refine (ready_iff env hfound).mpr
                  ⟨existingImport_eq_none himport, hnone, hsome, fun c hc => ?_⟩
                simpa using List.find?_eq_none.mp hwhole c hc
              exact ⟨hmem, htext, hnone, by rw [htext], hready⟩

/-- An order that is answered at once is not ready, and the answer says whether it was imported. -/
theorem assess_inl (hs : ImportsAccounted s) (h : assess env s readyOrderId = .inl r) :
    r.readyOrderId = readyOrderId ∧ ¬s.Ready readyOrderId ∧
      ((r.status = .alreadyImported ∧ ∃ i ∈ s.imports.rows,
          i.readyOrderId.text = readyOrderId ∧ r.orderId = some i.orderId) ∨
        (r.status = .failed ∧ ∀ i ∈ s.imports.rows, i.readyOrderId.text ≠ readyOrderId)) := by
  unfold assess at h
  split at h
  · rename_i hmissing
    obtain rfl := Sum.inl.inj h
    refine ⟨rfl, ?_, .inr ⟨rfl, fun i hi hid => ?_⟩⟩
    · rintro ⟨o, ho, hid, -⟩
      exact projectionOrder_eq_none hmissing o ho hid
    · -- the ready order of an import stays in the projection
      obtain ⟨o, ho, hsame⟩ := (hs.imports i hi).ready
      exact projectionOrder_eq_none hmissing o ho (by rw [hsame, hid])
  · rename_i found hfound
    rw [ready_iff env hfound]
    split at h
    · rename_i orderId himport
      obtain rfl := Sum.inl.inj h
      obtain ⟨i, hi, hid, horder⟩ := existingImport_eq_some himport
      exact ⟨rfl, fun hready => hready.1 i hi hid, .inl ⟨rfl, i, hi, hid, by rw [horder]; rfl⟩⟩
    · rename_i himport
      have hnone := existingImport_eq_none himport
      split at h
      · rename_i orderId hconflict
        obtain rfl := Sum.inl.inj h
        obtain ⟨o, ho, hsame⟩ := existingOrderConflict_eq_some hconflict
        exact ⟨rfl, fun hready => hready.2.1 o ho hsame, .inr ⟨rfl, hnone⟩⟩
      · dsimp only at h
        split at h
        · rename_i hnil
          obtain rfl := Sum.inl.inj h
          exact ⟨rfl, fun hready => hready.2.2.1 hnil, .inr ⟨rfl, hnone⟩⟩
        · split at h
          · -- whole trees have as many components as their order counts
            rename_i hcount
            obtain ⟨hmem, htext⟩ := projectionOrder_eq_some hfound
            have hperm := projectionComponents_perm env s found.readyOrderId
            rw [htext] at hperm
            exact absurd ((hs.whole.component_count found hmem).trans hperm.length_eq.symm) hcount
          · split at h
            · rename_i c hinvalid
              obtain rfl := Sum.inl.inj h
              have hnot : requiredQtyToInt c.requiredQty = none := by
                simpa using List.find?_some hinvalid
              have hc := List.mem_of_find?_eq_some hinvalid
              exact ⟨rfl, fun hready => hready.2.2.2 c hc hnot, .inr ⟨rfl, hnone⟩⟩
            · cases h

/-! ## A call -/

/-- The ready orders of the imports, with the orders that were made of them. -/
def ImportTables.importKeys (s : ImportTables) : List (String × Option ℕ) :=
  s.imports.rows.map fun i => (i.readyOrderId.text, some i.orderId)

/-- The ready orders that answers call imported, with the orders that they name. -/
def importedKeys (rs : List ImportResult) : List (String × Option ℕ) :=
  (rs.filter fun r => r.status = .imported).map fun r => (r.readyOrderId, r.orderId)

/-- What holds while a call imports one ready order after the other. -/
structure WithinCall (before s : ImportTables) : Prop where
  accounted : ImportsAccounted s
  projection_eq : s.projection = before.projection
  grown : ∀ o ∈ s.orders.rows, o ∈ before.orders.rows ∨ ∃ i ∈ s.imports.rows, i.orderId = o.id

/-- What a part of a call has done. -/
structure CallDone (before : ImportTables) (dryRun : Bool) (s s' : ImportTables)
    (rs : List ImportResult) : Prop where
  within : WithinCall before s'
  kept : OrdersKept s s'
  keys : s'.importKeys = s.importKeys ++ importedKeys rs
  settled : ∀ r ∈ rs, r.Settled before dryRun
  made : ∀ r ∈ rs, r.status = .imported → r.Made before s'
  dry : dryRun = true → s' = s

theorem ImportResult.Made.kept (h : r.Made before s) (hkept : OrdersKept s s') :
    r.Made before s' := by
  obtain ⟨order, horder, o, ho, hid, horderId, hnumbered, components, hperm, hall⟩ := h
  have hfile := hkept.files o ho
  refine ⟨order, horder, o, mem_orders_of_fileOf ho hfile, hid, horderId, hnumbered, components,
    hperm, ?_⟩
  have haudits : s'.componentImportsOf o.id = s.componentImportsOf o.id :=
    congrArg OrderFile.components hfile
  rwa [haudits]

/-- An order that is answered at once is settled, and nothing was or would be imported. -/
theorem settled_of_assess_inl {dryRun : Bool} (hs : ImportsAccounted s)
    (h : assess env s readyOrderId = .inl r) : r.Settled s dryRun ∧ r.status ≠ .imported := by
  obtain ⟨rfl, hnot, hstatus⟩ := assess_inl hs h
  have hneither : r.status ≠ .imported ∧ r.status ≠ .dryRun := by
    rcases hstatus with ⟨hstatus, -⟩ | ⟨hstatus, -⟩ <;> simp [hstatus]
  refine ⟨⟨?_, ?_, ?_, ?_⟩, hneither.1⟩
  · rcases hstatus with ⟨hstatus, i, hi, hsame, -⟩ | ⟨hstatus, hnone⟩
    · exact iff_of_true hstatus ⟨i, hi, hsame⟩
    · refine iff_of_false (by simp [hstatus]) ?_
      rintro ⟨i, hi, hsame⟩
      exact hnone i hi hsame
  · rcases hstatus with ⟨-, hexists⟩ | ⟨hstatus, -⟩
    · exact fun _ => hexists
    · simp [hstatus]
  · exact iff_of_false hneither.1 fun hready => hnot hready.2
  · exact iff_of_false hneither.2 fun hready => hnot hready.2

/-- A ready order is settled by being imported, or in a dry run by saying that it would be. -/
theorem ImportTables.Ready.settled {dryRun : Bool} (hready : s.Ready r.readyOrderId)
    (hstatus : r.status = if dryRun then .dryRun else .imported) : r.Settled s dryRun := by
  have hnone : ¬∃ i ∈ s.imports.rows, i.readyOrderId.text = r.readyOrderId := by
    obtain ⟨-, -, -, hnone, -⟩ := hready
    rintro ⟨i, hi, hsame⟩
    exact hnone i hi hsame
  cases dryRun with
  | false =>
    have himported : r.status = .imported := hstatus
    exact ⟨iff_of_false (by simp [himported]) hnone, by simp [himported],
      iff_of_true himported ⟨rfl, hready⟩, by simp [himported]⟩
  | true =>
    have hdry : r.status = .dryRun := hstatus
    exact ⟨iff_of_false (by simp [hdry]) hnone, by simp [hdry], by simp [hdry],
      iff_of_true hdry ⟨rfl, hready⟩⟩

/-- An order that was made since the call began is an order of an import. -/
theorem WithinCall.create {orderId : ℕ} (hs : WithinCall before s)
    (hfrom : Importable env s order components) (h : Creates order components orderId s s') :
    WithinCall before s' := by
  refine ⟨hs.accounted.create hfrom h, h.projection_eq.trans hs.projection_eq, fun a ha => ?_⟩
  obtain ⟨o, horders, hid, -⟩ := h.orders
  obtain ⟨i, himports, hof⟩ := h.imports
  rw [horders, List.mem_append, List.mem_singleton] at ha
  rw [himports]
  rcases ha with ha | rfl
  · rcases hs.grown a ha with hold | ⟨j, hj, hjid⟩
    · exact .inl hold
    · exact .inr ⟨j, List.mem_append_left _ hj, hjid⟩
  · exact .inr ⟨i, List.mem_append_right _ (List.mem_singleton_self i),
      hof.order_eq.trans hid.symm⟩

/-- The order that was created is that of the answer. -/
theorem Creates.made {orderId : ℕ} (h : Creates order components orderId s s')
    (hfrom : Importable env before order components)
    (htext : order.readyOrderId.text = r.readyOrderId) (hid : r.orderId = some orderId) :
    r.Made before s' := by
  obtain ⟨o, horders, rfl, hnumbered⟩ := h.orders
  refine ⟨order, hfrom.order_mem, o, ?_, htext, hid, hnumbered, components, ?_, h.components⟩
  · rw [horders]
    exact List.mem_append_right _ (List.mem_singleton_self o)
  · rw [hfrom.components_eq]
    exact projectionComponents_perm env before order.readyOrderId

/-- The tables name one more import. -/
theorem Creates.importKeys_eq {orderId : ℕ} (h : Creates order components orderId s s') :
    s'.importKeys = s.importKeys ++ [(order.readyOrderId.text, some orderId)] := by
  obtain ⟨i, himports, hof⟩ := h.imports
  unfold ImportTables.importKeys
  rw [himports, List.map_append, ← hof.ready_eq, ← hof.order_eq]
  rfl

theorem importReady_run {dryRun : Bool} {userId : Option ℕ} (hbefore : ImportsAccounted before)
    (hs : WithinCall before s)
    (h : (importReady env dryRun userId before readyOrderId).run s = .ok (r, s')) :
    r.readyOrderId = readyOrderId ∧ CallDone before dryRun s s' [r] := by
  unfold importReady at h
  split at h
  · rename_i answer hassess
    obtain ⟨rfl, rfl⟩ := Tx.run_pure_ok.mp h
    obtain ⟨hsettled, hnot⟩ := settled_of_assess_inl hbefore hassess
    refine ⟨(assess_inl hbefore hassess).1, hs, refl_of OrdersKept s, ?_, by simpa using hsettled,
      ?_, fun _ => rfl⟩
    · simp [importedKeys, hnot]
    · simp [hnot]
  · rename_i order components hassess
    obtain ⟨horder, htext, hfree, hcomponents, hready⟩ := assess_inr hassess
    split at h
    · rename_i hdry
      obtain ⟨rfl, rfl⟩ := Tx.run_pure_ok.mp h
      refine ⟨rfl, hs, refl_of OrdersKept s, ?_, fun r hr => ?_, ?_, fun _ => rfl⟩
      · simp [importedKeys, result]
      · rw [List.mem_singleton.mp hr]
        exact hready.settled (if_pos hdry).symm
      · simp [result]
    · rename_i hreal
      have hconflicts : ∀ o ∈ s.orders.rows, o.ConflictsWith order →
          ∃ i ∈ s.imports.rows, i.orderId = o.id := by
        intro o ho hconflict
        exact (hs.grown o ho).resolve_left fun hold => hfree o hold hconflict
      obtain ⟨orderId, rfl, hcreates⟩ := importOrder_run hconflicts hs.accounted.audits_orders h
      have hfrom : Importable env before order components := ⟨horder, hcomponents⟩
      refine ⟨rfl, hs.create (hfrom.of_projection_eq hs.projection_eq) hcreates, hcreates.kept, ?_,
        fun r hr => ?_, ?_, fun hdry => absurd hdry hreal⟩
      · rw [hcreates.importKeys_eq, htext]
        rfl
      · rw [List.mem_singleton.mp hr]
        exact hready.settled (if_neg hreal).symm
      · intro r hr _
        rw [List.mem_singleton.mp hr]
        exact hcreates.made hfrom htext rfl

theorem importAll_run {dryRun : Bool} {userId : Option ℕ} {ids : List String}
    {rs : List ImportResult} (hbefore : ImportsAccounted before) (hs : WithinCall before s)
    (h : (ids.mapM' (importReady env dryRun userId before)).run s = .ok (rs, s')) :
    rs.map ImportResult.readyOrderId = ids ∧ CallDone before dryRun s s' rs := by
  induction ids generalizing s rs with
  | nil =>
    obtain ⟨rfl, rfl⟩ := Tx.run_mapM_nil_ok.mp h
    exact ⟨rfl, hs, refl_of OrdersKept s, by simp [importedKeys], by simp, by simp, fun _ => rfl⟩
  | cons id ids ih =>
    obtain ⟨r, s₁, rs', hfirst, hrest, rfl⟩ := Tx.run_mapM_cons_ok.mp h
    obtain ⟨hid, hdone⟩ := importReady_run hbefore hs hfirst
    obtain ⟨hids, hdone'⟩ := ih hdone.within hrest
    refine ⟨by rw [List.map_cons, hid, hids], hdone'.within,
      trans_of OrdersKept hdone.kept hdone'.kept, ?_, ?_, ?_, fun hdry => ?_⟩
    · rw [hdone'.keys, hdone.keys, List.append_assoc]
      congr 1
      simp only [importedKeys, ← List.map_append, ← List.filter_append, List.singleton_append]
    · exact List.forall_mem_cons.mpr
        ⟨hdone.settled r (List.mem_singleton_self r), hdone'.settled⟩
    · refine List.forall_mem_cons.mpr ⟨fun himported => ?_, hdone'.made⟩
      exact (hdone.made r (List.mem_singleton_self r) himported).kept hdone'.kept
    · rw [hdone'.dry hdry, hdone.dry hdry]

/-- What an import does that is accepted. -/
theorem importOrders_run {ids : List String} {dryRun : Bool} {userId : Option ℕ}
    {rs : List ImportResult} (hs : ImportsAccounted s)
    (h : (OmsOp.importOrders env ids dryRun userId).exec.run s = .ok (rs, s')) :
    rs.map ImportResult.readyOrderId = dedupeReadyOrderIds ids ∧ CallDone s dryRun s s' rs := by
  obtain ⟨out, s₁, himport, h⟩ := Tx.run_bind_ok.mp h
  obtain ⟨rfl, rfl⟩ := Tx.run_pure_ok.mp h
  obtain ⟨u, s₂, hfail, h⟩ := Tx.run_bind_ok.mp himport
  obtain ⟨-, rfl⟩ := Tx.run_failIf_ok.mp hfail
  obtain ⟨s₃, s₄, hget, h⟩ := Tx.run_bind_ok.mp h
  obtain ⟨rfl, rfl⟩ := Tx.run_get_ok.mp hget
  obtain ⟨results, s₅, hall, h⟩ := Tx.run_bind_ok.mp h
  obtain ⟨rfl, rfl⟩ := Tx.run_pure_ok.mp h
  exact importAll_run hs ⟨hs, rfl, fun o ho => .inl ho⟩ hall

end Answers

/-! ## Main results -/

/-- An operation keeps the invariant and the orders, and its answers name its imports. -/
theorem OmsOp.exec_run {op : OmsOp} {s s' : ImportTables} {rs : List ImportResult}
    (hs : ImportsAccounted s) (h : op.exec.run s = .ok (rs, s')) :
    ImportsAccounted s' ∧ OrdersKept s s' ∧ s'.importKeys = s.importKeys ++ importedKeys rs := by
  cases op with
  | sync call =>
    obtain ⟨r, s₁, hsync, h⟩ := Tx.run_bind_ok.mp h
    obtain ⟨rfl, rfl⟩ := Tx.run_pure_ok.mp h
    obtain ⟨p, hrun, rfl⟩ := Tx.run_zoom_ok.mp hsync
    have hsynced : (Whole s.projection → Whole p) ∧
        (∀ id, s.projection.Has id → p.Has id) ∧ ∀ written, Written .empty written s.projection →
          Written .empty (written ++ call.writes) p := ReadySync.exec_run hrun
    obtain ⟨hwhole, hhas, -⟩ := hsynced
    refine ⟨⟨hwhole hs.whole, fun i hi => ?_, hs.audits⟩, ⟨fun _ _ => rfl, List.prefix_rfl⟩, ?_⟩
    · exact (hs.imports i hi).of_fileOf (hhas i.readyOrderId) rfl
    · simp [importedKeys, ImportTables.importKeys]
  | importOrders env ids dryRun userId =>
    obtain ⟨-, hdone⟩ := importOrders_run hs h
    exact ⟨hdone.within.accounted, hdone.kept, hdone.keys⟩

theorem unsynced_accounted (s : ImportTables) : ImportsAccounted s.unsynced :=
  ⟨whole_empty, by simp [ImportTables.unsynced], by simp [ImportTables.unsynced]⟩

theorem imports_accounted_after (ops : List OmsOp) (s : ImportTables) :
    ImportsAccounted (s.after ops) :=
  Tx.attemptAll_invariant (P := fun _ _ => True)
    (fun _ _ _ _ hs _ hrun => (OmsOp.exec_run hs hrun).1) (unsynced_accounted s)
    (Tx.allAccepted_true ops _)

theorem importKeys_nodup (s : ImportTables) :
    (s.importKeys.map Prod.fst).Nodup ∧ (s.importKeys.map Prod.snd).Nodup := by
  have hunique := s.imports.unique
  unfold ImportTables.importKeys
  rw [List.map_map, List.map_map, List.Nodup, List.Nodup, List.pairwise_map, List.pairwise_map]
  constructor
  · exact hunique.imp fun hne heq => hne (.inl (text_eq_iff.mp heq))
  · exact hunique.imp fun hne heq => hne (.inr (.inl (Option.some.inj heq)))

/-- In every run of syncs and imports each import is accounted for: its order has its number, and
lines and items that are what its components ask for. -/
theorem imports_accounted (ops : List OmsOp) (s : ImportTables) :
    ImportsAccounted (s.after ops) :=
  imports_accounted_after ops s

/-- What is stored of an order, imported or not, stays as it is in every run that goes on. -/
theorem orders_kept (ops more : List OmsOp) (s : ImportTables) :
    OrdersKept (s.after ops) (s.after (ops ++ more)) := by
  have hstep : ∀ (op : OmsOp) (s : ImportTables) (rs : List ImportResult) (s' : ImportTables),
      ImportsAccounted s → True → op.exec.run s = .ok (rs, s') →
        ImportsAccounted s' ∧ OrdersKept s s' := by
    intro op s rs s' hs _ hrun
    obtain ⟨haccounted, hkept, -⟩ := OmsOp.exec_run hs hrun
    exact ⟨haccounted, hkept⟩
  have halong := (Tx.attemptAll_along hstep (imports_accounted_after ops s)
    (Tx.allAccepted_true more _) (Nat.zero_le more.length)).2
  rw [List.take_zero, List.take_length] at halong
  unfold ImportTables.after
  rw [Tx.attemptAll_append]
  exact halong

/-- The imports are what the answers of the run call imported, in turn, and these name each ready
order and each order at most once. -/
theorem imports_answered (ops : List OmsOp) (s : ImportTables) :
    (s.after ops).importKeys =
      importedKeys (Tx.answersAlong OmsOp.exec ops s.unsynced).flatten ∧
    ((importedKeys (Tx.answersAlong OmsOp.exec ops s.unsynced).flatten).map Prod.fst).Nodup ∧
    ((importedKeys (Tx.answersAlong OmsOp.exec ops s.unsynced).flatten).map Prod.snd).Nodup := by
  let good (answers : List (List ImportResult)) (s : ImportTables) : Prop :=
    ImportsAccounted s ∧ s.importKeys = importedKeys answers.flatten
  have hstep : ∀ before (op : OmsOp) s rs s', good before s → op.exec.run s = .ok (rs, s') →
      good (before ++ [rs]) s' := by
    intro before op s rs s' hs hrun
    obtain ⟨haccounted, -, hkeys⟩ := OmsOp.exec_run hs.1 hrun
    refine ⟨haccounted, ?_⟩
    rw [hkeys, hs.2]
    simp [importedKeys]
  have hempty : good [] s.unsynced := ⟨unsynced_accounted s, rfl⟩
  have hrun : good ([] ++ Tx.answersAlong OmsOp.exec ops s.unsynced) (s.after ops) :=
    Tx.attemptAll_answered hstep hempty
  have hkeys : (s.after ops).importKeys =
      importedKeys (Tx.answersAlong OmsOp.exec ops s.unsynced).flatten := hrun.2
  rw [← hkeys]
  exact ⟨rfl, importKeys_nodup _⟩

/-- The answers of every import that is accepted are settled by what is stored before it, an order
that it makes has the components of the projection, and a dry run changes nothing. -/
def ImportTables.CallsSettled (s : ImportTables) : Prop :=
  ∀ env ids dryRun userId rs s',
    (OmsOp.importOrders env ids dryRun userId).exec.run s = .ok (rs, s') →
      rs.map ImportResult.readyOrderId = dedupeReadyOrderIds ids ∧
        (∀ r ∈ rs, r.Settled s dryRun ∧ (r.status = .imported → r.Made s s')) ∧
        (dryRun = true → s' = s)

end Wms.Oms

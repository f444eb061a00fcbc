import Wms.Procurement.Receiving
import Wms.PurchaseTotals

/-!
# Steps of purchase orders

Orders are created, updated and closed, and events receive their lines. An order that is created
or updated is written anew: its lines get numbers that are new, and each of them a completion.
-/

namespace Wms.Procurement

open Foundation Finance

/-! ## Operations -/

/-- An operation with its arguments. -/
inductive PurchaseOp
  | create (reads : PurchasingReads) (payload : OrderIn)
  | update (reads : PurchasingReads) (facts : ReceiptFacts) (poId : ℕ) (payload : OrderIn)
  | close (now : ℤ) (note : Option String) (poId : ℕ)
  | receive (lines : List InboundEventLine) (occurredAt : ℤ)

/-- Carry out an operation; its answer is not looked at. -/
def PurchaseOp.exec : PurchaseOp → Tx PurchaseTables Err Unit
  | create reads payload => (fun _ => ()) <$> createPoV2 reads payload
  | update reads facts poId payload => (fun _ => ()) <$> updatePoV2 reads facts poId payload
  | close now note poId => closePurchaseOrder now note poId
  | receive lines occurredAt => applyCompletionDeltaForEvent lines occurredAt

/-- The tables after a run from empty tables. -/
def PurchaseTables.after (ops : List PurchaseOp) : PurchaseTables :=
  Tx.attemptAll PurchaseOp.exec ops .empty

variable {s s' : PurchaseTables}

/-! ## What an accepted operation does -/

theorem insertLine_seq {l : PurchaseOrderLine} (h : s.insertLine l = .ok s') :
    s'.lineSeq = s.lineSeq ∧ s'.orderSeq = s.orderSeq := by
  unfold PurchaseTables.insertLine at h
  split at h
  · cases h
  · split at h
    · cases h
      exact ⟨rfl, rfl⟩
    · cases h

/-- The lines of a request are stored behind the others, with numbers that are new. -/
theorem insertLines_rows {poId : ℕ} {lines : List NormLine} {u : Unit}
    (h : (lines.forM (insertPurchaseOrderLine poId)).run s = .ok (u, s')) :
    s'.orders = s.orders ∧ s'.completions = s.completions ∧ s'.orderSeq = s.orderSeq ∧
      s.lineSeq ≤ s'.lineSeq ∧ ∃ rows : List PurchaseOrderLine,
        s'.lines.rows = s.lines.rows ++ rows ∧ rows.length = lines.length ∧
          ∀ l ∈ rows, l.poId = poId ∧ s.lineSeq < l.id ∧ l.id ≤ s'.lineSeq := by
  induction lines generalizing s with
  | nil =>
    obtain ⟨-, rfl⟩ := Tx.run_forM_nil_ok.mp h
    exact ⟨rfl, rfl, rfl, le_rfl, [], by simp, rfl, by simp⟩
  | cons line lines ih =>
    obtain ⟨t, hline, hrest⟩ := Tx.run_forM_cons_ok.mp h
    obtain ⟨s₁, t₁, hget, hline⟩ := Tx.run_bind_ok.mp hline
    obtain ⟨rfl, rfl⟩ := Tx.run_get_ok.mp hget
    obtain ⟨row, t₂, hrow, hline⟩ := Tx.run_bind_ok.mp hline
    obtain ⟨hstored, rfl⟩ := Tx.run_ofExcept_ok.mp hrow
    obtain ⟨s₂, t₃, hinsert, hline⟩ := Tx.run_bind_ok.mp hline
    obtain ⟨hinserted, rfl⟩ := Tx.run_ofExcept_ok.mp hinsert
    obtain rfl := Tx.run_set_ok.mp hline
    obtain ⟨hrows, horders, hcompletions⟩ := insertLine_ok hinserted
    obtain ⟨hid, hpo, -⟩ := NormLine.row_ok hstored
    have hseq : s₂.lineSeq = s.lineSeq + 1 ∧ s₂.orderSeq = s.orderSeq := insertLine_seq hinserted
    obtain ⟨horders', hcompletions', horderSeq, hle, rows, hrows', hlength, hnew⟩ := ih hrest
    refine ⟨horders'.trans horders, hcompletions'.trans hcompletions,
      horderSeq.trans hseq.2, by omega, row :: rows, ?_, by simp [hlength], ?_⟩
    · rw [hrows', hrows]
      simp
    · rw [List.forall_mem_cons]
      refine ⟨⟨hpo, by omega, by omega⟩, fun l hl => ?_⟩
      obtain ⟨hlpo, hlt, hub⟩ := hnew l hl
      exact ⟨hlpo, by omega, hub⟩

theorem insertOrder_seq {po : PurchaseOrder} (h : s.insertOrder po = .ok s') :
    s'.lineSeq = s.lineSeq ∧ s'.orderSeq = s.orderSeq := by
  unfold PurchaseTables.insertOrder at h
  split at h
  · cases h
  · cases h
    exact ⟨rfl, rfl⟩

/-- Rewriting an order leaves the others alone. -/
theorem mem_reviseOrder_of_ne {poId : ℕ} {f : PurchaseOrder → PurchaseOrder}
    (hid : ∀ po, (f po).id = po.id) (hno : ∀ po, (f po).poNo = po.poNo) {a : PurchaseOrder}
    (ha : a.id ≠ poId) : a ∈ (s.reviseOrder poId f hid hno).orders.rows ↔ a ∈ s.orders.rows := by
  change a ∈ s.orders.rows.map _ ↔ _
  rw [List.mem_map]
  constructor
  · rintro ⟨po, hpo, heq⟩
    split at heq
    · rename_i hpoId
      rw [← heq, hid] at ha
      exact absurd hpoId ha
    · rwa [← heq]
  · intro hmem
    exact ⟨a, hmem, if_neg ha⟩

/-- The completions that stay when the lines of an order are deleted. -/
theorem mem_deleteLines {poId : ℕ} {c : Completion} :
    c ∈ (s.deleteLines poId).completions.rows ↔
      c ∈ s.completions.rows ∧ ∃ l ∈ s.lines.rows, l.id = c.poLineId ∧ l.poId ≠ poId := by
  change c ∈ s.completions.rows.filter _ ↔ _
  rw [List.mem_filter, List.any_eq_true]
  refine and_congr_right fun _ => ⟨?_, ?_⟩
  · rintro ⟨l, hl, hline⟩
    obtain ⟨hl, hpoId⟩ := List.mem_filter.mp hl
    exact ⟨l, hl, of_decide_eq_true hline, of_decide_eq_true hpoId⟩
  · rintro ⟨l, hl, hline, hpoId⟩
    exact ⟨l, List.mem_filter.mpr ⟨hl, decide_eq_true hpoId⟩, decide_eq_true hline⟩

theorem mem_deleteCompletions {poId : ℕ} {c : Completion} :
    c ∈ (s.deleteCompletions poId).completions.rows ↔
      c ∈ s.completions.rows ∧ c.poId ≠ poId := by
  change c ∈ s.completions.rows.filter _ ↔ _
  rw [List.mem_filter, decide_eq_true_eq]

theorem upsertCompletion_seq {c : Completion} (h : upsertCompletion s c = .ok s') :
    s'.lineSeq = s.lineSeq ∧ s'.orderSeq = s.orderSeq := by
  have hput : ∀ {c : Completion}, s.putCompletion c = .ok s' →
      s'.lineSeq = s.lineSeq ∧ s'.orderSeq = s.orderSeq := by
    intro c h
    unfold PurchaseTables.putCompletion at h
    split at h
    · cases h
    · split at h
      · cases h
        exact ⟨rfl, rfl⟩
      · cases h
  unfold upsertCompletion at h
  split at h
  · exact hput h
  · exact hput h

/-- Each line of an order gets a completion behind the others. -/
theorem upsertRows_rows {po : PurchaseOrder} {ls : List PurchaseOrderLine} {u : Unit}
    (hids : (ls.map PurchaseOrderLine.id).Nodup)
    (hnew : ∀ l ∈ ls, ∀ old ∈ s.completions.rows, old.poLineId ≠ l.id)
    (h : (ls.forM fun l => do
      let c ← Tx.ofExcept (completionRow po l)
      let s ← get
      set (← Tx.ofExcept (upsertCompletion s c)) : Tx PurchaseTables Err Unit).run s =
        .ok (u, s')) :
    s'.orders = s.orders ∧ s'.lines = s.lines ∧ s'.lineSeq = s.lineSeq ∧
      s'.orderSeq = s.orderSeq ∧ ∃ cs : List Completion,
        s'.completions.rows = s.completions.rows ++ cs ∧
          List.Forall₂ (fun l c => completionRow po l = .ok c) ls cs := by
  induction ls generalizing s with
  | nil =>
    obtain rfl := Tx.run_forM_nil_ok.mp h
    exact ⟨rfl, rfl, rfl, rfl, [], by simp, .nil⟩
  | cons l ls ih =>
    obtain ⟨t, hline, hrest⟩ := Tx.run_forM_cons_ok.mp h
    obtain ⟨c, t₁, hrow, hline⟩ := Tx.run_bind_ok.mp hline
    obtain ⟨hstored, rfl⟩ := Tx.run_ofExcept_ok.mp hrow
    obtain ⟨s₁, t₂, hget, hline⟩ := Tx.run_bind_ok.mp hline
    obtain ⟨rfl, rfl⟩ := Tx.run_get_ok.mp hget
    obtain ⟨s₂, t₃, hupsert, hline⟩ := Tx.run_bind_ok.mp hline
    obtain ⟨hupserted, rfl⟩ := Tx.run_ofExcept_ok.mp hupsert
    obtain rfl := Tx.run_set_ok.mp hline
    have hlineId := (completionRow_ok hstored).1
    rw [List.map_cons, List.nodup_cons] at hids
    have hfirst := hnew l List.mem_cons_self
    rw [← hlineId] at hfirst
    obtain ⟨hrows, horders, hlines⟩ := upsertCompletion_new hfirst hupserted
    obtain ⟨hlineSeq, horderSeq⟩ := upsertCompletion_seq hupserted
    have hnew' : ∀ a ∈ ls, ∀ old ∈ s₂.completions.rows, old.poLineId ≠ a.id := by
      intro a ha old hold
      rw [hrows, List.mem_append, List.mem_singleton] at hold
      rcases hold with hold | rfl
      · exact hnew a (List.mem_cons_of_mem l ha) old hold
      · intro heq
        apply hids.1
        rw [← hlineId, heq]
        exact List.mem_map_of_mem ha
    obtain ⟨horders', hlines', hlineSeq', horderSeq', cs, hcs, hmade⟩ := ih hids.2 hnew' hrest
    refine ⟨horders'.trans horders, hlines'.trans hlines, hlineSeq'.trans hlineSeq,
      horderSeq'.trans horderSeq, c :: cs, ?_, .cons hstored hmade⟩
    rw [hcs, hrows]
    simp

/-- An order is written anew: its rows and their completions take the place of the old ones. -/
structure Rewrites (s : PurchaseTables) (po : PurchaseOrder) (rows : List PurchaseOrderLine)
    (cs : List Completion) (s' : PurchaseTables) : Prop where
  order_mem : po ∈ s'.orders.rows
  others : ∀ a, a.id ≠ po.id → (a ∈ s'.orders.rows ↔ a ∈ s.orders.rows)
  rows_ne : rows ≠ []
  rows_new : ∀ l ∈ rows, l.poId = po.id ∧ s.lineSeq < l.id ∧ l.id ≤ s'.lineSeq
  lines_eq : s'.lines.rows = (s.lines.rows.filter fun l => l.poId ≠ po.id) ++ rows
  lineSeq_le : s.lineSeq ≤ s'.lineSeq
  completed : List.Forall₂ (fun l c => completionRow po l = .ok c) rows cs
  mem_completions : ∀ c, c ∈ s'.completions.rows ↔ c ∈ cs ∨
    (c ∈ s.completions.rows ∧ c.poId ≠ po.id ∧
      ∃ l ∈ s.lines.rows, l.id = c.poLineId ∧ l.poId ≠ po.id)

/-- What is left to do once an order is stored and its lines and completions are gone. -/
theorem rewrites_of_run {s₀ s₁ s₃ : PurchaseTables} (s₂ : PurchaseTables) (po : PurchaseOrder)
    {norm : List NormLine} {u v : Unit} (hpo : po ∈ s₀.orders.rows) (hnorm : norm ≠ [])
    (hgone : ∀ l ∈ s₀.lines.rows, l.poId ≠ po.id)
    (hinsert : (norm.forM (insertPurchaseOrderLine po.id)).run s₀ = .ok (u, s₁))
    (horders : s₂.orders = s₁.orders) (hlines : s₂.lines = s₁.lines)
    (hseq : s₂.lineSeq = s₁.lineSeq ∧ s₂.orderSeq = s₁.orderSeq)
    (hkept : ∀ c ∈ s₂.completions.rows, c ∈ s₁.completions.rows)
    (hupsert : (upsertCompletionRowsForPo po.id).run s₂ = .ok (v, s₃)) :
    s₃.orders = s₀.orders ∧ s₃.orderSeq = s₀.orderSeq ∧ s₀.lineSeq ≤ s₃.lineSeq ∧
      ∃ rows cs, rows ≠ [] ∧ s₃.lines.rows = s₀.lines.rows ++ rows ∧
        (∀ l ∈ rows, l.poId = po.id ∧ s₀.lineSeq < l.id ∧ l.id ≤ s₃.lineSeq) ∧
        List.Forall₂ (fun l c => completionRow po l = .ok c) rows cs ∧
        s₃.completions.rows = s₂.completions.rows ++ cs := by
  obtain ⟨horders₁, hcompletions₁, horderSeq₁, hle₁, rows, hrows, hlength, hnew⟩ :=
    insertLines_rows hinsert
  have hmem : po ∈ s₂.orders.rows := by
    rw [horders, horders₁]
    exact hpo
  have hlinesOf : s₂.linesOf po.id = rows := by
    unfold PurchaseTables.linesOf
    rw [hlines, hrows, List.filter_append, List.filter_eq_nil_iff.mpr, List.nil_append,
      List.filter_eq_self]
    · intro l hl
      exact decide_eq_true (hnew l hl).1
    · intro l hl
      simp [hgone l hl]
  have hpairs := s₁.lines.unique
  rw [hrows] at hpairs
  obtain ⟨-, hrowsPairs, hcross⟩ := List.pairwise_append.mp hpairs
  obtain ⟨t, t', hget, hupsert⟩ := Tx.run_bind_ok.mp hupsert
  obtain ⟨rfl, rfl⟩ := Tx.run_get_ok.mp hget
  rw [findOrder_eq_some hmem] at hupsert
  dsimp only at hupsert
  rw [hlinesOf] at hupsert
  obtain ⟨horders₃, hlines₃, hlineSeq₃, horderSeq₃, cs, hcs, hmade⟩ := upsertRows_rows
    (List.pairwise_map.mpr (hrowsPairs.imp fun hclash heq => hclash (.inl heq)))
    (by
      intro l hl old hold heq
      have hold := hkept old hold
      rw [hcompletions₁] at hold
      obtain ⟨⟨a, ha, hid⟩, -⟩ := s₀.completions_fk old hold
      exact hcross a ha l hl (.inl (hid.trans heq))) hupsert
  refine ⟨horders₃.trans (horders.trans horders₁), horderSeq₃.trans (hseq.2.trans horderSeq₁),
    ?_, rows, cs, ?_, ?_, ?_, hmade, hcs⟩
  · rw [hlineSeq₃, hseq.1]
    exact hle₁
  · intro hnil
    apply hnorm
    rw [← List.length_eq_zero_iff, ← hlength, hnil, List.length_nil]
  · rw [hlines₃, hlines, hrows]
  · intro l hl
    obtain ⟨hlpo, hlt, hub⟩ := hnew l hl
    exact ⟨hlpo, hlt, by rw [hlineSeq₃, hseq.1]; exact hub⟩

theorem normLines_ne {reads : PurchasingReads} {service : String}
    {number : ℕ → List ℤ → LineIn → Except Err ℤ} {payload : OrderIn} {norm : NormOrder}
    (h : normalizePayload reads service number payload = .ok norm) : norm.lines ≠ [] := by
  have hpurchases := congrArg List.length (normalizePayload_ok h).1
  rw [List.length_map, List.length_map] at hpurchases
  unfold normalizePayload at h
  split at h
  · cases h
  · rename_i hne
    intro hnil
    apply hne
    rw [← List.length_eq_zero_iff, ← hpurchases, hnil, List.length_nil]

/-- An order as it is created. -/
structure IsCreated (po : PurchaseOrder) : Prop where
  status_eq : po.status.text = "CREATED"
  open_eq : po.closeReason = none ∧ po.closedAt = none

section Services

variable {reads : PurchasingReads} {facts : ReceiptFacts} {poId poId' : ℕ} {payload : OrderIn}

theorem createPoV2_rewrites (h : (createPoV2 reads payload).run s = .ok (poId, s')) :
    ∃ po rows cs, Rewrites s po rows cs s' ∧ IsCreated po ∧ po.id = s.orderSeq + 1 ∧
      (∀ a ∈ s.orders.rows, a.id ≠ po.id) ∧ s'.orderSeq = s.orderSeq + 1 := by
  obtain ⟨norm, t₁, hnorm, h⟩ := Tx.run_bind_ok.mp h
  obtain ⟨hpayload, rfl⟩ := Tx.run_ofExcept_ok.mp hnorm
  obtain ⟨s₁, t₂, hget, h⟩ := Tx.run_bind_ok.mp h
  obtain ⟨rfl, rfl⟩ := Tx.run_get_ok.mp hget
  obtain ⟨poNo, t₃, hpoNo, h⟩ := Tx.run_bind_ok.mp h
  obtain ⟨-, rfl⟩ := Tx.run_ofExcept_ok.mp hpoNo
  obtain ⟨head, t₄, hhead, h⟩ := Tx.run_bind_ok.mp h
  obtain ⟨hstored, rfl⟩ := Tx.run_ofExcept_ok.mp hhead
  obtain ⟨s₂, t₅, hinsert, h⟩ := Tx.run_bind_ok.mp h
  obtain ⟨hinserted, rfl⟩ := Tx.run_ofExcept_ok.mp hinsert
  obtain ⟨u, s₃, hset, h⟩ := Tx.run_bind_ok.mp h
  obtain rfl := Tx.run_set_ok.mp hset
  obtain ⟨u', s₄, hlines, h⟩ := Tx.run_bind_ok.mp h
  obtain ⟨u'', s₅, hupsert, h⟩ := Tx.run_bind_ok.mp h
  obtain ⟨rfl, rfl⟩ := Tx.run_pure_ok.mp h
  obtain ⟨hrows, hsame, hcompletions, hnew⟩ := insertOrder_ok hinserted
  obtain ⟨hlineSeq, horderSeq⟩ := insertOrder_seq hinserted
  have hlinesNew : ∀ l ∈ s.lines.rows, l.poId ≠ s.orderSeq + 1 := by
    intro l hl heq
    obtain ⟨po, hpo, hid⟩ := s.lines_fk l hl
    exact hnew po hpo (hid.trans heq)
  obtain ⟨horders₅, horderSeq₅, hle₅, rows, cs, hne, hlines₅, hnew₅, hmade, hcs⟩ :=
    rewrites_of_run s₄ (head.order (s.orderSeq + 1) poNo)
      (by rw [hrows]; exact List.mem_append_right _ (List.mem_singleton_self _))
      (normLines_ne hpayload) (by rw [hsame]; exact hlinesNew) hlines rfl rfl ⟨rfl, rfl⟩
      (fun _ hc => hc) hupsert
  have hkept := (insertLines_rows hlines).2.1
  refine ⟨head.order (s.orderSeq + 1) poNo, rows, cs, ⟨?_, ?_, hne, ?_, ?_, ?_, hmade, ?_⟩,
    ⟨rfl, rfl, rfl⟩, rfl, hnew, horderSeq₅.trans horderSeq⟩
  · rw [horders₅, hrows]
    exact List.mem_append_right _ (List.mem_singleton_self _)
  · intro a ha
    rw [horders₅, hrows, List.mem_append, List.mem_singleton, or_iff_left]
    rintro rfl
    exact ha rfl
  · intro l hl
    obtain ⟨hpo, hlt, hub⟩ := hnew₅ l hl
    exact ⟨hpo, by rwa [hlineSeq] at hlt, hub⟩
  · rw [hlines₅, hsame, List.filter_eq_self.mpr]
    intro l hl
    exact decide_eq_true (hlinesNew l hl)
  · rwa [hlineSeq] at hle₅
  · intro c
    rw [hcs, hkept, hcompletions, List.mem_append, or_comm]
    refine or_congr_right (iff_self_and.mpr fun hc => ?_)
    obtain ⟨⟨l, hl, hid⟩, po, hpo, hpoId⟩ := s.completions_fk c hc
    exact ⟨fun heq => hnew po hpo (hpoId.trans heq), l, hl, hid, hlinesNew l hl⟩

theorem requirePoEditable_ok {po : PurchaseOrder} {u : Unit}
    (h : requirePoEditable facts s po = .ok u) : upper po.status.text = "CREATED" := by
  unfold requirePoEditable at h
  dsimp only at h
  split at h
  · cases h
  · rename_i hstatus
    exact not_not.mp hstatus

theorem updatePoV2_rewrites (h : (updatePoV2 reads facts poId payload).run s = .ok (poId', s')) :
    ∃ old ∈ s.orders.rows, ∃ (head : StoredHead) (rows : List PurchaseOrderLine)
      (cs : List Completion), old.id = poId ∧ upper old.status.text = "CREATED" ∧
        Rewrites s (head.revise old) rows cs s' ∧ s'.orderSeq = s.orderSeq := by
  obtain ⟨s₁, t₁, hget, h⟩ := Tx.run_bind_ok.mp h
  obtain ⟨rfl, rfl⟩ := Tx.run_get_ok.mp hget
  obtain ⟨po, t₂, hfind, h⟩ := Tx.run_bind_ok.mp h
  obtain ⟨hpo, rfl⟩ := Tx.run_demand_ok.mp hfind
  obtain ⟨u, t₃, heditable, h⟩ := Tx.run_bind_ok.mp h
  obtain ⟨hopen, rfl⟩ := Tx.run_ofExcept_ok.mp heditable
  obtain ⟨norm, t₄, hnorm, h⟩ := Tx.run_bind_ok.mp h
  obtain ⟨hpayload, rfl⟩ := Tx.run_ofExcept_ok.mp hnorm
  obtain ⟨head, t₅, hhead, h⟩ := Tx.run_bind_ok.mp h
  obtain ⟨hstored, rfl⟩ := Tx.run_ofExcept_ok.mp hhead
  obtain ⟨u', s₃, hset, h⟩ := Tx.run_bind_ok.mp h
  obtain rfl := Tx.run_set_ok.mp hset
  obtain ⟨u'', s₄, hlines, h⟩ := Tx.run_bind_ok.mp h
  obtain ⟨u₃, s₅, hrebuild, h⟩ := Tx.run_bind_ok.mp h
  obtain ⟨rfl, rfl⟩ := Tx.run_pure_ok.mp h
  obtain ⟨u₄, s₆, hdelete, hupsert⟩ := Tx.run_bind_ok.mp hrebuild
  obtain rfl := Tx.run_modify_ok.mp hdelete
  have hid : po.id = poId := by simpa using List.find?_some hpo
  subst hid
  have hmem : po ∈ s.orders.rows := List.mem_of_find?_eq_some hpo
  have hrevised : head.revise po ∈ ((s.reviseOrder po.id head.revise (fun _ => rfl)
      fun _ => rfl).deleteLines po.id).orders.rows :=
    List.mem_map.mpr ⟨po, hmem, if_pos rfl⟩
  have hgone : ∀ l ∈ ((s.reviseOrder po.id head.revise (fun _ => rfl)
      fun _ => rfl).deleteLines po.id).lines.rows, l.poId ≠ po.id := by
    intro l hl
    exact of_decide_eq_true (List.mem_filter.mp hl).2
  obtain ⟨horders₅, horderSeq₅, hle₅, rows, cs, hne, hlines₅, hnew₅, hmade, hcs⟩ :=
    rewrites_of_run (s₄.deleteCompletions po.id) (head.revise po) hrevised
      (normLines_ne hpayload) hgone hlines rfl rfl ⟨rfl, rfl⟩
      (fun _ hc => (List.mem_filter.mp hc).1) hupsert
  have hkept := (insertLines_rows hlines).2.1
  refine ⟨po, hmem, head, rows, cs, rfl, requirePoEditable_ok hopen,
    ⟨?_, ?_, hne, hnew₅, hlines₅, hle₅, hmade, ?_⟩, horderSeq₅⟩
  · rw [horders₅]
    exact hrevised
  · intro a ha
    have hne' : a.id ≠ po.id := ha
    rw [horders₅]
    exact mem_reviseOrder_of_ne (s := s) (f := head.revise) (fun _ => rfl) (fun _ => rfl) hne'
  · intro c
    rw [hcs, List.mem_append, or_comm, mem_deleteCompletions, hkept, mem_deleteLines, and_assoc]
    exact or_congr_right (and_congr_right fun _ => and_comm)

end Services

theorem closePurchaseOrder_ok {now : ℤ} {note : Option String} {poId : ℕ} {u : Unit}
    (h : (closePurchaseOrder now note poId).run s = .ok (u, s')) :
    ∃ old ∈ s.orders.rows, old.id = poId ∧ upper old.status.text = "CREATED" ∧
      s' = s.reviseOrder poId (PurchaseOrder.close now note) (fun _ => rfl) fun _ => rfl := by
  obtain ⟨s₁, t₁, hget, h⟩ := Tx.run_bind_ok.mp h
  obtain ⟨rfl, rfl⟩ := Tx.run_get_ok.mp hget
  obtain ⟨po, t₂, hfind, h⟩ := Tx.run_bind_ok.mp h
  obtain ⟨hpo, rfl⟩ := Tx.run_demand_ok.mp hfind
  obtain ⟨v, t₃, hstatus, h⟩ := Tx.run_bind_ok.mp h
  obtain ⟨hopen, rfl⟩ := Tx.run_failIf_ok.mp hstatus
  obtain rfl := Tx.run_set_ok.mp h
  exact ⟨po, List.mem_of_find?_eq_some hpo, by simpa using List.find?_some hpo,
    not_not.mp hopen, rfl⟩

/-- The tables after an event. -/
def PurchaseTables.received (s : PurchaseTables) (lines : List InboundEventLine)
    (occurredAt : ℤ) : PurchaseTables :=
  s.mapCompletions (Completion.applyDelta lines occurredAt)
    (applyDelta_poLineId lines occurredAt) (applyDelta_poId lines occurredAt)
    (applyDelta_lineNo lines occurredAt)

theorem applyCompletionDeltaForEvent_ok {lines : List InboundEventLine} {occurredAt : ℤ} {u : Unit}
    (h : (applyCompletionDeltaForEvent lines occurredAt).run s = .ok (u, s')) :
    s' = s.received lines occurredAt := by
  obtain ⟨v, t₁, hsums, h⟩ := Tx.run_bind_ok.mp h
  obtain ⟨-, rfl⟩ := Tx.run_ofExcept_ok.mp hsums
  obtain ⟨s₁, t₂, hget, h⟩ := Tx.run_bind_ok.mp h
  obtain ⟨rfl, rfl⟩ := Tx.run_get_ok.mp hget
  obtain ⟨w, t₃, hfits, h⟩ := Tx.run_bind_ok.mp h
  obtain ⟨-, rfl⟩ := Tx.run_ofExcept_ok.mp hfits
  exact (Tx.run_set_ok.mp h).symm

/-- What an accepted operation does. -/
inductive PurchaseStep (s : PurchaseTables) : PurchaseOp → PurchaseTables → Prop
  | create {reads : PurchasingReads} {payload : OrderIn} {po : PurchaseOrder}
      {rows : List PurchaseOrderLine} {cs : List Completion} {s' : PurchaseTables}
      (written : Rewrites s po rows cs s') (created : IsCreated po)
      (id_eq : po.id = s.orderSeq + 1) (new : ∀ a ∈ s.orders.rows, a.id ≠ po.id)
      (seq_eq : s'.orderSeq = s.orderSeq + 1) : PurchaseStep s (.create reads payload) s'
  | update {reads : PurchasingReads} {facts : ReceiptFacts} {payload : OrderIn}
      {old : PurchaseOrder} {head : StoredHead} {rows : List PurchaseOrderLine}
      {cs : List Completion} {s' : PurchaseTables} (old_mem : old ∈ s.orders.rows)
      (is_open : upper old.status.text = "CREATED")
      (written : Rewrites s (head.revise old) rows cs s') (seq_eq : s'.orderSeq = s.orderSeq) :
      PurchaseStep s (.update reads facts old.id payload) s'
  | close {now : ℤ} {note : Option String} {old : PurchaseOrder} (old_mem : old ∈ s.orders.rows)
      (is_open : upper old.status.text = "CREATED") :
      PurchaseStep s (.close now note old.id)
        (s.reviseOrder old.id (PurchaseOrder.close now note) (fun _ => rfl) fun _ => rfl)
  | receive {lines : List InboundEventLine} {occurredAt : ℤ} :
      PurchaseStep s (.receive lines occurredAt) (s.received lines occurredAt)

theorem PurchaseOp.step_of_exec {op : PurchaseOp} {u : Unit}
    (h : op.exec.run s = .ok (u, s')) : PurchaseStep s op s' := by
  cases op with
  | create reads payload =>
    obtain ⟨poId, hrun, -⟩ := Tx.run_map_ok.mp h
    obtain ⟨po, rows, cs, hwritten, hcreated, hid, hnew, hseq⟩ := createPoV2_rewrites hrun
    exact .create hwritten hcreated hid hnew hseq
  | update reads facts poId payload =>
    obtain ⟨poId', hrun, -⟩ := Tx.run_map_ok.mp h
    obtain ⟨old, hold, head, rows, cs, rfl, hopen, hwritten, hseq⟩ := updatePoV2_rewrites hrun
    exact .update hold hopen hwritten hseq
  | close now note poId =>
    obtain ⟨old, hold, rfl, hopen, rfl⟩ := closePurchaseOrder_ok h
    exact .close hold hopen
  | receive lines occurredAt =>
    obtain rfl := applyCompletionDeltaForEvent_ok h
    exact .receive

end Wms.Procurement

import Wms.Procurement.PurchaseSteps

/-!
# Runs of purchase orders

In every state that a run of creating, updating, closing and receiving reaches, each line has one
completion, which is made from the line and its order. It has what the events have received of
the line since it was stored. An order that is closed stays as it is.
-/

namespace Wms.Procurement

open Foundation

variable {s s' : PurchaseTables}

/-! ## Completions and lines -/

/-- The completion is made from the order and the line, whatever is received. -/
structure Completion.Reflects (c : Completion) (po : PurchaseOrder) (l : PurchaseOrderLine) :
    Prop where
  order_eq : l.poId = po.id
  made : ∃ c₀, completionRow po l = .ok c₀ ∧
    c = c₀.receive c.qtyReceivedBase c.lastReceivedAt c.received_nonneg

/-- Each line has one completion, each completion reflects its line and its order, and each
order has lines. -/
structure CompletionsMirror (s : PurchaseTables) : Prop where
  completed : ∀ l ∈ s.lines.rows, ∃! c, c ∈ s.completions.rows ∧ c.poLineId = l.id
  reflects : ∀ c ∈ s.completions.rows, ∃ po ∈ s.orders.rows, ∃ l ∈ s.lines.rows,
    l.id = c.poLineId ∧ c.Reflects po l
  has_lines : ∀ po ∈ s.orders.rows, ∃ l ∈ s.lines.rows, l.poId = po.id

theorem Completion.Reflects.poId_eq {c : Completion} {po : PurchaseOrder} {l : PurchaseOrderLine}
    (h : c.Reflects po l) : c.poId = po.id ∧ c.poLineId = l.id := by
  obtain ⟨c₀, hmade, heq⟩ := h.made
  obtain ⟨hline, hpo, -⟩ := completionRow_ok hmade
  rw [heq]
  exact ⟨hpo, hline⟩

/-- A completion that is received again reflects the same. -/
theorem Completion.Reflects.receive {c : Completion} {po : PurchaseOrder} {l : PurchaseOrderLine}
    (h : c.Reflects po l) (received : ℤ) (last : Option ℤ) (hreceived : 0 ≤ received) :
    (c.receive received last hreceived).Reflects po l := by
  obtain ⟨c₀, hmade, heq⟩ := h.made
  refine ⟨h.order_eq, c₀, hmade, ?_⟩
  rw [heq]
  rfl

theorem completionRow_fresh {po : PurchaseOrder} {l : PurchaseOrderLine} {c : Completion}
    (h : completionRow po l = .ok c) : c.qtyReceivedBase = 0 ∧ c.lastReceivedAt = none ∧
      c = c.receive c.qtyReceivedBase c.lastReceivedAt c.received_nonneg := by
  obtain ⟨planned, hplanned, h⟩ := except_bind_eq_ok.mp h
  split at h
  · split at h
    · cases h
      refine ⟨rfl, rfl, ?_⟩
      simp [Completion.receive, completionStatus, l.qty_pos.le]
    · cases h
  · cases h

theorem eq_of_lineId {a b : PurchaseOrderLine} (ha : a ∈ s.lines.rows) (hb : b ∈ s.lines.rows)
    (h : a.id = b.id) : a = b :=
  Mirror.eq_of_pk s.lines ha hb h

/-- An order that is written anew has new completions, and the others keep theirs. -/
theorem CompletionsMirror.of_rewrites {po : PurchaseOrder} {rows : List PurchaseOrderLine}
    {cs : List Completion} (h : CompletionsMirror s) (hw : Rewrites s po rows cs s') :
    CompletionsMirror s' := by
  have hline : ∀ l, l ∈ s'.lines.rows ↔ (l ∈ s.lines.rows ∧ l.poId ≠ po.id) ∨ l ∈ rows := by
    intro l
    rw [hw.lines_eq, List.mem_append, List.mem_filter, decide_eq_true_eq]
  refine ⟨fun l hl => ?_, fun c hc => ?_, fun a ha => ?_⟩
  · have hexists : ∃ c ∈ s'.completions.rows, c.poLineId = l.id := by
      rcases (hline l).mp hl with ⟨hold, hpo⟩ | hnew
      · obtain ⟨c, ⟨hc, hid⟩, -⟩ := h.completed l hold
        obtain ⟨po', -, l', hl', hline', hreflects⟩ := h.reflects c hc
        obtain rfl := eq_of_lineId hl' hold (hline'.trans hid)
        have hpoId := hreflects.poId_eq.1.trans hreflects.order_eq.symm
        exact ⟨c, (hw.mem_completions c).mpr
          (.inr ⟨hc, by rwa [hpoId], l', hold, hid.symm, hpo⟩), hid⟩
      · obtain ⟨c, hc, hmade⟩ := exists_of_forall₂ hw.completed hnew
        exact ⟨c, (hw.mem_completions c).mpr (.inl hc), (completionRow_ok hmade).1⟩
    obtain ⟨c, hc, hid⟩ := hexists
    refine ⟨c, ⟨hc, hid⟩, ?_⟩
    rintro c' ⟨hc', hid'⟩
    exact Mirror.eq_of_pk s'.completions hc' hc (hid'.trans hid.symm)
  · rcases (hw.mem_completions c).mp hc with hnew | ⟨hold, hpo, -⟩
    · obtain ⟨l, hl, hmade⟩ := exists_of_forall₂ hw.completed.flip hnew
      have hfresh := (completionRow_fresh hmade).2.2
      exact ⟨po, hw.order_mem, l, (hline l).mpr (.inr hl), (completionRow_ok hmade).1.symm,
        (hw.rows_new l hl).1, c, hmade, hfresh⟩
    · obtain ⟨po', hpo', l, hl, hid, hreflects⟩ := h.reflects c hold
      have hne : po'.id ≠ po.id := by rwa [← hreflects.poId_eq.1]
      refine ⟨po', (hw.others po' hne).mpr hpo', l, (hline l).mpr (.inl ⟨hl, ?_⟩), hid, hreflects⟩
      rwa [hreflects.order_eq]
  · by_cases hid : a.id = po.id
    · obtain ⟨l, hl⟩ := List.exists_mem_of_ne_nil _ hw.rows_ne
      exact ⟨l, (hline l).mpr (.inr hl), ((hw.rows_new l hl).1).trans hid.symm⟩
    · obtain ⟨l, hl, hpo⟩ := h.has_lines a ((hw.others a hid).mp ha)
      exact ⟨l, (hline l).mpr (.inl ⟨hl, by rwa [hpo]⟩), hpo⟩

/-- Closing an order changes nothing that the completions are made from. -/
theorem CompletionsMirror.close {poId : ℕ} {now : ℤ} {note : Option String}
    (h : CompletionsMirror s) : CompletionsMirror
      (s.reviseOrder poId (PurchaseOrder.close now note) (fun _ => rfl) fun _ => rfl) := by
  refine ⟨h.completed, fun c hc => ?_, fun a ha => ?_⟩
  · obtain ⟨po, hpo, l, hl, hid, horder, hmade⟩ := h.reflects c hc
    refine ⟨_, List.mem_map_of_mem hpo, l, hl, hid, ?_⟩
    split
    · exact ⟨horder, hmade⟩
    · exact ⟨horder, hmade⟩
  · obtain ⟨po, hpo, rfl⟩ := List.mem_map.mp ha
    obtain ⟨l, hl, hid⟩ := h.has_lines po hpo
    refine ⟨l, hl, ?_⟩
    split
    · exact hid
    · exact hid

theorem CompletionsMirror.received {lines : List InboundEventLine} {occurredAt : ℤ}
    (h : CompletionsMirror s) : CompletionsMirror (s.received lines occurredAt) := by
  refine ⟨fun l hl => ?_, fun c hc => ?_, h.has_lines⟩
  · obtain ⟨c, ⟨hc, hid⟩, -⟩ := h.completed l hl
    have hmem : c.applyDelta lines occurredAt ∈ (s.received lines occurredAt).completions.rows :=
      List.mem_map_of_mem hc
    have hline := (applyDelta_poLineId lines occurredAt c).trans hid
    refine ⟨_, ⟨hmem, hline⟩, ?_⟩
    rintro c' ⟨hc', hid'⟩
    exact Mirror.eq_of_pk (s.received lines occurredAt).completions hc' hmem
      (hid'.trans hline.symm)
  · obtain ⟨old, hold, rfl⟩ := List.mem_map.mp hc
    obtain ⟨po, hpo, l, hl, hid, hreflects⟩ := h.reflects old hold
    refine ⟨po, hpo, l, hl, hid.trans (applyDelta_poLineId lines occurredAt old).symm, ?_⟩
    unfold Completion.applyDelta
    split
    · exact hreflects
    · exact hreflects.receive _ _ _

theorem PurchaseStep.mirror {op : PurchaseOp} (h : PurchaseStep s op s')
    (hs : CompletionsMirror s) : CompletionsMirror s' := by
  cases h with
  | create hwritten => exact hs.of_rewrites hwritten
  | update _ _ hwritten => exact hs.of_rewrites hwritten
  | close => exact hs.close
  | receive => exact hs.received

theorem mirror_empty : CompletionsMirror .empty where
  completed _ hl := absurd hl List.not_mem_nil
  reflects _ hc := absurd hc List.not_mem_nil
  has_lines _ hpo := absurd hpo List.not_mem_nil

/-- In every state of a run the completions mirror the lines. -/
theorem completions_mirror (ops : List PurchaseOp) : CompletionsMirror (.after ops) :=
  Tx.attemptAll_invariant (I := CompletionsMirror) (P := fun _ _ => True)
    (fun _ _ _ _ hs _ hrun => (PurchaseOp.step_of_exec hrun).mirror hs) mirror_empty
    (Tx.allAccepted_true ops _)

/-! ## What is received -/

/-- What an accepted operation receives of a line that is stored, with the time of the event. -/
def PurchaseOp.receipts (poLineId : ℕ) (s : PurchaseTables) : PurchaseOp → List (ℤ × ℤ)
  | receive lines occurredAt =>
    if ((applyCompletionDeltaForEvent lines occurredAt).run s).toBool ∧
        ∃ l ∈ s.lines.rows, l.id = poLineId then
      ((deltaOf lines poLineId).map fun add => (add, occurredAt)).toList
    else []
  | _ => []

/-- What a run receives of a line. -/
def receiptsAlong (poLineId : ℕ) : List PurchaseOp → PurchaseTables → List (ℤ × ℤ)
  | [], _ => []
  | op :: ops, s => op.receipts poLineId s ++ receiptsAlong poLineId ops (op.exec.attempt s)

/-- The completion accounts for the receipts. -/
structure Completion.Accounts (c : Completion) (receipts : List (ℤ × ℤ)) : Prop where
  received_eq : c.qtyReceivedBase = (receipts.map Prod.fst).sum
  remaining_eq : c.qtyRemainingBase = max (c.qtyOrderedBase - (receipts.map Prod.fst).sum) 0
  status_eq : c.lineCompletionStatus =
    completionStatus (receipts.map Prod.fst).sum c.qtyOrderedBase
  last_eq : c.lastReceivedAt = (receipts.map Prod.snd).max?

/-- Each completion accounts for the receipts of its line, and the lines to come have none. -/
structure Accounted (receipts : ℕ → List (ℤ × ℤ)) (s : PurchaseTables) : Prop where
  accounts : ∀ c ∈ s.completions.rows, c.Accounts (receipts c.poLineId)
  lines_le : ∀ l ∈ s.lines.rows, l.id ≤ s.lineSeq
  to_come : ∀ poLineId, s.lineSeq < poLineId → receipts poLineId = []

theorem laterOf_some (last t : ℤ) : laterOf (some last) t = max last t := by
  simp only [laterOf]
  split <;> omega

theorem max?_concat (ts : List ℤ) (t : ℤ) : (ts ++ [t]).max? = some (laterOf ts.max? t) := by
  cases ts with
  | nil => rfl
  | cons first ts =>
    rw [List.cons_append, List.max?_cons', List.max?_cons', laterOf_some, List.foldl_append]
    rfl

theorem completionRow_accounts {po : PurchaseOrder} {l : PurchaseOrderLine} {c : Completion}
    (h : completionRow po l = .ok c) : c.Accounts [] := by
  obtain ⟨hreceived, hlast, heq⟩ := completionRow_fresh h
  have hremaining := c.remaining_eq
  rw [hreceived] at hremaining
  refine ⟨hreceived, hremaining, ?_, hlast⟩
  have hstatus := congrArg Completion.lineCompletionStatus heq
  exact hstatus.trans (congrArg (completionStatus · c.qtyOrderedBase) hreceived)

theorem Completion.Accounts.applyDelta {c : Completion} {receipts : List (ℤ × ℤ)}
    (h : c.Accounts receipts) (lines : List InboundEventLine) (occurredAt : ℤ) :
    (c.applyDelta lines occurredAt).Accounts (receipts ++
      ((deltaOf lines c.poLineId).map fun add => (add, occurredAt)).toList) := by
  unfold Completion.applyDelta
  split
  · rename_i hdelta
    rw [hdelta]
    simpa using h
  · rename_i add hdelta
    have hsum : c.qtyReceivedBase + add = ((receipts ++ [(add, occurredAt)]).map Prod.fst).sum := by
      simp [h.received_eq]
    have hlast : some (laterOf c.lastReceivedAt occurredAt) =
        ((receipts ++ [(add, occurredAt)]).map Prod.snd).max? := by
      rw [h.last_eq, List.map_append, ← max?_concat]
      rfl
    have hreceipts : ((deltaOf lines c.poLineId).map fun add => (add, occurredAt)).toList =
        [(add, occurredAt)] := by
      rw [hdelta]
      rfl
    rw [hreceipts]
    refine ⟨hsum, ?_, ?_, hlast⟩
    · exact congrArg (fun x => max (c.qtyOrderedBase - x) 0) hsum
    · exact congrArg (completionStatus · c.qtyOrderedBase) hsum

theorem Accounted.of_rewrites {receipts : ℕ → List (ℤ × ℤ)} {po : PurchaseOrder}
    {rows : List PurchaseOrderLine} {cs : List Completion} (h : Accounted receipts s)
    (hw : Rewrites s po rows cs s') : Accounted receipts s' := by
  refine ⟨fun c hc => ?_, fun l hl => ?_, fun poLineId hid => ?_⟩
  · rcases (hw.mem_completions c).mp hc with hnew | ⟨hold, -⟩
    · obtain ⟨l, hl, hmade⟩ := exists_of_forall₂ hw.completed.flip hnew
      rw [(completionRow_ok hmade).1, h.to_come l.id (hw.rows_new l hl).2.1]
      exact completionRow_accounts hmade
    · exact h.accounts c hold
  · rw [hw.lines_eq, List.mem_append, List.mem_filter] at hl
    rcases hl with ⟨hold, -⟩ | hnew
    · exact (h.lines_le l hold).trans hw.lineSeq_le
    · exact (hw.rows_new l hnew).2.2
  · exact h.to_come poLineId (hw.lineSeq_le.trans_lt hid)

theorem Accounted.received {receipts : ℕ → List (ℤ × ℤ)} (h : Accounted receipts s)
    {lines : List InboundEventLine} {occurredAt : ℤ} {u : Unit}
    (hrun : (applyCompletionDeltaForEvent lines occurredAt).run s =
      .ok (u, s.received lines occurredAt)) :
    Accounted (fun poLineId => receipts poLineId ++
      (PurchaseOp.receive lines occurredAt).receipts poLineId s) (s.received lines occurredAt) := by
  refine ⟨fun c hc => ?_, h.lines_le, fun poLineId hid => ?_⟩
  · obtain ⟨old, hold, rfl⟩ := List.mem_map.mp hc
    obtain ⟨⟨l, hl, hline⟩, -⟩ := s.completions_fk old hold
    rw [applyDelta_poLineId]
    rw [PurchaseOp.receipts]
    rw [if_pos ⟨Tx.toBool_of_run hrun, l, hl, hline⟩]
    exact (h.accounts old hold).applyDelta lines occurredAt
  · rw [PurchaseOp.receipts]
    rw [h.to_come poLineId hid, List.nil_append, if_neg]
    rintro ⟨-, l, hl, rfl⟩
    exact absurd (h.lines_le l hl) hid.not_ge

theorem Accounted.attempt {receipts : ℕ → List (ℤ × ℤ)} (h : Accounted receipts s)
    (op : PurchaseOp) :
    Accounted (fun poLineId => receipts poLineId ++ op.receipts poLineId s) (op.exec.attempt s) := by
  have hsame : (∀ poLineId, op.receipts poLineId s = []) → (fun poLineId => receipts poLineId ++
      op.receipts poLineId s) = receipts := by
    intro hnone
    funext poLineId
    rw [hnone, List.append_nil]
  cases hrun : op.exec.run s with
  | error e =>
    have hattempt : op.exec.attempt s = s := by
      unfold Tx.attempt
      rw [hrun]
    rw [hattempt, hsame]
    · exact h
    · intro poLineId
      cases op with
      | receive lines occurredAt =>
        change (applyCompletionDeltaForEvent lines occurredAt).run s = _ at hrun
        simp [PurchaseOp.receipts, hrun, Except.toBool]
      | create | update | close => rfl
  | ok p =>
    obtain ⟨u, s'⟩ := p
    rw [Tx.attempt_of_run hrun]
    cases PurchaseOp.step_of_exec hrun with
    | create hwritten | update _ _ hwritten =>
      rw [hsame fun _ => rfl]
      exact h.of_rewrites hwritten
    | close =>
      rw [hsame fun _ => rfl]
      exact ⟨h.accounts, h.lines_le, h.to_come⟩
    | receive => exact h.received hrun

theorem Accounted.attemptAll {receipts : ℕ → List (ℤ × ℤ)} {ops : List PurchaseOp}
    (h : Accounted receipts s) :
    Accounted (fun poLineId => receipts poLineId ++ receiptsAlong poLineId ops s)
      (Tx.attemptAll PurchaseOp.exec ops s) := by
  induction ops generalizing s receipts with
  | nil => simpa [receiptsAlong, Tx.attemptAll] using h
  | cons op ops ih => simpa [receiptsAlong, Tx.attemptAll] using ih (h.attempt op)

/-- In every run each completion accounts for what the run has received of its line. -/
theorem completions_account (ops : List PurchaseOp) :
    Accounted (fun poLineId => receiptsAlong poLineId ops .empty) (.after ops) := by
  have hempty : Accounted (fun _ => []) .empty :=
    ⟨by simp [PurchaseTables.empty], by simp [PurchaseTables.empty], fun _ _ => rfl⟩
  have hrun : Accounted (fun poLineId => [] ++ receiptsAlong poLineId ops .empty) (.after ops) :=
    hempty.attemptAll
  simpa only [List.nil_append] using hrun

/-! ## Closed orders -/

/-- The order may still be written, closed and received. -/
structure PurchaseOrder.Open (po : PurchaseOrder) : Prop where
  status_eq : po.status.text = "CREATED"
  not_closed : po.closeReason = none ∧ po.closedAt = none

/-- The order was closed by hand. -/
structure PurchaseOrder.Closed (po : PurchaseOrder) : Prop where
  status_eq : po.status.text = "CLOSED"
  closed_at : po.closedAt ≠ none
  reason_eq : po.closeReason = some (.lit "MANUAL_TERMINATED")

/-- Orders stay, with their numbers, and one that is closed stays as it is with its lines. -/
structure OrdersAdvance (s s' : PurchaseTables) : Prop where
  kept : ∀ po ∈ s.orders.rows, ∃ po' ∈ s'.orders.rows, po'.id = po.id ∧ po'.poNo = po.poNo
  closed_stays : ∀ po ∈ s.orders.rows, po.Closed →
    po ∈ s'.orders.rows ∧ s'.linesOf po.id = s.linesOf po.id

instance : IsPreorder PurchaseTables OrdersAdvance where
  refl _ := ⟨fun po hpo => ⟨po, hpo, rfl, rfl⟩, fun _ hpo _ => ⟨hpo, rfl⟩⟩
  trans s₁ s₂ s₃ h₁ h₂ := by
    refine ⟨fun po hpo => ?_, fun po hpo hclosed => ?_⟩
    · obtain ⟨po₂, hpo₂, hid₂, hno₂⟩ := h₁.kept po hpo
      obtain ⟨po₃, hpo₃, hid₃, hno₃⟩ := h₂.kept po₂ hpo₂
      exact ⟨po₃, hpo₃, hid₃.trans hid₂, hno₃.trans hno₂⟩
    · obtain ⟨hpo₂, hlines₂⟩ := h₁.closed_stays po hpo hclosed
      obtain ⟨hpo₃, hlines₃⟩ := h₂.closed_stays po hpo₂ hclosed
      exact ⟨hpo₃, hlines₃.trans hlines₂⟩

theorem PurchaseOrder.Closed.not_created {po : PurchaseOrder} (h : po.Closed) :
    upper po.status.text ≠ "CREATED" := by
  rw [h.status_eq]
  decide

theorem Rewrites.linesOf_eq {po : PurchaseOrder} {rows : List PurchaseOrderLine}
    {cs : List Completion} (hw : Rewrites s po rows cs s') {poId : ℕ} (hne : poId ≠ po.id) :
    s'.linesOf poId = s.linesOf poId := by
  have hnone : rows.filter (fun l => l.poId = poId) = [] := by
    rw [List.filter_eq_nil_iff]
    intro l hl
    rw [(hw.rows_new l hl).1]
    simpa using hne.symm
  unfold PurchaseTables.linesOf
  rw [hw.lines_eq, List.filter_append, List.filter_filter, hnone, List.append_nil]
  apply List.filter_congr
  intro l _
  by_cases hl : l.poId = poId
  · simp [hl, hne]
  · simp [hl]

theorem orders_of_rewrites {po : PurchaseOrder} {rows : List PurchaseOrderLine}
    {cs : List Completion} (hs : ∀ a ∈ s.orders.rows, a.Open ∨ a.Closed)
    (hw : Rewrites s po rows cs s') (hpo : po.Open)
    (hold : ∀ a ∈ s.orders.rows, a.id = po.id → a.poNo = po.poNo ∧ ¬a.Closed) :
    (∀ a ∈ s'.orders.rows, a.Open ∨ a.Closed) ∧ OrdersAdvance s s' := by
  refine ⟨fun a ha => ?_, fun a ha => ?_, fun a ha hclosed => ?_⟩
  · by_cases hid : a.id = po.id
    · obtain rfl := Mirror.eq_of_pk s'.orders ha hw.order_mem hid
      exact .inl hpo
    · exact hs a ((hw.others a hid).mp ha)
  · by_cases hid : a.id = po.id
    · exact ⟨po, hw.order_mem, hid.symm, (hold a ha hid).1.symm⟩
    · exact ⟨a, (hw.others a hid).mpr ha, rfl, rfl⟩
  · have hid : a.id ≠ po.id := fun heq => (hold a ha heq).2 hclosed
    exact ⟨(hw.others a hid).mpr ha, hw.linesOf_eq hid⟩

theorem PurchaseStep.orders {op : PurchaseOp} (h : PurchaseStep s op s')
    (hs : ∀ po ∈ s.orders.rows, po.Open ∨ po.Closed) :
    (∀ po ∈ s'.orders.rows, po.Open ∨ po.Closed) ∧ OrdersAdvance s s' := by
  cases h with
  | create hwritten hcreated _ hnew =>
    exact orders_of_rewrites hs hwritten ⟨hcreated.status_eq, hcreated.open_eq⟩
      fun a ha hid => absurd hid (hnew a ha)
  | @update _ _ _ old head _ _ _ hold hopen hwritten =>
    have hstill : old.Open := (hs old hold).resolve_right fun hc => hc.not_created hopen
    refine orders_of_rewrites hs hwritten ⟨hstill.status_eq, hstill.not_closed⟩ fun a ha hid => ?_
    obtain rfl := Mirror.eq_of_pk s.orders ha hold hid
    exact ⟨rfl, fun hc => hc.not_created hopen⟩
  | @close now note old hold hopen =>
    have hchanged : ∀ po ∈ s.orders.rows, po.Closed → ¬po.id = old.id := by
      intro po hpo hclosed hid
      obtain rfl := Mirror.eq_of_pk s.orders hpo hold hid
      exact hclosed.not_created hopen
    refine ⟨fun a ha => ?_, fun po hpo => ?_, fun po hpo hclosed => ⟨?_, rfl⟩⟩
    · obtain ⟨po, hpo, rfl⟩ := List.mem_map.mp ha
      split
      · exact .inr ⟨rfl, Option.some_ne_none now, rfl⟩
      · exact hs po hpo
    · refine ⟨_, List.mem_map_of_mem hpo, ?_⟩
      split
      · exact ⟨rfl, rfl⟩
      · exact ⟨rfl, rfl⟩
    · exact List.mem_map.mpr ⟨po, hpo, if_neg (hchanged po hpo hclosed)⟩
  | receive =>
    exact ⟨hs, fun po hpo => ⟨po, hpo, rfl, rfl⟩, fun _ hpo _ => ⟨hpo, rfl⟩⟩

/-- In every state of a run each order is open or was closed by hand. Orders keep their numbers,
and a closed order keeps its row and its lines, whatever comes after. -/
theorem orders_close_for_good (ops ops' : List PurchaseOp) :
    (∀ po ∈ (PurchaseTables.after ops).orders.rows, po.Open ∨ po.Closed) ∧
      OrdersAdvance (.after ops) (.after (ops ++ ops')) := by
  have hall : Tx.AllAccepted PurchaseOp.exec (fun _ _ => True) (ops ++ ops') .empty :=
    Tx.allAccepted_true _ _
  have hrun := Tx.attemptAll_along (I := fun s => ∀ po ∈ s.orders.rows, po.Open ∨ po.Closed)
    (fun _ _ _ _ hs _ hrun => (PurchaseOp.step_of_exec hrun).orders hs)
    (fun _ hpo => absurd hpo List.not_mem_nil) hall (Nat.le_add_right ops.length ops'.length)
  rwa [List.take_left, ← List.length_append, List.take_length] at hrun

end Wms.Procurement

import Wms.PurchaseRuns

/-!
# What is left to receive

The options for receiving and the detail of an order are read from the completions, which repeat
columns of the order and its lines. After any run they say the same as the orders, their lines and
what the run has received of them.
-/

namespace Wms.Procurement

open Foundation

/-- The head of the option of an order. -/
def PurchaseOrder.sourceHead (po : PurchaseOrder) : SourceHead where
  poId := po.id
  poNo := po.poNo
  warehouseId := po.warehouseId
  supplierId := po.supplierId
  supplierName := po.supplierName
  purchaseTime := po.purchaseTime
  poStatus := po.status

/-- The order is one that a query asks for. -/
def PurchaseOrder.Fits (ilike : String → String → Bool) (query : SourceQuery)
    (po : PurchaseOrder) : Prop :=
  (∀ w ∈ query.warehouseId, po.warehouseId = w) ∧
    (strip (query.q.getD "") = "" ∨ ilike po.poNo.text ("%" ++ strip (query.q.getD "") ++ "%") ∨
      ilike po.supplierName.text ("%" ++ strip (query.q.getD "") ++ "%"))

instance (ilike : String → String → Bool) (query : SourceQuery) (po : PurchaseOrder) :
    Decidable (po.Fits ilike query) :=
  inferInstanceAs (Decidable (_ ∧ _))

/-! ## Completions of an order -/

section Completions

variable {s : PurchaseTables} {po : PurchaseOrder}

/-- The completions of an order are those of its lines. -/
theorem CompletionsMirror.exists_line (h : CompletionsMirror s) (hpo : po ∈ s.orders.rows)
    {c : Completion} (hc : c ∈ s.completionsOf po.id) :
    ∃ l ∈ s.linesOf po.id, l.id = c.poLineId ∧ c.Reflects po l := by
  obtain ⟨hc, hpoId⟩ := List.mem_filter.mp hc
  obtain ⟨po', hpo', l, hl, hid, hreflects⟩ := h.reflects c hc
  have hsame : po'.id = po.id := hreflects.poId_eq.1.symm.trans (of_decide_eq_true hpoId)
  obtain rfl := Mirror.eq_of_pk s.orders hpo' hpo hsame
  exact ⟨l, List.mem_filter.mpr ⟨hl, decide_eq_true hreflects.order_eq⟩, hid, hreflects⟩

theorem CompletionsMirror.exists_completion (h : CompletionsMirror s) {l : PurchaseOrderLine}
    (hl : l ∈ s.linesOf po.id) :
    ∃ c ∈ s.completionsOf po.id, c.poLineId = l.id := by
  obtain ⟨hl, hpoId⟩ := List.mem_filter.mp hl
  obtain ⟨c, ⟨hc, hid⟩, -⟩ := h.completed l hl
  obtain ⟨po', -, l', hl', hline, hreflects⟩ := h.reflects c hc
  obtain rfl := eq_of_lineId hl' hl (hline.trans hid)
  have hpoId' := hreflects.poId_eq.1.trans (hreflects.order_eq.symm.trans (of_decide_eq_true hpoId))
  exact ⟨c, List.mem_filter.mpr ⟨hc, decide_eq_true hpoId'⟩, hid⟩

theorem completionRow_columns {l : PurchaseOrderLine} {c : Completion}
    (h : completionRow po l = .ok c) : c.qtyOrderedBase = l.qtyOrderedBase ∧
      sourceHead po c = po.sourceHead := by
  obtain ⟨planned, -, h⟩ := except_bind_eq_ok.mp h
  split at h
  · split at h
    · cases h
      exact ⟨rfl, rfl⟩
    · cases h
  · cases h

theorem Completion.Reflects.columns {c : Completion} {l : PurchaseOrderLine}
    (h : c.Reflects po l) :
    c.qtyOrderedBase = l.qtyOrderedBase ∧ sourceHead po c = po.sourceHead := by
  obtain ⟨c₀, hmade, heq⟩ := h.made
  have hcolumns := completionRow_columns hmade
  rw [heq]
  exact hcolumns

/-- The numbers of the lines are those of the completions, in another order. -/
theorem CompletionsMirror.ids_perm (h : CompletionsMirror s) (hpo : po ∈ s.orders.rows) :
    ((s.completionsOf po.id).map Completion.poLineId).Perm
      ((s.linesOf po.id).map PurchaseOrderLine.id) := by
  have hcompletions : ((s.completionsOf po.id).map Completion.poLineId).Nodup :=
    List.pairwise_map.mpr ((s.completions.unique.filter _).imp fun hclash heq => hclash (.inl heq))
  have hlines : ((s.linesOf po.id).map PurchaseOrderLine.id).Nodup :=
    List.pairwise_map.mpr ((s.lines.unique.filter _).imp fun hclash heq => hclash (.inl heq))
  refine (List.perm_ext_iff_of_nodup hcompletions hlines).mpr fun poLineId => ?_
  rw [List.mem_map, List.mem_map]
  constructor
  · rintro ⟨c, hc, rfl⟩
    obtain ⟨l, hl, hid, -⟩ := h.exists_line hpo hc
    exact ⟨l, hl, hid⟩
  · rintro ⟨l, hl, rfl⟩
    exact h.exists_completion hl

/-- The completions with their orders. -/
def PurchaseTables.joined (s : PurchaseTables) : List (PurchaseOrder × Completion) :=
  s.completions.rows.filterMap fun c => (s.findOrder c.poId).map fun po => (po, c)

theorem mem_joined {p : PurchaseOrder × Completion} :
    p ∈ s.joined ↔ p.1 ∈ s.orders.rows ∧ p.2 ∈ s.completionsOf p.1.id := by
  obtain ⟨po, c⟩ := p
  unfold PurchaseTables.joined PurchaseTables.completionsOf
  simp only [List.mem_filterMap, Option.map_eq_some_iff, Prod.mk.injEq, List.mem_filter,
    decide_eq_true_eq]
  constructor
  · rintro ⟨c', hc, po', hfind, rfl, rfl⟩
    have hid : po'.id = c'.poId := by simpa using List.find?_some hfind
    exact ⟨List.mem_of_find?_eq_some hfind, hc, hid.symm⟩
  · rintro ⟨hpo, hc, hid⟩
    refine ⟨c, hc, po, ?_, rfl, rfl⟩
    rw [hid]
    exact findOrder_eq_some hpo

theorem filter_joined (hpo : po ∈ s.orders.rows) :
    (s.joined.filter fun p => p.1.id = po.id) = (s.completionsOf po.id).map fun c => (po, c) := by
  unfold PurchaseTables.joined PurchaseTables.completionsOf
  induction s.completions.rows with
  | nil => rfl
  | cons c cs ih =>
    by_cases hid : c.poId = po.id
    · rw [List.filterMap_cons, hid, findOrder_eq_some hpo]
      simpa [hid] using ih
    · rw [List.filterMap_cons]
      cases hfind : s.findOrder c.poId with
      | none => simpa [hid] using ih
      | some po' =>
        have hid' : po'.id = c.poId := by simpa using List.find?_some hfind
        have hne : ¬po'.id = po.id := by rwa [hid']
        simpa [hid, hne] using ih

/-- A completion that is joined has the head of its order. -/
theorem CompletionsMirror.joined_head (h : CompletionsMirror s)
    {p : PurchaseOrder × Completion} (hp : p ∈ s.joined) :
    sourceHead p.1 p.2 = p.1.sourceHead := by
  obtain ⟨hpo, hc⟩ := mem_joined.mp hp
  obtain ⟨l, -, -, hreflects⟩ := h.exists_line hpo hc
  exact hreflects.columns.2

/-- The group of an order. -/
def PurchaseTables.group (s : PurchaseTables) (po : PurchaseOrder) :
    SourceHead × List (PurchaseOrder × Completion) :=
  (po.sourceHead, (s.completionsOf po.id).map fun c => (po, c))

variable {ilike : String → String → Bool} {query : SourceQuery}

/-- The completions that a query finds, with their orders. -/
def PurchaseTables.found (ilike : String → String → Bool) (query : SourceQuery)
    (s : PurchaseTables) : List (PurchaseOrder × Completion) :=
  s.joined.filter fun p =>
    p.1.status.text = "CREATED" ∧ (∀ w ∈ query.warehouseId, p.2.warehouseId = w) ∧
      (strip (query.q.getD "") = "" ∨
        ilike p.2.poNo.text ("%" ++ strip (query.q.getD "") ++ "%") ∨
        ilike p.2.supplierName.text ("%" ++ strip (query.q.getD "") ++ "%"))

/-- What a query compares in a completion is what its order has. -/
theorem CompletionsMirror.found_eq (h : CompletionsMirror s) : s.found ilike query =
    s.joined.filter fun p => p.1.status.text = "CREATED" ∧ p.1.Fits ilike query := by
  apply List.filter_congr
  intro p hp
  have hhead := h.joined_head hp
  have hno := congrArg SourceHead.poNo hhead
  have hwarehouse := congrArg SourceHead.warehouseId hhead
  have hsupplier := congrArg SourceHead.supplierName hhead
  dsimp only [sourceHead, PurchaseOrder.sourceHead] at hno hwarehouse hsupplier
  rw [hno, hwarehouse, hsupplier]
  rfl

/-- The completions with the head of an order are those of the order. -/
theorem CompletionsMirror.filter_found (h : CompletionsMirror s) (hpo : po ∈ s.orders.rows)
    (hopen : po.status.text = "CREATED") (hfits : po.Fits ilike query) :
    ((s.found ilike query).filter fun p => sourceHead p.1 p.2 = po.sourceHead) =
      (s.completionsOf po.id).map fun c => (po, c) := by
  rw [h.found_eq, ← filter_joined hpo, List.filter_filter]
  apply List.filter_congr
  intro p hp
  rw [h.joined_head hp, ← Bool.decide_and, decide_eq_decide]
  constructor
  · rintro ⟨hhead, -⟩
    exact congrArg SourceHead.poId hhead
  · intro hid
    obtain rfl := Mirror.eq_of_pk s.orders (mem_joined.mp hp).1 hpo hid
    exact ⟨rfl, hopen, hfits⟩

/-- Each group is that of an order. -/
theorem CompletionsMirror.mem_groups (h : CompletionsMirror s)
    {g : SourceHead × List (PurchaseOrder × Completion)} :
    g ∈ groupBy (fun p => sourceHead p.1 p.2) (s.found ilike query) ↔
      ∃ po ∈ s.orders.rows, po.status.text = "CREATED" ∧ po.Fits ilike query ∧
        g = s.group po := by
  obtain ⟨head, ps⟩ := g
  rw [mem_groupBy]
  constructor
  · rintro ⟨⟨p, hp, hkey⟩, hps⟩
    rw [h.found_eq] at hp
    obtain ⟨hp, hfits⟩ := List.mem_filter.mp hp
    obtain ⟨hopen, hfits⟩ := of_decide_eq_true hfits
    have hpo := (mem_joined.mp hp).1
    rw [h.joined_head hp] at hkey
    refine ⟨p.1, hpo, hopen, hfits, ?_⟩
    unfold PurchaseTables.group
    rw [← h.filter_found hpo hopen hfits, hkey, ← hps]
  · rintro ⟨po, hpo, hopen, hfits, heq⟩
    obtain ⟨rfl, rfl⟩ := Prod.mk.inj heq
    obtain ⟨l, hl, hid⟩ := h.has_lines po hpo
    obtain ⟨c, hc, -⟩ := h.exists_completion (List.mem_filter.mpr ⟨hl, decide_eq_true hid⟩)
    have hp : (po, c) ∈ s.joined := mem_joined.mpr ⟨hpo, hc⟩
    refine ⟨⟨(po, c), ?_, h.joined_head hp⟩, (h.filter_found hpo hopen hfits).symm⟩
    rw [h.found_eq]
    exact List.mem_filter.mpr ⟨hp, decide_eq_true ⟨hopen, hfits⟩⟩

end Completions

/-! ## What a run has received -/

/-- What a run has received of a line. -/
def receivedAlong (ops : List PurchaseOp) (l : PurchaseOrderLine) : ℤ :=
  ((receiptsAlong l.id ops .empty).map Prod.fst).sum

/-- The option of an order after a run, from what the run has received of its lines. -/
def optionAfter (ops : List PurchaseOp) (po : PurchaseOrder) : SourceOption where
  toSourceHead := po.sourceHead
  completionStatus :=
    if ∀ l ∈ (PurchaseTables.after ops).linesOf po.id, receiptsAlong l.id ops .empty = [] then
      .notReceived
    else .partly
  lastReceivedAt := ((((PurchaseTables.after ops).linesOf po.id).flatMap fun l =>
    receiptsAlong l.id ops .empty).map Prod.snd).max?

/-- The order is open, fits the query, and of some line less is received than is ordered. -/
def PurchaseOrder.Offered (ilike : String → String → Bool) (query : SourceQuery)
    (ops : List PurchaseOp) (po : PurchaseOrder) : Prop :=
  po.status.text = "CREATED" ∧ po.Fits ilike query ∧
    ∃ l ∈ (PurchaseTables.after ops).linesOf po.id, receivedAlong ops l < l.qtyOrderedBase

instance (ilike : String → String → Bool) (query : SourceQuery) (ops : List PurchaseOp)
    (po : PurchaseOrder) : Decidable (po.Offered ilike query ops) :=
  inferInstanceAs (Decidable (_ ∧ _ ∧ _))

section Received

variable {ops : List PurchaseOp} {po : PurchaseOrder}

theorem receiptsAlong_pos {poLineId : ℕ} {s : PurchaseTables} :
    ∀ r ∈ receiptsAlong poLineId ops s, 0 < r.1 := by
  induction ops generalizing s with
  | nil => simp [receiptsAlong]
  | cons op ops ih =>
    intro r hr
    rcases List.mem_append.mp hr with hop | hrest
    · cases op with
      | create | update | close => cases hop
      | receive lines occurredAt =>
        rw [PurchaseOp.receipts] at hop
        split at hop
        · obtain ⟨add, hdelta, rfl⟩ := Option.map_eq_some_iff.mp (Option.mem_toList.mp hop)
          exact deltaOf_pos hdelta
        · cases hop
    · exact ih r hrest

/-- Nothing is received of a line exactly when it has no receipts. -/
theorem receivedAlong_nonpos_iff {l : PurchaseOrderLine} :
    receivedAlong ops l ≤ 0 ↔ receiptsAlong l.id ops .empty = [] := by
  unfold receivedAlong
  constructor
  · intro hle
    by_contra hne
    refine absurd (List.sum_pos _ (fun q hq => ?_) (by simpa using hne)) hle.not_gt
    obtain ⟨r, hr, rfl⟩ := List.mem_map.mp hq
    exact receiptsAlong_pos r hr
  · intro hnil
    rw [hnil]
    rfl

theorem receivedAlong_nonneg (l : PurchaseOrderLine) : 0 ≤ receivedAlong ops l := by
  apply List.sum_nonneg
  intro q hq
  obtain ⟨r, hr, rfl⟩ := List.mem_map.mp hq
  exact (receiptsAlong_pos r hr).le

/-- What is added up over the completions of an order is added up over its lines. -/
theorem sum_completions (hpo : po ∈ (PurchaseTables.after ops).orders.rows) (f : ℕ → ℤ) :
    (((PurchaseTables.after ops).completionsOf po.id).map fun c => f c.poLineId).sum =
      (((PurchaseTables.after ops).linesOf po.id).map fun l => f l.id).sum := by
  have hperm := ((completions_mirror ops).ids_perm hpo).map f
  rw [List.map_map, List.map_map] at hperm
  exact hperm.sum_eq

theorem received_eq {c : Completion} (hc : c ∈ (PurchaseTables.after ops).completionsOf po.id) :
    c.Accounts (receiptsAlong c.poLineId ops .empty) :=
  (completions_account ops).accounts c (List.mem_filter.mp hc).1

/-- Completions have received what the run has received of the lines. -/
theorem sum_received (hpo : po ∈ (PurchaseTables.after ops).orders.rows) :
    (((PurchaseTables.after ops).completionsOf po.id).map Completion.qtyReceivedBase).sum =
      (((PurchaseTables.after ops).linesOf po.id).map (receivedAlong ops)).sum := by
  rw [List.map_congr_left fun c hc => (received_eq hc).received_eq]
  exact sum_completions hpo fun poLineId =>
    ((receiptsAlong poLineId ops .empty).map Prod.fst).sum

/-- Completions are of what is ordered in the lines. -/
theorem sum_ordered (hpo : po ∈ (PurchaseTables.after ops).orders.rows) :
    (((PurchaseTables.after ops).completionsOf po.id).map Completion.qtyOrderedBase).sum =
      (((PurchaseTables.after ops).linesOf po.id).map PurchaseOrderLine.qtyOrderedBase).sum := by
  let orderedOf : ℕ → ℤ := fun poLineId =>
    ((PurchaseTables.after ops).lines.rows.find? fun l => l.id = poLineId).elim 0
      PurchaseOrderLine.qtyOrderedBase
  have hline : ∀ l ∈ (PurchaseTables.after ops).linesOf po.id,
      l.qtyOrderedBase = orderedOf l.id := by
    intro l hl
    have hfind := (PurchaseTables.after ops).lines.find?_eq_some (List.mem_filter.mp hl).1
      (p := fun a => a.id = l.id) (by simp) fun _ ha => .inl (of_decide_eq_true ha)
    simp only [orderedOf, hfind, Option.elim_some]
  have hcompletion : ∀ c ∈ (PurchaseTables.after ops).completionsOf po.id,
      c.qtyOrderedBase = orderedOf c.poLineId := by
    intro c hc
    obtain ⟨l, hl, hid, hreflects⟩ := (completions_mirror ops).exists_line hpo hc
    rw [hreflects.columns.1, hline l hl, hid]
  rw [List.map_congr_left hline, List.map_congr_left hcompletion]
  exact sum_completions hpo orderedOf

/-- Something remains exactly when some line is short. -/
theorem remaining_pos_iff (hpo : po ∈ (PurchaseTables.after ops).orders.rows) :
    0 < (((PurchaseTables.after ops).completionsOf po.id).map Completion.qtyRemainingBase).sum ↔
      ∃ l ∈ (PurchaseTables.after ops).linesOf po.id, receivedAlong ops l < l.qtyOrderedBase := by
  have hmirror := completions_mirror ops
  have hremaining : ∀ c ∈ (PurchaseTables.after ops).completionsOf po.id,
      ∀ l ∈ (PurchaseTables.after ops).linesOf po.id, l.id = c.poLineId →
        c.qtyRemainingBase = max (l.qtyOrderedBase - receivedAlong ops l) 0 := by
    intro c hc l hl hid
    obtain ⟨l', hl', hid', hreflects⟩ := hmirror.exists_line hpo hc
    obtain rfl := eq_of_lineId (List.mem_filter.mp hl').1 (List.mem_filter.mp hl).1
      (hid'.trans hid.symm)
    have haccounts := (received_eq hc).remaining_eq
    rw [hreflects.columns.1, ← hid] at haccounts
    exact haccounts
  constructor
  · intro hpos
    by_contra hnone
    push Not at hnone
    refine absurd (List.sum_eq_zero fun q hq => ?_) hpos.ne'
    obtain ⟨c, hc, rfl⟩ := List.mem_map.mp hq
    obtain ⟨l, hl, hid, -⟩ := hmirror.exists_line hpo hc
    rw [hremaining c hc l hl hid]
    have hle := hnone l hl
    omega
  · rintro ⟨l, hl, hlt⟩
    obtain ⟨c, hc, hid⟩ := hmirror.exists_completion hl
    have hpos : 0 < c.qtyRemainingBase := by
      rw [hremaining c hc l hl hid.symm]
      omega
    refine hpos.trans_le (List.single_le_sum (fun q hq => ?_) _ (List.mem_map_of_mem hc))
    obtain ⟨c', hc', rfl⟩ := List.mem_map.mp hq
    rw [c'.remaining_eq]
    exact le_max_right _ _

theorem laterTime_max? (ts us : List ℤ) : laterTime ts.max? us.max? = (ts ++ us).max? := by
  induction us using List.reverseRecOn with
  | nil => simp [laterTime]
  | append_singleton us t ih =>
    rw [← List.append_assoc, max?_concat, max?_concat, ← ih]
    cases ts.max? with
    | none => cases us.max? <;> rfl
    | some a =>
      cases us.max? with
      | none => rfl
      | some b =>
        simp only [laterTime, laterOf]
        grind

theorem foldl_laterTime (ts : List ℤ) (tss : List (List ℤ)) :
    (tss.map List.max?).foldl laterTime ts.max? = (ts ++ tss.flatten).max? := by
  induction tss generalizing ts with
  | nil => simp
  | cons us tss ih =>
    rw [List.map_cons, List.foldl_cons, laterTime_max?, ih, List.flatten_cons, List.append_assoc]

theorem max?_perm {ts us : List ℤ} (h : ts.Perm us) : ts.max? = us.max? := by
  ext t
  rw [List.max?_eq_some_iff, List.max?_eq_some_iff, h.mem_iff]
  simp only [h.mem_iff]

/-- The latest receipt of the completions of an order is the latest of its lines. -/
theorem last_received (hpo : po ∈ (PurchaseTables.after ops).orders.rows) {cs : List Completion}
    (hcs : cs.Perm ((PurchaseTables.after ops).completionsOf po.id)) :
    (cs.map Completion.lastReceivedAt).foldl laterTime none =
      ((((PurchaseTables.after ops).linesOf po.id).flatMap fun l =>
        receiptsAlong l.id ops .empty).map Prod.snd).max? := by
  have htimes := foldl_laterTime [] (cs.map fun c =>
    (receiptsAlong c.poLineId ops .empty).map Prod.snd)
  have hids := (hcs.map Completion.poLineId).trans ((completions_mirror ops).ids_perm hpo)
  have hperm := (hids.map fun poLineId =>
    (receiptsAlong poLineId ops .empty).map Prod.snd).flatten
  rw [List.map_map, List.map_map] at hperm
  rw [List.map_congr_left fun c hc => (received_eq (hcs.mem_iff.mp hc)).last_eq, List.map_flatMap]
  rw [List.map_map, List.nil_append] at htimes
  exact htimes.trans (max?_perm hperm)

/-- Nothing is received of some lines exactly when none of them has receipts. -/
theorem sum_receivedAlong_nonpos_iff {ls : List PurchaseOrderLine} :
    (ls.map (receivedAlong ops)).sum ≤ 0 ↔ ∀ l ∈ ls, receiptsAlong l.id ops .empty = [] := by
  simp only [← receivedAlong_nonpos_iff]
  constructor
  · intro hle l hl
    refine (List.single_le_sum (fun q hq => ?_) _ (List.mem_map_of_mem hl)).trans hle
    obtain ⟨l', -, rfl⟩ := List.mem_map.mp hq
    exact receivedAlong_nonneg l'
  · intro hall
    refine le_of_eq (List.sum_eq_zero fun q hq => ?_)
    obtain ⟨l, hl, rfl⟩ := List.mem_map.mp hq
    exact (hall l hl).antisymm (receivedAlong_nonneg l)

/-- The option that the completions of an order give. -/
theorem option_eq (hpo : po ∈ (PurchaseTables.after ops).orders.rows)
    (hshort : ∃ l ∈ (PurchaseTables.after ops).linesOf po.id,
      receivedAlong ops l < l.qtyOrderedBase) :
    { toSourceHead := po.sourceHead
      completionStatus := sourceStatus ((PurchaseTables.after ops).completionsOf po.id)
      lastReceivedAt := (((PurchaseTables.after ops).completionsOf po.id).map
        Completion.lastReceivedAt).foldl laterTime none } = optionAfter ops po := by
  have hremaining := (remaining_pos_iff hpo).mpr hshort
  unfold optionAfter sourceStatus
  rw [last_received hpo (List.Perm.refl _), sum_received hpo, if_neg hremaining.not_ge,
    if_congr sum_receivedAlong_nonpos_iff rfl rfl]

/-- Those groups of which something remains are the groups of the orders that are offered. -/
theorem groups_perm (ilike : String → String → Bool) (query : SourceQuery)
    (ops : List PurchaseOp) :
    ((groupBy (fun p => sourceHead p.1 p.2)
      ((PurchaseTables.after ops).found ilike query)).filter fun g =>
        0 < (g.2.map fun p => p.2.qtyRemainingBase).sum).Perm
      (((PurchaseTables.after ops).orders.rows.filter fun po =>
        po.Offered ilike query ops).map (PurchaseTables.after ops).group) := by
  have hids : ((PurchaseTables.after ops).orders.rows.map PurchaseOrder.id).Nodup :=
    List.pairwise_map.mpr <|
      (PurchaseTables.after ops).orders.unique.imp fun hclash heq => hclash (.inl heq)
  have horders : (((PurchaseTables.after ops).orders.rows.filter fun po =>
      po.Offered ilike query ops).map (PurchaseTables.after ops).group).Nodup := by
    refine (hids.of_map.filter _).map_on fun a ha b hb heq => ?_
    have hid : a.id = b.id := congrArg (fun g => g.1.poId) heq
    exact Mirror.eq_of_pk _ (List.mem_filter.mp ha).1 (List.mem_filter.mp hb).1 hid
  refine (List.perm_ext_iff_of_nodup (nodup_groupBy.filter _) horders).mpr fun g => ?_
  rw [List.mem_filter, (completions_mirror ops).mem_groups, List.mem_map, decide_eq_true_eq]
  constructor
  · rintro ⟨⟨po, hpo, hopen, hfits, rfl⟩, hpos⟩
    have hshort := (remaining_pos_iff hpo).mp (by simpa [PurchaseTables.group, Function.comp_def] using hpos)
    exact ⟨po, List.mem_filter.mpr ⟨hpo, decide_eq_true ⟨hopen, hfits, hshort⟩⟩, rfl⟩
  · rintro ⟨po, hpo, rfl⟩
    obtain ⟨hpo, hoffered⟩ := List.mem_filter.mp hpo
    obtain ⟨hopen, hfits, hshort⟩ := of_decide_eq_true hoffered
    refine ⟨⟨po, hpo, hopen, hfits, rfl⟩, ?_⟩
    simpa [PurchaseTables.group, Function.comp_def] using (remaining_pos_iff hpo).mpr hshort

end Received

/-- After any run the options are the orders that are offered, the latest purchases first. -/
theorem source_options_eq (ilike : String → String → Bool) (query : SourceQuery)
    (ops : List PurchaseOp) :
    listPurchaseOrderSourceOptions ilike (.after ops) query =
      (page 0 (normalizeSourceLimit query.limit)
        (orderBy (fun po => toLex (OrderDual.toDual po.purchaseTime, OrderDual.toDual po.id))
          ((PurchaseTables.after ops).orders.rows.filter fun po =>
            po.Offered ilike query ops))).map (optionAfter ops) := by
  have hmirror := completions_mirror ops
  have hgroups := groups_perm ilike query ops
  have hkeys : ((((PurchaseTables.after ops).orders.rows.filter fun po =>
      po.Offered ilike query ops).map (PurchaseTables.after ops).group).map fun g =>
        toLex (OrderDual.toDual g.1.purchaseTime, OrderDual.toDual g.1.poId)).Nodup := by
    rw [List.map_map, List.Nodup, List.pairwise_map]
    refine ((PurchaseTables.after ops).orders.unique.filter _).imp fun hclash heq => hclash (.inl ?_)
    exact OrderDual.toDual_inj.mp (Prod.mk.inj (toLex_inj.mp heq)).2
  change (page 0 _ (orderBy _ ((groupBy (fun p => sourceHead p.1 p.2)
    ((PurchaseTables.after ops).found ilike query)).filter _))).map _ = _
  rw [← orderBy_perm hkeys hgroups.symm, orderBy_map, page_map, List.map_map]
  apply List.map_congr_left
  intro po hpo
  obtain ⟨hpo, hoffered⟩ := List.mem_filter.mp (mem_orderBy.mp (mem_of_mem_page hpo))
  have hoption := option_eq hpo (of_decide_eq_true hoffered).2.2
  rw [← hoption]
  simp [PurchaseTables.group, Function.comp_def]

/-! ## The detail of an order -/

/-- Two statuses of the same sums are equal when nothing remains, or less is received than is
ordered. -/
theorem deriveCompletionStatus_eq_iff {cs : List Completion}
    (hordered : 0 < (cs.map Completion.qtyOrderedBase).sum)
    (hreceived : 0 ≤ (cs.map Completion.qtyReceivedBase).sum)
    (hall : (cs.map Completion.qtyRemainingBase).sum ≤ 0 →
      (cs.map Completion.qtyOrderedBase).sum ≤ (cs.map Completion.qtyReceivedBase).sum) :
    deriveCompletionStatus (cs.map Completion.qtyOrderedBase).sum
        (cs.map Completion.qtyReceivedBase).sum = sourceStatus cs ↔
      (cs.map Completion.qtyRemainingBase).sum ≤ 0 ∨
        (cs.map Completion.qtyReceivedBase).sum < (cs.map Completion.qtyOrderedBase).sum := by
  unfold deriveCompletionStatus sourceStatus
  dsimp only
  rw [max_eq_left hordered.le, max_eq_left hreceived]
  by_cases hnone : (cs.map Completion.qtyReceivedBase).sum ≤ 0
  · simp only [if_pos hnone, true_iff]
    omega
  · rw [if_neg hnone, if_neg hnone]
    by_cases hremaining : (cs.map Completion.qtyRemainingBase).sum ≤ 0
    · have hle := hall hremaining
      simp [hremaining, hle.not_gt]
    · rw [if_neg hremaining]
      simp [hremaining]

/-- The detail of an order adds up its lines and what is received of them. Its status is the one
that the options are given exactly when no line is short, or less is received in all than is
ordered in all: what one line has too much hides what another one lacks. -/
theorem completion_detail_eq (ops : List PurchaseOp) {po : PurchaseOrder}
    (hpo : po ∈ (PurchaseTables.after ops).orders.rows) :
    ∃ d, getCompletionDetail (.after ops) po.id = .ok d ∧
      d.summary.totalOrderedBase =
        (((PurchaseTables.after ops).linesOf po.id).map PurchaseOrderLine.qtyOrderedBase).sum ∧
      d.summary.totalReceivedBase =
        (((PurchaseTables.after ops).linesOf po.id).map (receivedAlong ops)).sum ∧
      d.summary.lastReceivedAt = (optionAfter ops po).lastReceivedAt ∧
      (d.summary.completionStatus = sourceStatus ((PurchaseTables.after ops).completionsOf po.id) ↔
        (∀ l ∈ (PurchaseTables.after ops).linesOf po.id, l.qtyOrderedBase ≤ receivedAlong ops l) ∨
          d.summary.totalReceivedBase < d.summary.totalOrderedBase) := by
  have hsorted : (orderBy (fun c : Completion => toLex (c.lineNo, c.poLineId))
      ((PurchaseTables.after ops).completionsOf po.id)).Perm
        ((PurchaseTables.after ops).completionsOf po.id) := List.perm_insertionSort _ _
  have hordered := (hsorted.map Completion.qtyOrderedBase).sum_eq
  have hreceived := (hsorted.map Completion.qtyReceivedBase).sum_eq
  have hshort : (((PurchaseTables.after ops).completionsOf po.id).map
      Completion.qtyRemainingBase).sum ≤ 0 ↔
        ∀ l ∈ (PurchaseTables.after ops).linesOf po.id,
          l.qtyOrderedBase ≤ receivedAlong ops l := by
    rw [← not_lt, remaining_pos_iff hpo]
    push Not
    rfl
  have hlines : ∃ l, l ∈ (PurchaseTables.after ops).linesOf po.id := by
    obtain ⟨l, hl, hid⟩ := (completions_mirror ops).has_lines po hpo
    exact ⟨l, List.mem_filter.mpr ⟨hl, decide_eq_true hid⟩⟩
  have hlast := last_received hpo hsorted
  rw [List.foldl_map] at hlast
  unfold getCompletionDetail
  rw [findOrder_eq_some hpo]
  refine ⟨_, rfl, hordered.trans (sum_ordered hpo), hreceived.trans (sum_received hpo), hlast, ?_⟩
  dsimp only
  rw [hordered, hreceived, ← hshort]
  apply deriveCompletionStatus_eq_iff
  · obtain ⟨l, hl⟩ := hlines
    rw [sum_ordered hpo]
    apply List.sum_pos
    · intro q hq
      obtain ⟨l', -, rfl⟩ := List.mem_map.mp hq
      exact l'.qty_pos
    · exact List.ne_nil_of_mem (List.mem_map_of_mem hl)
  · apply List.sum_nonneg
    intro q hq
    obtain ⟨c, -, rfl⟩ := List.mem_map.mp hq
    exact c.received_nonneg
  · intro hremaining
    rw [sum_ordered hpo, sum_received hpo]
    exact List.sum_le_sum (hshort.mp hremaining)

/-! ## Too much of one line -/

/-- Two lines of a thousand pieces each. -/
def twoThousand : OrderIn where
  supplierId := some 1
  warehouseId := 1
  purchaser := "Li"
  purchaseTime := 0
  remark := none
  lines := [⟨some 1, 1, some 1, 1000, some ⟨123, -2⟩, none, none⟩,
    ⟨some 2, 1, some 1, 1000, some ⟨123, -2⟩, none, none⟩]

theorem undated_ordered : ∀ pd ∈ (none : Option Date), ∀ ed ∈ (none : Option Date), pd ≤ ed :=
  fun _ hpd => absurd hpd (Option.not_mem_none _)

theorem two_thousand_pos : (1 : ℤ) ≤ 2000 := by decide

theorem one_piece_or_more : (1 : ℤ) ≤ 1 := le_refl 1

theorem one_times_two_thousand : (2000 : ℤ) = 1 * 2000 := (one_mul 2000).symm

/-- Two thousand pieces, all of them for the first line. -/
def allOfFirst : InboundEventLine where
  eventId := 1
  lineNo := 1
  itemId := 1
  itemNameSnapshot := none
  itemSpecSnapshot := none
  actualUomId := 1
  actualUomNameSnapshot := none
  barcodeInput := none
  actualQtyInput := 1
  actualRatioToBaseSnapshot := 2000
  qtyBase := 2000
  lotCodeInput := none
  productionDate := none
  expiryDate := none
  lotId := none
  sourceLineId := some 1
  remark := none
  prod_le_exp := undated_ordered
  ratio_pos := two_thousand_pos
  qtyInput_pos := one_piece_or_more
  qtyBase_eq := one_times_two_thousand

/-- An order of two lines, all of which is received for the first. -/
def overReceived : List PurchaseOp := [.create pieceReads twoThousand, .receive [allOfFirst] 5]

/-- The detail says that the order is received, which is still offered as partly received. -/
theorem completion_detail_overReceived :
    ∃ po ∈ (PurchaseTables.after overReceived).orders.rows, ∃ d,
      getCompletionDetail (.after overReceived) po.id = .ok d ∧
        d.summary.completionStatus ≠
          sourceStatus ((PurchaseTables.after overReceived).completionsOf po.id) := by
  have hrows : 0 < (PurchaseTables.after overReceived).orders.rows.length := by decide +kernel
  have hover : ∀ po ∈ (PurchaseTables.after overReceived).orders.rows,
      ¬((∀ l ∈ (PurchaseTables.after overReceived).linesOf po.id,
        l.qtyOrderedBase ≤ receivedAlong overReceived l) ∨
          (((PurchaseTables.after overReceived).linesOf po.id).map
            (receivedAlong overReceived)).sum <
          (((PurchaseTables.after overReceived).linesOf po.id).map
            PurchaseOrderLine.qtyOrderedBase).sum) := by
    decide +kernel
  obtain ⟨po, hpo⟩ := List.exists_mem_of_length_pos hrows
  obtain ⟨d, hd, hordered, hreceived, -, hiff⟩ := completion_detail_eq overReceived hpo
  rw [hordered, hreceived] at hiff
  exact ⟨po, hpo, d, hd, fun heq => hover po hpo (hiff.mp heq)⟩

end Wms.Procurement

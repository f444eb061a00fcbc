import Wms.Orders.Ingest

/-!
# The warehouse of a committed order

The commitment to ship binds an order to a warehouse. Routing leaves the warehouse that
ships alone and the shipping services keep the one that is there, but an assignment by
hand writes it without looking at the commitment. The bound warehouse stays exactly when
every assignment of a committed order names the warehouse that it has.
-/

namespace Wms

open Foundation

namespace OrderFulfillment

/-- How far the row has come: an order that is not in execution stands before all stages. -/
def progress (r : OrderFulfillment) : ℕ := (r.executionStage.map ExecutionStage.rank).getD 0

/-- A committed row names the warehouse that ships. -/
def Bound (r : OrderFulfillment) : Prop := r.outboundCommittedAt ≠ none → r.actualWarehouseId ≠ none

/-- The row `r'` of the same order is at least as far on, and has the commitment of `r`
with its warehouse. -/
structure Onward (r r' : OrderFulfillment) : Prop where
  order : r'.orderId = r.orderId
  committed : r.outboundCommittedAt ≠ none → r'.outboundCommittedAt = r.outboundCommittedAt
  warehouse : r.outboundCommittedAt ≠ none → r'.actualWarehouseId = r.actualWarehouseId
  stage : r.progress ≤ r'.progress

variable {r r' r'' : OrderFulfillment}

theorem Onward.refl (r : OrderFulfillment) : r.Onward r := ⟨rfl, fun _ => rfl, fun _ => rfl, le_rfl⟩

theorem Onward.trans (h : r.Onward r') (h' : r'.Onward r'') : r.Onward r'' where
  order := h'.order.trans h.order
  committed hr := by
    have hr' : r'.outboundCommittedAt ≠ none := by rwa [h.committed hr]
    rw [h'.committed hr', h.committed hr]
  warehouse hr := by
    have hr' : r'.outboundCommittedAt ≠ none := by rwa [h.committed hr]
    rw [h'.warehouse hr', h.warehouse hr]
  stage := h.stage.trans h'.stage

theorem progress_le_two (r : OrderFulfillment) : r.progress ≤ 2 := by
  unfold progress
  cases r.executionStage with
  | none => decide
  | some stage => cases stage <;> decide

/-! ## What the services write into a row -/

/-- The rewriting of the rows of one order. -/
def onOrder (orderId : ℕ) (f : OrderFulfillment → OrderFulfillment) (r : OrderFulfillment) :
    OrderFulfillment :=
  if r.orderId = orderId then f r else r

/-- The rewriting moves bound rows onward and leaves them bound. -/
def MovesOn (f : OrderFulfillment → OrderFulfillment) : Prop :=
  ∀ r : OrderFulfillment, r.Bound → r.Onward (f r) ∧ (f r).Bound

theorem movesOn_id : MovesOn fun r => r := fun r hr => ⟨.refl r, hr⟩

theorem movesOn_onOrder {f : OrderFulfillment → OrderFulfillment} (hf : MovesOn f) (orderId : ℕ) :
    MovesOn (onOrder orderId f) := by
  intro r hr
  unfold onOrder
  split
  · exact hf r hr
  · exact ⟨.refl r, hr⟩

theorem movesOn_route (route : RoutePayload) : MovesOn (OrderFulfillment.route route) :=
  fun _ hr => ⟨⟨rfl, fun _ => rfl, fun _ => rfl, le_rfl⟩, hr⟩

theorem movesOn_toShip : MovesOn OrderFulfillment.toShip :=
  fun r hr => ⟨⟨rfl, fun _ => rfl, fun _ => rfl, r.progress_le_two⟩, hr⟩

/-- A commitment keeps the time and the warehouse of an earlier one. -/
theorem movesOn_commit (warehouseId : ℕ) (time : ℤ) :
    MovesOn (OrderFulfillment.commit warehouseId time) := by
  intro r hr
  refine ⟨⟨rfl, fun hc => ?_, fun hc => ?_, r.progress_le_two⟩, fun _ => Option.some_ne_none _⟩
  · obtain ⟨at', hat⟩ := Option.ne_none_iff_exists'.mp hc
    simp only [OrderFulfillment.commit, hat, Option.getD_some]
  · obtain ⟨w, hw⟩ := Option.ne_none_iff_exists'.mp (hr hc)
    simp only [OrderFulfillment.commit, hw, Option.getD_some]

theorem movesOn_finish (time : ℤ) : MovesOn (OrderFulfillment.finish time) := by
  intro r hr
  unfold OrderFulfillment.finish
  split
  · exact ⟨.refl r, hr⟩
  · exact ⟨⟨rfl, fun _ => rfl, fun _ => rfl, r.progress_le_two⟩, hr⟩

/-- An assignment by hand moves a row onward exactly when it is not committed or has the
assigned warehouse. -/
theorem onward_assign_iff (r : OrderFulfillment) (warehouseId : ℕ) :
    r.Onward (r.assign warehouseId) ↔
      (r.outboundCommittedAt ≠ none → r.actualWarehouseId = some warehouseId) := by
  constructor
  · intro h hc
    exact (h.warehouse hc).symm
  · intro h
    exact ⟨rfl, fun _ => rfl, fun hc => (h hc).symm, le_rfl⟩

end OrderFulfillment

/-! ## What the services write into the table -/

namespace OmsTables

/-- Every committed row names the warehouse that ships. -/
def AllBound (t : OmsTables) : Prop := ∀ r ∈ t.fulfillment.rows, r.Bound

/-- The rows of `t` have moved onward, and only committed orders are completed. -/
structure WarehouseFixed (t t' : OmsTables) : Prop where
  onward : ∀ r ∈ t.fulfillment.rows, ∃ r' ∈ t'.fulfillment.rows, r.Onward r'
  completed : ∀ r' ∈ t'.fulfillment.rows, r'.outboundCompletedAt ≠ none →
    r'.outboundCommittedAt ≠ none

/-- The rows were rewritten by `f`, and the new ones are bound. -/
def Rewritten (f : OrderFulfillment → OrderFulfillment) (t t' : OmsTables) : Prop :=
  ∃ new, t'.fulfillment.rows = t.fulfillment.rows.map f ++ new ∧ ∀ r ∈ new, r.Bound

variable {t t' t'' : OmsTables} {f : OrderFulfillment → OrderFulfillment} {orderId : ℕ}

instance : IsPreorder OmsTables WarehouseFixed where
  refl t := ⟨fun r hr => ⟨r, hr, .refl r⟩, fun r _ => r.time_order⟩
  trans t t' t'' h h' := by
    refine ⟨fun r hr => ?_, h'.completed⟩
    obtain ⟨r', hr', hon⟩ := h.onward r hr
    obtain ⟨r'', hr'', hon'⟩ := h'.onward r' hr'
    exact ⟨r'', hr'', hon.trans hon'⟩

/-- The table has moved on as its rows have. -/
theorem Rewritten.warehouseFixed_iff (h : Rewritten f t t') (hf : ∀ r, (f r).orderId = r.orderId) :
    WarehouseFixed t t' ↔ ∀ r ∈ t.fulfillment.rows, r.Onward (f r) := by
  obtain ⟨new, hrows, -⟩ := h
  have hmem : ∀ r ∈ t.fulfillment.rows, f r ∈ t'.fulfillment.rows := by
    intro r hr
    rw [hrows]
    exact List.mem_append_left _ (List.mem_map_of_mem hr)
  constructor
  · intro hfixed r hr
    obtain ⟨r', hr', hon⟩ := hfixed.onward r hr
    -- an order has one row
    have heq : r' = f r := t'.fulfillment.eq_of_conflict (fun _ _ => Eq.symm) hr' (hmem r hr)
      (hon.order.trans (hf r).symm)
    rwa [heq] at hon
  · intro hon
    exact ⟨fun r hr => ⟨f r, hmem r hr, hon r hr⟩, fun r _ => r.time_order⟩

theorem Rewritten.allBound (h : Rewritten f t t')
    (hf : ∀ r ∈ t.fulfillment.rows, (f r).Bound) : t'.AllBound := by
  obtain ⟨new, hrows, hnew⟩ := h
  intro r hr
  rw [hrows] at hr
  rcases List.mem_append.mp hr with hold | hadded
  · obtain ⟨old, hmem, rfl⟩ := List.mem_map.mp hold
    exact hf old hmem
  · exact hnew r hadded

theorem Rewritten.of_eq (h : t'.fulfillment = t.fulfillment) : Rewritten (fun r => r) t t' :=
  ⟨[], by rw [h, List.map_id', List.append_nil], by simp⟩

/-- What did not touch the fulfilment rows before and after a rewriting does not count. -/
theorem Rewritten.congr {t₀ : OmsTables} (h : Rewritten f t t') (h₀ : t.fulfillment = t₀.fulfillment) :
    Rewritten f t₀ t' := by
  unfold Rewritten at h ⊢
  rwa [h₀] at h

theorem rewritten_update (t : OmsTables) (hf : ∀ r, (f r).orderId = r.orderId) :
    Rewritten (OrderFulfillment.onOrder orderId f) t (t.updateFulfillment orderId f hf) :=
  ⟨[], (List.append_nil _).symm, by simp⟩

/-- A bound row for an order that has none. -/
theorem rewritten_insert {r : OrderFulfillment} {u : PUnit}
    (hnone : t.fulfillmentOf r.orderId = none) (hr : r.Bound)
    (h : (insertFulfillment r).run t = .ok (u, t')) :
    Rewritten (OrderFulfillment.onOrder r.orderId f) t t' := by
  unfold insertFulfillment at h
  simp only [Tx.run_bind_ok, Tx.run_get_ok, Tx.run_failIf_ok, Tx.run_demand_ok,
    Tx.run_set_ok] at h
  obtain ⟨_, _, ⟨rfl, rfl⟩, _, _, ⟨-, rfl⟩, rows, _, ⟨hinsert, rfl⟩, rfl⟩ := h
  have hsame : t.fulfillment.rows.map (OrderFulfillment.onOrder r.orderId f) =
      t.fulfillment.rows := by
    have hother : ∀ a ∈ t.fulfillment.rows, OrderFulfillment.onOrder r.orderId f a = a := by
      intro a ha
      have hne := List.find?_eq_none.mp hnone a ha
      exact if_neg (by simpa using hne)
    rw [List.map_congr_left hother, List.map_id']
  refine ⟨[r], ?_, by simpa using hr⟩
  rw [hsame]
  exact (Table.insert_eq_some.mp hinsert).2

theorem rewritten_upsert {r : OrderFulfillment} {u : PUnit} (hf : ∀ r, (f r).orderId = r.orderId)
    (hr : r.Bound) (h : (upsertFulfillment r f hf).run t = .ok (u, t')) :
    Rewritten (OrderFulfillment.onOrder r.orderId f) t t' := by
  unfold upsertFulfillment at h
  simp only [Tx.run_bind_ok, Tx.run_get_ok] at h
  obtain ⟨_, _, ⟨rfl, rfl⟩, h⟩ := h
  split at h
  · rename_i hnone
    exact rewritten_insert hnone hr h
  · rw [← Tx.run_modify_ok.mp h]
    exact rewritten_update t hf

end OmsTables

/-! ## The operations -/

/-- What happens to the orders. -/
inductive FulfillmentOp
  | ingest (call : IngestCall)
  | manualAssign (call : ManualAssignCall)
  | commitOutbound (orderId warehouseId : ℕ) (time : ℤ)
  | completeOutbound (orderId : ℕ) (time : ℤ)
  /-- Other services write the other tables. -/
  | elsewhere (others : OmsTables)

namespace FulfillmentOp

open OmsTables OrderFulfillment

/-- Carry out one operation. -/
def exec : FulfillmentOp → OmsTx PUnit
  | ingest call => (fun _ => ⟨⟩) <$> Wms.ingest call
  | manualAssign call => (fun _ => ⟨⟩) <$> manualAssignFulfillmentWarehouse call
  | commitOutbound orderId warehouseId time =>
    (fun _ => ⟨⟩) <$> ensureOutboundCommitted orderId warehouseId time
  | completeOutbound orderId time => (fun _ => ⟨⟩) <$> markOutboundCompleted orderId time
  | elsewhere others => modify fun t => others.putFulfillment t.fulfillment

/-- An assignment by hand names the warehouse that a committed order has. -/
def RespectsCommitment : FulfillmentOp → OmsTables → Prop
  | manualAssign call, t =>
    ∀ order ∈ t.findByKey (strip (upper call.platform)) (strip call.storeCode) call.extOrderNo,
      ∀ r ∈ t.fulfillment.rows, r.orderId = order.id → r.outboundCommittedAt ≠ none →
        r.actualWarehouseId = some call.warehouseId.toNat
  | _, _ => True

variable {t t' : OmsTables} {u : PUnit}

/-! ### Ingest -/

/-- The fulfilment rows stay as they are. -/
instance : IsPreorder OmsTables fun t t' => t'.fulfillment = t.fulfillment where
  refl _ := rfl
  trans _ _ _ h h' := h'.trans h

/-- The head of an order does not touch its fulfilment. -/
theorem insertOrder_follows (call : IngestCall) :
    Tx.Follows (fun t t' : OmsTables => t'.fulfillment = t.fulfillment)
      (insertOrderOrGetIdempotent call) := by
  intro t a t' h
  unfold insertOrderOrGetIdempotent at h
  simp only [Tx.run_bind_ok, Tx.run_get_ok, Tx.run_ofExcept_ok] at h
  obtain ⟨_, _, ⟨rfl, rfl⟩, row, _, ⟨-, rfl⟩, h⟩ := h
  split at h
  · simp only [Tx.run_bind_ok, Tx.run_demand_ok, Tx.run_pure_ok] at h
    obtain ⟨_, _, ⟨-, rfl⟩, -, rfl⟩ := h
    rfl
  · split at h
    · exact (Tx.run_throw_ok.mp h).elim
    · simp only [Tx.run_bind_ok, Tx.run_set_ok, Tx.run_pure_ok] at h
      obtain ⟨_, _, rfl, -, rfl⟩ := h
      rfl

theorem insertOrderItem_follows (orderId : ℕ) (it : IngestItem) :
    Tx.Follows (fun t t' : OmsTables => t'.fulfillment = t.fulfillment)
      (insertOrderItem orderId it) := by
  intro t a t' h
  unfold insertOrderItem at h
  simp only [Tx.run_bind_ok, Tx.run_get_ok, Tx.run_demand_ok] at h
  obtain ⟨_, _, ⟨rfl, rfl⟩, itemId, _, ⟨-, rfl⟩, h⟩ := h
  split at h
  · rw [← (Tx.run_pure_ok.mp h).2]
  · split at h
    · rw [← Tx.run_set_ok.mp h]
      rfl
    · exact (Tx.run_throw_ok.mp h).elim

theorem insertOrderLine_follows (orderId : ℕ) (p : ℕ × ℤ) :
    Tx.Follows (fun t t' : OmsTables => t'.fulfillment = t.fulfillment)
      (insertOrderLine orderId p) := by
  intro t a t' h
  unfold insertOrderLine at h
  simp only [Tx.run_bind_ok, Tx.run_get_ok] at h
  obtain ⟨_, _, ⟨rfl, rfl⟩, h⟩ := h
  split at h
  · exact (Tx.run_throw_ok.mp h).elim
  · split at h
    · rw [← Tx.run_set_ok.mp h]
      rfl
    · exact (Tx.run_throw_ok.mp h).elim

theorem deleteOrderLines_follows (orderId : ℕ) :
    Tx.Follows (fun t t' : OmsTables => t'.fulfillment = t.fulfillment)
      (deleteOrderLines orderId) := by
  intro t a t' h
  unfold deleteOrderLines at h
  simp only [Tx.run_bind_ok, Tx.run_get_ok, Tx.run_failIf_ok, Tx.run_set_ok] at h
  obtain ⟨_, _, ⟨rfl, rfl⟩, _, _, ⟨-, rfl⟩, _, _, ⟨-, rfl⟩, rfl⟩ := h
  rfl

theorem insertOrderLines_follows (orderId : ℕ) (items : List IngestItem) :
    Tx.Follows (fun t t' : OmsTables => t'.fulfillment = t.fulfillment)
      (insertOrderLines orderId items) := by
  unfold insertOrderLines
  split
  · exact Tx.follows_pure _
  · exact (deleteOrderLines_follows orderId).bind fun _ =>
      Tx.follows_forM _ fun p _ => insertOrderLine_follows orderId p

/-- Routing leaves the warehouse that ships alone. -/
theorem ingest_rewritten {call : IngestCall} {r : IngestResult}
    (h : (Wms.ingest call).run t = .ok (r, t')) :
    ∃ f, MovesOn f ∧ (∀ r, (f r).orderId = r.orderId) ∧ Rewritten f t t' := by
  unfold Wms.ingest at h
  simp only [Tx.run_bind_ok] at h
  obtain ⟨⟨order, hit⟩, t₁, hhead, h⟩ := h
  have h₁ : t₁.fulfillment = t.fulfillment := insertOrder_follows call _ _ _ hhead
  cases hit with
  | true =>
    simp only [if_true, Tx.run_bind_ok, Tx.run_get_ok, Tx.run_pure_ok] at h
    obtain ⟨_, t₂, hlines, _, _, ⟨rfl, rfl⟩, -, rfl⟩ := h
    have h₂ := insertOrderLines_follows _ _ _ _ _ hlines
    exact ⟨_, movesOn_id, fun _ => rfl, .of_eq (h₂.trans h₁)⟩
  | false =>
    simp only [Bool.false_eq_true, if_false, Tx.run_bind_ok, Tx.run_get_ok, Tx.run_pure_ok] at h
    obtain ⟨_, t₂, hitems, _, t₃, hlines, _, _, ⟨rfl, rfl⟩, _, t₄, hroute, -, rfl⟩ := h
    have h₂ : t₂.fulfillment = t₁.fulfillment :=
      Tx.follows_forM call.items (fun it _ => insertOrderItem_follows order.id it) _ _ _ hitems
    have h₃ : t₃.fulfillment = t₂.fulfillment := insertOrderLines_follows _ _ _ _ _ hlines
    unfold upsertOrderFulfillmentRoute at hroute
    simp only [Tx.run_bind_ok, Tx.run_get_ok, Tx.run_failIf_ok] at hroute
    obtain ⟨_, _, ⟨rfl, rfl⟩, _, _, ⟨-, rfl⟩, hroute⟩ := hroute
    refine ⟨_, movesOn_onOrder (movesOn_route _) order.id, fun r => ?_,
      (rewritten_upsert _ (fun hc => absurd rfl hc) hroute).congr (h₃.trans (h₂.trans h₁))⟩
    unfold onOrder
    split <;> rfl

/-! ### Shipping and assigning -/

theorem commitOutbound_rewritten {orderId warehouseId : ℕ} {time : ℤ} {r : OutboundTime}
    (h : (ensureOutboundCommitted orderId warehouseId time).run t = .ok (r, t')) :
    Rewritten (onOrder orderId (OrderFulfillment.commit warehouseId time)) t t' := by
  unfold ensureOutboundCommitted requireWarehouse at h
  simp only [Tx.run_bind_ok, Tx.run_get_ok] at h
  obtain ⟨_, _, ⟨rfl, rfl⟩, h⟩ := h
  split at h
  · rename_i hnone
    simp only [Tx.run_bind_ok, Tx.run_get_ok, Tx.run_failIf_ok, Tx.run_pure_ok] at h
    obtain ⟨_, _, ⟨_, _, ⟨rfl, rfl⟩, -, rfl⟩, _, _, hinsert, -, rfl⟩ := h
    exact rewritten_insert (r := committedRow orderId warehouseId time) hnone
      (fun _ => Option.some_ne_none _) hinsert
  · simp only [Tx.run_bind_ok, Tx.run_get_ok, Tx.run_failIf_ok, Tx.run_pure_ok,
      Tx.run_modify_ok] at h
    obtain ⟨_, _, ⟨-, rfl⟩, _, _, ⟨_, _, ⟨rfl, rfl⟩, -, rfl⟩, _, _, rfl, -, rfl⟩ := h
    exact rewritten_update t _

theorem completeOutbound_rewritten {orderId : ℕ} {time : ℤ} {r : OutboundTime}
    (h : (markOutboundCompleted orderId time).run t = .ok (r, t')) :
    ∃ f, MovesOn f ∧ (∀ r, (f r).orderId = r.orderId) ∧ Rewritten (onOrder orderId f) t t' := by
  unfold markOutboundCompleted at h
  simp only [Tx.run_bind_ok, Tx.run_get_ok, Tx.run_demand_ok] at h
  obtain ⟨_, _, ⟨rfl, rfl⟩, existing, _, ⟨-, rfl⟩, h⟩ := h
  split at h
  · simp only [Tx.run_bind_ok, Tx.run_modify_ok, Tx.run_pure_ok] at h
    obtain ⟨_, _, rfl, -, rfl⟩ := h
    exact ⟨_, movesOn_toShip, fun _ => rfl, rewritten_update t _⟩
  · simp only [Tx.run_bind_ok, Tx.run_failIf_ok, Tx.run_modify_ok, Tx.run_pure_ok] at h
    obtain ⟨_, _, ⟨-, rfl⟩, _, _, rfl, -, rfl⟩ := h
    exact ⟨_, movesOn_finish time, finish_orderId time, rewritten_update t _⟩

theorem manualAssign_rewritten {call : ManualAssignCall} {r : ManualAssignResult}
    (h : (manualAssignFulfillmentWarehouse call).run t = .ok (r, t')) :
    ∃ order, t.findByKey (strip (upper call.platform)) (strip call.storeCode) call.extOrderNo =
        some order ∧
      Rewritten (onOrder order.id (OrderFulfillment.assign call.warehouseId.toNat)) t t' := by
  unfold manualAssignFulfillmentWarehouse requireWarehouse at h
  simp only [Tx.run_bind_ok, Tx.run_get_ok, Tx.run_failIf_ok, Tx.run_demand_ok,
    Tx.run_pure_ok] at h
  obtain ⟨_, _, ⟨-, rfl⟩, _, _, ⟨-, rfl⟩, _, _, ⟨rfl, rfl⟩, order, _, ⟨hfind, rfl⟩, _, _,
    ⟨-, rfl⟩, _, _, ⟨_, _, ⟨rfl, rfl⟩, -, rfl⟩, _, _, hupsert, -, rfl⟩ := h
  exact ⟨order, hfind, rewritten_upsert _ (fun _ => Option.some_ne_none _) hupsert⟩

/-! ### One step -/

/-- A rewriting that moves bound rows onward keeps the warehouses. -/
theorem movesOn_step {f : OrderFulfillment → OrderFulfillment} (hf : MovesOn f)
    (horder : ∀ r, (f r).orderId = r.orderId) (ht : t.AllBound) (h : Rewritten f t t') :
    t'.AllBound ∧ WarehouseFixed t t' :=
  ⟨h.allBound fun r hr => (hf r (ht r hr)).2,
    (h.warehouseFixed_iff horder).mpr fun r hr => (hf r (ht r hr)).1⟩

theorem onOrder_orderId {orderId : ℕ} {f : OrderFulfillment → OrderFulfillment}
    (hf : ∀ r, (f r).orderId = r.orderId) (r : OrderFulfillment) :
    (onOrder orderId f r).orderId = r.orderId := by
  unfold onOrder
  split
  · exact hf r
  · rfl

/-- An assignment by hand keeps the warehouses exactly when it respects the commitment. -/
theorem manualAssign_step {call : ManualAssignCall} {r : ManualAssignResult} (ht : t.AllBound)
    (h : (manualAssignFulfillmentWarehouse call).run t = .ok (r, t')) :
    t'.AllBound ∧ (RespectsCommitment (manualAssign call) t ↔ WarehouseFixed t t') := by
  obtain ⟨order, hfind, hrewritten⟩ := manualAssign_rewritten h
  constructor
  · refine hrewritten.allBound fun r hr => ?_
    unfold onOrder
    split
    · exact fun _ => Option.some_ne_none _
    · exact ht r hr
  · have hrespects : RespectsCommitment (manualAssign call) t ↔
        ∀ r ∈ t.fulfillment.rows, r.orderId = order.id → r.outboundCommittedAt ≠ none →
          r.actualWarehouseId = some call.warehouseId.toNat := by
      unfold RespectsCommitment
      dsimp only
      rw [hfind]
      simp
    rw [hrespects, hrewritten.warehouseFixed_iff (onOrder_orderId fun _ => rfl)]
    refine forall₂_congr fun r _ => ?_
    unfold onOrder
    by_cases ho : r.orderId = order.id
    · rw [if_pos ho, onward_assign_iff]
      exact ⟨fun hr => hr ho, fun hr _ => hr⟩
    · rw [if_neg ho]
      exact ⟨fun _ => .refl r, fun _ ho' => absurd ho' ho⟩

/-- Every accepted operation leaves committed rows with a warehouse, and keeps the
warehouses exactly when it respects the commitment. -/
theorem step {op : FulfillmentOp} (ht : t.AllBound) (h : op.exec.run t = .ok (u, t')) :
    t'.AllBound ∧ (op.RespectsCommitment t ↔ WarehouseFixed t t') := by
  have hkeeps : ∀ {f}, MovesOn f → (∀ r, (f r).orderId = r.orderId) → Rewritten f t t' →
      (∀ c, op ≠ manualAssign c) → t'.AllBound ∧ (op.RespectsCommitment t ↔ WarehouseFixed t t') := by
    intro f hf horder hrewritten hop
    obtain ⟨hbound, hfixed⟩ := movesOn_step hf horder ht hrewritten
    refine ⟨hbound, iff_of_true ?_ hfixed⟩
    cases op with
    | manualAssign call => exact absurd rfl (hop call)
    | _ => trivial
  cases op with
  | ingest call =>
    obtain ⟨_, h, -⟩ := Tx.run_map_ok.mp h
    obtain ⟨f, hf, horder, hrewritten⟩ := ingest_rewritten h
    exact hkeeps hf horder hrewritten (by simp)
  | manualAssign call =>
    obtain ⟨_, h, -⟩ := Tx.run_map_ok.mp h
    exact manualAssign_step ht h
  | commitOutbound orderId warehouseId time =>
    obtain ⟨_, h, -⟩ := Tx.run_map_ok.mp h
    exact hkeeps (movesOn_onOrder (movesOn_commit warehouseId time) orderId)
      (onOrder_orderId fun _ => rfl) (commitOutbound_rewritten h) (by simp)
  | completeOutbound orderId time =>
    obtain ⟨_, h, -⟩ := Tx.run_map_ok.mp h
    obtain ⟨f, hf, horder, hrewritten⟩ := completeOutbound_rewritten h
    exact hkeeps (movesOn_onOrder hf orderId) (onOrder_orderId horder) hrewritten (by simp)
  | elsewhere others =>
    have h' : t'.fulfillment = t.fulfillment := by
      rw [← Tx.run_modify_ok.mp h]
      rfl
    exact hkeeps movesOn_id (fun _ => rfl) (.of_eq h') (by simp)

end FulfillmentOp

/-! ## Runs -/

/-- The state after the first `n` operations. -/
def OmsTables.afterFulfillment (t : OmsTables) (ops : List FulfillmentOp) (n : ℕ) : OmsTables :=
  Tx.attemptAll FulfillmentOp.exec (ops.take n) t

/-- The operations in any order move the rows of the orders onward. -/
def FulfillmentKept (t : OmsTables) (ops : List FulfillmentOp) : Prop :=
  ∀ n m, n ≤ m →
    OmsTables.WarehouseFixed (t.afterFulfillment ops n) (t.afterFulfillment ops m)

/-- Where committed orders have a warehouse, they keep it over a run exactly when every
accepted assignment by hand names the warehouse that a committed order has. -/
theorem fulfillmentKept_iff (t : OmsTables) (ops : List FulfillmentOp) (ht : t.AllBound) :
    FulfillmentKept t ops ↔
      Tx.AllAccepted FulfillmentOp.exec FulfillmentOp.RespectsCommitment ops t :=
  Tx.attemptAll_related_iff (I := OmsTables.AllBound)
    (fun _ _ _ _ ht h => (FulfillmentOp.step ht h).1)
    (fun _ _ _ _ ht h => (FulfillmentOp.step ht h).2) ht

/-! ## Assigning a committed order -/

/-- Two warehouses and no orders. -/
def twoWarehouses : OmsTables :=
  .noOrders ⟨[⟨1, ⟨"East", by decide⟩⟩, ⟨2, ⟨"West", by decide⟩⟩], by decide⟩ ⟨[], [], []⟩

theorem twoWarehouses_allBound : twoWarehouses.AllBound :=
  fun _ h => absurd h List.not_mem_nil

/-- An order of one piece. -/
def onePiece : IngestCall where
  platform := "PDD"
  storeCode := "S1"
  extOrderNo := "1001"
  buyerName := none
  buyerPhone := none
  items := [⟨some 7, some "A7", none, some 1⟩]
  address := ⟨none, none, none, none⟩

/-- The order is committed to the first warehouse and assigned to the second one. -/
def reassignCommitted : List FulfillmentOp :=
  [.ingest onePiece, .commitOutbound 1 1 0, .manualAssign ⟨"PDD", "S1", "1001", 2, "stock"⟩]

theorem fulfillmentKept_iff_reassignCommitted :
    FulfillmentKept twoWarehouses reassignCommitted ↔
      Tx.AllAccepted FulfillmentOp.exec FulfillmentOp.RespectsCommitment reassignCommitted
        twoWarehouses :=
  fulfillmentKept_iff twoWarehouses reassignCommitted twoWarehouses_allBound

/-- The committed order changes its warehouse. -/
theorem not_fulfillmentKept_reassignCommitted :
    ¬∀ (t : OmsTables) (ops : List FulfillmentOp), t.AllBound → FulfillmentKept t ops := by
  intro h
  have hkept := (h twoWarehouses reassignCommitted twoWarehouses_allBound 2 3 (by decide)).onward
  have hbefore : (twoWarehouses.afterFulfillment reassignCommitted 2).fulfillment.rows.map
      (fun r => (r.outboundCommittedAt, r.actualWarehouseId)) = [(some 0, some 1)] := by
    decide +kernel
  have hafter : (twoWarehouses.afterFulfillment reassignCommitted 3).fulfillment.rows.map
      OrderFulfillment.actualWarehouseId = [some 2] := by
    decide +kernel
  obtain ⟨r, hr, heq⟩ := List.mem_map.mp (hbefore ▸ List.mem_singleton_self _)
  obtain ⟨hcommitted, hwarehouse⟩ := Prod.mk.inj heq
  obtain ⟨r', hr', hon⟩ := hkept r hr
  have hsame := hon.warehouse (by rw [hcommitted]; exact Option.some_ne_none _)
  have hsecond : r'.actualWarehouseId = some 2 := by
    have hmem := List.mem_map_of_mem (f := OrderFulfillment.actualWarehouseId) hr'
    rw [hafter] at hmem
    exact List.mem_singleton.mp hmem
  rw [hsecond, hwarehouse] at hsame
  exact absurd hsame (by decide)

end Wms

import Wms.Foundation.Dict
import Wms.Stock.AdjustLot

/-!
# Shipping without a document

`ship_commit_direct_lot_impl` ships quantities of items under a reference. What the
ledger already has under the reference counts as shipped, so a call books what is still
missing, from the one internal lot of each item.
-/

namespace Wms

open Foundation Foundation.Journal

/-! ## The request -/

/-- A line of the request. -/
structure ShipLine where
  itemId : ℕ
  qty : ℤ
  deriving DecidableEq

/-- The arguments of `ship_commit_direct_lot_impl`. -/
structure ShipCall where
  warehouseId : ℕ
  ref : String
  lines : List ShipLine
  occurredAt : Option ℤ
  traceId : Option String

/-- What the function returns. -/
structure ShipAnswer where
  idempotent : Bool
  applied : Bool
  ref : String
  totalQty : ℤ
  deriving DecidableEq

/-- `need_by_item[item] = need_by_item.get(item, 0) + qty`. -/
def addNeed (needs : List (ℕ × ℤ)) (l : ShipLine) : List (ℕ × ℤ) :=
  Dict.adjust l.itemId (fun q => q.getD 0 + l.qty) needs

/-- `need_by_item`: the items in the order in which the lines first name them. -/
def needByItem (lines : List ShipLine) : List (ℕ × ℤ) := lines.foldl addNeed []

/-! ## What is read of the books -/

namespace Books

/-- The sum of the negative amounts that the ledger has for an item under a reference. -/
def shippedSum (b : Books) (warehouseId itemId : ℕ) (ref : String) : ℤ :=
  ((b.stockLedger.rows.filter fun r => r.slot.warehouseId = warehouseId ∧
    r.slot.itemId = itemId ∧ r.ref.text = ref ∧ r.delta < 0).map LedgerRow.delta).sum

/-- `_load_total_available_qty`. -/
def availableQty (b : Books) (warehouseId itemId : ℕ) : ℤ :=
  ((b.stocksLot.entries.filter fun e =>
    e.1.warehouseId = warehouseId ∧ e.1.itemId = itemId ∧ 0 < e.2).map Sigma.snd).sum

/-- The lot is an internal one of the item: it has no code. -/
def HasInternalLot (b : Books) (k : SlotKey) : Prop :=
  ∃ l ∈ b.lots.rows, l.id = k.lotId ∧ l.BelongsTo k.warehouseId k.itemId ∧ l.lotCode = none

instance (b : Books) (k : SlotKey) : Decidable (b.HasInternalLot k) :=
  inferInstanceAs (Decidable (∃ l ∈ b.lots.rows, _))

/-- The first internal slot of an item that holds stock, with its balance. -/
def internalSlot (b : Books) (warehouseId itemId : ℕ) : Option (SlotKey × ℤ) :=
  (((b.stocksLot.entries.filter fun e => e.1.itemId = itemId ∧ e.1.warehouseId = warehouseId ∧
    0 < e.2 ∧ b.HasInternalLot e.1).map fun e => (e.1, e.2)).insertionSort
      fun p q => p.1.lotId ≤ q.1.lotId).head?

/-- `_load_last_after_qty_for_ref_lot`: the balance that the latest row of the reference
records for a slot; of rows with the same time the later one counts. -/
def lastAfterQty (b : Books) (ref : String) (k : SlotKey) : Option ℤ :=
  let rows := b.stockLedger.rows.filter fun r => r.ref.text = ref ∧ r.slot = k
  (rows.foldl (fun last r =>
    match last with
    | none => some r
    | some l => if l.occurredAt ≤ r.occurredAt then some r else some l) none).map
      LedgerRow.afterQty

end Books

instance (b : Books) (k : SlotKey) (reason ref : String) (refLine : ℤ) :
    Decidable (b.HasKey k reason ref refLine) :=
  inferInstanceAs (Decidable (∃ r ∈ b.stockLedger.rows, _))

/-! ## The function -/

/-- `_shortage_detail`. -/
def shortageDetail (itemId : ℕ) (availableQty requiredQty : ℤ) : ProblemDetail :=
  .shortage itemId requiredQty availableQty (max 0 (requiredQty - availableQty))
    "insufficient_stock"

/-- The answer to a request for more than there is. -/
def insufficientStock (b : Books) (warehouseId itemId : ℕ) (required : ℤ) : Err :=
  .problem 409 "insufficient_stock" "库存不足，禁止提交出库。"
    [shortageDetail itemId (b.availableQty warehouseId itemId) required]

/-- The answer to a request for items whose lots have codes. -/
def batchRequired (itemId : ℕ) : Err :=
  .problem 422 "batch_required" "批次受控商品必须提供批次，禁止自动挑选批次出库。"
    [.batch "lines[item_id]" itemId "lot_code_required"]

/-- The answer to a request for items that the product master does not know. -/
def unknownItem (missing : List ℕ) : Err :=
  .problem 422 "unknown_item" "未知商品，禁止出库。" [.validation "lines" missing "unknown_item"]

/-- An entry of `effects`. -/
structure ShipEffect where
  slot : SlotKey
  qty : ℤ
  ref : String
  refLine : ℕ

/-- What the loop over the items carries. -/
structure ShipProgress where
  idempotent : Bool
  total : ℤ
  effects : List ShipEffect

/-- The movement that ships a quantity from a slot. -/
def ShipCall.adjustCall (call : ShipCall) (k : SlotKey) (take : ℤ) (refLine : ℕ) : AdjustCall where
  itemId := k.itemId
  warehouseId := k.warehouseId
  lotId := some k.lotId
  delta := -take
  reason := "SHIPMENT"
  ref := call.ref
  refLine := some refLine
  occurredAt := call.occurredAt
  info := ⟨false, some "ORDER_SHIP", none⟩
  lotCode := none
  productionDate := none
  expiryDate := none
  traceId := call.traceId

/-- Ship what is missing of an item. -/
def shipMissing (env : AdjustEnv) (call : ShipCall) (st : ShipProgress) (itemId : ℕ) (need : ℤ) :
    Tx Books Err ShipProgress := do
  let b ← get
  let slot ← Tx.demand (b.internalSlot call.warehouseId itemId)
    (insufficientStock b call.warehouseId itemId need)
  let take := min need slot.2
  Tx.failIf (take ≤ 0) (insufficientStock b call.warehouseId itemId need)
  let refLine := st.effects.length + 1
  let _ ← adjustLot env (call.adjustCall slot.1 take refLine)
  let b' ← get
  Tx.failIf (take < need) (insufficientStock b' call.warehouseId itemId (need - take))
  return ⟨false, st.total + take, st.effects ++ [⟨slot.1, -take, call.ref, refLine⟩]⟩

/-- One pass of the loop over the items. -/
def shipItem (env : AdjustEnv) (call : ShipCall) (policies : ℕ → Option ItemPolicy)
    (st : ShipProgress) (p : ℕ × ℤ) : Tx Books Err ShipProgress := do
  Tx.failIf (∃ policy ∈ policies p.1, policy.expiryPolicy = .required) (batchRequired p.1)
  let b ← get
  let need := p.2 + b.shippedSum call.warehouseId p.1 call.ref
  if need ≤ 0 then return st else shipMissing env call st p.1 need

/-- The order of `sorted(touched)`. -/
def SlotKey.Le (k k' : SlotKey) : Prop :=
  k.warehouseId < k'.warehouseId ∨ (k.warehouseId = k'.warehouseId ∧
    (k.itemId < k'.itemId ∨ (k.itemId = k'.itemId ∧ k.lotId ≤ k'.lotId)))

instance : DecidableRel SlotKey.Le := fun _ _ => inferInstanceAs (Decidable (_ ∨ _))

/-- `enforce_outbound_invariant_guard`: every slot that was moved must hold the balance
that the latest ledger row of the reference records. -/
def enforceOutboundInvariantGuard (ref : String) (touched : List SlotKey) :
    Tx Books Err Unit := do
  let b ← get
  let wrong := (touched.dedup.insertionSort SlotKey.Le).filter fun k =>
    b.lastAfterQty ref k ≠ some (b.stock k)
  Tx.failIf (wrong ≠ []) (.problem 409 "invariant_guard_failed"
    "执行域不变量校验失败：ref 内最后一条 ledger.after_qty 与 stocks_lot.qty 不一致。"
    (wrong.map fun k =>
      .balance k.warehouseId k.itemId k.lotId (b.lastAfterQty ref k) (b.stock k)))

/-- `ship_commit_direct_lot_impl`. -/
def shipCommitDirect (env : AdjustEnv) (call : ShipCall) : Tx Books Err ShipAnswer := do
  let needs := needByItem call.lines
  if needs = [] then return ⟨true, false, call.ref, 0⟩
  else do
    let policies ← Tx.ofExcept (env.pms.getItemPolicies (needs.map Prod.fst))
    let missing := ((needs.map Prod.fst).insertionSort (· ≤ ·)).filter fun i => policies i = none
    Tx.failIf (missing ≠ []) (unknownItem missing)
    let st ← needs.foldlM (shipItem env call policies) ⟨true, 0, []⟩
    -- without effects no slot was touched, and the guard has nothing to compare
    enforceOutboundInvariantGuard call.ref (st.effects.map ShipEffect.slot)
    return ⟨st.idempotent, !st.idempotent, call.ref, st.total⟩

/-! ## The needs of a request -/

/-- The quantity that a list of needs has for an item. -/
def needOf (needs : List (ℕ × ℤ)) (itemId : ℕ) : ℤ := (needs.lookup itemId).getD 0

/-- The quantity that the lines of a request want of an item. -/
def ShipCall.wanted (call : ShipCall) (itemId : ℕ) : ℤ :=
  ((call.lines.filter fun l => l.itemId = itemId).map ShipLine.qty).sum

theorem needOf_cons (p : ℕ × ℤ) (needs : List (ℕ × ℤ)) (i : ℕ) :
    needOf (p :: needs) i = if i = p.1 then p.2 else needOf needs i := by
  unfold needOf
  rw [Dict.lookup_cons]
  split <;> rfl

/-- Each item is needed once, in the quantity that its lines add up to. -/
theorem needByItem_spec (lines : List ShipLine) :
    ((needByItem lines).map Prod.fst).Nodup ∧ ∀ i, needOf (needByItem lines) i =
      ((lines.filter fun l => l.itemId = i).map ShipLine.qty).sum :=
  Dict.tally_spec ShipLine.itemId ShipLine.qty lines

/-! ## Stock on hand and stock shipped -/

namespace Books

/-- All stock. -/
def onHand (b : Books) : ℤ := (b.stocksLot.entries.map Sigma.snd).sum

/-- The stock decrease that the ledger has for an item under a reference. -/
def bookedFor (b : Books) (warehouseId itemId : ℕ) (ref : String) : ℤ :=
  -b.shippedSum warehouseId itemId ref

theorem onHand_eq_sum {b : Books} {s : Finset SlotKey} (hs : ∀ k ∈ b.stocksLot, k ∈ s) :
    b.onHand = ∑ k ∈ s, b.stock k := by
  have hkeys : b.onHand = (b.stocksLot.keys.map b.stock).sum := by
    unfold onHand AList.keys List.keys
    rw [List.map_map]
    congr 1
    refine List.map_congr_left fun e he => ?_
    exact (Books.stock_of_lookup (AList.mem_lookup_iff.mpr he)).symm
  rw [hkeys, ← List.sum_toFinset _ b.stocksLot.keys_nodup]
  refine Finset.sum_subset (fun k hk => hs k (List.mem_toFinset.mp hk)) fun k _ hk => ?_
  exact Books.stock_of_notMem fun hmem => hk (List.mem_toFinset.mpr hmem)

theorem bookedFor_nonneg (b : Books) (w i : ℕ) (ref : String) : 0 ≤ b.bookedFor w i ref := by
  unfold bookedFor shippedSum
  rw [Left.nonneg_neg_iff]
  refine (List.sum_le_card_nsmul _ 0 ?_).trans (by simp)
  intro q hq
  obtain ⟨r, hr, rfl⟩ := List.mem_map.mp hq
  have hmatch := (List.mem_filter.mp hr).2
  simp only [decide_eq_true_eq] at hmatch
  exact hmatch.2.2.2.le

end Books

variable {b b' : Books}

/-- The stock on hand moves by the amounts of the ledger rows. -/
theorem Moved.onHand_eq {rows : List LedgerRow} (h : Moved b rows b') :
    b'.onHand = b.onHand + (rows.map LedgerRow.delta).sum := by
  let s := b.stocksLot.keys.toFinset ∪ b'.stocksLot.keys.toFinset ∪
    (rows.map LedgerRow.slot).toFinset
  have hb : ∀ k ∈ b.stocksLot, k ∈ s := fun k hk => by
    simp only [s, Finset.mem_union, List.mem_toFinset]
    exact .inl (.inl hk)
  have hb' : ∀ k ∈ b'.stocksLot, k ∈ s := fun k hk => by
    simp only [s, Finset.mem_union, List.mem_toFinset]
    exact .inl (.inr hk)
  have hrows : ∀ p ∈ rows.map LedgerRow.posting, p.key ∈ s := by
    intro p hp
    obtain ⟨r, hr, rfl⟩ := List.mem_map.mp hp
    simp only [s, Finset.mem_union, List.mem_toFinset]
    exact .inr (List.mem_map.mpr ⟨r, hr, rfl⟩)
  rw [Books.onHand_eq_sum hb', Books.onHand_eq_sum hb, Finset.sum_congr rfl fun k _ => h.stock_eq k,
    Finset.sum_add_distrib, sum_movement hrows, List.map_map]
  rfl

/-- A ledger row of a shipment adds its amount to what its reference has shipped. -/
theorem Moved.bookedFor_eq {row : LedgerRow} (h : Moved b [row] b') (hneg : row.delta < 0)
    (w i : ℕ) (ref : String) :
    b'.bookedFor w i ref = b.bookedFor w i ref -
      if row.slot.warehouseId = w ∧ row.slot.itemId = i ∧ row.ref.text = ref then row.delta
      else 0 := by
  unfold Books.bookedFor Books.shippedSum
  rw [h.ledger_eq, List.filter_append, List.map_append, List.sum_append]
  by_cases hrow : row.slot.warehouseId = w ∧ row.slot.itemId = i ∧ row.ref.text = ref
  · simp only [List.filter_cons, List.filter_nil, hrow, hneg, and_self, decide_true, if_true,
      List.map_cons, List.map_nil, List.sum_cons, List.sum_nil]
    ring
  · have hskip : ¬(row.slot.warehouseId = w ∧ row.slot.itemId = i ∧ row.ref.text = ref ∧
        row.delta < 0) := fun hall => hrow ⟨hall.1, hall.2.1, hall.2.2.1⟩
    simp [hskip, hrow]

/-! ## What the loop does -/

variable {env env' : AdjustEnv} {call : ShipCall} {policies : ℕ → Option ItemPolicy}
  {st st' : ShipProgress}

theorem Books.internalSlot_eq_some {w i : ℕ} {slot : SlotKey × ℤ}
    (h : b.internalSlot w i = some slot) :
    slot.1.warehouseId = w ∧ slot.1.itemId = i ∧ 0 < slot.2 ∧ b.HasInternalLot slot.1 := by
  have hmem := List.mem_of_head? h
  rw [List.mem_insertionSort] at hmem
  obtain ⟨e, he, rfl⟩ := List.mem_map.mp hmem
  have hmatch := (List.mem_filter.mp he).2
  simp only [decide_eq_true_eq] at hmatch
  exact ⟨hmatch.2.1, hmatch.1, hmatch.2.2.1, hmatch.2.2.2⟩

/-- What is still missing of a needed item. -/
def ShipCall.missing (call : ShipCall) (b : Books) (p : ℕ × ℤ) : ℤ :=
  p.2 + b.shippedSum call.warehouseId p.1 call.ref

/-- The movement that ships an item as the one with the given number finds its key free on
every internal lot of the item. -/
def ShipCall.KeyFree (call : ShipCall) (b : Books) (itemId refLine : ℕ) : Prop :=
  ∀ l ∈ b.lots.rows, l.BelongsTo call.warehouseId itemId → l.lotCode = none →
    ¬b.HasKey ⟨call.warehouseId, itemId, l.id⟩ "SHIPMENT" call.ref refLine

instance (call : ShipCall) (b : Books) (i n : ℕ) : Decidable (call.KeyFree b i n) :=
  inferInstanceAs (Decidable (∀ l ∈ b.lots.rows, _))

/-- The key of the movement that ships an item may be asked for. -/
theorem ShipCall.KeyFree.adjustCall {i n : ℕ} {k : SlotKey} {take : ℤ} (hfree : call.KeyFree b i n)
    (hw : k.warehouseId = call.warehouseId) (hi : k.itemId = i) (hlot : b.HasInternalLot k) :
    (call.adjustCall k take n).KeyFree b := by
  obtain ⟨l, hl, hid, hbelongs, hcode⟩ := hlot
  rw [hw, hi] at hbelongs
  intro lotId hlotId
  obtain rfl : k.lotId = lotId := Option.some.inj hlotId
  have hnot := hfree l hl hbelongs hcode
  rw [hid] at hnot
  change ¬b.HasKey ⟨k.warehouseId, k.itemId, k.lotId⟩ "SHIPMENT" call.ref n
  rwa [hw, hi]

/-- What the pass over an item did to the books. -/
structure ShippedItem (call : ShipCall) (p : ℕ × ℤ) (b b' : Books) : Prop where
  lots_eq : b'.lots = b.lots
  /-- The item is booked in the wanted quantity, unless more was booked before. -/
  bookedFor_eq : b'.bookedFor call.warehouseId p.1 call.ref =
    max p.2 (b.bookedFor call.warehouseId p.1 call.ref)
  /-- Other items keep what they had. -/
  others_eq : ∀ i, i ≠ p.1 → b'.bookedFor call.warehouseId i call.ref =
    b.bookedFor call.warehouseId i call.ref
  /-- The ledger has new keys for the item only. -/
  keys : ∀ k reason ref refLine, k.itemId ≠ p.1 → b'.HasKey k reason ref refLine →
    b.HasKey k reason ref refLine

/-- The pass over an item of which something is missing books exactly that. -/
theorem shipMissing_run_ok {p : ℕ × ℤ} (href : Varchar.Verbatim 128 call.ref)
    (hneed : 0 < call.missing b p) (hfree : call.KeyFree b p.1 (st.effects.length + 1))
    (h : (shipMissing env call st p.1 (call.missing b p)).run b = .ok (st', b')) :
    ShippedItem call p b b' ∧ st'.total = st.total + (b.onHand - b'.onHand) ∧
      st'.effects.length = st.effects.length + 1 := by
  unfold shipMissing at h
  simp only [Tx.run_bind_ok, Tx.run_get_ok, Tx.run_demand_ok, Tx.run_failIf_ok,
    Tx.run_pure_ok] at h
  obtain ⟨_, _, ⟨rfl, rfl⟩, slot, _, ⟨hslot, rfl⟩, _, _, ⟨-, rfl⟩, out, b₁, hadjust, _, _,
    ⟨rfl, rfl⟩, _, _, ⟨henough, rfl⟩, rfl, rfl⟩ := h
  obtain ⟨hw, hi, -, hlot⟩ := Books.internalSlot_eq_some hslot
  -- a slot that holds less than is missing ends the call
  have htake : min (call.missing b p) slot.2 = call.missing b p := by omega
  rw [htake] at hadjust ⊢
  obtain ⟨row, hrow, hmoved⟩ := adjustLot_recorded
    ⟨.inl (by change "SHIPMENT".length ≤ 32; decide), href⟩
    (.inl (by change -call.missing b p ≠ 0; omega)) (hfree.adjustCall hw hi hlot) hadjust
  obtain ⟨lotId, -, hrowSlot⟩ := hrow.slot_eq
  change row.slot = ⟨slot.1.warehouseId, slot.1.itemId, lotId⟩ at hrowSlot
  have hdelta : row.delta = -call.missing b p := hrow.delta_eq
  have hrowRef : row.ref.text = call.ref := hrow.ref_eq
  rw [hw, hi] at hrowSlot
  have hbooked := fun i => hmoved.bookedFor_eq (by omega) call.warehouseId i call.ref
  simp only [hrowSlot, hrowRef, hdelta, true_and, and_true] at hbooked
  refine ⟨⟨hmoved.lots_eq, ?_, ?_, ?_⟩, ?_, List.length_append⟩
  · rw [hbooked, if_pos rfl]
    unfold ShipCall.missing at hneed ⊢
    unfold Books.bookedFor
    omega
  · intro i hne
    rw [hbooked, if_neg (Ne.symm hne), sub_zero]
  · rintro k reason ref refLine hk ⟨r, hr, hkey, hrest⟩
    rw [hmoved.ledger_eq] at hr
    rcases List.mem_append.mp hr with hold | hnew
    · exact ⟨r, hold, hkey, hrest⟩
    · rw [List.mem_singleton.mp hnew, hrowSlot] at hkey
      exact absurd (congrArg SlotKey.itemId hkey).symm hk
  · have honHand := hmoved.onHand_eq
    rw [List.map_singleton, List.sum_singleton, hdelta] at honHand
    change st.total + call.missing b p = _
    omega

/-- The lots of an item have codes. -/
def RequiresBatch (policies : ℕ → Option ItemPolicy) (itemId : ℕ) : Prop :=
  ∃ policy ∈ policies itemId, policy.expiryPolicy = .required

/-- The pass over an item does nothing when nothing is missing. -/
theorem shipItem_run_iff {p : ℕ × ℤ} :
    (shipItem env call policies st p).run b = .ok (st', b') ↔
      ¬RequiresBatch policies p.1 ∧ ((call.missing b p ≤ 0 ∧ st = st' ∧ b = b') ∨
        (0 < call.missing b p ∧
          (shipMissing env call st p.1 (call.missing b p)).run b = .ok (st', b'))) := by
  unfold shipItem RequiresBatch
  simp only [Tx.run_bind_ok, Tx.run_get_ok, Tx.run_failIf_ok]
  change (∃ u b₁, (_ ∧ b = b₁) ∧ ∃ b₂ b₃, (b₁ = b₂ ∧ b₁ = b₃) ∧
    (if call.missing b₂ p ≤ 0 then pure st
      else shipMissing env call st p.1 (call.missing b₂ p) : Tx Books Err ShipProgress).run b₃ =
        .ok (st', b')) ↔ _
  constructor
  · rintro ⟨-, _, ⟨hpolicy, rfl⟩, _, _, ⟨rfl, rfl⟩, hrest⟩
    refine ⟨hpolicy, ?_⟩
    by_cases hneed : call.missing b p ≤ 0
    · rw [if_pos hneed] at hrest
      exact .inl ⟨hneed, Tx.run_pure_ok.mp hrest⟩
    · rw [if_neg hneed] at hrest
      exact .inr ⟨not_le.mp hneed, hrest⟩
  · rintro ⟨hpolicy, hcases⟩
    refine ⟨⟨⟩, b, ⟨hpolicy, rfl⟩, b, b, ⟨rfl, rfl⟩, ?_⟩
    rcases hcases with ⟨hneed, hsame⟩ | ⟨hneed, hrun⟩
    · rw [if_pos hneed]
      exact Tx.run_pure_ok.mpr hsame
    · rw [if_neg (not_le.mpr hneed)]
      exact hrun

theorem shipItem_run_ok {p : ℕ × ℤ} (href : Varchar.Verbatim 128 call.ref)
    (hfree : 0 < call.missing b p → call.KeyFree b p.1 (st.effects.length + 1))
    (h : (shipItem env call policies st p).run b = .ok (st', b')) :
    ShippedItem call p b b' ∧ st'.total = st.total + (b.onHand - b'.onHand) ∧
      st'.effects.length = st.effects.length + if 0 < call.missing b p then 1 else 0 := by
  rcases (shipItem_run_iff.mp h).2 with ⟨hneed, rfl, rfl⟩ | ⟨hneed, hrun⟩
  · rw [if_neg (not_lt.mpr hneed)]
    refine ⟨⟨rfl, ?_, fun _ _ => rfl, fun _ _ _ _ _ hkey => hkey⟩, by omega, by omega⟩
    unfold ShipCall.missing at hneed
    unfold Books.bookedFor
    omega
  · rw [if_pos hneed]
    exact shipMissing_run_ok href hneed (hfree hneed) hrun

/-- Every movement of the loop, numbered from `n`, finds its key free. -/
def ShipCall.AllFree (call : ShipCall) (b : Books) (needs : List (ℕ × ℤ)) (n : ℕ) : Prop :=
  ∀ e ∈ (needs.filter fun p => 0 < call.missing b p).zipIdx n, call.KeyFree b e.1.1 e.2

instance (call : ShipCall) (b : Books) (needs : List (ℕ × ℤ)) (n : ℕ) :
    Decidable (call.AllFree b needs n) :=
  inferInstanceAs (Decidable (∀ e ∈ (needs.filter _).zipIdx n, call.KeyFree b e.1.1 e.2))

/-- The pass over an item leaves the other items as they were, with the keys of their
movements free. -/
theorem ShippedItem.allFree {p : ℕ × ℤ} {needs : List (ℕ × ℤ)} {n : ℕ}
    (h : ShippedItem call p b b') (hp : p.1 ∉ needs.map Prod.fst) (hfree : call.AllFree b needs n) :
    call.AllFree b' needs n := by
  have hmissing : needs.filter (fun q => 0 < call.missing b' q) =
      needs.filter fun q => 0 < call.missing b q := by
    refine List.filter_congr fun q hq => ?_
    have hne : q.1 ≠ p.1 := fun heq => hp (List.mem_map.mpr ⟨q, hq, heq⟩)
    have hsame := h.others_eq q.1 hne
    unfold Books.bookedFor at hsame
    unfold ShipCall.missing
    rw [neg_inj.mp hsame]
  unfold ShipCall.AllFree
  rw [hmissing]
  intro e he l hl hbelongs hcode hkey
  rw [h.lots_eq] at hl
  have hmem : e.1 ∈ needs := (List.mem_filter.mp (List.fst_mem_of_mem_zipIdx he)).1
  have hne : e.1.1 ≠ p.1 := fun heq => hp (List.mem_map.mpr ⟨e.1, hmem, heq⟩)
  exact hfree e he l hl hbelongs hcode (h.keys _ _ _ _ hne hkey)

/-- The loop over items that are each needed once books them in the wanted quantities, as
far as they were not booked before, and counts what it takes from stock. -/
theorem shipItems_run_ok {needs : List (ℕ × ℤ)} (href : Varchar.Verbatim 128 call.ref)
    (hnodup : (needs.map Prod.fst).Nodup) (hfree : call.AllFree b needs (st.effects.length + 1))
    (h : (needs.foldlM (shipItem env call policies) st).run b = .ok (st', b')) :
    (∀ i, b'.bookedFor call.warehouseId i call.ref =
      max (needOf needs i) (b.bookedFor call.warehouseId i call.ref)) ∧
      st'.total = st.total + (b.onHand - b'.onHand) := by
  induction needs generalizing b st with
  | nil =>
    obtain ⟨rfl, rfl⟩ := Tx.run_pure_ok.mp h
    exact ⟨fun i => (max_eq_right (b.bookedFor_nonneg _ i _)).symm, by omega⟩
  | cons p needs ih =>
    rw [List.map_cons, List.nodup_cons] at hnodup
    rw [List.foldlM_cons, Tx.run_bind_ok] at h
    obtain ⟨st₁, b₁, hitem, hrest⟩ := h
    unfold ShipCall.AllFree at hfree
    rw [List.filter_cons] at hfree
    obtain ⟨hshipped, htotal, hlength⟩ := shipItem_run_ok href (fun hneed => by
      rw [if_pos (by simpa using hneed), List.zipIdx_cons] at hfree
      exact hfree _ List.mem_cons_self) hitem
    have hfree' : call.AllFree b needs (st₁.effects.length + 1) := by
      rw [hlength]
      by_cases hneed : 0 < call.missing b p
      · rw [if_pos (by simpa using hneed), List.zipIdx_cons] at hfree
        rw [if_pos hneed]
        exact fun e he => hfree e (List.mem_cons_of_mem _ he)
      · rw [if_neg (by simpa using hneed)] at hfree
        rw [if_neg hneed]
        exact hfree
    obtain ⟨hbooked, htotal'⟩ := ih hnodup.2 (hshipped.allFree hnodup.1 hfree') hrest
    refine ⟨fun i => ?_, by omega⟩
    rw [hbooked, needOf_cons]
    by_cases hi : i = p.1
    · have hnonneg := b.bookedFor_nonneg call.warehouseId p.1 call.ref
      have hnone : needOf needs p.1 = 0 := by
        unfold needOf
        rw [Dict.lookup_eq_none hnodup.1]
        rfl
      rw [hi, hshipped.bookedFor_eq, hnone, if_pos rfl]
      omega
    · rw [hshipped.others_eq i hi, if_neg hi]

/-- The guard only reads. -/
theorem enforceOutboundInvariantGuard_run_ok {ref : String} {touched : List SlotKey} {u : Unit}
    (h : (enforceOutboundInvariantGuard ref touched).run b = .ok (u, b')) : b = b' := by
  unfold enforceOutboundInvariantGuard at h
  simp only [Tx.run_bind_ok, Tx.run_get_ok, Tx.run_failIf_ok] at h
  obtain ⟨_, _, ⟨rfl, rfl⟩, -, rfl⟩ := h
  rfl

/-- A loop that succeeds has met no item whose lots have codes. -/
theorem shipItems_policies {needs : List (ℕ × ℤ)}
    (h : (needs.foldlM (shipItem env call policies) st).run b = .ok (st', b')) :
    ∀ p ∈ needs, ¬RequiresBatch policies p.1 := by
  induction needs generalizing b st with
  | nil => simp
  | cons p needs ih =>
    rw [List.foldlM_cons, Tx.run_bind_ok] at h
    obtain ⟨st₁, b₁, hitem, hrest⟩ := h
    exact List.forall_mem_cons.mpr ⟨(shipItem_run_iff.mp hitem).1, ih hrest⟩

/-- The loop over items of which nothing is missing does nothing. -/
theorem shipItems_run_iff_of_missing {needs : List (ℕ × ℤ)}
    (hnone : ∀ p ∈ needs, call.missing b p ≤ 0) :
    (needs.foldlM (shipItem env call policies) st).run b = .ok (st', b') ↔
      (∀ p ∈ needs, ¬RequiresBatch policies p.1) ∧ st = st' ∧ b = b' := by
  induction needs generalizing st with
  | nil => simpa using Tx.run_pure_ok
  | cons p needs ih =>
    obtain ⟨hp, hneeds⟩ := List.forall_mem_cons.mp hnone
    rw [List.foldlM_cons, Tx.run_bind_ok, List.forall_mem_cons]
    constructor
    · rintro ⟨st₁, b₁, hitem, hrest⟩
      obtain ⟨hpolicy, ⟨-, rfl, rfl⟩ | ⟨hneed, -⟩⟩ := shipItem_run_iff.mp hitem
      · obtain ⟨hpolicies, hsame⟩ := (ih hneeds).mp hrest
        exact ⟨⟨hpolicy, hpolicies⟩, hsame⟩
      · exact absurd hneed (not_lt.mpr hp)
    · rintro ⟨⟨hpolicy, hpolicies⟩, hsame⟩
      exact ⟨st, b, shipItem_run_iff.mpr ⟨hpolicy, .inl ⟨hp, rfl, rfl⟩⟩,
        (ih hneeds).mpr ⟨hpolicies, hsame⟩⟩

/-! ## The whole call -/

/-- No movement that the call makes finds its ledger key taken. -/
def ShipCall.Fresh (call : ShipCall) (b : Books) : Prop :=
  call.AllFree b (needByItem call.lines) 1

instance (call : ShipCall) (b : Books) : Decidable (call.Fresh b) :=
  inferInstanceAs (Decidable (call.AllFree b (needByItem call.lines) 1))

variable {answer : ShipAnswer}

/-- A successful call had nothing to ship, or its loop has succeeded. -/
theorem shipCommitDirect_run_ok (h : (shipCommitDirect env call).run b = .ok (answer, b')) :
    (needByItem call.lines = [] ∧ answer = ⟨true, false, call.ref, 0⟩ ∧ b = b') ∨
      ∃ policies st, env.pms.getItemPolicies ((needByItem call.lines).map Prod.fst) =
          .ok policies ∧ (∀ p ∈ needByItem call.lines, policies p.1 ≠ none) ∧
        ((needByItem call.lines).foldlM (shipItem env call policies) ⟨true, 0, []⟩).run b =
          .ok (st, b') ∧ answer.totalQty = st.total := by
  unfold shipCommitDirect at h
  simp only at h
  split at h
  · rename_i hnil
    obtain ⟨hanswer, rfl⟩ := Tx.run_pure_ok.mp h
    exact .inl ⟨hnil, hanswer.symm, rfl⟩
  · simp only [Tx.run_bind_ok, Tx.run_ofExcept_ok, Tx.run_failIf_ok, Tx.run_pure_ok] at h
    obtain ⟨policies, _, ⟨hpolicies, rfl⟩, _, _, ⟨hknown, rfl⟩, st, b₁, hloop, _, b₂, hguard, rfl,
      rfl⟩ := h
    obtain rfl := enforceOutboundInvariantGuard_run_ok hguard
    refine .inr ⟨policies, st, hpolicies, fun p hp hnone => hknown ?_, hloop, rfl⟩
    refine List.ne_nil_of_mem (a := p.1) (List.mem_filter.mpr ⟨?_, by simpa using hnone⟩)
    rw [List.mem_insertionSort]
    exact List.mem_map_of_mem hp

/-- A call that finds its keys free books what it wants, as far as that was not booked
before, and reports what it has taken from stock. -/
theorem shipCommitDirect_books (href : Varchar.Verbatim 128 call.ref) (hfresh : call.Fresh b)
    (h : (shipCommitDirect env call).run b = .ok (answer, b')) :
    (∀ i, b'.bookedFor call.warehouseId i call.ref =
      max (call.wanted i) (b.bookedFor call.warehouseId i call.ref)) ∧
      answer.totalQty = b.onHand - b'.onHand := by
  obtain ⟨hnodup, hneed⟩ := needByItem_spec call.lines
  rcases shipCommitDirect_run_ok h with ⟨hnil, rfl, rfl⟩ | ⟨policies, st, -, -, hloop, htotal⟩
  · refine ⟨fun i => ?_, (sub_self _).symm⟩
    have hwanted : call.wanted i = 0 := (hneed i).symm.trans (by rw [hnil]; rfl)
    rw [hwanted, max_eq_right (b.bookedFor_nonneg _ i _)]
  · obtain ⟨hbooked, hsum⟩ := shipItems_run_ok href hnodup (by exact hfresh) hloop
    refine ⟨fun i => ?_, by rw [htotal, hsum, zero_add]⟩
    rw [hbooked, hneed]
    rfl

/-- Everything that the call wants is booked. -/
def ShipCall.Satisfied (call : ShipCall) (b : Books) : Prop :=
  ∀ i, call.wanted i ≤ b.bookedFor call.warehouseId i call.ref

theorem ShipCall.Satisfied.missing_le (h : call.Satisfied b) :
    ∀ p ∈ needByItem call.lines, call.missing b p ≤ 0 := by
  intro p hp
  obtain ⟨hnodup, hneed⟩ := needByItem_spec call.lines
  have hwanted : call.wanted p.1 = p.2 := by
    refine (hneed p.1).symm.trans ?_
    unfold needOf
    rw [Dict.lookup_of_mem hnodup hp]
    rfl
  have hle := h p.1
  unfold Books.bookedFor at hle
  unfold ShipCall.missing
  omega

/-- A call whose wants are booked changes nothing, whatever the product master answers. -/
theorem shipCommitDirect_attempt_of_satisfied (h : call.Satisfied b) :
    (shipCommitDirect env call).attempt b = b := by
  rcases Tx.attempt_cases (shipCommitDirect env call) b with hsame | ⟨answer, hrun⟩
  · exact hsame
  · rcases shipCommitDirect_run_ok hrun with ⟨-, -, hb⟩ | ⟨policies, st, -, -, hloop, -⟩
    · exact hb.symm
    · exact ((shipItems_run_iff_of_missing h.missing_le).mp hloop).2.2.symm

/-- A successful call is accepted when it is repeated with everything booked, and then
reports that nothing was done. -/
theorem shipCommitDirect_run_of_satisfied {b₀ : Books} (h : call.Satisfied b)
    (hrun : (shipCommitDirect env call).run b₀ = .ok (answer, b')) :
    (shipCommitDirect env call).run b = .ok (⟨true, false, call.ref, 0⟩, b) := by
  rcases shipCommitDirect_run_ok hrun with ⟨hnil, -, -⟩ | ⟨policies, st, hpms, hknown, hloop, -⟩
  · unfold shipCommitDirect
    simp only [hnil, if_true]
    exact Tx.run_pure_ok.mpr ⟨rfl, rfl⟩
  · unfold shipCommitDirect
    simp only
    split
    · exact Tx.run_pure_ok.mpr ⟨rfl, rfl⟩
    · simp only [Tx.run_bind_ok, Tx.run_ofExcept_ok, Tx.run_failIf_ok, Tx.run_pure_ok]
      refine ⟨policies, b, ⟨hpms, rfl⟩, ⟨⟩, b, ⟨?_, rfl⟩, ⟨true, 0, []⟩, b,
        (shipItems_run_iff_of_missing h.missing_le).mpr ⟨shipItems_policies hloop, rfl, rfl⟩, ⟨⟩, b,
        ?_, rfl, rfl⟩
      · rw [not_not, List.filter_eq_nil_iff]
        intro i hi
        rw [List.mem_insertionSort] at hi
        obtain ⟨p, hp, rfl⟩ := List.mem_map.mp hi
        simpa using hknown p hp
      · unfold enforceOutboundInvariantGuard
        simp only [Tx.run_bind_ok, Tx.run_get_ok, Tx.run_failIf_ok]
        exact ⟨b, b, ⟨rfl, rfl⟩, by simp, rfl⟩

/-! ## Later calls -/

/-- Nothing that was booked under the reference is taken back. -/
def BookedMore (ref : String) (b b' : Books) : Prop :=
  ∀ w i, b.bookedFor w i ref ≤ b'.bookedFor w i ref

instance (ref : String) : IsPreorder Books (BookedMore ref) where
  refl _ _ _ := le_rfl
  trans _ _ _ hab hbc w i := (hab w i).trans (hbc w i)

theorem shipMissing_bookedMore (href : Varchar.Verbatim 128 call.ref) (st : ShipProgress)
    (itemId : ℕ) (need : ℤ) (ref : String) :
    Tx.Follows (BookedMore ref) (shipMissing env call st itemId need) := by
  intro b st' b' h
  unfold shipMissing at h
  simp only [Tx.run_bind_ok, Tx.run_get_ok, Tx.run_demand_ok, Tx.run_failIf_ok,
    Tx.run_pure_ok] at h
  obtain ⟨_, _, ⟨rfl, rfl⟩, slot, _, ⟨hslot, rfl⟩, _, _, ⟨htake, rfl⟩, out, b₁, hadjust, _, _,
    ⟨rfl, rfl⟩, _, _, ⟨-, rfl⟩, -, rfl⟩ := h
  have hdelta : (call.adjustCall slot.1 (min need slot.2) (st.effects.length + 1)).delta ≠ 0 := by
    change -min need slot.2 ≠ 0
    omega
  have hverbatim : (call.adjustCall slot.1 (min need slot.2)
      (st.effects.length + 1)).Verbatim :=
    ⟨.inl (by change "SHIPMENT".length ≤ 32; decide), href⟩
  rcases adjustLot_cases hadjust with ⟨rfl, -⟩ | ⟨a, hprep, -, ⟨row, hrec, -⟩ | ⟨-, hiff⟩⟩
  · exact refl_of (BookedMore ref) _
  · intro w i
    have hrow : row.delta = -min need slot.2 :=
      hrec.delta_eq.trans (prepareAdjustment_eq_some hprep).2.1
    rw [hrec.moved.bookedFor_eq (by omega) w i ref]
    split <;> omega
  · exact absurd (hiff.mpr hdelta) (hverbatim.not_swallowed b)

/-- A call never takes back what was booked. -/
theorem shipCommitDirect_bookedMore (href : Varchar.Verbatim 128 call.ref) (ref : String) :
    Tx.Follows (BookedMore ref) (shipCommitDirect env call) := by
  intro b answer b' h
  rcases shipCommitDirect_run_ok h with ⟨-, -, rfl⟩ | ⟨policies, st, -, -, hloop, -⟩
  · exact refl_of (BookedMore ref) _
  · refine Tx.follows_foldlM _ (fun st p => ?_) _ b st b' hloop
    intro b st' b' hitem
    rcases (shipItem_run_iff.mp hitem).2 with ⟨-, -, rfl⟩ | ⟨-, hrun⟩
    · exact refl_of (BookedMore ref) _
    · exact shipMissing_bookedMore href st p.1 _ ref b st' b' hrun

end Wms

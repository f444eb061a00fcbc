import Wms.Stock.Expiry
import Wms.Stock.Ledger

/-!
# Adjusting a lot

`adjust_lot_impl` is the entry point for movements of a single lot: it checks the
request, looks for a ledger row with the same idempotency key, locks the balance,
writes the ledger and sets the balance. The steps are separate functions, so that the
same ones make up a call that runs alone and a call that is interleaved with others.
-/

namespace Wms

open Foundation Foundation.Journal

/-! ## Writing the ledger -/

/-- `_canon_reason`. -/
def canonReason (reason : String) : Option ReasonCanon :=
  let r := upper (strip reason)
  if r ∈ ["RECEIPT", "INBOUND", "RECEIVE", "RETURN", "RETURN_IN", "RETURN_CUSTOMER", "RMA_IN"] then
    some .receipt
  else if r ∈ ["SHIPMENT", "SHIP", "OUTBOUND", "OUTBOUND_SHIP", "OUTBOUND_COMMIT", "DISPATCH",
      "RETURN_OUT", "RTV"] then
    some .shipment
  else if r ∈ ["ADJUSTMENT", "ADJUST", "COUNT", "PICK", "PACK", "SCRAP", "CORRECT",
      "MANUAL_ADJUST"] then
    some .adjustment
  else none

/-- The values as `write_ledger` completes them: the reason in its canonical form, and
dates on receipts only. -/
def LedgerValues.canonical (v : LedgerValues) : LedgerValues :=
  let canon := canonReason v.reason
  if canon = some .receipt then { v with reasonCanon := canon }
  else { v with reasonCanon := canon, productionDate := none, expiryDate := none }

/-- The columns of a stored row that are still empty, filled from a new one. -/
def LedgerRow.fill (old new : LedgerRow) : Option LedgerRow :=
  if h : (∀ c ∈ old.reasonCanon <|> new.reasonCanon, c = .receipt) ∨
      ((old.productionDate <|> new.productionDate) = none ∧
        (old.expiryDate <|> new.expiryDate) = none) then
    some {
      old with
      reasonCanon := old.reasonCanon <|> new.reasonCanon
      subReason := old.subReason <|> new.subReason
      traceId := old.traceId <|> new.traceId
      eventId := old.eventId <|> new.eventId
      productionDate := old.productionDate <|> new.productionDate
      expiryDate := old.expiryDate <|> new.expiryDate
      dates_only_on_receipt := h }
  else none

/-- The row has the idempotency key of the values, compared as the texts are given. -/
def LedgerRow.HasKeyOf (r : LedgerRow) (v : LedgerValues) : Prop :=
  r.slot = v.slot ∧ r.reason.text = v.reason ∧ r.ref.text = v.ref ∧ r.refLine = v.refLine

instance (r : LedgerRow) (v : LedgerValues) : Decidable (r.HasKeyOf v) :=
  inferInstanceAs (Decidable (_ ∧ _))

/-- The row as the patch of a repeated write leaves it. -/
def LedgerRow.patch (r : LedgerRow) (v : LedgerValues) (new : LedgerRow) : LedgerRow :=
  if r.HasKeyOf v then (r.fill new).getD r else r

/-- Filling empty columns keeps the key, the amount and the balance of a row. -/
theorem LedgerRow.fill_keeps {old new r : LedgerRow} (h : old.fill new = some r) :
    (r.reason = old.reason ∧ r.ref = old.ref ∧ r.refLine = old.refLine ∧ r.slot = old.slot) ∧
      r.posting = old.posting := by
  unfold LedgerRow.fill at h
  split at h
  · cases h
    exact ⟨⟨rfl, rfl, rfl, rfl⟩, rfl⟩
  · cases h

theorem LedgerRow.patch_keeps (r : LedgerRow) (v : LedgerValues) (new : LedgerRow) :
    ((r.patch v new).reason = r.reason ∧ (r.patch v new).ref = r.ref ∧
      (r.patch v new).refLine = r.refLine ∧ (r.patch v new).slot = r.slot) ∧
      (r.patch v new).posting = r.posting := by
  unfold LedgerRow.patch
  split
  · cases hfill : r.fill new with
    | none => exact ⟨⟨rfl, rfl, rfl, rfl⟩, rfl⟩
    | some r' => exact LedgerRow.fill_keeps hfill
  · exact ⟨⟨rfl, rfl, rfl, rfl⟩, rfl⟩

theorem LedgerRow.sameKey_of_patch {v : LedgerValues} {new a b : LedgerRow}
    (h : (a.patch v new).SameKey (b.patch v new)) : a.SameKey b := by
  obtain ⟨⟨ha₁, ha₂, ha₃, ha₄⟩, -⟩ := a.patch_keeps v new
  obtain ⟨⟨hb₁, hb₂, hb₃, hb₄⟩, -⟩ := b.patch_keeps v new
  unfold LedgerRow.SameKey at h ⊢
  rwa [ha₁, ha₂, ha₃, ha₄, hb₁, hb₂, hb₃, hb₄] at h

/-- `write_ledger`: a row whose key is already there is not inserted again, only the
empty columns of the stored row are filled. The answer says whether a row was added. -/
def writeLedger (knownEvents : List ℕ) (v : LedgerValues) : Tx Books Err Bool := do
  let b ← get
  Tx.ofExcept (assertLotBelongsTo b v.slot)
  let new ← Tx.ofExcept v.canonical.row
  match b.stockLedger.insert new with
  | some t => do
    Tx.ofExcept (checkLedgerReferences knownEvents b new)
    set (b.putLedger t)
    return true
  | none => do
    Tx.failIf (∃ r ∈ b.stockLedger.rows, r.HasKeyOf v ∧ r.fill new = none)
      (.integrityError "ck_ledger_dates_only_on_receipt")
    Tx.failIf (∃ r ∈ b.stockLedger.rows, r.HasKeyOf v ∧ r.eventId = none ∧
      ¬∀ e ∈ new.eventId, e ∈ knownEvents) (.integrityError "fk_stock_ledger_event")
    set (b.putLedger (b.stockLedger.map (fun r => r.patch v new) fun _ _ =>
      LedgerRow.sameKey_of_patch))
    return false

/-! ## The request -/

/-- The entries of `meta` that a movement reads. -/
structure AdjustMeta where
  allowZeroDeltaLedger : Bool
  subReason : Option String
  eventId : Option ℤ

/-- The arguments of `adjust_lot_impl`. -/
structure AdjustCall where
  itemId : ℕ
  warehouseId : ℕ
  lotId : Option ℕ
  delta : ℤ
  reason : String
  ref : String
  refLine : Option ℤ
  occurredAt : Option ℤ
  info : AdjustMeta
  lotCode : Option String
  productionDate : Option Date
  expiryDate : Option Date
  traceId : Option String

/-- What a movement takes from its surroundings: the product master, the events that a
ledger row may refer to, and the clock. -/
structure AdjustEnv where
  pms : PmsClient
  knownEvents : List ℕ
  utcNow : ℤ

/-- A request that has passed its checks. -/
structure Adjustment where
  slot : SlotKey
  delta : ℤ
  reason : String
  ref : String
  refLine : ℤ
  occurredAt : ℤ
  subReason : Option String
  eventId : Option ℕ
  traceId : Option String
  productionDate : Option Date
  expiryDate : Option Date

/-- The answer of `adjust_lot_impl`. -/
inductive AdjustOutcome
  /-- Nothing was to be done, or it had been done before. -/
  | skipped
  /-- The balance before and after the movement. -/
  | applied (before after : ℤ)
  deriving DecidableEq, Repr

/-- `norm_lot_code`. -/
def normLotCode (lotCode : Option String) : Option String :=
  match lotCode with
  | none => none
  | some code => if strip code = "" ∨ lower (strip code) = "none" then none else some (strip code)

/-- `_meta_int`. -/
def metaInt (value : Option ℤ) : Option ℕ :=
  value.bind fun iv => if 0 < iv then some iv.toNat else none

/-- The checks that come before the first statement on stock. A request for no change
that need not be recorded is answered at once. -/
def prepareAdjustment (env : AdjustEnv) (call : AdjustCall) (b : Books) :
    Except Err (Option Adjustment) :=
  let subReason := cleanText call.info.subReason
  if call.delta = 0 ∧ call.info.allowZeroDeltaLedger = false then .ok none
  else if call.delta = 0 ∧ subReason = none then
    .error (.valueError "delta==0 记账必须提供 meta.sub_reason（例如 COUNT_ADJUST）")
  else
    match call.lotId with
    | none => .error (.valueError "lot_id is required in lot-only world.")
    | some lotId => do
      match ← env.pms.getItemPolicy call.itemId with
      | none => .error (.valueError "item_not_found")
      | some policy =>
        if policy.expiryPolicy = .required ∧ lotId = 0 then
          .error (.valueError "批次受控商品必须指定 lot_id。")
        else do
          let slot : SlotKey := ⟨call.warehouseId, call.itemId, lotId⟩
          assertLotBelongsTo b slot
          let dates ← resolveAndValidateDatesForInbound env.pms call.itemId call.delta
            (normLotCode call.lotCode) call.productionDate call.expiryDate
          return some {
            slot := slot, delta := call.delta, reason := call.reason, ref := call.ref
            refLine := call.refLine.getD 1, occurredAt := call.occurredAt.getD env.utcNow
            subReason := subReason, eventId := metaInt call.info.eventId
            traceId := call.traceId, productionDate := dates.1, expiryDate := dates.2 }

namespace Adjustment

/-- The ledger values of a movement that leaves the given balance. -/
def values (a : Adjustment) (after : ℤ) : LedgerValues where
  slot := a.slot
  reason := a.reason
  reasonCanon := none
  subReason := a.subReason
  ref := a.ref
  refLine := a.refLine
  delta := a.delta
  afterQty := after
  occurredAt := a.occurredAt
  traceId := a.traceId
  eventId := a.eventId
  productionDate := a.productionDate
  expiryDate := a.expiryDate

/-- `idem_hit_by_lot_key`: a ledger row already has the key of the movement. -/
def IdemHit (b : Books) (a : Adjustment) : Prop :=
  ∃ r ∈ b.stockLedger.rows, r.HasKeyOf (a.values 0)

instance (b : Books) (a : Adjustment) : Decidable (a.IdemHit b) :=
  inferInstanceAs (Decidable (∃ r ∈ b.stockLedger.rows, _))

/-- The balance that the movement leaves. -/
def newQty (a : Adjustment) (before : ℤ) : Except Err ℤ :=
  if a.delta = 0 then .ok before
  else if before + a.delta < 0 then
    .error (.valueError s!"insufficient stock(lot): before={before}, delta={a.delta}")
  else .ok (before + a.delta)

/-- The statements on stock of a movement that has not been done before. -/
def book (knownEvents : List ℕ) (a : Adjustment) : Tx Books Err AdjustOutcome := do
  ensureSlot a.slot
  let before? ← lockSlot a.slot
  let before ← Tx.demand before? (.valueError
    s!"stocks_lot slot missing for item={a.slot.itemId}, wh={a.slot.warehouseId}, lot_id={a.slot.lotId}")
  let after ← Tx.ofExcept (a.newQty before)
  let _ ← writeLedger knownEvents (a.values after)
  if a.delta ≠ 0 then setSlotQty a.slot after
  return .applied before after

end Adjustment

/-- `adjust_lot_impl`. -/
def adjustLot (env : AdjustEnv) (call : AdjustCall) : Tx Books Err AdjustOutcome := do
  let b ← get
  match ← Tx.ofExcept (prepareAdjustment env call b) with
  | none => return .skipped
  | some a => if a.IdemHit b then return .skipped else a.book env.knownEvents

/-! ## What a movement does -/

variable {env : AdjustEnv} {call : AdjustCall} {a : Adjustment} {b b' : Books}

theorem LedgerValues.canonical_slot (v : LedgerValues) :
    v.canonical.slot = v.slot ∧ v.canonical.reason = v.reason ∧ v.canonical.ref = v.ref ∧
      v.canonical.refLine = v.refLine ∧ v.canonical.delta = v.delta ∧
      v.canonical.afterQty = v.afterQty ∧ v.canonical.eventId = v.eventId := by
  unfold LedgerValues.canonical
  simp only
  split <;> exact ⟨rfl, rfl, rfl, rfl, rfl, rfl, rfl⟩

/-- A write either adds the row, or finds its key taken and fills empty columns. -/
theorem writeLedger_run_ok {knownEvents : List ℕ} {v : LedgerValues} {inserted : Bool} :
    (writeLedger knownEvents v).run b = .ok (inserted, b') →
      ∃ new, v.canonical.row = .ok new ∧ b.HasLot v.slot ∧
        ((inserted = true ∧ ∃ t, b.stockLedger.insert new = some t ∧ b.putLedger t = b') ∨
          (inserted = false ∧ b.stockLedger.insert new = none ∧
            b.putLedger (b.stockLedger.map (fun r => r.patch v new) fun _ _ =>
              LedgerRow.sameKey_of_patch) = b')) := by
  unfold writeLedger
  simp only [Tx.run_bind_ok, Tx.run_get_ok, Tx.run_ofExcept_ok]
  rintro ⟨_, _, ⟨rfl, rfl⟩, _, _, ⟨hlot, rfl⟩, new, _, ⟨hnew, rfl⟩, h⟩
  refine ⟨new, hnew, hasLot_of_assertLotBelongsTo hlot, ?_⟩
  cases hinsert : b.stockLedger.insert new with
  | some t =>
    simp only [hinsert, Tx.run_bind_ok, Tx.run_ofExcept_ok, Tx.run_set_ok, Tx.run_pure_ok] at h
    obtain ⟨_, _, ⟨-, rfl⟩, _, _, rfl, rfl, rfl⟩ := h
    exact .inl ⟨rfl, t, rfl, rfl⟩
  | none =>
    simp only [hinsert, Tx.run_bind_ok, Tx.run_failIf_ok, Tx.run_set_ok, Tx.run_pure_ok] at h
    obtain ⟨_, _, ⟨-, rfl⟩, _, _, ⟨-, rfl⟩, _, _, rfl, rfl, rfl⟩ := h
    exact .inr ⟨rfl, rfl, rfl⟩

theorem Adjustment.newQty_eq_ok {before after : ℤ} (h : a.newQty before = .ok after) :
    after = before + a.delta := by
  unfold Adjustment.newQty at h
  split at h
  · rename_i hzero
    cases h
    rw [hzero, add_zero]
  · split at h
    · cases h
    · cases h
      rfl

/-- The effect of a movement that has added a ledger row. -/
structure Recorded (b : Books) (a : Adjustment) (row : LedgerRow) (b' : Books) : Prop where
  /-- The row has the values of the movement and the balance it leaves. -/
  row_eq : (a.values (b.stock a.slot + a.delta)).canonical.row = .ok row
  hasLot : b.HasLot a.slot
  lots_eq : b'.lots = b.lots
  /-- The row is the last one of the ledger. -/
  ledger_eq : b'.stockLedger.rows = b.stockLedger.rows ++ [row]
  /-- Only the balance of the slot has changed, by the amount of the movement. -/
  stock_eq : b'.stock = Function.update b.stock a.slot (b.stock a.slot + a.delta)

namespace Recorded

variable {row : LedgerRow}

theorem slot_eq (h : Recorded b a row b') : row.slot = a.slot :=
  (LedgerValues.row_eq_ok h.row_eq).1.trans (a.values _).canonical_slot.1

theorem delta_eq (h : Recorded b a row b') : row.delta = a.delta :=
  (LedgerValues.row_eq_ok h.row_eq).2.2.1.trans (a.values _).canonical_slot.2.2.2.2.1

theorem afterQty_eq (h : Recorded b a row b') : row.afterQty = b.stock a.slot + a.delta :=
  (LedgerValues.row_eq_ok h.row_eq).2.2.2.1.trans (a.values _).canonical_slot.2.2.2.2.2.1

theorem refLine_eq (h : Recorded b a row b') : row.refLine = a.refLine :=
  (LedgerValues.row_eq_ok h.row_eq).2.1.trans (a.values _).canonical_slot.2.2.2.1

theorem eventId_eq (h : Recorded b a row b') : row.eventId = a.eventId :=
  (LedgerValues.row_eq_ok h.row_eq).2.2.2.2.2.1.trans
    (a.values _).canonical_slot.2.2.2.2.2.2

theorem reason_eq (h : Recorded b a row b') : Varchar.store 32 a.reason = .ok row.reason := by
  have hstore := (LedgerValues.row_eq_ok h.row_eq).2.2.2.2.2.2.1
  rwa [(a.values _).canonical_slot.2.1] at hstore

theorem ref_eq (h : Recorded b a row b') : Varchar.store 128 a.ref = .ok row.ref := by
  have hstore := (LedgerValues.row_eq_ok h.row_eq).2.2.2.2.2.2.2
  rwa [(a.values _).canonical_slot.2.2.1] at hstore

/-- A recorded movement moves balance and ledger together. -/
theorem moved (h : Recorded b a row b') : Moved b [row] b' := by
  refine Moved.single h.lots_eq h.ledger_eq ?_ ?_
  · rw [h.slot_eq, h.delta_eq, h.afterQty_eq]
  · rw [h.slot_eq, h.afterQty_eq, h.stock_eq]

end Recorded

/-- Creating a missing balance changes neither stock nor ledger nor lots. -/
theorem ensureSlot_keeps {k : SlotKey} {u : PUnit} (h : (ensureSlot k).run b = .ok (u, b')) :
    k ∈ b'.stocksLot ∧ b'.stock = b.stock ∧ b'.stockLedger = b.stockLedger ∧
      b'.lots = b.lots := by
  rcases ensureSlot_run_ok.mp h with ⟨hmem, rfl⟩ | ⟨hmem, hlot, rfl⟩
  · exact ⟨hmem, rfl, rfl, rfl⟩
  · refine ⟨(AList.mem_insert _).mpr (Or.inl rfl), ?_, rfl, rfl⟩
    rw [Books.putQty_stock, ← Books.stock_of_notMem hmem, Function.update_eq_self]

/-- The effect of a movement whose ledger row was refused as a repetition: the balance
is set all the same. -/
structure Overwritten (b : Books) (a : Adjustment) (b' : Books) : Prop where
  lots_eq : b'.lots = b.lots
  /-- No posting was added. -/
  journal_eq : b'.journal = b.journal
  stock_eq : b'.stock = Function.update b.stock a.slot (b.stock a.slot + a.delta)

/-- Filling empty columns adds no posting. -/
theorem journal_patch (b : Books) (v : LedgerValues) (new : LedgerRow) :
    (b.putLedger (b.stockLedger.map (fun r => r.patch v new) fun _ _ =>
      LedgerRow.sameKey_of_patch)).journal = b.journal := by
  unfold Books.journal
  rw [Books.putLedger_stockLedger, Table.rows_map, List.map_map]
  exact List.map_congr_left fun r _ => (r.patch_keeps v new).2

/-- The statements that follow the write of the ledger set the balance. -/
theorem Adjustment.setQty_run_ok {before after : ℤ} {out : AdjustOutcome}
    (h : ((if a.delta ≠ 0 then do
        setSlotQty a.slot after
        return .applied before after
      else return .applied before after) : Tx Books Err AdjustOutcome).run b = .ok (out, b'))
    (hmem : a.slot ∈ b.stocksLot) (hafter : after = b.stock a.slot + a.delta) :
    b'.lots = b.lots ∧ b'.stockLedger = b.stockLedger ∧
      b'.stock = Function.update b.stock a.slot (b.stock a.slot + a.delta) := by
  by_cases hdelta : a.delta = 0
  · -- a zero movement is recorded without setting the balance
    rw [if_neg (not_not.mpr hdelta)] at h
    obtain ⟨-, rfl⟩ := Tx.run_pure_ok.mp h
    refine ⟨rfl, rfl, ?_⟩
    rw [hdelta, add_zero, Function.update_eq_self]
  · rw [if_pos hdelta] at h
    simp only [Tx.run_bind_ok, Tx.run_pure_ok] at h
    obtain ⟨_, _, hset, -, rfl⟩ := h
    obtain ⟨-, rfl⟩ := (setSlotQty_run_ok hmem).mp hset
    exact ⟨rfl, rfl, by rw [Books.putQty_stock, hafter]⟩

/-- The statements of a movement either record it, or find its key already in the
ledger; in that case the row is not added but the balance is set all the same. -/
theorem Adjustment.book_run_ok {knownEvents : List ℕ} {out : AdjustOutcome}
    (h : (a.book knownEvents).run b = .ok (out, b')) :
    ∃ new, (a.values (b.stock a.slot + a.delta)).canonical.row = .ok new ∧
      ((∃ t, b.stockLedger.insert new = some t ∧ Recorded b a new b') ∨
        (b.stockLedger.insert new = none ∧ Overwritten b a b')) := by
  unfold Adjustment.book at h
  simp only [Tx.run_bind_ok] at h
  obtain ⟨_, b₁, hensure, before?, _, hlock, before, _, hdemand, after, _, hnewQty, ins, b₃,
    hwrite, hrest⟩ := h
  obtain ⟨hmem, hstock, hledger, hlots⟩ := ensureSlot_keeps hensure
  obtain ⟨rfl, rfl⟩ := lockSlot_run_ok.mp hlock
  obtain ⟨hbefore, rfl⟩ := Tx.run_demand_ok.mp hdemand
  obtain ⟨hafter, rfl⟩ := Tx.run_ofExcept_ok.mp hnewQty
  have hqty : after = b.stock a.slot + a.delta := by
    rw [newQty_eq_ok hafter, ← Books.stock_of_lookup hbefore, hstock]
  obtain ⟨new, hnew, hlot, hcases⟩ := writeLedger_run_ok hwrite
  rw [hqty] at hnew
  refine ⟨new, hnew, ?_⟩
  rcases hcases with ⟨-, t, ht, rfl⟩ | ⟨-, hnone, rfl⟩
  · have hhas : b.HasLot a.slot := by
      unfold Books.HasLot
      rw [← hlots]
      exact hlot
    have hrows : t.rows = b.stockLedger.rows ++ [new] := by
      rw [← hledger]
      exact (Table.insert_eq_some.mp ht).2
    obtain ⟨hlots', hledger', hstock'⟩ := Adjustment.setQty_run_ok hrest hmem
      (by rw [Books.putLedger_stock, hstock, hqty])
    refine .inl ⟨t, by rw [← hledger]; exact ht, hnew, hhas, hlots'.trans hlots, ?_, ?_⟩
    · rw [hledger', Books.putLedger_stockLedger, hrows]
    · rw [hstock', Books.putLedger_stock, hstock]
  · obtain ⟨hlots', hledger', hstock'⟩ := Adjustment.setQty_run_ok hrest hmem
      (by rw [Books.putLedger_stock, hstock, hqty])
    refine .inr ⟨by rw [← hledger]; exact hnone, hlots'.trans hlots, ?_, ?_⟩
    · have hjournal := journal_patch b₁ (a.values after) new
      unfold Books.journal at hjournal ⊢
      rw [hledger', hjournal, hledger]
    · rw [hstock', Books.putLedger_stock, hstock]

/-- The statements of a movement answer with the balances before and after it. -/
theorem Adjustment.book_answer {knownEvents : List ℕ} {out : AdjustOutcome}
    (h : (a.book knownEvents).run b = .ok (out, b')) :
    out = .applied (b.stock a.slot) (b.stock a.slot + a.delta) := by
  unfold Adjustment.book at h
  simp only [Tx.run_bind_ok] at h
  obtain ⟨_, b₁, hensure, before?, _, hlock, before, _, hdemand, after, _, hnewQty, ins, b₃, -,
    hrest⟩ := h
  obtain ⟨-, hstock, -, -⟩ := ensureSlot_keeps hensure
  obtain ⟨rfl, rfl⟩ := lockSlot_run_ok.mp hlock
  obtain ⟨hbefore, rfl⟩ := Tx.run_demand_ok.mp hdemand
  obtain ⟨hafter, rfl⟩ := Tx.run_ofExcept_ok.mp hnewQty
  have hqty : before = b.stock a.slot := by rw [← hstock, Books.stock_of_lookup hbefore]
  have hout : out = .applied before after := by
    split at hrest
    · simp only [Tx.run_bind_ok, Tx.run_pure_ok] at hrest
      obtain ⟨_, _, -, hanswer, -⟩ := hrest
      exact hanswer.symm
    · exact (Tx.run_pure_ok.mp hrest).1.symm
  rw [hout, newQty_eq_ok hafter, hqty]

/-! ### The probe and the unique key -/

theorem Adjustment.idemHit_iff :
    a.IdemHit b ↔ b.HasKey a.slot a.reason a.ref a.refLine := Iff.rfl

/-- The ledger refuses a row exactly when its stored key is taken. -/
theorem Adjustment.insert_eq_none_iff {new : LedgerRow} {after : ℤ}
    (hnew : (a.values after).canonical.row = .ok new) :
    b.stockLedger.insert new = none ↔ b.HasStoredKey a.slot a.reason a.ref a.refLine := by
  obtain ⟨hslot, hline, -, -, -, -, hreason, href⟩ := LedgerValues.row_eq_ok hnew
  obtain ⟨hcslot, hcreason, hcref, hcline, -, -, -⟩ := (a.values after).canonical_slot
  rw [hcslot] at hslot
  rw [hcline] at hline
  rw [hcreason] at hreason
  rw [hcref] at href
  change new.slot = a.slot at hslot
  change new.refLine = a.refLine at hline
  change Varchar.store 32 a.reason = .ok new.reason at hreason
  change Varchar.store 128 a.ref = .ok new.ref at href
  rw [Table.insert_eq_none]
  unfold LedgerRow.SameKey Books.HasStoredKey
  rw [hreason, href, ← hslot, ← hline]
  constructor
  · rintro ⟨r, hr, hr₁, hr₂, hr₃, hr₄⟩
    exact ⟨r, hr, hr₄, hr₃, by rw [hr₁], by rw [hr₂]⟩
  · rintro ⟨r, hr, hr₁, hr₂, hr₃, hr₄⟩
    exact ⟨r, hr, (Except.ok.inj hr₃).symm, (Except.ok.inj hr₄).symm, hr₂, hr₁⟩

/-- The reason and the reference of a call reach the ledger as they are, or not at all. -/
def AdjustCall.Verbatim (call : AdjustCall) : Prop :=
  Varchar.Verbatim 32 call.reason ∧ Varchar.Verbatim 128 call.ref

/-- Texts that fit their columns are kept as they are. -/
theorem AdjustCall.verbatim_of_fits (hreason : call.reason.length ≤ 32)
    (href : call.ref.length ≤ 128) : call.Verbatim :=
  ⟨.inl hreason, .inl href⟩

/-- The ledger has a row with the key of the call as it is stored, but the probe, which
compares the texts as they are given, does not find it. -/
def AdjustCall.Swallowed (call : AdjustCall) (b : Books) : Prop :=
  call.delta ≠ 0 ∧ ∃ lotId ∈ call.lotId,
    b.HasStoredKey ⟨call.warehouseId, call.itemId, lotId⟩ call.reason call.ref
      (call.refLine.getD 1) ∧
    ¬b.HasKey ⟨call.warehouseId, call.itemId, lotId⟩ call.reason call.ref (call.refLine.getD 1)

/-- For texts that are kept as they are, probe and unique key agree. -/
theorem AdjustCall.Verbatim.not_swallowed (h : call.Verbatim) (b : Books) :
    ¬call.Swallowed b := by
  rintro ⟨-, lotId, -, ⟨r, hr, hslot, hline, hreason, href⟩, hnot⟩
  exact hnot ⟨r, hr, hslot, h.1.text_of_store hreason, h.2.text_of_store href, hline⟩

/-! ### Calls -/

/-- A successful call finds nothing to do, finds its key in the ledger, or carries out
the statements of a movement that the probe did not find. -/
theorem adjustLot_run_ok {out : AdjustOutcome}
    (h : (adjustLot env call).run b = .ok (out, b')) :
    (prepareAdjustment env call b = .ok none ∧ b = b' ∧ out = .skipped) ∨
      ∃ a, prepareAdjustment env call b = .ok (some a) ∧
        ((a.IdemHit b ∧ b = b' ∧ out = .skipped) ∨
          (¬a.IdemHit b ∧ (a.book env.knownEvents).run b = .ok (out, b'))) := by
  unfold adjustLot at h
  simp only [Tx.run_bind_ok, Tx.run_get_ok, Tx.run_ofExcept_ok] at h
  obtain ⟨_, _, ⟨rfl, rfl⟩, prepared, _, ⟨hprep, rfl⟩, hrest⟩ := h
  cases prepared with
  | none =>
    obtain ⟨rfl, rfl⟩ := Tx.run_pure_ok.mp hrest
    exact .inl ⟨hprep, rfl, rfl⟩
  | some a =>
    simp only at hrest
    refine .inr ⟨a, hprep, ?_⟩
    split at hrest
    · rename_i hidem
      obtain ⟨rfl, rfl⟩ := Tx.run_pure_ok.mp hrest
      exact .inl ⟨hidem, rfl, rfl⟩
    · rename_i hidem
      exact .inr ⟨hidem, hrest⟩

/-- What the checks of a request establish. -/
theorem prepareAdjustment_eq_some (h : prepareAdjustment env call b = .ok (some a)) :
    (∃ lotId, call.lotId = some lotId ∧ a.slot = ⟨call.warehouseId, call.itemId, lotId⟩) ∧
      a.delta = call.delta ∧ a.reason = call.reason ∧ a.ref = call.ref ∧
      a.refLine = call.refLine.getD 1 ∧ a.eventId = metaInt call.info.eventId ∧
      b.HasLot a.slot := by
  unfold prepareAdjustment at h
  simp only [bind, Except.bind] at h
  split at h
  · cases h
  · split at h
    · cases h
    · split at h
      · cases h
      · rename_i lotId hlotId
        split at h
        · cases h
        · split at h
          · cases h
          · split at h
            · cases h
            · split at h
              · cases h
              · rename_i hassert
                split at h
                · cases h
                · cases h
                  exact ⟨⟨lotId, hlotId, rfl⟩, rfl, rfl, rfl, rfl, rfl,
                    hasLot_of_assertLotBelongsTo hassert⟩

/-- A request is answered without checks exactly when it asks for nothing. -/
theorem prepareAdjustment_asks {o : Option Adjustment} (h : prepareAdjustment env call b = .ok o) :
    o = none ↔ call.delta = 0 ∧ call.info.allowZeroDeltaLedger = false := by
  unfold prepareAdjustment at h
  simp only [bind, Except.bind] at h
  split at h
  · rename_i hasks
    cases h
    exact ⟨fun _ => hasks, fun _ => rfl⟩
  · rename_i hasks
    refine ⟨fun hnone => ?_, fun hnot => absurd hnot hasks⟩
    rw [hnone] at h
    repeat' split at h
    all_goals cases h

/-- Only a request for no change is answered without checks. -/
theorem prepareAdjustment_eq_none (h : prepareAdjustment env call b = .ok none) :
    call.delta = 0 :=
  ((prepareAdjustment_asks h).mp rfl).1

/-- A successful call changes nothing, is recorded, or overwrites a balance because the
probe has missed the row that the ledger then finds. -/
theorem adjustLot_cases {out : AdjustOutcome}
    (h : (adjustLot env call).run b = .ok (out, b')) :
    (b = b' ∧ ¬call.Swallowed b) ∨
      ∃ a, prepareAdjustment env call b = .ok (some a) ∧ ¬a.IdemHit b ∧
        ((∃ row, Recorded b a row b' ∧ ¬call.Swallowed b) ∨
          (Overwritten b a b' ∧ (call.Swallowed b ↔ call.delta ≠ 0))) := by
  rcases adjustLot_run_ok h with ⟨hprep, hb, -⟩ | ⟨a, hprep, ⟨hidem, hb, -⟩ | ⟨hidem, hbook⟩⟩
  · exact .inl ⟨hb, fun hswallowed => hswallowed.1 (prepareAdjustment_eq_none hprep)⟩
  · obtain ⟨⟨lotId, hlot, hslot⟩, -, hreason, href, hline, -, -⟩ := prepareAdjustment_eq_some hprep
    rw [Adjustment.idemHit_iff, hslot, hreason, href, hline] at hidem
    refine .inl ⟨hb, ?_⟩
    rintro ⟨-, lotId', hlot', -, hnot⟩
    obtain rfl : lotId = lotId' := Option.some.inj (hlot.symm.trans hlot')
    exact hnot hidem
  · refine .inr ⟨a, hprep, hidem, ?_⟩
    obtain ⟨new, hnew, hcases⟩ := Adjustment.book_run_ok hbook
    have htaken := Adjustment.insert_eq_none_iff (b := b) hnew
    obtain ⟨⟨lotId, hlot, hslot⟩, -, hreason, href, hline, -, -⟩ := prepareAdjustment_eq_some hprep
    rw [Adjustment.idemHit_iff, hslot, hreason, href, hline] at hidem
    rw [hslot, hreason, href, hline] at htaken
    rcases hcases with ⟨t, ht, hrec⟩ | ⟨hnone, hover⟩
    · refine .inl ⟨new, hrec, ?_⟩
      rintro ⟨-, lotId', hlot', hstored, -⟩
      obtain rfl : lotId = lotId' := Option.some.inj (hlot.symm.trans hlot')
      rw [htaken.mpr hstored] at ht
      cases ht
    · exact .inr ⟨hover, fun hswallowed => hswallowed.1,
        fun hdelta => ⟨hdelta, lotId, hlot, htaken.mp hnone, hidem⟩⟩

/-- A call that asks for a record finds its key in the ledger and changes nothing, or moves
the balance of its slot by its amount. -/
theorem adjustLot_moves {out : AdjustOutcome} {lotId : ℕ} (hlotId : call.lotId = some lotId)
    (hasks : call.delta ≠ 0 ∨ call.info.allowZeroDeltaLedger = true)
    (h : (adjustLot env call).run b = .ok (out, b')) :
    (b.HasKey ⟨call.warehouseId, call.itemId, lotId⟩ call.reason call.ref
        (call.refLine.getD 1) ∧ b = b' ∧ out = .skipped) ∨
      (¬b.HasKey ⟨call.warehouseId, call.itemId, lotId⟩ call.reason call.ref
          (call.refLine.getD 1) ∧ b'.lots = b.lots ∧
        b'.stock = Function.update b.stock ⟨call.warehouseId, call.itemId, lotId⟩
          (b.stock ⟨call.warehouseId, call.itemId, lotId⟩ + call.delta) ∧
        out = .applied (b.stock ⟨call.warehouseId, call.itemId, lotId⟩)
          (b.stock ⟨call.warehouseId, call.itemId, lotId⟩ + call.delta)) := by
  rcases adjustLot_run_ok h with ⟨hprep, -, -⟩ | ⟨a, hprep, hcases⟩
  · obtain ⟨hdelta, hallow⟩ := (prepareAdjustment_asks hprep).mp rfl
    rcases hasks with hne | htrue
    · exact absurd hdelta hne
    · rw [hallow] at htrue
      cases htrue
  · obtain ⟨⟨lotId', hlot, hslot⟩, hdelta, hreason, href, hline, -, -⟩ :=
      prepareAdjustment_eq_some hprep
    obtain rfl : lotId = lotId' := Option.some.inj (hlotId.symm.trans hlot)
    rw [Adjustment.idemHit_iff, hslot, hreason, href, hline] at hcases
    rcases hcases with ⟨hidem, hb, hout⟩ | ⟨hidem, hbook⟩
    · exact .inl ⟨hidem, hb, hout⟩
    · have hanswer := Adjustment.book_answer hbook
      have hchange : b'.lots = b.lots ∧
          b'.stock = Function.update b.stock a.slot (b.stock a.slot + a.delta) := by
        obtain ⟨new, -, ⟨t, -, hrec⟩ | ⟨-, hover⟩⟩ := Adjustment.book_run_ok hbook
        · exact ⟨hrec.lots_eq, hrec.stock_eq⟩
        · exact ⟨hover.lots_eq, hover.stock_eq⟩
      rw [hslot, hdelta] at hanswer hchange
      exact .inr ⟨hidem, hchange.1, hchange.2, hanswer⟩

/-- A call moves balance and ledger together, in the warehouse it names, unless the
ledger swallows its row. -/
theorem adjustLot_bookedIn {out : AdjustOutcome} (hnot : ¬call.Swallowed b)
    (h : (adjustLot env call).run b = .ok (out, b')) : BookedIn call.warehouseId b b' := by
  rcases adjustLot_cases h with ⟨rfl, -⟩ | ⟨a, hprep, -, ⟨row, hrec, -⟩ | ⟨hover, hiff⟩⟩
  · exact refl_of (BookedIn _) b
  · obtain ⟨⟨lotId, -, hslot⟩, -⟩ := prepareAdjustment_eq_some hprep
    refine .of_moved hrec.moved ?_
    intro r hr
    rw [List.mem_singleton.mp hr, hrec.slot_eq, hslot]
  · have hdelta : a.delta = 0 := by
      rw [(prepareAdjustment_eq_some hprep).2.1]
      exact not_not.mp fun hne => hnot (hiff.mpr hne)
    refine .of_eq ?_ hover.journal_eq
    rw [hover.stock_eq, hdelta, add_zero, Function.update_eq_self]

/-- A swallowed call changes a balance and adds no posting. -/
theorem adjustLot_overwrites {out : AdjustOutcome} (hswallowed : call.Swallowed b)
    (h : (adjustLot env call).run b = .ok (out, b')) :
    ∃ a, a.delta ≠ 0 ∧ Overwritten b a b' := by
  rcases adjustLot_cases h with ⟨-, hnot⟩ | ⟨a, hprep, -, ⟨row, -, hnot⟩ | ⟨hover, -⟩⟩
  · exact absurd hswallowed hnot
  · exact absurd hswallowed hnot
  · refine ⟨a, ?_, hover⟩
    rw [(prepareAdjustment_eq_some hprep).2.1]
    exact hswallowed.1

/-- A call whose key is kept as it is only adds to the ledger. -/
theorem adjustLot_grows {out : AdjustOutcome} (hverbatim : call.Verbatim) (hdelta : call.delta ≠ 0)
    (h : (adjustLot env call).run b = .ok (out, b')) :
    ∃ rows, b'.stockLedger.rows = b.stockLedger.rows ++ rows := by
  rcases adjustLot_cases h with ⟨rfl, -⟩ | ⟨a, -, -, ⟨row, hrec, -⟩ | ⟨-, hiff⟩⟩
  · exact ⟨[], (List.append_nil _).symm⟩
  · exact ⟨[row], hrec.ledger_eq⟩
  · exact absurd (hiff.mpr hdelta) (hverbatim.not_swallowed b)

/-! ### Recorded calls -/

/-- The row that a call adds to the ledger. -/
structure AdjustRow (call : AdjustCall) (row : LedgerRow) : Prop where
  slot_eq : ∃ lotId, call.lotId = some lotId ∧
    row.slot = ⟨call.warehouseId, call.itemId, lotId⟩
  delta_eq : row.delta = call.delta
  refLine_eq : row.refLine = call.refLine.getD 1
  reason_eq : row.reason.text = call.reason
  ref_eq : row.ref.text = call.ref

/-- No ledger row has the key of the call. -/
def AdjustCall.KeyFree (call : AdjustCall) (b : Books) : Prop :=
  ∀ lotId ∈ call.lotId, ¬b.HasKey ⟨call.warehouseId, call.itemId, lotId⟩ call.reason call.ref
    (call.refLine.getD 1)

/-- A call that asks for a record and whose key is free is recorded. -/
theorem adjustLot_recorded {out : AdjustOutcome} (hverbatim : call.Verbatim)
    (hasks : call.delta ≠ 0 ∨ call.info.allowZeroDeltaLedger = true) (hfree : call.KeyFree b)
    (h : (adjustLot env call).run b = .ok (out, b')) :
    ∃ row, AdjustRow call row ∧ Moved b [row] b' := by
  rcases adjustLot_run_ok h with ⟨hprep, -, -⟩ | ⟨a, hprep, hcases⟩
  · exfalso
    rcases hasks with hdelta | hallow
    · exact hdelta (prepareAdjustment_eq_none hprep)
    · unfold prepareAdjustment at hprep
      simp only [bind, Except.bind, hallow, Bool.true_eq_false, and_false, if_false] at hprep
      repeat' split at hprep
      all_goals cases hprep
  · obtain ⟨⟨lotId, hlot, hslot⟩, hdelta, hreason, href, hline, -, -⟩ :=
      prepareAdjustment_eq_some hprep
    have hkey : ¬a.IdemHit b := by
      rw [Adjustment.idemHit_iff, hslot, hreason, href, hline]
      exact hfree lotId hlot
    rcases hcases with ⟨hidem, -, -⟩ | ⟨-, hbook⟩
    · exact absurd hidem hkey
    · obtain ⟨new, hnew, ⟨t, ht, hrec⟩ | ⟨hnone, -⟩⟩ := Adjustment.book_run_ok hbook
      · refine ⟨new, ⟨⟨lotId, hlot, hrec.slot_eq.trans hslot⟩, hrec.delta_eq.trans hdelta,
          hrec.refLine_eq.trans hline, ?_, ?_⟩, hrec.moved⟩
        · exact hverbatim.1.text_of_store (by rw [← hreason]; exact hrec.reason_eq)
        · exact hverbatim.2.text_of_store (by rw [← href]; exact hrec.ref_eq)
      · exfalso
        have hstored := (Adjustment.insert_eq_none_iff hnew).mp hnone
        rw [hslot, hreason, href, hline] at hstored
        obtain ⟨r, hr, hr₁, hr₂, hr₃, hr₄⟩ := hstored
        exact hfree lotId hlot ⟨r, hr, hr₁, hverbatim.1.text_of_store hr₃,
          hverbatim.2.text_of_store hr₄, hr₂⟩

/-- A recorded call takes no key but its own. -/
theorem AdjustCall.KeyFree.of_moved {call' : AdjustCall} {row : LedgerRow}
    (hfree : call'.KeyFree b) (hmoved : Moved b [row] b') (hrow : AdjustRow call row)
    (happart : call'.refLine.getD 1 ≠ call.refLine.getD 1 ∨ call'.lotId ≠ call.lotId) :
    call'.KeyFree b' := by
  rintro lotId hlot ⟨r, hr, hslot, hreason, href, hline⟩
  rw [hmoved.ledger_eq] at hr
  rcases List.mem_append.mp hr with hold | hnew
  · exact hfree lotId hlot ⟨r, hold, hslot, hreason, href, hline⟩
  · rw [List.mem_singleton.mp hnew] at hslot hline
    obtain ⟨lotId', hlot', hslot'⟩ := hrow.slot_eq
    rw [hslot'] at hslot
    rw [hrow.refLine_eq] at hline
    rcases happart with hne | hne
    · exact hne hline.symm
    · have hsame : lotId' = lotId := congrArg SlotKey.lotId hslot
      exact hne (by rw [hlot, hlot', hsame])

/-- A loop of calls whose keys are free and apart records each of them. -/
theorem adjustLots_run_ok {L : Type} {f : L → AdjustCall} {ls : List L} {u : PUnit}
    (hverbatim : ∀ l ∈ ls, (f l).Verbatim) (hdelta : ∀ l ∈ ls, (f l).delta ≠ 0)
    (hfree : ∀ l ∈ ls, (f l).KeyFree b)
    (happart : ls.Pairwise fun l l' => (f l').refLine.getD 1 ≠ (f l).refLine.getD 1)
    (h : (forM ls fun l => (do let _ ← adjustLot env (f l); pure ⟨⟩ : Tx Books Err PUnit)).run b =
      .ok (u, b')) :
    ∃ rows, List.Forall₂ (fun l row => AdjustRow (f l) row) ls rows ∧ Moved b rows b' := by
  induction ls generalizing b with
  | nil =>
    have hb := Tx.run_forM_nil_ok.mp h
    rw [← hb]
    exact ⟨[], .nil, .nil rfl rfl rfl⟩
  | cons l ls ih =>
    obtain ⟨b₁, hcall, hrest⟩ := Tx.run_forM_cons_ok.mp h
    simp only [Tx.run_bind_ok, Tx.run_pure_ok] at hcall
    obtain ⟨out, _, hadjust, -, rfl⟩ := hcall
    obtain ⟨hhead, htail⟩ := List.pairwise_cons.mp happart
    obtain ⟨row, hrow, hmoved⟩ := adjustLot_recorded (hverbatim l List.mem_cons_self)
      (.inl (hdelta l List.mem_cons_self)) (hfree l List.mem_cons_self) hadjust
    obtain ⟨rows, hrows, hmoved'⟩ := ih
      (fun l' hl' => hverbatim l' (List.mem_cons_of_mem l hl'))
      (fun l' hl' => hdelta l' (List.mem_cons_of_mem l hl'))
      (fun l' hl' => (hfree l' (List.mem_cons_of_mem l hl')).of_moved hmoved hrow
        (.inl (hhead l' hl')))
      htail hrest
    exact ⟨row :: rows, .cons hrow hrows, hmoved.append hmoved'⟩

/-! ## When a movement succeeds -/

theorem writeLedger_succeeds {knownEvents : List ℕ} {v : LedgerValues} {new : LedgerRow}
    {t : Table LedgerRow LedgerRow.SameKey} (hnew : v.canonical.row = .ok new)
    (hlot : b.HasLot v.slot) (hevent : ∀ e ∈ v.eventId, e ∈ knownEvents)
    (ht : b.stockLedger.insert new = some t) :
    (writeLedger knownEvents v).run b = .ok (true, b.putLedger t) := by
  have hrow := LedgerValues.row_eq_ok hnew
  have hrefs : checkLedgerReferences knownEvents b new = .ok () := by
    rw [checkLedgerReferences_eq_ok, hrow.1, hrow.2.2.2.2.2.1, v.canonical_slot.1,
      v.canonical_slot.2.2.2.2.2.2]
    exact ⟨hlot, hevent⟩
  unfold writeLedger
  simp only [Tx.run_bind_ok, Tx.run_get_ok, Tx.run_ofExcept_ok]
  refine ⟨b, b, ⟨rfl, rfl⟩, ⟨⟩, b, ⟨assertLotBelongsTo_eq_ok.mpr hlot, rfl⟩, new, b,
    ⟨hnew, rfl⟩, ?_⟩
  simp only [ht, Tx.run_bind_ok, Tx.run_ofExcept_ok, Tx.run_set_ok, Tx.run_pure_ok]
  exact ⟨⟨⟩, b, ⟨hrefs, rfl⟩, ⟨⟩, b.putLedger t, rfl, trivial, rfl⟩

/-- A checked movement whose key is new, and that does not overdraw its slot, is carried
out. -/
theorem Adjustment.book_succeeds {knownEvents : List ℕ} {new : LedgerRow}
    (hkey : ¬b.HasStoredKey a.slot a.reason a.ref a.refLine) (hlot : b.HasLot a.slot)
    (hevent : ∀ e ∈ a.eventId, e ∈ knownEvents)
    (hnew : (a.values (b.stock a.slot + a.delta)).canonical.row = .ok new) :
    ∃ b', (a.book knownEvents).run b =
      .ok (.applied (b.stock a.slot) (b.stock a.slot + a.delta), b') := by
  have hnonneg : 0 ≤ b.stock a.slot + a.delta := by
    have hafter := (LedgerValues.row_eq_ok hnew).2.2.2.1
    rw [(a.values _).canonical_slot.2.2.2.2.2.1] at hafter
    have hpos := new.afterQty_nonneg
    rw [hafter] at hpos
    exact hpos
  obtain ⟨b₁, hensure⟩ : ∃ b₁, (ensureSlot a.slot).run b = .ok (⟨⟩, b₁) := by
    by_cases hmem : a.slot ∈ b.stocksLot
    · exact ⟨b, ensureSlot_run_ok.mpr (.inl ⟨hmem, rfl⟩)⟩
    · exact ⟨_, ensureSlot_run_ok.mpr (.inr ⟨hmem, hlot, rfl⟩)⟩
  obtain ⟨hmem, hstock, hledger, hlots⟩ := ensureSlot_keeps hensure
  obtain ⟨before, hbefore⟩ : ∃ before, b₁.stocksLot.lookup a.slot = some before :=
    Option.isSome_iff_exists.mp (AList.lookup_isSome.mpr hmem)
  have hqty : before = b.stock a.slot := by rw [← hstock, Books.stock_of_lookup hbefore]
  have hnewQty : a.newQty before = .ok (b.stock a.slot + a.delta) := by
    unfold Adjustment.newQty
    rw [hqty]
    split
    · rename_i hzero
      rw [hzero, add_zero]
    · rw [if_neg (by omega)]
  obtain ⟨t, ht⟩ : ∃ t, b₁.stockLedger.insert new = some t := by
    rw [hledger]
    exact Option.ne_none_iff_exists'.mp fun hnone =>
      hkey ((Adjustment.insert_eq_none_iff hnew).mp hnone)
  have hlot₁ : b₁.HasLot a.slot := Books.hasLot_of_mem hmem
  have hwrite := writeLedger_succeeds hnew hlot₁ hevent ht
  obtain ⟨b', hset⟩ : ∃ b', ((if a.delta ≠ 0 then do
        setSlotQty a.slot (b.stock a.slot + a.delta)
        return .applied before (b.stock a.slot + a.delta)
      else return .applied before (b.stock a.slot + a.delta)) : Tx Books Err AdjustOutcome).run
        (b₁.putLedger t) = .ok (.applied before (b.stock a.slot + a.delta), b') := by
    by_cases hdelta : a.delta = 0
    · rw [if_neg (not_not.mpr hdelta)]
      exact ⟨_, Tx.run_pure_ok.mpr ⟨rfl, rfl⟩⟩
    · rw [if_pos hdelta]
      have hmem' : a.slot ∈ (b₁.putLedger t).stocksLot := hmem
      exact ⟨_, Tx.run_bind_ok.mpr ⟨⟨⟩, _, (setSlotQty_run_ok hmem').mpr ⟨hnonneg, rfl⟩,
        Tx.run_pure_ok.mpr ⟨rfl, rfl⟩⟩⟩
  refine ⟨b', ?_⟩
  rw [← hqty] at hset ⊢
  unfold Adjustment.book
  simp only [Tx.run_bind_ok]
  exact ⟨⟨⟩, b₁, hensure, some before, b₁, lockSlot_run_ok.mpr ⟨hbefore, rfl⟩, before, b₁,
    Tx.run_demand_ok.mpr ⟨rfl, rfl⟩, before + a.delta, b₁,
    Tx.run_ofExcept_ok.mpr ⟨hqty ▸ hnewQty, rfl⟩, true, _, hqty ▸ hwrite, hset⟩

end Wms

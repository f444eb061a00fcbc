import Wms.Foundation.Journal
import Wms.Foundation.Table
import Wms.Foundation.Transaction
import Wms.Pms
import Wms.Text

/-!
# Lots, balances and the stock ledger

The three tables that say what is in stock: the lots, the balance of every slot of a
warehouse, item and lot, and the ledger of all movements. Their constraints are part
of the types, so a row that violates one cannot be stored. `Booked` is the relation
that every committed movement must follow: the ledger grows by rows that post exactly
the change of the balances.
-/

namespace Wms

open Foundation Foundation.Journal

/-- A balance belongs to a lot of an item in a warehouse. -/
@[ext] structure SlotKey where
  warehouseId : ℕ
  itemId : ℕ
  lotId : ℕ
  deriving DecidableEq, Repr

/-- `lots.lot_code_source`. -/
inductive LotCodeSource
  | supplier
  | internal
  deriving DecidableEq, Repr

/-- `Lot`: a row of `lots` with its check constraints. -/
structure Lot where
  id : ℕ
  warehouseId : ℕ
  itemId : ℕ
  lotCodeSource : LotCodeSource
  lotCode : Option (Varchar 64)
  productionDate : Option Date
  expiryDate : Option Date
  shelfLifeValueSnapshot : Option ℕ
  shelfLifeUnitSnapshot : Option ShelfLifeUnit
  lotSourcePolicySnapshot : LotSourcePolicy
  expiryPolicySnapshot : ExpiryPolicy
  derivationAllowedSnapshot : Bool
  uomGovernanceEnabledSnapshot : Bool
  /-- Identifiers count from one. -/
  id_pos : 0 < id
  /-- `ck_lots_lot_code_by_source`. -/
  lotCode_by_source : lotCodeSource = .supplier ↔ lotCode.isSome
  /-- `ck_lots_item_shelf_life_pair_snapshot`. -/
  shelfLife_pair : shelfLifeValueSnapshot = none ↔ shelfLifeUnitSnapshot = none
  /-- `ck_lots_sl_params_by_policy_snap`. -/
  shelfLife_by_policy :
    expiryPolicySnapshot = .required ∨
      (shelfLifeValueSnapshot = none ∧ shelfLifeUnitSnapshot = none)
  /-- `ck_lots_production_date_by_expiry_policy`. -/
  productionDate_by_policy : expiryPolicySnapshot = .required ↔ productionDate.isSome
  /-- `ck_lots_production_le_expiry`. -/
  production_le_expiry : ∀ pd ∈ productionDate, ∀ ed ∈ expiryDate, pd ≤ ed
  /-- `ck_lots_required_supplier_source` and `ck_lots_required_supplier_expiry_not_null`. -/
  required_supplier :
    expiryPolicySnapshot = .required → lotCodeSource = .supplier ∧ expiryDate.isSome

namespace Lot

/-- The lot is one of the given warehouse and item. -/
def BelongsTo (l : Lot) (warehouseId itemId : ℕ) : Prop :=
  l.warehouseId = warehouseId ∧ l.itemId = itemId

instance (l : Lot) (w i : ℕ) : Decidable (l.BelongsTo w i) :=
  inferInstanceAs (Decidable (_ ∧ _))

/-- `uq_lots_required_single_wh_item_prod`. -/
def SameRequired (a b : Lot) : Prop :=
  a.BelongsTo b.warehouseId b.itemId ∧ a.lotCodeSource = .supplier ∧
    b.lotCodeSource = .supplier ∧ a.expiryPolicySnapshot = .required ∧
    b.expiryPolicySnapshot = .required ∧ a.productionDate = b.productionDate

/-- `uq_lots_internal_single_wh_item`. -/
def SameInternal (a b : Lot) : Prop :=
  a.BelongsTo b.warehouseId b.itemId ∧ a.lotCodeSource = .internal ∧ b.lotCodeSource = .internal

/-- Two lots that the table cannot hold together. -/
def Conflict (a b : Lot) : Prop := a.id = b.id ∨ a.SameRequired b ∨ a.SameInternal b

instance : DecidableRel Conflict := fun a b =>
  inferInstanceAs (Decidable (a.id = b.id ∨
    ((a.warehouseId = b.warehouseId ∧ a.itemId = b.itemId) ∧ _) ∨
    ((a.warehouseId = b.warehouseId ∧ a.itemId = b.itemId) ∧ _)))

/-- A lot of a required item has a code, a production date and an expiry date. -/
theorem dated_of_required {l : Lot} (h : l.expiryPolicySnapshot = .required) :
    l.lotCode.isSome ∧ l.productionDate.isSome ∧ l.expiryDate.isSome :=
  ⟨l.lotCode_by_source.mp (l.required_supplier h).1, l.productionDate_by_policy.mp h,
    (l.required_supplier h).2⟩

end Lot

/-- `stock_ledger.reason_canon`. -/
inductive ReasonCanon
  | receipt
  | shipment
  | adjustment
  | outbound
  deriving DecidableEq, Repr

/-- `StockLedger`: a row of `stock_ledger` with its check constraints. -/
structure LedgerRow where
  slot : SlotKey
  reason : Varchar 32
  reasonCanon : Option ReasonCanon
  subReason : Option (Varchar 32)
  ref : Varchar 128
  refLine : ℤ
  delta : ℤ
  afterQty : ℤ
  occurredAt : ℤ
  traceId : Option (Varchar 64)
  eventId : Option ℕ
  productionDate : Option Date
  expiryDate : Option Date
  /-- `ck_stock_ledger_after_qty_nonneg`. -/
  afterQty_nonneg : 0 ≤ afterQty
  /-- `ck_ledger_dates_only_on_receipt`; SQL lets an unknown reason pass. -/
  dates_only_on_receipt : (∀ c ∈ reasonCanon, c = .receipt) ∨
    (productionDate = none ∧ expiryDate = none)

namespace LedgerRow

/-- `uq_ledger_wh_lot_item_reason_ref_line`: two rows with the same key conflict. -/
def SameKey (a b : LedgerRow) : Prop :=
  a.reason = b.reason ∧ a.ref = b.ref ∧ a.refLine = b.refLine ∧ a.slot = b.slot

instance : DecidableRel SameKey := fun _ _ => inferInstanceAs (Decidable (_ ∧ _))

/-- The row as a posting to the account of its slot. -/
def posting (r : LedgerRow) : Posting SlotKey := ⟨r.slot, r.delta, r.afterQty⟩

end LedgerRow

/-- The values of a ledger row before the columns and checks of the table are applied. -/
structure LedgerValues where
  slot : SlotKey
  reason : String
  reasonCanon : Option ReasonCanon
  subReason : Option String
  ref : String
  refLine : ℤ
  delta : ℤ
  afterQty : ℤ
  occurredAt : ℤ
  traceId : Option String
  eventId : Option ℕ
  productionDate : Option Date
  expiryDate : Option Date

/-- Fit the values into the columns of `stock_ledger` and apply its checks. -/
def LedgerValues.row (v : LedgerValues) : Except Err LedgerRow := do
  let reason ← Varchar.store 32 v.reason
  let subReason ← Varchar.store? 32 v.subReason
  let ref ← Varchar.store 128 v.ref
  let traceId ← Varchar.store? 64 v.traceId
  if hafter : 0 ≤ v.afterQty then
    if hdates : (∀ c ∈ v.reasonCanon, c = .receipt) ∨
        (v.productionDate = none ∧ v.expiryDate = none) then
      return {
        slot := v.slot, reason := reason, reasonCanon := v.reasonCanon, subReason := subReason
        ref := ref, refLine := v.refLine, delta := v.delta, afterQty := v.afterQty
        occurredAt := v.occurredAt, traceId := traceId, eventId := v.eventId
        productionDate := v.productionDate, expiryDate := v.expiryDate
        afterQty_nonneg := hafter, dates_only_on_receipt := hdates }
    else .error (.integrityError "ck_ledger_dates_only_on_receipt")
  else .error (.integrityError "ck_stock_ledger_after_qty_nonneg")

/-- The three tables. -/
structure Books where
  lots : Table Lot Lot.Conflict
  stocksLot : AList fun _ : SlotKey => ℤ
  stockLedger : Table LedgerRow LedgerRow.SameKey
  /-- `fk_stocks_lot_lot_dims`: a balance belongs to a lot of its warehouse and item. -/
  slot_fk : ∀ k ∈ stocksLot, ∃ l ∈ lots.rows,
    l.id = k.lotId ∧ l.BelongsTo k.warehouseId k.itemId

namespace Books

/-- Tables without rows. -/
def empty : Books := ⟨.empty, ∅, .empty, fun _ h => absurd h (AList.notMem_empty _)⟩

/-- The balance of a slot; a slot without a row holds nothing. -/
def stock (b : Books) (k : SlotKey) : ℤ := (b.stocksLot.lookup k).getD 0

/-- The stored lot with an identifier. -/
def findLot (b : Books) (lotId : ℕ) : Option Lot := b.lots.rows.find? fun l => l.id = lotId

/-- The lot code of the lot of a slot. -/
def lotCodeOf (b : Books) (k : SlotKey) : Option (Varchar 64) :=
  (b.findLot k.lotId).bind Lot.lotCode

/-- The lot that a foreign key on (lot, warehouse, item) asks for is there. -/
def HasLot (b : Books) (k : SlotKey) : Prop :=
  ∃ l ∈ b.lots.rows, l.id = k.lotId ∧ l.BelongsTo k.warehouseId k.itemId

instance (b : Books) (k : SlotKey) : Decidable (b.HasLot k) :=
  inferInstanceAs (Decidable (∃ l ∈ b.lots.rows, _))

/-- A slot with a row has its lot. -/
theorem hasLot_of_mem {b : Books} {k : SlotKey} (h : k ∈ b.stocksLot) : b.HasLot k :=
  b.slot_fk k h

/-- Write the balance of a slot whose lot exists. -/
def putQty (b : Books) (k : SlotKey) (q : ℤ) (h : b.HasLot k) : Books where
  lots := b.lots
  stocksLot := b.stocksLot.insert k q
  stockLedger := b.stockLedger
  slot_fk := by
    intro k' hk'
    rcases (AList.mem_insert _).mp hk' with rfl | hmem
    · exact h
    · exact b.slot_fk k' hmem

/-- Replace the ledger. -/
def putLedger (b : Books) (t : Table LedgerRow LedgerRow.SameKey) : Books :=
  { b with stockLedger := t }

@[simp] theorem putQty_lots (b : Books) (k : SlotKey) (q : ℤ) (h : b.HasLot k) :
    (b.putQty k q h).lots = b.lots := rfl

@[simp] theorem putQty_stockLedger (b : Books) (k : SlotKey) (q : ℤ) (h : b.HasLot k) :
    (b.putQty k q h).stockLedger = b.stockLedger := rfl

@[simp] theorem putLedger_lots (b : Books) (t : Table LedgerRow LedgerRow.SameKey) :
    (b.putLedger t).lots = b.lots := rfl

@[simp] theorem putLedger_stock (b : Books) (t : Table LedgerRow LedgerRow.SameKey) :
    (b.putLedger t).stock = b.stock := rfl

@[simp] theorem putLedger_stockLedger (b : Books) (t : Table LedgerRow LedgerRow.SameKey) :
    (b.putLedger t).stockLedger = t := rfl

@[simp] theorem stock_empty (k : SlotKey) : empty.stock k = 0 := rfl

/-- Writing a balance changes the stock at that slot only. -/
@[simp] theorem putQty_stock (b : Books) (k : SlotKey) (q : ℤ) (h : b.HasLot k) :
    (b.putQty k q h).stock = Function.update b.stock k q := by
  funext k'
  by_cases hk : k' = k
  · subst hk
    rw [Function.update_self]
    change ((b.stocksLot.insert k' q).lookup k').getD 0 = q
    rw [AList.lookup_insert]
    rfl
  · rw [Function.update_of_ne hk]
    change ((b.stocksLot.insert k q).lookup k').getD 0 = _
    rw [AList.lookup_insert_ne hk]
    rfl

theorem stock_of_lookup {b : Books} {k : SlotKey} {q : ℤ}
    (h : b.stocksLot.lookup k = some q) : b.stock k = q := by
  simp [stock, h]

theorem stock_of_notMem {b : Books} {k : SlotKey} (h : k ∉ b.stocksLot) : b.stock k = 0 := by
  simp [stock, AList.lookup_eq_none.mpr h]

end Books

/-- The ledger has grown by the rows, which post exactly the change of the balances. -/
structure Moved (b : Books) (rows : List LedgerRow) (b' : Books) : Prop where
  lots_eq : b'.lots = b.lots
  ledger_eq : b'.stockLedger.rows = b.stockLedger.rows ++ rows
  posts : Posts b.stock (rows.map LedgerRow.posting) b'.stock

namespace Moved

variable {b b' b'' : Books} {rows rows' : List LedgerRow}

theorem nil (hlots : b'.lots = b.lots) (hledger : b'.stockLedger = b.stockLedger)
    (hstock : b'.stock = b.stock) : Moved b [] b' :=
  ⟨hlots, by rw [hledger, List.append_nil], hstock⟩

theorem append (h : Moved b rows b') (h' : Moved b' rows' b'') : Moved b (rows ++ rows') b'' := by
  refine ⟨h'.lots_eq.trans h.lots_eq, ?_, ?_⟩
  · rw [h'.ledger_eq, h.ledger_eq, List.append_assoc]
  · rw [List.map_append]
    exact h.posts.append h'.posts

/-- One accepted row together with the balance it records. -/
theorem single {row : LedgerRow} (hlots : b'.lots = b.lots)
    (hledger : b'.stockLedger.rows = b.stockLedger.rows ++ [row])
    (hafter : row.afterQty = b.stock row.slot + row.delta)
    (hstock : b'.stock = Function.update b.stock row.slot row.afterQty) : Moved b [row] b' := by
  refine ⟨hlots, hledger, ?_⟩
  rw [hstock]
  exact posts_single (p := row.posting) hafter row.afterQty_nonneg

/-- Every balance has moved by the amounts of the rows of its slot. -/
theorem stock_eq (h : Moved b rows b') (k : SlotKey) :
    b'.stock k = b.stock k + movement k (rows.map LedgerRow.posting) :=
  h.posts.balance k

end Moved

/-- The ledger as a journal of postings. -/
def Books.journal (b : Books) : List (Posting SlotKey) :=
  b.stockLedger.rows.map LedgerRow.posting

/-- The books moved as they must: the journal grew by postings that lead from the old
balances to the new ones. -/
def Booked (b b' : Books) : Prop :=
  ∃ ps, b'.journal = b.journal ++ ps ∧ Posts b.stock ps b'.stock

/-- The books moved as they must, and in one warehouse only. -/
def BookedIn (warehouseId : ℕ) (b b' : Books) : Prop :=
  ∃ ps, b'.journal = b.journal ++ ps ∧ (∀ p ∈ ps, p.key.warehouseId = warehouseId) ∧
    Posts b.stock ps b'.stock

namespace BookedIn

variable {w : ℕ} {a b b' c : Books}

theorem booked (h : BookedIn w b b') : Booked b b' := by
  obtain ⟨ps, hjournal, -, hposts⟩ := h
  exact ⟨ps, hjournal, hposts⟩

/-- Books with the same balances and the same journal are booked. -/
theorem of_eq (hstock : b'.stock = b.stock) (hjournal : b'.journal = b.journal) :
    BookedIn w b b' :=
  ⟨[], by rw [hjournal, List.append_nil], by simp, hstock⟩

theorem of_moved {rows : List LedgerRow} (h : Moved b rows b')
    (hrows : ∀ r ∈ rows, r.slot.warehouseId = w) : BookedIn w b b' := by
  refine ⟨rows.map LedgerRow.posting, ?_, ?_, h.posts⟩
  · unfold Books.journal
    rw [h.ledger_eq, List.map_append]
  · intro p hp
    obtain ⟨r, hr, rfl⟩ := List.mem_map.mp hp
    exact hrows r hr

theorem trans (hab : BookedIn w a b) (hbc : BookedIn w b c) : BookedIn w a c := by
  obtain ⟨ps, hjournal, hps, hposts⟩ := hab
  obtain ⟨ps', hjournal', hps', hposts'⟩ := hbc
  refine ⟨ps ++ ps', ?_, ?_, hposts.append hposts'⟩
  · rw [hjournal', hjournal, List.append_assoc]
  · intro p hp
    rcases List.mem_append.mp hp with hold | hnew
    · exact hps p hold
    · exact hps' p hnew

/-- Other warehouses keep their balances. -/
theorem stock_eq (h : BookedIn w b b') {k : SlotKey} (hk : k.warehouseId ≠ w) :
    b'.stock k = b.stock k := by
  obtain ⟨ps, -, hps, hposts⟩ := h
  have hnone : movement k ps = 0 := by
    refine movement_eq_zero ?_
    intro p hp hkey
    exact hk (by rw [← hkey, hps p hp])
  rw [hposts.balance k, hnone, add_zero]

end BookedIn

instance (w : ℕ) : IsPreorder Books (BookedIn w) where
  refl _ := .of_eq rfl rfl
  trans _ _ _ := BookedIn.trans

end Wms

import Wms.Stock.Books

/-!
# Statements on balances and ledger

The single statements that every writer of stock is made of: looking up, creating and
setting a balance, and inserting a ledger row with or without a conflict clause. Each
has a lemma that says everything a successful execution did.
-/

namespace Wms

open Foundation

variable {b b' : Books} {k : SlotKey}

/-- `assert_lot_belongs_to`. -/
def assertLotBelongsTo (b : Books) (k : SlotKey) : Except Err Unit :=
  match b.findLot k.lotId with
  | none => .error (.valueError "lot_not_found")
  | some l =>
    if l.BelongsTo k.warehouseId k.itemId then .ok () else .error (.valueError "lot_mismatch")

/-- `ensure_stocks_lot_slot_exists`: a missing balance starts at zero. -/
def ensureSlot (k : SlotKey) : Tx Books Err PUnit := do
  let b ← get
  if k ∈ b.stocksLot then pure ⟨⟩
  else if h : b.HasLot k then set (b.putQty k 0 h)
  else throw (.integrityError "fk_stocks_lot_lot_dims")

/-- `lock_stocks_lot_slot_for_update`: the balance of the slot, if it has a row. -/
def lockSlot (k : SlotKey) : Tx Books Err (Option ℤ) := do
  let b ← get
  return b.stocksLot.lookup k

/-- `apply_stocks_lot_set_qty`: set the balance of the slot's row, if it has one. -/
def setSlotQty (k : SlotKey) (q : ℤ) : Tx Books Err PUnit := do
  let b ← get
  if h : k ∈ b.stocksLot then
    if q < 0 then throw (.integrityError "ck_stocks_lot_qty_nonneg")
    else set (b.putQty k q (Books.hasLot_of_mem h))
  else pure ⟨⟩

/-- The foreign keys of a ledger row. -/
def checkLedgerReferences (knownEvents : List ℕ) (b : Books) (row : LedgerRow) :
    Except Err Unit :=
  if ¬b.HasLot row.slot then .error (.integrityError "fk_stock_ledger_lot_dims")
  else if ¬∀ e ∈ row.eventId, e ∈ knownEvents then .error (.integrityError "fk_stock_ledger_event")
  else .ok ()

/-- `INSERT INTO stock_ledger` without a conflict clause. -/
def insertLedger (knownEvents : List ℕ) (v : LedgerValues) : Tx Books Err PUnit := do
  let row ← Tx.ofExcept v.row
  let b ← get
  let t ← Tx.demand (b.stockLedger.insert row)
    (.integrityError "uq_ledger_wh_lot_item_reason_ref_line")
  Tx.ofExcept (checkLedgerReferences knownEvents b row)
  set (b.putLedger t)

/-- A row has the key of a movement as the columns of the ledger store it. -/
def Books.HasStoredKey (b : Books) (k : SlotKey) (reason ref : String) (refLine : ℤ) : Prop :=
  ∃ r ∈ b.stockLedger.rows, r.slot = k ∧ r.refLine = refLine ∧
    Varchar.store 32 reason = .ok r.reason ∧ Varchar.store 128 ref = .ok r.ref

/-- A row has the key of a movement as the movement states it. -/
def Books.HasKey (b : Books) (k : SlotKey) (reason ref : String) (refLine : ℤ) : Prop :=
  ∃ r ∈ b.stockLedger.rows, r.slot = k ∧ r.reason.text = reason ∧ r.ref.text = ref ∧
    r.refLine = refLine

theorem hasLot_of_assertLotBelongsTo (h : assertLotBelongsTo b k = .ok ()) : b.HasLot k := by
  unfold assertLotBelongsTo at h
  split at h
  · cases h
  · rename_i l hfind
    split at h
    · rename_i hbelongs
      refine ⟨l, List.mem_of_find?_eq_some hfind, ?_, hbelongs⟩
      simpa using List.find?_some hfind
    · cases h

/-- The lot that an identifier finds is the only one with it. -/
theorem findLot_eq_some {l : Lot} (hl : l ∈ b.lots.rows) : b.findLot l.id = some l :=
  b.lots.find?_eq_some hl (by simp) fun _ ha => Or.inl (by simpa using ha)

/-- The check of the lot succeeds exactly when the foreign key would be satisfied. -/
theorem assertLotBelongsTo_eq_ok : assertLotBelongsTo b k = .ok () ↔ b.HasLot k := by
  refine ⟨hasLot_of_assertLotBelongsTo, ?_⟩
  rintro ⟨l, hl, hid, hbelongs⟩
  unfold assertLotBelongsTo
  rw [← hid, findLot_eq_some hl]
  exact if_pos hbelongs

/-- Afterwards the slot has a row, and no balance has changed. -/
theorem ensureSlot_run_ok {u : PUnit} :
    (ensureSlot k).run b = .ok (u, b') ↔
      (k ∈ b.stocksLot ∧ b = b') ∨ (k ∉ b.stocksLot ∧ ∃ h : b.HasLot k, b.putQty k 0 h = b') := by
  unfold ensureSlot
  simp only [Tx.run_bind_ok, Tx.run_get_ok]
  constructor
  · rintro ⟨_, _, ⟨rfl, rfl⟩, h⟩
    split at h
    · rename_i hmem
      exact .inl ⟨hmem, (Tx.run_pure_ok.mp h).2⟩
    · rename_i hmem
      split at h
      · rename_i hlot
        exact .inr ⟨hmem, hlot, Tx.run_set_ok.mp h⟩
      · exact (Tx.run_throw_ok.mp h).elim
  · rintro (⟨hmem, rfl⟩ | ⟨hmem, hlot, rfl⟩)
    · refine ⟨b, b, ⟨rfl, rfl⟩, ?_⟩
      rw [if_pos hmem, Tx.run_pure_ok]
      exact ⟨rfl, rfl⟩
    · refine ⟨b, b, ⟨rfl, rfl⟩, ?_⟩
      rw [if_neg hmem, dif_pos hlot, Tx.run_set_ok]

theorem lockSlot_run_ok {o : Option ℤ} :
    (lockSlot k).run b = .ok (o, b') ↔ b.stocksLot.lookup k = o ∧ b = b' := by
  unfold lockSlot
  simp only [Tx.run_bind_ok, Tx.run_get_ok, Tx.run_pure_ok]
  constructor
  · rintro ⟨_, _, ⟨rfl, rfl⟩, rfl, rfl⟩
    exact ⟨rfl, rfl⟩
  · rintro ⟨rfl, rfl⟩
    exact ⟨_, _, ⟨rfl, rfl⟩, rfl, rfl⟩

theorem setSlotQty_run_ok {q : ℤ} {u : PUnit} (hmem : k ∈ b.stocksLot) :
    (setSlotQty k q).run b = .ok (u, b') ↔ 0 ≤ q ∧ b.putQty k q (Books.hasLot_of_mem hmem) = b' := by
  unfold setSlotQty
  simp only [Tx.run_bind_ok, Tx.run_get_ok]
  constructor
  · rintro ⟨_, _, ⟨rfl, rfl⟩, h⟩
    rw [dif_pos hmem] at h
    split at h
    · exact (Tx.run_throw_ok.mp h).elim
    · exact ⟨by omega, Tx.run_set_ok.mp h⟩
  · rintro ⟨hq, rfl⟩
    refine ⟨b, b, ⟨rfl, rfl⟩, ?_⟩
    rw [dif_pos hmem, if_neg (by omega), Tx.run_set_ok]

theorem checkLedgerReferences_eq_ok {knownEvents : List ℕ} {row : LedgerRow} :
    checkLedgerReferences knownEvents b row = .ok () ↔
      b.HasLot row.slot ∧ ∀ e ∈ row.eventId, e ∈ knownEvents := by
  unfold checkLedgerReferences
  split
  · rename_i h
    exact ⟨fun hok => (by cases hok), fun hok => absurd hok.1 h⟩
  · split
    · rename_i h
      exact ⟨fun hok => (by cases hok), fun hok => absurd hok.2 h⟩
    · rename_i hlot hevent
      exact ⟨fun _ => ⟨not_not.mp hlot, not_not.mp hevent⟩, fun _ => rfl⟩

/-- A plain insertion adds one row, and only when no stored row has its key. -/
theorem insertLedger_run_ok {knownEvents : List ℕ} {v : LedgerValues} {u : PUnit} :
    (insertLedger knownEvents v).run b = .ok (u, b') ↔
      ∃ row t, v.row = .ok row ∧ b.stockLedger.insert row = some t ∧
        (b.HasLot row.slot ∧ ∀ e ∈ row.eventId, e ∈ knownEvents) ∧ b.putLedger t = b' := by
  unfold insertLedger
  simp only [Tx.run_bind_ok, Tx.run_get_ok, Tx.run_ofExcept_ok, Tx.run_demand_ok, Tx.run_set_ok,
    ← checkLedgerReferences_eq_ok]
  constructor
  · rintro ⟨row, _, ⟨hrow, rfl⟩, c, _, ⟨rfl, rfl⟩, t, _, ⟨ht, rfl⟩, _, _, ⟨hrefs, rfl⟩, hset⟩
    exact ⟨row, t, hrow, ht, hrefs, hset⟩
  · rintro ⟨row, t, hrow, ht, hrefs, hset⟩
    exact ⟨row, b, ⟨hrow, rfl⟩, b, b, ⟨rfl, rfl⟩, t, b, ⟨ht, rfl⟩, ⟨⟩, b, ⟨hrefs, rfl⟩, hset⟩

/-- What the columns of the ledger keep of the values of a row. -/
theorem LedgerValues.row_eq_ok {v : LedgerValues} {row : LedgerRow} (h : v.row = .ok row) :
    row.slot = v.slot ∧ row.refLine = v.refLine ∧ row.delta = v.delta ∧
      row.afterQty = v.afterQty ∧ row.reasonCanon = v.reasonCanon ∧ row.eventId = v.eventId ∧
      Varchar.store 32 v.reason = .ok row.reason ∧ Varchar.store 128 v.ref = .ok row.ref := by
  unfold LedgerValues.row at h
  simp only [bind, Except.bind] at h
  split at h
  · cases h
  · rename_i reason hreason
    split at h
    · cases h
    · split at h
      · cases h
      · rename_i ref href
        split at h
        · cases h
        · split at h
          · split at h
            · cases h
              exact ⟨rfl, rfl, rfl, rfl, rfl, rfl, hreason, href⟩
            · cases h
          · cases h

/-- Values that fit their columns and pass the checks make a row. -/
theorem LedgerValues.row_isOk {v : LedgerValues} {reason : Varchar 32}
    {subReason : Option (Varchar 32)} {ref : Varchar 128} {traceId : Option (Varchar 64)}
    (hreason : Varchar.store 32 v.reason = .ok reason)
    (hsub : Varchar.store? 32 v.subReason = .ok subReason)
    (href : Varchar.store 128 v.ref = .ok ref)
    (htrace : Varchar.store? 64 v.traceId = .ok traceId) (hafter : 0 ≤ v.afterQty)
    (hdates : (∀ c ∈ v.reasonCanon, c = .receipt) ∨
      (v.productionDate = none ∧ v.expiryDate = none)) :
    ∃ row, v.row = .ok row := by
  unfold LedgerValues.row
  simp only [bind, Except.bind, hreason, hsub, href, htrace, dif_pos hafter, dif_pos hdates]
  exact ⟨_, rfl⟩

end Wms

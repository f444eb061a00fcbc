import Wms.Stock.DirectShip
import Wms.Stock.Snapshots

/-!
# Rebuilding the balances

`rebuild_stocks_lot` empties `stocks_lot` and fills it again from the ledger: one row for
each slot whose amounts do not add up to zero. Where the ledger explains the balances
this succeeds and gives every slot the balance that it had; the rows that held zero are
gone.
-/

namespace Wms

open Foundation

/-- The arguments of `rebuild_stocks_lot`, and the environment variable that it reads. -/
structure RebuildCall where
  timeFrom : Option ℤ
  timeTo : Option ℤ
  allowTruncate : Bool
  allowInProd : Bool
  wmsEnv : Option String

/-- What the function returns. -/
structure RebuildSummary where
  slotCount : ℕ
  totalQty : ℤ
  env : Option String
  timeFrom : Option ℤ
  timeTo : Option ℤ
  allowTruncate : Bool
  allowInProd : Bool
  deriving DecidableEq

namespace RebuildCall

/-- The name of the environment. -/
def env (call : RebuildCall) : String := lower (strip (call.wmsEnv.getD ""))

/-- `is_prod_like`. -/
def IsProdLike (call : RebuildCall) : Prop := call.env = "prod" ∨ call.env = "production"

instance (call : RebuildCall) : Decidable call.IsProdLike := inferInstanceAs (Decidable (_ ∨ _))

/-- The row lies in the window of the call; without a window all rows do. -/
def InWindow (call : RebuildCall) (r : LedgerRow) : Prop :=
  (∀ t ∈ call.timeFrom, t ≤ r.occurredAt) ∧ ∀ t ∈ call.timeTo, r.occurredAt ≤ t

instance (call : RebuildCall) : DecidablePred call.InWindow := fun _ =>
  inferInstanceAs (Decidable (_ ∧ _))

/-- The switches of the call let it proceed. -/
def Armed (call : RebuildCall) : Prop :=
  call.allowTruncate = true ∧ (call.IsProdLike → call.allowInProd = true)

instance (call : RebuildCall) : Decidable call.Armed := inferInstanceAs (Decidable (_ ∧ _))

end RebuildCall

/-- `TRUNCATE TABLE stocks_lot`. -/
def Books.truncateStocksLot (b : Books) : Books where
  lots := b.lots
  stocksLot := ∅
  stockLedger := b.stockLedger
  slot_fk _ h := absurd h (AList.notMem_empty _)

/-- The rows of `GROUP BY warehouse_id, item_id, lot_id HAVING SUM(delta) != 0`. -/
def ledgerGroups (rows : List LedgerRow) : List (SlotKey × ℤ) :=
  (Dict.tally LedgerRow.slot LedgerRow.delta rows).filter fun p => p.2 ≠ 0

/-- Insert a row into `stocks_lot`. -/
def insertStock (k : SlotKey) (q : ℤ) : Tx Books Err PUnit := do
  let b ← get
  Tx.failIf (k ∈ b.stocksLot) (.integrityError "uq_stocks_lot_item_wh_lot")
  Tx.failIf (q < 0) (.integrityError "ck_stocks_lot_qty_nonneg")
  if h : b.HasLot k then set (b.putQty k q h)
  else throw (.integrityError "fk_stocks_lot_lot_dims")

/-- The summary of the balances. -/
def RebuildCall.summary (call : RebuildCall) (b : Books) : RebuildSummary where
  slotCount := b.stocksLot.entries.length
  totalQty := b.onHand
  env := if call.env = "" then none else some call.env
  timeFrom := call.timeFrom
  timeTo := call.timeTo
  allowTruncate := true
  allowInProd := call.allowInProd

/-- `rebuild_stocks_lot`. -/
def rebuildStocksLot (call : RebuildCall) : Tx Books Err RebuildSummary := do
  Tx.failIf (call.allowTruncate = false)
    (.valueError "rebuild_stocks_lot is dangerous; set allow_truncate=True to proceed.")
  Tx.failIf (call.IsProdLike ∧ call.allowInProd = false) (.valueError
    "rebuild_stocks_lot is blocked in production; set allow_in_prod=True to proceed.")
  let b ← get
  set b.truncateStocksLot
  forM (ledgerGroups (b.stockLedger.rows.filter call.InWindow)) fun p => insertStock p.1 p.2
  let b ← get
  return call.summary b

/-! ## What is rebuilt -/

variable {b b' : Books} {k : SlotKey} {q : ℤ}

theorem mem_ledgerGroups {rows : List LedgerRow} :
    (k, q) ∈ ledgerGroups rows ↔ q = ledgerSum rows k ∧ q ≠ 0 :=
  mem_nonzero_tally

theorem nodup_ledgerGroups (rows : List LedgerRow) :
    ((ledgerGroups rows).map Prod.fst).Nodup :=
  (Dict.tally_spec LedgerRow.slot LedgerRow.delta rows).1.sublist
    (List.filter_sublist.map Prod.fst)

/-- A new row that the constraints of the table allow is inserted. -/
theorem insertStock_run (hnew : k ∉ b.stocksLot) (hq : 0 ≤ q) (hlot : b.HasLot k) :
    (insertStock k q).run b = .ok (⟨⟩, b.putQty k q hlot) := by
  unfold insertStock
  simp only [Tx.run_bind_ok, Tx.run_get_ok, Tx.run_failIf_ok]
  refine ⟨b, b, ⟨rfl, rfl⟩, ⟨⟩, b, ⟨hnew, rfl⟩, ⟨⟩, b, ⟨by omega, rfl⟩, ?_⟩
  rw [dif_pos hlot, Tx.run_set_ok]

/-- Rows for different slots without a row are inserted one after the other. -/
theorem insertStocks_run {rs : List (SlotKey × ℤ)} (hnodup : (rs.map Prod.fst).Nodup)
    (hnew : ∀ r ∈ rs, r.1 ∉ b.stocksLot) (hq : ∀ r ∈ rs, 0 ≤ r.2) (hlot : ∀ r ∈ rs, b.HasLot r.1) :
    ∃ b', (forM rs fun r => insertStock r.1 r.2).run b = .ok (⟨⟩, b') ∧ b'.lots = b.lots ∧
      b'.stockLedger = b.stockLedger ∧
      ∀ k q, b'.stocksLot.lookup k = some q ↔ b.stocksLot.lookup k = some q ∨ (k, q) ∈ rs := by
  induction rs generalizing b with
  | nil => exact ⟨b, Tx.run_forM_nil_ok.mpr rfl, rfl, rfl, by simp⟩
  | cons r rs ih =>
    obtain ⟨hr, hrest⟩ := List.nodup_cons.mp hnodup
    have hhead := hlot r List.mem_cons_self
    have hne : ∀ p ∈ rs, p.1 ≠ r.1 := fun p hp heq => hr (heq ▸ List.mem_map_of_mem hp)
    have hnext : ∀ p ∈ rs, p.1 ∉ (b.putQty r.1 r.2 hhead).stocksLot := by
      intro p hp hmem
      rcases (AList.mem_insert _).mp hmem with heq | hold
      · exact hne p hp heq
      · exact hnew p (List.mem_cons_of_mem _ hp) hold
    obtain ⟨b', hrun, hlots, hledger, hlookup⟩ := ih hrest hnext
      (fun p hp => hq p (List.mem_cons_of_mem _ hp))
      (fun p hp => hlot p (List.mem_cons_of_mem _ hp))
    refine ⟨b', ?_, hlots, hledger, fun k q => ?_⟩
    · have hfirst := insertStock_run (hnew r List.mem_cons_self) (hq r List.mem_cons_self) hhead
      exact Tx.run_forM_cons_ok.mpr ⟨_, hfirst, hrun⟩
    · rw [hlookup, List.mem_cons, ← or_assoc]
      refine or_congr_left ?_
      change (b.stocksLot.insert r.1 r.2).lookup k = some q ↔ _
      by_cases hk : k = r.1
      · have hnone := AList.lookup_eq_none.mpr (hnew r List.mem_cons_self)
        rw [hk, AList.lookup_insert, hnone, Option.some.injEq]
        constructor
        · intro hrq
          exact .inr (by rw [← hrq])
        · rintro (hold | heq)
          · cases hold
          · rw [← heq]
      · rw [AList.lookup_insert_ne hk]
        constructor
        · exact .inl
        · rintro (hold | heq)
          · exact hold
          · exact absurd (congrArg Prod.fst heq) hk

/-- A slot whose balance is not zero has a row. -/
theorem mem_stocksLot_of_stock_ne_zero (h : b.stock k ≠ 0) : k ∈ b.stocksLot := by
  by_contra hnot
  exact h (Books.stock_of_notMem hnot)

/-- The books after a rebuild: each slot whose balance is not zero has a row with it, and
no other slot has one. -/
structure Rebuilt (b b' : Books) : Prop where
  lots_eq : b'.lots = b.lots
  ledger_eq : b'.stockLedger = b.stockLedger
  lookup_iff : ∀ k q, b'.stocksLot.lookup k = some q ↔ q = b.stock k ∧ q ≠ 0

/-- Where the balances are the sums of the ledger and none is negative, a rebuild without a
window succeeds. -/
theorem rebuildStocksLot_run {call : RebuildCall}
    (hsums : ∀ k, ledgerSum b.stockLedger.rows k = b.stock k) (hnonneg : ∀ k, 0 ≤ b.stock k)
    (harmed : call.Armed) (hfrom : call.timeFrom = none) (hto : call.timeTo = none) :
    ∃ b', (rebuildStocksLot call).run b = .ok (call.summary b', b') ∧ Rebuilt b b' := by
  have hwindow : b.stockLedger.rows.filter call.InWindow = b.stockLedger.rows := by
    rw [List.filter_eq_self]
    intro r _
    have hall : call.InWindow r := ⟨by simp [hfrom], by simp [hto]⟩
    exact decide_eq_true hall
  have hgroup : ∀ r ∈ ledgerGroups b.stockLedger.rows, r.2 = b.stock r.1 ∧ r.2 ≠ 0 := by
    intro r hr
    obtain ⟨hsum, hne⟩ := mem_ledgerGroups.mp hr
    exact ⟨hsum.trans (hsums r.1), hne⟩
  have hlot : ∀ r ∈ ledgerGroups b.stockLedger.rows, b.truncateStocksLot.HasLot r.1 := by
    intro r hr
    obtain ⟨hsum, hne⟩ := hgroup r hr
    rw [hsum] at hne
    exact (Books.hasLot_of_mem (mem_stocksLot_of_stock_ne_zero hne) : b.HasLot r.1)
  obtain ⟨b', hrun, hlots, hledger, hlookup⟩ := insertStocks_run (b := b.truncateStocksLot)
    (nodup_ledgerGroups b.stockLedger.rows) (fun _ _ => AList.notMem_empty _)
    (fun r hr => by rw [(hgroup r hr).1]; exact hnonneg r.1) hlot
  refine ⟨b', ?_, hlots, hledger, fun k q => ?_⟩
  · unfold rebuildStocksLot
    simp only [Tx.run_bind_ok, Tx.run_failIf_ok, Tx.run_get_ok, Tx.run_set_ok, Tx.run_pure_ok]
    rw [← hwindow] at hrun
    refine ⟨⟨⟩, b, ⟨?_, rfl⟩, ⟨⟩, b, ⟨?_, rfl⟩, b, b, ⟨rfl, rfl⟩, ⟨⟩, _, rfl, ⟨⟩, b', hrun, b', b',
      ⟨rfl, rfl⟩, rfl, rfl⟩
    · rw [harmed.1]
      simp
    · rintro ⟨hprod, hnot⟩
      rw [harmed.2 hprod] at hnot
      cases hnot
  · rw [hlookup, mem_ledgerGroups, hsums]
    change (AList.lookup k (∅ : AList fun _ : SlotKey => ℤ)) = some q ∨ _ ↔ _
    rw [AList.lookup_empty]
    simp

namespace Rebuilt

theorem stock_eq (h : Rebuilt b b') : b'.stock = b.stock := by
  funext k
  cases hlookup : b'.stocksLot.lookup k with
  | none =>
    have hzero : b.stock k = 0 := by
      by_contra hne
      rw [(h.lookup_iff k _).mpr ⟨rfl, hne⟩] at hlookup
      cases hlookup
    rw [hzero, Books.stock_of_notMem (AList.lookup_eq_none.mp hlookup)]
  | some q =>
    rw [Books.stock_of_lookup hlookup]
    exact ((h.lookup_iff k q).mp hlookup).1

/-- Exactly the slots that hold something have a row. -/
theorem mem_iff (h : Rebuilt b b') : k ∈ b'.stocksLot ↔ b.stock k ≠ 0 := by
  rw [← AList.lookup_isSome, Option.isSome_iff_exists]
  constructor
  · rintro ⟨q, hq⟩
    obtain ⟨rfl, hne⟩ := (h.lookup_iff k q).mp hq
    exact hne
  · intro hne
    exact ⟨_, (h.lookup_iff k _).mpr ⟨rfl, hne⟩⟩

end Rebuilt

end Wms

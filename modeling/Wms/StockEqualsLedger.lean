import Wms.System

/-!
# Stock equals ledger

Every balance is the sum of the ledger amounts of its slot, is not negative, and is the
balance that the last ledger row of the slot records. Every writer of stock keeps this,
except a direct adjustment whose ledger row is swallowed as a repetition although the
idempotency probe did not recognise it.
-/

namespace Wms

open Foundation Foundation.Journal

/-- The ledger explains every balance. -/
structure Books.StockEqualsLedger (b : Books) : Prop where
  stock_eq_sum : ∀ k, b.stock k =
    ((b.stockLedger.rows.filter fun r => r.slot = k).map LedgerRow.delta).sum
  stock_nonneg : ∀ k, 0 ≤ b.stock k
  stock_eq_last : ∀ k r, (b.stockLedger.rows.filter fun r => r.slot = k).getLast? = some r →
    b.stock k = r.afterQty

/-- The journal leads from empty balances to the present ones. -/
def Books.Journaled (b : Books) : Prop := Posts (fun _ => 0) b.journal b.stock

theorem journaled_empty : Books.empty.Journaled := rfl

theorem Books.Journaled.of_booked {b b' : Books} (h : b.Journaled) (hbooked : Booked b b') :
    b'.Journaled := by
  obtain ⟨ps, hjournal, hposts⟩ := hbooked
  unfold Books.Journaled
  rw [hjournal]
  exact Posts.append h hposts

/-- The postings of a slot are those of its ledger rows. -/
theorem filter_journal (b : Books) (k : SlotKey) :
    b.journal.filter (fun p => p.key = k) =
      (b.stockLedger.rows.filter fun r => r.slot = k).map LedgerRow.posting := by
  unfold Books.journal
  rw [List.filter_map]
  rfl

theorem movement_journal (b : Books) (k : SlotKey) :
    movement k b.journal =
      ((b.stockLedger.rows.filter fun r => r.slot = k).map LedgerRow.delta).sum := by
  unfold movement
  rw [filter_journal, List.map_map]
  rfl

/-- Journaled balances are explained by the ledger. -/
theorem Books.Journaled.stockEqualsLedger {b : Books} (h : b.Journaled) :
    b.StockEqualsLedger where
  stock_eq_sum k := by
    rw [← movement_journal, Posts.balance h k, zero_add]
  stock_nonneg _ := Posts.nonneg h (le_refl 0)
  stock_eq_last k r hlast := by
    have hposting : (b.journal.filter fun p => p.key = k).getLast? = some r.posting := by
      rw [filter_journal, List.getLast?_map, hlast]
      rfl
    exact Posts.last h hposting

/-- An accepted operation moves balances and ledger together unless it is swallowed. -/
theorem Op.exec_booked {op : Op} {db db' : Database} {u : PUnit}
    (h : op.exec.run db = .ok (u, db')) (hnot : ¬op.Swallowed db) : Booked db.books db'.books := by
  rcases (Op.step_of_exec h).bookedIn hnot with ⟨w, -, hbooked⟩ | hbooks
  · exact hbooked.booked
  · rw [hbooks]
    exact (refl_of (BookedIn 0) db.books).booked

/-- A swallowed adjustment leaves a balance that the ledger does not explain. -/
theorem Op.not_stockEqualsLedger_of_swallowed {op : Op} {db db' : Database} {u : PUnit}
    (h : op.exec.run db = .ok (u, db')) (hswallowed : op.Swallowed db)
    (hequal : db.books.StockEqualsLedger) : ¬db'.books.StockEqualsLedger := by
  cases op with
  | adjustLot pms utcNow call =>
    obtain ⟨out, hadjust, -⟩ := adjustLotDirectly_run_ok h
    obtain ⟨a, hdelta, hover⟩ := adjustLot_overwrites hswallowed hadjust
    intro hequal'
    have hbefore := hequal.stock_eq_sum a.slot
    have hafter := hequal'.stock_eq_sum a.slot
    rw [← movement_journal] at hbefore hafter
    rw [hover.journal_eq, hover.stock_eq, Function.update_self] at hafter
    omega
  | _ => exact hswallowed.elim

/-! ## Runs -/

/-- A run in which no adjustment is swallowed keeps the balances explained by the ledger. -/
theorem journaled_of_allAccepted {ops : List Op}
    (h : Tx.AllAccepted Op.exec (fun op db => ¬op.Swallowed db) ops Database.empty) :
    (Database.after ops).books.Journaled := by
  refine Tx.attemptAll_invariant (I := fun db : Database => db.books.Journaled)
    (P := fun op db => ¬op.Swallowed db) ?_ journaled_empty h
  intro op db u db' hjournaled hnot hrun
  exact hjournaled.of_booked (Op.exec_booked hrun hnot)

theorem journaled_after {ops : List Op} (hnot : ∀ op ∈ ops, ∀ db, ¬op.Swallowed db) :
    (Database.after ops).books.Journaled := by
  apply journaled_of_allAccepted
  exact Tx.allAccepted_of_at fun n op u db' hop hrun => hnot op (List.mem_of_getElem? hop) _

/-- In every state of the run the ledger explains the balances, and every step moves
balances and ledger together. -/
def Explained (ops : List Op) : Prop :=
  (∀ n, (Database.after (ops.take n)).books.StockEqualsLedger) ∧
    ∀ n, Booked (Database.after (ops.take n)).books (Database.after (ops.take (n + 1))).books

/-- Stock equals ledger in every state of a run from empty tables, and every step moves
both together, exactly when no accepted adjustment has its ledger row swallowed. -/
theorem explained_iff (ops : List Op) :
    Explained ops ↔
      Tx.AllAccepted Op.exec (fun op db => ¬op.Swallowed db) ops Database.empty := by
  have hstates : (∀ n, (Database.after (ops.take n)).books.StockEqualsLedger) ↔
      Tx.AllAccepted Op.exec (fun op db => ¬op.Swallowed db) ops Database.empty :=
    Tx.forall_attemptAll_iff (I := fun db : Database => db.books.Journaled)
      (Q := fun db : Database => db.books.StockEqualsLedger)
      (fun op db u db' hjournaled hnot hrun => hjournaled.of_booked (Op.exec_booked hrun hnot))
      (fun db hjournaled => hjournaled.stockEqualsLedger)
      (fun op db u db' hjournaled hrun hequal hswallowed =>
        Op.not_stockEqualsLedger_of_swallowed hrun hswallowed hjournaled.stockEqualsLedger hequal)
      journaled_empty
  constructor
  · intro h
    exact hstates.mp h.1
  · intro h
    refine ⟨hstates.mpr h, fun n => ?_⟩
    exact Tx.forall_step_attemptAll (R := fun db db' : Database => Booked db.books db'.books)
      (fun db => (refl_of (BookedIn 0) db.books).booked)
      (fun op db u db' hnot hrun => op.exec_booked hrun hnot) h n

/-- The request to add one piece, under some reference. -/
def addOne (ref : String) : AdjustCall where
  itemId := 1
  warehouseId := 1
  lotId := some 1
  delta := 1
  reason := "ADJUSTMENT"
  ref := ref
  refLine := none
  occurredAt := none
  info := ⟨false, none, none⟩
  lotCode := none
  productionDate := none
  expiryDate := none
  traceId := none

/-- A reference that fills its column, followed by blanks. -/
def fullRef (blanks : ℕ) : String :=
  String.ofList (List.replicate 128 'x' ++ List.replicate blanks ' ')

/-- The second adjustment has the reference of the first with one blank more: the probe
takes it for new and the ledger for a repetition. -/
def swallowedRun : List Op :=
  stocked ++ [.adjustLot plainPms 0 (addOne (fullRef 0)), .adjustLot plainPms 0 (addOne (fullRef 1))]

/-- Afterwards twelve pieces are in stock and eleven in the ledger. -/
theorem not_explained_swallowedRun : ¬Explained swallowedRun := by
  intro h
  have hsum := (h.1 4).stock_eq_sum ⟨1, 1, 1⟩
  exact absurd hsum (by decide +kernel)

end Wms

import Wms.Stock.Snapshots
import Wms.StockEqualsLedger
import Wms.ReceiptDates

/-!
# What the comparison of the books enforces

A commit whose effects are in the ledger passes on the day of its snapshot, and effects
that the ledger does not have never pass. The balances are compared with the snapshot
only, and only the totals of the touched items; whether the ledger adds up to a balance
is not looked at.
-/

namespace Wms

open Foundation

/-- A ledger row that the check may take for an effect. -/
def BookEffect.Finds (ref : String) (e : BookEffect) (r : LedgerRow) : Prop :=
  r.slot = e.slot ∧ r.ref.text = ref ∧ r.refLine = e.refLine ∧
    ∀ reason ∈ e.lookupReason, r.reason.text = reason

/-- The ledger has rows for the effect, all of them with its amount. -/
structure BookEffect.Written (ref : String) (b : Books) (e : BookEffect) : Prop where
  found : ∃ r ∈ b.stockLedger.rows, e.Finds ref r
  delta_eq : ∀ r ∈ b.stockLedger.rows, e.Finds ref r → r.delta = e.qty

/-- What `enforce_three_books` accepts and rejects on some books. -/
structure EnforcesBooks (today : Date) (b : Books) (snapshots : List StockSnapshot) : Prop where
  /-- Written effects pass on the day of the snapshot. -/
  accepts : ∀ ref effects, (∀ e ∈ effects, BookEffect.Written ref b e) →
    ∃ s, enforceThreeBooks today today ref effects b snapshots = .ok s
  /-- On every day an effect must have a ledger row with its amount. -/
  rejects_unwritten : ∀ ref day effects, (∃ e ∈ effects,
      ¬∃ r ∈ b.stockLedger.rows, e.Finds ref r ∧ r.delta = e.qty) →
    ∃ err, enforceThreeBooks today day ref effects b snapshots = .error err
  /-- On every day the totals of the touched items must agree with the snapshot. -/
  rejects_totals : ∀ ref day effects, (∃ e ∈ effects,
      b.itemTotal e.slot.warehouseId e.slot.itemId ≠ snapshotTotal
        (runSnapshot today b snapshots) day e.slot.warehouseId e.slot.itemId) →
    ∃ err, enforceThreeBooks today day ref effects b snapshots = .error err

variable {today day : Date} {b : Books} {snapshots : List StockSnapshot} {ref : String}
  {effects : List BookEffect} {e : BookEffect}

/-- The amount that is looked up is that of one of the rows found. -/
theorem BookEffect.exists_of_ledgerDelta {delta : ℤ} (h : e.ledgerDelta ref b = some delta) :
    ∃ r ∈ b.stockLedger.rows, e.Finds ref r ∧ r.delta = delta := by
  unfold BookEffect.ledgerDelta at h
  obtain ⟨r, hfind, rfl⟩ := Option.map_eq_some_iff.mp h
  have hmatch := List.find?_some hfind
  rw [decide_eq_true_eq] at hmatch
  exact ⟨r, List.mem_of_find?_eq_some hfind, hmatch, rfl⟩

theorem BookEffect.Written.ledgerDelta_eq (h : e.Written ref b) :
    e.ledgerDelta ref b = some e.qty := by
  obtain ⟨r, hr, hfinds⟩ := h.found
  have hsome : (e.ledgerDelta ref b).isSome := by
    unfold BookEffect.ledgerDelta
    rw [Option.isSome_map, List.find?_isSome]
    exact ⟨r, hr, decide_eq_true hfinds⟩
  obtain ⟨delta, hdelta⟩ := Option.isSome_iff_exists.mp hsome
  obtain ⟨r', hr', hfinds', hamount⟩ := BookEffect.exists_of_ledgerDelta hdelta
  rw [hdelta, ← hamount, h.delta_eq r' hr' hfinds']

/-- What does not pass raises an error. -/
theorem enforceThreeBooks_eq_error
    (h : ¬∀ e ∈ effects, e.ledgerDelta ref b = some e.qty ∧
      b.itemTotal e.slot.warehouseId e.slot.itemId = snapshotTotal
        (runSnapshot today b snapshots) day e.slot.warehouseId e.slot.itemId) :
    ∃ err, enforceThreeBooks today day ref effects b snapshots = .error err := by
  cases henforce : enforceThreeBooks today day ref effects b snapshots with
  | error err => exact ⟨err, rfl⟩
  | ok s => exact absurd (enforceThreeBooks_eq_ok_iff.mp henforce).2 h

/-- On all books, written effects pass on the day of the snapshot; effects without their
ledger row, and touched items whose total is not that of the snapshot, never do. -/
theorem enforcesBooks (today : Date) (b : Books) (snapshots : List StockSnapshot) :
    EnforcesBooks today b snapshots where
  accepts ref effects hwritten := by
    refine ⟨_, enforceThreeBooks_eq_ok_iff.mpr ⟨rfl, fun e he => ⟨?_, ?_⟩⟩⟩
    · exact (hwritten e he).ledgerDelta_eq
    · rw [snapshotTotal_runSnapshot]
  rejects_unwritten ref day effects := by
    rintro ⟨e, he, hnone⟩
    refine enforceThreeBooks_eq_error fun hall => ?_
    exact hnone (BookEffect.exists_of_ledgerDelta (hall e he).1)
  rejects_totals ref day effects := by
    rintro ⟨e, he, hne⟩
    exact enforceThreeBooks_eq_error fun hall => hne (hall e he).2

/-- The effect of an adjustment by one piece. -/
def oneMore : BookEffect := ⟨⟨1, 1, 1⟩, 1, 1, none⟩

/-- After a swallowed adjustment the ledger does not add up to the balance of the touched
slot, and the books pass. -/
theorem enforceThreeBooks_swallowedRun :
    (Database.after swallowedRun).books.stock oneMore.slot ≠
        ledgerSum (Database.after swallowedRun).books.stockLedger.rows oneMore.slot ∧
      ∃ s, enforceThreeBooks producedOn producedOn (fullRef 0) [oneMore]
        (Database.after swallowedRun).books [] = .ok s := by
  refine ⟨by decide +kernel, ?_⟩
  have hdelta : oneMore.ledgerDelta (fullRef 0) (Database.after swallowedRun).books = some 1 := by
    decide +kernel
  refine ⟨_, enforceThreeBooks_eq_ok_iff.mpr ⟨rfl, fun e he => ?_⟩⟩
  rw [List.mem_singleton.mp he, snapshotTotal_runSnapshot]
  exact ⟨hdelta, rfl⟩

end Wms

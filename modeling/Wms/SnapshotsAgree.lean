import Wms.Stock.Snapshots
import Wms.StockEqualsLedger
import Wms.ReceiptDates

/-!
# The two snapshots of today

Where the balances are the sums of the ledger, the snapshot that is copied from the
balances and the one that is added up from the ledger differ by the movements that are
dated after today: the balances already have them, and the ledger up to today does not.
-/

namespace Wms

open Foundation

/-- Two snapshots of a day have the same rows with a quantity other than zero. -/
def AgreeOn (day : Date) (s s' : List StockSnapshot) : Prop :=
  ∀ k q, q ≠ 0 → (⟨day, k, q⟩ ∈ s ↔ ⟨day, k, q⟩ ∈ s')

/-- The rows of other days. -/
def otherDays (day : Date) (s : List StockSnapshot) : List StockSnapshot :=
  s.filter fun x => x.snapshotDate ≠ day

/-- How the two builders of the snapshot of today behave on some books. -/
structure BuildersOf (today : Date) (b : Books) (snapshots : List StockSnapshot) : Prop where
  /-- The ledger gives a snapshot unless some slot adds up to less than nothing. -/
  rebuild_isOk : (∃ s, rebuildSnapshotFromLedger today b snapshots = .ok s) ↔
    ∀ k, 0 ≤ ledgerSum (b.ledgerUpTo today) k
  /-- Then the snapshots agree exactly when the later movements of each slot cancel out. -/
  agree_iff : ∀ s, rebuildSnapshotFromLedger today b snapshots = .ok s →
    (AgreeOn today (runSnapshot today b snapshots) s ↔ ∀ k, ledgerSum (b.ledgerAfter today) k = 0)
  run_idempotent : runSnapshot today b (runSnapshot today b snapshots) =
    runSnapshot today b snapshots
  rebuild_idempotent : ∀ s, rebuildSnapshotFromLedger today b snapshots = .ok s →
    rebuildSnapshotFromLedger today b s = .ok s
  run_otherDays : otherDays today (runSnapshot today b snapshots) = otherDays today snapshots
  rebuild_otherDays : ∀ s, rebuildSnapshotFromLedger today b snapshots = .ok s →
    otherDays today s = otherDays today snapshots

variable {today : Date} {b : Books} {snapshots s : List StockSnapshot}

/-- Rows of the day do not count as rows of other days. -/
theorem otherDays_append {rows : List StockSnapshot} (h : ∀ x ∈ rows, x.snapshotDate = today) :
    otherDays today (otherDays today snapshots ++ rows) = otherDays today snapshots := by
  have hnone : otherDays today rows = [] := by
    rw [otherDays, List.filter_eq_nil_iff]
    intro x hx
    simp [h x hx]
  unfold otherDays at hnone ⊢
  rw [List.filter_append, hnone, List.append_nil, List.filter_filter]
  simp

theorem runSnapshot_eq (today : Date) (b : Books) (snapshots : List StockSnapshot) :
    runSnapshot today b snapshots = otherDays today snapshots ++
      b.stocksLot.keys.map fun k => ⟨today, k, b.stock k⟩ := rfl

theorem otherDays_runSnapshot (today : Date) (b : Books) (snapshots : List StockSnapshot) :
    otherDays today (runSnapshot today b snapshots) = otherDays today snapshots := by
  refine otherDays_append fun x hx => ?_
  obtain ⟨k, -, rfl⟩ := List.mem_map.mp hx
  rfl

theorem otherDays_rebuild (h : rebuildSnapshotFromLedger today b snapshots = .ok s) :
    otherDays today s = otherDays today snapshots := by
  rw [← (rebuildSnapshotFromLedger_eq_ok.mp h).2]
  exact otherDays_append fun x hx => snapshotDate_of_mem hx

/-- A slot without a balance has nothing in stock, so its copied row is one with a
quantity exactly when the balance is that quantity. -/
theorem mem_runSnapshot_of_ne {k : SlotKey} {q : ℤ} (hq : q ≠ 0) :
    ⟨today, k, q⟩ ∈ runSnapshot today b snapshots ↔ q = b.stock k := by
  rw [mem_runSnapshot]
  refine ⟨fun h => h.2, fun h => ⟨?_, h⟩⟩
  by_contra hmem
  rw [Books.stock_of_notMem hmem] at h
  exact hq h

theorem mem_rebuild {k : SlotKey} {q : ℤ}
    (h : rebuildSnapshotFromLedger today b snapshots = .ok s) :
    ⟨today, k, q⟩ ∈ s ↔ q = ledgerSum (b.ledgerUpTo today) k ∧ q ≠ 0 := by
  rw [← (rebuildSnapshotFromLedger_eq_ok.mp h).2, List.mem_append, mem_snapshotFromLedger]
  refine ⟨fun hmem => hmem.resolve_left fun hother => ?_, .inr⟩
  have hday := (List.mem_filter.mp hother).2
  simp at hday

/-- The snapshots agree exactly when every balance is the sum of its ledger up to today. -/
theorem agreeOn_iff (h : rebuildSnapshotFromLedger today b snapshots = .ok s) :
    AgreeOn today (runSnapshot today b snapshots) s ↔
      ∀ k, b.stock k = ledgerSum (b.ledgerUpTo today) k := by
  constructor
  · intro hagree k
    by_cases hzero : b.stock k = 0
    · by_contra hne
      have hsum : ledgerSum (b.ledgerUpTo today) k ≠ 0 := by omega
      have hcopied := (hagree k _ hsum).mpr ((mem_rebuild h).mpr ⟨rfl, hsum⟩)
      exact hne ((mem_runSnapshot_of_ne hsum).mp hcopied).symm
    · have hsummed := (hagree k _ hzero).mp ((mem_runSnapshot_of_ne hzero).mpr rfl)
      exact ((mem_rebuild h).mp hsummed).1
  · intro hequal k q hq
    rw [mem_runSnapshot_of_ne hq, mem_rebuild h, hequal k]
    exact ⟨fun heq => ⟨heq, hq⟩, fun heq => heq.1⟩

/-- Where every balance is the sum of its ledger, the two builders of the snapshot of today
differ exactly by the movements that are dated later; each gives the same rows when it
runs again, and leaves the other days alone. -/
theorem buildersOf (hsum : ∀ k, b.stock k = ledgerSum b.stockLedger.rows k) (today : Date)
    (snapshots : List StockSnapshot) : BuildersOf today b snapshots where
  rebuild_isOk := by
    constructor
    · rintro ⟨s, hs⟩
      exact (rebuildSnapshotFromLedger_eq_ok.mp hs).1
    · intro hnonneg
      exact ⟨_, rebuildSnapshotFromLedger_eq_ok.mpr ⟨hnonneg, rfl⟩⟩
  agree_iff s hs := by
    rw [agreeOn_iff hs]
    refine forall_congr' fun k => ?_
    have hsplit := ledgerSum_split b today k
    have hstock := hsum k
    omega
  run_idempotent := by
    rw [runSnapshot_eq, otherDays_runSnapshot]
    rfl
  rebuild_idempotent s hs := by
    obtain ⟨hnonneg, hrows⟩ := rebuildSnapshotFromLedger_eq_ok.mp hs
    refine rebuildSnapshotFromLedger_eq_ok.mpr ⟨hnonneg, ?_⟩
    have hother := otherDays_rebuild hs
    unfold otherDays at hother
    rw [hother]
    exact hrows
  run_otherDays := otherDays_runSnapshot today b snapshots
  rebuild_otherDays s hs := otherDays_rebuild hs

/-! ## Movements of tomorrow -/

theorem Books.StockEqualsLedger.ledgerSum_eq (h : b.StockEqualsLedger) (k : SlotKey) :
    b.stock k = ledgerSum b.stockLedger.rows k := h.stock_eq_sum k

/-- Goods are received on a day. -/
def receiveOn (day : Date) : List Op :=
  [.addWarehouse ⟨1, .lit "W"⟩,
    .commitInbound { receiveTwoItems with occurredAt := midnight day }]

theorem ledgerSum_receiveOn (day : Date) (k : SlotKey) :
    (Database.after (receiveOn day)).books.stock k =
      ledgerSum (Database.after (receiveOn day)).books.stockLedger.rows k := by
  have hnot : ∀ op ∈ receiveOn day, ∀ db, ¬op.Swallowed db := by
    intro op hop db
    rcases List.mem_cons.mp hop with rfl | hlast
    · exact id
    · rw [List.mem_singleton.mp hlast]
      exact id
  generalize receiveOn day = ops at hnot
  exact (journaled_after hnot).stockEqualsLedger.ledgerSum_eq k

/-- Goods that were received today are in both snapshots of today. -/
theorem buildersOf_receiveOn : BuildersOf producedOn (Database.after (receiveOn producedOn)).books [] :=
  buildersOf (ledgerSum_receiveOn producedOn) producedOn []

/-- Goods that are to be received later are in the copied snapshot of today only. -/
theorem not_agreeOn_receiveOn :
    (∀ k, (Database.after (receiveOn earlyExpiry)).books.stock k =
      ledgerSum (Database.after (receiveOn earlyExpiry)).books.stockLedger.rows k) ∧
    ∃ s, rebuildSnapshotFromLedger producedOn (Database.after (receiveOn earlyExpiry)).books [] =
        .ok s ∧
      ¬AgreeOn producedOn
        (runSnapshot producedOn (Database.after (receiveOn earlyExpiry)).books []) s := by
  refine ⟨ledgerSum_receiveOn earlyExpiry, ?_⟩
  have hbefore : (Database.after (receiveOn earlyExpiry)).books.ledgerUpTo producedOn = [] :=
    List.isEmpty_iff.mp (by decide +kernel)
  have hstock : (Database.after (receiveOn earlyExpiry)).books.stock ⟨1, 1, 1⟩ = 10 := by
    decide +kernel
  generalize (Database.after (receiveOn earlyExpiry)).books = b at hbefore hstock ⊢
  have hrebuilt : rebuildSnapshotFromLedger producedOn b [] = .ok [] := by
    refine rebuildSnapshotFromLedger_eq_ok.mpr ⟨fun k => ?_, ?_⟩
    · rw [hbefore]
      exact le_refl 0
    · unfold snapshotFromLedger
      rw [hbefore]
      rfl
  refine ⟨[], hrebuilt, fun hagree => ?_⟩
  have hmem := (hagree ⟨1, 1, 1⟩ 10 (by decide)).mp
    ((mem_runSnapshot_of_ne (by decide)).mpr hstock.symm)
  cases hmem

end Wms

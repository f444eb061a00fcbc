import Wms.Stock.ThreeBooks

/-!
# Snapshots of a day

The snapshot of a day is built in two ways: `run_snapshot` copies the balances as they
are now, and `rebuild_snapshot_from_ledger` adds up the ledger to the end of the day. Both
delete the rows of the day first and touch no other day.
-/

namespace Wms

open Foundation

/-! ## Days and times -/

/-- The number of days before a year, from 0001-01-01 on. -/
def daysBeforeYear (year : ℕ) : ℕ :=
  (year - 1) * 365 + (year - 1) / 4 - (year - 1) / 100 + (year - 1) / 400

/-- The number of days of a year before a month. -/
def daysBeforeMonth (year month : ℕ) : ℕ :=
  ((List.range' 1 (month - 1)).map (daysInMonth year)).sum

/-- `date.toordinal`. -/
def ordinal (d : Date) : ℕ := daysBeforeYear d.year + daysBeforeMonth d.year d.month + d.day

/-- The beginning of a day in UTC, in microseconds from 1970-01-01 on. -/
def midnight (d : Date) : ℤ := ((ordinal d : ℤ) - 719163) * 86400000000

example : ordinal ⟨1970, 1, 1, by decide⟩ = 719163 := by decide

example : ordinal ⟨2024, 3, 1, by decide⟩ = ordinal ⟨2024, 2, 28, by decide⟩ + 2 := by decide

/-! ## The ledger by slot -/

/-- The sum of the amounts of a slot over some rows. -/
def ledgerSum (rows : List LedgerRow) (k : SlotKey) : ℤ :=
  ((rows.filter fun r => r.slot = k).map LedgerRow.delta).sum

/-- The rows up to the end of a day in UTC. -/
def Books.ledgerUpTo (b : Books) (day : Date) : List LedgerRow :=
  b.stockLedger.rows.filter fun r => r.occurredAt < midnight day + 86400000000

/-- The rows after the end of a day. -/
def Books.ledgerAfter (b : Books) (day : Date) : List LedgerRow :=
  b.stockLedger.rows.filter fun r => ¬r.occurredAt < midnight day + 86400000000

theorem ledgerSum_tally (rows : List LedgerRow) (k : SlotKey) :
    ((Dict.tally LedgerRow.slot LedgerRow.delta rows).lookup k).getD 0 = ledgerSum rows k :=
  (Dict.tally_spec LedgerRow.slot LedgerRow.delta rows).2 k

theorem ledgerSum_cons (r : LedgerRow) (rows : List LedgerRow) (k : SlotKey) :
    ledgerSum (r :: rows) k = (if r.slot = k then r.delta else 0) + ledgerSum rows k := by
  unfold ledgerSum
  by_cases hk : r.slot = k <;> simp [hk]

/-- Grouping by slot gives a slot its sum, unless that is zero. -/
theorem mem_nonzero_tally {rows : List LedgerRow} {k : SlotKey} {q : ℤ} :
    (k, q) ∈ (Dict.tally LedgerRow.slot LedgerRow.delta rows).filter (fun p => p.2 ≠ 0) ↔
      q = ledgerSum rows k ∧ q ≠ 0 := by
  have hnodup := (Dict.tally_spec LedgerRow.slot LedgerRow.delta rows).1
  rw [List.mem_filter, ← ledgerSum_tally]
  constructor
  · rintro ⟨hmem, hne⟩
    refine ⟨?_, by simpa using hne⟩
    rw [Dict.lookup_of_mem hnodup hmem, Option.getD_some]
  · rintro ⟨hsum, hne⟩
    cases hlookup : (Dict.tally LedgerRow.slot LedgerRow.delta rows).lookup k with
    | none =>
      rw [hlookup] at hsum
      exact absurd hsum hne
    | some q' =>
      rw [hlookup] at hsum
      obtain rfl : q = q' := hsum
      exact ⟨Dict.mem_of_lookup hlookup, by simpa using hne⟩

/-- The rows up to the end of a day and those after it make up the ledger. -/
theorem ledgerSum_split (b : Books) (day : Date) (k : SlotKey) :
    ledgerSum b.stockLedger.rows k =
      ledgerSum (b.ledgerUpTo day) k + ledgerSum (b.ledgerAfter day) k := by
  unfold Books.ledgerUpTo Books.ledgerAfter
  induction b.stockLedger.rows with
  | nil => rfl
  | cons r rows ih =>
    by_cases hr : r.occurredAt < midnight day + 86400000000
    · rw [List.filter_cons_of_pos (by simpa using hr), List.filter_cons_of_neg (by simpa using hr),
        ledgerSum_cons, ledgerSum_cons, ih, add_assoc]
    · rw [List.filter_cons_of_neg (by simpa using hr), List.filter_cons_of_pos (by simpa using hr),
        ledgerSum_cons, ledgerSum_cons, ih]
      ring

/-! ## Building from the ledger -/

/-- The rows that the ledger gives for a day, one for each slot whose sum is not zero. -/
def snapshotFromLedger (day : Date) (b : Books) : List StockSnapshot :=
  ((Dict.tally LedgerRow.slot LedgerRow.delta (b.ledgerUpTo day)).filter fun p => p.2 ≠ 0).map
    fun p => ⟨day, p.1, p.2⟩

/-- `rebuild_snapshot_from_ledger`: the table refuses negative quantities. -/
def rebuildSnapshotFromLedger (day : Date) (b : Books) (snapshots : List StockSnapshot) :
    Except Err (List StockSnapshot) :=
  if ∃ s ∈ snapshotFromLedger day b, s.qty < 0 then
    .error (.integrityError "ck_stock_snapshots_qty_nonneg")
  else .ok (snapshots.filter (fun s => s.snapshotDate ≠ day) ++ snapshotFromLedger day b)

variable {b : Books} {snapshots snapshots' : List StockSnapshot} {day : Date}

/-- The ledger gives a slot its sum, unless that is zero. -/
theorem mem_snapshotFromLedger {k : SlotKey} {q : ℤ} :
    ⟨day, k, q⟩ ∈ snapshotFromLedger day b ↔ q = ledgerSum (b.ledgerUpTo day) k ∧ q ≠ 0 := by
  unfold snapshotFromLedger
  rw [← mem_nonzero_tally]
  constructor
  · intro h
    obtain ⟨⟨k', q'⟩, hp, heq⟩ := List.mem_map.mp h
    obtain ⟨-, rfl, rfl⟩ := StockSnapshot.mk.inj heq
    exact hp
  · intro h
    exact List.mem_map.mpr ⟨(k, q), h, rfl⟩

theorem snapshotDate_of_mem {s : StockSnapshot} (h : s ∈ snapshotFromLedger day b) :
    s.snapshotDate = day := by
  obtain ⟨p, -, rfl⟩ := List.mem_map.mp h
  rfl

/-- The snapshot is rebuilt exactly when no slot has a negative sum. -/
theorem rebuildSnapshotFromLedger_eq_ok :
    rebuildSnapshotFromLedger day b snapshots = .ok snapshots' ↔
      (∀ k, 0 ≤ ledgerSum (b.ledgerUpTo day) k) ∧
        snapshots.filter (fun s => s.snapshotDate ≠ day) ++ snapshotFromLedger day b =
          snapshots' := by
  have hnegative : (∃ s ∈ snapshotFromLedger day b, s.qty < 0) ↔
      ∃ k, ledgerSum (b.ledgerUpTo day) k < 0 := by
    constructor
    · rintro ⟨⟨d, k, q⟩, hs, hneg⟩
      obtain rfl : d = day := snapshotDate_of_mem hs
      refine ⟨k, ?_⟩
      rw [← (mem_snapshotFromLedger.mp hs).1]
      exact hneg
    · rintro ⟨k, hneg⟩
      exact ⟨⟨day, k, ledgerSum (b.ledgerUpTo day) k⟩,
        mem_snapshotFromLedger.mpr ⟨rfl, by omega⟩, hneg⟩
  unfold rebuildSnapshotFromLedger
  by_cases h : ∃ s ∈ snapshotFromLedger day b, s.qty < 0
  · obtain ⟨k, hneg⟩ := hnegative.mp h
    rw [if_pos h]
    refine iff_of_false nofun fun hok => ?_
    have hnonneg := hok.1 k
    omega
  · rw [if_neg h, Except.ok.injEq]
    refine ⟨fun heq => ⟨fun k => ?_, heq⟩, fun hok => hok.2⟩
    have hno := mt hnegative.mpr h
    push Not at hno
    exact hno k

/-- A balance is copied to the snapshot of the day. -/
theorem mem_runSnapshot {k : SlotKey} {q : ℤ} :
    ⟨day, k, q⟩ ∈ runSnapshot day b snapshots ↔ k ∈ b.stocksLot ∧ q = b.stock k := by
  unfold runSnapshot
  rw [List.mem_append, List.mem_filter, List.mem_map]
  constructor
  · rintro (⟨-, hday⟩ | ⟨k', hk', heq⟩)
    · simp at hday
    · obtain ⟨-, rfl, rfl⟩ := StockSnapshot.mk.inj heq
      exact ⟨AList.mem_keys.mpr hk', rfl⟩
  · rintro ⟨hk, rfl⟩
    exact .inr ⟨k, AList.mem_keys.mp hk, rfl⟩

/-- The snapshot of the day adds up to the balances. -/
theorem snapshotTotal_runSnapshot (day : Date) (b : Books) (snapshots : List StockSnapshot)
    (warehouseId itemId : ℕ) :
    snapshotTotal (runSnapshot day b snapshots) day warehouseId itemId =
      b.itemTotal warehouseId itemId := by
  have hother : (snapshots.filter fun s => s.snapshotDate ≠ day).filter
      (fun s => s.snapshotDate = day ∧ s.slot.warehouseId = warehouseId ∧
        s.slot.itemId = itemId) = [] := by
    rw [List.filter_eq_nil_iff]
    intro s hs
    have hday := (List.mem_filter.mp hs).2
    simp only [decide_eq_true_eq] at hday
    simp [hday]
  unfold snapshotTotal runSnapshot Books.itemTotal
  rw [List.filter_append, hother, List.nil_append, List.filter_map, List.map_map]
  simp [Function.comp_def]

end Wms

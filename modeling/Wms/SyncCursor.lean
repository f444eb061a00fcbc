import Wms.Logistics.RecordSync

/-!
# The cursor of the shipping-record sync

The saved cursor stands for all facts up to it: each of them was upserted once, and those
behind it were not. A call moves the cursor to the last row of its page. The cursor keeps
its meaning exactly when the page holds the facts between the old cursor and the new one,
which a call with filters or with a start of its own may miss.
-/

namespace Wms

open Foundation

/-- The facts of logistics and the tables of the sync. -/
structure SyncState where
  facts : List ShippingFact
  tables : SyncTables
  increasing : facts.Pairwise fun a b => a.id < b.id
  ids_pos : ∀ f ∈ facts, 0 < f.id

namespace SyncState

/-- Replace the tables. -/
def putTables (t : SyncTables) (s : SyncState) : SyncState := { s with tables := t }

/-- Nothing was synced yet. -/
def Unsynced (s : SyncState) : Prop := s.tables.lastCursor = none ∧ s.tables.upserted = []

/-- Every fact up to the saved cursor was upserted exactly once. -/
def CursorSound (s : SyncState) : Prop :=
  ∀ f ∈ s.facts, f.id ≤ s.tables.savedCursor → s.tables.upserted.count f.id = 1

end SyncState

/-- What happens to the facts and the tables. -/
inductive SyncOp
  /-- Logistics records a fact, under an identifier above all others. -/
  | publish (fact : ShippingFact)
  | sync (now : ℤ) (call : SyncRecordsIn)
  /-- Other services write the master data and the shipping records. -/
  | elsewhere (warehouses : List SyncWarehouse) (providers : List ShippingProvider)
    (shippingRecords : Table SyncedRecord SyncedRecord.Conflict)

/-- A new fact of logistics. -/
def publishFact (fact : ShippingFact) : Tx SyncState Err Unit := fun s =>
  if h : 0 < fact.id ∧ ∀ f ∈ s.facts, f.id < fact.id then
    .ok ((), {
      facts := s.facts ++ [fact]
      tables := s.tables
      increasing := List.pairwise_append.mpr ⟨s.increasing, List.pairwise_singleton _ _, by
        intro a ha b hb
        rw [List.mem_singleton.mp hb]
        exact h.2 a ha⟩
      ids_pos := by
        intro f hf
        rcases List.mem_append.mp hf with hf | hf
        · exact s.ids_pos f hf
        · rw [List.mem_singleton.mp hf]
          exact h.1 })
  else .error (.integrityError "shipping_records_pkey")

/-- A call of the sync against the export of the facts. -/
def syncRecords (exporter : FactsExport) (now : ℤ) (call : SyncRecordsIn) :
    Tx SyncState Err Unit := do
  let s ← get
  let _ ← Tx.zoom SyncState.tables SyncState.putTables
    (syncOnce (exporter.page s.facts) now call)

/-- Carry out one operation. -/
def SyncOp.exec (exporter : FactsExport) : SyncOp → Tx SyncState Err Unit
  | .publish fact => publishFact fact
  | .sync now call => syncRecords exporter now call
  | .elsewhere warehouses providers shippingRecords => modify fun s => s.putTables { s.tables with
      warehouses := warehouses, providers := providers, shippingRecords := shippingRecords }

/-- The state after the first `n` operations. -/
def SyncState.after (exporter : FactsExport) (s : SyncState) (ops : List SyncOp) (n : ℕ) :
    SyncState :=
  Tx.attemptAll (SyncOp.exec exporter) (ops.take n) s

/-- In every state of the run the facts up to the saved cursor were upserted exactly once,
and the saved cursor never decreases. -/
structure CursorKept (exporter : FactsExport) (s : SyncState) (ops : List SyncOp) : Prop where
  sound : ∀ n, (s.after exporter ops n).CursorSound
  monotone : ∀ n m, n ≤ m → (s.after exporter ops n).tables.savedCursor ≤
    (s.after exporter ops m).tables.savedCursor

/-- The page that a call gets. -/
def SyncRecordsIn.pageOf (exporter : FactsExport) (call : SyncRecordsIn) (s : SyncState) :
    FactsPage :=
  exporter.page s.facts (call.query (call.start s.tables))

/-- Up to the last row of its page, the call asks for the facts behind the saved cursor
and for no others: it starts at the saved cursor, or nothing that its filters pass lies in
between, and its filters leave out no fact of that stretch. -/
def SyncOp.Continues (exporter : FactsExport) : SyncOp → SyncState → Prop
  | .sync _ call, s => ∀ f ∈ s.facts, ∀ row ∈ (call.pageOf exporter s).rows, f.id ≤ row.id →
      ((call.query (call.start s.tables)).Asks f ↔ s.tables.savedCursor < f.id)
  | _, _ => True

/-! ## Pages -/

/-- A prefix of an increasing list holds every member up to one of its own. -/
theorem mem_take_of_le {facts : List ShippingFact} (hsorted : facts.Pairwise fun a b => a.id < b.id)
    {n : ℕ} {f row : ShippingFact} (hrow : row ∈ facts.take n) (hf : f ∈ facts)
    (hle : f.id ≤ row.id) : f ∈ facts.take n := by
  rw [← List.take_append_drop n facts] at hf hsorted
  rcases List.mem_append.mp hf with hf | hf
  · exact hf
  · have hlt := (List.pairwise_append.mp hsorted).2.2 row hrow f hf
    omega

namespace FactsExport

variable {exporter : FactsExport} {facts : List ShippingFact} {q : FactsQuery}
  {f row : ShippingFact}

theorem rows_sublist : (exporter.page facts q).rows.Sublist facts := by
  rw [exporter.rows_eq]
  exact (List.take_sublist _ _).trans List.filter_sublist

/-- Up to the last row of the page, the page holds what is asked for. -/
theorem mem_rows_iff (hsorted : facts.Pairwise fun a b => a.id < b.id) (hf : f ∈ facts)
    (hrow : row ∈ (exporter.page facts q).rows) (hle : f.id ≤ row.id) :
    f ∈ (exporter.page facts q).rows ↔ q.Asks f := by
  rw [exporter.rows_eq] at hrow ⊢
  constructor
  · intro hmem
    have hfilter := List.mem_filter.mp (List.mem_of_mem_take hmem)
    exact of_decide_eq_true hfilter.2
  · intro hasks
    apply mem_take_of_le (hsorted.filter _) hrow _ hle
    exact List.mem_filter.mpr ⟨hf, decide_eq_true hasks⟩

/-- The last row of an increasing page has the greatest identifier. -/
theorem le_last (hsorted : facts.Pairwise fun a b => a.id < b.id)
    (hne : (exporter.page facts q).rows ≠ []) (hrow : row ∈ (exporter.page facts q).rows) :
    row.id ≤ ((exporter.page facts q).rows.getLast hne).id := by
  have hrows := hsorted.sublist (exporter.rows_sublist (q := q))
  rw [← List.dropLast_append_getLast hne] at hrow hrows
  rcases List.mem_append.mp hrow with hinit | hlast
  · have hlt := (List.pairwise_append.mp hrows).2.2 row hinit _ List.mem_cons_self
    omega
  · rw [List.mem_singleton.mp hlast]

/-- A page holds a fact at most once. -/
theorem count_rows (hsorted : facts.Pairwise fun a b => a.id < b.id) (hf : f ∈ facts) :
    ((exporter.page facts q).rows.map ShippingFact.id).count f.id =
      if f ∈ (exporter.page facts q).rows then 1 else 0 := by
  have hrows := hsorted.sublist (exporter.rows_sublist (q := q))
  have hnodup : ((exporter.page facts q).rows.map ShippingFact.id).Nodup := by
    apply List.pairwise_map.mpr
    exact hrows.imp fun hlt heq => by omega
  have hmem : f.id ∈ (exporter.page facts q).rows.map ShippingFact.id ↔
      f ∈ (exporter.page facts q).rows := by
    constructor
    · intro h
      obtain ⟨g, hg, hid⟩ := List.mem_map.mp h
      have hinj : (facts.map ShippingFact.id).Nodup :=
        List.pairwise_map.mpr (hsorted.imp fun hlt heq => by omega)
      rwa [← List.inj_on_of_nodup_map hinj (exporter.rows_sublist.subset hg) hf hid]
    · intro h
      exact List.mem_map_of_mem h
  split
  · rename_i hin
    exact List.count_eq_one_of_mem hnodup (hmem.mpr hin)
  · rename_i hout
    exact List.count_eq_zero_of_not_mem fun h => hout (hmem.mp h)

end FactsExport

/-! ## One operation -/

namespace SyncState

/-- The saved cursor and the upserts belong to facts of the export, and the facts up to the
cursor are those that were upserted. -/
structure Synced (s : SyncState) : Prop where
  counts : ∀ f ∈ s.facts,
    s.tables.upserted.count f.id = if f.id ≤ s.tables.savedCursor then 1 else 0
  upserted_known : ∀ id ∈ s.tables.upserted, ∃ f ∈ s.facts, f.id = id
  cursor_known : s.tables.savedCursor = 0 ∨ ∃ f ∈ s.facts, f.id = s.tables.savedCursor

variable {s s' : SyncState}

theorem Synced.cursorSound (h : s.Synced) : s.CursorSound := by
  intro f hf hle
  rw [h.counts f hf, if_pos hle]

theorem Unsynced.synced (h : s.Unsynced) : s.Synced := by
  obtain ⟨hcursor, hupserted⟩ := h
  have hzero : s.tables.savedCursor = 0 := by
    rw [SyncTables.savedCursor, hcursor]
    rfl
  refine ⟨?_, ?_, .inl hzero⟩
  · intro f hf
    have hpos := s.ids_pos f hf
    rw [hupserted, hzero, if_neg (by omega), List.count_nil]
  · intro id hid
    rw [hupserted] at hid
    cases hid

/-- A new fact lies behind the saved cursor and was not upserted. -/
theorem Synced.publish {fact : ShippingFact} {u : Unit} (h : s.Synced)
    (hrun : (publishFact fact).run s = .ok (u, s')) :
    s'.Synced ∧ s'.tables = s.tables := by
  dsimp only [publishFact, StateT.run] at hrun
  split at hrun
  · rename_i hnew
    cases hrun
    refine ⟨⟨?_, ?_, ?_⟩, rfl⟩
    · intro f hf
      rcases List.mem_append.mp hf with hf | hf
      · exact h.counts f hf
      · rw [List.mem_singleton.mp hf]
        have hcursor : s.tables.savedCursor < fact.id := by
          rcases h.cursor_known with hzero | ⟨g, hg, heq⟩
          · rw [hzero]
            exact hnew.1
          · rw [← heq]
            exact hnew.2 g hg
        rw [if_neg (by change ¬fact.id ≤ s.tables.savedCursor; omega)]
        apply List.count_eq_zero_of_not_mem
        intro hmem
        obtain ⟨g, hg, heq⟩ := h.upserted_known _ hmem
        have hlt := hnew.2 g hg
        omega
    · intro id hid
      obtain ⟨g, hg, heq⟩ := h.upserted_known id hid
      exact ⟨g, List.mem_append_left _ hg, heq⟩
    · rcases h.cursor_known with hzero | ⟨g, hg, heq⟩
      · exact .inl hzero
      · exact .inr ⟨g, List.mem_append_left _ hg, heq⟩
  · cases hrun

end SyncState

variable {exporter : FactsExport} {s s' : SyncState} {now : ℤ} {call : SyncRecordsIn}

/-- An accepted call adds its page to the upserts, and a page with rows moves the cursor to
its last row. -/
theorem syncRecords_ok {u : Unit} (h : (syncRecords exporter now call).run s = .ok (u, s')) :
    s'.facts = s.facts ∧
      s'.tables.upserted = s.tables.upserted ++
        (call.pageOf exporter s).rows.map ShippingFact.id ∧
      ((call.pageOf exporter s).rows = [] ∧ s'.tables.savedCursor = s.tables.savedCursor ∨
        ∃ hne : (call.pageOf exporter s).rows ≠ [],
          s'.tables.savedCursor = ((call.pageOf exporter s).rows.getLast hne).id) := by
  simp only [syncRecords, Tx.run_bind_ok, Tx.run_get_ok, Tx.run_pure_ok] at h
  obtain ⟨_, _, ⟨rfl, rfl⟩, r, _, hzoom, -, rfl⟩ := h
  obtain ⟨t, hsync, rfl⟩ := Tx.run_zoom_ok.mp hzoom
  obtain ⟨page, rfl, hupserted, hcursor⟩ := syncOnce_ok hsync
  refine ⟨rfl, hupserted, ?_⟩
  change _ ∧ t.savedCursor = _ ∨ ∃ hne, t.savedCursor = _
  change t.lastCursor = if (call.pageOf exporter s).rows = [] then _
    else some ((call.pageOf exporter s).nextCursor.getD _) at hcursor
  by_cases hempty : (call.pageOf exporter s).rows = []
  · left
    rw [SyncTables.savedCursor, hcursor, if_pos hempty]
    exact ⟨hempty, rfl⟩
  · right
    refine ⟨hempty, ?_⟩
    have hnext : (call.pageOf exporter s).nextCursor =
        some ((call.pageOf exporter s).rows.getLast hempty).id :=
      exporter.nextCursor_eq _ _ _ (List.getLast?_eq_some_getLast hempty)
    rw [SyncTables.savedCursor, hcursor, if_neg hempty, hnext]
    rfl

/-- How often a fact was upserted after an accepted call. -/
theorem count_syncRecords {u : Unit} (h : (syncRecords exporter now call).run s = .ok (u, s'))
    (hs : s.Synced) {f : ShippingFact} (hf : f ∈ s.facts) :
    s'.tables.upserted.count f.id = (if f.id ≤ s.tables.savedCursor then 1 else 0) +
      if f ∈ (call.pageOf exporter s).rows then 1 else 0 := by
  rw [(syncRecords_ok h).2.1, List.count_append, hs.counts f hf,
    SyncRecordsIn.pageOf, FactsExport.count_rows s.increasing hf]

/-- A call that continues from the saved cursor keeps the meaning of the cursor, which it
does not decrease. -/
theorem SyncState.Synced.sync {u : Unit} (hs : s.Synced) (hcall : (SyncOp.sync now call).Continues exporter s)
    (h : (syncRecords exporter now call).run s = .ok (u, s')) :
    s'.Synced ∧ s.tables.savedCursor ≤ s'.tables.savedCursor := by
  obtain ⟨hfacts, hupserted, hcursor⟩ := syncRecords_ok h
  have hsub : ∀ row ∈ (call.pageOf exporter s).rows, row ∈ s.facts :=
    fun row hrow => FactsExport.rows_sublist.subset hrow
  have hknown : ∀ id ∈ s'.tables.upserted, ∃ f ∈ s'.facts, f.id = id := by
    intro id hid
    rw [hfacts]
    rw [hupserted] at hid
    rcases List.mem_append.mp hid with hold | hnew
    · exact hs.upserted_known id hold
    · obtain ⟨row, hrow, rfl⟩ := List.mem_map.mp hnew
      exact ⟨row, hsub row hrow, rfl⟩
  rcases hcursor with ⟨hempty, hsame⟩ | ⟨hne, hlast⟩
  · refine ⟨⟨?_, hknown, ?_⟩, le_of_eq hsame.symm⟩
    · intro f hf
      rw [hfacts] at hf
      rw [count_syncRecords h hs hf, hempty, hsame]
      simp
    · rw [hsame, hfacts]
      exact hs.cursor_known
  · have hmem := List.getLast_mem hne
    have hgrows : s.tables.savedCursor < s'.tables.savedCursor := by
      rw [hlast]
      apply (hcall _ (hsub _ hmem) _ hmem le_rfl).mp
      exact (FactsExport.mem_rows_iff s.increasing (hsub _ hmem) hmem le_rfl).mp hmem
    refine ⟨⟨?_, hknown, ?_⟩, hgrows.le⟩
    · intro f hf
      rw [hfacts] at hf
      rw [count_syncRecords h hs hf]
      by_cases hle : f.id ≤ s'.tables.savedCursor
      · have hin : f ∈ (call.pageOf exporter s).rows ↔ s.tables.savedCursor < f.id := by
          rw [hlast] at hle
          exact (FactsExport.mem_rows_iff s.increasing hf hmem hle).trans (hcall f hf _ hmem hle)
        rw [if_pos hle]
        simp only [hin]
        split <;> split <;> omega
      · have hout : f ∉ (call.pageOf exporter s).rows := by
          intro hin
          have hbelow := FactsExport.le_last s.increasing hne hin
          rw [hlast] at hle
          exact hle hbelow
        rw [if_neg hout, if_neg hle, if_neg (by omega)]
    · right
      rw [hfacts]
      exact ⟨_, hsub _ hmem, hlast.symm⟩

/-- An accepted call that leaves the cursor sound continues from the saved cursor. -/
theorem continues_of_cursorSound {u : Unit} (hs : s.Synced)
    (h : (syncRecords exporter now call).run s = .ok (u, s')) (hsound : s'.CursorSound) :
    (SyncOp.sync now call).Continues exporter s := by
  intro f hf row hrow hle
  obtain ⟨hfacts, -, hcursor⟩ := syncRecords_ok h
  rcases hcursor with ⟨hempty, -⟩ | ⟨hne, hlast⟩
  · rw [hempty] at hrow
    cases hrow
  · have hbelow := FactsExport.le_last s.increasing hne hrow
    have hone : s'.tables.upserted.count f.id = 1 := by
      apply hsound f (by rw [hfacts]; exact hf)
      rw [hlast]
      exact hle.trans hbelow
    rw [count_syncRecords h hs hf] at hone
    rw [← FactsExport.mem_rows_iff s.increasing hf hrow hle]
    change f ∈ (call.pageOf exporter s).rows ↔ _
    split at hone <;> split at hone
    · omega
    · rename_i hle' hout
      exact ⟨fun hin => absurd hin hout, fun hlt => by omega⟩
    · rename_i hgt hin
      exact ⟨fun _ => by omega, fun _ => hin⟩
    · omega

/-- A call without filters and without a start of its own continues from the saved
cursor. -/
theorem continues_of_unfiltered (hstart : call.afterId = none) (hplatform : call.platform = none)
    (hstore : call.storeCode = none) : (SyncOp.sync now call).Continues exporter s := by
  intro f _ row _ _
  have hquery : call.query (call.start s.tables) = ⟨s.tables.savedCursor, call.limit, none, none⟩ := by
    simp [SyncRecordsIn.query, SyncRecordsIn.start, hstart, hplatform, hstore]
  rw [hquery]
  simp [FactsQuery.Asks]

/-! ## Runs -/

/-- An operation that continues from the saved cursor keeps the invariant and does not
decrease the cursor. -/
theorem SyncOp.step {op : SyncOp} {u : Unit} (hs : s.Synced) (hop : op.Continues exporter s)
    (h : (op.exec exporter).run s = .ok (u, s')) :
    s'.Synced ∧ s.tables.savedCursor ≤ s'.tables.savedCursor := by
  cases op with
  | publish fact =>
    obtain ⟨hs', htables⟩ := hs.publish h
    exact ⟨hs', by rw [htables]⟩
  | sync now call => exact hs.sync hop h
  | elsewhere warehouses providers shippingRecords =>
    rw [← Tx.run_modify_ok.mp h]
    exact ⟨⟨hs.counts, hs.upserted_known, hs.cursor_known⟩, le_rfl⟩

/-- The order of the saved cursors. -/
instance : IsPreorder SyncState fun s s' => s.tables.savedCursor ≤ s'.tables.savedCursor where
  refl _ := le_rfl
  trans _ _ _ := le_trans

/-- From a state without syncs, the saved cursor keeps its meaning over a run exactly when
every accepted call continues from the saved cursor. -/
theorem cursorKept_iff (exporter : FactsExport) (s : SyncState) (ops : List SyncOp)
    (hs : s.Unsynced) :
    CursorKept exporter s ops ↔
      Tx.AllAccepted (SyncOp.exec exporter) (SyncOp.Continues exporter) ops s := by
  have hstep : ∀ (op : SyncOp) (s : SyncState) (u : Unit) (s' : SyncState), s.Synced →
      op.Continues exporter s → (op.exec exporter).run s = .ok (u, s') →
      s'.Synced ∧ s.tables.savedCursor ≤ s'.tables.savedCursor :=
    fun _ _ _ _ hs hop hrun => SyncOp.step hs hop hrun
  have hiff : (∀ n, (s.after exporter ops n).CursorSound) ↔
      Tx.AllAccepted (SyncOp.exec exporter) (SyncOp.Continues exporter) ops s := by
    apply Tx.forall_attemptAll_iff (fun op s u s' hs hop hrun => (hstep op s u s' hs hop hrun).1)
      (fun s hs => hs.cursorSound) _ hs.synced
    intro op s u s' hs hrun hsound
    cases op with
    | sync now call => exact continues_of_cursorSound hs hrun hsound
    | _ => trivial
  constructor
  · intro hkept
    exact hiff.mp hkept.sound
  · intro hall
    refine ⟨hiff.mpr hall, ?_⟩
    intro n m hle
    exact (Tx.attemptAll_along hstep hs.synced hall hle).2

/-! ## A filtered call -/

/-- An export that answers with the first facts asked for. -/
def plainExport : FactsExport where
  page facts q := {
    rows := (facts.filter (q.Asks ·)).take q.limit
    nextCursor := ((facts.filter (q.Asks ·)).take q.limit).getLast?.map ShippingFact.id
    hasMore := false }
  rows_eq _ _ := rfl
  nextCursor_eq := by
    intro facts q row hlast
    dsimp only at hlast ⊢
    rw [hlast]
    rfl

/-- A parcel of an order of a store. -/
def storeFact (id : ℤ) (storeCode orderRef : String) : ShippingFact where
  id := id
  warehouseCode := some "WH1"
  shippingProviderCode := some "SF"
  orderRef := some orderRef
  platform := some "PDD"
  storeCode := some storeCode
  packageNo := some 1
  shippingProviderName := none
  trackingNo := none
  measures := ⟨none, none, none, none, none, none, none⟩
  sender := none
  destProvince := none
  destCity := none
  createdAt := some 0

/-- One parcel of store `A`, and then one of store `B`. -/
def twoStores : SyncState where
  facts := [storeFact 1 "A" "O1", storeFact 2 "B" "O2"]
  tables := {
    warehouses := [⟨1, "WH1", true⟩]
    providers := [⟨1, .lit "SF", .lit "SF", true⟩]
    shippingRecords := .empty
    lastCursor := none
    upserted := [] }
  increasing := by decide
  ids_pos := by decide

theorem twoStores_unsynced : twoStores.Unsynced := ⟨rfl, rfl⟩

/-- Only store `B` is synced. -/
def syncStoreB : List SyncOp := [.sync 0 ⟨none, 100, none, some "B"⟩]

theorem cursorKept_iff_syncStoreB : CursorKept plainExport twoStores syncStoreB ↔
    Tx.AllAccepted (SyncOp.exec plainExport) (SyncOp.Continues plainExport) syncStoreB twoStores :=
  cursorKept_iff plainExport twoStores syncStoreB twoStores_unsynced

/-- The cursor passes the parcel of store `A`, which was not upserted. -/
theorem not_cursorKept_syncStoreB :
    ¬∀ (exporter : FactsExport) (s : SyncState) (ops : List SyncOp), s.Unsynced →
      CursorKept exporter s ops := by
  intro h
  have hsound := (h plainExport twoStores syncStoreB twoStores_unsynced).sound 1
  have hcursor : (twoStores.after plainExport syncStoreB 1).tables.savedCursor = 2 := by
    decide +kernel
  have hupserted : (twoStores.after plainExport syncStoreB 1).tables.upserted = [2] := by
    decide +kernel
  have hmem : storeFact 1 "A" "O1" ∈ (twoStores.after plainExport syncStoreB 1).facts := by
    decide +kernel
  have hone := hsound _ hmem (by rw [hcursor]; decide)
  rw [hupserted] at hone
  exact absurd hone (by decide)

end Wms

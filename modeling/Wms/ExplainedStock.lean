import Wms.StockEqualsLedger
import Wms.Stock.InventoryExplain

/-!
# What the explanation of a balance says

The quantity that a ledger row records is the balance when the row was written. The explanation
takes it from the row with the latest time. It tells the truth exactly when what was written after
that row adds up to nothing, and so whenever no movement is dated back.
-/

namespace Wms

open Foundation Foundation.Journal

/-- The answer says that ledger and stock match if they do, and takes the quantity that the ledger
ends with from the row that was written last. -/
structure InventoryExplainOut.Truthful (out : InventoryExplainOut) (b : Books) : Prop where
  matches_iff : out.summary.matchesCurrent = some true ↔ b.stock out.anchor.slot =
    ((b.stockLedger.rows.filter fun r => r.slot = out.anchor.slot).map LedgerRow.delta).sum
  last_written : out.summary.ledgerLastAfterQty =
    (b.stockLedger.rows.filter fun r => r.slot = out.anchor.slot).getLast?.map LedgerRow.afterQty

/-- Of ledger rows in the order of writing, those that were written after the one with the latest
time. -/
def writtenSinceLatest : List LedgerRow → List LedgerRow
  | [] => []
  | r :: rest => if ∀ s ∈ rest, s.occurredAt < r.occurredAt then rest else writtenSinceLatest rest

variable {b : Books} {k : SlotKey} {createdAt : ℕ → ℤ} {rows earlier later : List LedgerRow}
  {r : LedgerRow} {pms : InventoryPms} {db : Database} {payload : InventoryExplainIn}
  {out : InventoryExplainOut} {ops : List Op}

theorem writtenSinceLatest_split (hearlier : ∀ s ∈ earlier, s.occurredAt ≤ r.occurredAt)
    (hlater : ∀ s ∈ later, s.occurredAt < r.occurredAt) :
    writtenSinceLatest (earlier ++ r :: later) = later := by
  induction earlier with
  | nil => rw [List.nil_append, writtenSinceLatest, if_pos hlater]
  | cons e earlier ih =>
    have hnot : ¬∀ s ∈ earlier ++ r :: later, s.occurredAt < e.occurredAt := by
      intro hall
      have hr := hall r (by simp)
      have he := hearlier e List.mem_cons_self
      omega
    rw [List.cons_append, writtenSinceLatest, if_neg hnot]
    exact ih fun s hs => hearlier s (List.mem_cons_of_mem e hs)

/-- Where no row is dated back, nothing was written after the latest one. -/
theorem writtenSinceLatest_eq_nil
    (h : rows.Pairwise fun a b => a.occurredAt ≤ b.occurredAt) : writtenSinceLatest rows = [] := by
  induction rows with
  | nil => rfl
  | cons r rest ih =>
    obtain ⟨hhead, hrest⟩ := List.pairwise_cons.mp h
    rw [writtenSinceLatest]
    split
    · rename_i hlast
      cases rest with
      | nil => rfl
      | cons s rest =>
        have hle := hhead s List.mem_cons_self
        have hlt := hlast s List.mem_cons_self
        omega
    · exact ih hrest

/-! ## The rows of a slot -/

theorem map_explainRows (createdAt : ℕ → ℤ) :
    (b.explainRows createdAt k).map StockLedgerRow.toLedgerRow =
      b.stockLedger.rows.filter fun r => r.slot = k := by
  have hall : (b.ledgerRows createdAt).map StockLedgerRow.toLedgerRow = b.stockLedger.rows := by
    unfold Books.ledgerRows
    rw [List.map_map]
    exact List.zipIdx_map_fst 1 _
  rw [← hall, List.filter_map]
  rfl

/-- The identifiers of the rows of a slot ascend. -/
theorem explainRows_pairwise :
    (b.explainRows createdAt k).Pairwise fun r s => r.id < s.id := by
  apply List.Pairwise.filter
  unfold Books.ledgerRows
  rw [List.pairwise_map]
  have hids : ((b.stockLedger.rows.zipIdx 1).map Prod.snd).Pairwise (· < ·) := by
    rw [List.zipIdx_map_snd]
    exact List.pairwise_lt_range'
  exact List.pairwise_map.mp hids

/-- The row that is newest by time and identifier parts the rows of a slot. -/
theorem exists_split_of_head {rows : List StockLedgerRow} {r : StockLedgerRow}
    (hids : rows.Pairwise fun r s => r.id < s.id)
    (h : (orderBy StockLedgerRow.newest rows).head? = some r) :
    ∃ earlier later, rows = earlier ++ r :: later ∧
      (∀ s ∈ earlier, s.occurredAt ≤ r.occurredAt) ∧ ∀ s ∈ later, s.occurredAt < r.occurredAt := by
  have hr : r ∈ rows := mem_orderBy.mp (List.mem_of_mem_head? h)
  have hnewest : ∀ s ∈ rows, r.newest ≤ s.newest := by
    intro s hs
    obtain ⟨rest, hrest⟩ := List.head?_eq_some_iff.mp h
    have hsorted := (orderBy_arranges StockLedgerRow.newest rows).sorted
    rw [hrest] at hsorted
    have hmem : s ∈ orderBy StockLedgerRow.newest rows := mem_orderBy.mpr hs
    rw [hrest] at hmem
    rcases List.mem_cons.mp hmem with rfl | htail
    · exact le_rfl
    · exact (List.pairwise_cons.mp hsorted).1 s htail
  obtain ⟨earlier, later, rfl⟩ := List.append_of_mem hr
  refine ⟨earlier, later, rfl, fun s hs => ?_, fun s hs => ?_⟩
  · have hle := hnewest s (List.mem_append_left _ hs)
    rcases Prod.Lex.le_iff.mp hle with hlt | ⟨heq, -⟩
    · exact le_of_lt hlt
    · exact le_of_eq heq.symm
  · have hle := hnewest s (List.mem_append_right _ (List.mem_cons_of_mem r hs))
    have hid : r.id < s.id :=
      (List.pairwise_cons.mp (List.pairwise_append.mp hids).2.1).1 s hs
    rcases Prod.Lex.le_iff.mp hle with hlt | ⟨-, hge⟩
    · exact hlt
    · exact absurd hid (not_lt.mpr hge)

/-- What the ledger is taken to end with lacks what was written after the latest row. -/
theorem Books.Journaled.latestAfterQty (h : b.Journaled) {q : ℤ}
    (hq : queryInventoryExplainLatestAfterQty (b.explainRows createdAt k) = some q) :
    b.stock k = q + ((writtenSinceLatest (b.stockLedger.rows.filter fun r => r.slot = k)).map
      LedgerRow.delta).sum := by
  obtain ⟨r, hhead, rfl⟩ := Option.map_eq_some_iff.mp hq
  obtain ⟨earlier, later, hsplit, hearlier, hlater⟩ := exists_split_of_head explainRows_pairwise hhead
  have hrows : (b.stockLedger.rows.filter fun r => r.slot = k) =
      earlier.map StockLedgerRow.toLedgerRow ++
        r.toLedgerRow :: later.map StockLedgerRow.toLedgerRow := by
    rw [← map_explainRows createdAt, hsplit, List.map_append, List.map_cons]
  have hslot : r.slot = k := by
    have hmem : r ∈ b.explainRows createdAt k := by
      rw [hsplit]
      simp
    exact of_decide_eq_true (List.mem_filter.mp hmem).2
  obtain ⟨before, rest, hledger, -, hrest⟩ := List.filter_eq_append_iff.mp hrows
  obtain ⟨between, after, hafter, -, -, hlast⟩ := List.filter_eq_cons_iff.mp hrest
  have hposts : Posts (fun _ => 0) ((before ++ between).map LedgerRow.posting ++
      r.toLedgerRow.posting :: after.map LedgerRow.posting) b.stock := by
    have hjournal : b.journal = (before ++ between).map LedgerRow.posting ++
        r.toLedgerRow.posting :: after.map LedgerRow.posting := by
      unfold Books.journal
      rw [hledger, hafter]
      simp
    rw [← hjournal]
    exact h
  have hbalance := hposts.balance_since
  have hmovement : movement r.slot (after.map LedgerRow.posting) =
      ((later.map StockLedgerRow.toLedgerRow).map LedgerRow.delta).sum := by
    rw [← hlast, hslot, movement, List.filter_map, List.map_map]
    rfl
  rw [hrows, writtenSinceLatest_split (by simpa using hearlier) (by simpa using hlater),
    ← hmovement, ← hslot]
  exact hbalance

/-! ## The answer -/

/-- A joined row has the balance of its slot. -/
theorem stock_of_mem_stockJoins {s : StockJoin} (h : s ∈ db.stockJoins) :
    db.books.stock s.slot = s.qty := by
  obtain ⟨e, he, hjoined⟩ := List.mem_flatMap.mp h
  obtain ⟨w, -, hrow⟩ := List.mem_flatMap.mp hjoined
  obtain ⟨l, -, rfl⟩ := List.mem_map.mp hrow
  apply Books.stock_of_lookup
  exact AList.mem_lookup_iff.mpr he

/-- The parts of an answer that are about the balance. -/
theorem explainInventory_ok (h : explainInventory pms createdAt db payload = .ok out) :
    db.books.stock out.anchor.slot ≠ 0 ∧
      out.summary.ledgerLastAfterQty = queryInventoryExplainLatestAfterQty
        (db.books.explainRows createdAt out.anchor.slot) ∧
      out.summary.matchesCurrent = out.summary.ledgerLastAfterQty.map fun q =>
        decide (q = db.books.stock out.anchor.slot) := by
  unfold explainInventory at h
  split at h
  · cases h
  · cases h
  · rename_i s hanchor
    have hs : s ∈ db.explainAnchors payload := by
      rw [hanchor]
      exact List.mem_singleton_self s
    obtain ⟨hjoin, hcond⟩ := List.mem_filter.mp hs
    have hqty : s.qty ≠ 0 := (of_decide_eq_true hcond).2.2.1
    have hstock := stock_of_mem_stockJoins hjoin
    obtain ⟨anchorMaps, -, h⟩ := except_bind_eq_ok.mp h
    obtain ⟨maps, -, h⟩ := except_bind_eq_ok.mp h
    obtain rfl := Except.ok.inj h
    have hslot : (s.anchor anchorMaps).slot = s.slot := rfl
    simp only [hslot, hstock]
    exact ⟨hqty, rfl, rfl⟩

/-- With journaled balances an answer tells the truth exactly when what was written on the slot
after the movement with the latest time adds up to nothing. -/
theorem Books.Journaled.truthful_iff (hjournaled : db.books.Journaled)
    (h : explainInventory pms createdAt db payload = .ok out) :
    out.Truthful db.books ↔ ((writtenSinceLatest (db.books.stockLedger.rows.filter fun r =>
      r.slot = out.anchor.slot)).map LedgerRow.delta).sum = 0 := by
  obtain ⟨hne, hlatest, hmatches⟩ := explainInventory_ok h
  generalize db.books = b at *
  have hequal := hjournaled.stockEqualsLedger
  have hsum := hequal.stock_eq_sum out.anchor.slot
  -- the slot has rows, so there is a latest one and a last one
  have hrows : (b.stockLedger.rows.filter fun r => r.slot = out.anchor.slot) ≠ [] := by
    intro hnil
    rw [hnil] at hsum
    exact hne hsum
  have hexplained : b.explainRows createdAt out.anchor.slot ≠ [] := by
    intro hnil
    apply hrows
    rw [← map_explainRows createdAt, hnil]
    rfl
  obtain ⟨q, hq⟩ : ∃ q, queryInventoryExplainLatestAfterQty
      (b.explainRows createdAt out.anchor.slot) = some q := by
    obtain ⟨r, hr⟩ := List.exists_mem_of_ne_nil _ hexplained
    have hordered : orderBy StockLedgerRow.newest (b.explainRows createdAt out.anchor.slot) ≠ [] :=
      List.ne_nil_of_mem (mem_orderBy.mpr hr)
    exact ⟨_, by rw [queryInventoryExplainLatestAfterQty, List.head?_eq_some_head hordered]; rfl⟩
  have hlast := hequal.stock_eq_last out.anchor.slot _ (List.getLast?_eq_some_getLast hrows)
  have hsince := hjournaled.latestAfterQty hq
  rw [hlatest, hq] at hmatches
  constructor
  · intro htruthful
    have hwritten := htruthful.last_written
    rw [hlatest, hq, List.getLast?_eq_some_getLast hrows, Option.map_some, ← hlast] at hwritten
    have hqstock := Option.some.inj hwritten
    omega
  · intro hzero
    rw [hzero, add_zero] at hsince
    constructor
    · rw [hmatches, hsince]
      simp [← hsince, hsum]
    · rw [hlatest, hq, List.getLast?_eq_some_getLast hrows, Option.map_some, ← hlast, hsince]

/-- Without swallowed adjustments, an answer about a slot whose movements were written in the order
of their times tells the truth. -/
theorem truthful_of_dated_in_order
    (hrun : Tx.AllAccepted Op.exec (fun op db => ¬op.Swallowed db) ops Database.empty)
    (h : explainInventory pms createdAt (Database.after ops) payload = .ok out)
    (hdated : ((Database.after ops).books.stockLedger.rows.filter fun r =>
      r.slot = out.anchor.slot).Pairwise fun r s => r.occurredAt ≤ s.occurredAt) :
    out.Truthful (Database.after ops).books := by
  apply ((journaled_of_allAccepted hrun).truthful_iff h).mpr
  rw [writtenSinceLatest_eq_nil hdated]
  rfl

/-- After a run in which no adjustment is swallowed, an answer tells the truth exactly when what
was written on the slot after the movement with the latest time adds up to nothing. -/
theorem explain_truthful_iff
    (hrun : Tx.AllAccepted Op.exec (fun op db => ¬op.Swallowed db) ops Database.empty)
    (h : explainInventory pms createdAt (Database.after ops) payload = .ok out) :
    out.Truthful (Database.after ops).books ↔
      ((writtenSinceLatest ((Database.after ops).books.stockLedger.rows.filter fun r =>
        r.slot = out.anchor.slot)).map LedgerRow.delta).sum = 0 :=
  (journaled_of_allAccepted hrun).truthful_iff h

/-! ## A movement that is dated back -/

/-- The product master of plain items. -/
def explainPms : InventoryPms where
  listItemBasics _ := .ok []
  getItemBasics _ := .ok fun itemId => some ⟨plainItem itemId, none, none⟩
  listUoms itemIds := .ok (itemIds.map plainUom)
  listBarcodes _ := .ok []

/-- Ten pieces are received, and then one is added with a time before the receipt. -/
def backDatedRun : List Op :=
  stocked ++ [.adjustLot plainPms 0 { addOne "A1" with occurredAt := some (-1) }]

theorem noCode_fits : ∀ v ∈ (none : Option String), (strip v).length ≤ 64 := nofun

theorem hundred_pos : 1 ≤ 100 := by decide

def explainFirst : InventoryExplainIn where
  itemId := 1
  warehouseId := 1
  lotId := some 1
  lotCode := none
  itemId_ge := Nat.one_pos
  warehouseId_ge := Nat.one_pos
  lotCode_length := noCode_fits
  limit_ge := hundred_pos

/-- The answer after the movement that is dated back: the ledger is said to end with ten. -/
theorem explainInventory_backDatedRun :
    ∃ out, explainInventory explainPms (fun _ => 0) (Database.after backDatedRun) explainFirst =
        .ok out ∧
      out.anchor.slot = ⟨1, 1, 1⟩ ∧ out.summary = ⟨2, false, 11, some 10, some false⟩ := by
  have hread : (explainInventory explainPms (fun _ => 0) (Database.after backDatedRun)
      explainFirst).toOption.map (fun out => (out.anchor.slot, out.summary)) =
        some (⟨1, 1, 1⟩, ⟨2, false, 11, some 10, some false⟩) := by
    decide +kernel
  cases h : explainInventory explainPms (fun _ => 0) (Database.after backDatedRun) explainFirst with
  | error e =>
    rw [h] at hread
    cases hread
  | ok out =>
    rw [h] at hread
    have hpair := Option.some.inj hread
    exact ⟨out, rfl, congrArg Prod.fst hpair, congrArg Prod.snd hpair⟩

theorem not_explain_truthful :
    ¬∀ (pms : InventoryPms) (createdAt : ℕ → ℤ) (ops : List Op) (payload : InventoryExplainIn)
      (out : InventoryExplainOut),
      explainInventory pms createdAt (Database.after ops) payload = .ok out →
        out.Truthful (Database.after ops).books := by
  intro h
  obtain ⟨out, hout, hslot, hsummary⟩ := explainInventory_backDatedRun
  have hmatches := (h _ _ _ _ _ hout).matches_iff
  have hequal : (Database.after backDatedRun).books.stock ⟨1, 1, 1⟩ =
      (((Database.after backDatedRun).books.stockLedger.rows.filter fun r =>
        r.slot = ⟨1, 1, 1⟩).map LedgerRow.delta).sum := by
    decide +kernel
  rw [hslot, hsummary] at hmatches
  cases hmatches.mpr hequal

/-- After the receipt alone the answer is right. -/
theorem explain_truthful_iff_stocked :
    ∃ out, explainInventory explainPms (fun _ => 0) (Database.after stocked) explainFirst = .ok out ∧
      (out.Truthful (Database.after stocked).books ↔
        ((writtenSinceLatest ((Database.after stocked).books.stockLedger.rows.filter fun r =>
          r.slot = out.anchor.slot)).map LedgerRow.delta).sum = 0) := by
  have hanswered : (explainInventory explainPms (fun _ => 0) (Database.after stocked)
      explainFirst).isOk = true := by
    decide +kernel
  cases h : explainInventory explainPms (fun _ => 0) (Database.after stocked) explainFirst with
  | error e =>
    rw [h] at hanswered
    cases hanswered
  | ok out =>
    refine ⟨out, rfl, explain_truthful_iff (Tx.allAccepted_of_at fun n op u db' hop hrun => ?_) h⟩
    have hmem : op ∈ stocked := List.mem_of_getElem? hop
    simp only [stocked, List.mem_cons, List.not_mem_nil, or_false] at hmem
    rcases hmem with rfl | rfl
    · exact id
    · exact id

end Wms

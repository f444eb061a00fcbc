import Wms.Foundation.Dict
import Wms.Stock.AdjustLot

/-!
# Three books

After a commit the three books are compared: the ledger must have a row for every effect
of the commit, and the balances must add up to the snapshot of the day, which has just
been rebuilt from them.
-/

namespace Wms

open Foundation

/-- `StockSnapshot`: a row of `stock_snapshots`. -/
structure StockSnapshot where
  snapshotDate : Date
  slot : SlotKey
  qty : ℤ
  deriving DecidableEq

/-- What a commit says that it has done to a slot. -/
structure BookEffect where
  slot : SlotKey
  qty : ℤ
  refLine : ℤ
  /-- The reason that the movement has answered, if it has. -/
  reason : Option String

/-- `run_snapshot`: the rows of a day are built anew from the balances. -/
def runSnapshot (today : Date) (b : Books) (snapshots : List StockSnapshot) :
    List StockSnapshot :=
  snapshots.filter (fun s => s.snapshotDate ≠ today) ++
    b.stocksLot.keys.map fun k => ⟨today, k, b.stock k⟩

/-! ## What is compared -/

/-- The reason by which the ledger row of an effect is looked up; a blank one is none. -/
def BookEffect.lookupReason (e : BookEffect) : Option String :=
  e.reason.filter fun reason => strip reason ≠ ""

/-- The amount that the ledger has for an effect. -/
def BookEffect.ledgerDelta (ref : String) (b : Books) (e : BookEffect) : Option ℤ :=
  (b.stockLedger.rows.find? fun r => r.slot = e.slot ∧ r.ref.text = ref ∧ r.refLine = e.refLine ∧
    ∀ reason ∈ e.lookupReason, r.reason.text = reason).map LedgerRow.delta

/-- The stock of an item in a warehouse. -/
def Books.itemTotal (b : Books) (warehouseId itemId : ℕ) : ℤ :=
  ((b.stocksLot.keys.filter fun k => k.warehouseId = warehouseId ∧ k.itemId = itemId).map
    b.stock).sum

/-- The stock of an item in a warehouse by the snapshot of a day. -/
def snapshotTotal (snapshots : List StockSnapshot) (day : Date) (warehouseId itemId : ℕ) : ℤ :=
  ((snapshots.filter fun s => s.snapshotDate = day ∧ s.slot.warehouseId = warehouseId ∧
    s.slot.itemId = itemId).map StockSnapshot.qty).sum

/-! ## The texts of the errors -/

/-- Python's `repr` of a dictionary whose values are already written out. -/
def pyDict (entries : List (String × String)) : String :=
  "\x7b" ++ ", ".intercalate (entries.map fun p => p.1 ++ ": " ++ p.2) ++ "\x7d"

/-- An entry with a text as its key. -/
def pyEntry (key value : String) : String × String := (pyText key, value)

/-- The entries that describe an effect. -/
def BookEffect.entries (ref : String) (e : BookEffect) (more : List (String × String)) :
    List (String × String) :=
  [pyEntry "item_id" (toString e.slot.itemId), pyEntry "lot_id" (toString e.slot.lotId),
    pyEntry "ref" (pyText ref), pyEntry "ref_line" (toString e.refLine)] ++ more ++
    (e.lookupReason.map fun reason => pyEntry "reason" (pyText reason)).toList

/-- The ledger lacks rows, or has other amounts. -/
def ledgerIncomplete (ref : String) (missing : List BookEffect)
    (mismatched : List (BookEffect × ℤ)) : Err :=
  let missingTexts := missing.map fun e => pyDict (e.entries ref [])
  let mismatchTexts := mismatched.map fun p => pyDict (p.1.entries ref
    [pyEntry "expected_delta" (toString p.1.qty), pyEntry "ledger_delta" (toString p.2)])
  .valueError ("三账一致性失败：ledger 写入不完整或 delta 不匹配：" ++
    " missing=[" ++ ", ".intercalate missingTexts ++ "]" ++
    " mismatch=[" ++ ", ".intercalate mismatchTexts ++ "]")

/-- Balances and snapshot differ. -/
def totalsDiffer (warehouseId : ℕ) (day : Date) (items : List (ℕ × ℤ × ℤ))
    (effects : List BookEffect) : Err :=
  let texts := items.map fun p => pyDict [pyEntry "warehouse_id" (toString warehouseId),
    pyEntry "item_id" (toString p.1), pyEntry "stocks_lot_total" (toString p.2.1),
    pyEntry "snapshot_total" (toString p.2.2), pyEntry "snapshot_date" (pyText (isoFormat day))]
  let expected := (Dict.tally (fun e : BookEffect => e.slot.itemId) BookEffect.qty effects).map
    fun p => (toString p.1, toString p.2)
  .valueError ("三账一致性失败：snapshot_total != stocks_lot_total（Phase 4C：按 item 总量对齐）" ++
    " mismatches=[" ++ ", ".intercalate texts ++ "]" ++
    " expected_delta_by_item=" ++ pyDict expected)

/-! ## The check -/

/-- `verify_commit_three_books`. -/
def verifyCommitThreeBooks (b : Books) (snapshots : List StockSnapshot) (warehouseId : ℕ)
    (ref : String) (effects : List BookEffect) (day : Date) : Except Err Unit :=
  let missing := effects.filter fun e => e.ledgerDelta ref b = none
  let mismatched := effects.filterMap fun e =>
    match e.ledgerDelta ref b with
    | none => none
    | some delta => if delta ≠ e.qty then some (e, delta) else none
  if missing ≠ [] ∨ mismatched ≠ [] then .error (ledgerIncomplete ref missing mismatched)
  else
    let touched := (effects.map fun e => e.slot.itemId).dedup.insertionSort (· ≤ ·)
    let totals := touched.map fun i =>
      (i, b.itemTotal warehouseId i, snapshotTotal snapshots day warehouseId i)
    let differing := totals.filter fun p => p.2.1 ≠ p.2.2
    if differing ≠ [] then .error (totalsDiffer warehouseId day differing effects) else .ok ()

/-- The effects by warehouse, in the order in which warehouses first occur. -/
def byWarehouse (effects : List BookEffect) : List (ℕ × List BookEffect) :=
  effects.foldl (fun d e => Dict.adjust e.slot.warehouseId (fun es => es.getD [] ++ [e]) d) []

/-- Check the effects of each warehouse. -/
def verifyWarehouses (b : Books) (snapshots : List StockSnapshot) (ref : String) (day : Date) :
    List (ℕ × List BookEffect) → Except Err Unit
  | [] => .ok ()
  | p :: rest => do
    verifyCommitThreeBooks b snapshots p.1 ref p.2 day
    verifyWarehouses b snapshots ref day rest

/-- `enforce_three_books`: rebuild the snapshot of today, and compare the books by the
snapshot of the day of the commit. -/
def enforceThreeBooks (today day : Date) (ref : String) (effects : List BookEffect) (b : Books)
    (snapshots : List StockSnapshot) : Except Err (List StockSnapshot) :=
  if effects = [] then .ok snapshots
  else do
    let rebuilt := runSnapshot today b snapshots
    verifyWarehouses b rebuilt ref day (byWarehouse effects)
    return rebuilt

/-! ## What has passed the check -/

variable {b : Books} {snapshots snapshots' : List StockSnapshot} {ref : String} {day : Date}

theorem BookEffect.ledgerDelta_eq_some {e : BookEffect} {delta : ℤ}
    (h : e.ledgerDelta ref b = some delta) :
    ∃ r ∈ b.stockLedger.rows, r.slot = e.slot ∧ r.ref.text = ref ∧ r.refLine = e.refLine ∧
      r.delta = delta := by
  unfold BookEffect.ledgerDelta at h
  obtain ⟨r, hfind, rfl⟩ := Option.map_eq_some_iff.mp h
  have hmatch := List.find?_some hfind
  simp only [decide_eq_true_eq] at hmatch
  exact ⟨r, List.mem_of_find?_eq_some hfind, hmatch.1, hmatch.2.1, hmatch.2.2.1, rfl⟩

/-- The check passes exactly when the ledger has the amount of every effect and the
totals of the items agree. -/
theorem verifyCommitThreeBooks_eq_ok {warehouseId : ℕ} {effects : List BookEffect} :
    verifyCommitThreeBooks b snapshots warehouseId ref effects day = .ok () ↔
      ∀ e ∈ effects, e.ledgerDelta ref b = some e.qty ∧
        b.itemTotal warehouseId e.slot.itemId =
          snapshotTotal snapshots day warehouseId e.slot.itemId := by
  have hledger : ((effects.filter fun e => e.ledgerDelta ref b = none) = [] ∧
      (effects.filterMap fun e =>
        match e.ledgerDelta ref b with
        | none => none
        | some delta => if delta ≠ e.qty then some (e, delta) else none) = []) ↔
      ∀ e ∈ effects, e.ledgerDelta ref b = some e.qty := by
    rw [List.filter_eq_nil_iff, List.filterMap_eq_nil_iff]
    constructor
    · rintro ⟨hmissing, hmismatched⟩ e he
      have hfound := hmissing e he
      have hsame := hmismatched e he
      cases hdelta : e.ledgerDelta ref b with
      | none => simp [hdelta] at hfound
      | some delta => simpa [hdelta] using hsame
    · intro h
      refine ⟨fun e he => ?_, fun e he => ?_⟩ <;> simp [h e he]
  have htotals : (((effects.map fun e => e.slot.itemId).dedup.insertionSort (· ≤ ·)).map
      fun i => (i, b.itemTotal warehouseId i, snapshotTotal snapshots day warehouseId i)).filter
        (fun p => p.2.1 ≠ p.2.2) = [] ↔
      ∀ e ∈ effects, b.itemTotal warehouseId e.slot.itemId =
        snapshotTotal snapshots day warehouseId e.slot.itemId := by
    rw [List.filter_eq_nil_iff]
    simp
  unfold verifyCommitThreeBooks
  dsimp only
  by_cases hwritten : ∀ e ∈ effects, e.ledgerDelta ref b = some e.qty
  · obtain ⟨hmissing, hmismatched⟩ := hledger.mpr hwritten
    rw [if_neg (by rw [hmissing, hmismatched]; simp)]
    by_cases hequal : ∀ e ∈ effects, b.itemTotal warehouseId e.slot.itemId =
        snapshotTotal snapshots day warehouseId e.slot.itemId
    · rw [if_neg (not_not.mpr (htotals.mpr hequal))]
      exact iff_of_true rfl fun e he => ⟨hwritten e he, hequal e he⟩
    · rw [if_pos (mt htotals.mp hequal)]
      exact iff_of_false nofun fun h => hequal fun e he => (h e he).2
  · rw [if_pos (by rw [← not_and_or]; exact mt hledger.mp hwritten)]
    exact iff_of_false nofun fun h => hwritten fun e he => (h e he).1

/-- The effects of a warehouse. -/
def effectsIn (warehouseId : ℕ) (effects : List BookEffect) : List BookEffect :=
  effects.filter fun e => e.slot.warehouseId = warehouseId

/-- Each warehouse has one group, with all its effects. -/
theorem byWarehouse_spec (effects : List BookEffect) :
    ((byWarehouse effects).map Prod.fst).Nodup ∧
      ∀ w, ((byWarehouse effects).lookup w).getD [] = effectsIn w effects := by
  suffices hfold : ∀ d : List (ℕ × List BookEffect), (d.map Prod.fst).Nodup →
      ((effects.foldl (fun d e => Dict.adjust e.slot.warehouseId
        (fun es => es.getD [] ++ [e]) d) d).map Prod.fst).Nodup ∧
      ∀ w, ((effects.foldl (fun d e => Dict.adjust e.slot.warehouseId
        (fun es => es.getD [] ++ [e]) d) d).lookup w).getD [] =
          (d.lookup w).getD [] ++ effectsIn w effects from
    hfold [] List.nodup_nil
  unfold effectsIn
  induction effects with
  | nil => exact fun d hd => ⟨hd, fun w => (List.append_nil _).symm⟩
  | cons e effects ih =>
    intro d hd
    obtain ⟨hnodup, hlookup⟩ := ih (Dict.adjust e.slot.warehouseId (fun es => es.getD [] ++ [e]) d)
      (Dict.nodup_adjust _ _ hd)
    refine ⟨hnodup, fun w => ?_⟩
    rw [List.foldl_cons, hlookup, Dict.lookup_adjust]
    by_cases hw : w = e.slot.warehouseId
    · rw [if_pos hw, List.filter_cons_of_pos (by simp [hw]), hw, Option.getD_some,
        List.append_assoc]
      rfl
    · rw [if_neg hw, List.filter_cons_of_neg (by simpa using Ne.symm hw)]

/-- A group has the effects of its warehouse. -/
theorem byWarehouse_eq {effects : List BookEffect} {p : ℕ × List BookEffect}
    (hp : p ∈ byWarehouse effects) : p.2 = effectsIn p.1 effects := by
  obtain ⟨hnodup, hlookup⟩ := byWarehouse_spec effects
  have hgroup := hlookup p.1
  rwa [Dict.lookup_of_mem hnodup hp] at hgroup

/-- Every effect is among those of its warehouse. -/
theorem mem_byWarehouse {effects : List BookEffect} {e : BookEffect} (he : e ∈ effects) :
    (e.slot.warehouseId, effectsIn e.slot.warehouseId effects) ∈ byWarehouse effects := by
  have hgroup := (byWarehouse_spec effects).2 e.slot.warehouseId
  have hmem : e ∈ effectsIn e.slot.warehouseId effects := List.mem_filter.mpr ⟨he, by simp⟩
  cases hlookup : (byWarehouse effects).lookup e.slot.warehouseId with
  | none =>
    rw [hlookup] at hgroup
    rw [← hgroup] at hmem
    cases hmem
  | some es =>
    rw [hlookup] at hgroup
    rw [← hgroup]
    exact Dict.mem_of_lookup hlookup

theorem verifyWarehouses_eq_ok {groups : List (ℕ × List BookEffect)} :
    verifyWarehouses b snapshots ref day groups = .ok () ↔
      ∀ p ∈ groups, verifyCommitThreeBooks b snapshots p.1 ref p.2 day = .ok () := by
  induction groups with
  | nil => simp [verifyWarehouses]
  | cons q rest ih =>
    rw [List.forall_mem_cons, ← ih, verifyWarehouses]
    cases hverify : verifyCommitThreeBooks b snapshots q.1 ref q.2 day with
    | error err => simp [bind, Except.bind]
    | ok u => simp [bind, Except.bind]

/-- Nothing is checked without effects. Otherwise the snapshot of today is rebuilt, and the
check passes exactly when the ledger has the amount of every effect and the totals of the
items agree by the snapshot of the day. -/
theorem enforceThreeBooks_eq_ok_iff {today : Date} {effects : List BookEffect} :
    enforceThreeBooks today day ref effects b snapshots = .ok snapshots' ↔
      (snapshots' = if effects = [] then snapshots else runSnapshot today b snapshots) ∧
        ∀ e ∈ effects, e.ledgerDelta ref b = some e.qty ∧
          b.itemTotal e.slot.warehouseId e.slot.itemId = snapshotTotal
            (runSnapshot today b snapshots) day e.slot.warehouseId e.slot.itemId := by
  have hgroups : verifyWarehouses b (runSnapshot today b snapshots) ref day
      (byWarehouse effects) = .ok () ↔ ∀ e ∈ effects, e.ledgerDelta ref b = some e.qty ∧
        b.itemTotal e.slot.warehouseId e.slot.itemId = snapshotTotal
          (runSnapshot today b snapshots) day e.slot.warehouseId e.slot.itemId := by
    simp only [verifyWarehouses_eq_ok, verifyCommitThreeBooks_eq_ok]
    constructor
    · intro h e he
      exact h _ (mem_byWarehouse he) e (List.mem_filter.mpr ⟨he, by simp⟩)
    · intro h p hp e he
      rw [byWarehouse_eq hp] at he
      obtain ⟨hmem, hw⟩ := List.mem_filter.mp he
      rw [← of_decide_eq_true hw]
      exact h e hmem
  unfold enforceThreeBooks
  by_cases hnil : effects = []
  · simp [hnil, eq_comm]
  · rw [if_neg hnil, if_neg hnil, ← hgroups]
    cases hverify : verifyWarehouses b (runSnapshot today b snapshots) ref day
        (byWarehouse effects) with
    | error err => simp [bind, Except.bind, hverify]
    | ok u => simp [bind, Except.bind, hverify, pure, Except.pure, eq_comm]

/-- When the books agree, the ledger has every effect. -/
theorem enforceThreeBooks_eq_ok {today : Date} {effects : List BookEffect}
    (h : enforceThreeBooks today day ref effects b snapshots = .ok snapshots') :
    ∀ e ∈ effects, ∃ r ∈ b.stockLedger.rows, r.slot = e.slot ∧ r.ref.text = ref ∧
      r.refLine = e.refLine ∧ r.delta = e.qty := by
  intro e he
  exact BookEffect.ledgerDelta_eq_some ((enforceThreeBooks_eq_ok_iff.mp h).2 e he).1

end Wms

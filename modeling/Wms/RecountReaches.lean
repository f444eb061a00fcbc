import Wms.BooksAlong
import Wms.Count.Recount
import Wms.CountSets
import Wms.ReceiptDates

/-!
# A recount reaches the actual quantity

A recount reads the stock under the code as it is given and adjusts the lot of the code
without the blanks around it. Lots are stored with stripped codes, so under a code with
blanks nothing is ever read: a recount to zero then finds nothing to do and succeeds,
whatever is in stock under the code.
-/

namespace Wms

open Foundation

/-! ## Lot codes are stored stripped -/

/-- Every stored lot code is stripped. -/
def Books.CodesStripped (b : Books) : Prop :=
  ∀ l ∈ b.lots.rows, ∀ c ∈ l.lotCode, strip c.text = c.text

/-- Stripped codes stay so. -/
def StaysStripped (b b' : Books) : Prop := b.CodesStripped → b'.CodesStripped

instance : IsPreorder Books StaysStripped where
  refl _ := id
  trans _ _ _ h h' := h' ∘ h

theorem StaysStripped.of_lots {b b' : Books} (h : b'.lots = b.lots) : StaysStripped b b' := by
  intro hb l hl
  rw [h] at hl
  exact hb l hl

theorem LotValues.row_lotCode {v : LotValues} {n : ℕ} {hn : 0 < n} {l : Lot}
    (h : v.row n hn = .ok l) : Varchar.store? 64 v.lotCode = .ok l.lotCode := by
  unfold LotValues.row at h
  simp only [bind, Except.bind] at h
  split at h
  · cases h
  · rename_i code hcode
    split at h
    · cases h
      exact hcode
    · cases h

/-- A stripped code is stored as it is. -/
theorem strip_of_store? {code : Option String} {v : Option (Varchar 64)}
    (hcode : ∀ c ∈ code, strip c = c) (h : Varchar.store? 64 code = .ok v) :
    ∀ c ∈ v, strip c.text = c.text := by
  cases code with
  | none =>
    cases h
    exact nofun
  | some s =>
    change (Varchar.store 64 s).map some = .ok v at h
    cases hstore : Varchar.store 64 s with
    | error e =>
      rw [hstore] at h
      cases h
    | ok stored =>
      rw [hstore] at h
      cases h
      intro c hc
      obtain rfl := Option.some.inj hc
      rw [text_of_store_strip (hcode s rfl) hstore, hcode s rfl]

theorem staysStripped_followedByLots : FollowedByLots StaysStripped where
  insert v hv _ := by
    intro b o b' h hb
    unfold insertLot at h
    simp only [Tx.run_bind_ok, Tx.run_get_ok, Tx.run_ofExcept_ok] at h
    obtain ⟨_, _, ⟨rfl, rfl⟩, l, _, ⟨hrow, rfl⟩, h⟩ := h
    split at h
    · obtain ⟨-, rfl⟩ := Tx.run_pure_ok.mp h
      exact hb
    · rename_i hinsert
      simp only [Tx.run_bind_ok, Tx.run_set_ok, Tx.run_pure_ok] at h
      obtain ⟨_, _, rfl, -, rfl⟩ := h
      intro l' hl'
      have hmem : l' ∈ b.lots.rows ++ [l] := by
        rw [← (Table.insert_eq_some.mp hinsert).2]
        exact hl'
      rcases List.mem_append.mp hmem with hold | hnew
      · exact hb l' hold
      · rw [List.mem_singleton.mp hnew]
        exact strip_of_store? hv (LotValues.row_lotCode hrow)
  patch id ed := by
    intro b u b' h hb
    rcases patchLotExpiryIfNull_run_ok h with rfl | ⟨e, -, rfl⟩
    · exact hb
    · intro l' hl'
      obtain ⟨l, hl, rfl⟩ := List.mem_map.mp hl'
      rw [l.patchExpiryOf_lotCode id e]
      exact hb l hl

/-- Nothing is in stock under a code that is not stripped. -/
theorem Books.CodesStripped.codeTotal_eq_zero {b : Books} (h : b.CodesStripped) {w i : ℕ}
    {code : String} (hcode : strip code ≠ code) : b.codeTotal w i (some code) = 0 := by
  have hnone : (b.stocksLot.keys.filter fun k => b.HasCode w i (some code) k) = [] := by
    rw [List.filter_eq_nil_iff]
    intro k _ hk
    obtain ⟨-, -, hlot⟩ := of_decide_eq_true hk
    obtain ⟨c, hc, rfl⟩ := Option.map_eq_some_iff.mp hlot
    obtain ⟨l, hfind, hl⟩ := Option.bind_eq_some_iff.mp hc
    exact hcode (h l (List.mem_of_find?_eq_some hfind) c hl)
  unfold Books.codeTotal
  rw [hnone]
  rfl

/-! ## Runs -/

/-- An operation of the system, a count or a recount. -/
inductive CountOp
  | system (op : Op)
  | count (pms : PmsClient) (utcNow : ℤ) (req : CountRequest)
  | recount (scanRef : String) (pms : PmsClient) (occurredAt : ℤ) (req : RecountRequest)

/-- Carry out an operation; its answer is not looked at. -/
def CountOp.exec : CountOp → Tx StockTables Err PUnit
  | .system op => onStockDb op.exec
  | .count pms utcNow req => (fun _ => ⟨⟩) <$> onStockDb (submitCount pms utcNow req)
  | .recount scanRef pms occurredAt req =>
    (fun _ => ⟨⟩) <$> recountUnder scanRef pms occurredAt req

/-- The state after a run from empty tables. -/
def StockTables.after (ops : List CountOp) : StockTables :=
  Tx.attemptAll CountOp.exec ops StockTables.empty

variable {t t' : StockTables} {pms : PmsClient} {scanRef : String} {now : ℤ}
  {req : RecountRequest} {res : RecountResponse}

theorem onStockDb_run_ok {α : Type} {x : Trans α} {a : α} :
    (onStockDb x).run t = .ok (a, t') ↔
      ∃ db, x.run t.db = .ok (a, db) ∧ { t with db := db } = t' := by
  unfold onStockDb
  rw [Tx.run_zoom_ok]

/-- What is in stock under the code as it is given. -/
def RecountRequest.onHand (req : RecountRequest) (b : Books) : ℤ :=
  b.codeTotal req.warehouseId req.itemId req.lotCode

/-- A recount finds nothing to do, or moves the books by the difference. -/
theorem recountUnder_run_ok (h : (recountUnder scanRef pms now req).run t = .ok (res, t')) :
    (req.actual = req.onHand t.db.books ∧ t'.db = t.db) ∨
      (req.actual ≠ req.onHand t.db.books ∧ ∃ b, t'.db = t.db.putBooks b ∧
        (recountLot ⟨pms, t.db.eventBook.ids, now⟩ scanRef req
          (req.actual - req.onHand t.db.books)).run t.db.books = .ok (⟨⟩, b)) := by
  unfold recountUnder insertEventLog at h
  simp only [Tx.run_bind_ok, onStockDb_run_ok, ensureWarehouseNotFrozen_run_ok,
    Tx.run_get_ok] at h
  obtain ⟨_, _, ⟨_, ⟨-, rfl⟩, rfl⟩, _, _, ⟨rfl, rfl⟩, h⟩ := h
  split at h
  · rename_i hdelta
    simp only [Tx.run_bind_ok, onStockDb_run_ok, onBooks_run_ok, Tx.run_get_ok, Tx.run_set_ok,
      Tx.run_pure_ok] at h
    obtain ⟨_, _, ⟨_, ⟨b, hlot, rfl⟩, rfl⟩, _, _, ⟨_, _, ⟨rfl, rfl⟩, _, _, rfl, rfl, rfl⟩, -, rfl⟩ := h
    exact .inr ⟨sub_ne_zero.mp hdelta, b, rfl, hlot⟩
  · rename_i hdelta
    simp only [Tx.run_bind_ok, Tx.run_get_ok, Tx.run_set_ok, Tx.run_pure_ok] at h
    obtain ⟨_, _, ⟨_, _, ⟨rfl, rfl⟩, _, _, rfl, rfl, rfl⟩, -, rfl⟩ := h
    exact .inl ⟨sub_eq_zero.mp (not_not.mp hdelta), rfl⟩

/-- Every operation stores stripped codes only. -/
theorem CountOp.exec_staysStripped {op : CountOp} {u : PUnit}
    (h : op.exec.run t = .ok (u, t')) : StaysStripped t.db.books t'.db.books := by
  have hadjust : ∀ env call, Tx.Follows StaysStripped (adjustLot env call) :=
    fun _ _ _ _ _ hrun => .of_lots (adjustLot_lots_eq hrun)
  cases op with
  | system op =>
    obtain ⟨db, hrun, rfl⟩ := onStockDb_run_ok.mp h
    exact Op.exec_along staysStripped_followedByLots (fun _ _ => .of_lots) hrun
  | count pms utcNow req =>
    obtain ⟨res, hrun, -⟩ := Tx.run_map_ok.mp h
    obtain ⟨db, hsubmit, rfl⟩ := onStockDb_run_ok.mp hrun
    have hcount : Tx.Follows StaysStripped (countLot ⟨pms, t.db.eventBook.ids, utcNow⟩ req) :=
      (staysStripped_followedByLots.resolveCountedLot pms req).bind fun _ =>
        Tx.follows_get.bind fun _ => (Tx.follows_ofExcept _).bind fun _ =>
        (hadjust _ _).bind fun _ => Tx.follows_pure _
    exact hcount _ _ _ (submitCount_run_ok hsubmit)
  | recount scanRef pms now req =>
    obtain ⟨res, hrun, -⟩ := Tx.run_map_ok.mp h
    have hlot : Tx.Follows StaysStripped (recountLot ⟨pms, t.db.eventBook.ids, now⟩ scanRef req
        (req.actual - req.onHand t.db.books)) :=
      (staysStripped_followedByLots.resolveLotForStockAdjust _ _ _ _ _ _).bind fun _ =>
        (hadjust _ _).bind fun _ => Tx.follows_pure _
    rcases recountUnder_run_ok hrun with ⟨-, hdb⟩ | ⟨-, b, hdb, hbooks⟩
    · rw [hdb]
      exact id
    · rw [hdb]
      exact hlot _ _ _ hbooks

/-- In every reachable state the lot codes are stripped. -/
theorem codesStripped_after (ops : List CountOp) :
    (StockTables.after ops).db.books.CodesStripped := by
  refine Tx.attemptAll_invariant (I := fun t : StockTables => t.db.books.CodesStripped)
    (P := fun _ _ => True) ?_ (fun l hl => absurd hl List.not_mem_nil)
    (Tx.allAccepted_true ops StockTables.empty)
  intro op t u t' ht _ hrun
  exact CountOp.exec_staysStripped hrun ht

/-! ## What a recount reaches -/

/-- What is in stock under the code in its normal form. -/
def RecountRequest.total (req : RecountRequest) (b : Books) : ℤ :=
  b.codeTotal req.warehouseId req.itemId (normLotCode req.lotCode)

/-- The stock under the code is the actual quantity, and the same request would not change
the books any more. -/
structure RecountRequest.Reached (req : RecountRequest) (t : StockTables) : Prop where
  total_eq : req.total t.db.books = req.actual
  repeat_eq : ∀ scanRef pms now res t',
    (recountUnder scanRef pms now req).run t = .ok (res, t') → t'.db.books = t.db.books

/-- The ledger has a recount of the lot under the scan reference. -/
def RecountRequest.Repeats (req : RecountRequest) (scanRef : String) (b : Books) (lotId : ℕ) :
    Prop :=
  b.HasKey ⟨req.warehouseId, req.itemId, lotId⟩ "COUNT" scanRef 1

/-- There is nothing to do under the code as it is given, and the same is in stock under
its normal form; or there is something to do, and the scan reference is new to the lot. -/
def RecountRequest.Fits (req : RecountRequest) (pms : PmsClient) (scanRef : String) (b : Books) :
    Prop :=
  (req.actual = req.onHand b ∧ req.total b = req.onHand b) ∨
    (req.actual ≠ req.onHand b ∧ ∀ lotId code b₁,
      (resolveLotForStockAdjust pms req.itemId req.warehouseId req.lotCode none none).run b =
        .ok ((lotId, code), b₁) → ¬req.Repeats scanRef b lotId)

/-- A movement of a lot with a code and without dates adds nothing. -/
theorem adjustLot_nonpos {env : AdjustEnv} {call : AdjustCall} {b b' : Books} {out : AdjustOutcome}
    {c : String} (hcode : normLotCode call.lotCode = some c) (hpd : call.productionDate = none)
    (hed : call.expiryDate = none) (h : (adjustLot env call).run b = .ok (out, b')) :
    call.delta ≤ 0 := by
  by_contra hpos
  have hincrease : 0 < call.delta := by omega
  rcases adjustLot_run_ok h with ⟨hprep, -⟩ | ⟨a, hprep, -⟩
  · have hzero := prepareAdjustment_eq_none hprep
    omega
  · have hdates := (prepareAdjustment_dates hprep).2
    rw [hcode, hpd, hed, resolve_dates_of_increase_without_dates _ _ hincrease] at hdates
    cases hdates

/-- A correction resolves the lot of the normal form of the code, adds only where there is
no code, and moves the stock under the code unless its key is in the ledger. -/
theorem recountLot_run_ok {env : AdjustEnv} {b b' : Books} {delta : ℤ} {u : PUnit}
    (hdelta : delta ≠ 0) (h : (recountLot env scanRef req delta).run b = .ok (u, b')) :
    (normLotCode req.lotCode = none → req.lotCode = none) ∧
      (normLotCode req.lotCode ≠ none → delta ≤ 0) ∧
      ∃ lotId b₁, (resolveLotForStockAdjust env.pms req.itemId req.warehouseId req.lotCode none
        none).run b = .ok ((lotId, normLotCode req.lotCode), b₁) ∧
          ((req.Repeats scanRef b lotId ∧ req.total b' = req.total b) ∨
            (¬req.Repeats scanRef b lotId ∧ req.total b' = req.total b + delta)) := by
  unfold recountLot at h
  simp only [Tx.run_bind_ok, Tx.run_pure_ok] at h
  obtain ⟨⟨lotId, code⟩, b₁, hresolve, out, b₂, hadjust, -, rfl⟩ := h
  obtain ⟨rfl, hnone, hcode⟩ := resolveLotForStockAdjust_run_ok hresolve
  obtain ⟨hstock, hledger⟩ :=
    sameStock_followedByLots.resolveLotForStockAdjust env.pms _ _ _ _ _ b _ b₁ hresolve
  have hcodes :=
    codesKept_followedByLots.resolveLotForStockAdjust env.pms _ _ _ _ _ b _ b₁ hresolve
  have htotal : req.total b₁ = req.total b :=
    Books.codeTotal_of_sameStock ⟨hstock, hledger⟩ hcodes
  have hkey : b₁.HasKey ⟨req.warehouseId, req.itemId, lotId⟩ "COUNT" scanRef 1 ↔
      req.Repeats scanRef b lotId := by
    unfold RecountRequest.Repeats Books.HasKey
    rw [hledger]
  refine ⟨hnone, fun hsome => ?_, lotId, b₁, hresolve, ?_⟩
  · obtain ⟨c, hc⟩ := Option.ne_none_iff_exists'.mp hsome
    refine adjustLot_nonpos (c := c) ?_ rfl rfl hadjust
    change normLotCode (normLotCode req.lotCode) = some c
    rw [hc]
    exact (normLotCode_norm hc).2
  · rcases adjustLot_moves rfl (.inl hdelta) hadjust with ⟨hit, rfl, -⟩ | ⟨hfree, hlots, hmove, -⟩
    · exact .inl ⟨hkey.mp hit, htotal⟩
    · refine .inr ⟨mt hkey.mpr hfree, ?_⟩
      have hsame : ∀ k, b₂.HasCode req.warehouseId req.itemId (normLotCode req.lotCode) k ↔
          b₁.HasCode req.warehouseId req.itemId (normLotCode req.lotCode) k := by
        intro k
        unfold Books.HasCode Books.lotCodeOf Books.findLot
        rw [hlots]
      have hupdate : req.total b₂ = req.total b₁ +
          if b₂.HasCode req.warehouseId req.itemId (normLotCode req.lotCode)
            ⟨req.warehouseId, req.itemId, lotId⟩ then delta else 0 :=
        Books.codeTotal_update (fun k _ => hsame k) hmove
      rw [hupdate, if_pos ((hsame _).mpr hcode), htotal]

/-- Where the codes are stripped, a recount that has something to do names its code in
normal form. -/
theorem RecountRequest.code_eq_norm {b : Books} (hstripped : b.CodesStripped)
    (hdelta : req.actual ≠ req.onHand b)
    (hnone : normLotCode req.lotCode = none → req.lotCode = none)
    (hsome : normLotCode req.lotCode ≠ none → req.actual - req.onHand b ≤ 0) :
    normLotCode req.lotCode = req.lotCode := by
  cases hnorm : normLotCode req.lotCode with
  | none => exact (hnone hnorm).symm
  | some c =>
    have hle := hsome (by rw [hnorm]; exact Option.some_ne_none c)
    cases hcode : req.lotCode with
    | none =>
      rw [hcode] at hnorm
      cases hnorm
    | some s =>
      by_cases hs : strip s = s
      · have hfound := hnorm
        rw [hcode] at hfound
        unfold normLotCode at hfound
        dsimp only at hfound
        split at hfound
        · cases hfound
        · rw [← hfound, hs]
      · -- nothing is in stock under such a code, so the recount would have to add
        have hzero : req.onHand b = 0 := by
          unfold RecountRequest.onHand
          rw [hcode]
          exact hstripped.codeTotal_eq_zero hs
        have hactual := req.actual_nonneg
        omega

/-- In every reachable state an accepted recount reaches the actual quantity, and leaves
nothing to do for its repetition, exactly when the code and its normal form agree where
there is nothing to do, and the scan reference is new where there is. -/
theorem recountUnder_reached_iff (ops : List CountOp)
    (h : (recountUnder scanRef pms now req).run (StockTables.after ops) = .ok (res, t')) :
    req.Reached t' ↔ req.Fits pms scanRef (StockTables.after ops).db.books := by
  have hstripped := codesStripped_after ops
  generalize StockTables.after ops = t at h hstripped ⊢
  -- with nothing to do under the code as it is given, a repetition changes nothing
  have hidle : ∀ t : StockTables, req.actual = req.onHand t.db.books → ∀ scanRef pms now res t',
      (recountUnder scanRef pms now req).run t = .ok (res, t') → t'.db.books = t.db.books := by
    intro t heq scanRef pms now res t' hrun
    rcases recountUnder_run_ok hrun with ⟨-, hdb⟩ | ⟨hne, -⟩
    · rw [hdb]
    · exact absurd heq hne
  rcases recountUnder_run_ok h with ⟨heq, hdb⟩ | ⟨hne, b, hdb, hlot⟩
  · constructor
    · intro hreached
      refine .inl ⟨heq, ?_⟩
      rw [← heq, ← hreached.total_eq, hdb]
    · rintro (⟨-, htotal⟩ | ⟨hne, -⟩)
      · exact ⟨by rw [hdb, htotal, heq], hidle t' (by rw [hdb]; exact heq)⟩
      · exact absurd heq hne
  · obtain ⟨hnone, hsome, lotId, b₁, hresolve, hcases⟩ := recountLot_run_ok (sub_ne_zero.mpr hne) hlot
    have hcode := req.code_eq_norm hstripped hne hnone hsome
    have htotal : ∀ b, req.total b = req.onHand b := by
      intro b
      unfold RecountRequest.total RecountRequest.onHand
      rw [hcode]
    have hbooks : t'.db.books = b := by
      rw [hdb]
      rfl
    rcases hcases with ⟨hit, hsame⟩ | ⟨hfree, hmoved⟩
    · refine iff_of_false (fun hreached => ?_) ?_
      · have hactual := hreached.total_eq
        rw [hbooks, hsame, htotal] at hactual
        exact hne hactual.symm
      · rintro (⟨heq, -⟩ | ⟨-, hnew⟩)
        · exact hne heq
        · exact hnew lotId _ b₁ hresolve hit
    · have hactual : req.total b = req.actual := by
        rw [hmoved, htotal]
        omega
      refine iff_of_true ⟨by rw [hbooks, hactual], hidle t' ?_⟩ (.inr ⟨hne, ?_⟩)
      · rw [hbooks, ← htotal, hactual]
      · intro lotId' code' b' hresolve'
        obtain ⟨rfl, -⟩ : lotId = lotId' ∧ _ :=
          Prod.mk.inj (Prod.mk.inj (Except.ok.inj (hresolve.symm.trans hresolve'))).1
        exact hfree

/-! ## A code with a blank -/

/-- Seven of the ten apples are there. -/
def recountSeven : RecountRequest where
  itemId := 1
  warehouseId := 1
  lotCode := none
  actual := 7
  deviceId := none
  warehouse_pos := Nat.one_pos
  actual_nonneg := countSeven.qty_nonneg

/-- The recount of the apples is accepted. -/
theorem recountUnder_reached_iff_recountSeven :
    ∃ res t', (recountUnder "scan:1" plainPms 0 recountSeven).run
        (StockTables.after (stocked.map .system)) = .ok (res, t') ∧
      (recountSeven.Reached t' ↔ recountSeven.Fits plainPms "scan:1"
        (StockTables.after (stocked.map .system)).db.books) := by
  have haccepted : ((recountUnder "scan:1" plainPms 0 recountSeven).run
      (StockTables.after (stocked.map .system))).toBool := by
    decide +kernel
  generalize stocked.map CountOp.system = ops at haccepted ⊢
  obtain ⟨res, t', h⟩ := Tx.exists_run_of_toBool haccepted
  exact ⟨res, t', h, recountUnder_reached_iff ops h⟩

/-- No milk is there; the code is given with a blank. -/
def recountNoMilk : RecountRequest where
  itemId := 1
  warehouseId := 1
  lotCode := some "MILK-0601 "
  actual := 0
  deviceId := none
  warehouse_pos := Nat.one_pos
  actual_nonneg := by decide

/-- A piece of milk has been received. -/
def milkReceived : List CountOp := (receiveTwice.take 2).map .system

/-- The recount to zero is accepted, and the piece is still in stock under the code. -/
theorem not_reached_recountNoMilk :
    ∃ res t', (recountUnder "scan:1" datedPms 0 recountNoMilk).run (StockTables.after milkReceived) =
        .ok (res, t') ∧
      t'.db.books.codeTotal 1 1 (some "MILK-0601") = 1 ∧ ¬recountNoMilk.Reached t' := by
  have haccepted : ((recountUnder "scan:1" datedPms 0 recountNoMilk).run
      (StockTables.after milkReceived)).toBool := by
    decide +kernel
  have hstock : ((recountUnder "scan:1" datedPms 0 recountNoMilk).attempt
      (StockTables.after milkReceived)).db.books.codeTotal 1 1 (some "MILK-0601") = 1 := by
    decide +kernel
  generalize StockTables.after milkReceived = t at haccepted hstock ⊢
  obtain ⟨res, t', h⟩ := Tx.exists_run_of_toBool haccepted
  rw [Tx.attempt_of_run h] at hstock
  refine ⟨res, t', h, hstock, fun hreached => ?_⟩
  have hnorm : normLotCode recountNoMilk.lotCode = some "MILK-0601" := by decide +kernel
  have hzero := hreached.total_eq
  unfold RecountRequest.total at hzero
  rw [hnorm] at hzero
  have hone : (1 : ℤ) = 0 := hstock.symm.trans hzero
  exact absurd hone (by decide)

end Wms

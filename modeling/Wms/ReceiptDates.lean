import Wms.Inbound.Progress
import Wms.Stock.ResolvedLot
import Wms.System

/-!
# The dates of receipts

A receipt that goes through a delivery is recorded with the production date of its lot,
and a lot that it creates takes the dates of the delivery. The expiry date of the ledger
row is the one that was received: a lot that exists keeps its own, so the two may differ.
A movement of a single lot is recorded with the dates of its request.
-/

namespace Wms

open Foundation

/-- A dated lot that the row refers to has the production date of the row. -/
def LedgerRow.OnLot (b : Books) (r : LedgerRow) : Prop :=
  ∃ l ∈ b.lots.rows, l.id = r.slot.lotId ∧
    (l.expiryPolicySnapshot = .required → r.productionDate = l.productionDate)

/-- What a delivery does to lots and ledger: a dated lot that is new has the property
`D`, and an added row has the property `P` and the production date of its lot. -/
structure DatedReceipts (D : Lot → Prop) (P : LedgerRow → Prop) (b b' : Books) : Prop where
  grow : LotsGrow D b b'
  rows : ∃ rows, b'.stockLedger.rows = b.stockLedger.rows ++ rows ∧ ∀ r ∈ rows, P r ∧ r.OnLot b'

/-- The lot was created with the normalised dates of a line of the commit. -/
def CommitCall.LotDates (call : CommitCall) (l : Lot) : Prop :=
  ∃ line ∈ call.lines, ∃ itemId policy mode,
    call.pms.getItemPolicy itemId = .ok (some policy) ∧ policy.expiryPolicy = .required ∧
      normalizeBatchDatesForItem call.pms itemId line.productionDate line.expiryDate =
        .ok ⟨l.productionDate, l.expiryDate, mode⟩

/-- The row of a line of the commit: without dates for an item that has none, and else,
where the supplier names the lots, with the normalised dates of the line. -/
def CommitCall.RowDates (call : CommitCall) (r : LedgerRow) : Prop :=
  ∃ line ∈ call.lines, ∃ policy, call.pms.getItemPolicy r.slot.itemId = .ok (some policy) ∧
    (policy.expiryPolicy = .none → r.productionDate = none ∧ r.expiryDate = none) ∧
    (policy.expiryPolicy = .required → policy.lotSourcePolicy = .supplierOnly → ∃ mode,
      normalizeBatchDatesForItem call.pms r.slot.itemId line.productionDate line.expiryDate =
        .ok ⟨r.productionDate, r.expiryDate, mode⟩)

/-- The lot was created with the dates of an entry of the operation, as far as the entry
gives them; it gives the production date. -/
def OperationCall.LotDates (call : OperationCall) (l : Lot) : Prop :=
  ∃ raw ∈ call.lines, ∃ entry ∈ raw.entries, entry.productionDate.isSome ∧
    l.productionDate = entry.productionDate ∧
    (entry.expiryDate.isSome → l.expiryDate = entry.expiryDate)

/-- The row of a movement of a single lot: it has the dates of the request as the date
rule completes them, and none for an item without dates. -/
def AdjustCall.RowDates (pms : PmsClient) (call : AdjustCall) (r : LedgerRow) : Prop :=
  resolveAndValidateDatesForInbound pms call.itemId call.delta (normLotCode call.lotCode)
      call.productionDate call.expiryDate = .ok (r.productionDate, r.expiryDate) ∧
    ∀ policy, pms.getItemPolicy call.itemId = .ok (some policy) → policy.expiryPolicy = .none →
      r.productionDate = none ∧ r.expiryDate = none

variable {D : Lot → Prop} {P : LedgerRow → Prop} {b b' b'' : Books} {db db' : Database}

theorem LedgerRow.OnLot.kept {r : LedgerRow} (h : r.OnLot b) (hkept : LotsKept b b') :
    r.OnLot b' := by
  obtain ⟨l, hl, hid, hpd⟩ := h
  obtain ⟨l', hl', hid', -, hpolicy, hsame⟩ := hkept l hl
  refine ⟨l', hl', hid'.trans hid, fun hreq => ?_⟩
  rw [hpolicy] at hreq
  rw [hsame hreq]
  exact hpd hreq

instance (D : Lot → Prop) (P : LedgerRow → Prop) : IsPreorder Books (DatedReceipts D P) where
  refl b := ⟨refl_of (LotsGrow D) b, [], (List.append_nil _).symm, by simp⟩
  trans a b c := by
    rintro ⟨hgrow, rows, hrows, hdated⟩ ⟨hgrow', rows', hrows', hdated'⟩
    refine ⟨trans_of (LotsGrow D) hgrow hgrow', rows ++ rows', ?_, fun r hr => ?_⟩
    · rw [hrows', hrows, List.append_assoc]
    · rcases List.mem_append.mp hr with hr | hr
      · exact ⟨(hdated r hr).1, (hdated r hr).2.kept hgrow'.kept⟩
      · exact hdated' r hr

/-- Lots that grow while the ledger stays. -/
theorem DatedReceipts.of_lotsGrow (hgrow : LotsGrow D b b') (hsame : SameStock b b') :
    DatedReceipts D P b b' :=
  ⟨hgrow, [], by rw [hsame.2, List.append_nil], by simp⟩

/-- A row that is added while the lots stay. -/
theorem DatedReceipts.of_row {r : LedgerRow} (hlots : b'.lots = b.lots)
    (hrows : b'.stockLedger.rows = b.stockLedger.rows ++ [r]) (hP : P r) (hlot : r.OnLot b) :
    DatedReceipts D P b b' := by
  refine ⟨.of_eq hlots, [r], hrows, fun r' hr' => ?_⟩
  obtain rfl := List.mem_singleton.mp hr'
  exact ⟨hP, hlot.kept (.of_eq hlots)⟩

/-! ## The date rules -/

theorem normLotCode_ne_none {code : String} (hblank : strip code ≠ "")
    (hpseudo : upper (strip code) ≠ "NONE") : normLotCode (some code) ≠ none := by
  unfold normLotCode
  dsimp only
  rw [if_neg]
  · exact Option.some_ne_none _
  · rintro (h | h)
    · exact hblank h
    · exact hpseudo (upper_eq_of_lower_eq h)

/-- A clean text is stripped and not blank. -/
theorem cleanText_eq_some {o : Option String} {s : String} (h : cleanText o = some s) :
    strip s = s ∧ s ≠ "" := by
  unfold cleanText at h
  split at h
  · cases h
  · split at h
    · cases h
    · rename_i t hblank
      cases h
      exact ⟨strip_strip t, hblank⟩

section DateRules

variable {pms : PmsClient} {itemId : ℕ} {policy : ItemPolicy} {delta : ℤ} {code : Option String}
  {pd ed : Option Date} {dates : Option Date × Option Date}

/-- A request without dates carries none. -/
theorem resolveDates_of_none
    (h : resolveAndValidateDatesForInbound pms itemId delta code none none = .ok dates) :
    dates = (none, none) := by
  by_cases hdelta : 0 < delta
  · cases code with
    | none => exact (Except.ok.inj h).symm
    | some code =>
      rw [resolve_dates_of_increase_without_dates pms itemId hdelta code] at h
      cases h
  · rw [resolve_dates_of_no_increase_without_dates pms itemId (not_lt.mp hdelta) code] at h
    exact (Except.ok.inj h).symm

/-- An item without dates gets none. -/
theorem normalizeBatchDates_of_undated (hpolicy : pms.getItemPolicy itemId = .ok (some policy))
    (hnone : policy.expiryPolicy = .none) :
    normalizeBatchDatesForItem pms itemId pd ed = .ok ⟨none, none, none⟩ := by
  unfold normalizeBatchDatesForItem
  split
  · rfl
  · rw [hpolicy]
    simp only [bind, Except.bind, hnone]

theorem resolveDates_of_undated (hpolicy : pms.getItemPolicy itemId = .ok (some policy))
    (hnone : policy.expiryPolicy = .none)
    (h : resolveAndValidateDatesForInbound pms itemId delta code pd ed = .ok dates) :
    dates = (none, none) := by
  cases code with
  | none => exact (Except.ok.inj h).symm
  | some code =>
    unfold resolveAndValidateDatesForInbound at h
    dsimp only at h
    rw [normalizeBatchDates_of_undated hpolicy hnone] at h
    simp only [bind, Except.bind] at h
    split at h
    · cases h
    · exact (Except.ok.inj h).symm

/-- Two dates of a dated item are kept. -/
theorem normalizeBatchDates_of_both {p e : Date} {d : BatchDates}
    (hpolicy : pms.getItemPolicy itemId = .ok (some policy))
    (hreq : policy.expiryPolicy = .required)
    (h : normalizeBatchDatesForItem pms itemId (some p) (some e) = .ok d) :
    d.productionDate = some p ∧ d.expiryDate = some e := by
  unfold normalizeBatchDatesForItem at h
  rw [if_neg (by simp), hpolicy] at h
  simp only [bind, Except.bind, hreq] at h
  split at h
  · cases h
  · rename_i d' hkeep
    split at h
    · cases h
    · cases h
      unfold keepExplicitDates at hkeep
      split at hkeep
      · cases hkeep
      · cases hkeep
        exact ⟨rfl, rfl⟩

theorem resolveDates_of_both {p e : Date} {code : String}
    (hpolicy : pms.getItemPolicy itemId = .ok (some policy))
    (hreq : policy.expiryPolicy = .required)
    (h : resolveAndValidateDatesForInbound pms itemId delta (some code) (some p) (some e) =
      .ok dates) : dates = (some p, some e) := by
  unfold resolveAndValidateDatesForInbound at h
  simp only [bind, Except.bind] at h
  split at h
  · cases h
  · rename_i d hnormal
    obtain ⟨hp, he⟩ := normalizeBatchDates_of_both hpolicy hreq hnormal
    split at h
    · cases h
    · simp only [hp, he] at h
      split at h
      · cases h
      · exact (Except.ok.inj h).symm

/-- The dates of a line of a commit. -/
theorem commitDates_eq_ok {lineNo : ℕ}
    (h : commitDates pms policy itemId lineNo pd ed = .ok dates) :
    (policy.expiryPolicy = .none → dates = (none, none)) ∧
      (policy.expiryPolicy = .required → dates.1.isSome ∧ dates.2.isSome ∧ ∃ mode,
        normalizeBatchDatesForItem pms itemId pd ed = .ok ⟨dates.1, dates.2, mode⟩) := by
  unfold commitDates at h
  cases hpolicy : policy.expiryPolicy with
  | none =>
    rw [hpolicy] at h
    cases h
    exact ⟨fun _ => rfl, nofun⟩
  | required =>
    rw [hpolicy] at h
    simp only [bind, Except.bind] at h
    refine ⟨nofun, fun _ => ?_⟩
    split at h
    · cases h
    · rename_i d hnormal
      split at h
      · cases h
      · rename_i hpd
        split at h
        · cases h
        · rename_i hed
          cases h
          exact ⟨Option.isSome_iff_ne_none.mpr hpd, Option.isSome_iff_ne_none.mpr hed, d.mode,
            hnormal⟩

end DateRules

/-! ## Movements of a single lot -/

section Movements

variable {env : AdjustEnv} {call : AdjustCall} {a : Adjustment} {out : AdjustOutcome}

theorem prepareAdjustment_dates (h : prepareAdjustment env call b = .ok (some a)) :
    (∃ policy, env.pms.getItemPolicy call.itemId = .ok (some policy)) ∧
      resolveAndValidateDatesForInbound env.pms call.itemId call.delta (normLotCode call.lotCode)
        call.productionDate call.expiryDate = .ok (a.productionDate, a.expiryDate) := by
  unfold prepareAdjustment at h
  simp only [bind, Except.bind] at h
  split at h
  · cases h
  · split at h
    · cases h
    · split at h
      · cases h
      · split at h
        · cases h
        · rename_i hpolicy
          split at h
          · cases h
          · rename_i policy
            split at h
            · cases h
            · split at h
              · cases h
              · split at h
                · cases h
                · rename_i hdates
                  cases h
                  exact ⟨⟨policy, hpolicy⟩, hdates⟩

theorem LedgerValues.row_dates {v : LedgerValues} {r : LedgerRow} (h : v.row = .ok r) :
    r.productionDate = v.productionDate ∧ r.expiryDate = v.expiryDate := by
  unfold LedgerValues.row at h
  simp only [bind, Except.bind] at h
  split at h
  · cases h
  · split at h
    · cases h
    · split at h
      · cases h
      · split at h
        · cases h
        · split at h
          · split at h
            · cases h
              exact ⟨rfl, rfl⟩
            · cases h
          · cases h

/-- A receipt is recorded with the dates of the movement. -/
theorem Recorded.dates_eq {r : LedgerRow} (h : Recorded b a r b') (hreason : a.reason = "RECEIPT") :
    r.productionDate = a.productionDate ∧ r.expiryDate = a.expiryDate := by
  have hcanon : canonReason a.reason = some .receipt := by
    rw [hreason]
    decide
  have hvalues : (a.values (b.stock a.slot + a.delta)).canonical.productionDate =
      a.productionDate ∧
      (a.values (b.stock a.slot + a.delta)).canonical.expiryDate = a.expiryDate := by
    unfold LedgerValues.canonical
    simp only [Adjustment.values, hcanon, if_true, and_self]
  obtain ⟨hpd, hed⟩ := LedgerValues.row_dates h.row_eq
  exact ⟨hpd.trans hvalues.1, hed.trans hvalues.2⟩

/-- The rows that a movement of a single lot adds have the dates of its request. -/
theorem adjustLot_rowDates (hreason : call.reason = "RECEIPT")
    (h : (adjustLot env call).run b = .ok (out, b')) :
    b'.lots = b.lots ∧ ∀ r ∈ b'.stockLedger.rows.drop b.stockLedger.rows.length,
      call.RowDates env.pms r := by
  rcases adjustLot_cases h with ⟨rfl, -⟩ | ⟨a, hprep, -, ⟨row, hrec, -⟩ | ⟨hover, -⟩⟩
  · exact ⟨rfl, by simp⟩
  · refine ⟨hrec.lots_eq, ?_⟩
    obtain ⟨-, -, hreason', -⟩ := prepareAdjustment_eq_some hprep
    obtain ⟨hpd, hed⟩ := hrec.dates_eq (hreason'.trans hreason)
    obtain ⟨-, hdates⟩ := prepareAdjustment_dates hprep
    rw [← hpd, ← hed] at hdates
    rw [hrec.ledger_eq, List.drop_left]
    intro r hr
    obtain rfl := List.mem_singleton.mp hr
    refine ⟨hdates, fun policy hpolicy hnone => ?_⟩
    exact Prod.mk.inj (resolveDates_of_undated hpolicy hnone hdates)
  · -- a movement that the ledger swallows adds no row
    have hlength := congrArg List.length hover.journal_eq
    unfold Books.journal at hlength
    rw [List.length_map, List.length_map] at hlength
    refine ⟨hover.lots_eq, ?_⟩
    rw [List.drop_eq_nil_of_le hlength.le]
    simp

/-- A movement that the ledger does not swallow adds a row of its slot with the dates
that were prepared, or none. -/
theorem adjustLot_datedReceipts (hverbatim : call.Verbatim) (hdelta : call.delta ≠ 0)
    (hreason : call.reason = "RECEIPT")
    (hrow : ∀ a r, prepareAdjustment env call b = .ok (some a) → r.slot = a.slot →
      r.productionDate = a.productionDate → r.expiryDate = a.expiryDate → P r ∧ r.OnLot b)
    (h : (adjustLot env call).run b = .ok (out, b')) : DatedReceipts D P b b' := by
  rcases adjustLot_cases h with ⟨rfl, -⟩ | ⟨a, hprep, -, ⟨row, hrec, -⟩ | ⟨-, hiff⟩⟩
  · exact refl_of (DatedReceipts D P) _
  · obtain ⟨-, -, hreason', -⟩ := prepareAdjustment_eq_some hprep
    obtain ⟨hpd, hed⟩ := hrec.dates_eq (hreason'.trans hreason)
    obtain ⟨hP, hlot⟩ := hrow a row hprep hrec.slot_eq hpd hed
    exact .of_row hrec.lots_eq hrec.ledger_eq hP hlot
  · exact absurd (hiff.mpr hdelta) (hverbatim.not_swallowed b)

end Movements

/-! ## Commits -/

section Commits

variable {call : CommitCall} {line : CommitLineIn} {lineNo : ℕ} {policy : ItemPolicy}
  {rl : ResolvedCommitLine} {l : Lot}

/-- A line has been resolved, and its lot is among the lots. -/
structure CommitCall.ResolvesLine (call : CommitCall) (b : Books) (rl : ResolvedCommitLine)
    (line : CommitLineIn) (policy : ItemPolicy) (l : Lot) : Prop where
  line_mem : line ∈ call.lines
  policy_eq : call.pms.getItemPolicy rl.itemId = .ok (some policy)
  dates_eq : commitDates call.pms policy rl.itemId rl.lineNo line.productionDate line.expiryDate =
    .ok (rl.productionDate, rl.expiryDate)
  code : policy.lotSourcePolicy = .supplierOnly →
    ∃ code, rl.lotCodeInput = some code ∧ normLotCode (some code) ≠ none
  lot : Resolved call.pms call.warehouseId policy rl.productionDate b rl.lotId l

/-- What the lines are resolved to. -/
def CommitCall.Resolves (call : CommitCall) (b : Books) (rl : ResolvedCommitLine) : Prop :=
  ∃ line policy l, call.ResolvesLine b rl line policy l

theorem prepareCommitLine_eq_ok {resolved : ℕ → ResolvedCommitLine}
    (h : prepareCommitLine call lineNo line = .ok (policy, resolved)) (lotId : ℕ) :
    (resolved lotId).lotId = lotId ∧
      call.pms.getItemPolicy (resolved lotId).itemId = .ok (some policy) ∧
      commitDates call.pms policy (resolved lotId).itemId (resolved lotId).lineNo
        line.productionDate line.expiryDate =
          .ok ((resolved 0).productionDate, (resolved 0).expiryDate) ∧
      (resolved lotId).productionDate = (resolved 0).productionDate ∧
      (resolved lotId).expiryDate = (resolved 0).expiryDate ∧
      (policy.lotSourcePolicy = .supplierOnly →
        ∃ code, (resolved lotId).lotCodeInput = some code ∧ normLotCode (some code) ≠ none) := by
  unfold prepareCommitLine at h
  simp only [bind, Except.bind] at h
  split at h
  · cases h
  · split at h
    · cases h
    · rename_i hget
      split at h
      · cases h
      · split at h
        · cases h
        · split at h
          · cases h
          · split at h
            · cases h
            · rename_i hpseudo
              split at h
              · cases h
              · rename_i hmissing
                split at h
                · cases h
                · rename_i hdates
                  cases h
                  refine ⟨rfl, hget, hdates, rfl, rfl, fun hsource => ?_⟩
                  obtain ⟨code, hcode⟩ := Option.ne_none_iff_exists'.mp
                    fun hnone => hmissing ⟨hsource, hnone⟩
                  obtain ⟨hstrip, hblank⟩ := cleanText_eq_some hcode
                  refine ⟨code, hcode, normLotCode_ne_none (by rwa [hstrip]) ?_⟩
                  rw [hstrip]
                  exact fun hnone => hpseudo ⟨code, hcode, .inr hnone⟩

/-- A resolved line stays resolved while the lots are kept. -/
theorem CommitCall.ResolvesLine.kept (h : call.ResolvesLine b rl line policy l)
    (hkept : LotsKept b b') : ∃ l', call.ResolvesLine b' rl line policy l' := by
  obtain ⟨l', hlot⟩ := h.lot.kept hkept
  exact ⟨l', h.line_mem, h.policy_eq, h.dates_eq, h.code, hlot⟩

theorem CommitCall.Resolves.kept (h : call.Resolves b rl) (hkept : LotsKept b b') :
    call.Resolves b' rl := by
  obtain ⟨line, policy, l, hline⟩ := h
  obtain ⟨l', hline'⟩ := hline.kept hkept
  exact ⟨line, policy, l', hline'⟩

/-- Resolving a line creates at most a lot with its dates. -/
theorem resolveCommitLine_run_ok (hline : line ∈ call.lines)
    (h : (resolveCommitLine call lineNo line).run b = .ok (rl, b')) :
    LotsGrow call.LotDates b b' ∧ SameStock b b' ∧ call.Resolves b' rl := by
  unfold resolveCommitLine at h
  simp only [Tx.run_bind_ok, Tx.run_ofExcept_ok, Tx.run_pure_ok] at h
  obtain ⟨⟨policy, resolved⟩, _, ⟨hprep, rfl⟩, lotId, _, hlot, rfl, rfl⟩ := h
  obtain ⟨hid, hpolicy, hdates, hpd, hed, hcode⟩ := prepareCommitLine_eq_ok hprep lotId
  obtain ⟨hgrow, l, hresolved⟩ := resolveInboundLot_run_ok hlot
  refine ⟨hgrow.mono fun l' htakes => ?_, resolveInboundLot_sameStock _ _ _ _ _ _ _ _ _ hlot, line,
    policy, l, hline, hpolicy, ?_, hcode, ?_⟩
  · obtain ⟨-, hexp, mode, hnormal⟩ := (commitDates_eq_ok hdates).2 htakes.required
    refine ⟨line, hline, _, policy, mode, hpolicy, htakes.required, ?_⟩
    rw [htakes.productionDate_eq, htakes.expiryDate_eq hexp]
    exact hnormal
  · rw [hpd, hed]
    exact hdates
  · rw [hpd, hid]
    exact hresolved

theorem resolveCommitLines_run_ok {ps : List (CommitLineIn × ℕ)} {rls : List ResolvedCommitLine}
    (hps : ∀ p ∈ ps, p.1 ∈ call.lines)
    (h : (ps.mapM' fun p => resolveCommitLine call p.2 p.1).run b = .ok (rls, b')) :
    LotsGrow call.LotDates b b' ∧ SameStock b b' ∧ ∀ rl ∈ rls, call.Resolves b' rl := by
  induction ps generalizing b rls with
  | nil =>
    obtain ⟨rfl, rfl⟩ := Tx.run_mapM_nil_ok.mp h
    exact ⟨refl_of (LotsGrow _) b, refl_of SameStock b, by simp⟩
  | cons p ps ih =>
    obtain ⟨rl, b₁, rls, hfirst, hrest, rfl⟩ := Tx.run_mapM_cons_ok.mp h
    obtain ⟨hgrow, hsame, hresolves⟩ := resolveCommitLine_run_ok (hps p List.mem_cons_self) hfirst
    obtain ⟨hgrow', hsame', hresolves'⟩ :=
      ih (fun p' hp' => hps p' (List.mem_cons_of_mem p hp')) hrest
    refine ⟨trans_of (LotsGrow _) hgrow hgrow', trans_of SameStock hsame hsame', ?_⟩
    intro rl' hrl'
    rcases List.mem_cons.mp hrl' with rfl | hmem
    · exact hresolves.kept hgrow'.kept
    · exact hresolves' rl' hmem

/-- The row of a resolved line has its dates and the production date of its lot. -/
theorem CommitCall.ResolvesLine.row {env : AdjustEnv} {eventId : ℕ} {a : Adjustment}
    {r : LedgerRow} (h : call.ResolvesLine b rl line policy l) (henv : env.pms = call.pms)
    (hprep : prepareAdjustment env (commitAdjustCall call eventId rl) b = .ok (some a))
    (hslot : r.slot = a.slot) (hpd : r.productionDate = a.productionDate)
    (hed : r.expiryDate = a.expiryDate) : call.RowDates r ∧ r.OnLot b := by
  obtain ⟨⟨lotId, hlotId, haslot⟩, -, -, -, -, -, hlot⟩ := prepareAdjustment_eq_some hprep
  obtain rfl : rl.lotId = lotId := Option.some.inj hlotId
  have hkey : r.slot = ⟨call.warehouseId, rl.itemId, rl.lotId⟩ := hslot.trans haslot
  obtain ⟨-, hresolve⟩ := prepareAdjustment_dates hprep
  rw [henv, ← hpd, ← hed] at hresolve
  have hitem : policy.itemId = rl.itemId := h.lot.item_eq (by rwa [haslot] at hlot)
  obtain ⟨hnone, hrequired⟩ := commitDates_eq_ok h.dates_eq
  have hboth : policy.expiryPolicy = .required → policy.lotSourcePolicy = .supplierOnly →
      r.productionDate = rl.productionDate ∧ r.expiryDate = rl.expiryDate := by
    intro hreq hsource
    obtain ⟨hp, he, -⟩ := hrequired hreq
    obtain ⟨p, hp⟩ := Option.isSome_iff_exists.mp hp
    obtain ⟨e, he⟩ := Option.isSome_iff_exists.mp he
    obtain ⟨code, hcode, hnorm⟩ := h.code hsource
    obtain ⟨code', hcode'⟩ := Option.ne_none_iff_exists'.mp hnorm
    dsimp only [commitAdjustCall] at hresolve
    dsimp only at hp he
    rw [hcode, hcode', hp, he] at hresolve
    have hdates := resolveDates_of_both h.policy_eq hreq hresolve
    rw [hp, he]
    exact Prod.mk.inj hdates
  refine ⟨⟨line, h.line_mem, policy, by rw [hkey]; exact h.policy_eq, fun hundated => ?_,
    fun hreq hsource => ?_⟩, l, h.lot.mem, by rw [hkey]; exact h.lot.id_eq, fun hdated => ?_⟩
  · exact Prod.mk.inj (resolveDates_of_undated h.policy_eq hundated hresolve)
  · obtain ⟨-, -, mode, hnormal⟩ := hrequired hreq
    obtain ⟨hp, he⟩ := hboth hreq hsource
    rw [hkey, hp, he]
    exact ⟨mode, hnormal⟩
  · obtain ⟨hreq, hsource, -, hlotDate⟩ := h.lot.dated hdated
    rw [(hboth hreq hsource).1]
    refine (hlotDate ?_).symm
    rw [hitem]
    exact h.policy_eq

/-- Writing a resolved line adds its row. -/
theorem commitLine_datedReceipts {event : WmsEvent} {u : PUnit}
    (hresolves : call.Resolves db.books rl)
    (h : (commitLine call event rl).run db = .ok (u, db')) :
    DatedReceipts call.LotDates call.RowDates db.books db'.books := by
  unfold commitLine at h
  simp only [Tx.run_bind_ok, onEvents_run_ok, ensureWarehouseNotFrozen_run_ok, Tx.run_get_ok,
    onBooks_run_ok, Tx.run_pure_ok] at h
  obtain ⟨line, _, ⟨eb, hinsert, rfl⟩, _, _, ⟨-, rfl⟩, _, _, ⟨rfl, rfl⟩, out, _, ⟨b, hadjust, rfl⟩,
    -, rfl⟩ := h
  obtain ⟨line', policy, l, hline⟩ := hresolves
  have hdelta : (commitAdjustCall call event.id rl).delta ≠ 0 := by
    obtain ⟨hrow, -⟩ := insertInboundLine_run_ok hinsert
    obtain ⟨-, -, -, hqty, -⟩ := InboundLineValues.row_eq_ok hrow
    have hpos : 0 < line.qtyBase := line.qtyBase_pos
    change rl.qtyBase ≠ 0
    change line.qtyBase = rl.qtyBase at hqty
    omega
  refine adjustLot_datedReceipts (commitAdjustCall_verbatim call event.id rl) hdelta rfl ?_ hadjust
  intro a r hprep hslot hpd hed
  exact hline.row rfl hprep hslot hpd hed

theorem commitLines_datedReceipts {event : WmsEvent} {rls : List ResolvedCommitLine} {u : PUnit}
    (hresolves : ∀ rl ∈ rls, call.Resolves db.books rl)
    (h : (forM rls (commitLine call event)).run db = .ok (u, db')) :
    DatedReceipts call.LotDates call.RowDates db.books db'.books := by
  induction rls generalizing db with
  | nil =>
    rw [← Tx.run_forM_nil_ok.mp h]
    exact refl_of (DatedReceipts _ _) _
  | cons rl rls ih =>
    obtain ⟨db₁, hfirst, hrest⟩ := Tx.run_forM_cons_ok.mp h
    have hdated := commitLine_datedReceipts (hresolves rl List.mem_cons_self) hfirst
    refine trans_of (DatedReceipts _ _) hdated (ih (fun rl' hrl' => ?_) hrest)
    exact (hresolves rl' (List.mem_cons_of_mem rl hrl')).kept hdated.grow.kept

/-- A commit records its receipts with the dates of its lines. -/
theorem commitInbound_datedReceipts {event : WmsEvent}
    (h : (commitInbound call).run db = .ok (event, db')) :
    DatedReceipts call.LotDates call.RowDates db.books db'.books := by
  unfold commitInbound at h
  simp only [Tx.run_bind_ok, Tx.run_ofExcept_ok, onBooks_run_ok, Tx.run_pure_ok] at h
  obtain ⟨_, _, ⟨-, rfl⟩, rls, _, ⟨b, hresolve, rfl⟩, event', db₂, hevent, _, db₃, hlines, -, rfl⟩ := h
  obtain ⟨hgrow, hsame, hresolves⟩ := resolveCommitLines_run_ok
    (fun p hp => List.fst_mem_of_mem_zipIdx hp) hresolve
  obtain ⟨-, -, -, eb, -, -, -, rfl⟩ := recordEvent_run_ok hevent
  have hwrite : DatedReceipts call.LotDates call.RowDates b _ :=
    commitLines_datedReceipts hresolves hlines
  exact trans_of (DatedReceipts _ _) (.of_lotsGrow hgrow hsame) hwrite

end Commits

/-! ## Operations -/

section Operations

variable {call : OperationCall} {receipt : InboundReceipt} {event : WmsEvent} {line : ReceiptLine}
  {policy : ItemPolicy} {st st' : OperationProgress}

/-- An entry adds a row with the production date of its lot. -/
theorem receiveEntry_datedReceipts {raw : OperationLineIn} {entry : OperationEntryIn}
    (hraw : raw ∈ call.lines) (hentry : entry ∈ raw.entries)
    (hpolicy : call.pms.getItemPolicy line.itemId = .ok (some policy))
    (h : (receiveEntry call receipt event line policy st entry).run db = .ok (st', db')) :
    DatedReceipts call.LotDates (fun _ => True) db.books db'.books := by
  unfold receiveEntry at h
  simp only [Tx.run_bind_ok, Tx.run_ofExcept_ok, Tx.run_failIf_ok, Tx.run_get_ok,
    Tx.run_pure_ok, onBooks_run_ok, onEvents_run_ok] at h
  obtain ⟨uom, _, ⟨-, rfl⟩, _, _, ⟨-, rfl⟩, _, _, ⟨-, rfl⟩, _, _, ⟨-, rfl⟩, _, _, ⟨-, rfl⟩,
    lotId, _, ⟨b₁, hresolve, rfl⟩, _, _, ⟨-, rfl⟩, _, _, ⟨eb, -, rfl⟩, _, _, ⟨rfl, rfl⟩, _, _,
    ⟨b₂, hstock, rfl⟩, -, rfl⟩ := h
  obtain ⟨hgrow, l, hlot⟩ := resolveInboundLot_run_ok hresolve
  have hcreated : DatedReceipts call.LotDates (fun _ => True) db.books b₁ := by
    refine .of_lotsGrow (hgrow.mono fun l' htakes => ?_)
      (resolveInboundLot_sameStock _ _ _ _ _ _ _ _ _ hresolve)
    exact ⟨raw, hraw, entry, hentry, htakes.production_isSome, htakes.productionDate_eq,
      htakes.expiryDate_eq⟩
  refine trans_of (DatedReceipts _ _) hcreated ?_
  unfold receiveStock at hstock
  simp only [Tx.run_bind_ok, insertLedger_run_ok] at hstock
  obtain ⟨after, _, hadd, row, t, hrow, ht, -, rfl⟩ := hstock
  obtain ⟨rfl, hhas, rfl⟩ := addSlotQty_run_ok hadd
  refine .of_row rfl (Table.insert_eq_some.mp ht).2 trivial ?_
  have hitem : policy.itemId = line.itemId := hlot.item_eq hhas
  have hslot : row.slot = ⟨receipt.warehouseId, line.itemId, lotId⟩ :=
    (LedgerValues.row_eq_ok hrow).1
  refine ⟨l, hlot.mem, by rw [hslot]; exact hlot.id_eq, fun hdated => ?_⟩
  obtain ⟨-, -, -, hdate⟩ := hlot.dated hdated
  rw [(LedgerValues.row_dates hrow).1]
  refine (hdate ?_).symm
  rw [hitem]
  exact hpolicy

theorem receiveLine_datedReceipts {raw : OperationLineIn} (hraw : raw ∈ call.lines)
    (h : (receiveLine call receipt event st raw).run db = .ok (st', db')) :
    DatedReceipts call.LotDates (fun _ => True) db.books db'.books := by
  unfold receiveLine at h
  simp only [Tx.run_bind_ok, Tx.run_demand_ok, Tx.run_ofExcept_ok] at h
  obtain ⟨line, _, ⟨-, rfl⟩, _, _, ⟨hget, rfl⟩, policy, _, ⟨rfl, rfl⟩, hloop⟩ := h
  refine Tx.foldlM_invariant
    (I := fun _ db₁ => DatedReceipts call.LotDates (fun _ => True) db.books db₁.books) ?_
    (refl_of (DatedReceipts _ _) _) hloop
  intro entry hentry st₁ db₁ st₂ db₂ hdated hrun
  exact trans_of (DatedReceipts _ _) hdated (receiveEntry_datedReceipts hraw hentry hget hrun)

/-- An operation records its receipts with the production dates of their lots. -/
theorem submitInboundOperation_datedReceipts
    (h : (submitInboundOperation call).run db = .ok (event, db')) :
    DatedReceipts call.LotDates (fun _ => True) db.books db'.books := by
  obtain ⟨receipt, operatorName, db₁, st, db₂, -, -, hevent, hloop, rfl⟩ :=
    submitInboundOperation_steps h
  obtain ⟨-, -, -, eb, -, -, -, rfl⟩ := recordEvent_run_ok hevent
  refine Tx.foldlM_invariant
    (I := fun _ db₁ => DatedReceipts call.LotDates (fun _ => True) db.books db₁.books) ?_
    (refl_of (DatedReceipts _ _) _) hloop
  intro raw hraw st₁ db₁ st₂ db₂ hdated hrun
  exact trans_of (DatedReceipts _ _) hdated (receiveLine_datedReceipts hraw hrun)

end Operations

/-! ## Runs -/

/-- Every accepted operation of the run relates the states before and after it. -/
def AcceptedSteps (R : Op → Database → Database → Prop) (db : Database) (ops : List Op) : Prop :=
  ∀ n op u db', ops[n]? = some op →
    op.exec.run (Tx.attemptAll Op.exec (ops.take n) db) = .ok (u, db') →
      R op (Tx.attemptAll Op.exec (ops.take n) db) db'

/-- The ledger rows that are in the second state only. -/
def Database.addedRows (db db' : Database) : List LedgerRow :=
  db'.books.stockLedger.rows.drop db.books.stockLedger.rows.length

namespace Op

/-- The operation is a receipt of one of the three inbound writers. -/
def IsReceipt : Op → Prop
  | adjustLot _ _ call => call.reason = "RECEIPT"
  | commitInbound _ | submitInbound _ => True
  | _ => False

/-- The rows of a receipt have the dates of the lots that they refer to, and no dates on an
internal lot of an item without dates. -/
def HasLotDates (op : Op) (db db' : Database) : Prop :=
  op.IsReceipt → ∀ r ∈ db.addedRows db', ∀ l ∈ db'.books.lots.rows, l.id = r.slot.lotId →
    (r.productionDate = l.productionDate ∧ r.expiryDate = l.expiryDate) ∧
    (l.lotCodeSource = .internal → l.expiryPolicySnapshot = .none →
      r.productionDate = none ∧ r.expiryDate = none)

/-- The rows of a receipt, and the lots that it creates, have the dates that the writer
gives them. -/
def DatesReceipts : Op → Database → Database → Prop
  | adjustLot pms _ call, db, db' => call.reason = "RECEIPT" →
    db'.books.lots = db.books.lots ∧ ∀ r ∈ db.addedRows db', call.RowDates pms r
  | commitInbound call, db, db' => DatedReceipts call.LotDates call.RowDates db.books db'.books
  | submitInbound call, db, db' => DatedReceipts call.LotDates (fun _ => True) db.books db'.books
  | _, _, _ => True

end Op

theorem Op.datesReceipts {op : Op} {u : PUnit} (h : op.exec.run db = .ok (u, db')) :
    op.DatesReceipts db db' := by
  cases op with
  | adjustLot pms utcNow call =>
    intro hreason
    obtain ⟨out, hadjust, -⟩ := adjustLotDirectly_run_ok h
    exact adjustLot_rowDates hreason hadjust
  | commitInbound call =>
    obtain ⟨event, hcommit, -⟩ := Tx.run_map_ok.mp h
    exact commitInbound_datedReceipts hcommit
  | submitInbound call =>
    obtain ⟨event, hsubmit, -⟩ := Tx.run_map_ok.mp h
    exact submitInboundOperation_datedReceipts hsubmit
  | _ => trivial

/-- In every run, every accepted receipt is recorded with the dates that its writer gives:
the production date of the lot for a delivery, the dates of the request for a movement of
a single lot. -/
theorem acceptedSteps_datesReceipts (db : Database) (ops : List Op) :
    AcceptedSteps Op.DatesReceipts db ops :=
  fun _ _ _ _ _ hrun => Op.datesReceipts hrun

/-! ## A lot that keeps its expiry date -/

/-- A product master whose items are dated and come from suppliers. -/
def datedPms : PmsClient :=
  { plainPms with
    getItemPolicy := fun itemId => .ok (some { plainPolicy itemId with
      expiryPolicy := .required, lotSourcePolicy := .supplierOnly }) }

/-- The day of production. -/
def producedOn : Date := ⟨2025, 6, 1, by decide⟩

/-- An expiry date. -/
def earlyExpiry : Date := .lit 2026 1 1

/-- Another expiry date, a year later. -/
def lateExpiry : Date := ⟨2027, 1, 1, by decide⟩

theorem producedOn_le_earlyExpiry : producedOn ≤ earlyExpiry := by decide +kernel

theorem producedOn_le_lateExpiry : producedOn ≤ lateExpiry := by decide +kernel

theorem one_given : some 1 = (none : Option ℕ) → (none : Option String).isSome = true := nofun

/-- The receipt of a piece that expires on the given day. -/
def receiveExpiring (eventNo : Varchar 64) (expiry : Date) (h : producedOn ≤ expiry) :
    CommitCall where
  warehouseId := 1
  sourceType := .manual
  sourceRef := none
  occurredAt := 0
  remark := none
  lines := [{
    itemId := some 1, barcode := none, uomId := some 1, qtyInput := 1
    lotCodeInput := some ⟨"MILK-0601", by decide⟩
    productionDate := some producedOn, expiryDate := some expiry
    sourceLineId := none, remark := none, qty_pos := Int.zero_lt_one, identity := one_given
    uom_input := one_given
    dates_ordered := fun pd hpd ed hed => by
      rw [← Option.some.inj hpd, ← Option.some.inj hed]
      exact h }]
  userId := none
  eventNo := eventNo
  traceId := eventNo
  pms := datedPms
  utcNow := 0
  lines_ne := List.cons_ne_nil _ _

/-- The first receipt of a production date. -/
def receiveEarly : Op :=
  .commitInbound (receiveExpiring ⟨"IE-MILK-1", by decide⟩ earlyExpiry producedOn_le_earlyExpiry)

/-- Another receipt of the production date, with another expiry date. -/
def receiveLate : Op :=
  .commitInbound (receiveExpiring ⟨"IE-MILK-2", by decide⟩ lateExpiry producedOn_le_lateExpiry)

/-- The two receipts in a warehouse. -/
def receiveTwice : List Op := [.addWarehouse ⟨1, ⟨"W-MILK", by decide⟩⟩, receiveEarly, receiveLate]

/-- The state between the two receipts. -/
def receivedEarly : Database := Tx.attemptAll Op.exec (receiveTwice.take 2) Database.empty

/-- The row of the second receipt does not have the expiry date of its lot. -/
theorem not_acceptedSteps_hasLotDates :
    ¬AcceptedSteps Op.HasLotDates Database.empty receiveTwice := by
  intro h
  obtain ⟨u, db', hrun⟩ := Tx.exists_run_of_toBool (x := receiveLate.exec) (s := receivedEarly)
    (by decide +kernel)
  have hdates : receiveLate.HasLotDates receivedEarly db' := h 2 receiveLate u db' rfl hrun
  have hdiffer : ¬∀ r ∈ receivedEarly.addedRows (receiveLate.exec.attempt receivedEarly),
      ∀ l ∈ (receiveLate.exec.attempt receivedEarly).books.lots.rows, l.id = r.slot.lotId →
        r.expiryDate = l.expiryDate := by
    decide +kernel
  rw [Tx.attempt_of_run hrun] at hdiffer
  exact hdiffer fun r hr l hl hid => (hdates trivial r hr l hl hid).1.2

end Wms

import Wms.BooksAlong

/-!
# Canonical reasons

Every row of the ledger has, besides its reason, a canonical reason, by which rows are
filtered. `write_ledger` computes it and leaves it empty when it does not recognise the
reason; the inbound operation writes it literally, and the outbound event writes another
word than the one that stands for its reason. So the canonical reasons are right as long
as nothing is shipped by an event and nothing is moved for a reason that is not
recognised.
-/

namespace Wms

open Foundation

variable {b b' : Books} {db db' : Database}

/-! ## The filter -/

/-- `ReasonCanon` of the ledger query. -/
inductive ReasonCanonFilter
  | receipt
  | shipment
  | adjustment
  deriving DecidableEq, Repr

/-- The value of the column that the filter asks for. -/
def ReasonCanonFilter.value : ReasonCanonFilter → ReasonCanon
  | receipt => .receipt
  | shipment => .shipment
  | adjustment => .adjustment

/-- `StockLedger.reason_canon == rc`: an empty column is never selected. -/
def ReasonCanonFilter.Selects (f : ReasonCanonFilter) (r : LedgerRow) : Prop :=
  r.reasonCanon = some f.value

/-- The canonical reason of the row is that of its reason, and some filter selects it. -/
structure LedgerRow.Canonical (r : LedgerRow) : Prop where
  canon_eq : r.reasonCanon = canonReason r.reason.text
  selected : ∃ f : ReasonCanonFilter, f.Selects r

/-- Every row of the ledger has the canonical reason of its reason. -/
def Books.CanonConsistent (b : Books) : Prop := ∀ r ∈ b.stockLedger.rows, r.Canonical

/-- A recognised reason stands for one of the values of the filter. -/
theorem canonReason_cases (reason : String) :
    canonReason reason = none ∨ ∃ f : ReasonCanonFilter, canonReason reason = some f.value := by
  unfold canonReason
  dsimp only
  split
  · exact .inr ⟨.receipt, rfl⟩
  · split
    · exact .inr ⟨.shipment, rfl⟩
    · split
      · exact .inr ⟨.adjustment, rfl⟩
      · exact .inl rfl

/-- A row is canonical exactly when its reason is recognised and written as such. -/
theorem canonical_iff {r : LedgerRow} :
    r.Canonical ↔ r.reasonCanon = canonReason r.reason.text ∧ canonReason r.reason.text ≠ none := by
  constructor
  · rintro ⟨hcanon, f, hselects⟩
    refine ⟨hcanon, ?_⟩
    rw [← hcanon, hselects]
    exact Option.some_ne_none _
  · rintro ⟨hcanon, hknown⟩
    refine ⟨hcanon, ?_⟩
    obtain hnone | ⟨f, hf⟩ := canonReason_cases r.reason.text
    · exact absurd hnone hknown
    · exact ⟨f, hcanon.trans hf⟩

/-! ## Stored reasons -/

/-- A stored reason stands for what the given one stands for. -/
theorem canonReason_of_store {n : ℕ} {s : String} {v : Varchar n}
    (h : Varchar.store n s = .ok v) : canonReason v.text = canonReason s := by
  unfold canonReason
  rw [strip_of_store h]

theorem LedgerValues.canonical_reasonCanon (v : LedgerValues) :
    v.canonical.reasonCanon = canonReason v.reason := by
  unfold LedgerValues.canonical
  generalize canonReason v.reason = canon
  by_cases h : canon = some .receipt <;> simp [h]

/-- A row that `write_ledger` makes has the canonical reason of its reason. -/
theorem LedgerValues.row_canon {v : LedgerValues} {r : LedgerRow} (h : v.canonical.row = .ok r) :
    r.reasonCanon = canonReason r.reason.text ∧ canonReason r.reason.text = canonReason v.reason := by
  obtain ⟨-, -, -, -, hcanon, -, hreason, -⟩ := LedgerValues.row_eq_ok h
  rw [v.canonical_slot.2.1] at hreason
  rw [v.canonical_reasonCanon] at hcanon
  have hstored := canonReason_of_store hreason
  exact ⟨hcanon.trans hstored.symm, hstored⟩

/-- Filling empty columns keeps a canonical row canonical. -/
theorem LedgerRow.Canonical.patch {r : LedgerRow} (h : r.Canonical) (v : LedgerValues)
    (new : LedgerRow) : (r.patch v new).Canonical := by
  obtain ⟨f, hf⟩ := h.selected
  have hcanon : (r.patch v new).reasonCanon = r.reasonCanon := by
    unfold LedgerRow.patch LedgerRow.fill
    split
    · split
      · change (r.reasonCanon <|> new.reasonCanon) = r.reasonCanon
        rw [hf]
        rfl
      · rfl
    · rfl
  refine ⟨?_, f, hcanon.trans hf⟩
  rw [hcanon, (r.patch_keeps v new).1.1]
  exact h.canon_eq

/-! ## Movements of a single lot -/

section Movements

variable {env : AdjustEnv} {call : AdjustCall} {a : Adjustment} {out : AdjustOutcome}

/-- The rows after a movement: the new row is the last one, or its key was taken and the
empty columns of the stored row are filled. -/
theorem Adjustment.book_rows {knownEvents : List ℕ}
    (h : (a.book knownEvents).run b = .ok (out, b')) :
    ∃ after new, (a.values after).canonical.row = .ok new ∧
      ((b.stockLedger.insert new ≠ none ∧ b'.stockLedger.rows = b.stockLedger.rows ++ [new]) ∨
        (b.stockLedger.insert new = none ∧
          b'.stockLedger.rows = b.stockLedger.rows.map fun r => r.patch (a.values after) new)) := by
  unfold Adjustment.book at h
  simp only [Tx.run_bind_ok] at h
  obtain ⟨_, b₁, hensure, before?, _, hlock, before, _, hdemand, after, _, hnewQty, ins, b₃,
    hwrite, hrest⟩ := h
  obtain ⟨hmem, hstock, hledger, -⟩ := ensureSlot_keeps hensure
  obtain ⟨rfl, rfl⟩ := lockSlot_run_ok.mp hlock
  obtain ⟨hbefore, rfl⟩ := Tx.run_demand_ok.mp hdemand
  obtain ⟨hafter, rfl⟩ := Tx.run_ofExcept_ok.mp hnewQty
  have hqty : after = b₁.stock a.slot + a.delta := by
    rw [newQty_eq_ok hafter, ← Books.stock_of_lookup hbefore]
  obtain ⟨new, hnew, -, ⟨-, t, ht, rfl⟩ | ⟨-, hnone, rfl⟩⟩ := writeLedger_run_ok hwrite
  · obtain ⟨-, hledger', -⟩ := Adjustment.setQty_run_ok hrest hmem hqty
    refine ⟨after, new, hnew, .inl ⟨?_, ?_⟩⟩
    · rw [← hledger, ht]
      exact Option.some_ne_none t
    · rw [hledger', Books.putLedger_stockLedger, (Table.insert_eq_some.mp ht).2, hledger]
  · obtain ⟨-, hledger', -⟩ := Adjustment.setQty_run_ok hrest hmem hqty
    refine ⟨after, new, hnew, .inr ⟨by rw [← hledger]; exact hnone, ?_⟩⟩
    rw [hledger', Books.putLedger_stockLedger, Table.rows_map, hledger]

/-- The movement has a recognised reason, asks for no record, or its key is taken. -/
def AdjustCall.WritesCanonical (call : AdjustCall) (b : Books) : Prop :=
  canonReason call.reason ≠ none ∨
    (call.delta = 0 ∧ call.info.allowZeroDeltaLedger = false) ∨
    ∀ lotId ∈ call.lotId, b.HasStoredKey ⟨call.warehouseId, call.itemId, lotId⟩ call.reason
      call.ref (call.refLine.getD 1)

/-- A movement leaves the canonical reasons right exactly when it does not add a row for a
reason that is not recognised. -/
theorem adjustLot_canonConsistent_iff (hb : b.CanonConsistent)
    (h : (adjustLot env call).run b = .ok (out, b')) :
    b'.CanonConsistent ↔ call.WritesCanonical b := by
  rcases adjustLot_run_ok h with ⟨hprep, rfl, -⟩ | ⟨a, hprep, ⟨hidem, rfl, -⟩ | ⟨-, hbook⟩⟩
  · exact ⟨fun _ => .inr (.inl ((prepareAdjustment_asks hprep).mp rfl)), fun _ => hb⟩
  · -- the stored row has the reason, and its canonical reason is right
    obtain ⟨-, -, hreason, -⟩ := prepareAdjustment_eq_some hprep
    obtain ⟨r, hr, -, htext, -⟩ := hidem
    refine ⟨fun _ => .inl ?_, fun _ => hb⟩
    change r.reason.text = a.reason at htext
    rw [← hreason, ← htext]
    exact (canonical_iff.mp (hb r hr)).2
  · obtain ⟨⟨lotId, hlot, hslot⟩, -, hreason, href, hline, -⟩ := prepareAdjustment_eq_some hprep
    obtain ⟨after, new, hnew, hrows⟩ := Adjustment.book_rows hbook
    obtain ⟨hcanon, hstored⟩ := LedgerValues.row_canon hnew
    change canonReason new.reason.text = canonReason a.reason at hstored
    rw [hreason] at hstored
    have htaken := Adjustment.insert_eq_none_iff (b := b) hnew
    rw [hslot, hreason, href, hline] at htaken
    rcases hrows with ⟨hfree, hrows⟩ | ⟨hnone, hrows⟩
    · have hnew' : b'.CanonConsistent ↔ new.Canonical := by
        unfold Books.CanonConsistent
        rw [hrows]
        refine ⟨fun hall => hall new (by simp), fun hcanonical r hr => ?_⟩
        rcases List.mem_append.mp hr with hold | hlast
        · exact hb r hold
        · rw [List.mem_singleton.mp hlast]
          exact hcanonical
      rw [hnew', canonical_iff, hstored]
      constructor
      · rintro ⟨-, hknown⟩
        exact .inl hknown
      · rintro (hknown | hasks | hkey)
        · exact ⟨hcanon.trans hstored, hknown⟩
        · exact absurd ((prepareAdjustment_asks hprep).mpr hasks) (Option.some_ne_none a)
        · exact absurd (htaken.mpr (hkey lotId hlot)) hfree
    · refine ⟨fun _ => .inr (.inr fun lotId' hlot' => ?_), fun _ r hr => ?_⟩
      · obtain rfl : lotId = lotId' := Option.some.inj (hlot.symm.trans hlot')
        exact htaken.mp hnone
      · rw [hrows] at hr
        obtain ⟨old, hold, rfl⟩ := List.mem_map.mp hr
        exact (hb old hold).patch _ new

end Movements

/-! ## The other writers -/

/-- The canonical reasons stay right. -/
def StaysCanonical (b b' : Books) : Prop := b.CanonConsistent → b'.CanonConsistent

instance : IsPreorder Books StaysCanonical where
  refl _ := id
  trans _ _ _ h h' := h' ∘ h

theorem StaysCanonical.of_ledger (h : b'.stockLedger = b.stockLedger) : StaysCanonical b b' := by
  intro hb r hr
  rw [h] at hr
  exact hb r hr

/-- A movement for a recognised reason. -/
theorem adjustLot_staysCanonical (env : AdjustEnv) (call : AdjustCall)
    (h : canonReason call.reason ≠ none) : Tx.Follows StaysCanonical (adjustLot env call) :=
  fun _ _ _ hrun hb => (adjustLot_canonConsistent_iff hb hrun).mpr (.inl h)

/-- An inserted row whose canonical reason is written as it should be. -/
theorem insertLedger_staysCanonical (knownEvents : List ℕ) {v : LedgerValues}
    (hcanon : v.reasonCanon = canonReason v.reason) (hknown : canonReason v.reason ≠ none) :
    Tx.Follows StaysCanonical (insertLedger knownEvents v) := by
  intro b u b' hrun hb r hr
  obtain ⟨row, t, hrow, ht, -, rfl⟩ := insertLedger_run_ok.mp hrun
  rw [Books.putLedger_stockLedger, (Table.insert_eq_some.mp ht).2] at hr
  rcases List.mem_append.mp hr with hold | hlast
  · exact hb r hold
  · obtain ⟨-, -, -, -, hrowCanon, -, hreason, -⟩ := LedgerValues.row_eq_ok hrow
    rw [List.mem_singleton.mp hlast, canonical_iff, hrowCanon, hcanon, canonReason_of_store hreason]
    exact ⟨rfl, hknown⟩

/-- What leaves stock and ledger alone leaves the canonical reasons alone. -/
theorem SameStock.staysCanonical (h : SameStock b b') : StaysCanonical b b' := .of_ledger h.2

theorem canonReason_receipt : canonReason "RECEIPT" = some .receipt := by decide

theorem canonReason_receipt_ne : canonReason "RECEIPT" ≠ none := by
  rw [canonReason_receipt]
  exact Option.some_ne_none _

theorem canonReason_adjustment_ne : canonReason "ADJUSTMENT" ≠ none := by
  have h : canonReason "ADJUSTMENT" = some .adjustment := by decide
  rw [h]
  exact Option.some_ne_none _

theorem canonReason_outboundShip : canonReason "OUTBOUND_SHIP" = some .shipment := by decide

/-- Lots come and go without a row of the ledger. -/
theorem staysCanonical_followedByLots : FollowedByLots StaysCanonical :=
  sameStock_followedByLots.mono fun _ _ h => h.staysCanonical

/-- The operation writes "RECEIPT" for both reasons. -/
theorem receiveStock_staysCanonical {knownEvents : List ℕ} {v : ℤ → LedgerValues} {k : SlotKey}
    {delta : ℤ} (hreason : ∀ after, (v after).reason = "RECEIPT")
    (hcanon : ∀ after, (v after).reasonCanon = some .receipt) :
    Tx.Follows StaysCanonical (receiveStock knownEvents v k delta) := by
  refine Tx.Follows.bind ?_ fun after => ?_
  · intro b after b' h
    obtain ⟨-, hlot, rfl⟩ := addSlotQty_run_ok h
    exact .of_ledger rfl
  · refine insertLedger_staysCanonical knownEvents ?_ ?_
    · rw [hcanon, hreason, canonReason_receipt]
    · rw [hreason]
      exact canonReason_receipt_ne

/-! ## Shipping by an event -/

/-- The rows that are new have the canonical reason that the outbound event writes. -/
def AddsOutbound (b b' : Books) : Prop :=
  ∀ r ∈ b'.stockLedger.rows, r ∈ b.stockLedger.rows ∨ r.reasonCanon = some .outbound

instance : IsPreorder Books AddsOutbound where
  refl _ _ hr := .inl hr
  trans _ _ _ h h' r hr := (h' r hr).elim (h r) .inr

theorem shipLine_addsOutbound (knownEvents : List ℕ) (event : WmsEvent) (l : OutboundEventLine) :
    Tx.Follows AddsOutbound (shipLine knownEvents event l) := by
  refine Tx.Follows.bind (.of_reads fun _ _ _ h => (lockSlot_run_ok.mp h).2) fun qty? =>
    (Tx.follows_demand _ _).bind fun qty => (Tx.follows_failIf _ _).bind fun _ =>
    Tx.Follows.bind ?_ fun _ => ?_
  · intro b u b' h r hr
    obtain ⟨row, t, hrow, ht, -, rfl⟩ := insertLedger_run_ok.mp h
    rw [Books.putLedger_stockLedger, (Table.insert_eq_some.mp ht).2] at hr
    rcases List.mem_append.mp hr with hold | hlast
    · exact .inl hold
    · rw [List.mem_singleton.mp hlast]
      exact .inr (LedgerValues.row_eq_ok hrow).2.2.2.2.1
  · intro b u b' h r hr
    unfold setSlotQty at h
    simp only [Tx.run_bind_ok, Tx.run_get_ok] at h
    obtain ⟨_, _, ⟨rfl, rfl⟩, h⟩ := h
    split at h
    · split at h
      · exact (Tx.run_throw_ok.mp h).elim
      · rw [← Tx.run_set_ok.mp h] at hr
        exact .inl hr
    · rw [← (Tx.run_pure_ok.mp h).2] at hr
      exact .inl hr

theorem writeEventAndLedger_addsOutbound (head : ShipmentHead) (lines : List OutboundLineValues) :
    Tx.Follows (BooksAlong AddsOutbound) (writeEventAndLedger head lines) :=
  (ensureWarehouseNotFrozen_along _).bind fun _ => (recordEvent_along _).bind fun event =>
    Tx.follows_get.bind fun _ => (onEvents_along _).bind fun saved => Tx.follows_get.bind fun _ =>
    (onBooks_along (Tx.follows_forM saved fun l _ => shipLine_addsOutbound _ event l)).bind
    fun _ => Tx.follows_pure _

theorem submitOrderOutboundEvent_addsOutbound (pms : PmsClient) (call : OrderSubmitCall) :
    Tx.Follows (BooksAlong AddsOutbound) (submitOrderOutboundEvent pms call) := by
  refine Tx.follows_get.bind fun before => (Tx.follows_ofExcept _).bind fun p =>
    (writeEventAndLedger_addsOutbound _ _).bind fun q => ?_
  dsimp only
  split
  · exact (handOff_along _ _ _ _).bind fun _ => Tx.follows_pure _
  · exact Tx.follows_pure _

theorem submitManualOutboundEvent_addsOutbound (call : ManualSubmitCall) :
    Tx.Follows (BooksAlong AddsOutbound) (submitManualOutboundEvent call) := by
  refine Tx.follows_get.bind fun before => (Tx.follows_ofExcept _).bind fun p =>
    (writeEventAndLedger_addsOutbound _ _).bind fun q => Tx.follows_get.bind fun after => ?_
  dsimp only
  split
  · refine Tx.Follows.bind ?_ fun _ => (handOff_along _ _ _ _).bind fun _ => Tx.follows_pure _
    intro db u db' h
    rw [completeManualDoc_run_ok h]
    exact refl_of AddsOutbound db.books
  · exact Tx.follows_pure _

/-- The rows of a shipment have no canonical reason that its reason stands for. -/
theorem Shipped.not_canonConsistent {head : ShipmentHead} {lines : List OutboundLineValues}
    {event : WmsEvent} {saved : List OutboundEventLine} {rows : List LedgerRow} {db₁ : Database}
    (h : Shipped db head lines event saved rows db₁) (hne : saved ≠ [])
    (hbooks : db'.books = db₁.books) (hadds : BooksAlong AddsOutbound db db') :
    ¬db'.books.CanonConsistent := by
  intro hconsistent
  obtain ⟨l, hl⟩ := List.exists_mem_of_ne_nil saved hne
  obtain ⟨r, hr, hship⟩ := exists_of_forall₂ h.ship_rows hl
  have hrows : db'.books.stockLedger.rows = db.books.stockLedger.rows ++ rows := by
    rw [hbooks, h.moved.ledger_eq]
  have hmem : r ∈ db'.books.stockLedger.rows := by
    rw [hrows]
    exact List.mem_append_right _ hr
  have hcanon := (hconsistent r hmem).canon_eq
  rw [hship.reason_eq, canonReason_outboundShip] at hcanon
  rcases hadds r hmem with hold | houtbound
  · -- no row of the ledger has the key of another
    have hunique := db'.books.stockLedger.unique
    rw [hrows] at hunique
    exact (List.pairwise_append.mp hunique).2.2 r hold r hr ⟨rfl, rfl, rfl, rfl⟩
  · rw [houtbound] at hcanon
    cases hcanon

/-! ## Runs -/

/-- The operation leaves canonical reasons right: it ships nothing by an event, and is not
a movement that adds a row for a reason that is not recognised. -/
def Op.WritesCanonical (op : Op) (db : Database) : Prop :=
  match op with
  | .submitOrder _ _ | .submitManual _ => False
  | .adjustLot _ _ call => call.WritesCanonical db.books
  | _ => True

theorem Op.canonConsistent_iff {op : Op} {u : PUnit} (hdb : db.books.CanonConsistent)
    (h : op.exec.run db = .ok (u, db')) :
    db'.books.CanonConsistent ↔ op.WritesCanonical db := by
  have hstep := op.step_of_exec h
  have hkeeps : BooksAlong StaysCanonical db db' → op.WritesCanonical db →
      (db'.books.CanonConsistent ↔ op.WritesCanonical db) :=
    fun hstays hwrites => ⟨fun _ => hwrites, fun _ => hstays hdb⟩
  have hsame : op.stockWarehouse db = none → op.WritesCanonical db →
      (db'.books.CanonConsistent ↔ op.WritesCanonical db) := by
    intro hnone
    refine hkeeps (.of_ledger ?_)
    rw [hstep.books_eq hnone]
  -- reversals and counts move stock as adjustments
  have hreverse {L : Type} {kind : ReversalKind L} {call : ReversalCall} :
      ∀ env w eventId l, Tx.Follows StaysCanonical
        (Wms.adjustLot env (kind.adjustCall call w eventId l)) :=
    fun _ _ _ _ => adjustLot_staysCanonical _ _ canonReason_adjustment_ne
  have hcount {call : CountPostCall} : ∀ env w eventId line s delta sub, Tx.Follows StaysCanonical
      (Wms.adjustLot env (countAdjustCall call w eventId line s delta sub)) :=
    fun _ _ _ _ _ _ _ => adjustLot_staysCanonical _ _ canonReason_adjustment_ne
  cases op with
  | adjustLot pms utcNow call =>
    obtain ⟨out, hadjust, -⟩ := adjustLotDirectly_run_ok h
    exact adjustLot_canonConsistent_iff hdb hadjust
  | submitOrder pms call =>
    obtain ⟨⟨event, saved⟩, hsubmit, -⟩ := Tx.run_map_ok.mp h
    have hsubmitted := submitOrderOutboundEvent_run_ok hsubmit
    obtain ⟨order, lines, rows, db₁, -, hship, hframe, -⟩ := hsubmitted.prepared
    refine iff_of_false (hship.not_canonConsistent ?_ ?_ ?_) id
    · intro hnil
      have hsaves := hsubmitted.saves
      rw [hnil, List.forall₂_nil_right_iff] at hsaves
      exact hsubmitted.nonempty hsaves
    · rw [hframe]
      rfl
    · exact submitOrderOutboundEvent_addsOutbound pms call db _ db' hsubmit
  | submitManual call =>
    obtain ⟨⟨event, saved⟩, hsubmit, -⟩ := Tx.run_map_ok.mp h
    have hsubmitted := submitManualOutboundEvent_run_ok hsubmit
    obtain ⟨doc, lines, rows, db₁, -, hship, hopen, hdone⟩ := hsubmitted.prepared
    refine iff_of_false (hship.not_canonConsistent ?_ ?_ ?_) id
    · intro hnil
      have hsaves := hsubmitted.saves
      rw [hnil, List.forall₂_nil_right_iff] at hsaves
      exact hsubmitted.nonempty hsaves
    · by_cases hcompleted : ManualCompleted db₁ call.docId
      · rw [(hdone hcompleted).1]
        rfl
      · rw [hopen hcompleted]
    · exact submitManualOutboundEvent_addsOutbound call db _ db' hsubmit
  | submitInbound call =>
    obtain ⟨event, hsubmit, -⟩ := Tx.run_map_ok.mp h
    exact hkeeps (submitInboundOperation_along staysCanonical_followedByLots call
      (fun _ _ _ _ _ _ => receiveStock_staysCanonical (fun _ => rfl) fun _ => rfl)
      db event db' hsubmit) trivial
  | commitInbound call =>
    obtain ⟨event, hcommit, -⟩ := Tx.run_map_ok.mp h
    exact hkeeps (commitInbound_along staysCanonical_followedByLots call
      (fun _ _ _ => adjustLot_staysCanonical _ _ canonReason_receipt_ne)
      db event db' hcommit) trivial
  | reverseOutbound call =>
    cases hstep with
    | reverseOutbound hreversed => exact hkeeps (hreversed.along hreverse) trivial
  | reverseInbound call =>
    cases hstep with
    | reverseInbound hreversed => exact hkeeps (hreversed.along hreverse) trivial
  | postCountDoc call =>
    cases hstep with
    | repostCountDoc => exact hkeeps id trivial
    | postCountDoc hposted => exact hkeeps (hposted.along hcount) trivial
  | _ => exact hsame rfl trivial

/-- In every state of a run every row has the canonical reason of its reason, and a filter
selects it, exactly when no accepted operation ships by an event or adds a row for a
reason that is not recognised. -/
theorem canonConsistent_run_iff (ops : List Op) :
    (∀ n, (Database.after (ops.take n)).books.CanonConsistent) ↔
      Tx.AllAccepted Op.exec Op.WritesCanonical ops Database.empty :=
  Tx.forall_attemptAll_iff (I := fun db : Database => db.books.CanonConsistent)
    (fun _ _ _ _ hdb hwrites hrun => (Op.canonConsistent_iff hdb hrun).mpr hwrites)
    (fun _ hdb => hdb)
    (fun _ _ _ _ hdb hrun hdb' => (Op.canonConsistent_iff hdb hrun).mp hdb')
    (fun _ hr => nomatch hr)

/-- A shipment of the apples of an order. -/
def appleShipment : List Op :=
  stocked ++ [.importOrder appleOrder [appleLine 1 5],
    .submitOrder plainPms (shipApples "T-1" [fiveApples 1])]

/-- Its row says "OUTBOUND" where its reason stands for "SHIPMENT". -/
theorem not_canonConsistent_appleShipment :
    ¬∀ n, (Database.after (appleShipment.take n)).books.CanonConsistent := by
  intro h
  have hrow : ∃ r ∈ (Database.after (appleShipment.take 4)).books.stockLedger.rows,
      r.reasonCanon ≠ canonReason r.reason.text := by
    decide +kernel
  obtain ⟨r, hr, hne⟩ := hrow
  exact hne (h 4 r hr).canon_eq

end Wms

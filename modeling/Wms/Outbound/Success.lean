import Wms.Outbound.Accepted

/-!
# Submissions that succeed

The converse of `Wms.Outbound.Accepted`: what a submission needs in order to go through.
Every statement of a submission is shown to succeed under a condition on its input and
on the state before it.
-/

namespace Wms

open Foundation Foundation.Journal

variable {db : Database} {docType : SourceDocType} {source : ℕ → Option SourceLine}

/-! ## The lines -/

/-- The texts of a line of a document fit the columns of an event line. -/
structure SourceLine.Fits (src : SourceLine) : Prop where
  itemName : ∀ s ∈ src.itemName, s.length ≤ 255
  itemSku : ∀ s ∈ src.itemSku, s.length ≤ 128
  itemSpec : ∀ s ∈ src.itemSpec, s.length ≤ 255

/-- The values of an event line fit its columns and pass its checks. -/
structure OutboundLineValues.Fits (v : OutboundLineValues) : Prop where
  lotCode : ∀ s ∈ v.lotCodeSnapshot, s.length ≤ 64
  itemName : ∀ s ∈ v.itemNameSnapshot, s.length ≤ 255
  itemSku : ∀ s ∈ v.itemSkuSnapshot, s.length ≤ 128
  itemSpec : ∀ s ∈ v.itemSpecSnapshot, s.length ≤ 255
  remark : ∀ s ∈ v.remark, s.length ≤ 255
  qty_pos : 0 < v.qtyOutbound
  source_oneof : (v.orderLineId.isSome ∧ v.manualDocLineId = none) ∨
    (v.orderLineId = none ∧ v.manualDocLineId.isSome)

theorem OutboundLineValues.Fits.row_isOk {v : OutboundLineValues} (h : v.Fits) (eventId : ℕ) :
    ∃ s, v.row eventId = .ok s := by
  obtain ⟨lotCode, hlotCode⟩ := Varchar.store?_of_fits h.lotCode
  obtain ⟨itemName, hitemName⟩ := Varchar.store?_of_fits h.itemName
  obtain ⟨itemSku, hitemSku⟩ := Varchar.store?_of_fits h.itemSku
  obtain ⟨itemSpec, hitemSpec⟩ := Varchar.store?_of_fits h.itemSpec
  obtain ⟨remark, hremark⟩ := Varchar.store?_of_fits h.remark
  unfold OutboundLineValues.row
  simp only [bind, Except.bind, hlotCode, hitemName, hitemSku, hitemSpec, hremark,
    dif_pos h.qty_pos, dif_pos h.source_oneof]
  exact ⟨_, rfl⟩

/-- The lines of an order bring texts that fit. -/
theorem orderSource_fits {pms : PmsClient} {lines : List OrderLine} {id : ℕ} {src : SourceLine}
    (h : orderSource pms lines id = some src) : src.Fits := by
  obtain ⟨l, -, rfl⟩ := Option.map_eq_some_iff.mp h
  unfold OrderLine.source
  split
  · rename_i item _
    refine ⟨?_, ?_, Varchar.fits_of_map _ (by decide)⟩
    · intro s hs
      rw [← Option.some.inj hs]
      exact item.name.fits.trans (by decide)
    · intro s hs
      rw [← Option.some.inj hs]
      exact item.sku.fits
  · refine ⟨cleanText_fits ?_, cleanText_fits ?_, fun s hs => by cases hs⟩
    · intro s hs
      obtain ⟨i, -, rfl⟩ := Option.map_eq_some_iff.mp hs
      exact i.itemName.fits
    · intro s hs
      obtain ⟨i, -, rfl⟩ := Option.map_eq_some_iff.mp hs
      exact i.skuCode.fits

/-- The lines of a manual document bring texts that fit. -/
theorem manualSource_fits {lines : List ManualLine} {id : ℕ} {src : SourceLine}
    (h : manualSource lines id = some src) : src.Fits := by
  obtain ⟨l, -, rfl⟩ := Option.map_eq_some_iff.mp h
  exact ⟨Varchar.fits_of_map _ (by decide), Varchar.fits_of_map _ (by decide),
    Varchar.fits_of_map _ (by decide)⟩

/-- A normalized line fits, whatever lot it takes from. -/
theorem normalizeSubmitLine_fits {refLine : ℕ} {raw : SubmitLineIn} {l : OutboundLineValues}
    (hsource : ∀ id src, source id = some src → src.Fits)
    (h : normalizeSubmitLine docType source refLine raw = .ok l) (b : Books) :
    (l.withLotCode b).Fits := by
  unfold normalizeSubmitLine at h
  split at h
  · cases h
  · rename_i src hsrc
    split at h
    · cases h
    · cases h
      have hfits := hsource _ _ hsrc
      refine ⟨?_, cleanText_fits hfits.itemName, cleanText_fits hfits.itemSku,
        cleanText_fits hfits.itemSpec, cleanText_fits (Varchar.fits_of_map _ (le_refl _)),
        raw.qty_pos, ?_⟩
      · intro s hs
        obtain ⟨lot, -, hcode⟩ := Option.bind_eq_some_iff.mp hs
        obtain ⟨code, -, rfl⟩ := Option.map_eq_some_iff.mp hcode
        exact code.fits
      · cases docType with
        | orderOutbound => exact .inl ⟨rfl, rfl⟩
        | manualOutbound => exact .inr ⟨rfl, rfl⟩

/-- Lines of the document are normalized. -/
theorem normalizeSubmitLinesFrom_succeeds {raws : List SubmitLineIn}
    (hsource : ∀ id src, source id = some src → src.Fits)
    (hraws : ∀ raw ∈ raws, ∃ src, source raw.sourceLineId = some src ∧ raw.itemId = src.itemId)
    (b : Books) (refLine : ℕ) :
    ∃ lines, normalizeSubmitLinesFrom docType source refLine raws = .ok lines ∧
      ∀ l ∈ lines, (l.withLotCode b).Fits := by
  induction raws generalizing refLine with
  | nil => exact ⟨[], rfl, by simp⟩
  | cons raw rest ih =>
    obtain ⟨src, hsrc, hitem⟩ := hraws raw List.mem_cons_self
    obtain ⟨lines, hlines, hfits⟩ := ih (fun r hr => hraws r (List.mem_cons_of_mem _ hr)) (refLine + 1)
    obtain ⟨l, hl⟩ : ∃ l, normalizeSubmitLine docType source refLine raw = .ok l := by
      unfold normalizeSubmitLine
      rw [hsrc]
      simp only
      rw [if_neg (not_not.mpr hitem)]
      exact ⟨_, rfl⟩
    refine ⟨l :: lines, ?_, ?_⟩
    · simp only [normalizeSubmitLinesFrom, bind, Except.bind, hl, hlines]
      rfl
    · intro l' hl'
      rcases List.mem_cons.mp hl' with rfl | hmem
      · exact normalizeSubmitLine_fits hsource hl b
      · exact hfits l' hmem

theorem normalizeSubmitLines_succeeds {raws : List SubmitLineIn} (hne : raws ≠ [])
    (hsource : ∀ id src, source id = some src → src.Fits)
    (hraws : ∀ raw ∈ raws, ∃ src, source raw.sourceLineId = some src ∧ raw.itemId = src.itemId)
    (b : Books) : ∃ lines, normalizeSubmitLines docType source raws = .ok lines ∧
      ∀ l ∈ lines, (l.withLotCode b).Fits := by
  unfold normalizeSubmitLines
  rw [if_neg hne]
  exact normalizeSubmitLinesFrom_succeeds hsource hraws b 1

/-! ## The event and its lines -/

/-- The head of a shipment can be written: its warehouse is stored and not frozen, and its
trace, which is also the number of the event, is short and new. -/
structure ShipmentHead.Writable (db : Database) (head : ShipmentHead) : Prop where
  notFrozen : ¬db.Frozen head.warehouseId
  hasWarehouse : db.HasWarehouse head.warehouseId
  remark_fits : ∀ s ∈ head.remark, s.length ≤ 500
  trace_fits : head.traceId.length ≤ 64
  trace_new : ∀ e ∈ db.eventBook.events.rows,
    e.eventNo.text ≠ head.traceId ∧ e.traceId.text ≠ head.traceId

/-- The event row of a head whose reference can be stored. -/
theorem ShipmentHead.Writable.event_row {head : ShipmentHead} (h : head.Writable db)
    {ref : Varchar 128} (href : Varchar.store 128 head.sourceRef = .ok ref) (id : ℕ) :
    ∃ e, head.eventValues.row id = .ok e ∧ e.eventNo.text = head.traceId ∧
      e.traceId.text = head.traceId ∧ e.sourceRef = some ref := by
  have hno : String.ofList (head.traceId.toList.take 64) = head.traceId := by
    rw [List.take_of_length_le (by rw [String.length_toList]; exact h.trace_fits),
      String.ofList_toList]
  have hnoFits : head.eventValues.eventNo.length ≤ 64 := by
    change (String.ofList _).length ≤ 64
    rw [hno]
    exact h.trace_fits
  have htraceFits : head.traceId.length ≤ 128 := h.trace_fits.trans (by decide)
  have hremark : ∀ s ∈ head.eventValues.remark, s.length ≤ 500 := by
    intro s hs
    obtain ⟨r, hr, hstrip⟩ := Option.bind_eq_some_iff.mp hs
    split at hstrip
    · cases hstrip
    · rw [← Option.some.inj hstrip]
      exact (strip_length_le r).trans (h.remark_fits r hr)
  obtain ⟨remark, hremark⟩ := Varchar.store?_of_fits hremark
  have hsource : Varchar.store? 128 head.eventValues.sourceRef = .ok (some ref) := by
    change Varchar.store? 128 (some head.sourceRef) = _
    rw [Varchar.store?, href]
    rfl
  have htrace : Varchar.store 128 head.eventValues.traceId = .ok ⟨head.traceId, htraceFits⟩ :=
    Varchar.store_of_fits htraceFits
  refine ⟨_, by
    unfold EventValues.row
    simp only [bind, Except.bind, Varchar.store_of_fits hnoFits, hsource, htrace, hremark]
    rfl, hno, rfl, rfl⟩

theorem recordEvent_succeeds {v : EventValues} {e : WmsEvent} (hw : db.HasWarehouse v.warehouseId)
    (hrow : v.row (nextId db.eventBook.ids) = .ok e)
    (hfree : ∀ a ∈ db.eventBook.events.rows, ¬a.Conflict e)
    (htarget : ∀ i ∈ v.targetEventId, i ∈ db.eventBook.ids) :
    ∃ db', (recordEvent v).run db = .ok (e, db') := by
  obtain ⟨eb, hinsert⟩ := insertEvent_succeeds hrow hfree htarget
  unfold recordEvent
  simp only [Tx.run_bind_ok, Tx.run_get_ok, Tx.run_failIf_ok, onEvents_run_ok]
  exact ⟨db.putEventBook eb, db, db, ⟨rfl, rfl⟩, ⟨⟩, db, ⟨not_not.mpr hw, rfl⟩, eb, hinsert, rfl⟩

/-- Lines with different numbers are stored under a new event. -/
theorem insertOutboundLines_succeeds {eb : EventBook} {eventId : ℕ} {b : Books}
    {lines : List OutboundLineValues} (hfits : ∀ l ∈ lines, (l.withLotCode b).Fits)
    (hevent : eventId ∈ eb.ids) (hapart : (lines.map OutboundLineValues.refLine).Nodup)
    (hfree : ∀ a ∈ eb.outboundLines.rows, a.eventId = eventId → ∀ l ∈ lines,
      a.refLine ≠ l.refLine) :
    ∃ saved eb', (lines.mapM' fun l => insertOutboundLine eventId (l.withLotCode b)).run eb =
      .ok (saved, eb') := by
  induction lines generalizing eb with
  | nil => exact ⟨[], eb, Tx.run_mapM_nil_ok.mpr ⟨rfl, rfl⟩⟩
  | cons l rest ih =>
    rw [List.map_cons, List.nodup_cons] at hapart
    obtain ⟨s, hrow⟩ := (hfits l List.mem_cons_self).row_isOk eventId
    obtain ⟨hsevent, hsref, -⟩ := OutboundLineValues.row_eq_ok hrow
    obtain ⟨eb₁, hinsert⟩ := insertOutboundLine_succeeds hrow (fun a ha hconf =>
      hfree a ha (hconf.1.trans hsevent) l List.mem_cons_self (hconf.2.trans hsref)) hevent
    obtain ⟨-, -, hrows, hevents, -⟩ := insertOutboundLine_run_ok hinsert
    have hevent₁ : eventId ∈ eb₁.ids := by
      unfold EventBook.ids
      rw [hevents]
      exact hevent
    have hfree₁ : ∀ a ∈ eb₁.outboundLines.rows, a.eventId = eventId → ∀ l' ∈ rest,
        a.refLine ≠ l'.refLine := by
      intro a ha haevent l' hl' heq
      rw [hrows] at ha
      rcases List.mem_append.mp ha with hold | hnew
      · exact hfree a hold haevent l' (List.mem_cons_of_mem _ hl') heq
      · obtain rfl := List.mem_singleton.mp hnew
        refine hapart.1 (List.mem_map.mpr ⟨l', hl', ?_⟩)
        rw [← heq, hsref]
        rfl
    obtain ⟨saved, eb', hrest⟩ := ih (fun l' hl' => hfits l' (List.mem_cons_of_mem _ hl'))
      hevent₁ hapart.2 hfree₁
    exact ⟨s :: saved, eb', Tx.run_mapM_cons_ok.mpr ⟨s, eb₁, saved, hinsert, hrest, rfl⟩⟩

/-! ## The stock -/

/-- What lines take from a slot. -/
def savedFrom (w : ℕ) (saved : List OutboundEventLine) (k : SlotKey) : ℤ :=
  ((saved.filter fun s => s.slot w = k).map OutboundEventLine.qtyOutbound).sum

theorem savedFrom_cons (w : ℕ) (s : OutboundEventLine) (saved : List OutboundEventLine)
    (k : SlotKey) : savedFrom w (s :: saved) k =
      (if s.slot w = k then s.qtyOutbound else 0) + savedFrom w saved k := by
  unfold savedFrom
  by_cases heq : s.slot w = k
  · simp [heq]
  · simp [heq]

theorem savedFrom_nonneg (w : ℕ) (saved : List OutboundEventLine) (k : SlotKey) :
    0 ≤ savedFrom w saved k := by
  unfold savedFrom
  refine List.sum_nonneg ?_
  intro q hq
  obtain ⟨s, -, rfl⟩ := List.mem_map.mp hq
  exact s.qty_pos.le

/-- A line is taken from stock when its slot holds enough and its key is new. -/
theorem shipLine_succeeds {knownEvents : List ℕ} {event : WmsEvent} {l : OutboundEventLine}
    {b : Books} {sourceRef : String} {ref : Varchar 128}
    (href : Varchar.store 128 sourceRef = .ok ref) (hevent : event.sourceRef = some ref)
    (htrace : event.traceId.text.length ≤ 64) (hknown : event.id ∈ knownEvents)
    (henough : l.qtyOutbound ≤ b.stock (l.slot event.warehouseId))
    (hfree : ¬b.HasStoredKey (l.slot event.warehouseId) "OUTBOUND_SHIP" sourceRef l.refLine) :
    ∃ b', (shipLine knownEvents event l).run b = .ok (⟨⟩, b') := by
  have hqty := l.qty_pos
  have hmem : l.slot event.warehouseId ∈ b.stocksLot := by
    by_contra hnot
    rw [Books.stock_of_notMem hnot] at henough
    omega
  obtain ⟨q, hq⟩ : ∃ q, b.stocksLot.lookup (l.slot event.warehouseId) = some q :=
    Option.isSome_iff_exists.mp (AList.lookup_isSome.mpr hmem)
  rw [Books.stock_of_lookup hq] at henough
  have hrefText : (event.sourceRef.map Varchar.text).getD "None" = ref.text := by rw [hevent]; rfl
  obtain ⟨row, hrow⟩ : ∃ row, (shipLedgerValues event l (q - l.qtyOutbound)).row = .ok row := by
    have hreason : Varchar.store 32 "OUTBOUND_SHIP" = .ok ⟨"OUTBOUND_SHIP", by decide⟩ :=
      Varchar.store_of_fits _
    have hsub : Varchar.store? 32 (some "ORDER_OUTBOUND") =
        .ok (some ⟨"ORDER_OUTBOUND", by decide⟩) := by
      rw [Varchar.store?, Varchar.store_of_fits (by decide)]
      rfl
    have href' : Varchar.store 128 ((event.sourceRef.map Varchar.text).getD "None") = .ok ref := by
      rw [hrefText]
      exact Varchar.store_isOk_of_text ref
    have htrace' : Varchar.store? 64 (some event.traceId.text) =
        .ok (some ⟨event.traceId.text, htrace⟩) := by
      rw [Varchar.store?, Varchar.store_of_fits htrace]
      rfl
    have hafter : 0 ≤ q - l.qtyOutbound := by omega
    exact LedgerValues.row_isOk hreason hsub href' htrace' hafter (.inr ⟨rfl, rfl⟩)
  obtain ⟨hship, -⟩ := shipRow_of_values hrow
  obtain ⟨t, ht⟩ : ∃ t, b.stockLedger.insert row = some t := by
    refine Option.ne_none_iff_exists'.mp fun hnone => ?_
    obtain ⟨a, ha, hreason, haref, hline, hslot⟩ := Table.insert_eq_none.mp hnone
    refine hfree ⟨a, ha, hslot.trans hship.slot_eq, hline.trans hship.refLine_eq, ?_, ?_⟩
    · have htext : a.reason.text = "OUTBOUND_SHIP" := by rw [hreason]; exact hship.reason_eq
      rw [← htext]
      exact Varchar.store_isOk_of_text _
    · have htext : a.ref = ref := by
        have hsame : a.ref.text = ref.text := by rw [haref, hship.ref_eq, hrefText]
        cases hr : a.ref
        cases ref
        rw [hr] at hsame
        cases hsame
        rfl
      rw [htext]
      exact href
  have hlot : b.HasLot row.slot := by
    rw [hship.slot_eq]
    exact Books.hasLot_of_mem hmem
  have hknown' : ∀ e ∈ row.eventId, e ∈ knownEvents := by
    rw [hship.eventId_eq]
    intro e he
    rwa [← Option.some.inj he]
  have hmem' : l.slot event.warehouseId ∈ (b.putLedger t).stocksLot := hmem
  unfold shipLine
  simp only [Tx.run_bind_ok]
  exact ⟨_, some q, b, lockSlot_run_ok.mpr ⟨hq, rfl⟩, q, b, Tx.run_demand_ok.mpr ⟨rfl, rfl⟩, ⟨⟩, b,
    Tx.run_failIf_ok.mpr ⟨by omega, rfl⟩, ⟨⟩, b.putLedger t,
    insertLedger_run_ok.mpr ⟨row, t, hrow, ht, ⟨hlot, hknown'⟩, rfl⟩,
    (setSlotQty_run_ok hmem').mpr ⟨by omega, rfl⟩⟩

/-- The stored rows have a key exactly when the old ones or the new ones have it. -/
theorem Moved.hasStoredKey {b b' : Books} {rows : List LedgerRow} (h : Moved b rows b')
    {k : SlotKey} {reason ref : String} {n : ℤ} :
    b'.HasStoredKey k reason ref n ↔ b.HasStoredKey k reason ref n ∨
      ∃ r ∈ rows, r.slot = k ∧ r.refLine = n ∧ Varchar.store 32 reason = .ok r.reason ∧
        Varchar.store 128 ref = .ok r.ref := by
  unfold Books.HasStoredKey
  rw [h.ledger_eq]
  simp only [List.mem_append, or_and_right, exists_or]

/-- The lines are taken from stock one after the other, when each slot holds enough for
all of them and their keys are new. -/
theorem shipLines_succeeds {knownEvents : List ℕ} {event : WmsEvent} {b : Books}
    {sourceRef : String} {ref : Varchar 128} {saved : List OutboundEventLine}
    (href : Varchar.store 128 sourceRef = .ok ref) (hevent : event.sourceRef = some ref)
    (htrace : event.traceId.text.length ≤ 64) (hknown : event.id ∈ knownEvents)
    (henough : ∀ k, savedFrom event.warehouseId saved k ≤ b.stock k)
    (hapart : (saved.map OutboundEventLine.refLine).Nodup)
    (hfree : ∀ l ∈ saved,
      ¬b.HasStoredKey (l.slot event.warehouseId) "OUTBOUND_SHIP" sourceRef l.refLine) :
    ∃ b', (forM saved (shipLine knownEvents event)).run b = .ok (⟨⟩, b') := by
  induction saved generalizing b with
  | nil => exact ⟨b, Tx.run_forM_nil_ok.mpr rfl⟩
  | cons l rest ih =>
    rw [List.map_cons, List.nodup_cons] at hapart
    have hl : l.qtyOutbound ≤ b.stock (l.slot event.warehouseId) := by
      have hslot := henough (l.slot event.warehouseId)
      rw [savedFrom_cons, if_pos rfl] at hslot
      have hrest := savedFrom_nonneg event.warehouseId rest (l.slot event.warehouseId)
      omega
    obtain ⟨b₁, hline⟩ := shipLine_succeeds href hevent htrace hknown hl (hfree l List.mem_cons_self)
    obtain ⟨row, hship, hmoved⟩ := shipLine_run_ok hline
    have henough₁ : ∀ k, savedFrom event.warehouseId rest k ≤ b₁.stock k := by
      intro k
      have hslot := henough k
      have hstock := hmoved.stock_eq k
      have hkey : row.posting.key = l.slot event.warehouseId := hship.slot_eq
      have hdelta : row.posting.delta = -l.qtyOutbound := hship.delta_eq
      rw [List.map_singleton, movement_cons, movement_nil, hkey, hdelta] at hstock
      rw [savedFrom_cons] at hslot
      split at hslot <;> split at hstock <;> first | contradiction | omega
    have hfree₁ : ∀ l' ∈ rest,
        ¬b₁.HasStoredKey (l'.slot event.warehouseId) "OUTBOUND_SHIP" sourceRef l'.refLine := by
      intro l' hl' hkey
      rcases hmoved.hasStoredKey.mp hkey with hold | ⟨r, hr, -, hline', -, -⟩
      · exact hfree l' (List.mem_cons_of_mem _ hl') hold
      · rw [List.mem_singleton.mp hr, hship.refLine_eq] at hline'
        exact hapart.1 (List.mem_map.mpr ⟨l', hl', by omega⟩)
    obtain ⟨b', hrest⟩ := ih henough₁ hapart.2 hfree₁
    exact ⟨b', Tx.run_forM_cons_ok.mpr ⟨b₁, hline, hrest⟩⟩

/-! ## The shipment -/

/-- The slot from which a line is taken. -/
def OutboundLineValues.slot (warehouseId : ℕ) (l : OutboundLineValues) : SlotKey :=
  ⟨warehouseId, l.itemId, l.lotId⟩

/-- What lines take from a slot. -/
def linesFrom (w : ℕ) (lines : List OutboundLineValues) (k : SlotKey) : ℤ :=
  ((lines.filter fun l => l.slot w = k).map OutboundLineValues.qtyOutbound).sum

/-- Saved lines take what was asked of each slot. -/
theorem savedFrom_eq {b : Books} {w eventId : ℕ} {lines : List OutboundLineValues}
    {saved : List OutboundEventLine}
    (h : List.Forall₂ (fun l s => (OutboundLineValues.withLotCode b l).row eventId = .ok s) lines
      saved) (k : SlotKey) : savedFrom w saved k = linesFrom w lines k := by
  unfold savedFrom linesFrom
  induction h with
  | nil => rfl
  | @cons l s lines saved hrow _ ih =>
    obtain ⟨-, -, hitem, hqty, hlot, -, -⟩ := OutboundLineValues.row_eq_ok hrow
    have hslot : s.slot w = l.slot w := by
      unfold OutboundEventLine.slot OutboundLineValues.slot
      rw [hitem, hlot]
      rfl
    have hqty' : s.qtyOutbound = l.qtyOutbound := hqty
    by_cases heq : l.slot w = k
    · simp [hslot, heq, ih, hqty']
    · simp [hslot, heq, ih]

/-- Saved lines keep the numbers that were given. -/
theorem savedRefs_eq {b : Books} {eventId : ℕ} {lines : List OutboundLineValues}
    {saved : List OutboundEventLine}
    (h : List.Forall₂ (fun l s => (OutboundLineValues.withLotCode b l).row eventId = .ok s) lines
      saved) : saved.map OutboundEventLine.refLine = lines.map OutboundLineValues.refLine := by
  induction h with
  | nil => rfl
  | cons hrow _ ih =>
    rw [List.map_cons, List.map_cons, ih, (OutboundLineValues.row_eq_ok hrow).2.1]
    rfl

/-- A shipment is written when its head can be, its reference can be stored, its lines
fit, and each slot holds enough under keys that are new. -/
theorem writeEventAndLedger_succeeds {head : ShipmentHead} {lines : List OutboundLineValues}
    {ref : Varchar 128} (hhead : head.Writable db)
    (href : Varchar.store 128 head.sourceRef = .ok ref)
    (hfits : ∀ l ∈ lines, (l.withLotCode db.books).Fits)
    (hapart : (lines.map OutboundLineValues.refLine).Nodup)
    (henough : ∀ k, linesFrom head.warehouseId lines k ≤ db.books.stock k)
    (hfree : ∀ l ∈ lines, ¬db.books.HasStoredKey (l.slot head.warehouseId) "OUTBOUND_SHIP"
      head.sourceRef l.refLine) :
    ∃ event saved db', (writeEventAndLedger head lines).run db = .ok ((event, saved), db') := by
  obtain ⟨event, hrow, hno, htrace, hsource⟩ := hhead.event_row href (nextId db.eventBook.ids)
  have hnew : ∀ a ∈ db.eventBook.events.rows, ¬a.Conflict event := by
    intro a ha hconf
    obtain ⟨hano, hatrace⟩ := hhead.trace_new a ha
    rcases hconf with hid | hsame | hsame
    · rw [(EventValues.row_eq_ok hrow).1] at hid
      exact nextId_notMem _ (List.mem_map.mpr ⟨a, ha, hid⟩)
    · exact hano (by rw [hsame, hno])
    · exact hatrace (by rw [hsame, htrace])
  obtain ⟨db₁, hrecord⟩ := recordEvent_succeeds hhead.hasWarehouse hrow hnew (by simp
    [ShipmentHead.eventValues])
  obtain ⟨-, -, -, eb₁, hevents, houtbound, -, hframe⟩ := recordEvent_run_ok hrecord
  have hbook₁ : db₁.eventBook = eb₁ := by rw [← hframe]; rfl
  have hbooks₁ : db₁.books = db.books := by rw [← hframe]; rfl
  have heventId : event.id = nextId db.eventBook.ids := (EventValues.row_eq_ok hrow).1
  have hknown : event.id ∈ db₁.eventBook.ids := by
    rw [hbook₁]
    unfold EventBook.ids
    rw [hevents]
    simp
  obtain ⟨saved, eb₂, hsaved⟩ : ∃ saved eb₂,
      (lines.mapM' fun l => insertOutboundLine event.id (l.withLotCode db₁.books)).run
        db₁.eventBook = .ok (saved, eb₂) := by
    refine insertOutboundLines_succeeds (by rw [hbooks₁]; exact hfits) hknown hapart ?_
    intro a ha hid
    rw [hbook₁, houtbound] at ha
    have hold := db.eventBook.outbound_fk a ha
    rw [hid, heventId] at hold
    exact absurd hold (nextId_notMem _)
  obtain ⟨hrows, -, hevents₂, -⟩ := insertOutboundLines_run_ok hsaved
  rw [hbooks₁] at hrows
  have hwarehouse : event.warehouseId = head.warehouseId := (EventValues.row_eq_ok hrow).2.2.1
  obtain ⟨b₃, hship⟩ : ∃ b₃, (forM saved (shipLine eb₂.ids event)).run db₁.books =
      .ok (⟨⟩, b₃) := by
    refine shipLines_succeeds href hsource (by rw [htrace]; exact hhead.trace_fits) ?_ ?_ ?_ ?_
    · unfold EventBook.ids
      rw [hevents₂]
      exact hknown
    · intro k
      rw [savedFrom_eq hrows, hwarehouse, hbooks₁]
      exact henough k
    · rw [savedRefs_eq hrows]
      exact hapart
    · intro s hs
      obtain ⟨n, hn, rfl⟩ := List.getElem_of_mem hs
      have hlen := hrows.length_eq
      have hn' : n < lines.length := by omega
      obtain ⟨-, hline, hitem, -, hlot, -, -⟩ := OutboundLineValues.row_eq_ok (hrows.get hn' hn)
      have hslot : saved[n].slot event.warehouseId = lines[n].slot head.warehouseId := by
        unfold OutboundEventLine.slot OutboundLineValues.slot
        rw [hwarehouse]
        exact SlotKey.ext rfl hitem hlot
      have hline' : saved[n].refLine = lines[n].refLine := hline
      rw [hslot, hline', hbooks₁]
      exact hfree _ (List.getElem_mem hn')
  refine ⟨event, saved, (db₁.putEventBook eb₂).putBooks b₃, ?_⟩
  unfold writeEventAndLedger
  simp only [Tx.run_bind_ok, ensureWarehouseNotFrozen_run_ok, Tx.run_get_ok, onEvents_run_ok,
    onBooks_run_ok, Tx.run_pure_ok]
  exact ⟨⟨⟩, db, ⟨hhead.notFrozen, rfl⟩, event, db₁, hrecord, db₁, db₁, ⟨rfl, rfl⟩, saved,
    db₁.putEventBook eb₂, ⟨eb₂, hsaved, rfl⟩, _, _, ⟨rfl, rfl⟩, ⟨⟩, _, ⟨b₃, hship, rfl⟩, rfl, rfl⟩

/-! ## The hand-off -/

theorem handOff_succeeds {docId : ℕ} {docNo : String} {v : HandoffValues} {no : Varchar 128}
    {payload : HandoffPayload} (hno : Varchar.store 128 (strip docNo) = .ok no)
    (hrow : v.row = .ok payload) :
    ∃ db', (handOff docType docId docNo v).run db = .ok (⟨⟩, db') := by
  unfold handOff onExports upsertPendingLogisticsExportRecord upsertLogisticsHandoffPayload
  simp only [Tx.run_bind_ok, Tx.run_zoom_ok, Tx.run_ofExcept_ok, Tx.run_modify_ok]
  exact ⟨_, ⟨⟩, _, ⟨_, ⟨no, _, ⟨hno, rfl⟩, rfl⟩, rfl⟩, _, ⟨payload, _, ⟨hrow, rfl⟩, rfl⟩, rfl⟩

/-- The stored number of the document is not part of the payload. -/
theorem handOff_docNo {docId : ℕ} {docNo : String} {v : HandoffValues} {u : PUnit} {db' : Database}
    (h : (handOff docType docId docNo v).run db = .ok (u, db')) :
    ∃ no, Varchar.store 128 (strip docNo) = .ok no := by
  unfold handOff onExports upsertPendingLogisticsExportRecord at h
  simp only [Tx.run_bind_ok, Tx.run_zoom_ok, Tx.run_ofExcept_ok] at h
  obtain ⟨_, _, ⟨_, ⟨no, _, ⟨hno, -⟩, -⟩, -⟩, -⟩ := h
  exact ⟨no, hno⟩

theorem warehouseNameSnapshot_fits {warehouseId : ℕ} :
    ∀ s ∈ db.warehouseNameSnapshot warehouseId, s.length ≤ 100 := by
  intro s hs
  obtain ⟨w, -, hname⟩ := Option.bind_eq_some_iff.mp hs
  refine cleanText_fits ?_ s hname
  intro t ht
  rw [← Option.some.inj ht]
  exact w.name.fits

/-- The texts of an order that come from wider columns than those of the hand-off fit. -/
structure Order.HandoffFits (o : Order) : Prop where
  docNo : ∃ no, Varchar.store 128 (strip o.sourceDocNo) = .ok no
  orderRef : ∃ ref, Varchar.store? 128 o.handoffRef = .ok ref
  receiverName : ∃ name, Varchar.store? 128 (o.addressText OrderAddress.receiverName <|>
    cleanText (o.buyerName.map Varchar.text)) = .ok name

/-- The texts of a manual document that come from wider columns than those of the hand-off
fit. -/
structure ManualDoc.HandoffFits (d : ManualDoc) : Prop where
  docNo : ∃ no, Varchar.store 128 (strip d.docNo) = .ok no
  receiverName : ∃ name, Varchar.store? 128 (cleanVarchar d.recipientName) = .ok name

theorem cleanText_some_fits {m n : ℕ} (v : Varchar m) (h : m ≤ n) :
    ∀ s ∈ cleanText (some v.text), s.length ≤ n := by
  refine cleanText_fits ?_
  intro s hs
  rw [← Option.some.inj hs]
  exact v.fits.trans h

theorem cleanVarchar_fits {m n : ℕ} (v : Option (Varchar m)) (h : m ≤ n) :
    ∀ s ∈ cleanVarchar v, s.length ≤ n :=
  cleanText_fits (Varchar.fits_of_map v h)

theorem Order.addressText_fits {n : ℕ} (o : Order) (field : OrderAddress → Option (Varchar n)) :
    ∀ s ∈ o.addressText field, s.length ≤ n :=
  cleanText_fits (Varchar.fits_of_map _ (le_refl n))

/-- The reference of an event is at most as long as its column is wide. -/
theorem sourceRef_fits (event : WmsEvent) :
    ((event.sourceRef.map Varchar.text).getD "None").length ≤ 128 := by
  cases event.sourceRef with
  | none => decide
  | some ref => exact ref.fits

/-- The payload of an order whose texts fit can be stored. -/
theorem Order.HandoffFits.row_isOk {o : Order} (h : o.HandoffFits) (warehouseId : ℕ)
    (event : WmsEvent) (saved : List OutboundEventLine) :
    ∃ payload, (o.handoffValues (db.warehouseNameSnapshot warehouseId) event saved).row =
      .ok payload := by
  obtain ⟨ref, href⟩ := h.orderRef
  obtain ⟨name, hname⟩ := h.receiverName
  have hplatform := cleanText_some_fits o.platform (le_refl 32)
  have hstore := cleanText_some_fits o.storeCode (le_refl 64)
  have hno := cleanText_some_fits o.extOrderNo (le_refl 128)
  have hphone : ∀ s ∈ (o.addressText OrderAddress.receiverPhone <|>
      cleanText (o.buyerPhone.map Varchar.text)), s.length ≤ 64 := by
    intro s hs
    cases haddress : o.addressText OrderAddress.receiverPhone with
    | none =>
      rw [haddress] at hs
      exact cleanVarchar_fits o.buyerPhone (by decide) s hs
    | some t =>
      rw [haddress] at hs
      obtain rfl := Option.some.inj hs
      exact o.addressText_fits _ _ haddress
  exact HandoffValues.row_isOk hplatform hstore href hno warehouseNameSnapshot_fits hname hphone
    (o.addressText_fits _) (o.addressText_fits _) (o.addressText_fits _) (o.addressText_fits _)
    (o.addressText_fits _) (sourceRef_fits event)

/-- The payload of a manual document whose texts fit can be stored. -/
theorem ManualDoc.HandoffFits.row_isOk {d : ManualDoc} (h : d.HandoffFits) (warehouseId : ℕ)
    (event : WmsEvent) (saved : List OutboundEventLine) :
    ∃ payload, (d.handoffValues (db.warehouseNameSnapshot warehouseId) event saved).row =
      .ok payload := by
  obtain ⟨name, hname⟩ := h.receiverName
  have hnone : ∀ n, ∀ s ∈ (none : Option String), s.length ≤ n := fun _ _ hs => by cases hs
  exact HandoffValues.row_isOk (hnone _) (hnone _) rfl (hnone _) warehouseNameSnapshot_fits hname
    (cleanVarchar_fits _ (le_refl _)) (cleanVarchar_fits _ (le_refl _))
    (cleanVarchar_fits _ (le_refl _)) (cleanVarchar_fits _ (le_refl _))
    (cleanVarchar_fits _ (le_refl _)) (cleanVarchar_fits _ (le_refl _)) (sourceRef_fits event)

/-! ## Submissions -/

/-- The number and the slot of each line of a payload, from a number on. -/
def shipKeysFrom (w : ℕ) : ℕ → List SubmitLineIn → List (ℕ × SlotKey)
  | _, [] => []
  | n, raw :: rest => (n, ⟨w, raw.itemId, raw.lotId⟩) :: shipKeysFrom w (n + 1) rest

/-- The part of the ledger keys of a payload that tells its lines apart: the number of the
line, which starts at one in every payload, and the slot. -/
def shipKeys (w : ℕ) (raws : List SubmitLineIn) : List (ℕ × SlotKey) := shipKeysFrom w 1 raws

/-- Normalized lines have the numbers and slots of the payload. -/
theorem keys_normalized {w n : ℕ} {raws : List SubmitLineIn} {lines : List OutboundLineValues}
    (h : List.Forall₂ (Normalizes docType source) raws lines)
    (hrefs : lines.map OutboundLineValues.refLine = List.range' n raws.length) :
    lines.map (fun l => (l.refLine, l.slot w)) = shipKeysFrom w n raws := by
  induction h generalizing n with
  | nil => rfl
  | @cons raw l raws lines hline _ ih =>
    rw [List.map_cons, List.length_cons, List.range'_succ, List.cons.injEq] at hrefs
    have hslot : l.slot w = ⟨w, raw.itemId, raw.lotId⟩ :=
      SlotKey.ext rfl hline.itemId_eq hline.lotId_eq
    rw [List.map_cons, ih hrefs.2, hrefs.1, hslot]
    rfl

/-- Normalized lines take what the payload asks of each slot. -/
theorem linesFrom_normalized {w : ℕ} {raws : List SubmitLineIn} {lines : List OutboundLineValues}
    (h : List.Forall₂ (Normalizes docType source) raws lines) (k : SlotKey) :
    linesFrom w lines k = takenFrom w raws k := by
  unfold linesFrom takenFrom
  induction h with
  | nil => rfl
  | @cons raw l raws lines hline _ ih =>
    have hslot : l.slot w = ⟨w, raw.itemId, raw.lotId⟩ :=
      SlotKey.ext rfl hline.itemId_eq hline.lotId_eq
    by_cases heq : (⟨w, raw.itemId, raw.lotId⟩ : SlotKey) = k
    · simp [hslot, heq, ih, hline.qty_eq]
    · simp [hslot, heq, ih]

/-- A row left by an order without its event has the key of the order. -/
theorem hasStoredKey_of_hasOrphan {b : Books} {sourceRef : String} {n : ℕ} {k : SlotKey}
    (h : b.HasOrphan sourceRef n k) : b.HasStoredKey k "OUTBOUND_SHIP" sourceRef n := by
  obtain ⟨r, hr, hreason, href, hline, hslot, -⟩ := h
  refine ⟨r, hr, hslot, hline, ?_, ?_⟩
  · rw [← hreason]
    exact Varchar.store_isOk_of_text _
  · rw [← href]
    exact Varchar.store_isOk_of_text _

/-- The ledger has no row under a key of the payload. -/
def KeysFree (b : Books) (sourceRef : String) (keys : List (ℕ × SlotKey)) : Prop :=
  ∀ key ∈ keys, ¬b.HasStoredKey key.2 "OUTBOUND_SHIP" sourceRef key.1

/-- Lines of a payload whose keys are free have free keys. -/
theorem KeysFree.of_lines {b : Books} {sourceRef : String} {w : ℕ} {raws : List SubmitLineIn}
    {lines : List OutboundLineValues} (hfree : KeysFree b sourceRef (shipKeys w raws))
    (hkeys : lines.map (fun l => (l.refLine, l.slot w)) = shipKeys w raws) :
    ∀ l ∈ lines, ¬b.HasStoredKey (l.slot w) "OUTBOUND_SHIP" sourceRef l.refLine := by
  intro l hl
  exact hfree (l.refLine, l.slot w) (by rw [← hkeys]; exact List.mem_map.mpr ⟨l, hl, rfl⟩)

theorem checkOrderLines_succeeds {order : Order} {call : OrderSubmitCall}
    {lines : List OutboundLineValues}
    (h : ∀ l ∈ lines, checkOrderLine db order call (l.orderLineId.getD 0) l = .ok ()) :
    checkOrderLines db order call lines = .ok () := by
  induction lines with
  | nil => rfl
  | cons l rest ih =>
    simp only [checkOrderLines, bind, Except.bind, h l List.mem_cons_self]
    exact ih fun l' hl' => h l' (List.mem_cons_of_mem _ hl')

/-- A line within what remains of its order line passes the checks. -/
theorem checkOrderLine_succeeds {order : Order} {call : OrderSubmitCall} {raw : SubmitLineIn}
    {l : OutboundLineValues} (hnorm : Normalizes .orderOutbound source raw l)
    (hwithin : WithinRemaining db call raw)
    (hfree : ¬db.books.HasStoredKey (l.slot call.warehouseId) "OUTBOUND_SHIP" order.outboundRef
      l.refLine) : checkOrderLine db order call (l.orderLineId.getD 0) l = .ok () := by
  obtain ⟨ol, hol, hid, -, hrem⟩ := hwithin.exists_line
  have hline : l.orderLineId = some raw.sourceLineId := hnorm.orderLineId_eq
  have hqty := raw.qty_pos
  have hnonneg : 0 ≤ db.eventBook.submittedQty ol.id := by
    unfold EventBook.submittedQty
    refine List.sum_nonneg ?_
    intro q hq
    obtain ⟨s, -, rfl⟩ := List.mem_map.mp hq
    exact s.qty_pos.le
  have horphan : ¬db.books.HasOrphan order.outboundRef l.refLine
      ⟨call.warehouseId, l.itemId, l.lotId⟩ := fun h => hfree (hasStoredKey_of_hasOrphan h)
  unfold checkOrderLine
  rw [hline, Option.getD_some, ← hid, orderProgress_eq hol, hnorm.qty_eq]
  simp only
  rw [if_neg (by omega), if_neg (by omega), if_neg (by omega), if_neg horphan]

/-- A submission within what remains of its order, for which the head can be written and
the keys are free, is prepared. -/
theorem prepareOrderSubmit_succeeds (pms : PmsClient) {call : OrderSubmitCall} {order : Order}
    (hfind : db.findOrder call.orderId = some order) (hne : call.lines ≠ [])
    (hwithin : ∀ raw ∈ call.lines, WithinRemaining db call raw)
    (hfree : KeysFree db.books order.outboundRef (shipKeys call.warehouseId call.lines)) :
    ∃ lines, prepareOrderSubmit pms db call = .ok (order, lines) ∧
      ∀ l ∈ lines, (l.withLotCode db.books).Fits := by
  obtain ⟨raw, hraw⟩ := List.exists_mem_of_ne_nil _ hne
  obtain ⟨ol, hol, -⟩ := (hwithin raw hraw).exists_line
  have hsource : ∀ id src, orderSource pms (db.orderLinesOf call.orderId) id = some src →
      src.Fits := fun id src h => orderSource_fits h
  have hraws : ∀ raw ∈ call.lines, ∃ src,
      orderSource pms (db.orderLinesOf call.orderId) raw.sourceLineId = some src ∧
        raw.itemId = src.itemId := by
    intro raw hraw
    obtain ⟨ol, hol, hid, hitem, -⟩ := (hwithin raw hraw).exists_line
    unfold orderSource
    rw [← hid, find?_orderLinesOf hol, ← hitem]
    refine ⟨_, rfl, ?_⟩
    unfold OrderLine.source
    split <;> rfl
  obtain ⟨lines, hlines, hfits⟩ : ∃ lines,
      normalizeSubmitLines .orderOutbound (orderSource pms (db.orderLinesOf call.orderId))
        call.lines = .ok lines ∧ ∀ l ∈ lines, (l.withLotCode db.books).Fits :=
    normalizeSubmitLines_succeeds hne hsource hraws db.books
  obtain ⟨-, hall, hrefs⟩ := normalizeSubmitLines_eq_ok hlines
  have hkeys := keys_normalized (w := call.warehouseId) hall hrefs
  have hchecks : checkOrderLines db order call lines = .ok () := by
    refine checkOrderLines_succeeds ?_
    intro l hl
    obtain ⟨n, hn, rfl⟩ := List.getElem_of_mem hl
    have hlen := hall.length_eq
    have hn' : n < call.lines.length := by omega
    exact checkOrderLine_succeeds (hall.get hn' hn) (hwithin _ (List.getElem_mem hn'))
      (hfree.of_lines hkeys _ hl)
  refine ⟨lines, ?_, hfits⟩
  unfold prepareOrderSubmit
  rw [hfind]
  simp only
  rw [if_neg (List.ne_nil_of_mem hol)]
  simp only [bind, Except.bind, hlines, hchecks]
  rfl

/-- A submission for an order goes through when its lines are within what remains of the
order, its slots hold enough, its keys are free and the texts it needs fit. -/
theorem submitOrderOutboundEvent_succeeds (pms : PmsClient) {call : OrderSubmitCall}
    {order : Order} {ref : Varchar 128} (hfind : db.findOrder call.orderId = some order)
    (hhead : (call.head order).Writable db) (hne : call.lines ≠ [])
    (hwithin : ∀ raw ∈ call.lines, WithinRemaining db call raw)
    (henough : ∀ k, takenFrom call.warehouseId call.lines k ≤ db.books.stock k)
    (href : Varchar.store 128 order.outboundRef = .ok ref)
    (hfree : KeysFree db.books order.outboundRef (shipKeys call.warehouseId call.lines))
    (htexts : OrderCompletedAfterSubmit db call → order.HandoffFits) :
    ∃ u db', (submitOrderOutboundEvent pms call).run db = .ok (u, db') := by
  obtain ⟨lines, hprep, hfits⟩ := prepareOrderSubmit_succeeds pms hfind hne hwithin hfree
  obtain ⟨-, -, hall, hrefs, -⟩ := prepareOrderSubmit_eq_ok hprep
  have hkeys := keys_normalized (w := call.warehouseId) hall hrefs
  obtain ⟨event, saved, db₁, hwrite⟩ := writeEventAndLedger_succeeds hhead href
    hfits (by rw [hrefs]; exact List.nodup_range' _)
    (fun k => by
      rw [linesFrom_normalized hall]
      exact henough k) (hfree.of_lines hkeys)
  unfold submitOrderOutboundEvent
  simp only [Tx.run_bind_ok, Tx.run_get_ok, Tx.run_ofExcept_ok]
  by_cases hdone : OrderCompletedAfterSubmit db call
  · obtain ⟨no, hno⟩ := (htexts hdone).docNo
    obtain ⟨payload, hpayload⟩ : ∃ payload,
        (order.handoffValues (db.warehouseNameSnapshot event.warehouseId) event saved).row =
          .ok payload := (htexts hdone).row_isOk _ _ _
    obtain ⟨db₂, hhand⟩ : ∃ db₂, (handOff .orderOutbound call.orderId order.sourceDocNo
        (order.handoffValues (db.warehouseNameSnapshot event.warehouseId) event saved)).run db₁ =
          .ok (⟨⟩, db₂) := handOff_succeeds hno hpayload
    refine ⟨(event, saved), db₂, db, db, ⟨rfl, rfl⟩, (order, lines), db, ⟨hprep, rfl⟩,
      (event, saved), db₁, hwrite, ?_⟩
    simp only [if_pos hdone]
    exact Tx.run_bind_ok.mpr ⟨⟨⟩, db₂, hhand, Tx.run_pure_ok.mpr ⟨rfl, rfl⟩⟩
  · refine ⟨(event, saved), db₁, db, db, ⟨rfl, rfl⟩, (order, lines), db, ⟨hprep, rfl⟩,
      (event, saved), db₁, hwrite, ?_⟩
    simp only [if_neg hdone]
    exact Tx.run_pure_ok.mpr ⟨rfl, rfl⟩

end Wms

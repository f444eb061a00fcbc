import Wms.Foundation.Table
import Wms.Foundation.Transaction
import Wms.Pms
import Wms.Text

/-!
# Events and their lines

Every committed movement of stock belongs to an event. The header rows are shared by
inbound, outbound and count events; inbound and outbound events have lines of their
own. The header table and the two line tables form one book, whose foreign keys and
unique keys hold by construction.
-/

namespace Wms

open Foundation

/-- `wms_events.event_type`. -/
inductive EventType
  | inbound
  | outbound
  | count
  deriving DecidableEq, Repr

/-- `wms_events.source_type`. -/
inductive SourceType
  | purchaseOrder
  | manual
  | return
  | transferIn
  | adjustIn
  | order
  | orderShip
  | internalOutbound
  | transferOut
  | scrap
  | adjustOut
  | countTask
  | manualCount
  deriving DecidableEq, Repr

/-- `wms_events.event_kind`. -/
inductive EventKind
  | commit
  | reversal
  | correction
  deriving DecidableEq, Repr

/-- `wms_events.status`. -/
inductive EventStatus
  | committed
  | voided
  | superseded
  deriving DecidableEq, Repr

/-- `WmsEvent`: a row of `wms_events`. -/
structure WmsEvent where
  id : ℕ
  eventNo : Varchar 64
  eventType : EventType
  warehouseId : ℕ
  sourceType : SourceType
  sourceRef : Option (Varchar 128)
  occurredAt : ℤ
  traceId : Varchar 128
  eventKind : EventKind
  targetEventId : Option ℕ
  status : EventStatus
  createdBy : Option ℕ
  remark : Option (Varchar 500)
  deriving DecidableEq

/-- `uq_wms_events_event_no` and `uq_wms_events_trace_id`, and the primary key. -/
def WmsEvent.Conflict (a b : WmsEvent) : Prop :=
  a.id = b.id ∨ a.eventNo = b.eventNo ∨ a.traceId = b.traceId

instance : DecidableRel WmsEvent.Conflict := fun _ _ => inferInstanceAs (Decidable (_ ∨ _))

/-- `OutboundEventLine`: a row of `outbound_event_lines` with its check constraints. -/
structure OutboundEventLine where
  eventId : ℕ
  refLine : ℕ
  itemId : ℕ
  qtyOutbound : ℤ
  lotId : ℕ
  lotCodeSnapshot : Option (Varchar 64)
  orderLineId : Option ℕ
  manualDocLineId : Option ℕ
  itemNameSnapshot : Option (Varchar 255)
  itemSkuSnapshot : Option (Varchar 128)
  itemSpecSnapshot : Option (Varchar 255)
  remark : Option (Varchar 255)
  /-- `ck_outbound_event_lines_qty_positive`. -/
  qty_pos : 0 < qtyOutbound
  /-- `ck_outbound_event_lines_source_oneof`. -/
  source_oneof : (orderLineId.isSome ∧ manualDocLineId = none) ∨
    (orderLineId = none ∧ manualDocLineId.isSome)

/-- `uq_outbound_event_lines_event_ref_line`. -/
def OutboundEventLine.Conflict (a b : OutboundEventLine) : Prop :=
  a.eventId = b.eventId ∧ a.refLine = b.refLine

instance : DecidableRel OutboundEventLine.Conflict := fun _ _ =>
  inferInstanceAs (Decidable (_ ∧ _))

/-- `InboundEventLine`: a row of `inbound_event_lines` with its check constraints. -/
structure InboundEventLine where
  eventId : ℕ
  lineNo : ℕ
  itemId : ℕ
  itemNameSnapshot : Option (Varchar 255)
  itemSpecSnapshot : Option (Varchar 255)
  actualUomId : ℕ
  actualUomNameSnapshot : Option (Varchar 64)
  barcodeInput : Option (Varchar 128)
  actualQtyInput : ℤ
  actualRatioToBaseSnapshot : ℤ
  qtyBase : ℤ
  lotCodeInput : Option (Varchar 128)
  productionDate : Option Date
  expiryDate : Option Date
  lotId : Option ℕ
  sourceLineId : Option ℕ
  remark : Option (Varchar 255)
  /-- `ck_inbound_event_lines_prod_le_exp`. -/
  prod_le_exp : ∀ pd ∈ productionDate, ∀ ed ∈ expiryDate, pd ≤ ed
  /-- `ck_inbound_event_lines_actual_ratio_positive`. -/
  ratio_pos : 1 ≤ actualRatioToBaseSnapshot
  /-- `ck_inbound_event_lines_actual_qty_input_positive`. -/
  qtyInput_pos : 1 ≤ actualQtyInput
  /-- `ck_inbound_event_lines_actual_qty_base_consistent`. -/
  qtyBase_eq : qtyBase = actualQtyInput * actualRatioToBaseSnapshot

/-- `uq_inbound_event_lines_event_line`. -/
def InboundEventLine.Conflict (a b : InboundEventLine) : Prop :=
  a.eventId = b.eventId ∧ a.lineNo = b.lineNo

instance : DecidableRel InboundEventLine.Conflict := fun _ _ =>
  inferInstanceAs (Decidable (_ ∧ _))

/-- The quantity of a stored inbound line is positive. -/
theorem InboundEventLine.qtyBase_pos (l : InboundEventLine) : 0 < l.qtyBase := by
  rw [l.qtyBase_eq]
  have hinput := l.qtyInput_pos
  have hratio := l.ratio_pos
  exact Int.mul_pos (by omega) (by omega)

/-- The event tables. -/
structure EventBook where
  events : Table WmsEvent WmsEvent.Conflict
  outboundLines : Table OutboundEventLine OutboundEventLine.Conflict
  inboundLines : Table InboundEventLine InboundEventLine.Conflict
  /-- An outbound line belongs to an event. -/
  outbound_fk : ∀ l ∈ outboundLines.rows, l.eventId ∈ events.rows.map WmsEvent.id
  /-- An inbound line belongs to an event. -/
  inbound_fk : ∀ l ∈ inboundLines.rows, l.eventId ∈ events.rows.map WmsEvent.id

namespace EventBook

/-- Tables without rows. -/
def empty : EventBook :=
  ⟨.empty, .empty, .empty, fun _ h => absurd h List.not_mem_nil, fun _ h => absurd h List.not_mem_nil⟩

/-- The identifiers that a reference to an event may use. -/
def ids (eb : EventBook) : List ℕ := eb.events.rows.map WmsEvent.id

/-- The stored event with an identifier. -/
def findEvent (eb : EventBook) (id : ℕ) : Option WmsEvent :=
  eb.events.rows.find? fun e => e.id = id

/-- The outbound lines of an event in the order of their line numbers. -/
def outboundLinesOf (eb : EventBook) (eventId : ℕ) : List OutboundEventLine :=
  (eb.outboundLines.rows.filter fun l => l.eventId = eventId).insertionSort
    fun a b => a.refLine ≤ b.refLine

/-- The inbound lines of an event in the order of their line numbers. -/
def inboundLinesOf (eb : EventBook) (eventId : ℕ) : List InboundEventLine :=
  (eb.inboundLines.rows.filter fun l => l.eventId = eventId).insertionSort
    fun a b => a.lineNo ≤ b.lineNo

/-- Store an event that the table accepts. -/
def putEvent (eb : EventBook) (t : Table WmsEvent WmsEvent.Conflict)
    (h : ∀ i ∈ eb.ids, i ∈ t.rows.map WmsEvent.id) : EventBook where
  events := t
  outboundLines := eb.outboundLines
  inboundLines := eb.inboundLines
  outbound_fk l hl := h _ (eb.outbound_fk l hl)
  inbound_fk l hl := h _ (eb.inbound_fk l hl)

/-- Add an event that the table accepts. -/
def addEvent (eb : EventBook) {e : WmsEvent} {t : Table WmsEvent WmsEvent.Conflict}
    (ht : eb.events.insert e = some t) : EventBook :=
  eb.putEvent t fun i hi => by
    rw [(Table.insert_eq_some.mp ht).2, List.map_append]
    exact List.mem_append_left _ hi

/-- Add an outbound line of a stored event. -/
def addOutboundLine (eb : EventBook) {l : OutboundEventLine}
    {t : Table OutboundEventLine OutboundEventLine.Conflict}
    (ht : eb.outboundLines.insert l = some t) (h : l.eventId ∈ eb.ids) : EventBook :=
  { eb with
    outboundLines := t
    outbound_fk := by
      intro l' hl'
      rw [(Table.insert_eq_some.mp ht).2, List.mem_append, List.mem_singleton] at hl'
      rcases hl' with hold | rfl
      · exact eb.outbound_fk l' hold
      · exact h }

/-- Add an inbound line of a stored event. -/
def addInboundLine (eb : EventBook) {l : InboundEventLine}
    {t : Table InboundEventLine InboundEventLine.Conflict}
    (ht : eb.inboundLines.insert l = some t) (h : l.eventId ∈ eb.ids) : EventBook :=
  { eb with
    inboundLines := t
    inbound_fk := by
      intro l' hl'
      rw [(Table.insert_eq_some.mp ht).2, List.mem_append, List.mem_singleton] at hl'
      rcases hl' with hold | rfl
      · exact eb.inbound_fk l' hold
      · exact h }

/-- The lines of an event that is not there do not exist. -/
theorem outboundLinesOf_eq_nil {eb : EventBook} {id : ℕ} (h : id ∉ eb.ids) :
    eb.outboundLines.rows.filter (fun l => l.eventId = id) = [] := by
  rw [List.filter_eq_nil_iff]
  intro l hl heq
  have hmem := eb.outbound_fk l hl
  rw [of_decide_eq_true heq] at hmem
  exact h hmem

/-- The outbound lines of an event have different numbers. -/
theorem outboundLinesOf_apart (eb : EventBook) (eventId : ℕ) :
    (eb.outboundLinesOf eventId).Pairwise fun a b => a.refLine ≠ b.refLine := by
  unfold outboundLinesOf
  refine (List.perm_insertionSort _ _).symm.pairwise ?_ fun h heq => h heq.symm
  refine (List.pairwise_filter.mpr ?_)
  refine eb.outboundLines.unique.imp ?_
  intro a b hab ha hb heq
  exact hab ⟨(of_decide_eq_true ha).trans (of_decide_eq_true hb).symm, heq⟩

/-- The inbound lines of an event have different numbers. -/
theorem inboundLinesOf_apart (eb : EventBook) (eventId : ℕ) :
    (eb.inboundLinesOf eventId).Pairwise fun a b => a.lineNo ≠ b.lineNo := by
  unfold inboundLinesOf
  refine (List.perm_insertionSort _ _).symm.pairwise ?_ fun h heq => h heq.symm
  refine (List.pairwise_filter.mpr ?_)
  refine eb.inboundLines.unique.imp ?_
  intro a b hab ha hb heq
  exact hab ⟨(of_decide_eq_true ha).trans (of_decide_eq_true hb).symm, heq⟩

end EventBook

/-- The values of an event before the columns of the table are applied. -/
structure EventValues where
  eventNo : String
  eventType : EventType
  warehouseId : ℕ
  sourceType : SourceType
  sourceRef : Option String
  occurredAt : ℤ
  traceId : String
  eventKind : EventKind
  targetEventId : Option ℕ
  createdBy : Option ℕ
  remark : Option String

/-- Fit the values of a committed event into the columns of `wms_events`. -/
def EventValues.row (v : EventValues) (id : ℕ) : Except Err WmsEvent := do
  let eventNo ← Varchar.store 64 v.eventNo
  let sourceRef ← Varchar.store? 128 v.sourceRef
  let traceId ← Varchar.store 128 v.traceId
  let remark ← Varchar.store? 500 v.remark
  return {
    id := id, eventNo := eventNo, eventType := v.eventType, warehouseId := v.warehouseId
    sourceType := v.sourceType, sourceRef := sourceRef, occurredAt := v.occurredAt
    traceId := traceId, eventKind := v.eventKind, targetEventId := v.targetEventId
    status := .committed, createdBy := v.createdBy, remark := remark }

/-- Insert a committed event under a new identifier. -/
def insertEvent (v : EventValues) : Tx EventBook Err WmsEvent := do
  let eb ← get
  let e ← Tx.ofExcept (v.row (nextId eb.ids))
  match h : eb.events.insert e with
  | none => throw (.integrityError "uq_wms_events")
  | some _ => do
    Tx.failIf (¬∀ i ∈ e.targetEventId, i ∈ eb.ids) (.integrityError "fk_wms_events_target_event")
    set (eb.addEvent h)
    return e

/-- The values of an outbound line before the columns and checks are applied. -/
structure OutboundLineValues where
  refLine : ℕ
  itemId : ℕ
  qtyOutbound : ℤ
  lotId : ℕ
  lotCodeSnapshot : Option String
  orderLineId : Option ℕ
  manualDocLineId : Option ℕ
  itemNameSnapshot : Option String
  itemSkuSnapshot : Option String
  itemSpecSnapshot : Option String
  remark : Option String

/-- Fit the values into the columns of `outbound_event_lines` and apply its checks. -/
def OutboundLineValues.row (v : OutboundLineValues) (eventId : ℕ) :
    Except Err OutboundEventLine := do
  let lotCode ← Varchar.store? 64 v.lotCodeSnapshot
  let itemName ← Varchar.store? 255 v.itemNameSnapshot
  let itemSku ← Varchar.store? 128 v.itemSkuSnapshot
  let itemSpec ← Varchar.store? 255 v.itemSpecSnapshot
  let remark ← Varchar.store? 255 v.remark
  if hqty : 0 < v.qtyOutbound then
    if hsource : (v.orderLineId.isSome ∧ v.manualDocLineId = none) ∨
        (v.orderLineId = none ∧ v.manualDocLineId.isSome) then
      return {
        eventId := eventId, refLine := v.refLine, itemId := v.itemId
        qtyOutbound := v.qtyOutbound, lotId := v.lotId, lotCodeSnapshot := lotCode
        orderLineId := v.orderLineId, manualDocLineId := v.manualDocLineId
        itemNameSnapshot := itemName, itemSkuSnapshot := itemSku, itemSpecSnapshot := itemSpec
        remark := remark, qty_pos := hqty, source_oneof := hsource }
    else .error (.integrityError "ck_outbound_event_lines_source_oneof")
  else .error (.integrityError "ck_outbound_event_lines_qty_positive")

/-- Insert a line of an outbound event. -/
def insertOutboundLine (eventId : ℕ) (v : OutboundLineValues) :
    Tx EventBook Err OutboundEventLine := do
  let l ← Tx.ofExcept (v.row eventId)
  let eb ← get
  match ht : eb.outboundLines.insert l with
  | none => throw (.integrityError "uq_outbound_event_lines_event_ref_line")
  | some _ =>
    if h : l.eventId ∈ eb.ids then do
      set (eb.addOutboundLine ht h)
      return l
    else throw (.integrityError "fk_outbound_event_lines_event")

/-- The values of an inbound line before the columns and checks are applied. -/
structure InboundLineValues where
  lineNo : ℕ
  itemId : ℕ
  itemNameSnapshot : Option String
  itemSpecSnapshot : Option String
  actualUomId : ℕ
  actualUomNameSnapshot : Option String
  barcodeInput : Option String
  actualQtyInput : ℤ
  actualRatioToBaseSnapshot : ℤ
  qtyBase : ℤ
  lotCodeInput : Option String
  productionDate : Option Date
  expiryDate : Option Date
  lotId : Option ℕ
  sourceLineId : Option ℕ
  remark : Option String

/-- Fit the values into the columns of `inbound_event_lines` and apply its checks. -/
def InboundLineValues.row (v : InboundLineValues) (eventId : ℕ) :
    Except Err InboundEventLine := do
  let itemName ← Varchar.store? 255 v.itemNameSnapshot
  let itemSpec ← Varchar.store? 255 v.itemSpecSnapshot
  let uomName ← Varchar.store? 64 v.actualUomNameSnapshot
  let barcode ← Varchar.store? 128 v.barcodeInput
  let lotCode ← Varchar.store? 128 v.lotCodeInput
  let remark ← Varchar.store? 255 v.remark
  if h : (∀ pd ∈ v.productionDate, ∀ ed ∈ v.expiryDate, pd ≤ ed) ∧
      1 ≤ v.actualRatioToBaseSnapshot ∧ 1 ≤ v.actualQtyInput ∧
      v.qtyBase = v.actualQtyInput * v.actualRatioToBaseSnapshot then
    return {
      eventId := eventId, lineNo := v.lineNo, itemId := v.itemId, itemNameSnapshot := itemName
      itemSpecSnapshot := itemSpec, actualUomId := v.actualUomId
      actualUomNameSnapshot := uomName, barcodeInput := barcode
      actualQtyInput := v.actualQtyInput
      actualRatioToBaseSnapshot := v.actualRatioToBaseSnapshot, qtyBase := v.qtyBase
      lotCodeInput := lotCode, productionDate := v.productionDate, expiryDate := v.expiryDate
      lotId := v.lotId, sourceLineId := v.sourceLineId, remark := remark
      prod_le_exp := h.1, ratio_pos := h.2.1, qtyInput_pos := h.2.2.1, qtyBase_eq := h.2.2.2 }
  else .error (.integrityError "ck_inbound_event_lines")

/-- Insert a line of an inbound event. -/
def insertInboundLine (eventId : ℕ) (v : InboundLineValues) :
    Tx EventBook Err InboundEventLine := do
  let l ← Tx.ofExcept (v.row eventId)
  let eb ← get
  match ht : eb.inboundLines.insert l with
  | none => throw (.integrityError "uq_inbound_event_lines_event_line")
  | some _ =>
    if h : l.eventId ∈ eb.ids then do
      set (eb.addInboundLine ht h)
      return l
    else throw (.integrityError "fk_inbound_event_lines_event")

/-- `mark_outbound_event_superseded` and `mark_inbound_event_superseded`: a row that is
no longer committed is left as it is. -/
def WmsEvent.supersede (eventType : EventType) (eventId : ℕ) (e : WmsEvent) : WmsEvent :=
  if e.id = eventId ∧ e.eventType = eventType ∧ e.eventKind = .commit ∧ e.status = .committed then
    { e with status := .superseded }
  else e

theorem WmsEvent.supersede_keeps (eventType : EventType) (eventId : ℕ) (e : WmsEvent) :
    (e.supersede eventType eventId).id = e.id ∧
      (e.supersede eventType eventId).eventNo = e.eventNo ∧
      (e.supersede eventType eventId).traceId = e.traceId := by
  unfold WmsEvent.supersede
  split <;> exact ⟨rfl, rfl, rfl⟩

/-- The event book after the mark. -/
def EventBook.markSuperseded (eb : EventBook) (eventType : EventType) (eventId : ℕ) : EventBook :=
  eb.putEvent
    (eb.events.map (WmsEvent.supersede eventType eventId) fun a b h => by
      unfold WmsEvent.Conflict at h ⊢
      rwa [(a.supersede_keeps eventType eventId).1, (b.supersede_keeps eventType eventId).1,
        (a.supersede_keeps eventType eventId).2.1, (b.supersede_keeps eventType eventId).2.1,
        (a.supersede_keeps eventType eventId).2.2, (b.supersede_keeps eventType eventId).2.2]
        at h)
    fun i hi => by
      rw [Table.rows_map, List.map_map]
      obtain ⟨e, he, rfl⟩ := List.mem_map.mp hi
      exact List.mem_map.mpr ⟨e, he, (e.supersede_keeps eventType eventId).1⟩

/-! ## What the statements do -/

variable {eb eb' : EventBook}

/-- Marking an event as superseded keeps the identifiers of the events. -/
@[simp] theorem EventBook.ids_markSuperseded (eventType : EventType) (eventId : ℕ) :
    (eb.markSuperseded eventType eventId).ids = eb.ids := by
  unfold EventBook.ids EventBook.markSuperseded EventBook.putEvent
  rw [Table.rows_map, List.map_map]
  exact List.map_congr_left fun e _ => (e.supersede_keeps eventType eventId).1

theorem EventValues.row_eq_ok {v : EventValues} {id : ℕ} {e : WmsEvent} (h : v.row id = .ok e) :
    e.id = id ∧ e.eventType = v.eventType ∧ e.warehouseId = v.warehouseId ∧
      e.eventKind = v.eventKind ∧ e.targetEventId = v.targetEventId ∧ e.status = .committed ∧
      Varchar.store 64 v.eventNo = .ok e.eventNo ∧
      Varchar.store? 128 v.sourceRef = .ok e.sourceRef ∧
      Varchar.store 128 v.traceId = .ok e.traceId := by
  unfold EventValues.row at h
  simp only [bind, Except.bind] at h
  split at h
  · cases h
  · rename_i eventNo heventNo
    split at h
    · cases h
    · rename_i sourceRef hsourceRef
      split at h
      · cases h
      · rename_i traceId htraceId
        split at h
        · cases h
        · cases h
          exact ⟨rfl, rfl, rfl, rfl, rfl, rfl, heventNo, hsourceRef, htraceId⟩

/-- An inserted event has a new identifier and becomes the last row. -/
theorem insertEvent_run_ok {v : EventValues} {e : WmsEvent}
    (h : (insertEvent v).run eb = .ok (e, eb')) :
    v.row (nextId eb.ids) = .ok e ∧ (∀ a ∈ eb.events.rows, ¬a.Conflict e) ∧
      eb'.events.rows = eb.events.rows ++ [e] ∧ eb'.outboundLines = eb.outboundLines ∧
      eb'.inboundLines = eb.inboundLines := by
  unfold insertEvent at h
  simp only [Tx.run_bind_ok, Tx.run_get_ok, Tx.run_ofExcept_ok] at h
  obtain ⟨_, _, ⟨rfl, rfl⟩, e', _, ⟨hrow, rfl⟩, hrest⟩ := h
  split at hrest
  · exact (Tx.run_throw_ok.mp hrest).elim
  · rename_i t ht
    simp only [Tx.run_bind_ok, Tx.run_failIf_ok, Tx.run_set_ok, Tx.run_pure_ok] at hrest
    obtain ⟨_, _, ⟨-, rfl⟩, _, _, rfl, rfl, rfl⟩ := hrest
    obtain ⟨hfree, hrows⟩ := Table.insert_eq_some.mp ht
    exact ⟨hrow, hfree, hrows, rfl, rfl⟩

/-- An event whose values fit and whose number and trace are new is inserted. -/
theorem insertEvent_succeeds {v : EventValues} {e : WmsEvent}
    (hrow : v.row (nextId eb.ids) = .ok e) (hfree : ∀ a ∈ eb.events.rows, ¬a.Conflict e)
    (htarget : ∀ i ∈ v.targetEventId, i ∈ eb.ids) :
    ∃ eb', (insertEvent v).run eb = .ok (e, eb') := by
  obtain ⟨t, ht⟩ : ∃ t, eb.events.insert e = some t := by
    unfold Table.insert
    rw [dif_pos hfree]
    exact ⟨_, rfl⟩
  have htarget' : ¬¬∀ i ∈ e.targetEventId, i ∈ eb.ids := by
    rw [(EventValues.row_eq_ok hrow).2.2.2.2.1]
    exact not_not.mpr htarget
  unfold insertEvent
  simp only [Tx.run_bind_ok, Tx.run_get_ok, Tx.run_ofExcept_ok]
  refine ⟨eb.addEvent ht, eb, eb, ⟨rfl, rfl⟩, e, eb, ⟨hrow, rfl⟩, ?_⟩
  split
  · rename_i hnone
    rw [ht] at hnone
    cases hnone
  · rename_i t' ht'
    obtain rfl : t = t' := by
      rw [ht] at ht'
      exact Option.some.inj ht'
    simp only [Tx.run_bind_ok, Tx.run_failIf_ok, Tx.run_set_ok, Tx.run_pure_ok]
    exact ⟨⟨⟩, eb, ⟨htarget', rfl⟩, ⟨⟩, _, rfl, trivial, rfl⟩

theorem OutboundLineValues.row_eq_ok {v : OutboundLineValues} {eventId : ℕ}
    {l : OutboundEventLine} (h : v.row eventId = .ok l) :
    l.eventId = eventId ∧ l.refLine = v.refLine ∧ l.itemId = v.itemId ∧
      l.qtyOutbound = v.qtyOutbound ∧ l.lotId = v.lotId ∧ l.orderLineId = v.orderLineId ∧
      l.manualDocLineId = v.manualDocLineId := by
  unfold OutboundLineValues.row at h
  simp only [bind, Except.bind] at h
  repeat' split at h
  all_goals cases h
  exact ⟨rfl, rfl, rfl, rfl, rfl, rfl, rfl⟩

/-- An inserted outbound line becomes the last row. -/
theorem insertOutboundLine_run_ok {eventId : ℕ} {v : OutboundLineValues} {l : OutboundEventLine}
    (h : (insertOutboundLine eventId v).run eb = .ok (l, eb')) :
    v.row eventId = .ok l ∧ (∀ a ∈ eb.outboundLines.rows, ¬a.Conflict l) ∧
      eb'.outboundLines.rows = eb.outboundLines.rows ++ [l] ∧ eb'.events = eb.events ∧
      eb'.inboundLines = eb.inboundLines := by
  unfold insertOutboundLine at h
  simp only [Tx.run_bind_ok, Tx.run_get_ok, Tx.run_ofExcept_ok] at h
  obtain ⟨l', _, ⟨hrow, rfl⟩, _, _, ⟨rfl, rfl⟩, hrest⟩ := h
  split at hrest
  · exact (Tx.run_throw_ok.mp hrest).elim
  · rename_i t ht
    split at hrest
    · simp only [Tx.run_bind_ok, Tx.run_set_ok, Tx.run_pure_ok] at hrest
      obtain ⟨_, _, rfl, rfl, rfl⟩ := hrest
      obtain ⟨hfree, hrows⟩ := Table.insert_eq_some.mp ht
      exact ⟨hrow, hfree, hrows, rfl, rfl⟩
    · exact (Tx.run_throw_ok.mp hrest).elim

/-- A line of a stored event whose number is new is inserted. -/
theorem insertOutboundLine_succeeds {eventId : ℕ} {v : OutboundLineValues}
    {l : OutboundEventLine} (hrow : v.row eventId = .ok l)
    (hfree : ∀ a ∈ eb.outboundLines.rows, ¬a.Conflict l) (hevent : eventId ∈ eb.ids) :
    ∃ eb', (insertOutboundLine eventId v).run eb = .ok (l, eb') := by
  obtain ⟨t, ht⟩ : ∃ t, eb.outboundLines.insert l = some t := by
    unfold Table.insert
    rw [dif_pos hfree]
    exact ⟨_, rfl⟩
  have hevent' : l.eventId ∈ eb.ids := by rwa [(OutboundLineValues.row_eq_ok hrow).1]
  unfold insertOutboundLine
  simp only [Tx.run_bind_ok, Tx.run_get_ok, Tx.run_ofExcept_ok]
  refine ⟨eb.addOutboundLine ht hevent', l, eb, ⟨hrow, rfl⟩, eb, eb, ⟨rfl, rfl⟩, ?_⟩
  split
  · rename_i hnone
    rw [ht] at hnone
    cases hnone
  · rename_i t' ht'
    obtain rfl : t = t' := by
      rw [ht] at ht'
      exact Option.some.inj ht'
    rw [dif_pos hevent']
    simp only [Tx.run_bind_ok, Tx.run_set_ok, Tx.run_pure_ok]
    exact ⟨⟨⟩, _, rfl, trivial, rfl⟩

theorem InboundLineValues.row_eq_ok {v : InboundLineValues} {eventId : ℕ}
    {l : InboundEventLine} (h : v.row eventId = .ok l) :
    l.eventId = eventId ∧ l.lineNo = v.lineNo ∧ l.itemId = v.itemId ∧ l.qtyBase = v.qtyBase ∧
      l.lotId = v.lotId := by
  unfold InboundLineValues.row at h
  simp only [bind, Except.bind] at h
  repeat' split at h
  all_goals cases h
  exact ⟨rfl, rfl, rfl, rfl, rfl⟩

/-- An inserted inbound line becomes the last row. -/
theorem insertInboundLine_run_ok {eventId : ℕ} {v : InboundLineValues} {l : InboundEventLine}
    (h : (insertInboundLine eventId v).run eb = .ok (l, eb')) :
    v.row eventId = .ok l ∧ eb'.inboundLines.rows = eb.inboundLines.rows ++ [l] ∧
      eb'.events = eb.events ∧ eb'.outboundLines = eb.outboundLines := by
  unfold insertInboundLine at h
  simp only [Tx.run_bind_ok, Tx.run_get_ok, Tx.run_ofExcept_ok] at h
  obtain ⟨l', _, ⟨hrow, rfl⟩, _, _, ⟨rfl, rfl⟩, hrest⟩ := h
  split at hrest
  · exact (Tx.run_throw_ok.mp hrest).elim
  · rename_i t ht
    split at hrest
    · simp only [Tx.run_bind_ok, Tx.run_set_ok, Tx.run_pure_ok] at hrest
      obtain ⟨_, _, rfl, rfl, rfl⟩ := hrest
      exact ⟨hrow, (Table.insert_eq_some.mp ht).2, rfl, rfl⟩
    · exact (Tx.run_throw_ok.mp hrest).elim

end Wms

import Wms.Outbound.Accepted
import Wms.Reversal

/-!
# Shipped quantities

How much has been shipped of a line of an order or of a manual document can be read off
the event lines in two ways: over all lines, as the progress queries do, or over the
lines of committed events. This file says how a submission and a reversal change the two
sums. Whether the line belongs to an order or to a manual document is a parameter.
-/

namespace Wms

open Foundation

/-! ## Sums over event lines -/

/-- The quantity of the lines that ship the given line of a document. -/
def lineQty (source : OutboundEventLine → Option ℕ) (ls : List OutboundEventLine) (id : ℕ) : ℤ :=
  ((ls.filter fun l => source l = some id).map OutboundEventLine.qtyOutbound).sum

section

variable {source : OutboundEventLine → Option ℕ} {ls ls' : List OutboundEventLine} {id : ℕ}

@[simp] theorem lineQty_append :
    lineQty source (ls ++ ls') id = lineQty source ls id + lineQty source ls' id := by
  simp [lineQty]

theorem lineQty_perm (h : ls.Perm ls') : lineQty source ls id = lineQty source ls' id :=
  ((h.filter _).map _).sum_eq

theorem lineQty_nonneg : 0 ≤ lineQty source ls id := by
  refine List.sum_nonneg ?_
  intro q hq
  obtain ⟨l, -, rfl⟩ := List.mem_map.mp hq
  exact l.qty_pos.le

/-- A part of the lines ships at most what all of them ship. -/
theorem lineQty_le_of_sublist (h : ls.Sublist ls') :
    lineQty source ls id ≤ lineQty source ls' id := by
  refine ((h.filter _).map _).sum_le_sum ?_
  intro q hq
  obtain ⟨l, -, rfl⟩ := List.mem_map.mp hq
  exact l.qty_pos.le

/-- Lines that correspond to each other in source and quantity ship the same. -/
theorem lineQty_congr
    (h : List.Forall₂ (fun l l' => source l' = source l ∧ l'.qtyOutbound = l.qtyOutbound) ls ls') :
    lineQty source ls' id = lineQty source ls id := by
  unfold lineQty
  induction h with
  | nil => rfl
  | @cons l l' ls ls' hline _ ih =>
    obtain ⟨hsource, hqty⟩ := hline
    by_cases hid : source l = some id
    · simp [hsource, hid, hqty, ih]
    · simp [hsource, hid, ih]

end

theorem submittedQty_eq (eb : EventBook) (id : ℕ) :
    eb.submittedQty id = lineQty OutboundEventLine.orderLineId eb.outboundLines.rows id := rfl

theorem submittedManualQty_eq (eb : EventBook) (id : ℕ) :
    eb.submittedManualQty id =
      lineQty OutboundEventLine.manualDocLineId eb.outboundLines.rows id := rfl

/-- What the event lines of an order submission ship of an order line. -/
theorem lineQty_saved_order {raws : List SubmitLineIn} {saved : List OutboundEventLine}
    (h : List.Forall₂ (Saves .orderOutbound) raws saved) (id : ℕ) :
    lineQty OutboundEventLine.orderLineId saved id = submittedDelta raws id :=
  sum_saved_order h id

/-- What the event lines of a manual submission ship of a manual line. -/
theorem lineQty_saved_manual {raws : List SubmitLineIn} {saved : List OutboundEventLine}
    (h : List.Forall₂ (Saves .manualOutbound) raws saved) (id : ℕ) :
    lineQty OutboundEventLine.manualDocLineId saved id = submittedDelta raws id :=
  sum_saved_manual h id

/-- The event lines of a submission of the other kind ship nothing of the line. -/
theorem lineQty_eq_zero {source : OutboundEventLine → Option ℕ} {ls : List OutboundEventLine}
    {id : ℕ} (h : ∀ l ∈ ls, source l ≠ some id) : lineQty source ls id = 0 := by
  unfold lineQty
  have hnone : (ls.filter fun l => source l = some id) = [] := by simpa using h
  rw [hnone]
  rfl

/-! ## Lines of committed events -/

namespace EventBook

/-- The event is stored and committed. -/
def Committed (eb : EventBook) (eventId : ℕ) : Prop :=
  ∃ e ∈ eb.events.rows, e.id = eventId ∧ e.status = .committed

instance (eb : EventBook) (eventId : ℕ) : Decidable (eb.Committed eventId) :=
  inferInstanceAs (Decidable (∃ e ∈ eb.events.rows, _))

/-- The outbound lines of committed events. -/
def committedLines (eb : EventBook) : List OutboundEventLine :=
  eb.outboundLines.rows.filter fun l => eb.Committed l.eventId

/-- The quantity that committed events ship of a line of a document. -/
def committedQty (eb : EventBook) (source : OutboundEventLine → Option ℕ) (id : ℕ) : ℤ :=
  lineQty source eb.committedLines id

variable {eb eb' : EventBook} {source : OutboundEventLine → Option ℕ} {id : ℕ}

/-- The lines of committed events are among all lines. -/
theorem committedQty_le (eb : EventBook) (source : OutboundEventLine → Option ℕ) (id : ℕ) :
    eb.committedQty source id ≤ lineQty source eb.outboundLines.rows id :=
  lineQty_le_of_sublist List.filter_sublist

/-- Stored events with one identifier are the same event. -/
theorem eq_of_id_eq {e e' : WmsEvent} (he : e ∈ eb.events.rows) (he' : e' ∈ eb.events.rows)
    (hid : e.id = e'.id) : e = e' := by
  have hfind : ∀ a ∈ eb.events.rows, eb.findEvent a.id = some a := fun a ha =>
    eb.events.find?_eq_some ha (by simp) fun b hb => Or.inl (by simpa using hb)
  have hsome := hfind e he
  rw [hid, hfind e' he'] at hsome
  exact (Option.some.inj hsome).symm

/-- New events do not change which of the old ones are committed. -/
theorem committed_of_append {es : List WmsEvent} {i : ℕ}
    (hevents : eb'.events.rows = eb.events.rows ++ es) (hi : i ∈ eb.ids) :
    eb'.Committed i ↔ eb.Committed i := by
  obtain ⟨e₀, he₀, hid₀⟩ := List.mem_map.mp hi
  have hmem₀ : e₀ ∈ eb'.events.rows := by
    rw [hevents]
    exact List.mem_append_left _ he₀
  constructor
  · rintro ⟨e, he, hid, hstatus⟩
    have heq := eq_of_id_eq hmem₀ he (hid₀.trans hid.symm)
    exact ⟨e₀, he₀, hid₀, by rw [heq]; exact hstatus⟩
  · rintro ⟨e, he, hid, hstatus⟩
    exact ⟨e, by rw [hevents]; exact List.mem_append_left _ he, hid, hstatus⟩

/-- New lines of committed events join the old lines of committed events. -/
theorem committedLines_append {es : List WmsEvent} {ls : List OutboundEventLine}
    (hevents : eb'.events.rows = eb.events.rows ++ es)
    (hlines : eb'.outboundLines.rows = eb.outboundLines.rows ++ ls)
    (hcommitted : ∀ l ∈ ls, eb'.Committed l.eventId) :
    eb'.committedLines = eb.committedLines ++ ls := by
  unfold committedLines
  rw [hlines, List.filter_append]
  congr 1
  · refine List.filter_congr ?_
    intro l hl
    exact decide_eq_decide.mpr (committed_of_append hevents (eb.outbound_fk l hl))
  · rw [List.filter_eq_self]
    intro l hl
    exact decide_eq_true (hcommitted l hl)

/-- A superseded event is the only one that is no longer committed. -/
theorem committed_markSuperseded {e : WmsEvent} (he : e ∈ eb.events.rows)
    (hkind : e.eventKind = .commit) {i : ℕ} :
    (eb.markSuperseded e.eventType e.id).Committed i ↔ eb.Committed i ∧ i ≠ e.id := by
  unfold Committed
  change (∃ a ∈ eb.events.rows.map (WmsEvent.supersede e.eventType e.id), _) ↔ _
  constructor
  · rintro ⟨a, ha, hid, hstatus⟩
    obtain ⟨a₀, ha₀, rfl⟩ := List.mem_map.mp ha
    rw [(a₀.supersede_keeps _ _).1] at hid
    have hother : a₀.id ≠ e.id := by
      intro heq
      obtain rfl := eq_of_id_eq ha₀ he heq
      unfold WmsEvent.supersede at hstatus
      split at hstatus
      · cases hstatus
      · rename_i hnot
        exact hnot ⟨rfl, rfl, hkind, hstatus⟩
    refine ⟨⟨a₀, ha₀, hid, ?_⟩, by rw [← hid]; exact hother⟩
    rw [WmsEvent.supersede, if_neg fun h => hother h.1] at hstatus
    exact hstatus
  · rintro ⟨⟨a, ha, hid, hstatus⟩, hne⟩
    refine ⟨_, List.mem_map_of_mem ha, (a.supersede_keeps _ _).1.trans hid, ?_⟩
    rw [WmsEvent.supersede, if_neg fun h => hne (hid.symm.trans h.1)]
    exact hstatus

/-- Superseding a committed event takes its lines out. -/
theorem committedQty_markSuperseded {e : WmsEvent} (he : e ∈ eb.events.rows)
    (hkind : e.eventKind = .commit) (hstatus : e.status = .committed) :
    (eb.markSuperseded e.eventType e.id).committedQty source id +
      lineQty source (eb.outboundLinesOf e.id) id = eb.committedQty source id := by
  have hmine : (eb.markSuperseded e.eventType e.id).committedLines =
      eb.committedLines.filter fun l => ¬l.eventId = e.id := by
    unfold committedLines
    rw [List.filter_filter]
    refine List.filter_congr ?_
    intro l _
    rw [← Bool.decide_and]
    refine decide_eq_decide.mpr ?_
    rw [committed_markSuperseded he hkind]
    exact and_comm
  have hof : lineQty source (eb.outboundLinesOf e.id) id =
      lineQty source (eb.committedLines.filter fun l => l.eventId = e.id) id := by
    unfold outboundLinesOf committedLines
    rw [lineQty_perm (List.perm_insertionSort _ _), List.filter_filter]
    congr 1
    refine List.filter_congr ?_
    intro l _
    rw [← Bool.decide_and]
    refine decide_eq_decide.mpr ⟨fun h => ⟨h, e, he, h.symm, hstatus⟩, fun h => h.1⟩
  have hsplit : (eb.committedLines.filter (fun l => ¬l.eventId = e.id) ++
      eb.committedLines.filter fun l => l.eventId = e.id).Perm eb.committedLines := by
    have hperm := List.filter_append_perm (fun l : OutboundEventLine => decide (l.eventId = e.id))
      eb.committedLines
    refine (List.perm_append_comm.trans ?_).trans hperm
    refine List.Perm.append_left _ ?_
    rw [List.filter_congr fun l _ => decide_not]
  unfold committedQty
  rw [hmine, hof, ← lineQty_append, lineQty_perm hsplit]

end EventBook

/-! ## How the event tables change -/

/-- Events were added, and outbound lines of committed outbound events. -/
structure Appends (eb : EventBook) (ls : List OutboundEventLine) (eb' : EventBook) : Prop where
  events_eq : ∃ es, eb'.events.rows = eb.events.rows ++ es
  lines_eq : eb'.outboundLines.rows = eb.outboundLines.rows ++ ls
  lines_event : ∀ l ∈ ls, ∃ e ∈ eb'.events.rows,
    e.id = l.eventId ∧ e.eventType = .outbound ∧ e.status = .committed

/-- Every outbound line belongs to an outbound event. -/
def EventBook.Typed (eb : EventBook) : Prop :=
  ∀ l ∈ eb.outboundLines.rows, ∃ e ∈ eb.events.rows, e.id = l.eventId ∧ e.eventType = .outbound

namespace Appends

variable {eb eb' : EventBook} {ls : List OutboundEventLine}
  {source : OutboundEventLine → Option ℕ} {id : ℕ}

theorem of_eq {es : List WmsEvent} (hevents : eb'.events.rows = eb.events.rows ++ es)
    (hlines : eb'.outboundLines = eb.outboundLines) : Appends eb [] eb' :=
  ⟨⟨es, hevents⟩, by rw [hlines, List.append_nil], by simp⟩

theorem refl (eb : EventBook) : Appends eb [] eb :=
  ⟨⟨[], by rw [List.append_nil]⟩, by rw [List.append_nil], by simp⟩

theorem submittedQty (h : Appends eb ls eb') :
    lineQty source eb'.outboundLines.rows id =
      lineQty source eb.outboundLines.rows id + lineQty source ls id := by
  rw [h.lines_eq, lineQty_append]

theorem committedQty (h : Appends eb ls eb') :
    eb'.committedQty source id = eb.committedQty source id + lineQty source ls id := by
  obtain ⟨es, hevents⟩ := h.events_eq
  have hcommitted : ∀ l ∈ ls, eb'.Committed l.eventId := by
    intro l hl
    obtain ⟨e, he, hid, -, hstatus⟩ := h.lines_event l hl
    exact ⟨e, he, hid, hstatus⟩
  unfold EventBook.committedQty
  rw [EventBook.committedLines_append hevents h.lines_eq hcommitted, lineQty_append]

theorem typed (h : Appends eb ls eb') (htyped : eb.Typed) : eb'.Typed := by
  intro l hl
  rw [h.lines_eq] at hl
  rcases List.mem_append.mp hl with hold | hnew
  · obtain ⟨e, he, hid⟩ := htyped l hold
    obtain ⟨es, hevents⟩ := h.events_eq
    exact ⟨e, by rw [hevents]; exact List.mem_append_left _ he, hid⟩
  · obtain ⟨e, he, hid, htype, -⟩ := h.lines_event l hnew
    exact ⟨e, he, hid, htype⟩

end Appends

/-- The copy of a line in a reversal event. -/
structure Copies (eventId : ℕ) (l s : OutboundEventLine) : Prop where
  eventId_eq : s.eventId = eventId
  itemId_eq : s.itemId = l.itemId
  qty_eq : s.qtyOutbound = l.qtyOutbound
  lotId_eq : s.lotId = l.lotId
  orderLineId_eq : s.orderLineId = l.orderLineId
  manualDocLineId_eq : s.manualDocLineId = l.manualDocLineId

/-- The loop over the lines copies them one by one. -/
theorem copyOutboundLines_run_ok {eventId : ℕ} {ls : List OutboundEventLine} {eb eb' : EventBook}
    {u : PUnit} (h : (forM ls (copyOutboundLine eventId)).run eb = .ok (u, eb')) :
    ∃ copies, List.Forall₂ (Copies eventId) ls copies ∧
      eb'.outboundLines.rows = eb.outboundLines.rows ++ copies := by
  induction ls generalizing eb with
  | nil =>
    have heb := Tx.run_forM_nil_ok.mp h
    rw [← heb]
    exact ⟨[], .nil, by rw [List.append_nil]⟩
  | cons l ls ih =>
    obtain ⟨eb₁, hline, hrest⟩ := Tx.run_forM_cons_ok.mp h
    obtain ⟨s, hrow, hrows, -, -⟩ := copyOutboundLine_run_ok hline
    obtain ⟨hevent, -, hitem, hqty, hlot, horder, hmanual⟩ := OutboundLineValues.row_eq_ok hrow
    obtain ⟨copies, hcopies, hall⟩ := ih hrest
    refine ⟨s :: copies, .cons ⟨hevent, hitem, hqty, hlot, horder, hmanual⟩ hcopies, ?_⟩
    rw [hall, hrows, List.append_assoc]
    rfl

/-- Copying inbound lines leaves the outbound lines alone. -/
theorem copyInboundLines_run_ok {eventId : ℕ} {ls : List InboundEventLine} {eb eb' : EventBook}
    {u : PUnit} (h : (forM ls (copyInboundLine eventId)).run eb = .ok (u, eb')) :
    eb'.outboundLines = eb.outboundLines := by
  induction ls generalizing eb with
  | nil => rw [Tx.run_forM_nil_ok.mp h]
  | cons l ls ih =>
    obtain ⟨eb₁, hline, hrest⟩ := Tx.run_forM_cons_ok.mp h
    obtain ⟨s, -, -, -, houtbound⟩ := copyInboundLine_run_ok hline
    rw [ih hrest, houtbound]

/-- A committed event was superseded, after lines were added. -/
structure Undoes (original : WmsEvent) (ls : List OutboundEventLine) (eb eb' : EventBook) :
    Prop where
  mem : original ∈ eb.events.rows
  kind : original.eventKind = .commit
  status : original.status = .committed
  steps : ∃ eb₁, Appends eb ls eb₁ ∧ (∀ l ∈ ls, l.eventId ∉ eb.ids) ∧
    eb' = eb₁.markSuperseded original.eventType original.id

namespace Undoes

variable {eb eb' : EventBook} {original : WmsEvent} {ls : List OutboundEventLine}
  {source : OutboundEventLine → Option ℕ} {id : ℕ}

theorem lines_eq (h : Undoes original ls eb eb') :
    eb'.outboundLines.rows = eb.outboundLines.rows ++ ls := by
  obtain ⟨eb₁, happends, -, rfl⟩ := h.steps
  exact happends.lines_eq

/-- The lines of the original are no longer counted, the added lines are. -/
theorem committedQty (h : Undoes original ls eb eb') (source : OutboundEventLine → Option ℕ)
    (id : ℕ) :
    eb'.committedQty source id + lineQty source (eb.outboundLinesOf original.id) id =
      eb.committedQty source id + lineQty source ls id := by
  obtain ⟨eb₁, happends, hnew, rfl⟩ := h.steps
  obtain ⟨es, hevents⟩ := happends.events_eq
  have hmem : original ∈ eb₁.events.rows := by
    rw [hevents]
    exact List.mem_append_left _ h.mem
  have hid : original.id ∈ eb.ids := List.mem_map_of_mem h.mem
  have hnone : ls.filter (fun l => l.eventId = original.id) = [] := by
    rw [List.filter_eq_nil_iff]
    intro l hl heq
    exact hnew l hl (by rw [of_decide_eq_true heq]; exact hid)
  have hsame : eb₁.outboundLinesOf original.id = eb.outboundLinesOf original.id := by
    unfold EventBook.outboundLinesOf
    rw [happends.lines_eq, List.filter_append, hnone, List.append_nil]
  rw [← happends.committedQty, ← hsame]
  exact EventBook.committedQty_markSuperseded hmem h.kind h.status

theorem typed (h : Undoes original ls eb eb') (htyped : eb.Typed) : eb'.Typed := by
  obtain ⟨eb₁, happends, -, rfl⟩ := h.steps
  intro l hl
  obtain ⟨e, he, hid, htype⟩ := happends.typed htyped l hl
  refine ⟨_, List.mem_map_of_mem he, (e.supersede_keeps _ _).1.trans hid, ?_⟩
  unfold WmsEvent.supersede
  split <;> exact htype

end Undoes

variable {db db' : Database} {call : ReversalCall} {original event : WmsEvent}

/-- The reversal event is a new committed event of the type of the original. -/
theorem Reversed.event_eq {L : Type} {kind : ReversalKind L}
    (h : Reversed kind call db original event db') :
    event.id = nextId db.eventBook.ids ∧ event.eventType = kind.eventType ∧
      event.status = .committed := by
  obtain ⟨hid, htype, -, -, -, hstatus, -, -, -⟩ := EventValues.row_eq_ok h.event_row
  exact ⟨hid, htype.trans h.original_type, hstatus⟩

/-- An outbound reversal copies the lines of the original and supersedes it. -/
theorem Reversed.undoes_outbound (h : Reversed outboundReversal call db original event db') :
    ∃ copies, List.Forall₂ (Copies event.id) (db.eventBook.outboundLinesOf original.id) copies ∧
      Undoes original copies db.eventBook db'.eventBook := by
  obtain ⟨eb₁, eb₂, hevents, houtbound, -, hcopy, hkeep, hmark, -⟩ := h.books
  obtain ⟨copies, hcopies, hlines⟩ := copyOutboundLines_run_ok hcopy
  obtain ⟨hid, htype, hstatus⟩ := h.event_eq
  have hevent : ∀ l ∈ copies, l.eventId = event.id := by
    intro l hl
    obtain ⟨n, hn, rfl⟩ := List.getElem_of_mem hl
    have hlen := hcopies.length_eq
    exact (hcopies.get (by omega) hn).eventId_eq
  have hrows : eb₂.events.rows = db.eventBook.events.rows ++ [event] := by
    rw [hkeep, hevents]
  refine ⟨copies, hcopies, h.original_mem, h.original_kind, h.original_status, eb₂,
    ⟨⟨[event], hrows⟩, by rw [hlines, houtbound], ?_⟩, ?_, ?_⟩
  · intro l hl
    exact ⟨event, by rw [hrows]; simp, (hevent l hl).symm, htype, hstatus⟩
  · intro l hl
    rw [hevent l hl, hid]
    exact nextId_notMem _
  · rw [hmark, h.original_type]

/-- An inbound reversal supersedes the original and adds no outbound lines. -/
theorem Reversed.undoes_inbound (h : Reversed inboundReversal call db original event db') :
    Undoes original [] db.eventBook db'.eventBook := by
  obtain ⟨eb₁, eb₂, hevents, houtbound, -, hcopy, hkeep, hmark, -⟩ := h.books
  have hrows : eb₂.events.rows = db.eventBook.events.rows ++ [event] := by
    rw [hkeep, hevents]
  refine ⟨h.original_mem, h.original_kind, h.original_status, eb₂,
    .of_eq hrows ((copyInboundLines_run_ok hcopy).trans houtbound), by simp, ?_⟩
  rw [hmark, h.original_type]

/-- The copies ship what the original ships. -/
theorem lineQty_copies {source : OutboundEventLine → Option ℕ} {eventId id : ℕ}
    {ls copies : List OutboundEventLine} (h : List.Forall₂ (Copies eventId) ls copies)
    (hsource : ∀ l s, Copies eventId l s → source s = source l) :
    lineQty source copies id = lineQty source ls id :=
  lineQty_congr (h.imp fun l s hcopy => ⟨hsource l s hcopy, hcopy.qty_eq⟩)

/-- A shipment adds its event and its lines. -/
theorem Shipped.appends {head : ShipmentHead} {lines : List OutboundLineValues}
    {saved : List OutboundEventLine} {rows : List LedgerRow}
    (h : Shipped db head lines event saved rows db') :
    Appends db.eventBook saved db'.eventBook := by
  refine ⟨⟨[event], h.events_eq⟩, h.outboundLines_eq, ?_⟩
  intro l hl
  have htype : event.eventType = .outbound := (EventValues.row_eq_ok h.event_row).2.1
  refine ⟨event, ?_, (h.saved_eventId l hl).symm, htype, h.event_status⟩
  rw [h.events_eq]
  simp

end Wms

import Wms.System

/-!
# Shipped totals over runs

How an accepted operation changes the quantity that committed events ship of a line of a
document: a submission adds what it asks for, and nothing else changes the quantity. A
reversal supersedes the original event, but its own lines are those of a committed event.
-/

namespace Wms

open Foundation

/-- The line of a document that an event line ships. -/
def SourceDocType.lineOf : SourceDocType → OutboundEventLine → Option ℕ
  | orderOutbound => OutboundEventLine.orderLineId
  | manualOutbound => OutboundEventLine.manualDocLineId

/-- What an operation ships of a line of a document. -/
def Op.shippedQty (docType : SourceDocType) (id : ℕ) : Op → ℤ
  | .submitOrder _ call =>
    if docType = .orderOutbound then submittedDelta call.lines id else 0
  | .submitManual call =>
    if docType = .manualOutbound then submittedDelta call.lines id else 0
  | _ => 0

variable {db db' : Database} {op : Op} {docType : SourceDocType} {id : ℕ}

/-- A line saved for the other type of document has no source of this type. -/
theorem lineOf_saves {t : SourceDocType} {raw : SubmitLineIn} {s : OutboundEventLine}
    (h : Saves t raw s) (docType : SourceDocType) :
    docType.lineOf s = if t = docType then some raw.sourceLineId else none := by
  cases docType with
  | orderOutbound => exact h.orderLineId_eq
  | manualOutbound => exact h.manualDocLineId_eq

/-- Lines saved for the other type of document ship nothing. -/
theorem lineQty_saves_other {t : SourceDocType} {raws : List SubmitLineIn}
    {saved : List OutboundEventLine} (h : List.Forall₂ (Saves t) raws saved) (hne : t ≠ docType) :
    lineQty docType.lineOf saved id = 0 := by
  refine lineQty_eq_zero ?_
  intro s hs
  obtain ⟨n, hn, rfl⟩ := List.getElem_of_mem hs
  have hlen := h.length_eq
  have hsaves := h.get (by omega : n < raws.length) hn
  have hnone := lineOf_saves hsaves docType
  rw [if_neg hne] at hnone
  simp only [List.get_eq_getElem] at hnone
  rw [hnone]
  exact Option.some_ne_none id |>.symm

/-- The saved lines ship what the operation asks for. -/
theorem lineQty_ships {ls : List OutboundEventLine} (h : op.Ships ls) :
    lineQty docType.lineOf ls id = op.shippedQty docType id := by
  cases op with
  | submitOrder pms call =>
    have hsaves : List.Forall₂ (Saves .orderOutbound) call.lines ls := h
    cases docType with
    | orderOutbound => exact lineQty_saved_order hsaves id
    | manualOutbound => exact lineQty_saves_other hsaves (by decide)
  | submitManual call =>
    have hsaves : List.Forall₂ (Saves .manualOutbound) call.lines ls := h
    cases docType with
    | orderOutbound => exact lineQty_saves_other hsaves (by decide)
    | manualOutbound => exact lineQty_saved_manual hsaves id
  | _ =>
    have hnil : ls = [] := h
    rw [hnil]
    rfl

theorem lineOf_copies {eventId : ℕ} (l s : OutboundEventLine) (h : Copies eventId l s) :
    docType.lineOf s = docType.lineOf l := by
  cases docType with
  | orderOutbound => exact h.orderLineId_eq
  | manualOutbound => exact h.manualDocLineId_eq

/-- An event that is not outbound has no outbound lines. -/
theorem EventBook.Typed.outboundLinesOf_eq_nil {eb : EventBook} (h : eb.Typed) {e : WmsEvent}
    (he : e ∈ eb.events.rows) (htype : e.eventType ≠ .outbound) : eb.outboundLinesOf e.id = [] := by
  unfold EventBook.outboundLinesOf
  have hnone : eb.outboundLines.rows.filter (fun l => l.eventId = e.id) = [] := by
    rw [List.filter_eq_nil_iff]
    intro l hl heq
    obtain ⟨e', he', hid, htype'⟩ := h l hl
    rw [of_decide_eq_true heq] at hid
    exact htype (by rw [← EventBook.eq_of_id_eq he' he hid]; exact htype')
  rw [hnone]
  rfl

/-- An accepted operation changes the committed quantity by what it ships. -/
theorem Step.committedQty (h : Step db op db') (htyped : db.eventBook.Typed)
    (docType : SourceDocType) (id : ℕ) :
    db'.eventBook.committedQty docType.lineOf id =
      db.eventBook.committedQty docType.lineOf id + op.shippedQty docType id := by
  rcases h.eventBook with ⟨ls, hships, happends⟩ | ⟨call, original, event, rfl, hreversed⟩ |
    ⟨call, original, event, rfl, hreversed⟩
  · rw [happends.committedQty, lineQty_ships hships]
  · obtain ⟨copies, hcopies, hundoes⟩ := hreversed.undoes_outbound
    have hqty := hundoes.committedQty docType.lineOf id
    rw [lineQty_copies hcopies lineOf_copies] at hqty
    change _ = _ + 0
    omega
  · have hundoes := hreversed.undoes_inbound
    have hqty := hundoes.committedQty docType.lineOf id
    have htype : original.eventType ≠ .outbound := by
      rw [hreversed.original_type]
      exact fun heq => by cases heq
    rw [htyped.outboundLinesOf_eq_nil hreversed.original_mem htype] at hqty
    change _ = _ + 0
    simpa using hqty

/-- An accepted operation changes the quantity over all events by what it ships, unless
it reverses an event that ships the line. -/
theorem Step.lineQty_eq (h : Step db op db') (docType : SourceDocType) (id : ℕ)
    (hkeep : ∀ call, op = .reverseOutbound call →
      ∀ l ∈ db.eventBook.outboundLinesOf call.eventId, docType.lineOf l ≠ some id) :
    lineQty docType.lineOf db'.eventBook.outboundLines.rows id =
      lineQty docType.lineOf db.eventBook.outboundLines.rows id + op.shippedQty docType id := by
  rcases h.eventBook with ⟨ls, hships, happends⟩ | ⟨call, original, event, rfl, hreversed⟩ |
    ⟨call, original, event, rfl, hreversed⟩
  · rw [happends.submittedQty, lineQty_ships hships]
  · obtain ⟨copies, hcopies, hundoes⟩ := hreversed.undoes_outbound
    have hnone : lineQty docType.lineOf (db.eventBook.outboundLinesOf original.id) id = 0 := by
      refine lineQty_eq_zero ?_
      rw [hreversed.original_id]
      exact hkeep call rfl
    rw [hundoes.lines_eq, lineQty_append, lineQty_copies hcopies lineOf_copies, hnone]
    rfl
  · rw [hreversed.undoes_inbound.lines_eq, List.append_nil]
    exact (add_zero _).symm

/-- Outbound lines belong to outbound events in every state of a run. -/
theorem Step.typed (h : Step db op db') (htyped : db.eventBook.Typed) : db'.eventBook.Typed := by
  rcases h.eventBook with ⟨ls, -, happends⟩ | ⟨call, original, event, rfl, hreversed⟩ |
    ⟨call, original, event, rfl, hreversed⟩
  · exact happends.typed htyped
  · obtain ⟨copies, -, hundoes⟩ := hreversed.undoes_outbound
    exact hundoes.typed htyped
  · exact hreversed.undoes_inbound.typed htyped

/-- Every outbound line that an accepted operation leaves was there before, was shipped
by it, or is the copy of one that was there before. -/
theorem Step.outboundLine_cases (h : Step db op db') (docType : SourceDocType) {s : OutboundEventLine}
    (hs : s ∈ db'.eventBook.outboundLines.rows) :
    (∃ ls, op.Ships ls ∧ s ∈ ls) ∨
      ∃ l ∈ db.eventBook.outboundLines.rows, docType.lineOf s = docType.lineOf l := by
  rcases h.eventBook with ⟨ls, hships, happends⟩ | ⟨call, original, event, rfl, hreversed⟩ |
    ⟨call, original, event, rfl, hreversed⟩
  · rw [happends.lines_eq] at hs
    rcases List.mem_append.mp hs with hold | hnew
    · exact .inr ⟨s, hold, rfl⟩
    · exact .inl ⟨ls, hships, hnew⟩
  · obtain ⟨copies, hcopies, hundoes⟩ := hreversed.undoes_outbound
    rw [hundoes.lines_eq] at hs
    rcases List.mem_append.mp hs with hold | hnew
    · exact .inr ⟨s, hold, rfl⟩
    · obtain ⟨n, hn, rfl⟩ := List.getElem_of_mem hnew
      have hlen := hcopies.length_eq
      have hn' : n < (db.eventBook.outboundLinesOf original.id).length := by omega
      have hmem : (db.eventBook.outboundLinesOf original.id)[n] ∈
          db.eventBook.outboundLinesOf original.id := List.getElem_mem hn'
      unfold EventBook.outboundLinesOf at hmem
      rw [List.mem_insertionSort] at hmem
      exact .inr ⟨_, (List.mem_filter.mp hmem).1, lineOf_copies _ _ (hcopies.get hn' hn)⟩
  · rw [hreversed.undoes_inbound.lines_eq, List.append_nil] at hs
    exact .inr ⟨s, hs, rfl⟩

end Wms

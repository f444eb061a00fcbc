import Wms.ShippedTotals

/-!
# Manual documents are not over-shipped

A submission for a manual document does not look at what has gone out before. It only
looks, after it has shipped, whether every line has reached its quantity. So the mark of
completion is always right, and the lines stay within their quantities exactly when the
payloads do.
-/

namespace Wms

open Foundation

/-- Committed events have shipped all that the document asks for. -/
def ManualReached (db : Database) (docId : ℕ) : Prop :=
  ∀ l ∈ db.manualLinesOf docId,
    l.requestedQty ≤ db.eventBook.committedQty OutboundEventLine.manualDocLineId l.id

/-- The document is not over-shipped, and once released it is marked as completed when
its lines have reached their quantities, and only then. -/
structure ManualShippedRight (docId : ℕ) (db : Database) : Prop where
  within : ∀ l ∈ db.manualLinesOf docId,
    db.eventBook.committedQty OutboundEventLine.manualDocLineId l.id ≤ l.requestedQty
  completed_iff : ∀ d, db.findManualDoc docId = some d →
    d.status = .released ∨ d.status = .completed → (d.status = .completed ↔ ManualReached db docId)

/-- A payload for the document asks, for each line, at most what remains of it. -/
def Op.FitsManual (docId : ℕ) (db : Database) : Op → Prop
  | .submitManual call => call.docId = docId → ∀ l ∈ db.manualLinesOf docId,
      submittedDelta call.lines l.id ≤
        l.requestedQty - db.eventBook.committedQty OutboundEventLine.manualDocLineId l.id
  | _ => True

/-- The operation does not reverse an event that ships lines of the document. -/
def Op.KeepsShipments (docId : ℕ) (db : Database) : Op → Prop
  | .reverseOutbound call => ∀ s ∈ db.eventBook.outboundLinesOf call.eventId,
      ∀ l ∈ db.manualLinesOf docId, s.manualDocLineId ≠ some l.id
  | _ => True

/-! ## What refers to what -/

/-- The references of the tables that manual documents are involved in. -/
structure ManualLinked (db : Database) : Prop where
  typed : db.eventBook.Typed
  /-- `fk_outbound_event_lines_manual_doc_line`. -/
  known : ∀ s ∈ db.eventBook.outboundLines.rows, ∀ id ∈ s.manualDocLineId,
    ∃ l ∈ db.manualLines.rows, l.id = id
  /-- `fk_manual_outbound_lines_doc`. -/
  owned : ∀ l ∈ db.manualLines.rows, ∃ d ∈ db.manualDocs.rows, d.id = l.docId

variable {db db' : Database} {op : Op} {docId : ℕ}

/-- The identifiers of manual documents stay. -/
theorem Step.manualDoc_id (h : Step db op db') {d : ManualDoc} (hd : d ∈ db.manualDocs.rows) :
    ∃ d' ∈ db'.manualDocs.rows, d'.id = d.id := by
  have hmap : ∀ f : ManualDoc → ManualDoc, (∀ a, (f a).id = a.id) →
      db'.manualDocs.rows = db.manualDocs.rows.map f → ∃ d' ∈ db'.manualDocs.rows, d'.id = d.id := by
    intro f hid hrows
    exact ⟨f d, by rw [hrows]; exact List.mem_map_of_mem hd, hid d⟩
  by_cases hchanges : op.ChangesManualDocs
  · cases h with
    | submitManual h =>
      obtain ⟨doc, -, -, -, ⟨-, hrows⟩ | ⟨-, hdocs⟩⟩ := h.doc_eq
      · exact hmap _ (ManualDoc.complete_id _) hrows
      · exact ⟨d, by rw [hdocs]; exact hd, rfl⟩
    | createManualDoc h =>
      obtain ⟨-, -, hrows, -, -⟩ := createManualDoc_run_ok h
      exact ⟨d, by rw [hrows]; exact List.mem_append_left _ hd, rfl⟩
    | releaseManualDoc h =>
      obtain ⟨-, -, -, -, hrows, -⟩ := releaseManualDoc_run_ok h
      exact hmap _ (ManualDoc.release_id _) hrows
    | voidManualDoc h => exact hmap _ (ManualDoc.void_id _) (voidManualDoc_run_ok h).1
    | _ => exact hchanges.elim
  · exact ⟨d, by rw [h.manualDocs_eq hchanges]; exact hd, rfl⟩

/-- Lines of manual documents stay. -/
theorem Step.manualLine_mem (h : Step db op db') {l : ManualLine} (hl : l ∈ db.manualLines.rows) :
    l ∈ db'.manualLines.rows := by
  by_cases hcreate : ∃ d lines, op = .createManualDoc d lines
  · obtain ⟨d, lines, rfl⟩ := hcreate
    cases h with
    | createManualDoc h =>
      rw [(createManualDoc_run_ok h).2.2.2.1]
      exact List.mem_append_left _ hl
  · rw [h.manualLines_eq fun d lines heq => hcreate ⟨d, lines, heq⟩]
    exact hl

/-- An accepted operation that is not on a manual document leaves its lines alone. -/
theorem Step.manualLinesOf_eq (h : Step db op db') (hop : ¬op.OnManualDoc docId) :
    db'.manualLinesOf docId = db.manualLinesOf docId := by
  unfold Database.manualLinesOf
  by_cases hcreate : ∃ d lines, op = .createManualDoc d lines
  · obtain ⟨d, lines, rfl⟩ := hcreate
    cases h with
    | createManualDoc h =>
      obtain ⟨hdoc, -, -, hrows, -⟩ := createManualDoc_run_ok h
      have hnone : lines.filter (fun l => l.docId = docId) = [] := by
        rw [List.filter_eq_nil_iff]
        intro l hl heq
        exact hop ((hdoc l hl).symm.trans (of_decide_eq_true heq))
      rw [hrows, List.filter_append, hnone, List.append_nil]
  · rw [h.manualLines_eq fun d lines heq => hcreate ⟨d, lines, heq⟩]

/-- A shipped line of a manual document is a stored one. -/
theorem Op.Ships.manualLine_mem (h : Step db op db') {ls : List OutboundEventLine}
    (hships : op.Ships ls) {s : OutboundEventLine} (hs : s ∈ ls) {id : ℕ}
    (hid : s.manualDocLineId = some id) : ∃ l ∈ db.manualLines.rows, l.id = id := by
  cases h with
  | @submitOrder pms call event saved _ hsub =>
    have hsaves : List.Forall₂ (Saves .orderOutbound) call.lines ls := hships
    obtain ⟨n, hn, rfl⟩ := List.getElem_of_mem hs
    have hlen := hsaves.length_eq
    have hline := (hsaves.get (by omega : n < call.lines.length) hn).manualDocLineId_eq
    simp only [List.get_eq_getElem] at hline
    rw [hline] at hid
    cases hid
  | @submitManual call event saved _ hsub =>
    have hsaves : List.Forall₂ (Saves .manualOutbound) call.lines ls := hships
    obtain ⟨n, hn, rfl⟩ := List.getElem_of_mem hs
    have hlen := hsaves.length_eq
    have hn' : n < call.lines.length := by omega
    have hline := (hsaves.get hn' hn).manualDocLineId_eq
    simp only [List.get_eq_getElem, if_true] at hline
    obtain ⟨l, hl, hlid⟩ := hsub.named _ (List.getElem_mem hn')
    rw [hline] at hid
    exact ⟨l, (mem_manualLinesOf.mp hl).1, hlid.trans (Option.some.inj hid)⟩
  | _ =>
    have hnil : ls = [] := hships
    rw [hnil] at hs
    cases hs

theorem Step.manualLinked (h : Step db op db') (hdb : ManualLinked db) : ManualLinked db' := by
  refine ⟨h.typed hdb.typed, ?_, ?_⟩
  · intro s hs id hid
    have hline : ∃ l ∈ db.manualLines.rows, l.id = id := by
      rcases h.outboundLine_cases .manualOutbound hs with ⟨ls, hships, hmem⟩ |
        ⟨l, hl, hsame⟩
      · exact hships.manualLine_mem h hmem hid
      · have heq : s.manualDocLineId = l.manualDocLineId := hsame
        exact hdb.known l hl id (by rw [← heq]; exact hid)
    obtain ⟨l, hl, hlid⟩ := hline
    exact ⟨l, h.manualLine_mem hl, hlid⟩
  · intro l hl
    by_cases hcreate : ∃ d lines, op = .createManualDoc d lines
    · obtain ⟨d, lines, rfl⟩ := hcreate
      have hid := fun a ha => h.manualDoc_id (d := a) ha
      cases h with
      | createManualDoc h =>
        obtain ⟨hlines, -, hdocs, hrows, -⟩ := createManualDoc_run_ok h
        rw [hrows] at hl
        rcases List.mem_append.mp hl with hold | hnew
        · obtain ⟨a, ha, haid⟩ := hdb.owned l hold
          obtain ⟨a', ha', haid'⟩ := hid a ha
          exact ⟨a', ha', haid'.trans haid⟩
        · exact ⟨{ d with status := .draft }, by rw [hdocs]; simp, (hlines l hnew).symm⟩
    · rw [h.manualLines_eq fun d lines heq => hcreate ⟨d, lines, heq⟩] at hl
      obtain ⟨a, ha, haid⟩ := hdb.owned l hl
      obtain ⟨a', ha', haid'⟩ := h.manualDoc_id ha
      exact ⟨a', ha', haid'.trans haid⟩

/-! ## What holds of a document on a run -/

/-- What holds of a document in every state of a run that reverses none of its events. -/
structure ManualHistory (docId : ℕ) (db : Database) : Prop where
  linked : ManualLinked db
  progress : ∀ l ∈ db.manualLinesOf docId, db.eventBook.submittedManualQty l.id =
    db.eventBook.committedQty OutboundEventLine.manualDocLineId l.id
  draft : ∀ d, db.findManualDoc docId = some d → d.status = .draft →
    ∀ l ∈ db.manualLinesOf docId,
      db.eventBook.committedQty OutboundEventLine.manualDocLineId l.id = 0
  right : ManualShippedRight docId db

theorem manualHistory_empty (docId : ℕ) : ManualHistory docId Database.empty where
  linked := ⟨fun _ hl => absurd hl List.not_mem_nil, fun _ hl => absurd hl List.not_mem_nil,
    fun _ hl => absurd hl List.not_mem_nil⟩
  progress _ hl := absurd hl List.not_mem_nil
  draft _ hd := by cases hd
  right := ⟨fun _ hl => absurd hl List.not_mem_nil, fun _ hd => by cases hd⟩

/-- Stored manual lines with one identifier are the same line. -/
theorem manualLine_eq_of_id_eq {l l' : ManualLine} (hl : l ∈ db.manualLines.rows)
    (hl' : l' ∈ db.manualLines.rows) (hid : l.id = l'.id) : l = l' := by
  have hfind : ∀ a ∈ db.manualLines.rows,
      (db.manualLines.rows.find? fun b => b.id = a.id) = some a :=
    fun a ha => db.manualLines.find?_eq_some ha (by simp) fun b hb => by simpa using hb
  have hsome := hfind l hl
  rw [hid, hfind l' hl'] at hsome
  exact (Option.some.inj hsome).symm

theorem ManualHistory.completed_iff (hdb : ManualHistory docId db)
    (hne : db.manualLinesOf docId ≠ []) : ManualCompleted db docId ↔ ManualReached db docId := by
  unfold ManualCompleted ManualReached
  constructor
  · rintro ⟨-, hall⟩ l hl
    rw [← hdb.progress l hl]
    exact hall l hl
  · intro hall
    refine ⟨hne, fun l hl => ?_⟩
    rw [hdb.progress l hl]
    exact hall l hl

/-- Other operations ship nothing of the document. -/
theorem Step.shippedQty_eq_zero (h : Step db op db') (hop : ¬op.OnManualDoc docId) {l : ManualLine}
    (hl : l ∈ db.manualLinesOf docId) : op.shippedQty .manualOutbound l.id = 0 := by
  cases h with
  | @submitManual call event saved _ h =>
    refine submittedDelta_eq_zero ?_
    intro raw hraw heq
    obtain ⟨l', hl', hid⟩ := h.named raw hraw
    obtain ⟨hrow, hdoc⟩ := mem_manualLinesOf.mp hl
    obtain ⟨hrow', hdoc'⟩ := mem_manualLinesOf.mp hl'
    obtain rfl := manualLine_eq_of_id_eq hrow' hrow (hid.trans heq)
    exact hop (hdoc'.symm.trans hdoc)
  | _ => rfl

/-- The quantities of a line of the document grow by what an operation ships of it. -/
theorem Step.manualQty (h : Step db op db') (hdb : ManualHistory docId db)
    (hkeep : op.KeepsShipments docId db) {l : ManualLine} (hl : l ∈ db.manualLinesOf docId) :
    db'.eventBook.committedQty OutboundEventLine.manualDocLineId l.id =
        db.eventBook.committedQty OutboundEventLine.manualDocLineId l.id +
          op.shippedQty .manualOutbound l.id ∧
      db'.eventBook.submittedManualQty l.id =
        db.eventBook.committedQty OutboundEventLine.manualDocLineId l.id +
          op.shippedQty .manualOutbound l.id := by
  refine ⟨h.committedQty hdb.linked.typed .manualOutbound l.id, ?_⟩
  rw [← hdb.progress l hl]
  refine h.lineQty_eq .manualOutbound l.id ?_
  intro call hcall s hs
  rw [hcall] at hkeep
  exact hkeep s hs l hl

/-- An operation keeps the history when it keeps the lines and their quantities, and the
document unless it voids it. -/
theorem ManualHistory.of_same (hdb : ManualHistory docId db) (hlinked : ManualLinked db')
    (hlines : db'.manualLinesOf docId = db.manualLinesOf docId)
    (hcommitted : ∀ l ∈ db.manualLinesOf docId,
      db'.eventBook.committedQty OutboundEventLine.manualDocLineId l.id =
        db.eventBook.committedQty OutboundEventLine.manualDocLineId l.id)
    (hsubmitted : ∀ l ∈ db.manualLinesOf docId, db'.eventBook.submittedManualQty l.id =
      db.eventBook.committedQty OutboundEventLine.manualDocLineId l.id)
    (hdoc : ∀ d, db'.findManualDoc docId = some d → d.status ≠ .voided →
      db.findManualDoc docId = some d) : ManualHistory docId db' := by
  have hreached : ManualReached db' docId ↔ ManualReached db docId := by
    unfold ManualReached
    rw [hlines]
    exact forall₂_congr fun l hl => by rw [hcommitted l hl]
  refine ⟨hlinked, ?_, ?_, ?_, ?_⟩
  · intro l hl
    rw [hlines] at hl
    rw [hsubmitted l hl, hcommitted l hl]
  · intro d hd hstatus l hl
    rw [hlines] at hl
    rw [hcommitted l hl]
    exact hdb.draft d (hdoc d hd (by rw [hstatus]; decide)) hstatus l hl
  · intro l hl
    rw [hlines] at hl
    rw [hcommitted l hl]
    exact hdb.right.within l hl
  · intro d hd hstatus
    rw [hreached]
    refine hdb.right.completed_iff d (hdoc d hd ?_) hstatus
    rcases hstatus with hstatus | hstatus <;> rw [hstatus] <;> decide

/-- The document is created: nothing has been shipped of its lines. -/
theorem ManualHistory.create {d : ManualDoc} {lines : List ManualLine}
    (hdb : ManualHistory d.id db) (hlinked : ManualLinked db')
    (h : (createManualDoc d lines).run db = .ok (⟨⟩, db')) : ManualHistory d.id db' := by
  obtain ⟨-, hfresh, hdocs, hrows, hframe⟩ := createManualDoc_run_ok h
  have hbook : db'.eventBook = db.eventBook := by rw [hframe]
  have hnew : ∀ l ∈ db'.manualLinesOf d.id, ∀ s ∈ db.eventBook.outboundLines.rows,
      s.manualDocLineId ≠ some l.id := by
    intro l hl s hs hid
    obtain ⟨hrow, hdoc⟩ := mem_manualLinesOf.mp hl
    obtain ⟨l', hl', hlid⟩ := hdb.linked.known s hs l.id hid
    have hl'' : l' ∈ db'.manualLines.rows := by
      rw [hrows]
      exact List.mem_append_left _ hl'
    obtain rfl := manualLine_eq_of_id_eq hl'' hrow hlid
    obtain ⟨a, ha, haid⟩ := hdb.linked.owned l' hl'
    exact hfresh a ha (haid.trans hdoc)
  have hcommitted : ∀ l ∈ db'.manualLinesOf d.id,
      db'.eventBook.committedQty OutboundEventLine.manualDocLineId l.id = 0 := by
    intro l hl
    rw [hbook]
    exact lineQty_eq_zero fun s hs => hnew l hl s (List.mem_filter.mp hs).1
  have hdraft : ∀ a, db'.findManualDoc d.id = some a → a.status = .draft := by
    intro a ha
    obtain ⟨hmem, hid⟩ := findManualDoc_eq_some ha
    rw [hdocs] at hmem
    rcases List.mem_append.mp hmem with hold | hlast
    · exact absurd hid (hfresh a hold)
    · rw [List.mem_singleton.mp hlast]
  refine ⟨hlinked, ?_, fun a _ _ => hcommitted, ?_, ?_⟩
  · intro l hl
    rw [hcommitted l hl, submittedManualQty_eq, hbook]
    exact lineQty_eq_zero (hnew l hl)
  · intro l hl
    rw [hcommitted l hl]
    exact l.requested_pos.le
  · intro a ha hstatus
    rw [hdraft a ha] at hstatus
    rcases hstatus with hstatus | hstatus <;> cases hstatus

/-- The document is released: nothing has been shipped of it yet. -/
theorem ManualHistory.release (hdb : ManualHistory docId db) (hlinked : ManualLinked db')
    (h : (releaseManualDoc docId).run db = .ok (⟨⟩, db')) : ManualHistory docId db' := by
  obtain ⟨d, hfind, hstatus, hne, hrows, hframe⟩ := releaseManualDoc_run_ok h
  have hbook : db'.eventBook = db.eventBook := by rw [hframe]
  have hlines : db'.manualLinesOf docId = db.manualLinesOf docId := by rw [hframe]; rfl
  have hzero := hdb.draft d hfind hstatus
  have hfound : db'.findManualDoc docId = some (d.release docId) := by
    rw [findManualDoc_map (ManualDoc.release_id _) hrows, hfind]
    rfl
  have hreleased : (d.release docId).status = .released := by
    unfold ManualDoc.release
    rw [if_pos ⟨(findManualDoc_eq_some hfind).2, hstatus⟩]
  have hnot : ¬ManualReached db' docId := by
    intro hreached
    obtain ⟨l, hl⟩ := List.exists_mem_of_ne_nil _ hne
    have hle := hreached l (by rw [hlines]; exact hl)
    rw [hbook, hzero l hl] at hle
    have hpos := l.requested_pos
    omega
  refine ⟨hlinked, ?_, ?_, ?_, ?_⟩
  · rw [hlines, hbook]
    exact hdb.progress
  · intro a ha hdraft
    rw [hfound] at ha
    rw [← Option.some.inj ha, hreleased] at hdraft
    cases hdraft
  · rw [hlines, hbook]
    exact hdb.right.within
  · intro a ha _
    rw [hfound] at ha
    rw [← Option.some.inj ha, hreleased]
    exact ⟨fun heq => (by cases heq), fun hreached => absurd hreached hnot⟩

/-- The document is shipped: it is marked as completed when its lines have reached their
quantities. -/
theorem ManualHistory.submit {call : ManualSubmitCall} {event : WmsEvent}
    {saved : List OutboundEventLine} (hdb : ManualHistory call.docId db)
    (hlinked : ManualLinked db') (h : ManualSubmitted db call event saved db')
    (hfit : (Op.submitManual call).FitsManual call.docId db) : ManualHistory call.docId db' := by
  have hlines : db'.manualLinesOf call.docId = db.manualLinesOf call.docId := by
    unfold Database.manualLinesOf
    rw [h.frame.1.manualLines_eq]
  have hqty : ∀ l ∈ db.manualLinesOf call.docId, _ := fun l hl =>
    (Step.submitManual h).manualQty hdb trivial hl
  have hprogress : ∀ l ∈ db'.manualLinesOf call.docId, db'.eventBook.submittedManualQty l.id =
      db'.eventBook.committedQty OutboundEventLine.manualDocLineId l.id := by
    intro l hl
    rw [hlines] at hl
    rw [(hqty l hl).1, (hqty l hl).2]
  obtain ⟨doc, hfind, hstatus, hne, hdone⟩ := h.doc_eq
  have hreached : ManualCompleted db' call.docId ↔ ManualReached db' call.docId := by
    unfold ManualCompleted ManualReached
    constructor
    · rintro ⟨-, hall⟩ l hl
      rw [← hprogress l hl]
      exact hall l hl
    · intro hall
      refine ⟨by rw [hlines]; exact hne, fun l hl => ?_⟩
      rw [hprogress l hl]
      exact hall l hl
  have hmark : ∀ d, db'.findManualDoc call.docId = some d →
      d.status ≠ .draft ∧ (d.status = .completed ↔ ManualReached db' call.docId) := by
    intro d hd
    rcases hdone with ⟨hcompleted, hrows⟩ | ⟨hnot, hdocs⟩
    · rw [findManualDoc_map (ManualDoc.complete_id _) hrows, hfind] at hd
      have hdoc : d.status = .completed := by
        rw [← Option.some.inj hd]
        unfold ManualDoc.complete
        rw [if_pos ⟨(findManualDoc_eq_some hfind).2, hstatus⟩]
      rw [hdoc, ← hreached]
      exact ⟨by decide, fun _ => hcompleted, fun _ => rfl⟩
    · unfold Database.findManualDoc at hd
      rw [hdocs] at hd
      have heq : db.findManualDoc call.docId = some d := hd
      rw [hfind] at heq
      rw [← Option.some.inj heq, hstatus, ← hreached]
      exact ⟨by decide, fun heq => (by cases heq), fun hcompleted => absurd hcompleted hnot⟩
  refine ⟨hlinked, hprogress, ?_, ?_, fun d hd _ => (hmark d hd).2⟩
  · intro d hd hdraft
    exact absurd hdraft (hmark d hd).1
  · intro l hl
    rw [hlines] at hl
    have hle := hfit rfl l hl
    have hgrown := (hqty l hl).1
    change _ = _ + submittedDelta call.lines l.id at hgrown
    omega

/-- An accepted operation that reverses no event of the document, and whose payload for
the document fits, keeps its history. -/
theorem Step.manualHistory (h : Step db op db') (hkeep : op.KeepsShipments docId db)
    (hfit : op.FitsManual docId db) (hdb : ManualHistory docId db) : ManualHistory docId db' := by
  have hlinked := h.manualLinked hdb.linked
  by_cases hop : op.OnManualDoc docId
  · cases h with
    | submitManual h =>
      obtain rfl : _ = docId := hop
      exact hdb.submit hlinked h hfit
    | createManualDoc h =>
      obtain rfl : _ = docId := hop
      exact hdb.create hlinked h
    | releaseManualDoc h =>
      obtain rfl : _ = docId := hop
      exact hdb.release hlinked h
    | voidManualDoc h =>
      obtain ⟨hrows, hframe⟩ := voidManualDoc_run_ok h
      have hbook : db'.eventBook = db.eventBook := by rw [hframe]
      refine hdb.of_same hlinked (by rw [hframe]; rfl) (by rw [hbook]; simp)
        (by rw [hbook]; exact hdb.progress) ?_
      intro d hd hnot
      rw [findManualDoc_map (ManualDoc.void_id _) hrows] at hd
      obtain ⟨a, ha, rfl⟩ := Option.map_eq_some_iff.mp hd
      unfold ManualDoc.void at hnot ⊢
      split at hnot
      · exact absurd rfl hnot
      · rename_i hother
        rw [if_neg hother]
        exact ha
    | _ => exact hop.elim
  · refine hdb.of_same hlinked (h.manualLinesOf_eq hop) ?_ ?_ ?_
    · intro l hl
      rw [(h.manualQty hdb hkeep hl).1, h.shippedQty_eq_zero hop hl, add_zero]
    · intro l hl
      rw [(h.manualQty hdb hkeep hl).2, h.shippedQty_eq_zero hop hl, add_zero]
    · intro d hd _
      rwa [h.findManualDoc_eq hop] at hd

/-- A submission after which the document is not over-shipped has fitted. -/
theorem Step.fitsManual (h : Step db op db') (hkeep : op.KeepsShipments docId db)
    (hdb : ManualHistory docId db) (hright : ManualShippedRight docId db') :
    op.FitsManual docId db := by
  cases h with
  | @submitManual call event saved _ h =>
    intro hdoc l hl
    obtain rfl := hdoc
    have hlines : db'.manualLinesOf call.docId = db.manualLinesOf call.docId := by
      unfold Database.manualLinesOf
      rw [h.frame.1.manualLines_eq]
    have hle := hright.within l (by rw [hlines]; exact hl)
    have hgrown := ((Step.submitManual h).manualQty hdb hkeep hl).1
    change _ = _ + submittedDelta call.lines l.id at hgrown
    omega
  | _ => trivial

/-- In every state of a run from empty tables that reverses no event of a manual
document, the document is not over-shipped and its mark of completion is right, exactly
when every accepted payload for it asks at most for what remains. -/
theorem manualShippedRight_iff (docId : ℕ) (ops : List Op)
    (hkeep : Tx.AllAccepted Op.exec (fun op db => op.KeepsShipments docId db) ops Database.empty) :
    (∀ n, ManualShippedRight docId (Database.after (ops.take n))) ↔
      Tx.AllAccepted Op.exec (fun op db => op.FitsManual docId db) ops Database.empty :=
  Tx.forall_attemptAll_iff_of (I := ManualHistory docId)
    (fun _ _ _ _ hdb hkeep hfit hrun => (Op.step_of_exec hrun).manualHistory hkeep hfit hdb)
    (fun _ hdb => hdb.right)
    (fun _ _ _ _ hdb hkeep hrun hright => (Op.step_of_exec hrun).fitsManual hkeep hdb hright)
    (manualHistory_empty docId) hkeep

/-- A manual document. -/
def appleDoc : ManualDoc where
  id := 1
  warehouseId := 1
  docNo := "MOB-1"
  status := .draft
  recipientName := some ⟨"R", by decide⟩
  receiverPhone := some ⟨"1", by decide⟩
  receiverProvince := some ⟨"P", by decide⟩
  receiverCity := some ⟨"C", by decide⟩
  receiverDistrict := none
  receiverAddress := some ⟨"A", by decide⟩
  receiverPostcode := none

/-- Its line, which asks for five pieces of the first item. -/
def fivePieces : ManualLine where
  id := 1
  docId := 1
  lineNo := 1
  itemId := 1
  requestedQty := 5
  itemNameSnapshot := none
  itemSkuSnapshot := none
  itemSpecSnapshot := none
  requested_pos := five_pos

/-- A submission for the document. -/
def shipManually (traceId : String) (lines : List SubmitLineIn) : ManualSubmitCall where
  docId := 1
  operatorId := none
  traceId := traceId
  occurredAt := 0
  remark := none
  lines := lines

/-- The document is released and shipped by a payload. -/
def shippedDoc (lines : List SubmitLineIn) : List Op :=
  stocked ++ [.createManualDoc appleDoc [fivePieces], .releaseManualDoc 1,
    .submitManual (shipManually "T1" lines)]

theorem keepsShipments_shippedDoc (lines : List SubmitLineIn) :
    Tx.AllAccepted Op.exec (fun op db => op.KeepsShipments 1 db) (shippedDoc lines)
      Database.empty :=
  ⟨fun _ => trivial, fun _ => trivial, fun _ => trivial, fun _ => trivial, fun _ => trivial,
    trivial⟩

theorem manualShippedRight_iff_shippedDoc :
    (∀ n, ManualShippedRight 1
        (Database.after ((shippedDoc [fiveApples 1]).take n))) ↔
      Tx.AllAccepted Op.exec (fun op db => op.FitsManual 1 db)
        (shippedDoc [fiveApples 1]) Database.empty :=
  manualShippedRight_iff 1 _ (keepsShipments_shippedDoc _)

/-- Five pieces are asked for, and one payload ships eight. -/
theorem not_manualShippedRight_shippedDoc :
    ¬(Tx.AllAccepted Op.exec (fun op db => op.KeepsShipments 1 db)
        (shippedDoc [takeApples 1 8 (by decide)]) Database.empty →
      ∀ n, ManualShippedRight 1
        (Database.after ((shippedDoc [takeApples 1 8 (by decide)]).take n))) := by
  intro h
  have hover : ∃ l ∈ (Database.after ((shippedDoc [takeApples 1 8 (by decide)]).take 5)).manualLinesOf 1,
      ¬(Database.after ((shippedDoc [takeApples 1 8 (by decide)]).take 5)).eventBook.committedQty
        OutboundEventLine.manualDocLineId l.id ≤ l.requestedQty := by decide +kernel
  obtain ⟨l, hl, hnot⟩ := hover
  exact hnot ((h (keepsShipments_shippedDoc _) 5).within l hl)

end Wms

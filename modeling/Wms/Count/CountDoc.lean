import Wms.Database
import Wms.Stock.AdjustLot

/-!
# The life of a count document

A document is created for a warehouse, frozen, counted, perhaps counted again, and then
posted or voided. Posting books the difference of every line by `adjust_lot`: a surplus
goes to one lot, a shortage is taken from the lots of the snapshot in their order.
-/

namespace Wms

open Foundation

/-! ## Documents and lines -/

/-- The stored document with an identifier. -/
def Database.findCountDoc (db : Database) (docId : ℕ) : Option CountDoc :=
  db.countDocs.rows.find? fun d => d.id = docId

/-- Rewrite a document without changing what identifies it. -/
def Database.reviseDoc (db : Database) (docId : ℕ) (f : CountDoc → CountDoc)
    (hf : ∀ d, (f d).id = d.id ∧ (f d).countNo = d.countNo) : Database :=
  { db with
    countDocs := db.countDocs.map (fun d => if d.id = docId then f d else d) (by
      intro a b h
      unfold CountDoc.Conflict at h ⊢
      split at h <;> split at h <;>
        simpa only [(hf a).1, (hf a).2, (hf b).1, (hf b).2] using h) }

/-- `_require_doc`. -/
def requireDoc (docId : ℕ) : Trans CountDoc := do
  let db ← get
  Tx.demand (db.findCountDoc docId) (.lookupError s!"count_doc_not_found:{docId}")

/-- The lines of a document, any two of them apart. -/
abbrev CountLines := { lines : List CountDocLine // lines.Pairwise CountDocLine.Apart }

/-- Replace the lines of a document. -/
def CountDoc.putLines (d : CountDoc) (lines : CountLines) : CountDoc :=
  { d with lines := lines.1, lines_unique := lines.2 }

/-! ## Creating -/

/-- `CountDocCreateIn` with the user and with what the call mints. -/
structure CountCreateCall where
  warehouseId : ℕ
  snapshotAt : ℤ
  remark : Option (Varchar 500)
  createdBy : Option ℕ
  countNo : Varchar 64
  now : ℤ

/-- `get_active_doc_by_warehouse`. -/
def Database.activeDocByWarehouse (db : Database) (warehouseId : ℕ) : Option CountDoc :=
  CountDoc.latest? CountDoc.createdAt
    (db.countDocs.rows.filter fun d => d.warehouseId = warehouseId ∧ d.status.Active)

/-- The new document. -/
def CountCreateCall.doc (call : CountCreateCall) (id : ℕ) : CountDoc where
  id := id
  countNo := call.countNo
  warehouseId := call.warehouseId
  snapshotAt := call.snapshotAt
  status := .draft
  postedEventId := none
  createdBy := call.createdBy
  countedByNameSnapshot := none
  reviewedByNameSnapshot := none
  remark := call.remark
  createdAt := call.now
  countedAt := none
  postedAt := none
  lines := []
  lines_unique := .nil

/-- `create_doc`. -/
def createDoc (call : CountCreateCall) : Trans CountDoc := do
  let db ← get
  match db.activeDocByWarehouse call.warehouseId with
  | some active => throw (.valueError
      s!"count_doc_active_exists: warehouse_id={call.warehouseId}, doc_id={active.id}, count_no={active.countNo.text}, status={active.status.code}")
  | none => do
    let doc := call.doc (nextId (db.countDocs.rows.map CountDoc.id))
    let docs ← Tx.demand (db.countDocs.insert doc) (.integrityError "uq_count_docs_count_no")
    Tx.failIf (¬db.HasWarehouse call.warehouseId) (.integrityError "fk_count_docs_warehouse")
    set { db with countDocs := docs }
    return doc

/-! ## Freezing -/

/-- The document with its snapshot. -/
def CountDoc.freeze (lines : CountLines) (d : CountDoc) : CountDoc :=
  { d.putLines lines with status := .frozen }

/-- An identifier above those of all lines. -/
def Database.nextLineId (db : Database) : ℕ :=
  nextId (db.countDocs.rows.flatMap fun d => d.lines.map CountDocLine.id)

/-- `freeze_doc`. The answer has the numbers of lines and of lot snapshots. -/
def freezeDoc (pms : PmsClient) (docId : ℕ) : Trans (ℕ × ℕ) := do
  let db ← get
  let doc ← requireDoc docId
  Tx.failIf (doc.status ≠ .draft)
    (.valueError s!"count_doc_freeze_requires_draft: current={doc.status.code}")
  let basics ← Tx.ofExcept (pms.getItemBasics (db.books.itemsInStock doc.warehouseId))
  let lines : CountLines :=
    ⟨_, db.books.freezeLines_unique doc.warehouseId db.nextLineId basics⟩
  set (db.reviseDoc docId (CountDoc.freeze lines) fun _ => ⟨rfl, rfl⟩)
  return (lines.1.length, (lines.1.map fun l => l.lotSnapshots.length).sum)

/-! ## Counting -/

/-- `CountDocLineCountPatch`. -/
structure CountPatch where
  lineId : ℕ
  countedQtyInput : ℤ
  /-- The contract asks for a quantity that is not negative. -/
  counted_nonneg : 0 ≤ countedQtyInput

/-- `CountDocLinesUpdateIn` with the document and the clock. -/
structure CountUpdateCall where
  docId : ℕ
  countedByNameSnapshot : Varchar 128
  lines : List CountPatch
  pms : PmsClient
  now : ℤ
  lines_ne : lines ≠ []

/-- `get_base_uom_map`. -/
def getBaseUomMap (pms : PmsClient) (itemIds : List ℕ) : Except Err (ℕ → Option ItemUom) :=
  let ids := (itemIds.filter (0 < ·)).dedup.insertionSort (· ≤ ·)
  if ids = [] then .ok fun _ => none
  else do
    let uoms ← pms.listUoms ids
    return fun itemId => uoms.find? fun u => u.isBase = true ∧ u.itemId = itemId

/-- The line with a count in its base unit. -/
def CountDocLine.count (l : CountDocLine) (uom : ItemUom) (patch : CountPatch) : CountDocLine :=
  { l with
    counted := some {
      itemUomId := uom.id
      uomNameSnapshot := (uom.uomName.clean 64 (by decide)).getD ⟨"None", by decide⟩
      ratioToBaseSnapshot := 1
      qtyInput := patch.countedQtyInput
      qtyBase := patch.countedQtyInput
      diffQtyBase := patch.countedQtyInput - l.snapshotQtyBase
      ratio_pos := le_refl 1
      input_nonneg := patch.counted_nonneg
      base_eq := (mul_one _).symm }
    diff_eq := fun c hc => by
      obtain rfl := Option.some.inj hc
      rfl }

/-- The lines with one of them counted. -/
def CountLines.count (lines : CountLines) (uom : ItemUom) (patch : CountPatch) : CountLines :=
  ⟨lines.1.map fun l => if l.id = patch.lineId then l.count uom patch else l,
    List.pairwise_map.mpr (lines.2.imp fun {a b} hab => by
      unfold CountDocLine.Apart at hab ⊢
      split <;> split <;> exact hab)⟩

/-- One pass of `update_line_counts`. -/
def updateLineCount (pms : PmsClient) (lines : CountLines) (patch : CountPatch) :
    Except Err CountLines := do
  match lines.1.find? fun l => l.id = patch.lineId with
  | none => .error (.lookupError s!"count_doc_line_not_found:{patch.lineId}")
  | some line =>
    match (← getBaseUomMap pms [line.itemId]) line.itemId with
    | none => .error (.lookupError s!"count_doc_line_base_uom_not_found:item_id={line.itemId}")
    | some uom => .ok (lines.count uom patch)

/-- `update_line_counts`. -/
def updateLineCounts (pms : PmsClient) : CountLines → List CountPatch → Except Err CountLines
  | lines, [] => .ok lines
  | lines, patch :: rest => do
    let lines' ← updateLineCount pms lines patch
    updateLineCounts pms lines' rest

/-- The document with new counts; the review of older ones is dropped. -/
def CountDoc.recordCounts (lines : CountLines) (countedBy : Varchar 128) (d : CountDoc) :
    CountDoc :=
  { d.putLines lines with countedByNameSnapshot := some countedBy, reviewedByNameSnapshot := none }

/-- `try_mark_doc_counted`. -/
def CountDoc.tryMarkCounted (now : ℤ) (d : CountDoc) : CountDoc :=
  if d.status = .frozen ∧ d.lines ≠ [] ∧ ∀ l ∈ d.lines, l.counted.isSome then
    { d with status := .counted, countedAt := d.countedAt <|> some now }
  else d

theorem CountDoc.tryMarkCounted_keeps (now : ℤ) (d : CountDoc) :
    (d.tryMarkCounted now).id = d.id ∧ (d.tryMarkCounted now).countNo = d.countNo ∧
      (d.tryMarkCounted now).warehouseId = d.warehouseId ∧
      (d.tryMarkCounted now).lines = d.lines := by
  unfold CountDoc.tryMarkCounted
  split <;> exact ⟨rfl, rfl, rfl, rfl⟩

/-- `update_doc_lines`. The answer has the number of updated lines. -/
def updateDocLines (call : CountUpdateCall) : Trans ℕ := do
  let db ← get
  let doc ← requireDoc call.docId
  Tx.failIf (doc.status ≠ .frozen ∧ doc.status ≠ .counted) (.valueError
    s!"count_doc_lines_update_requires_frozen_or_counted: current={doc.status.code}")
  let countedBy ← Tx.demand (call.countedByNameSnapshot.clean 128 (le_refl _))
    (.valueError "count_doc_lines_update_requires_counted_by_name_snapshot")
  let lines ← Tx.ofExcept (updateLineCounts call.pms ⟨doc.lines, doc.lines_unique⟩ call.lines)
  set (db.reviseDoc call.docId
    (fun d => (d.recordCounts lines countedBy).tryMarkCounted call.now) fun d =>
      ⟨((d.recordCounts lines countedBy).tryMarkCounted_keeps call.now).1,
        ((d.recordCounts lines countedBy).tryMarkCounted_keeps call.now).2.1⟩)
  let _ ← Tx.ofExcept (getBaseUomMap call.pms (lines.1.map CountDocLine.itemId))
  return call.lines.length

/-! ## Posting -/

/-- `CountDocPostIn` with the document, the clock and what the call mints. -/
structure CountPostCall where
  docId : ℕ
  reviewedByNameSnapshot : Varchar 128
  postedAt : ℤ
  eventNo : Varchar 64
  traceId : Varchar 64
  pms : PmsClient

/-- The reason of the movement of a line, as `meta.sub_reason` states it. -/
inductive CountSubReason
  | countConfirm
  | countAdjust
  deriving DecidableEq, Repr

/-- The text of the reason. -/
def CountSubReason.code : CountSubReason → String
  | countConfirm => "COUNT_CONFIRM"
  | countAdjust => "COUNT_ADJUST"

/-- The movement of one lot of a line. -/
def countAdjustCall (call : CountPostCall) (warehouseId eventId : ℕ) (line : CountDocLine)
    (snapshot : LotSnapshot) (delta : ℤ) (subReason : CountSubReason) : AdjustCall where
  itemId := line.itemId
  warehouseId := warehouseId
  lotId := some snapshot.lotId
  delta := delta
  reason := "ADJUSTMENT"
  ref := call.eventNo.text
  refLine := some line.lineNo
  occurredAt := some call.postedAt
  info := ⟨subReason = .countConfirm, some subReason.code, some eventId⟩
  lotCode := snapshot.lotCodeSnapshot.map Varchar.text
  productionDate := none
  expiryDate := none
  traceId := some call.traceId.text

/-- Move one lot of a line. -/
def countAdjust (call : CountPostCall) (knownEvents : List ℕ) (warehouseId eventId : ℕ)
    (line : CountDocLine) (snapshot : LotSnapshot) (delta : ℤ) (subReason : CountSubReason) :
    Tx Books Err PUnit := do
  let _ ← adjustLot ⟨call.pms, knownEvents, call.postedAt⟩
    (countAdjustCall call warehouseId eventId line snapshot delta subReason)
  pure ⟨⟩

/-- The loop that takes a shortage from the lots; it returns what could not be taken. -/
def takeFromLots (call : CountPostCall) (knownEvents : List ℕ) (warehouseId eventId : ℕ)
    (line : CountDocLine) : ℤ → List LotSnapshot → Tx Books Err ℤ
  | remaining, [] => pure remaining
  | remaining, s :: rest =>
    if remaining ≤ 0 then pure remaining
    else if s.snapshotQtyBase ≤ 0 then
      takeFromLots call knownEvents warehouseId eventId line remaining rest
    else do
      countAdjust call knownEvents warehouseId eventId line s
        (-min remaining s.snapshotQtyBase) .countAdjust
      takeFromLots call knownEvents warehouseId eventId line
        (remaining - min remaining s.snapshotQtyBase) rest

/-- `line.diff_qty_base or 0`. -/
def CountDocLine.diff (l : CountDocLine) : ℤ := (l.counted.map CountedQty.diffQtyBase).getD 0

/-- `_post_line_diff`. -/
def postLineDiff (call : CountPostCall) (knownEvents : List ℕ) (warehouseId eventId : ℕ)
    (line : CountDocLine) : Tx Books Err PUnit :=
  match line.sortedLotSnapshots with
  | [] => throw (.runtimeError s!"count_doc_post_missing_lot_snapshots: line_id={line.id}")
  | target :: rest =>
    if line.diff = 0 then
      countAdjust call knownEvents warehouseId eventId line target 0 .countConfirm
    else if 0 < line.diff then
      countAdjust call knownEvents warehouseId eventId line target line.diff .countAdjust
    else do
      let remaining ← takeFromLots call knownEvents warehouseId eventId line (-line.diff)
        (target :: rest)
      Tx.failIf (remaining ≠ 0) (.runtimeError
        s!"count_doc_post_unallocated_negative_diff: line_id={line.id}, remaining={remaining}")

/-- Every line has been counted. -/
def checkAllCounted (lines : List CountDocLine) : Except Err Unit :=
  match lines.find? fun l => l.counted = none with
  | some l => .error (.valueError s!"count_doc_post_requires_all_lines_counted: line_id={l.id}")
  | none => .ok ()

/-- The values of the event of a posted document. -/
def countEventValues (call : CountPostCall) (doc : CountDoc) : EventValues where
  eventNo := call.eventNo.text
  eventType := .count
  warehouseId := doc.warehouseId
  sourceType := .manualCount
  sourceRef := some doc.countNo.text
  occurredAt := call.postedAt
  traceId := call.traceId.text
  eventKind := .commit
  targetEventId := none
  createdBy := doc.createdBy
  remark := some (match doc.remark with
    | some remark =>
      if remark.text = "" then s!"post count doc {doc.countNo.text}" else strip remark.text
    | none => s!"post count doc {doc.countNo.text}")

/-- The document with its reviewer. -/
def CountDoc.review (reviewedBy : Varchar 128) (d : CountDoc) : CountDoc :=
  { d with reviewedByNameSnapshot := some reviewedBy }

/-- `mark_doc_posted` on one row. -/
def CountDoc.post (eventId : ℕ) (postedAt : ℤ) (d : CountDoc) : CountDoc :=
  if d.status = .counted then
    { d with status := .posted, postedEventId := some eventId, postedAt := some postedAt }
  else d

theorem CountDoc.post_keeps (eventId : ℕ) (postedAt : ℤ) (d : CountDoc) :
    (d.post eventId postedAt).id = d.id ∧ (d.post eventId postedAt).countNo = d.countNo ∧
      (d.post eventId postedAt).warehouseId = d.warehouseId ∧
      (d.post eventId postedAt).lines = d.lines := by
  unfold CountDoc.post
  split <;> exact ⟨rfl, rfl, rfl, rfl⟩

/-- `mark_doc_posted`. -/
def markDocPosted (docId eventId : ℕ) (postedAt : ℤ) : Trans PUnit := do
  let db ← get
  Tx.failIf (¬∃ d ∈ db.countDocs.rows, d.id = docId ∧ d.status = .counted)
    (.lookupError s!"count_doc_not_counted_or_not_found:{docId}")
  set (db.reviseDoc docId (CountDoc.post eventId postedAt) fun d =>
    ⟨(d.post_keeps eventId postedAt).1, (d.post_keeps eventId postedAt).2.1⟩)

/-- The checks of a counted document before it is posted. -/
def checkPostable (doc : CountDoc) : Except Err Unit :=
  if cleanText (doc.countedByNameSnapshot.map Varchar.text) = none then
    .error (.valueError "count_doc_post_requires_counted_by_name_snapshot")
  else if doc.lines = [] then
    .error (.valueError s!"count_doc_post_requires_lines: doc_id={doc.id}")
  else checkAllCounted doc.lines

/-- `post_doc`. The answer has the event and the time of the posting. -/
def postDoc (call : CountPostCall) : Trans (ℕ × ℤ) := do
  let doc ← requireDoc call.docId
  if doc.status = .posted then
    match doc.postedEventId, doc.postedAt with
    | some eventId, some postedAt => return (eventId, postedAt)
    | _, _ => throw (.runtimeError s!"count_doc_posted_missing_bridge_fields:{call.docId}")
  else do
    Tx.failIf (doc.status ≠ .counted)
      (.valueError s!"count_doc_post_requires_counted: current={doc.status.code}")
    let reviewedBy ← Tx.demand (call.reviewedByNameSnapshot.clean 128 (le_refl _))
      (.valueError "count_doc_post_requires_reviewed_by_name_snapshot")
    modify fun db => db.reviseDoc call.docId (CountDoc.review reviewedBy) fun _ => ⟨rfl, rfl⟩
    Tx.ofExcept (checkPostable doc)
    let event ← recordEvent (countEventValues call doc)
    let db ← get
    onBooks (forM doc.lines (postLineDiff call db.eventBook.ids doc.warehouseId event.id))
    markDocPosted call.docId event.id call.postedAt
    return (event.id, call.postedAt)

/-! ## Voiding -/

/-- `mark_doc_voided` on one row. -/
def CountDoc.void (d : CountDoc) : CountDoc :=
  if d.status.Active then { d with status := .voided } else d

theorem CountDoc.void_keeps (d : CountDoc) :
    d.void.id = d.id ∧ d.void.countNo = d.countNo ∧ d.void.warehouseId = d.warehouseId := by
  unfold CountDoc.void
  split <;> exact ⟨rfl, rfl, rfl⟩

/-- `void_doc`. -/
def voidDoc (docId : ℕ) : Trans PUnit := do
  let doc ← requireDoc docId
  Tx.failIf (doc.status = .posted) (.valueError "count_doc_void_forbidden_after_posted")
  let db ← get
  Tx.failIf (¬∃ d ∈ db.countDocs.rows, d.id = docId ∧ d.status.Active)
    (.lookupError s!"count_doc_not_voidable_or_not_found:{docId}")
  set (db.reviseDoc docId CountDoc.void fun d => ⟨d.void_keeps.1, d.void_keeps.2.1⟩)

/-! ## What the operations do -/

variable {db db' : Database}

theorem requireDoc_run_ok {docId : ℕ} {doc : CountDoc} :
    (requireDoc docId).run db = .ok (doc, db') ↔ db.findCountDoc docId = some doc ∧ db = db' := by
  unfold requireDoc
  simp only [Tx.run_bind_ok, Tx.run_get_ok, Tx.run_demand_ok]
  constructor
  · rintro ⟨_, _, ⟨rfl, rfl⟩, h⟩
    exact h
  · intro h
    exact ⟨db, db, ⟨rfl, rfl⟩, h⟩

/-- A document stands in the way exactly when one of the warehouse is active. -/
theorem Database.activeDocByWarehouse_eq_none {w : ℕ} :
    db.activeDocByWarehouse w = none ↔
      ∀ d ∈ db.countDocs.rows, d.warehouseId = w → ¬d.status.Active := by
  unfold Database.activeDocByWarehouse CountDoc.latest?
  rw [List.head?_eq_none_iff, ← List.length_eq_zero_iff, List.length_insertionSort,
    List.length_eq_zero_iff, List.filter_eq_nil_iff]
  simp

/-- A created document is a draft without lines, the only active one of its warehouse. -/
theorem createDoc_run_ok {call : CountCreateCall} {doc : CountDoc}
    (h : (createDoc call).run db = .ok (doc, db')) :
    (∀ d ∈ db.countDocs.rows, d.warehouseId = call.warehouseId → ¬d.status.Active) ∧
      db.HasWarehouse call.warehouseId ∧ (∃ id, doc = call.doc id) ∧
      db'.countDocs.rows = db.countDocs.rows ++ [doc] ∧
      db' = { db with countDocs := db'.countDocs } := by
  unfold createDoc at h
  simp only [Tx.run_bind_ok, Tx.run_get_ok] at h
  obtain ⟨_, _, ⟨rfl, rfl⟩, h⟩ := h
  split at h
  · exact (Tx.run_throw_ok.mp h).elim
  · rename_i hnone
    simp only [Tx.run_bind_ok, Tx.run_demand_ok, Tx.run_failIf_ok, Tx.run_set_ok,
      Tx.run_pure_ok] at h
    obtain ⟨docs, _, ⟨hinsert, rfl⟩, _, _, ⟨hw, rfl⟩, _, _, rfl, rfl, rfl⟩ := h
    exact ⟨Database.activeDocByWarehouse_eq_none.mp hnone, not_not.mp hw, ⟨_, rfl⟩,
      (Table.insert_eq_some.mp hinsert).2, rfl⟩

/-- A frozen document was a draft and has the lines of the current stock. -/
theorem freezeDoc_run_ok {pms : PmsClient} {docId : ℕ} {out : ℕ × ℕ}
    (h : (freezeDoc pms docId).run db = .ok (out, db')) :
    ∃ doc basics, db.findCountDoc docId = some doc ∧ doc.status = .draft ∧
      db' = db.reviseDoc docId (CountDoc.freeze
        ⟨_, db.books.freezeLines_unique doc.warehouseId db.nextLineId basics⟩)
        fun _ => ⟨rfl, rfl⟩ := by
  unfold freezeDoc at h
  simp only [Tx.run_bind_ok, Tx.run_get_ok, requireDoc_run_ok, Tx.run_failIf_ok,
    Tx.run_ofExcept_ok, Tx.run_set_ok, Tx.run_pure_ok] at h
  obtain ⟨_, _, ⟨rfl, rfl⟩, doc, _, ⟨hfind, rfl⟩, _, _, ⟨hstatus, rfl⟩, basics, _, ⟨-, rfl⟩, _, _,
    rfl, -, rfl⟩ := h
  exact ⟨doc, basics, hfind, not_not.mp hstatus, rfl⟩

/-- The part of a line that freezing fixes. -/
structure Baseline where
  lineNo : ℕ
  itemId : ℕ
  snapshotQtyBase : ℤ
  lotSnapshots : List LotSnapshot

/-- The baseline of a line. -/
def CountDocLine.baseline (l : CountDocLine) : Baseline :=
  ⟨l.lineNo, l.itemId, l.snapshotQtyBase, l.lotSnapshots⟩

/-- Counting lines keeps their baselines. -/
theorem updateLineCounts_eq_ok {pms : PmsClient} {lines lines' : CountLines}
    {patches : List CountPatch} (h : updateLineCounts pms lines patches = .ok lines') :
    lines'.1.map CountDocLine.baseline = lines.1.map CountDocLine.baseline := by
  induction patches generalizing lines with
  | nil =>
    cases h
    rfl
  | cons patch rest ih =>
    simp only [updateLineCounts, updateLineCount, bind, Except.bind] at h
    split at h
    · cases h
    · rename_i lines₁ hline
      rw [ih h]
      split at hline
      · cases hline
      · split at hline
        · cases hline
        · split at hline
          · cases hline
          · cases hline
            change (lines.1.map _).map CountDocLine.baseline = _
            rw [List.map_map]
            refine List.map_congr_left ?_
            intro l _
            simp only [Function.comp_apply]
            split <;> rfl

/-- Updated lines belong to a frozen or counted document and keep their baselines. -/
theorem updateDocLines_run_ok {call : CountUpdateCall} {out : ℕ}
    (h : (updateDocLines call).run db = .ok (out, db')) :
    ∃ doc countedBy lines, db.findCountDoc call.docId = some doc ∧
      (doc.status = .frozen ∨ doc.status = .counted) ∧
      call.countedByNameSnapshot.clean 128 (le_refl _) = some countedBy ∧
      lines.1.map CountDocLine.baseline = doc.lines.map CountDocLine.baseline ∧
      db' = db.reviseDoc call.docId
        (fun d => (d.recordCounts lines countedBy).tryMarkCounted call.now) fun d =>
        ⟨((d.recordCounts lines countedBy).tryMarkCounted_keeps call.now).1,
          ((d.recordCounts lines countedBy).tryMarkCounted_keeps call.now).2.1⟩ := by
  unfold updateDocLines at h
  simp only [Tx.run_bind_ok, Tx.run_get_ok, requireDoc_run_ok, Tx.run_failIf_ok,
    Tx.run_demand_ok, Tx.run_ofExcept_ok, Tx.run_set_ok, Tx.run_pure_ok] at h
  obtain ⟨_, _, ⟨rfl, rfl⟩, doc, _, ⟨hfind, rfl⟩, _, _, ⟨hstatus, rfl⟩, countedBy, _, ⟨hname, rfl⟩,
    lines, _, ⟨hlines, rfl⟩, _, _, rfl, _, _, ⟨-, rfl⟩, -, rfl⟩ := h
  refine ⟨doc, countedBy, lines, hfind, ?_, hname, updateLineCounts_eq_ok hlines, rfl⟩
  by_cases hfrozen : doc.status = .frozen
  · exact .inl hfrozen
  · exact .inr (by_contra fun hcounted => hstatus ⟨hfrozen, hcounted⟩)

theorem voidDoc_run_ok {docId : ℕ} {u : PUnit} (h : (voidDoc docId).run db = .ok (u, db')) :
    ∃ doc, db.findCountDoc docId = some doc ∧
      db' = db.reviseDoc docId CountDoc.void fun d => ⟨d.void_keeps.1, d.void_keeps.2.1⟩ := by
  unfold voidDoc at h
  simp only [Tx.run_bind_ok, Tx.run_get_ok, requireDoc_run_ok, Tx.run_failIf_ok,
    Tx.run_set_ok] at h
  obtain ⟨doc, _, ⟨hfind, rfl⟩, _, _, ⟨-, rfl⟩, _, _, ⟨rfl, rfl⟩, _, _, ⟨-, rfl⟩, rfl⟩ := h
  exact ⟨doc, hfind, rfl⟩

/-- The key of a count movement fits its columns. -/
theorem countAdjustCall_verbatim (call : CountPostCall) (w eventId : ℕ) (line : CountDocLine)
    (s : LotSnapshot) (delta : ℤ) (subReason : CountSubReason) :
    (countAdjustCall call w eventId line s delta subReason).Verbatim := by
  have hreason : "ADJUSTMENT".length ≤ 32 := by decide
  have href : call.eventNo.text.length ≤ 128 := call.eventNo.fits.trans (by decide)
  exact AdjustCall.verbatim_of_fits hreason href

theorem countAdjust_bookedIn (call : CountPostCall) (knownEvents : List ℕ) (w eventId : ℕ)
    (line : CountDocLine) (s : LotSnapshot) (delta : ℤ) (subReason : CountSubReason) :
    Tx.Follows (BookedIn w) (countAdjust call knownEvents w eventId line s delta subReason) := by
  have hadjust : Tx.Follows (BookedIn w) (adjustLot ⟨call.pms, knownEvents, call.postedAt⟩
      (countAdjustCall call w eventId line s delta subReason)) :=
    fun b out b' h => adjustLot_bookedIn
      ((countAdjustCall_verbatim call w eventId line s delta subReason).not_swallowed b) h
  exact hadjust.bind fun _ => Tx.follows_pure _

theorem takeFromLots_bookedIn (call : CountPostCall) (knownEvents : List ℕ) (w eventId : ℕ)
    (line : CountDocLine) (remaining : ℤ) (snapshots : List LotSnapshot) :
    Tx.Follows (BookedIn w)
      (takeFromLots call knownEvents w eventId line remaining snapshots) := by
  induction snapshots generalizing remaining with
  | nil => exact Tx.follows_pure _
  | cons s rest ih =>
    unfold takeFromLots
    split
    · exact Tx.follows_pure _
    · split
      · exact ih _
      · exact (countAdjust_bookedIn _ _ _ _ _ _ _ _).bind fun _ => ih _

/-- Posting a line books stock of the warehouse of the document. -/
theorem postLineDiff_bookedIn (call : CountPostCall) (knownEvents : List ℕ) (w eventId : ℕ)
    (line : CountDocLine) :
    Tx.Follows (BookedIn w) (postLineDiff call knownEvents w eventId line) := by
  unfold postLineDiff
  split
  · exact Tx.follows_throw _
  · split
    · exact countAdjust_bookedIn _ _ _ _ _ _ _ _
    · split
      · exact countAdjust_bookedIn _ _ _ _ _ _ _ _
      · exact (takeFromLots_bookedIn _ _ _ _ _ _ _).bind fun _ => Tx.follows_failIf _ _

/-- A posted row as a whole: reviewed and marked. -/
def CountDoc.reviewAndPost (reviewedBy : Varchar 128) (eventId : ℕ) (postedAt : ℤ) (d : CountDoc) :
    CountDoc :=
  (d.review reviewedBy).post eventId postedAt

/-- What posting a counted document has done. -/
structure Posted (call : CountPostCall) (db : Database) (doc : CountDoc) (event : WmsEvent)
    (db' : Database) : Prop where
  found : db.findCountDoc call.docId = some doc
  counted : doc.status = .counted
  postable : checkPostable doc = .ok ()
  event_row : (countEventValues call doc).row (nextId db.eventBook.ids) = .ok event
  events_eq : db'.eventBook.events.rows = db.eventBook.events.rows ++ [event]
  outboundLines_eq : db'.eventBook.outboundLines = db.eventBook.outboundLines
  inboundLines_eq : db'.eventBook.inboundLines = db.eventBook.inboundLines
  /-- Every line is posted in order. -/
  lines_run : (forM doc.lines (postLineDiff call db'.eventBook.ids doc.warehouseId event.id)).run
    db.books = .ok (⟨⟩, db'.books)
  docs_eq : ∃ reviewedBy, db'.countDocs.rows = db.countDocs.rows.map fun d =>
    if d.id = call.docId then d.reviewAndPost reviewedBy event.id call.postedAt else d
  /-- Nothing else has changed. -/
  frame : db' = { db with
    countDocs := db'.countDocs, eventBook := db'.eventBook, books := db'.books }

/-- Posting answers for a document that is posted already, or posts a counted one. -/
theorem postDoc_run_ok {call : CountPostCall} {out : ℕ × ℤ}
    (h : (postDoc call).run db = .ok (out, db')) :
    ∃ doc, db.findCountDoc call.docId = some doc ∧
      ((doc.status = .posted ∧ db = db') ∨ ∃ event, Posted call db doc event db') := by
  unfold postDoc at h
  simp only [Tx.run_bind_ok, requireDoc_run_ok] at h
  obtain ⟨doc, _, ⟨hfind, rfl⟩, h⟩ := h
  refine ⟨doc, hfind, ?_⟩
  split at h
  · rename_i hposted
    split at h
    · exact .inl ⟨hposted, (Tx.run_pure_ok.mp h).2⟩
    · exact (Tx.run_throw_ok.mp h).elim
  · right
    unfold markDocPosted at h
    simp only [Tx.run_bind_ok, Tx.run_failIf_ok, Tx.run_demand_ok, Tx.run_modify_ok,
      Tx.run_ofExcept_ok, Tx.run_get_ok, onBooks_run_ok, Tx.run_set_ok, Tx.run_pure_ok] at h
    obtain ⟨_, _, ⟨hstatus, rfl⟩, reviewedBy, _, ⟨-, rfl⟩, _, _, rfl, _, _, ⟨hcheck, rfl⟩, event, _,
      hevent, _, _, ⟨rfl, rfl⟩, _, _, ⟨b, hlines, rfl⟩, _, _, ⟨_, _, ⟨rfl, rfl⟩, _, _, ⟨-, rfl⟩,
      rfl⟩, -, rfl⟩ := h
    obtain ⟨-, hrow, -, eb, hevents, houtbound, hinbound, rfl⟩ := recordEvent_run_ok hevent
    refine ⟨event, hfind, not_not.mp hstatus, hcheck, hrow, hevents, houtbound, hinbound, hlines,
      ⟨reviewedBy, ?_⟩, rfl⟩
    change (db.countDocs.rows.map _).map _ = _
    rw [List.map_map]
    refine List.map_congr_left ?_
    intro d _
    simp only [Function.comp_apply]
    by_cases hd : d.id = call.docId
    · have hreview : (d.review reviewedBy).id = call.docId := hd
      rw [if_pos hd, if_pos hreview, if_pos hd]
      rfl
    · rw [if_neg hd, if_neg hd, if_neg hd]

/-- Posting books stock of the warehouse of the document. -/
theorem Posted.booked {call : CountPostCall} {doc : CountDoc} {event : WmsEvent}
    (h : Posted call db doc event db') : BookedIn doc.warehouseId db.books db'.books :=
  Tx.follows_forM _ (fun line _ => postLineDiff_bookedIn call _ _ _ line) _ _ _ h.lines_run

end Wms

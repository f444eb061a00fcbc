import Wms.Count.Canonical
import Wms.StockEqualsLedger

/-!
# A rebuild is not seen

After `rebuild_stocks_lot` every operation answers as it would have answered without it,
and leaves the same ledger and the same balances. The one thing that a client can notice
is the text of a refusal: a shipment from a slot that holds nothing is refused because the
slot is not there, and no longer because it holds too little.
-/

namespace Wms

open Foundation

/-- The second database has shed rows of `stocks_lot` that hold zero, and its count documents
may list the lots of a line in another order. -/
inductive Database.ZerosShed : Database → Database → Prop
  | intro {db : Database} {b : Books} {docs : Table CountDoc CountDoc.Conflict}
      (hbooks : db.books.ZerosShed b) (hdocs : SameDocs db.countDocs.rows docs.rows) :
      ZerosShed db { db with books := b, countDocs := docs }

namespace Database.ZerosShed

variable {db db' : Database}

theorem of_parts (hbooks : db.books.ZerosShed db'.books)
    (hdocs : SameDocs db.countDocs.rows db'.countDocs.rows)
    (hrest : db' = { db with books := db'.books, countDocs := db'.countDocs }) :
    db.ZerosShed db' := by
  rw [hrest]
  exact .intro hbooks hdocs

theorem books (h : db.ZerosShed db') : db.books.ZerosShed db'.books := by
  cases h with
  | intro hbooks hdocs => exact hbooks

theorem docs (h : db.ZerosShed db') : SameDocs db.countDocs.rows db'.countDocs.rows := by
  cases h with
  | intro hbooks hdocs => exact hdocs

theorem eventBook_eq (h : db.ZerosShed db') : db'.eventBook = db.eventBook := by
  cases h
  rfl

theorem findCountDoc (h : db.ZerosShed db') (docId : ℕ) :
    Option.Rel CountDoc.Same (db.findCountDoc docId) (db'.findCountDoc docId) :=
  h.docs.find? fun d d' hd => by rw [hd.id_eq]

theorem reviseDoc (h : db.ZerosShed db') {docId : ℕ} {f g : CountDoc → CountDoc}
    {hf : ∀ d, (f d).id = d.id ∧ (f d).countNo = d.countNo}
    {hg : ∀ d, (g d).id = d.id ∧ (g d).countNo = d.countNo}
    (hfg : ∀ d d', d.Same d' → (f d).Same (g d')) :
    (db.reviseDoc docId f hf).ZerosShed (db'.reviseDoc docId g hg) := by
  cases h with
  | intro hbooks hdocs => exact .of_parts hbooks (hdocs.revise hfg) rfl

end Database.ZerosShed

open Database (ZerosShed)

/-! ## Statements -/

theorem onEvents_blind {α : Type} (x : Tx EventBook Err α) : Tx.Blind ZerosShed (onEvents x) := by
  refine Tx.Alike.zoom (Tx.blind_eq x) (fun db db' h => h.eventBook_eq.symm) fun db db' eb eb' h heq => ?_
  cases h with
  | intro hbooks hdocs =>
    rw [← heq]
    exact .of_parts hbooks hdocs rfl

theorem onExports_blind {α : Type} (x : Tx ExportRecords Err α) :
    Tx.Blind ZerosShed (onExports x) := by
  refine Tx.Alike.zoom (Tx.blind_eq x) (fun db db' h => by cases h; rfl) fun db db' r r' h heq => ?_
  cases h with
  | intro hbooks hdocs =>
    rw [← heq]
    exact .of_parts hbooks hdocs rfl

theorem onBooks_alike {α : Type} {E : Err → Err → Prop} {x : Tx Books Err α}
    (hx : Tx.Alike Books.ZerosShed Books.ZerosShed E Eq x x) :
    Tx.Alike ZerosShed ZerosShed E Eq (onBooks x) (onBooks x) := by
  refine Tx.Alike.zoom hx (fun db db' h => h.books) fun db db' b b' h hb => ?_
  cases h with
  | intro hbooks hdocs => exact .of_parts hb hdocs rfl

theorem onBooks_blind {α : Type} {x : Tx Books Err α} (hx : Tx.Blind Books.ZerosShed x) :
    Tx.Blind ZerosShed (onBooks x) :=
  onBooks_alike hx

theorem ensureWarehouseNotFrozen_blind (w : ℕ) :
    Tx.Blind ZerosShed (ensureWarehouseNotFrozen w) := by
  refine Tx.Alike.get_bind fun db db' h => ?_
  have hfrozen : Option.Rel CountDoc.Same (db.frozenCountDoc w) (db'.frozenCountDoc w) :=
    (h.docs.filter fun d d' hd => by rw [hd.warehouseId_eq, hd.status_eq]).latest? fun _ => rfl
  revert hfrozen
  generalize db.frozenCountDoc w = o, db'.frozenCountDoc w = o'
  intro hfrozen
  cases hfrozen with
  | none => exact Tx.alike_pure rfl
  | some hd =>
    refine Tx.alike_throw ?_
    rw [hd.id_eq, hd.countNo_eq, hd.field_eq (f := CountDoc.snapshotAt) fun _ => rfl]

theorem recordEvent_blind (v : EventValues) : Tx.Blind ZerosShed (recordEvent v) := by
  refine Tx.blind_get_bind (fun db db' h => by cases h; rfl) fun db => ?_
  exact (Tx.blind_failIf _ _).then fun _ => onEvents_blind _

/-! ## Shipments -/

theorem handOff_blind (docType : SourceDocType) (docId : ℕ) (docNo : String) (v : HandoffValues) :
    Tx.Blind ZerosShed (handOff docType docId docNo v) :=
  (onExports_blind _).then fun _ => onExports_blind _

theorem writeEventAndLedger_alike (head : ShipmentHead) (lines : List OutboundLineValues) :
    Tx.Alike ZerosShed ZerosShed SameRefusal Eq (writeEventAndLedger head lines)
      (writeEventAndLedger head lines) := by
  have hrefl : ∀ e, SameRefusal e e := fun _ => .inl rfl
  refine Tx.Blind.bind hrefl (ensureWarehouseNotFrozen_blind _) fun _ => ?_
  refine Tx.Blind.bind hrefl (recordEvent_blind _) fun event => ?_
  refine Tx.Alike.get_bind fun db db' h => ?_
  cases h with
  | intro hbooks hdocs =>
    cases hbooks with
    | intro hstock hslots =>
      refine Tx.Blind.bind hrefl (onEvents_blind _) fun saved => ?_
      refine Tx.Alike.get_bind fun db₁ db₁' h₁ => ?_
      rw [h₁.eventBook_eq]
      refine (onBooks_alike (Tx.alike_forM saved fun l _ => shipLine_alike _ event l)).bind ?_
      exact fun _ _ _ => Tx.alike_pure rfl

theorem checkOrderLines_eq {db db' : Database} (h : db.ZerosShed db') (order : Order)
    (call : OrderSubmitCall) (lines : List OutboundLineValues) :
    checkOrderLines db' order call lines = checkOrderLines db order call lines := by
  cases h with
  | intro hbooks hdocs =>
    cases hbooks with
    | intro hstock hslots =>
      induction lines with
      | nil => rfl
      | cons l rest ih =>
        rw [checkOrderLines, checkOrderLines, ih]
        rfl

theorem prepareOrderSubmit_eq {db db' : Database} (h : db.ZerosShed db') (pms : PmsClient)
    (call : OrderSubmitCall) : prepareOrderSubmit pms db' call = prepareOrderSubmit pms db call := by
  unfold prepareOrderSubmit
  simp only [checkOrderLines_eq h]
  cases h
  rfl

theorem submitOrderOutboundEvent_alike (pms : PmsClient) (call : OrderSubmitCall) :
    Tx.Alike ZerosShed ZerosShed SameRefusal Eq (submitOrderOutboundEvent pms call)
      (submitOrderOutboundEvent pms call) := by
  have hrefl : ∀ e, SameRefusal e e := fun _ => .inl rfl
  refine Tx.Alike.get_bind fun db db' h => ?_
  rw [prepareOrderSubmit_eq h]
  cases h with
  | intro hbooks hdocs =>
    refine Tx.Blind.bind hrefl (Tx.blind_ofExcept _) fun prepared => ?_
    refine (writeEventAndLedger_alike _ _).bind fun written written' heq => ?_
    rw [← heq]
    change Tx.Alike _ _ _ _ (if OrderCompletedAfterSubmit db call then _ else _)
      (if OrderCompletedAfterSubmit db call then _ else _)
    split
    · exact Tx.Blind.bind hrefl (handOff_blind _ _ _ _) fun _ => Tx.alike_pure rfl
    · exact Tx.alike_pure rfl

theorem completeManualDoc_blind (docId : ℕ) : Tx.Blind ZerosShed (completeManualDoc docId) := by
  refine Tx.Alike.get_bind fun db db' h => ?_
  cases h with
  | intro hbooks hdocs =>
    refine Tx.Blind.bind (fun _ => rfl) (Tx.blind_failIf _ _) fun _ => ?_
    exact Tx.alike_set (.of_parts hbooks hdocs rfl)

theorem submitManualOutboundEvent_alike (call : ManualSubmitCall) :
    Tx.Alike ZerosShed ZerosShed SameRefusal Eq (submitManualOutboundEvent call)
      (submitManualOutboundEvent call) := by
  have hrefl : ∀ e, SameRefusal e e := fun _ => .inl rfl
  refine Tx.Alike.get_bind fun db db' h => ?_
  cases h with
  | intro hbooks hdocs =>
    refine Tx.Blind.bind hrefl (Tx.blind_ofExcept (prepareManualSubmit db call)) fun prepared => ?_
    refine (writeEventAndLedger_alike _ _).bind fun written written' heq => ?_
    rw [← heq]
    refine Tx.Alike.get_bind fun db₁ db₁' h₁ => ?_
    cases h₁ with
    | intro hbooks₁ hdocs₁ =>
      change Tx.Alike _ _ _ _ (if ManualCompleted db₁ call.docId then _ else _)
        (if ManualCompleted db₁ call.docId then _ else _)
      split
      · refine Tx.Blind.bind hrefl (completeManualDoc_blind _) fun _ => ?_
        exact Tx.Blind.bind hrefl (handOff_blind _ _ _ _) fun _ => Tx.alike_pure rfl
      · exact Tx.alike_pure rfl

/-! ## Receipts and reversals -/

theorem receiveEntry_blind (call : OperationCall) (receipt : InboundReceipt) (event : WmsEvent)
    (line : ReceiptLine) (policy : ItemPolicy) (st : OperationProgress) (entry : OperationEntryIn) :
    Tx.Blind ZerosShed (receiveEntry call receipt event line policy st entry) := by
  refine (Tx.blind_ofExcept _).then fun uom => (Tx.blind_failIf _ _).then fun _ =>
    (Tx.blind_ofExcept _).then fun _ => (Tx.blind_ofExcept _).then fun _ =>
    (Tx.blind_ofExcept _).then fun _ => ?_
  refine (onBooks_blind (resolveInboundLot_blind _ _ _ _ _ _)).then fun lotId =>
    (Tx.blind_ofExcept _).then fun opLine => (onEvents_blind _).then fun _ => ?_
  refine Tx.blind_get_bind (fun db db' h => by rw [h.eventBook_eq]) fun db => ?_
  exact (onBooks_blind (receiveStock_blind _ _ _ _)).then fun _ => Tx.blind_pure _

theorem receiveLine_blind (call : OperationCall) (receipt : InboundReceipt) (event : WmsEvent)
    (st : OperationProgress) (raw : OperationLineIn) :
    Tx.Blind ZerosShed (receiveLine call receipt event st raw) :=
  (Tx.blind_demand _ _).then fun line => (Tx.blind_ofExcept _).then fun _ =>
    (Tx.blind_demand _ _).then fun policy =>
      Tx.blind_foldlM _ (receiveEntry_blind call receipt event line policy) st

theorem submitInboundOperation_blind (call : OperationCall) :
    Tx.Blind ZerosShed (submitInboundOperation call) := by
  refine Tx.blind_get_bind (fun db db' h => by cases h; rfl) fun db => ?_
  refine (Tx.blind_demand _ _).then fun receipt => (Tx.blind_failIf _ _).then fun _ =>
    (ensureWarehouseNotFrozen_blind _).then fun _ => (Tx.blind_ofExcept _).then fun name =>
    (recordEvent_blind _).then fun event =>
    (Tx.blind_foldlM _ (receiveLine_blind call receipt event) _).then fun st => ?_
  refine Tx.Alike.bind (Tx.alike_modify fun db db' h => ?_) fun _ _ _ => Tx.blind_pure event
  cases h with
  | intro hbooks hdocs =>
    exact .of_parts hbooks hdocs rfl

theorem commitLine_blind (call : CommitCall) (event : WmsEvent) (l : ResolvedCommitLine) :
    Tx.Blind ZerosShed (commitLine call event l) := by
  refine (onEvents_blind _).then fun _ => (ensureWarehouseNotFrozen_blind _).then fun _ => ?_
  refine Tx.blind_get_bind (fun db db' h => by rw [h.eventBook_eq]) fun db => ?_
  exact (onBooks_blind (adjustLot_blind _ _)).then fun _ => Tx.blind_pure _

theorem commitInbound_blind (call : CommitCall) : Tx.Blind ZerosShed (commitInbound call) := by
  have hresolve : ∀ p : CommitLineIn × ℕ, Tx.Blind Books.ZerosShed (resolveCommitLine call p.2 p.1) := by
    intro p
    refine (Tx.blind_ofExcept _).then fun prepared => ?_
    exact (resolveInboundLot_blind _ _ _ _ _ _).then fun lotId => Tx.blind_pure _
  refine (Tx.blind_ofExcept _).then fun _ =>
    (onBooks_blind (Tx.blind_mapM _ fun p _ => hresolve p)).then fun resolved =>
    (recordEvent_blind _).then fun event => ?_
  exact (Tx.blind_forM _ fun l _ => commitLine_blind call event l).then fun _ => Tx.blind_pure _

theorem reverseEvent_blind {L : Type} (kind : ReversalKind L) (call : ReversalCall) :
    Tx.Blind ZerosShed (reverseEvent kind call) := by
  have hline : ∀ w eventId l, Tx.Blind ZerosShed (kind.reverseLine call w eventId l) := by
    intro w eventId l
    refine (Tx.blind_ofExcept _).then fun _ => (onEvents_blind _).then fun _ => ?_
    refine Tx.blind_get_bind (fun db db' h => by rw [h.eventBook_eq]) fun db => onBooks_blind ?_
    exact (adjustLot_blind _ _).then fun _ => Tx.blind_pure _
  refine Tx.blind_get_bind (fun db db' h => by rw [h.eventBook_eq]) fun db => ?_
  split
  · exact Tx.blind_throw _
  · refine (Tx.blind_ofExcept _).then fun original => (Tx.blind_failIf _ _).then fun _ =>
      (ensureWarehouseNotFrozen_blind _).then fun _ => (recordEvent_blind _).then fun event =>
      (Tx.blind_forM _ fun l _ => hline _ _ l).then fun _ => ?_
    refine Tx.Alike.bind (Tx.alike_modify fun db db' h => ?_) fun _ _ _ => Tx.blind_pure event
    cases h with
    | intro hbooks hdocs =>
      exact .of_parts hbooks hdocs rfl

/-! ## Count documents -/

theorem requireDoc_alike (docId : ℕ) :
    Tx.Alike ZerosShed ZerosShed Eq CountDoc.Same (requireDoc docId) (requireDoc docId) :=
  Tx.Alike.get_bind fun _ _ h => Tx.alike_demand (h.findCountDoc docId) _

theorem createDoc_blind (call : CountCreateCall) : Tx.Blind ZerosShed (createDoc call) := by
  refine Tx.Alike.get_bind fun db db' h => ?_
  have hactive : Option.Rel CountDoc.Same (db.activeDocByWarehouse call.warehouseId)
      (db'.activeDocByWarehouse call.warehouseId) :=
    (h.docs.filter fun d d' hd => by rw [hd.warehouseId_eq, hd.status_eq]).latest? fun _ => rfl
  have hids : db.countDocs.rows.map CountDoc.id = db'.countDocs.rows.map CountDoc.id :=
    h.docs.map_eq fun d d' hd => hd.id_eq
  rw [hids]
  generalize db.activeDocByWarehouse call.warehouseId = o,
    db'.activeDocByWarehouse call.warehouseId = o' at hactive
  cases hactive with
  | some hd =>
    refine Tx.alike_throw ?_
    rw [hd.id_eq, hd.countNo_eq, hd.status_eq]
  | none =>
    refine (Tx.alike_demand (h.docs.insert _) _).bind fun docs docs' hdocs => ?_
    cases h with
    | intro hbooks _ =>
      refine Tx.Blind.bind (fun _ => rfl) (Tx.blind_failIf _ _) fun _ => ?_
      refine (Tx.alike_set ?_).bind fun _ _ _ => Tx.alike_pure rfl
      exact .of_parts hbooks hdocs rfl

theorem freezeDoc_blind (pms : PmsClient) (docId : ℕ) : Tx.Blind ZerosShed (freezeDoc pms docId) := by
  refine Tx.Alike.get_bind fun db db' h => (requireDoc_alike docId).bind fun doc doc' hd => ?_
  have hitems : db'.books.itemsInStock doc'.warehouseId = db.books.itemsInStock doc.warehouseId := by
    rw [h.books.itemsInStock_eq, hd.warehouseId_eq]
  rw [hd.status_eq, hitems]
  refine Tx.Blind.bind (fun _ => rfl) (Tx.blind_failIf _ _) fun _ => ?_
  refine Tx.Blind.bind (fun _ => rfl) (Tx.blind_ofExcept _) fun basics => ?_
  have hlineId : db.nextLineId = db'.nextLineId := by
    have hids : ∀ d : CountDoc, d.lines.map CountDocLine.id =
        (d.lines.map CountDocLine.canonical).map CountDocLine.id := by
      intro d
      rw [List.map_map]
      rfl
    unfold Database.nextLineId
    rw [List.flatMap_def, List.flatMap_def, h.docs.map_eq fun d d' hdd => ?_]
    rw [hids, hids, hdd.lines_eq]
  have hlines : (db.books.freezeLines doc.warehouseId db.nextLineId basics).map
      CountDocLine.canonical =
        (db'.books.freezeLines doc'.warehouseId db'.nextLineId basics).map CountDocLine.canonical := by
    rw [hd.warehouseId_eq, hlineId, h.books.freezeLines_canonical]
  have hsizes : ∀ ls : List CountDocLine, (ls.map fun l => l.lotSnapshots.length) =
      (ls.map CountDocLine.canonical).map fun l => l.lotSnapshots.length := by
    intro ls
    rw [List.map_map]
    exact List.map_congr_left fun l _ => l.length_lotSnapshots_canonical.symm
  refine (Tx.alike_set (h.reviseDoc fun d d' hdd => ?_)).bind fun _ _ _ => Tx.alike_pure ?_
  · unfold CountDoc.Same
    rw [CountDoc.canonical_freeze, CountDoc.canonical_freeze, hdd.canonical_eq]
    exact congrArg d'.canonical.freeze (Subtype.ext hlines)
  · refine Prod.ext ?_ ?_
    · simpa using congrArg List.length hlines
    · exact congrArg List.sum ((hsizes _).trans ((congrArg _ hlines).trans (hsizes _).symm))

theorem updateDocLines_blind (call : CountUpdateCall) : Tx.Blind ZerosShed (updateDocLines call) := by
  refine Tx.Alike.get_bind fun db db' h => (requireDoc_alike _).bind fun doc doc' hd => ?_
  have hlines : (updateLineCounts call.pms ⟨doc.lines, doc.lines_unique⟩ call.lines).map
      CountLines.canonical =
        (updateLineCounts call.pms ⟨doc'.lines, doc'.lines_unique⟩ call.lines).map
          CountLines.canonical := by
    rw [updateLineCounts_canonical, updateLineCounts_canonical]
    congr 1
    exact Subtype.ext hd.lines_eq
  rw [hd.status_eq]
  refine Tx.Blind.bind (fun _ => rfl) (Tx.blind_failIf _ _) fun _ => ?_
  refine Tx.Blind.bind (fun _ => rfl) (Tx.blind_demand _ _) fun countedBy => ?_
  refine (Tx.alike_ofExcept (resultAlike_of_map_eq hlines)).bind fun lines lines' hsame => ?_
  have hitems : lines.1.map CountDocLine.itemId = lines'.1.map CountDocLine.itemId := by
    have hitem : ∀ ls : CountLines,
        ls.1.map CountDocLine.itemId = ls.canonical.1.map CountDocLine.itemId := by
      intro ls
      unfold CountLines.canonical
      rw [List.map_map]
      rfl
    rw [hitem lines, hsame, ← hitem lines']
  rw [hitems]
  refine (Tx.alike_set (h.reviseDoc fun d d' hdd => ?_)).bind fun _ _ _ => ?_
  · have hrecord : ∀ (ls : CountLines) (d : CountDoc),
        ((d.recordCounts ls countedBy).tryMarkCounted call.now).canonical =
          (d.canonical.recordCounts ls.canonical countedBy).tryMarkCounted call.now := by
      intro ls d
      rw [CountDoc.canonical_tryMarkCounted, CountDoc.canonical_recordCounts]
    unfold CountDoc.Same
    rw [hrecord, hrecord, hsame, hdd.canonical_eq]
  · exact Tx.Blind.bind (fun _ => rfl) (Tx.blind_ofExcept _) fun _ => Tx.alike_pure rfl

theorem countAdjust_blind (call : CountPostCall) (knownEvents : List ℕ) (warehouseId eventId : ℕ)
    (line : CountDocLine) (snapshot : LotSnapshot) (delta : ℤ) (subReason : CountSubReason) :
    Tx.Blind Books.ZerosShed
      (countAdjust call knownEvents warehouseId eventId line snapshot delta subReason) :=
  (adjustLot_blind _ _).then fun _ => Tx.blind_pure _

theorem postLineDiff_blind (call : CountPostCall) (knownEvents : List ℕ) (warehouseId eventId : ℕ)
    (line : CountDocLine) :
    Tx.Blind Books.ZerosShed (postLineDiff call knownEvents warehouseId eventId line) := by
  have htake : ∀ remaining ss, Tx.Blind Books.ZerosShed
      (takeFromLots call knownEvents warehouseId eventId line remaining ss) := by
    intro remaining ss
    induction ss generalizing remaining with
    | nil => exact Tx.blind_pure _
    | cons s rest ih =>
      rw [takeFromLots]
      split
      · exact Tx.blind_pure _
      · split
        · exact ih _
        · exact (countAdjust_blind _ _ _ _ _ _ _ _).then fun _ => ih _
  unfold postLineDiff
  split
  · exact Tx.blind_throw _
  · split
    · exact countAdjust_blind _ _ _ _ _ _ _ _
    · split
      · exact countAdjust_blind _ _ _ _ _ _ _ _
      · exact (htake _ _).then fun _ => Tx.blind_failIf _ _

theorem markDocPosted_blind (docId eventId : ℕ) (postedAt : ℤ) :
    Tx.Blind ZerosShed (markDocPosted docId eventId postedAt) := by
  refine Tx.Alike.get_bind fun db db' h => ?_
  have hcounted : (∃ d ∈ db.countDocs.rows, d.id = docId ∧ d.status = .counted) ↔
      ∃ d ∈ db'.countDocs.rows, d.id = docId ∧ d.status = .counted :=
    h.docs.exists_iff fun d d' hd => by rw [hd.id_eq, hd.status_eq]
  refine (Tx.alike_failIf (not_congr hcounted) rfl).bind fun _ _ _ => ?_
  refine Tx.alike_set (h.reviseDoc fun d d' hd => ?_)
  unfold CountDoc.Same
  rw [CountDoc.canonical_post, CountDoc.canonical_post, hd.canonical_eq]

theorem postDoc_blind (call : CountPostCall) : Tx.Blind ZerosShed (postDoc call) := by
  refine (requireDoc_alike _).bind fun doc doc' hd => ?_
  have hevent : countEventValues call doc = countEventValues call doc' := hd.field_eq fun _ => rfl
  have hpostable : checkPostable doc = checkPostable doc' :=
    hd.field_eq CountDoc.checkPostable_canonical
  rw [hd.status_eq, hd.field_eq (f := CountDoc.postedEventId) fun _ => rfl,
    hd.field_eq (f := CountDoc.postedAt) fun _ => rfl]
  split
  · split
    · exact Tx.alike_pure rfl
    · exact Tx.alike_throw rfl
  · refine Tx.Blind.bind (fun _ => rfl) (Tx.blind_failIf _ _) fun _ => ?_
    refine Tx.Blind.bind (fun _ => rfl) (Tx.blind_demand _ _) fun reviewedBy => ?_
    have hreview : ∀ d d' : CountDoc, d.Same d' →
        (d.review reviewedBy).Same (d'.review reviewedBy) := by
      intro d d' hdd
      unfold CountDoc.Same
      rw [CountDoc.canonical_review, CountDoc.canonical_review, hdd.canonical_eq]
    refine (Tx.alike_modify fun db db' h => h.reviseDoc hreview).bind fun _ _ _ => ?_
    rw [hevent, hpostable, hd.warehouseId_eq]
    refine Tx.Blind.bind (fun _ => rfl) (Tx.blind_ofExcept _) fun _ => ?_
    refine Tx.Blind.bind (fun _ => rfl) (recordEvent_blind _) fun event => ?_
    refine Tx.Alike.get_bind fun db db' h => ?_
    rw [h.eventBook_eq, hd.forM_postLineDiff]
    refine Tx.Blind.bind (fun _ => rfl) (onBooks_blind (Tx.blind_forM _ fun l _ =>
      postLineDiff_blind _ _ _ _ l)) fun _ => ?_
    exact Tx.Blind.bind (fun _ => rfl) (markDocPosted_blind _ _ _) fun _ => Tx.alike_pure rfl

theorem voidDoc_blind (docId : ℕ) : Tx.Blind ZerosShed (voidDoc docId) := by
  refine (requireDoc_alike _).bind fun doc doc' hd => ?_
  rw [hd.status_eq]
  refine Tx.Blind.bind (fun _ => rfl) (Tx.blind_failIf _ _) fun _ => ?_
  refine Tx.Alike.get_bind fun db db' h => ?_
  have hactive : (∃ d ∈ db.countDocs.rows, d.id = docId ∧ d.status.Active) ↔
      ∃ d ∈ db'.countDocs.rows, d.id = docId ∧ d.status.Active :=
    h.docs.exists_iff fun d d' hd => by rw [hd.id_eq, hd.status_eq]
  refine (Tx.alike_failIf (not_congr hactive) rfl).bind fun _ _ _ => ?_
  refine Tx.alike_set (h.reviseDoc fun d d' hd => ?_)
  unfold CountDoc.Same
  rw [CountDoc.canonical_void, CountDoc.canonical_void, hd.canonical_eq]

/-! ## Documents from outside -/

theorem addWarehouse_blind (w : Warehouse) : Tx.Blind ZerosShed (addWarehouse w) := by
  refine Tx.Alike.get_bind fun db db' h => ?_
  cases h with
  | intro hbooks hdocs =>
    refine Tx.Blind.bind (fun _ => rfl) (Tx.blind_demand _ _) fun t => ?_
    exact Tx.alike_set (.of_parts hbooks hdocs rfl)

theorem importOrder_blind (o : Order) (lines : List OrderLine) :
    Tx.Blind ZerosShed (importOrder o lines) := by
  refine (Tx.blind_failIf _ _).then fun _ => (Tx.blind_failIf _ _).then fun _ => ?_
  refine Tx.Alike.get_bind fun db db' h => ?_
  cases h with
  | intro hbooks hdocs =>
    refine Tx.Blind.bind (fun _ => rfl) (Tx.blind_demand _ _) fun orders => ?_
    refine Tx.Blind.bind (fun _ => rfl) (Tx.blind_demand _ _) fun orderLines => ?_
    exact Tx.alike_set (.of_parts hbooks hdocs rfl)

theorem createManualDoc_blind (d : ManualDoc) (lines : List ManualLine) :
    Tx.Blind ZerosShed (createManualDoc d lines) := by
  refine (Tx.blind_failIf _ _).then fun _ => Tx.Alike.get_bind fun db db' h => ?_
  cases h with
  | intro hbooks hdocs =>
    refine Tx.Blind.bind (fun _ => rfl) (Tx.blind_failIf _ _) fun _ => ?_
    refine Tx.Blind.bind (fun _ => rfl) (Tx.blind_demand _ _) fun docs => ?_
    refine Tx.Blind.bind (fun _ => rfl) (Tx.blind_demand _ _) fun manualLines => ?_
    exact Tx.alike_set (.of_parts hbooks hdocs rfl)

theorem releaseManualDoc_blind (docId : ℕ) : Tx.Blind ZerosShed (releaseManualDoc docId) := by
  refine Tx.Alike.get_bind fun db db' h => ?_
  cases h with
  | intro hbooks hdocs =>
    refine Tx.Blind.bind (fun _ => rfl) (Tx.blind_failIf _ _) fun _ => ?_
    refine Tx.Blind.bind (fun _ => rfl) (Tx.blind_demand _ _) fun d => ?_
    refine Tx.Blind.bind (fun _ => rfl) (Tx.blind_failIf _ _) fun _ => ?_
    refine Tx.Blind.bind (fun _ => rfl) (Tx.blind_failIf _ _) fun _ => ?_
    exact Tx.alike_set (.of_parts hbooks hdocs rfl)

theorem voidManualDoc_blind (docId : ℕ) : Tx.Blind ZerosShed (voidManualDoc docId) := by
  refine Tx.Alike.get_bind fun db db' h => ?_
  cases h with
  | intro hbooks hdocs =>
    refine Tx.Blind.bind (fun _ => rfl) (Tx.blind_failIf _ _) fun _ => ?_
    exact Tx.alike_set (.of_parts hbooks hdocs rfl)

theorem storeReceipt_blind (r : InboundReceipt) : Tx.Blind ZerosShed (storeReceipt r) := by
  refine Tx.Alike.get_bind fun db db' h => ?_
  cases h with
  | intro hbooks hdocs =>
    refine Tx.Blind.bind (fun _ => rfl) (Tx.blind_failIf _ _) fun _ => ?_
    refine Tx.Blind.bind (fun _ => rfl) (Tx.blind_demand _ _) fun t => ?_
    exact Tx.alike_set (.of_parts hbooks hdocs rfl)

/-! ## Operations with their answers -/

/-- What an accepted operation answers. -/
inductive Answer
  | adjusted (out : AdjustOutcome)
  | recorded (event : WmsEvent)
  | shipped (event : WmsEvent) (lines : List OutboundEventLine)
  | counting (doc : CountDoc)
  | frozen (lines lots : ℕ)
  | updated (lines : ℕ)
  | posted (eventId : ℕ) (postedAt : ℤ)
  | done

/-- Carry out an operation and answer. -/
def Op.answer : Op → Trans Answer
  | .adjustLot pms utcNow call => do
    let db ← get
    .adjusted <$> onBooks (Wms.adjustLot ⟨pms, db.eventBook.ids, utcNow⟩ call)
  | .submitOrder pms call => (fun p => .shipped p.1 p.2) <$> submitOrderOutboundEvent pms call
  | .submitManual call => (fun p => .shipped p.1 p.2) <$> submitManualOutboundEvent call
  | .submitInbound call => .recorded <$> submitInboundOperation call
  | .commitInbound call => .recorded <$> Wms.commitInbound call
  | .reverseOutbound call => .recorded <$> reverseOutboundEvent call
  | .reverseInbound call => .recorded <$> reverseInboundEvent call
  | .createCountDoc call => .counting <$> createDoc call
  | .freezeCountDoc pms docId => (fun p => .frozen p.1 p.2) <$> freezeDoc pms docId
  | .updateCountDoc call => .updated <$> updateDocLines call
  | .postCountDoc call => (fun p => .posted p.1 p.2) <$> postDoc call
  | .voidCountDoc docId => (fun _ => .done) <$> voidDoc docId
  | .addWarehouse w => (fun _ => .done) <$> Wms.addWarehouse w
  | .importOrder o lines => (fun _ => .done) <$> Wms.importOrder o lines
  | .createManualDoc d lines => (fun _ => .done) <$> Wms.createManualDoc d lines
  | .releaseManualDoc docId => (fun _ => .done) <$> Wms.releaseManualDoc docId
  | .voidManualDoc docId => (fun _ => .done) <$> Wms.voidManualDoc docId
  | .storeReceipt r => (fun _ => .done) <$> Wms.storeReceipt r

/-- Operations are carried out without regard to their answers. -/
theorem Op.attempt_answer (op : Op) (db : Database) :
    op.answer.attempt db = op.exec.attempt db := by
  have hget : ∀ {α : Type} (f : Database → Trans α), (get >>= f).attempt db = (f db).attempt db :=
    fun _ => rfl
  cases op with
  | adjustLot pms utcNow call =>
    rw [Op.answer, Op.exec, adjustLotDirectly, hget, hget, bind_pure_comp, Tx.attempt_map,
      Tx.attempt_map]
  | addWarehouse | importOrder | createManualDoc | releaseManualDoc | voidManualDoc | storeReceipt
  | voidCountDoc => rw [Op.answer, Op.exec, Tx.attempt_map]
  | _ => rw [Op.answer, Op.exec, Tx.attempt_map, Tx.attempt_map]

theorem attemptAll_answer (ops : List Op) (db : Database) :
    Tx.attemptAll Op.answer ops db = Tx.attemptAll Op.exec ops db := by
  induction ops generalizing db with
  | nil => rfl
  | cons op ops ih =>
    change Tx.attemptAll Op.answer ops (op.answer.attempt db) =
      Tx.attemptAll Op.exec ops (op.exec.attempt db)
    rw [op.attempt_answer, ih]

/-- The operation takes stock out for a document. -/
def Op.Submits : Op → Prop
  | .submitOrder _ _ => True
  | .submitManual _ => True
  | _ => False

/-- The same error; from a submission also the two refusals of a shipment from a slot that
holds nothing. -/
def Op.RefusedAlike (op : Op) (e e' : Err) : Prop := e = e' ∨ op.Submits ∧ SameRefusal e e'

/-- An operation that does not submit does not see that rows were shed. -/
theorem Op.answer_blind {op : Op} (h : ¬op.Submits) : Tx.Blind ZerosShed op.answer := by
  cases op with
  | adjustLot pms utcNow call =>
    refine Tx.blind_get_bind (fun db db' h => by rw [h.eventBook_eq]) fun db => ?_
    exact (onBooks_blind (adjustLot_blind _ call)).map _
  | submitOrder pms call => exact absurd trivial h
  | submitManual call => exact absurd trivial h
  | submitInbound call => exact (submitInboundOperation_blind call).map _
  | commitInbound call => exact (commitInbound_blind call).map _
  | reverseOutbound call => exact (reverseEvent_blind _ call).map _
  | reverseInbound call => exact (reverseEvent_blind _ call).map _
  | createCountDoc call => exact (createDoc_blind call).map _
  | freezeCountDoc pms docId => exact (freezeDoc_blind pms docId).map _
  | updateCountDoc call => exact (updateDocLines_blind call).map _
  | postCountDoc call => exact (postDoc_blind call).map _
  | voidCountDoc docId => exact (voidDoc_blind docId).map _
  | addWarehouse w => exact (addWarehouse_blind w).map _
  | importOrder o lines => exact (importOrder_blind o lines).map _
  | createManualDoc d lines => exact (createManualDoc_blind d lines).map _
  | releaseManualDoc docId => exact (releaseManualDoc_blind docId).map _
  | voidManualDoc docId => exact (voidManualDoc_blind docId).map _
  | storeReceipt r => exact (storeReceipt_blind r).map _

/-- Every operation answers alike, up to the text of a refused shipment. -/
theorem Op.answer_alike (op : Op) :
    Tx.Alike ZerosShed ZerosShed op.RefusedAlike Eq op.answer op.answer := by
  by_cases hsubmits : op.Submits
  · have hsubmit : Tx.Alike ZerosShed ZerosShed SameRefusal Eq op.answer op.answer := by
      cases op with
      | submitOrder pms call => exact (submitOrderOutboundEvent_alike pms call).map _
      | submitManual call => exact (submitManualOutboundEvent_alike call).map _
      | _ => exact hsubmits.elim
    exact hsubmit.mono (fun _ _ => id) (fun _ _ => id) fun _ _ he => .inr ⟨hsubmits, he⟩
  · exact (Op.answer_blind hsubmits).mono (fun _ _ => id) (fun _ _ => id) fun _ _ => .inl

/-! ## Runs after a rebuild -/

/-- Where the ledger explains the balances, a rebuild without a window succeeds and leaves
one row for each slot whose amounts do not add up to zero. Whatever is attempted afterwards
is answered as without the rebuild, up to the text with which a shipment from a slot that
holds nothing is refused, and leaves the same ledger and the same balances. -/
theorem rebuild_unseen {db : Database} (hledger : db.books.StockEqualsLedger) {call : RebuildCall}
    (harmed : call.Armed) (hfrom : call.timeFrom = none) (hto : call.timeTo = none) :
    ∃ b', (rebuildStocksLot call).run db.books = .ok (call.summary b', b') ∧
      (∀ k, b'.stock k = ledgerSum db.books.stockLedger.rows k) ∧
      (∀ k, k ∈ b'.stocksLot ↔ ledgerSum db.books.stockLedger.rows k ≠ 0) ∧
      ∀ later : List Op,
        List.Forall₂ (Tx.SameOutcome Op.RefusedAlike) (Tx.outcomes Op.answer later db)
          (Tx.outcomes Op.answer later (db.putBooks b')) ∧
        (Tx.attemptAll Op.exec later (db.putBooks b')).books.stockLedger =
          (Tx.attemptAll Op.exec later db).books.stockLedger ∧
        (Tx.attemptAll Op.exec later (db.putBooks b')).books.stock =
          (Tx.attemptAll Op.exec later db).books.stock := by
  have hsums : ∀ k, ledgerSum db.books.stockLedger.rows k = db.books.stock k :=
    fun k => (hledger.stock_eq_sum k).symm
  obtain ⟨b', hrun, hrebuilt⟩ :=
    rebuildStocksLot_run hsums hledger.stock_nonneg harmed hfrom hto
  have hdocs : SameDocs db.countDocs.rows db.countDocs.rows :=
    List.forall₂_same.mpr fun _ _ => rfl
  have hshed : db.ZerosShed (db.putBooks b') := .of_parts hrebuilt.zerosShed hdocs rfl
  refine ⟨b', hrun, fun k => ?_, fun k => ?_, fun later => ?_⟩
  · rw [hrebuilt.stock_eq, hsums]
  · rw [hrebuilt.mem_iff, hsums]
  · obtain ⟨houtcomes, hstates⟩ := Tx.attemptAll_alike Op.answer_alike later hshed
    rw [attemptAll_answer, attemptAll_answer] at hstates
    exact ⟨houtcomes, hstates.books.ledger_eq, hstates.books.stock_eq⟩

theorem ten_pos : (0 : ℤ) < 10 := by decide

/-- A run that ships everything there is of an item. -/
def soldOut : List Op :=
  stocked ++ [.importOrder appleOrder [appleLine 1 15],
    .submitOrder plainPms (shipApples "T1" [takeApples 1 10 ten_pos])]

theorem stockEqualsLedger_soldOut : (Database.after soldOut).books.StockEqualsLedger := by
  have hnot : ∀ op ∈ soldOut, ∀ db, ¬op.Swallowed db := by
    unfold soldOut stocked
    simp [Op.Swallowed]
  generalize soldOut = ops at hnot
  exact (journaled_after hnot).stockEqualsLedger

/-- A rebuild of everything that is allowed to empty the table. -/
def plainRebuild : RebuildCall := ⟨none, none, true, false, none⟩

/-- The run leaves a row that holds zero, which a rebuild removes. -/
theorem rebuild_unseen_soldOut :
    ⟨1, 1, 1⟩ ∈ (Database.after soldOut).books.stocksLot ∧
      ∃ b', (rebuildStocksLot plainRebuild).run (Database.after soldOut).books =
          .ok (plainRebuild.summary b', b') ∧
        ⟨1, 1, 1⟩ ∉ b'.stocksLot := by
  refine ⟨by decide +kernel, ?_⟩
  obtain ⟨b', hrun, -, hmem, -⟩ :=
    rebuild_unseen stockEqualsLedger_soldOut (by decide : plainRebuild.Armed) rfl rfl
  refine ⟨b', hrun, fun hrow => (hmem _).mp hrow ?_⟩
  decide +kernel

/-- A shipment of more of it. -/
def shipMore : Op := .submitOrder plainPms (shipApples "T2" [fiveApples 1])

/-- The error with which an operation was refused. -/
def refusal (p : Op × Except Err Answer) : Option Err :=
  match p.2 with
  | .error e => some e
  | .ok _ => none

/-- After that run the shipment of more is refused with another text when the balances have
been rebuilt. -/
theorem not_answered_equally :
    ¬∀ (ops later : List Op) (call : RebuildCall) (b' : Books),
      (Database.after ops).books.StockEqualsLedger → call.Armed → call.timeFrom = none →
      call.timeTo = none →
      (rebuildStocksLot call).run (Database.after ops).books = .ok (call.summary b', b') →
      Tx.outcomes Op.answer later ((Database.after ops).putBooks b') =
        Tx.outcomes Op.answer later (Database.after ops) := by
  intro h
  have hledger := stockEqualsLedger_soldOut
  obtain ⟨b', hrun, -⟩ := rebuildStocksLot_run (fun k => (hledger.stock_eq_sum k).symm)
    hledger.stock_nonneg (by decide : plainRebuild.Armed) rfl rfl
  have hequal := h soldOut [shipMore] plainRebuild b' hledger (by decide) rfl rfl hrun
  have hrebuilt : ((rebuildStocksLot plainRebuild).run (Database.after soldOut).books).toOption.map
      (fun p => (Tx.outcomes Op.answer [shipMore] ((Database.after soldOut).putBooks p.2)).map
        refusal) = some [some (slotMissing ⟨1, 1, 1⟩)] := by decide +kernel
  have hwithout : (Tx.outcomes Op.answer [shipMore] (Database.after soldOut)).map refusal =
      [some (slotShort ⟨1, 1, 1⟩ 0 5)] := by decide +kernel
  rw [hrun] at hrebuilt
  have hsame := Option.some.inj hrebuilt
  dsimp only at hsame
  rw [hequal, hwithout] at hsame
  exact absurd hsame (by decide +kernel)

end Wms

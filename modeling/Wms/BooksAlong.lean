import Wms.System

/-!
# How the operations change the books

What an operation does to the books is made up of a few statements: finding or creating a
lot, adjusting a lot, and receiving into one. A relation on books that these statements
follow holds between the books before and after an operation.
-/

namespace Wms

open Foundation

variable {R : Books → Books → Prop} [IsPreorder Books R] {db db' : Database}

/-! ## Books inside the database -/

/-- The books of the database move along a relation. -/
def BooksAlong (R : Books → Books → Prop) (db db' : Database) : Prop := R db.books db'.books

instance : IsPreorder Database (BooksAlong R) where
  refl db := refl_of R db.books
  trans _ _ _ h h' := trans_of R h h'

omit [IsPreorder Books R] in
theorem onBooks_along {α : Type} {x : Tx Books Err α} (hx : Tx.Follows R x) :
    Tx.Follows (BooksAlong R) (onBooks x) :=
  hx.zoom fun _ _ h => h

theorem onEvents_along {α : Type} (x : Tx EventBook Err α) :
    Tx.Follows (BooksAlong R) (onEvents x) := by
  intro db a db' h
  obtain ⟨eb, -, rfl⟩ := onEvents_run_ok.mp h
  exact refl_of R db.books

theorem recordEvent_along (v : EventValues) : Tx.Follows (BooksAlong R) (recordEvent v) := by
  intro db e db' h
  obtain ⟨-, -, -, eb, -, -, -, rfl⟩ := recordEvent_run_ok h
  exact refl_of R db.books

theorem ensureWarehouseNotFrozen_along (warehouseId : ℕ) :
    Tx.Follows (BooksAlong R) (ensureWarehouseNotFrozen warehouseId) :=
  .of_reads fun _ _ _ h => (ensureWarehouseNotFrozen_run_ok.mp h).2

theorem handOff_along (docType : SourceDocType) (docId : ℕ) (docNo : String) (v : HandoffValues) :
    Tx.Follows (BooksAlong R) (handOff docType docId docNo v) := by
  intro db u db' h
  rw [handOff_run_ok h]
  exact refl_of R db.books

/-! ## The writers of stock -/

/-- A receipt finds its lots and adjusts them. -/
theorem commitInbound_along (hlots : FollowedByLots R) (call : CommitCall)
    (hadjust : ∀ env eventId l, Tx.Follows R (adjustLot env (commitAdjustCall call eventId l))) :
    Tx.Follows (BooksAlong R) (commitInbound call) := by
  have hresolve : Tx.Follows R
      ((call.lines.zipIdx 1).mapM' fun p => resolveCommitLine call p.2 p.1) :=
    Tx.follows_mapM _ fun p _ => (Tx.follows_ofExcept _).bind fun _ =>
      (hlots.resolveInboundLot _ _ _ _ _ _).bind fun _ => Tx.follows_pure _
  have hline : ∀ event l, Tx.Follows (BooksAlong R) (commitLine call event l) := by
    intro event l
    refine (onEvents_along _).bind fun _ =>
      (ensureWarehouseNotFrozen_along _).bind fun _ => Tx.follows_get.bind fun db => ?_
    exact (onBooks_along (hadjust _ event.id l)).bind fun _ => Tx.follows_pure _
  exact (Tx.follows_ofExcept _).bind fun _ => (onBooks_along hresolve).bind fun resolved =>
    (recordEvent_along _).bind fun event =>
    (Tx.follows_forM resolved fun l _ => hline event l).bind fun _ => Tx.follows_pure event

/-- A delivery finds its lots and receives into them. -/
theorem submitInboundOperation_along (hlots : FollowedByLots R) (call : OperationCall)
    (hreceive : ∀ knownEvents event k entry delta lineNo, Tx.Follows R
      (receiveStock knownEvents (operationLedgerValues call event k entry delta lineNo) k delta)) :
    Tx.Follows (BooksAlong R) (submitInboundOperation call) := by
  have hentry : ∀ receipt event line policy st entry, Tx.Follows (BooksAlong R)
      (receiveEntry call receipt event line policy st entry) := by
    intro receipt event line policy st entry
    refine (Tx.follows_ofExcept _).bind fun uom => (Tx.follows_failIf _ _).bind fun _ =>
      (Tx.follows_ofExcept _).bind fun _ => (Tx.follows_ofExcept _).bind fun _ =>
      (Tx.follows_ofExcept _).bind fun _ =>
      (onBooks_along (hlots.resolveInboundLot _ _ _ _ _ _)).bind fun lotId =>
      (Tx.follows_ofExcept _).bind fun opLine => (onEvents_along _).bind fun _ =>
      Tx.follows_get.bind fun db => ?_
    exact (onBooks_along (hreceive _ _ _ _ _ _)).bind fun _ => Tx.follows_pure _
  have hline : ∀ receipt event st raw, Tx.Follows (BooksAlong R)
      (receiveLine call receipt event st raw) := by
    intro receipt event st raw
    exact (Tx.follows_demand _ _).bind fun line => (Tx.follows_ofExcept _).bind fun _ =>
      (Tx.follows_demand _ _).bind fun policy =>
      Tx.follows_foldlM _ (fun st entry => hentry receipt event line policy st entry) st
  refine Tx.follows_get.bind fun db => (Tx.follows_demand _ _).bind fun receipt =>
    (Tx.follows_failIf _ _).bind fun _ => (ensureWarehouseNotFrozen_along _).bind fun _ =>
    (Tx.follows_ofExcept _).bind fun operatorName => (recordEvent_along _).bind
    fun event => (Tx.follows_foldlM call.lines (hline receipt event) _).bind fun st => ?_
  refine (Tx.follows_modify fun db => ?_).bind fun _ => Tx.follows_pure event
  exact refl_of R db.books

/-- A reversal adjusts the lot of every line. -/
theorem Reversed.along {L : Type} {kind : ReversalKind L} {call : ReversalCall}
    {original event : WmsEvent} (h : Reversed kind call db original event db')
    (hadjust : ∀ env w eventId l,
      Tx.Follows R (adjustLot env (kind.adjustCall call w eventId l))) :
    BooksAlong R db db' := by
  obtain ⟨eb₁, eb₂, -, -, -, -, -, -, hundo⟩ := h.books
  refine Tx.follows_forM _ (fun l _ => ?_) db.books _ db'.books hundo
  exact (hadjust _ original.warehouseId event.id l).bind fun _ => Tx.follows_pure _

/-- Posting a count adjusts the lots of its lines. -/
theorem Posted.along {call : CountPostCall} {doc : CountDoc} {event : WmsEvent}
    (h : Posted call db doc event db')
    (hadjust : ∀ env w eventId line s delta sub,
      Tx.Follows R (adjustLot env (countAdjustCall call w eventId line s delta sub))) :
    BooksAlong R db db' := by
  have hcount : ∀ known w eventId line s delta sub,
      Tx.Follows R (countAdjust call known w eventId line s delta sub) :=
    fun _ _ _ _ _ _ _ => (hadjust _ _ _ _ _ _ _).bind fun _ => Tx.follows_pure _
  have htake : ∀ known w eventId line lots remaining,
      Tx.Follows R (takeFromLots call known w eventId line remaining lots) := by
    intro known w eventId line lots
    induction lots with
    | nil => exact fun remaining => Tx.follows_pure remaining
    | cons s rest ih =>
      intro remaining
      unfold takeFromLots
      split
      · exact Tx.follows_pure remaining
      · split
        · exact ih remaining
        · exact (hcount _ _ _ _ _ _ _).bind fun _ => ih _
  refine Tx.follows_forM _ (fun line _ => ?_) db.books _ db'.books h.lines_run
  unfold postLineDiff
  split
  · exact Tx.follows_throw _
  · split
    · exact hcount _ _ _ _ _ _ _
    · split
      · exact hcount _ _ _ _ _ _ _
      · exact (htake _ _ _ _ _ _).bind fun _ => Tx.follows_failIf _ _

/-- An operation that moves no stock leaves the books alone. -/
theorem Step.books_eq {op : Op} (h : Step db op db') (hnone : op.stockWarehouse db = none) :
    db'.books = db.books := by
  have hnot : ¬op.Swallowed db := by
    cases op with
    | adjustLot => cases hnone
    | _ => exact id
  rcases h.bookedIn hnot with ⟨w, hw, -⟩ | hbooks
  · rw [hnone] at hw
    cases hw
  · exact hbooks

/-! ## Lots -/

/-- A movement leaves the lots alone. -/
theorem adjustLot_lots_eq {env : AdjustEnv} {call : AdjustCall} {b b' : Books}
    {out : AdjustOutcome} (h : (adjustLot env call).run b = .ok (out, b')) : b'.lots = b.lots := by
  rcases adjustLot_cases h with ⟨rfl, -⟩ | ⟨a, -, -, ⟨row, hrec, -⟩ | ⟨hover, -⟩⟩
  · rfl
  · exact hrec.lots_eq
  · exact hover.lots_eq

/-- Receiving into a lot leaves the lots alone. -/
theorem receiveStock_lots_eq {knownEvents : List ℕ} {v : ℤ → LedgerValues} {k : SlotKey}
    {delta : ℤ} {b b' : Books} {u : PUnit}
    (h : (receiveStock knownEvents v k delta).run b = .ok (u, b')) : b'.lots = b.lots := by
  unfold receiveStock at h
  simp only [Tx.run_bind_ok, insertLedger_run_ok] at h
  obtain ⟨after, b₁, hadd, row, t, -, -, -, rfl⟩ := h
  obtain ⟨rfl, hlot, rfl⟩ := addSlotQty_run_ok hadd
  rfl

/-- A relation that the statements on lots follow, and that looks at the lots only, holds
between the books before and after every operation. -/
theorem Op.exec_along (hlots : FollowedByLots R) (hkeep : ∀ b b' : Books, b'.lots = b.lots → R b b')
    {op : Op} {u : PUnit} (h : op.exec.run db = .ok (u, db')) : BooksAlong R db db' := by
  have hadjust : ∀ env call, Tx.Follows R (Wms.adjustLot env call) :=
    fun _ _ b _ b' hrun => hkeep b b' (adjustLot_lots_eq hrun)
  have hstep := op.step_of_exec h
  have hsame : op.stockWarehouse db = none → BooksAlong R db db' := by
    intro hnone
    apply hkeep
    rw [hstep.books_eq hnone]
  cases op with
  | adjustLot pms utcNow call =>
    obtain ⟨out, hrun, -⟩ := adjustLotDirectly_run_ok h
    exact hkeep _ _ (adjustLot_lots_eq hrun)
  | submitOrder pms call =>
    obtain ⟨⟨event, saved⟩, hsubmit, -⟩ := Tx.run_map_ok.mp h
    obtain ⟨order, lines, rows, db₁, -, hship, hframe, -⟩ :=
      (submitOrderOutboundEvent_run_ok hsubmit).prepared
    apply hkeep
    rw [hframe]
    exact hship.moved.lots_eq
  | submitManual call =>
    obtain ⟨⟨event, saved⟩, hsubmit, -⟩ := Tx.run_map_ok.mp h
    obtain ⟨doc, lines, rows, db₁, -, hship, hopen, hdone⟩ :=
      (submitManualOutboundEvent_run_ok hsubmit).prepared
    apply hkeep
    by_cases hcompleted : ManualCompleted db₁ call.docId
    · rw [(hdone hcompleted).1]
      exact hship.moved.lots_eq
    · rw [hopen hcompleted]
      exact hship.moved.lots_eq
  | submitInbound call =>
    obtain ⟨event, hsubmit, -⟩ := Tx.run_map_ok.mp h
    refine submitInboundOperation_along hlots call ?_ db event db' hsubmit
    exact fun _ _ _ _ _ _ b _ b' hrun => hkeep b b' (receiveStock_lots_eq hrun)
  | commitInbound call =>
    obtain ⟨event, hcommit, -⟩ := Tx.run_map_ok.mp h
    exact commitInbound_along hlots call (fun _ _ _ => hadjust _ _) db event db' hcommit
  | reverseOutbound call =>
    cases hstep with
    | reverseOutbound hreversed => exact hreversed.along fun _ _ _ _ => hadjust _ _
  | reverseInbound call =>
    cases hstep with
    | reverseInbound hreversed => exact hreversed.along fun _ _ _ _ => hadjust _ _
  | postCountDoc call =>
    cases hstep with
    | repostCountDoc => exact refl_of (BooksAlong R) db
    | postCountDoc hposted => exact hposted.along fun _ _ _ _ _ _ _ => hadjust _ _
  | _ => exact hsame rfl

end Wms

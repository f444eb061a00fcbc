import Wms.ShippedTotals

/-!
# Order lines are not over-shipped

The checks of a submission compare each of its lines with the progress before the
submission. So an order line stays within its quantity as long as no payload repeats it
with quantities that together exceed what remains, and only so long.
-/

namespace Wms

open Foundation

/-- Committed events ship at most the required quantity of each order line. -/
def WithinOrders (db : Database) : Prop :=
  ∀ l ∈ db.orderLines.rows,
    db.eventBook.committedQty OutboundEventLine.orderLineId l.id ≤ l.reqQty

/-- A payload names a line of its document more than once. -/
def NamedTwice (lines : List SubmitLineIn) (id : ℕ) : Prop :=
  1 < (lines.filter fun l => l.sourceLineId = id).length

instance (lines : List SubmitLineIn) (id : ℕ) : Decidable (NamedTwice lines id) :=
  inferInstanceAs (Decidable (_ < _))

/-- What a payload asks for an order line that it names more than once is within what
committed events have left of it. -/
def Op.RepeatsFit (db : Database) : Op → Prop
  | .submitOrder _ call => ∀ l ∈ db.orderLinesOf call.orderId, NamedTwice call.lines l.id →
      submittedDelta call.lines l.id ≤
        l.reqQty - db.eventBook.committedQty OutboundEventLine.orderLineId l.id
  | _ => True

/-- A line that is named once is asked for by its one entry. -/
theorem submittedDelta_of_not_namedTwice {lines : List SubmitLineIn} {raw : SubmitLineIn}
    (hraw : raw ∈ lines) (hnot : ¬NamedTwice lines raw.sourceLineId) :
    submittedDelta lines raw.sourceLineId = raw.qtyOutbound := by
  unfold NamedTwice at hnot
  unfold submittedDelta
  have hmem : raw ∈ lines.filter fun l => l.sourceLineId = raw.sourceLineId :=
    List.mem_filter.mpr ⟨hraw, by simp⟩
  have hlen : (lines.filter fun l => l.sourceLineId = raw.sourceLineId).length = 1 := by
    have hpos := List.length_pos_of_mem hmem
    omega
  obtain ⟨l, hl⟩ := List.length_eq_one_iff.mp hlen
  rw [hl] at hmem ⊢
  rw [List.mem_singleton.mp hmem]
  simp

/-- What holds of the orders in every state of a run. -/
structure OrdersWithin (db : Database) : Prop where
  typed : db.eventBook.Typed
  /-- `fk_outbound_event_lines_order_line`. -/
  known : ∀ s ∈ db.eventBook.outboundLines.rows, ∀ id ∈ s.orderLineId,
    ∃ l ∈ db.orderLines.rows, l.id = id
  /-- An import refuses lines that ask for nothing. -/
  positive : ∀ l ∈ db.orderLines.rows, 0 < l.reqQty
  within : WithinOrders db

theorem ordersWithin_empty : OrdersWithin Database.empty where
  typed _ hl := absurd hl List.not_mem_nil
  known _ hs := absurd hs List.not_mem_nil
  positive _ hl := absurd hl List.not_mem_nil
  within _ hl := absurd hl List.not_mem_nil

variable {db db' : Database} {op : Op}

/-- Stored order lines with one identifier are the same line. -/
theorem orderLine_eq_of_id_eq {l l' : OrderLine} (hl : l ∈ db.orderLines.rows)
    (hl' : l' ∈ db.orderLines.rows) (hid : l.id = l'.id) : l = l' := by
  have hfind : ∀ a ∈ db.orderLines.rows, (db.orderLines.rows.find? fun b => b.id = a.id) = some a :=
    fun a ha => db.orderLines.find?_eq_some ha (by simp) fun b hb => by simpa using hb
  have hsome := hfind l hl
  rw [hid, hfind l' hl'] at hsome
  exact (Option.some.inj hsome).symm

/-- A submission that fits keeps every order line within its quantity. -/
theorem OrderSubmitted.delta_le {pms : PmsClient} {call : OrderSubmitCall} {event : WmsEvent}
    {saved : List OutboundEventLine} (h : OrderSubmitted pms db call event saved db')
    (hfit : (Op.submitOrder pms call).RepeatsFit db) (hwithin : WithinOrders db) {l : OrderLine}
    (hl : l ∈ db.orderLines.rows) :
    submittedDelta call.lines l.id ≤
      l.reqQty - db.eventBook.committedQty OutboundEventLine.orderLineId l.id := by
  by_cases hnamed : ∃ raw ∈ call.lines, raw.sourceLineId = l.id
  · obtain ⟨raw, hraw, hid⟩ := hnamed
    obtain ⟨l', hl', hid', -, hrem⟩ := (h.within raw hraw).exists_line
    obtain rfl : l' = l := orderLine_eq_of_id_eq (mem_orderLinesOf.mp hl').1 hl (hid'.trans hid)
    by_cases htwice : NamedTwice call.lines l'.id
    · exact hfit l' hl' htwice
    · rw [← hid] at htwice
      have hdelta := submittedDelta_of_not_namedTwice hraw htwice
      have hle := db.eventBook.committedQty_le OutboundEventLine.orderLineId l'.id
      rw [← submittedQty_eq] at hle
      rw [← hid, hdelta, hid]
      omega
  · push Not at hnamed
    have hle := hwithin l hl
    rw [submittedDelta_eq_zero hnamed]
    omega

/-- An accepted operation that fits keeps the orders as they must be. -/
theorem Step.ordersWithin (h : Step db op db') (hfit : op.RepeatsFit db) (hdb : OrdersWithin db) :
    OrdersWithin db' := by
  have hknown : db'.orderLines = db.orderLines →
      ∀ s ∈ db'.eventBook.outboundLines.rows, ∀ id ∈ s.orderLineId,
        ∃ l ∈ db'.orderLines.rows, l.id = id := by
    intro horders s hs id hid
    rw [horders]
    rcases h.outboundLine_cases .orderOutbound hs with ⟨ls, hships, hmem⟩ |
      ⟨l, hl, hsame⟩
    · cases h with
      | @submitOrder pms call event saved _ hsub =>
        obtain ⟨n, hn, rfl⟩ := List.getElem_of_mem hmem
        have hlen := hships.length_eq
        have hsaves := hships.get (by omega : n < call.lines.length) hn
        have hraw := List.getElem_mem (by omega : n < call.lines.length)
        obtain ⟨l, hl, hlid, -⟩ := (hsub.within _ hraw).exists_line
        have hline := hsaves.orderLineId_eq
        simp only [List.get_eq_getElem, if_true] at hline
        rw [hline] at hid
        exact ⟨l, (mem_orderLinesOf.mp hl).1, hlid.trans (Option.some.inj hid)⟩
      | @submitManual call event saved _ hsub =>
        obtain ⟨n, hn, rfl⟩ := List.getElem_of_mem hmem
        have hlen := hships.length_eq
        have hline := (hships.get (by omega : n < call.lines.length) hn).orderLineId_eq
        simp only [List.get_eq_getElem] at hline
        rw [hline] at hid
        cases hid
      | _ =>
        have hnil : ls = [] := hships
        rw [hnil] at hmem
        cases hmem
    · have hline : s.orderLineId = l.orderLineId := hsame
      exact hdb.known l hl id (by rw [← hline]; exact hid)
  have hqty := h.committedQty hdb.typed .orderOutbound
  by_cases himport : ∃ o lines, op = .importOrder o lines
  · obtain ⟨o, lines, rfl⟩ := himport
    cases h with
    | importOrder hrun =>
      obtain ⟨hpos, hrows, hframe⟩ := importOrder_run_ok hrun
      have hbook : db'.eventBook = db.eventBook := by rw [hframe]
      refine ⟨by rw [hbook]; exact hdb.typed, ?_, ?_, ?_⟩
      · intro s hs id hid
        rw [hbook] at hs
        obtain ⟨l, hl, hlid⟩ := hdb.known s hs id hid
        exact ⟨l, by rw [hrows]; exact List.mem_append_left _ hl, hlid⟩
      · intro l hl
        rw [hrows] at hl
        rcases List.mem_append.mp hl with hold | hnew
        · exact hdb.positive l hold
        · exact hpos l hnew
      · intro l hl
        have hsame := hqty l.id
        change _ = _ + 0 at hsame
        rw [add_zero] at hsame
        change db'.eventBook.committedQty OutboundEventLine.orderLineId l.id = _ at hsame
        rw [hsame]
        rw [hrows] at hl
        rcases List.mem_append.mp hl with hold | hnew
        · exact hdb.within l hold
        · -- nothing can have been shipped of a line that was not there
          have hnone : db.eventBook.committedQty OutboundEventLine.orderLineId l.id = 0 := by
            refine lineQty_eq_zero ?_
            intro s hs hline
            obtain ⟨l', hl', hid⟩ := hdb.known s (List.mem_filter.mp hs).1 l.id hline
            have hunique := db'.orderLines.unique
            rw [hrows] at hunique
            exact (List.pairwise_append.mp hunique).2.2 l' hl' l hnew hid
          have hle := hpos l hnew
          change db.eventBook.committedQty OutboundEventLine.orderLineId l.id ≤ _
          omega
  · have horders := h.orderLines_eq fun o lines heq => himport ⟨o, lines, heq⟩
    refine ⟨h.typed hdb.typed, hknown horders, by rw [horders]; exact hdb.positive, ?_⟩
    intro l hl
    rw [horders] at hl
    have hwithin := hdb.within l hl
    have hsame := hqty l.id
    change db'.eventBook.committedQty OutboundEventLine.orderLineId l.id =
      db.eventBook.committedQty OutboundEventLine.orderLineId l.id + _ at hsame
    cases h with
    | @submitOrder pms call event saved _ hsub =>
      have hdelta := hsub.delta_le hfit hdb.within hl
      change _ = _ + submittedDelta call.lines l.id at hsame
      omega
    | _ =>
      change _ = _ + 0 at hsame
      omega

/-- A submission after which every order line is within its quantity has fitted. -/
theorem Step.repeatsFit (h : Step db op db') (hdb : OrdersWithin db) (hwithin : WithinOrders db') :
    op.RepeatsFit db := by
  have horders := fun hop => h.orderLines_eq hop
  cases h with
  | @submitOrder pms call event saved _ hsub =>
    intro l hl _
    have hmem := (mem_orderLinesOf.mp hl).1
    rw [← horders fun o lines heq => by cases heq] at hmem
    have hle := hwithin l hmem
    have hqty := (Step.submitOrder hsub).committedQty hdb.typed .orderOutbound l.id
    change db'.eventBook.committedQty OutboundEventLine.orderLineId l.id =
      db.eventBook.committedQty OutboundEventLine.orderLineId l.id +
        submittedDelta call.lines l.id at hqty
    omega
  | _ => trivial

/-- In every state of a run from empty tables every order line is within its quantity
exactly when every accepted payload fits what remains of the order lines it repeats. -/
theorem withinOrders_iff (ops : List Op) :
    (∀ n, WithinOrders (Database.after (ops.take n))) ↔
      Tx.AllAccepted Op.exec (fun op db => op.RepeatsFit db) ops Database.empty :=
  Tx.forall_attemptAll_iff (I := OrdersWithin)
    (fun _ _ _ _ hdb hfit hrun => (Op.step_of_exec hrun).ordersWithin hfit hdb)
    (fun _ hdb => hdb.within)
    (fun _ _ _ _ hdb hrun hwithin => (Op.step_of_exec hrun).repeatsFit hdb hwithin)
    ordersWithin_empty

/-- One payload ships five pieces twice for an order line that asks for six. -/
def overShippedRun : List Op :=
  stocked ++ [.importOrder appleOrder [appleLine 1 6],
    .submitOrder plainPms (shipApples "T1" [fiveApples 1, fiveApples 1])]

/-- Both entries are accepted, and ten pieces have gone out. -/
theorem not_withinOrders_overShippedRun : ¬∀ n, WithinOrders (Database.after (overShippedRun.take n)) := by
  intro h
  have hwithin := h 4 (appleLine 1 6) (by decide +kernel)
  exact absurd hwithin (by decide +kernel)

end Wms

import Wms.Foundation.Alike
import Wms.Inbound.Operation
import Wms.Outbound.Shipment
import Wms.Stock.Rebuild

/-!
# Rows that hold zero

Books that have shed rows of `stocks_lot` with quantity zero agree with the original ones
in lots, ledger and balances. Every statement on the books does the same to both, except
the lookup of a slot for a shipment, which finds a row with nothing in it in the original
books and no row in the others; both refuse the shipment, in different words.
-/

namespace Wms

open Foundation

/-- The second books are the first ones without some of the rows that hold zero. -/
inductive Books.ZerosShed : Books → Books → Prop
  | intro {b : Books} {s : AList fun _ : SlotKey => ℤ}
      {hfk : ∀ k ∈ s, ∃ l ∈ b.lots.rows, l.id = k.lotId ∧ l.BelongsTo k.warehouseId k.itemId}
      (hstock : ∀ k, (s.lookup k).getD 0 = b.stock k) (hslots : ∀ k ∈ s, k ∈ b.stocksLot) :
      ZerosShed b ⟨b.lots, s, b.stockLedger, hfk⟩

/-- The same, and the slot has a row in both. -/
def Books.ZerosShedAt (k : SlotKey) (b c : Books) : Prop := b.ZerosShed c ∧ k ∈ c.stocksLot

namespace Books.ZerosShed

variable {b c : Books} {k : SlotKey}

theorem of_eqs (hlots : c.lots = b.lots) (hledger : c.stockLedger = b.stockLedger)
    (hstock : c.stock = b.stock) (hslots : ∀ k ∈ c.stocksLot, k ∈ b.stocksLot) :
    b.ZerosShed c := by
  obtain ⟨lots, s, ledger, hfk⟩ := c
  change lots = b.lots at hlots
  change ledger = b.stockLedger at hledger
  subst hlots hledger
  exact .intro (fun k => congrFun hstock k) hslots

theorem lots_eq (h : b.ZerosShed c) : c.lots = b.lots := by
  cases h
  rfl

theorem ledger_eq (h : b.ZerosShed c) : c.stockLedger = b.stockLedger := by
  cases h
  rfl

theorem stock_eq (h : b.ZerosShed c) : c.stock = b.stock := by
  cases h with
  | intro hstock hslots =>
    funext k
    exact hstock k

theorem mem_of_mem (h : b.ZerosShed c) (hk : k ∈ c.stocksLot) : k ∈ b.stocksLot := by
  cases h with
  | intro hstock hslots => exact hslots k hk

theorem hasLot_iff (h : b.ZerosShed c) : c.HasLot k ↔ b.HasLot k := by
  unfold Books.HasLot
  rw [h.lots_eq]

/-- A row that one of the books has shed holds zero. -/
theorem stock_eq_zero (h : b.ZerosShed c) (hk : k ∉ c.stocksLot) : b.stock k = 0 := by
  rw [← h.stock_eq, Books.stock_of_notMem hk]

/-- A slot with a row in both looks the same in both. -/
theorem lookup_eq (h : b.ZerosShed c) (hk : k ∈ c.stocksLot) :
    c.stocksLot.lookup k = b.stocksLot.lookup k := by
  have hlook : ∀ d : Books, k ∈ d.stocksLot → d.stocksLot.lookup k = some (d.stock k) := by
    intro d hd
    obtain ⟨q, hq⟩ := Option.isSome_iff_exists.mp (AList.lookup_isSome.mpr hd)
    rw [hq, Books.stock_of_lookup hq]
  rw [hlook c hk, hlook b (h.mem_of_mem hk), h.stock_eq]

/-- Writing the same balance into both. -/
theorem putQty (h : b.ZerosShed c) (q : ℤ) (hb : b.HasLot k) (hc : c.HasLot k) :
    Books.ZerosShedAt k (b.putQty k q hb) (c.putQty k q hc) := by
  refine ⟨.of_eqs h.lots_eq h.ledger_eq ?_ ?_, (AList.mem_insert _).mpr (.inl rfl)⟩
  · rw [Books.putQty_stock, Books.putQty_stock, h.stock_eq]
  · intro k' hk'
    rcases (AList.mem_insert _).mp hk' with rfl | hmem
    · exact (AList.mem_insert _).mpr (.inl rfl)
    · exact (AList.mem_insert _).mpr (.inr (h.mem_of_mem hmem))

theorem putLedger (h : b.ZerosShed c) (t : Table LedgerRow LedgerRow.SameKey) :
    (b.putLedger t).ZerosShed (c.putLedger t) :=
  .of_eqs h.lots_eq rfl h.stock_eq fun _ => h.mem_of_mem

theorem refl (b : Books) : b.ZerosShed b := .of_eqs rfl rfl rfl fun _ => id

end Books.ZerosShed

/-- A rebuild sheds the rows that hold zero. -/
theorem Rebuilt.zerosShed {b b' : Books} (h : Rebuilt b b') : b.ZerosShed b' :=
  .of_eqs h.lots_eq h.ledger_eq h.stock_eq fun _ hk => mem_stocksLot_of_stock_ne_zero (h.mem_iff.mp hk)

/-! ## Lots -/

open Books (ZerosShed ZerosShedAt)

theorem patchLotExpiryIfNull_blind (lotId : ℕ) (ed : Option Date) :
    Tx.Blind ZerosShed (patchLotExpiryIfNull lotId ed) := by
  cases ed with
  | none => exact Tx.blind_pure _
  | some ed =>
    refine Tx.Alike.get_bind fun b c hbc => ?_
    cases hbc with
    | intro hstock hslots =>
      exact Tx.Blind.bind (fun _ => rfl) (Tx.blind_failIf _ _) fun _ =>
        Tx.alike_set (.of_eqs rfl rfl (funext hstock) hslots)

theorem insertLot_blind (v : LotValues) : Tx.Blind ZerosShed (insertLot v) := by
  refine Tx.Alike.get_bind fun b c hbc => ?_
  cases hbc with
  | intro hstock hslots =>
    refine Tx.Blind.bind (fun _ => rfl) (Tx.blind_ofExcept _) fun l => ?_
    dsimp only
    split
    · exact Tx.blind_pure _
    · refine Tx.Alike.bind (Tx.alike_set (S := ZerosShed) ?_) fun _ _ _ => Tx.blind_pure _
      exact .of_eqs rfl rfl (funext hstock) hslots

theorem ensureInternalLotSingleton_blind (pms : PmsClient) (itemId warehouseId : ℕ) :
    Tx.Blind ZerosShed (ensureInternalLotSingleton pms itemId warehouseId) := by
  refine Tx.blind_get_bind (fun b c hbc => by cases hbc; rfl) fun b => ?_
  split
  · exact Tx.blind_pure _
  · refine (Tx.blind_ofExcept _).then fun policy => (insertLot_blind _).then fun id => ?_
    split
    · exact Tx.blind_pure _
    · exact Tx.blind_demand _ _

theorem ensureRequiredLot_blind (policy : ItemPolicy) (itemId warehouseId : ℕ) (code : String)
    (pd ed : Option Date) :
    Tx.Blind ZerosShed (ensureRequiredLot policy itemId warehouseId code pd ed) := by
  have hpatch : ∀ id, Tx.Blind ZerosShed (do patchLotExpiryIfNull id ed; return id) :=
    fun id => (patchLotExpiryIfNull_blind id ed).then fun _ => Tx.blind_pure id
  refine Tx.blind_get_bind (fun b c hbc => by cases hbc; rfl) fun b => ?_
  split
  · exact (Tx.blind_ofExcept _).then hpatch
  · split
    · exact hpatch _
    · refine (Tx.blind_failIf _ _).then fun _ => (insertLot_blind _).then fun id => ?_
      split
      · exact Tx.blind_pure _
      · exact (Tx.blind_demand _ _).then hpatch

theorem ensureLotFull_blind (pms : PmsClient) (itemId warehouseId : ℕ) (lotCode : String)
    (pd ed : Option Date) :
    Tx.Blind ZerosShed (ensureLotFull pms itemId warehouseId lotCode pd ed) := by
  refine (Tx.blind_failIf _ _).then fun _ => (Tx.blind_ofExcept _).then fun policy =>
    (Tx.blind_ofExcept _).then fun dates => (Tx.blind_failIf _ _).then fun _ => ?_
  split
  · exact ensureRequiredLot_blind _ _ _ _ _ _
  · exact Tx.blind_get_bind (fun b c hbc => by cases hbc; rfl) fun b => Tx.blind_ofExcept _

theorem resolveInboundLot_blind (pms : PmsClient) (warehouseId : ℕ) (policy : ItemPolicy)
    (lotCode : Option String) (pd ed : Option Date) :
    Tx.Blind ZerosShed (resolveInboundLot pms warehouseId policy lotCode pd ed) := by
  unfold resolveInboundLot
  split
  · refine (Tx.blind_demand _ _).then fun code => (Tx.blind_failIf _ _).then fun _ =>
      ((ensureLotFull_blind _ _ _ _ _ _).mapErr _).then fun lotId => ?_
    exact Tx.blind_get_bind (fun b c hbc => by cases hbc; rfl) fun b =>
      (Tx.blind_demand _ _).then fun l => (Tx.blind_failIf _ _).then fun _ => Tx.blind_pure _
  · exact (ensureInternalLotSingleton_blind _ _ _).mapErr _

/-! ## Balances and ledger -/

section

variable {k : SlotKey}

theorem ensureSlot_run_of_mem {b : Books} (h : k ∈ b.stocksLot) :
    (ensureSlot k).run b = .ok (⟨⟩, b) :=
  ensureSlot_run_ok.mpr (.inl ⟨h, rfl⟩)

theorem ensureSlot_run_of_notMem {b : Books} (h : k ∉ b.stocksLot) (hlot : b.HasLot k) :
    (ensureSlot k).run b = .ok (⟨⟩, b.putQty k 0 hlot) :=
  ensureSlot_run_ok.mpr (.inr ⟨h, hlot, rfl⟩)

theorem ensureSlot_run_of_not_hasLot {b : Books} (h : ¬b.HasLot k) :
    (ensureSlot k).run b = .error (.integrityError "fk_stocks_lot_lot_dims") := by
  have hmem : k ∉ b.stocksLot := fun hk => h (Books.hasLot_of_mem hk)
  unfold ensureSlot
  rw [StateT.run_bind]
  change (if k ∈ b.stocksLot then _ else _ : Tx Books Err PUnit).run b = _
  rw [if_neg hmem, dif_neg h]
  rfl

/-- Afterwards the slot has a row in both books. -/
theorem ensureSlot_alike (k : SlotKey) :
    Tx.Alike ZerosShed (ZerosShedAt k) Eq Eq (ensureSlot k) (ensureSlot k) := by
  intro b c hbc
  by_cases hc : k ∈ c.stocksLot
  · rw [ensureSlot_run_of_mem (hbc.mem_of_mem hc), ensureSlot_run_of_mem hc]
    exact .ok ⟨rfl, hbc, hc⟩
  · by_cases hlot : b.HasLot k
    · have hlot' : c.HasLot k := hbc.hasLot_iff.mpr hlot
      have hput := hbc.putQty 0 hlot hlot'
      rw [ensureSlot_run_of_notMem hc hlot']
      by_cases hb : k ∈ b.stocksLot
      · -- Only the second books need a new row; the first ones have one that holds zero.
        have hstock : Function.update b.stock k 0 = b.stock := by
          rw [← hbc.stock_eq_zero hc, Function.update_eq_self]
        have hshed : b.ZerosShed (c.putQty k 0 hlot') := by
          refine .of_eqs hbc.lots_eq hbc.ledger_eq ?_ ?_
          · rw [Books.putQty_stock, hbc.stock_eq, hstock]
          · intro k' hk'
            rcases (AList.mem_insert _).mp hk' with rfl | hmem
            · exact hb
            · exact hbc.mem_of_mem hmem
        rw [ensureSlot_run_of_mem hb]
        exact .ok ⟨rfl, hshed, hput.2⟩
      · rw [ensureSlot_run_of_notMem hb hlot]
        exact .ok ⟨rfl, hput⟩
    · rw [ensureSlot_run_of_not_hasLot hlot,
        ensureSlot_run_of_not_hasLot (mt hbc.hasLot_iff.mp hlot)]
      exact .error rfl

theorem lockSlot_blind (k : SlotKey) : Tx.Blind (ZerosShedAt k) (lockSlot k) := by
  intro b c hbc
  rw [lockSlot_run_ok.mpr ⟨rfl, rfl⟩, lockSlot_run_ok.mpr ⟨rfl, rfl⟩]
  exact .ok ⟨(hbc.1.lookup_eq hbc.2).symm, hbc⟩

theorem setSlotQty_blind (k : SlotKey) (q : ℤ) : Tx.Blind (ZerosShedAt k) (setSlotQty k q) := by
  refine Tx.Alike.get_bind fun b c hbc => ?_
  have hc : k ∈ c.stocksLot := hbc.2
  have hb : k ∈ b.stocksLot := hbc.1.mem_of_mem hc
  rw [dif_pos hb, dif_pos hc]
  split
  · exact Tx.blind_throw _
  · exact Tx.alike_set (hbc.1.putQty q _ _)

theorem Books.ZerosShedAt.putLedger {b c : Books} (h : ZerosShedAt k b c)
    (t : Table LedgerRow LedgerRow.SameKey) : ZerosShedAt k (b.putLedger t) (c.putLedger t) :=
  ⟨h.1.putLedger t, h.2⟩

theorem insertLedger_blind (knownEvents : List ℕ) (v : LedgerValues) :
    Tx.Blind (ZerosShedAt k) (insertLedger knownEvents v) := by
  refine (Tx.blind_ofExcept _).then fun row => Tx.Alike.get_bind fun b c hbc => ?_
  obtain ⟨hshed, hmem⟩ := hbc
  cases hshed with
  | intro hstock hslots =>
    refine Tx.Blind.bind (fun _ => rfl) (Tx.blind_demand _ _) fun t => ?_
    refine Tx.Blind.bind (fun _ => rfl) (Tx.blind_ofExcept _) fun _ => ?_
    exact Tx.alike_set (Books.ZerosShedAt.putLedger ⟨.intro hstock hslots, hmem⟩ t)

theorem writeLedger_blind (knownEvents : List ℕ) (v : LedgerValues) :
    Tx.Blind (ZerosShedAt k) (writeLedger knownEvents v) := by
  refine Tx.Alike.get_bind fun b c hbc => ?_
  obtain ⟨hshed, hmem⟩ := hbc
  cases hshed with
  | intro hstock hslots =>
    have hput := Books.ZerosShedAt.putLedger (k := k) ⟨.intro hstock hslots, hmem⟩
    refine Tx.Blind.bind (fun _ => rfl) (Tx.blind_ofExcept _) fun _ => ?_
    refine Tx.Blind.bind (fun _ => rfl) (Tx.blind_ofExcept _) fun new => ?_
    dsimp only
    split
    · refine Tx.Blind.bind (fun _ => rfl) (Tx.blind_ofExcept _) fun _ => ?_
      exact (Tx.alike_set (hput _)).bind fun _ _ _ => Tx.blind_pure _
    · refine Tx.Blind.bind (fun _ => rfl) (Tx.blind_failIf _ _) fun _ => ?_
      refine Tx.Blind.bind (fun _ => rfl) (Tx.blind_failIf _ _) fun _ => ?_
      exact (Tx.alike_set (hput _)).bind fun _ _ _ => Tx.blind_pure _

/-- Adding to the balance of a slot, which may have no row. -/
theorem addSlotQty_alike (k : SlotKey) (delta : ℤ) :
    Tx.Alike ZerosShed (ZerosShedAt k) Eq Eq (addSlotQty k delta) (addSlotQty k delta) := by
  refine Tx.Alike.get_bind fun b c hbc => ?_
  rw [hbc.stock_eq]
  split
  · exact Tx.alike_throw rfl
  · split
    · rename_i hb
      rw [dif_pos (hbc.hasLot_iff.mpr hb)]
      exact (Tx.alike_set (hbc.putQty _ _ _)).bind fun _ _ _ => Tx.alike_pure rfl
    · rename_i hb
      rw [dif_neg (mt hbc.hasLot_iff.mp hb)]
      exact Tx.alike_throw rfl

end

/-- Books that agree about a slot agree. -/
theorem Tx.Alike.forget {k : SlotKey} {E : Err → Err → Prop} {α β : Type} {A : α → β → Prop}
    {R : Books → Books → Prop} {x : Tx Books Err α} {y : Tx Books Err β}
    (h : Tx.Alike R (ZerosShedAt k) E A x y) : Tx.Alike R ZerosShed E A x y :=
  h.mono (fun _ _ => id) (fun _ _ hbc => hbc.1) fun _ _ => id

/-! ## Movements -/

theorem book_blind (knownEvents : List ℕ) (a : Adjustment) :
    Tx.Blind ZerosShed (a.book knownEvents) := by
  refine Tx.Alike.forget (k := a.slot) ((ensureSlot_alike a.slot).bind fun _ _ _ => ?_)
  refine (lockSlot_blind a.slot).then fun before? => (Tx.blind_demand _ _).then fun before =>
    (Tx.blind_ofExcept _).then fun after => (writeLedger_blind knownEvents _).then fun _ => ?_
  split
  · exact (setSlotQty_blind a.slot after).then fun _ => Tx.blind_pure _
  · exact Tx.blind_pure _

theorem adjustLot_blind (env : AdjustEnv) (call : AdjustCall) :
    Tx.Blind ZerosShed (adjustLot env call) := by
  refine Tx.blind_get_bind (fun b c hbc => by cases hbc; rfl) fun b => ?_
  refine (Tx.blind_ofExcept _).then fun a? => ?_
  cases a? with
  | none => exact Tx.blind_pure _
  | some a =>
    dsimp only
    split
    · exact Tx.blind_pure _
    · exact book_blind env.knownEvents a

theorem receiveStock_blind (knownEvents : List ℕ) (v : ℤ → LedgerValues) (k : SlotKey) (delta : ℤ) :
    Tx.Blind ZerosShed (receiveStock knownEvents v k delta) := by
  refine Tx.Alike.forget (k := k) ((addSlotQty_alike k delta).bind fun after after' heq => ?_)
  rw [← heq]
  exact insertLedger_blind knownEvents (v after)

/-! ## Shipments -/

/-- The refusal of a shipment whose slot has no row. -/
def slotMissing (k : SlotKey) : Err := .valueError
  s!"stock_slot_not_found: warehouse_id={k.warehouseId}, item_id={k.itemId}, lot_id={k.lotId}"

/-- The refusal of a shipment whose slot holds too little. -/
def slotShort (k : SlotKey) (currentQty needQty : ℤ) : Err := .valueError
  s!"insufficient_stock: warehouse_id={k.warehouseId}, item_id={k.itemId}, lot_id={k.lotId}, current_qty={currentQty}, need_qty={needQty}"

/-- The same error, or the two refusals of a shipment from a slot that holds nothing. -/
def SameRefusal (e e' : Err) : Prop :=
  e = e' ∨ ∃ k need, 0 < need ∧ e = slotShort k 0 need ∧ e' = slotMissing k

section

variable {knownEvents : List ℕ} {event : WmsEvent} {l : OutboundEventLine} {b : Books}

theorem shipLine_missing (h : l.slot event.warehouseId ∉ b.stocksLot) :
    (shipLine knownEvents event l).run b = .error (slotMissing (l.slot event.warehouseId)) := by
  have hlock := lockSlot_run_ok.mpr ⟨AList.lookup_eq_none.mpr h, rfl⟩
  unfold shipLine
  rw [Tx.run_bind_of_ok hlock]
  exact Tx.run_bind_of_error rfl

theorem shipLine_short (h : l.slot event.warehouseId ∈ b.stocksLot)
    (hshort : b.stock (l.slot event.warehouseId) < l.qtyOutbound) :
    (shipLine knownEvents event l).run b = .error (slotShort (l.slot event.warehouseId)
      (b.stock (l.slot event.warehouseId)) l.qtyOutbound) := by
  obtain ⟨q, hq⟩ := Option.isSome_iff_exists.mp (AList.lookup_isSome.mpr h)
  have hlock := lockSlot_run_ok.mpr ⟨hq, rfl⟩
  rw [Books.stock_of_lookup hq] at hshort ⊢
  unfold shipLine
  rw [Tx.run_bind_of_ok hlock, Tx.run_bind_of_ok (Tx.run_demand_ok.mpr ⟨rfl, rfl⟩)]
  exact Tx.run_bind_of_error (Tx.run_failIf_of hshort)

end

/-- A shipment has the same effect on both books, or both refuse it. -/
theorem shipLine_alike (knownEvents : List ℕ) (event : WmsEvent) (l : OutboundEventLine) :
    Tx.Alike ZerosShed ZerosShed SameRefusal Eq (shipLine knownEvents event l)
      (shipLine knownEvents event l) := by
  intro b c hbc
  by_cases hc : l.slot event.warehouseId ∈ c.stocksLot
  · have hblind : Tx.Blind (ZerosShedAt (l.slot event.warehouseId))
        (shipLine knownEvents event l) := by
      refine (lockSlot_blind _).then fun _ => (Tx.blind_demand _ _).then fun q =>
        (Tx.blind_failIf _ _).then fun _ => (insertLedger_blind knownEvents _).then fun _ => ?_
      exact setSlotQty_blind _ _
    exact (hblind b c ⟨hbc, hc⟩).mono (fun _ _ => .inl) fun p q hpq => ⟨hpq.1, hpq.2.1⟩
  · rw [shipLine_missing hc]
    by_cases hb : l.slot event.warehouseId ∈ b.stocksLot
    · have hzero : b.stock (l.slot event.warehouseId) = 0 := hbc.stock_eq_zero hc
      have hqty := l.qty_pos
      rw [shipLine_short hb (by omega), hzero]
      exact .error (.inr ⟨_, _, hqty, rfl, rfl⟩)
    · rw [shipLine_missing hb]
      exact .error (.inl rfl)

end Wms

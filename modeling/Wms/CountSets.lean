import Wms.Count.CountService
import Wms.System

/-!
# A count sets the stock

A count reads the stock under a code and adjusts one lot. It sets this lot to what was
counted exactly when nothing else is in stock under the code and the reference is new to
the lot; where the reference is not new, nothing moves and the answer still names the
counted quantity.
-/

namespace Wms

open Foundation

/-- The slot of a lot of the counted item. -/
def CountRequest.slot (req : CountRequest) (lotId : ℕ) : SlotKey :=
  ⟨req.warehouseId, req.itemId, lotId⟩

/-- The slot holds what was counted, the answer says so, and no other slot has changed. -/
structure CountRequest.Sets (req : CountRequest) (k : SlotKey) (b b' : Books)
    (res : CountResponse) : Prop where
  stock_eq : b'.stock k = req.qty
  after_eq : res.after = b'.stock k
  others_eq : ∀ k', k' ≠ k → b'.stock k' = b.stock k'

/-- The ledger has a count of the slot with the reference of the request. -/
def CountRequest.Repeats (req : CountRequest) (k : SlotKey) (b : Books) : Prop :=
  b.HasKey k "ADJUSTMENT" req.ref 1

/-- The stock under the code is that of the slot and the reference is new to it, or the
reference is known and the slot holds what is counted already. -/
def CountRequest.Fits (req : CountRequest) (k : SlotKey) (code : Option String) (b : Books) :
    Prop :=
  (¬req.Repeats k b ∧ b.codeTotal req.warehouseId req.itemId code = b.stock k) ∨
    (req.Repeats k b ∧ b.stock k = req.qty)

variable {pms : PmsClient} {env : AdjustEnv} {req : CountRequest} {res : CountResponse}
  {b b' : Books} {db db' : Database}

/-- Finding the lot of a count follows every relation that the statements on lots do. -/
theorem FollowedByLots.resolveCountedLot {R : Books → Books → Prop} [IsPreorder Books R]
    (hR : FollowedByLots R) (pms : PmsClient) (req : CountRequest) :
    Tx.Follows R (resolveCountedLot pms req) :=
  (Tx.follows_ofExcept _).bind fun _ => (Tx.follows_demand _ _).bind fun _ =>
    (Tx.follows_ofExcept _).bind fun _ => (Tx.follows_failIf _ _).bind fun _ =>
    hR.resolveLotForStockAdjust _ _ _ _ _ _

/-- A count whose reference is known changes nothing and answers with the counted quantity;
any other moves the slot by what was counted less what is in stock under the code. -/
theorem countLot_run_ok (h : (countLot env req).run b = .ok (res, b')) :
    ∃ lotId code b₁, (resolveCountedLot env.pms req).run b = .ok ((lotId, code), b₁) ∧
      ((req.Repeats (req.slot lotId) b ∧ b'.stock = b.stock ∧ res.after = req.qty) ∨
        (¬req.Repeats (req.slot lotId) b ∧
          b'.stock = Function.update b.stock (req.slot lotId) (b.stock (req.slot lotId) +
            (req.qty - b.codeTotal req.warehouseId req.itemId code)) ∧
          res.after = b.stock (req.slot lotId) +
            (req.qty - b.codeTotal req.warehouseId req.itemId code))) := by
  unfold countLot at h
  simp only [Tx.run_bind_ok, Tx.run_get_ok, Tx.run_ofExcept_ok, Tx.run_pure_ok] at h
  obtain ⟨⟨lotId, code⟩, b₁, hresolve, _, _, ⟨rfl, rfl⟩, _, _, ⟨-, rfl⟩, out, _, hadjust, rfl,
    rfl⟩ := h
  obtain ⟨hstock, hledger⟩ := sameStock_followedByLots.resolveCountedLot env.pms req b _ b₁ hresolve
  have hcodes := codesKept_followedByLots.resolveCountedLot env.pms req b _ b₁ hresolve
  have htotal : b₁.codeTotal req.warehouseId req.itemId code =
      b.codeTotal req.warehouseId req.itemId code :=
    Books.codeTotal_of_sameStock ⟨hstock, hledger⟩ hcodes
  have hkey : b₁.HasKey (req.slot lotId) "ADJUSTMENT" req.ref 1 ↔
      req.Repeats (req.slot lotId) b := by
    unfold CountRequest.Repeats Books.HasKey
    rw [hledger]
  refine ⟨lotId, code, b₁, hresolve, ?_⟩
  have hasks : req.qty - b₁.codeTotal req.warehouseId req.itemId code ≠ 0 ∨
      decide (req.qty - b₁.codeTotal req.warehouseId req.itemId code = 0) = true := by
    rw [decide_eq_true_eq]
    exact (em _).symm
  rcases adjustLot_moves rfl hasks hadjust with ⟨hit, rfl, rfl⟩ | ⟨hfree, -, hmove, rfl⟩
  · exact .inl ⟨hkey.mp hit, hstock, rfl⟩
  · refine .inr ⟨mt hkey.mpr hfree, ?_, ?_⟩
    · rw [hmove, ← htotal, ← hstock]
      rfl
    · rw [← htotal, ← hstock]
      rfl

theorem submitCount_run_ok {utcNow : ℤ}
    (h : (submitCount pms utcNow req).run db = .ok (res, db')) :
    (countLot ⟨pms, db.eventBook.ids, utcNow⟩ req).run db.books = .ok (res, db'.books) := by
  unfold submitCount at h
  simp only [Tx.run_bind_ok, ensureWarehouseNotFrozen_run_ok, Tx.run_get_ok, onBooks_run_ok] at h
  obtain ⟨_, _, ⟨-, rfl⟩, _, _, ⟨rfl, rfl⟩, b', hcount, rfl⟩ := h
  exact hcount

/-- A count of the apples. -/
def countApples (qty : ℤ) (h : 0 ≤ qty) : CountRequest where
  itemId := 1
  warehouseId := 1
  qty := qty
  ref := "C-1"
  lotCode := none
  occurredAt := 0
  productionDate := none
  expiryDate := none
  warehouse_pos := Nat.one_pos
  qty_nonneg := h

/-- Seven of the ten apples are there. -/
def countSeven : CountRequest := countApples 7 (by decide)

/-- Nine apples are there. -/
def countNine : CountRequest := countApples 9 (by decide)

/-- The apples have been counted once. -/
def countedSeven : Database := (submitCount plainPms 0 countSeven).attempt (Database.after stocked)

end Wms

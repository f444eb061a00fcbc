import Wms.Stock.Expiry
import Wms.Stock.Ledger

/-!
# Finding and creating lots

An inbound movement names its lot by what is printed on the goods. A supplier lot of a
dated item is identified by its production date, and an item without supplier lots has
one internal lot in each warehouse. Lots are created on the way; no balance changes.
-/

namespace Wms

open Foundation

/-- The values of a lot before the columns and checks of `lots` are applied. -/
structure LotValues where
  warehouseId : ℕ
  itemId : ℕ
  lotCodeSource : LotCodeSource
  lotCode : Option String
  productionDate : Option Date
  expiryDate : Option Date
  policy : ItemPolicy

/-- Fit the values into the columns of `lots` and apply its checks. -/
def LotValues.row (v : LotValues) (id : ℕ) (hid : 0 < id) : Except Err Lot := do
  let lotCode ← Varchar.store? 64 v.lotCode
  if h : ((v.lotCodeSource = .supplier ↔ lotCode.isSome) ∧
      (v.policy.shelfLifeValue = none ↔ v.policy.shelfLifeUnit = none)) ∧
      (v.policy.expiryPolicy = .required ∨
        (v.policy.shelfLifeValue = none ∧ v.policy.shelfLifeUnit = none)) ∧
      (v.policy.expiryPolicy = .required ↔ v.productionDate.isSome) ∧
      (∀ pd ∈ v.productionDate, ∀ ed ∈ v.expiryDate, pd ≤ ed) ∧
      (v.policy.expiryPolicy = .required → v.lotCodeSource = .supplier ∧ v.expiryDate.isSome) then
    return {
      id := id, warehouseId := v.warehouseId, itemId := v.itemId
      lotCodeSource := v.lotCodeSource, lotCode := lotCode
      productionDate := v.productionDate, expiryDate := v.expiryDate
      shelfLifeValueSnapshot := v.policy.shelfLifeValue
      shelfLifeUnitSnapshot := v.policy.shelfLifeUnit
      lotSourcePolicySnapshot := v.policy.lotSourcePolicy
      expiryPolicySnapshot := v.policy.expiryPolicy
      derivationAllowedSnapshot := v.policy.derivationAllowed
      uomGovernanceEnabledSnapshot := v.policy.uomGovernanceEnabled
      id_pos := hid, lotCode_by_source := h.1.1, shelfLife_pair := h.1.2
      shelfLife_by_policy := h.2.1, productionDate_by_policy := h.2.2.1
      production_le_expiry := h.2.2.2.1, required_supplier := h.2.2.2.2 }
  else .error (.integrityError "ck_lots")

/-- Add a lot that the table accepts. -/
def Books.addLot (b : Books) {l : Lot} {t : Table Lot Lot.Conflict}
    (ht : b.lots.insert l = some t) : Books :=
  { b with
    lots := t
    slot_fk := by
      intro k hk
      obtain ⟨l', hl', h⟩ := b.slot_fk k hk
      refine ⟨l', ?_, h⟩
      rw [(Table.insert_eq_some.mp ht).2]
      exact List.mem_append_left _ hl' }

/-- The lot with its expiry date filled in; a date that is known is kept. -/
def Lot.patchExpiry (l : Lot) (ed : Date) (h : ∀ pd ∈ l.productionDate, pd ≤ ed) : Lot :=
  if l.expiryDate = none then
    { l with
      expiryDate := some ed
      production_le_expiry := fun pd hpd ed' hed' => by
        obtain rfl := Option.some.inj hed'
        exact h pd hpd
      required_supplier := fun hreq => ⟨(l.required_supplier hreq).1, rfl⟩ }
  else l

theorem Lot.patchExpiry_keeps (l : Lot) (ed : Date) (h : ∀ pd ∈ l.productionDate, pd ≤ ed) :
    (l.patchExpiry ed h).id = l.id ∧ (l.patchExpiry ed h).warehouseId = l.warehouseId ∧
      (l.patchExpiry ed h).itemId = l.itemId ∧
      (l.patchExpiry ed h).lotCodeSource = l.lotCodeSource ∧
      (l.patchExpiry ed h).expiryPolicySnapshot = l.expiryPolicySnapshot ∧
      (l.patchExpiry ed h).productionDate = l.productionDate := by
  unfold Lot.patchExpiry
  split <;> exact ⟨rfl, rfl, rfl, rfl, rfl, rfl⟩

/-- One row of the update that fills in the expiry date of a lot. -/
def Lot.patchExpiryOf (lotId : ℕ) (ed : Date) (l : Lot) : Lot :=
  if h : l.id = lotId ∧ ∀ pd ∈ l.productionDate, pd ≤ ed then l.patchExpiry ed h.2 else l

theorem Lot.patchExpiryOf_keeps (lotId : ℕ) (ed : Date) (l : Lot) :
    (l.patchExpiryOf lotId ed).id = l.id ∧
      (l.patchExpiryOf lotId ed).warehouseId = l.warehouseId ∧
      (l.patchExpiryOf lotId ed).itemId = l.itemId ∧
      (l.patchExpiryOf lotId ed).lotCodeSource = l.lotCodeSource ∧
      (l.patchExpiryOf lotId ed).expiryPolicySnapshot = l.expiryPolicySnapshot ∧
      (l.patchExpiryOf lotId ed).productionDate = l.productionDate := by
  unfold Lot.patchExpiryOf
  split
  · exact l.patchExpiry_keeps ed _
  · exact ⟨rfl, rfl, rfl, rfl, rfl, rfl⟩

theorem Lot.conflict_of_patchExpiryOf {lotId : ℕ} {ed : Date} {a b : Lot}
    (h : (a.patchExpiryOf lotId ed).Conflict (b.patchExpiryOf lotId ed)) : a.Conflict b := by
  obtain ⟨ha₁, ha₂, ha₃, ha₄, ha₅, ha₆⟩ := a.patchExpiryOf_keeps lotId ed
  obtain ⟨hb₁, hb₂, hb₃, hb₄, hb₅, hb₆⟩ := b.patchExpiryOf_keeps lotId ed
  unfold Lot.Conflict Lot.SameRequired Lot.SameInternal Lot.BelongsTo at h ⊢
  rwa [ha₁, ha₂, ha₃, ha₄, ha₅, ha₆, hb₁, hb₂, hb₃, hb₄, hb₅, hb₆] at h

/-- The books with the expiry date of a lot filled in. -/
def Books.patchLotExpiry (b : Books) (lotId : ℕ) (ed : Date) : Books :=
  { b with
    lots := b.lots.map (Lot.patchExpiryOf lotId ed) fun _ _ => Lot.conflict_of_patchExpiryOf
    slot_fk := by
      intro k hk
      obtain ⟨l, hl, hid, hw, hi⟩ := b.slot_fk k hk
      obtain ⟨hid', hw', hi', -⟩ := l.patchExpiryOf_keeps lotId ed
      exact ⟨_, List.mem_map_of_mem hl, hid'.trans hid, hw'.trans hw, hi'.trans hi⟩ }

/-- `_patch_lot_expiry_if_null`. -/
def patchLotExpiryIfNull (lotId : ℕ) (expiryDate : Option Date) : Tx Books Err PUnit :=
  match expiryDate with
  | none => pure ⟨⟩
  | some ed => do
    let b ← get
    Tx.failIf (∃ l ∈ b.lots.rows, l.id = lotId ∧ l.expiryDate = none ∧
      ¬∀ pd ∈ l.productionDate, pd ≤ ed) (.integrityError "ck_lots_production_le_expiry")
    set (b.patchLotExpiry lotId ed)

/-- `INSERT INTO lots … ON CONFLICT DO NOTHING RETURNING id`. -/
def insertLot (v : LotValues) : Tx Books Err (Option ℕ) := do
  let b ← get
  let l ← Tx.ofExcept (v.row (nextId (b.lots.rows.map Lot.id)) (nextId_pos _))
  match h : b.lots.insert l with
  | none => return none
  | some _ => do
    set (b.addLot h)
    return some l.id

/-- The lots of an item in a warehouse that come from one kind of source. -/
def Books.lotsOf (b : Books) (warehouseId itemId : ℕ) (source : LotCodeSource) : List Lot :=
  b.lots.rows.filter fun l => l.BelongsTo warehouseId itemId ∧ l.lotCodeSource = source

/-- `_get_supplier_lot_by_production_date`. -/
def Books.supplierLotByProductionDate (b : Books) (warehouseId itemId : ℕ) (pd : Date) :
    Option ℕ :=
  (((b.lotsOf warehouseId itemId .supplier).filter fun l => l.productionDate = some pd).map
    Lot.id).min?

/-- `_get_supplier_lot_ids_by_lot_code`. -/
def Books.supplierLotIdsByLotCode (b : Books) (warehouseId itemId : ℕ) (code : String) :
    List ℕ :=
  let lots := (b.lotsOf warehouseId itemId .supplier).filter fun l =>
    l.lotCode.map Varchar.text = some code
  ((lots.map Lot.id).insertionSort (· ≤ ·)).take 2

/-- The internal lot of an item in a warehouse. -/
def Books.internalLot (b : Books) (warehouseId itemId : ℕ) : Option ℕ :=
  (((b.lotsOf warehouseId itemId .internal).filter fun l => l.lotCode = none).map Lot.id).min?

/-- `_load_item_policy`. -/
def loadItemPolicy (pms : PmsClient) (itemId : ℕ) : Except Err ItemPolicy := do
  match ← pms.getItemPolicy itemId with
  | none => .error (.valueError "item_not_found")
  | some policy => .ok policy

/-- `_shift_date_by_shelf_life`. Moving by years is moving by twelve times as many
months. -/
def shiftDateByShelfLife (base : Date) (value : Option ℕ) (unit : Option ShelfLifeUnit)
    (sign : ℤ) : Except Err (Option Date) :=
  match value, unit with
  | some v, some .day => (shiftDays base (sign * v)).map some
  | some v, some .week => (shiftDays base (sign * (7 * v))).map some
  | some v, some .month => (addMonths base (sign * v)).map some
  | some v, some .year => (addMonths base (sign * (12 * v))).map some
  | _, _ => .ok none

/-- The dates of a supplier lot of a dated item, each completed from the other. -/
def completeLotDates (policy : ItemPolicy) (pd ed : Option Date) :
    Except Err (Option Date × Option Date) :=
  if policy.expiryPolicy = .required then do
    let ed ←
      match pd, ed with
      | some p, none => shiftDateByShelfLife p policy.shelfLifeValue policy.shelfLifeUnit 1
      | _, ed => pure ed
    let pd ←
      match pd, ed with
      | none, some e => shiftDateByShelfLife e policy.shelfLifeValue policy.shelfLifeUnit (-1)
      | pd, _ => pure pd
    return (pd, ed)
  else .ok (pd, ed)

/-- `ensure_internal_lot_singleton` without a source line. -/
def ensureInternalLotSingleton (pms : PmsClient) (itemId warehouseId : ℕ) : Tx Books Err ℕ := do
  let b ← get
  match b.internalLot warehouseId itemId with
  | some id => return id
  | none => do
    let policy ← Tx.ofExcept (loadItemPolicy pms itemId)
    match ← insertLot ⟨warehouseId, itemId, .internal, none, none, none, policy⟩ with
    | some id => return id
    | none =>
      Tx.demand (b.internalLot warehouseId itemId) (.runtimeError
        "ensure_internal_lot_singleton failed to materialize INTERNAL lot row")

/-- The lot that a lot code alone identifies. -/
def legacyLot (ids : List ℕ) (notFound : String) : Except Err ℕ :=
  match ids with
  | [] => .error (.valueError notFound)
  | [id] => .ok id
  | _ :: _ :: _ => .error (.valueError "supplier_lot_code_ambiguous")

/-- The branch of `ensure_lot_full` for an item with expiry dates. -/
def ensureRequiredLot (policy : ItemPolicy) (itemId warehouseId : ℕ) (code : String)
    (pd ed : Option Date) : Tx Books Err ℕ := do
  let b ← get
  match pd with
  | none => do
    let id ← Tx.ofExcept (legacyLot (b.supplierLotIdsByLotCode warehouseId itemId code)
      "production_date_required_for_required_lot")
    patchLotExpiryIfNull id ed
    return id
  | some p =>
    match b.supplierLotByProductionDate warehouseId itemId p with
    | some id => do
      patchLotExpiryIfNull id ed
      return id
    | none => do
      Tx.failIf (ed = none) (.valueError "expiry_date_required_for_required_lot")
      match ← insertLot ⟨warehouseId, itemId, .supplier, some code, some p, ed, policy⟩ with
      | some id => return id
      | none => do
        let id ← Tx.demand (b.supplierLotByProductionDate warehouseId itemId p) (.runtimeError
          "ensure_lot_full failed to materialize lot row by production_date")
        patchLotExpiryIfNull id ed
        return id

/-- `ensure_lot_full`. -/
def ensureLotFull (pms : PmsClient) (itemId warehouseId : ℕ) (lotCode : String)
    (productionDate expiryDate : Option Date) : Tx Books Err ℕ := do
  Tx.failIf (strip lotCode = "") (.valueError "lot_code empty")
  let policy ← Tx.ofExcept (loadItemPolicy pms itemId)
  let (pd, ed) ← Tx.ofExcept (completeLotDates policy productionDate expiryDate)
  Tx.failIf (∃ p ∈ pd, ∃ e ∈ ed, e < p)
    (.valueError "expiry_date_cannot_be_earlier_than_production_date")
  if policy.expiryPolicy = .required then
    ensureRequiredLot policy itemId warehouseId (strip lotCode) pd ed
  else do
    let b ← get
    Tx.ofExcept (legacyLot (b.supplierLotIdsByLotCode warehouseId itemId (strip lotCode))
      "supplier_lot_not_allowed_for_nonrequired_item")

/-- `_snapshot_equal`. -/
def Lot.SnapshotEqual (l : Lot) (policy : ItemPolicy) : Prop :=
  l.shelfLifeValueSnapshot = policy.shelfLifeValue ∧
    l.shelfLifeUnitSnapshot = policy.shelfLifeUnit ∧
    l.lotSourcePolicySnapshot = policy.lotSourcePolicy ∧
    l.expiryPolicySnapshot = policy.expiryPolicy ∧
    l.derivationAllowedSnapshot = policy.derivationAllowed ∧
    l.uomGovernanceEnabledSnapshot = policy.uomGovernanceEnabled

instance (l : Lot) (policy : ItemPolicy) : Decidable (l.SnapshotEqual policy) :=
  inferInstanceAs (Decidable (_ ∧ _))

/-- A `ValueError` reaches the client as an unprocessable request. -/
def valueErrorAs422 : Err → Err
  | .valueError detail => .httpException 422 detail
  | e => e

/-- `resolve_or_create_lot` for a supplier lot. -/
def resolveSupplierLot (pms : PmsClient) (warehouseId : ℕ) (policy : ItemPolicy)
    (lotCode : Option String) (productionDate expiryDate : Option Date) : Tx Books Err ℕ := do
  let code ← Tx.demand (lotCode.bind fun c => if strip c = "" then none else some c)
    (.httpException 422 "supplier_lot_code_required")
  Tx.failIf (policy.expiryPolicy = .required ∧ productionDate = none)
    (.httpException 422 "production_date_required_for_required_lot")
  let lotId ← Tx.mapErr valueErrorAs422
    (ensureLotFull pms policy.itemId warehouseId code productionDate expiryDate)
  let b ← get
  let existing ← Tx.demand (b.findLot lotId) (.httpException 500 "lot_create_or_resolve_failed")
  Tx.failIf (¬existing.SnapshotEqual policy) (.httpException 409 "lot_snapshot_conflict")
  return existing.id

/-- `resolve_inbound_lot`. -/
def resolveInboundLot (pms : PmsClient) (warehouseId : ℕ) (policy : ItemPolicy)
    (lotCode : Option String) (productionDate expiryDate : Option Date) : Tx Books Err ℕ :=
  match policy.lotSourcePolicy with
  | .supplierOnly =>
    resolveSupplierLot pms warehouseId policy lotCode productionDate expiryDate
  | .internalOnly =>
    Tx.mapErr valueErrorAs422 (ensureInternalLotSingleton pms policy.itemId warehouseId)

/-! ## Lots do not move stock -/

/-- Balances and ledger are as before. -/
def SameStock (b b' : Books) : Prop := b'.stock = b.stock ∧ b'.stockLedger = b.stockLedger

instance : IsPreorder Books SameStock where
  refl _ := ⟨rfl, rfl⟩
  trans _ _ _ hab hbc := ⟨hbc.1.trans hab.1, hbc.2.trans hab.2⟩

theorem SameStock.bookedIn {b b' : Books} (h : SameStock b b') (w : ℕ) : BookedIn w b b' :=
  .of_eq h.1 (by unfold Books.journal; rw [h.2])

theorem patchLotExpiryIfNull_sameStock (lotId : ℕ) (ed : Option Date) :
    Tx.Follows SameStock (patchLotExpiryIfNull lotId ed) := by
  unfold patchLotExpiryIfNull
  cases ed with
  | none => exact Tx.follows_pure _
  | some ed =>
    intro b u b' h
    simp only [Tx.run_bind_ok, Tx.run_get_ok, Tx.run_failIf_ok, Tx.run_set_ok] at h
    obtain ⟨_, _, ⟨rfl, rfl⟩, _, _, ⟨-, rfl⟩, rfl⟩ := h
    exact ⟨rfl, rfl⟩

theorem insertLot_sameStock (v : LotValues) : Tx.Follows SameStock (insertLot v) := by
  intro b id b' h
  unfold insertLot at h
  simp only [Tx.run_bind_ok, Tx.run_get_ok, Tx.run_ofExcept_ok] at h
  obtain ⟨_, _, ⟨rfl, rfl⟩, l, _, ⟨-, rfl⟩, h⟩ := h
  split at h
  · obtain ⟨-, rfl⟩ := Tx.run_pure_ok.mp h
    exact refl_of SameStock b
  · simp only [Tx.run_bind_ok, Tx.run_set_ok, Tx.run_pure_ok] at h
    obtain ⟨_, _, rfl, -, rfl⟩ := h
    exact ⟨rfl, rfl⟩

/-- A relation on books that the two statements on lots follow. -/
structure FollowedByLots (R : Books → Books → Prop) : Prop where
  /-- A lot is inserted with a code that is stripped, and a supplier lot with its production
  date. -/
  insert : ∀ v : LotValues, (∀ code ∈ v.lotCode, strip code = code) →
    (v.lotCodeSource = .supplier → v.productionDate.isSome) → Tx.Follows R (insertLot v)
  patch : ∀ id ed, Tx.Follows R (patchLotExpiryIfNull id ed)

namespace FollowedByLots

theorem mono {R S : Books → Books → Prop} (hR : FollowedByLots R) (h : ∀ b b', R b b' → S b b') :
    FollowedByLots S :=
  ⟨fun v hv hdate => (hR.insert v hv hdate).mono h, fun id ed => (hR.patch id ed).mono h⟩

variable {R : Books → Books → Prop} [IsPreorder Books R]

theorem ensureInternalLotSingleton (hR : FollowedByLots R) (pms : PmsClient)
    (itemId warehouseId : ℕ) :
    Tx.Follows R (Wms.ensureInternalLotSingleton pms itemId warehouseId) := by
  have hinsert : ∀ policy, Tx.Follows R
      (insertLot ⟨warehouseId, itemId, .internal, none, none, none, policy⟩) := by
    intro policy
    apply hR.insert
    · intro code hcode
      cases hcode
    · intro hsource
      cases hsource
  refine Tx.follows_get.bind fun b => ?_
  split
  · exact Tx.follows_pure _
  · refine (Tx.follows_ofExcept _).bind fun policy => (hinsert policy).bind fun id => ?_
    split
    · exact Tx.follows_pure _
    · exact Tx.follows_demand _ _

theorem ensureRequiredLot (hR : FollowedByLots R) (policy : ItemPolicy) (itemId warehouseId : ℕ)
    {code : String} (hcode : strip code = code) (pd ed : Option Date) :
    Tx.Follows R (Wms.ensureRequiredLot policy itemId warehouseId code pd ed) := by
  have hpatch : ∀ id, Tx.Follows R (do patchLotExpiryIfNull id ed; return id) :=
    fun id => (hR.patch id ed).bind fun _ => Tx.follows_pure id
  have hinsert : ∀ p, Tx.Follows R
      (insertLot ⟨warehouseId, itemId, .supplier, some code, some p, ed, policy⟩) := by
    intro p
    apply hR.insert
    · intro c hc
      obtain rfl := Option.some.inj hc
      exact hcode
    · exact fun _ => rfl
  refine Tx.follows_get.bind fun b => ?_
  split
  · exact (Tx.follows_ofExcept _).bind hpatch
  · split
    · exact hpatch _
    · refine (Tx.follows_failIf _ _).bind fun _ => (hinsert _).bind fun id => ?_
      split
      · exact Tx.follows_pure _
      · exact (Tx.follows_demand _ _).bind hpatch

theorem ensureLotFull (hR : FollowedByLots R) (pms : PmsClient) (itemId warehouseId : ℕ)
    (lotCode : String) (pd ed : Option Date) :
    Tx.Follows R (Wms.ensureLotFull pms itemId warehouseId lotCode pd ed) := by
  refine (Tx.follows_failIf _ _).bind fun _ => (Tx.follows_ofExcept _).bind fun policy =>
    (Tx.follows_ofExcept _).bind fun dates => (Tx.follows_failIf _ _).bind fun _ => ?_
  split
  · exact hR.ensureRequiredLot _ _ _ (strip_strip lotCode) _ _
  · exact Tx.follows_get.bind fun b => Tx.follows_ofExcept _

theorem resolveInboundLot (hR : FollowedByLots R) (pms : PmsClient) (warehouseId : ℕ)
    (policy : ItemPolicy) (lotCode : Option String) (pd ed : Option Date) :
    Tx.Follows R (Wms.resolveInboundLot pms warehouseId policy lotCode pd ed) := by
  unfold Wms.resolveInboundLot
  split
  · exact (Tx.follows_demand _ _).bind fun code => (Tx.follows_failIf _ _).bind fun _ =>
      ((hR.ensureLotFull _ _ _ _ _ _).mapErr _).bind fun lotId => Tx.follows_get.bind fun b =>
        (Tx.follows_demand _ _).bind fun l => (Tx.follows_failIf _ _).bind fun _ =>
          Tx.follows_pure _
  · exact (hR.ensureInternalLotSingleton _ _ _).mapErr _

end FollowedByLots

theorem sameStock_followedByLots : FollowedByLots SameStock :=
  ⟨fun v _ _ => insertLot_sameStock v, patchLotExpiryIfNull_sameStock⟩

/-- Finding or creating the lot of an inbound movement moves no stock. -/
theorem resolveInboundLot_sameStock (pms : PmsClient) (warehouseId : ℕ) (policy : ItemPolicy)
    (lotCode : Option String) (pd ed : Option Date) :
    Tx.Follows SameStock (resolveInboundLot pms warehouseId policy lotCode pd ed) :=
  sameStock_followedByLots.resolveInboundLot pms warehouseId policy lotCode pd ed

end Wms

import Wms.Stock.AdjustLot
import Wms.Stock.ResolvedLot

/-!
# The lot of an adjustment

A count names its lot by the code that is printed on the goods. The policy of the item
says whether there must be a code, and the lot is found, or created, from the code and
the dates. What is in stock is then read under the code, over all lots that share it.
-/

namespace Wms

open Foundation

/-! ## The contract of lot codes -/

/-- `http_422`. -/
def lotCodeReject (errorCode detail : String) : Err :=
  .problem 422 errorCode detail [.lotCode "batch_code" detail]

/-- `_FORBIDDEN_FAKE_CODES`. -/
def forbiddenFakeCodes : List String := ["NOEXP", "NEAR", "FAR", "IDEM"]

/-- `validate_lot_code_contract`. -/
def validateLotCodeContract (requiresBatch : Bool) (lotCode : Option String) :
    Except Err (Option String) :=
  if requiresBatch then
    match normLotCode lotCode with
    | none => .error (lotCodeReject "batch_required"
        "batch_code is required for expiry-policy REQUIRED items.")
    | some s =>
      if lower s = "none" then
        .error (lotCodeReject "batch_invalid" "batch_code must not be 'none' (case-insensitive).")
      else .ok (some s)
  else
    match lotCode with
    | none => .ok none
    | some code =>
      if strip code = "" then
        .error (lotCodeReject "batch_forbidden"
          "batch_code must be null for expiry-policy NONE items. Do not send empty string.")
      else if upper (strip code) ∈ forbiddenFakeCodes ∨ lower (strip code) = "none" then
        .error (lotCodeReject "batch_forbidden" ("batch_code must be null for expiry-policy NONE " ++
          "items; fake codes are forbidden (NOEXP/NEAR/FAR/IDEM/None)."))
      else
        .error (lotCodeReject "batch_forbidden"
          "batch_code must be null for expiry-policy NONE items. Do not send batch_code.")

/-- `resolve_lot_for_stock_adjust`, where no lot is given. -/
def resolveLotForStockAdjust (pms : PmsClient) (itemId warehouseId : ℕ) (lotCode : Option String)
    (productionDate expiryDate : Option Date) : Tx Books Err (ℕ × Option String) := do
  let policy ← Tx.ofExcept (loadItemPolicy pms itemId)
  let lotCodeNorm ← Tx.ofExcept
    (validateLotCodeContract (policy.expiryPolicy = .required) lotCode)
  match lotCodeNorm with
  | none => do
    let lotId ← ensureInternalLotSingleton pms itemId warehouseId
    return (lotId, none)
  | some code => do
    let lotId ← ensureLotFull pms itemId warehouseId code productionDate expiryDate
    return (lotId, some code)

/-- The slot belongs to the item in the warehouse, and its lot has the code. -/
def Books.HasCode (b : Books) (warehouseId itemId : ℕ) (code : Option String) (k : SlotKey) :
    Prop :=
  k.warehouseId = warehouseId ∧ k.itemId = itemId ∧ (b.lotCodeOf k).map Varchar.text = code

instance (b : Books) (w i : ℕ) (code : Option String) : DecidablePred (b.HasCode w i code) :=
  fun _ => inferInstanceAs (Decidable (_ ∧ _ ∧ _))

/-- `get_current_qty_by_lot_code`: what the lots with the code hold together. -/
def Books.codeTotal (b : Books) (warehouseId itemId : ℕ) (code : Option String) : ℤ :=
  ((b.stocksLot.keys.filter fun k => b.HasCode warehouseId itemId code k).map b.stock).sum

variable {b b' : Books} {pms : PmsClient} {i w : ℕ} {pd ed : Option Date}
  {lotCode code : Option String} {k : SlotKey}

/-- An accepted code is the normal form of the one that is given; without a code none may
be given. -/
theorem validateLotCodeContract_eq_ok {requiresBatch : Bool}
    (h : validateLotCodeContract requiresBatch lotCode = .ok code) :
    code = normLotCode lotCode ∧ (code = none → lotCode = none) := by
  unfold validateLotCodeContract at h
  split at h
  · cases hnorm : normLotCode lotCode with
    | none => simp [hnorm] at h
    | some s =>
      simp only [hnorm] at h
      split at h
      · cases h
      · cases h
        exact ⟨rfl, nofun⟩
  · cases lotCode with
    | none =>
      cases h
      exact ⟨rfl, fun _ => rfl⟩
    | some c =>
      dsimp only at h
      repeat' split at h
      all_goals cases h

/-! ## Resolving keeps the codes -/

/-- Every lot is still there with its code. -/
def CodesKept (b b' : Books) : Prop :=
  ∀ l ∈ b.lots.rows, ∃ l' ∈ b'.lots.rows, l'.id = l.id ∧ l'.lotCode = l.lotCode

instance : IsPreorder Books CodesKept where
  refl _ l hl := ⟨l, hl, rfl, rfl⟩
  trans _ _ _ h h' l hl := by
    obtain ⟨l₁, hl₁, hid₁, hcode₁⟩ := h l hl
    obtain ⟨l₂, hl₂, hid₂, hcode₂⟩ := h' l₁ hl₁
    exact ⟨l₂, hl₂, hid₂.trans hid₁, hcode₂.trans hcode₁⟩

theorem Lot.patchExpiryOf_lotCode (lotId : ℕ) (e : Date) (l : Lot) :
    (l.patchExpiryOf lotId e).lotCode = l.lotCode := by
  unfold Lot.patchExpiryOf Lot.patchExpiry
  split
  · split <;> rfl
  · rfl

theorem codesKept_followedByLots : FollowedByLots CodesKept where
  insert v _ _ := by
    intro b o b' h
    rcases insertLot_run_ok h with ⟨-, rfl⟩ | ⟨l, hrows, -⟩
    · exact refl_of CodesKept _
    · intro l' hl'
      refine ⟨l', ?_, rfl, rfl⟩
      rw [hrows]
      exact List.mem_append_left _ hl'
  patch id ed := by
    intro b u b' h
    rcases patchLotExpiryIfNull_run_ok h with rfl | ⟨e, -, rfl⟩
    · exact refl_of CodesKept _
    · intro l hl
      exact ⟨_, List.mem_map_of_mem hl, (l.patchExpiryOf_keeps id e).1,
        l.patchExpiryOf_lotCode id e⟩

theorem FollowedByLots.resolveLotForStockAdjust {R : Books → Books → Prop} [IsPreorder Books R]
    (hR : FollowedByLots R) (pms : PmsClient) (itemId warehouseId : ℕ) (lotCode : Option String)
    (pd ed : Option Date) :
    Tx.Follows R (resolveLotForStockAdjust pms itemId warehouseId lotCode pd ed) := by
  refine (Tx.follows_ofExcept _).bind fun policy => (Tx.follows_ofExcept _).bind fun code => ?_
  split
  · exact (hR.ensureInternalLotSingleton _ _ _).bind fun _ => Tx.follows_pure _
  · exact (hR.ensureLotFull _ _ _ _ _ _).bind fun _ => Tx.follows_pure _

/-- The lot of a slot keeps its code. -/
theorem CodesKept.lotCodeOf_eq (h : CodesKept b b') (hlot : b.HasLot k) :
    b'.lotCodeOf k = b.lotCodeOf k := by
  obtain ⟨l, hl, hid, -⟩ := hlot
  obtain ⟨l', hl', hid', hcode⟩ := h l hl
  unfold Books.lotCodeOf
  rw [← hid, findLot_eq_some hl, ← hid', findLot_eq_some hl', Option.bind_some, Option.bind_some,
    hcode]

/-! ## The stock under a code -/

/-- The total may be taken over any slots that include those with a balance. -/
theorem Books.codeTotal_eq_sum {s : Finset SlotKey} (hs : ∀ k ∈ b.stocksLot, k ∈ s) :
    b.codeTotal w i code = ∑ k ∈ s, if b.HasCode w i code k then b.stock k else 0 := by
  unfold Books.codeTotal
  rw [← List.sum_toFinset _ (b.stocksLot.keys_nodup.filter _), List.toFinset_filter,
    Finset.sum_filter]
  simp only [decide_eq_true_eq]
  refine Finset.sum_subset (fun k hk => hs k (List.mem_toFinset.mp hk)) fun k _ hk => ?_
  rw [Books.stock_of_notMem fun hmem => hk (List.mem_toFinset.mpr hmem), ite_self]

/-- A single balance moves the total under the code of its lot. -/
theorem Books.codeTotal_update {delta : ℤ}
    (hcodes : ∀ k, b.stock k ≠ 0 → (b'.HasCode w i code k ↔ b.HasCode w i code k))
    (hstock : b'.stock = Function.update b.stock k (b.stock k + delta)) :
    b'.codeTotal w i code =
      b.codeTotal w i code + if b'.HasCode w i code k then delta else 0 := by
  let s := b.stocksLot.keys.toFinset ∪ b'.stocksLot.keys.toFinset ∪ {k}
  have hb : ∀ k ∈ b.stocksLot, k ∈ s := fun k hk => by
    simp only [s, Finset.mem_union, List.mem_toFinset]
    exact .inl (.inl hk)
  have hb' : ∀ k ∈ b'.stocksLot, k ∈ s := fun k hk => by
    simp only [s, Finset.mem_union, List.mem_toFinset]
    exact .inl (.inr hk)
  have hk : k ∈ s := by simp [s]
  have hterm : ∀ k' ∈ s, (if b'.HasCode w i code k' then b'.stock k' else 0) =
      (if b.HasCode w i code k' then b.stock k' else 0) +
        if k' = k then (if b'.HasCode w i code k then delta else 0) else 0 := by
    intro k' _
    have hold : (if b'.HasCode w i code k' then b.stock k' else 0) =
        if b.HasCode w i code k' then b.stock k' else 0 := by
      by_cases hzero : b.stock k' = 0
      · rw [hzero, ite_self, ite_self]
      · simp only [hcodes k' hzero]
    rw [← hold, hstock]
    by_cases hkey : k' = k
    · subst hkey
      rw [Function.update_self, if_pos rfl]
      split <;> omega
    · rw [Function.update_of_ne hkey, if_neg hkey, add_zero]
  rw [Books.codeTotal_eq_sum hb', Books.codeTotal_eq_sum hb, Finset.sum_congr rfl hterm,
    Finset.sum_add_distrib, Finset.sum_ite_eq' s k, if_pos hk]

/-- What keeps the balances and the codes keeps the totals. -/
theorem Books.codeTotal_of_sameStock (hstock : SameStock b b') (hcodes : CodesKept b b') :
    b'.codeTotal w i code = b.codeTotal w i code := by
  have hmem : ∀ k, b.stock k ≠ 0 → k ∈ b.stocksLot := by
    intro k hne
    by_contra hnot
    exact hne (Books.stock_of_notMem hnot)
  have htotal : b'.codeTotal w i code =
      b.codeTotal w i code + if b'.HasCode w i code ⟨w, i, 0⟩ then 0 else 0 := by
    apply Books.codeTotal_update
    · intro k hne
      unfold Books.HasCode
      rw [hcodes.lotCodeOf_eq (Books.hasLot_of_mem (hmem k hne))]
    · rw [hstock.1, add_zero, Function.update_eq_self]
  rw [htotal, ite_self, add_zero]

/-! ## The lot that is resolved -/

/-- A code in normal form is its own normal form. -/
theorem normLotCode_norm {c : String} (h : normLotCode lotCode = some c) :
    strip c = c ∧ normLotCode (some c) = some c := by
  cases lotCode with
  | none => cases h
  | some s =>
    unfold normLotCode at h
    dsimp only at h
    split at h
    · cases h
    · rename_i hnot
      obtain rfl := Option.some.inj h
      refine ⟨strip_strip s, ?_⟩
      unfold normLotCode
      dsimp only
      rw [strip_strip, if_neg hnot]

theorem Books.hasCode_of_lot {l : Lot} (hl : l ∈ b.lots.rows)
    (hcode : l.lotCode.map Varchar.text = code) : b.HasCode w i code ⟨w, i, l.id⟩ := by
  refine ⟨rfl, rfl, ?_⟩
  unfold Books.lotCodeOf
  rw [findLot_eq_some hl]
  exact hcode

/-- Without dates a supplier lot is found by its code alone, and nothing is written. -/
theorem ensureLotFull_without_dates {id : ℕ} {c : String}
    (h : (ensureLotFull pms i w c none none).run b = .ok (id, b')) :
    b = b' ∧ b.HasCode w i (some (strip c)) ⟨w, i, id⟩ := by
  have hlegacy : ∀ {msg}, legacyLot (b.supplierLotIdsByLotCode w i (strip c)) msg = .ok id →
      b.HasCode w i (some (strip c)) ⟨w, i, id⟩ := by
    intro msg hids
    have hmem := (List.mem_insertionSort (· ≤ ·)).mp (List.mem_of_mem_take (legacyLot_mem hids))
    obtain ⟨l, hl, rfl⟩ := List.mem_map.mp hmem
    obtain ⟨hlot, hcode⟩ := List.mem_filter.mp hl
    exact Books.hasCode_of_lot (mem_lotsOf.mp hlot).1 (of_decide_eq_true hcode)
  unfold ensureLotFull at h
  simp only [Tx.run_bind_ok, Tx.run_failIf_ok, Tx.run_ofExcept_ok] at h
  obtain ⟨_, _, ⟨-, rfl⟩, policy, _, ⟨-, rfl⟩, dates, _, ⟨hdates, rfl⟩, _, _, ⟨-, rfl⟩, h⟩ := h
  have hnone : dates = (none, none) := by
    unfold completeLotDates at hdates
    split at hdates
    · exact (Except.ok.inj hdates).symm
    · exact (Except.ok.inj hdates).symm
  rw [hnone] at h
  split at h
  · unfold ensureRequiredLot patchLotExpiryIfNull at h
    simp only [Tx.run_bind_ok, Tx.run_get_ok, Tx.run_ofExcept_ok, Tx.run_pure_ok] at h
    obtain ⟨_, _, ⟨rfl, rfl⟩, id', _, ⟨hids, rfl⟩, _, _, ⟨-, rfl⟩, rfl, rfl⟩ := h
    exact ⟨rfl, hlegacy hids⟩
  · simp only [Tx.run_bind_ok, Tx.run_get_ok, Tx.run_ofExcept_ok] at h
    obtain ⟨_, _, ⟨rfl, rfl⟩, hids, rfl⟩ := h
    exact ⟨rfl, hlegacy hids⟩

/-- Without dates the lot that is resolved has the normal form of the code that is given. -/
theorem resolveLotForStockAdjust_run_ok {lotId : ℕ}
    (h : (resolveLotForStockAdjust pms i w lotCode none none).run b = .ok ((lotId, code), b')) :
    code = normLotCode lotCode ∧ (code = none → lotCode = none) ∧
      b'.HasCode w i code ⟨w, i, lotId⟩ := by
  unfold resolveLotForStockAdjust at h
  simp only [Tx.run_bind_ok, Tx.run_ofExcept_ok] at h
  obtain ⟨policy, _, ⟨-, rfl⟩, norm, _, ⟨hnorm, rfl⟩, h⟩ := h
  obtain ⟨heq, hnone⟩ := validateLotCodeContract_eq_ok hnorm
  cases norm with
  | none =>
    simp only [Tx.run_bind_ok, Tx.run_pure_ok, Prod.mk.injEq] at h
    obtain ⟨id, _, hensure, ⟨rfl, rfl⟩, rfl⟩ := h
    refine ⟨heq, hnone, ?_⟩
    obtain ⟨-, l, hl, rfl, -, hsource⟩ :=
      ensureInternalLotSingleton_run_ok (D := fun _ => True) hensure
    apply Books.hasCode_of_lot hl
    cases hcode : l.lotCode with
    | none => rfl
    | some c =>
      have hsupplier := l.lotCode_by_source.mpr (by rw [hcode]; rfl)
      rw [hsource] at hsupplier
      cases hsupplier
  | some c =>
    simp only [Tx.run_bind_ok, Tx.run_pure_ok, Prod.mk.injEq] at h
    obtain ⟨id, _, hensure, ⟨rfl, rfl⟩, rfl⟩ := h
    refine ⟨heq, hnone, ?_⟩
    obtain ⟨rfl, hcode⟩ := ensureLotFull_without_dates hensure
    rwa [(normLotCode_norm heq.symm).1] at hcode

end Wms

import Wms.Stock.LotService

/-!
# The lot that is found

Resolving a lot adds at most one lot to the table and fills in at most one unknown
expiry date. A lot of a dated item has both dates from the start, so it never changes:
the lot that is found has the production date that was asked for, and a lot that is
created takes the dates that were given.
-/

namespace Wms

open Foundation

/-- Every lot is still there with its number, its place and its policy, and a dated lot
is as it was. -/
def LotsKept (b b' : Books) : Prop :=
  ∀ l ∈ b.lots.rows, ∃ l' ∈ b'.lots.rows, l'.id = l.id ∧
    l'.BelongsTo l.warehouseId l.itemId ∧
    l'.expiryPolicySnapshot = l.expiryPolicySnapshot ∧
    (l.expiryPolicySnapshot = .required → l' = l)

/-- The lots are kept, and a dated lot that was not there has the property. -/
structure LotsGrow (D : Lot → Prop) (b b' : Books) : Prop where
  kept : LotsKept b b'
  new : ∀ l ∈ b'.lots.rows, l.expiryPolicySnapshot = .required → l ∈ b.lots.rows ∨ D l

/-- The lot is of a dated item and takes the dates that are given for it, the production
date being one of them. -/
structure Lot.Takes (policy : ItemPolicy) (pd ed : Option Date) (l : Lot) : Prop where
  required : policy.expiryPolicy = .required
  production_isSome : pd.isSome
  productionDate_eq : l.productionDate = pd
  expiryDate_eq : ed.isSome → l.expiryDate = ed

/-- The lot is one of the warehouse and the item and has the production date that is
given. -/
def Lot.Serves (w i : ℕ) (pd : Option Date) (l : Lot) : Prop :=
  l.BelongsTo w i ∧ (pd.isSome → l.productionDate = pd)

variable {b b' b'' : Books} {D : Lot → Prop} {pms : PmsClient} {policy : ItemPolicy}
  {w i id : ℕ} {pd ed : Option Date}

theorem LotsKept.refl (b : Books) : LotsKept b b := fun l hl => ⟨l, hl, rfl, ⟨rfl, rfl⟩, rfl, fun _ => rfl⟩

theorem LotsKept.trans (h : LotsKept b b') (h' : LotsKept b' b'') : LotsKept b b'' := by
  intro l hl
  obtain ⟨l₁, hl₁, hid₁, ⟨hw₁, hi₁⟩, hpol₁, hsame₁⟩ := h l hl
  obtain ⟨l₂, hl₂, hid₂, ⟨hw₂, hi₂⟩, hpol₂, hsame₂⟩ := h' l₁ hl₁
  refine ⟨l₂, hl₂, hid₂.trans hid₁, ⟨hw₂.trans hw₁, hi₂.trans hi₁⟩, hpol₂.trans hpol₁,
    fun hreq => ?_⟩
  have hreq₁ : l₁.expiryPolicySnapshot = .required := hpol₁.trans hreq
  rw [hsame₂ hreq₁, hsame₁ hreq]

theorem LotsKept.of_eq (h : b'.lots = b.lots) : LotsKept b b' := by
  intro l hl
  rw [← h] at hl
  exact ⟨l, hl, rfl, ⟨rfl, rfl⟩, rfl, fun _ => rfl⟩

/-- A dated lot is kept as it is. -/
theorem LotsKept.mem {l : Lot} (h : LotsKept b b') (hl : l ∈ b.lots.rows)
    (hreq : l.expiryPolicySnapshot = .required) : l ∈ b'.lots.rows := by
  obtain ⟨l', hl', -, -, -, hsame⟩ := h l hl
  rwa [hsame hreq] at hl'

instance (D : Lot → Prop) : IsPreorder Books (LotsGrow D) where
  refl b := ⟨.refl b, fun _ hl _ => .inl hl⟩
  trans a b c hab hbc := by
    refine ⟨hab.kept.trans hbc.kept, fun l hl hreq => ?_⟩
    rcases hbc.new l hl hreq with hmem | hnew
    · exact hab.new l hmem hreq
    · exact .inr hnew

theorem LotsGrow.of_eq (h : b'.lots = b.lots) : LotsGrow D b b' :=
  ⟨.of_eq h, fun l hl _ => .inl (by rwa [h] at hl)⟩

theorem LotsGrow.mono {E : Lot → Prop} (hDE : ∀ l, D l → E l) (h : LotsGrow D b b') :
    LotsGrow E b b' :=
  ⟨h.kept, fun l hl hreq => (h.new l hl hreq).imp_right (hDE l)⟩

/-! ## Single statements -/

/-- Filling in an expiry date changes no dated lot. -/
theorem Lot.patchExpiryOf_of_required {l : Lot} (h : l.expiryPolicySnapshot = .required)
    (lotId : ℕ) (e : Date) : l.patchExpiryOf lotId e = l := by
  have hed : l.expiryDate ≠ none := Option.isSome_iff_ne_none.mp (l.required_supplier h).2
  unfold Lot.patchExpiryOf
  split
  · unfold Lot.patchExpiry
    rw [if_neg hed]
  · rfl

theorem patchLotExpiryIfNull_run_ok {u : PUnit}
    (h : (patchLotExpiryIfNull id ed).run b = .ok (u, b')) :
    b' = b ∨ ∃ e, ed = some e ∧ b' = b.patchLotExpiry id e := by
  unfold patchLotExpiryIfNull at h
  cases ed with
  | none => exact .inl (Tx.run_pure_ok.mp h).2.symm
  | some e =>
    simp only [Tx.run_bind_ok, Tx.run_get_ok, Tx.run_failIf_ok, Tx.run_set_ok] at h
    obtain ⟨_, _, ⟨rfl, rfl⟩, _, _, ⟨-, rfl⟩, rfl⟩ := h
    exact .inr ⟨e, rfl, rfl⟩

theorem patchLotExpiryIfNull_lotsGrow {u : PUnit}
    (h : (patchLotExpiryIfNull id ed).run b = .ok (u, b')) : LotsGrow D b b' := by
  rcases patchLotExpiryIfNull_run_ok h with rfl | ⟨e, -, rfl⟩
  · exact refl_of (LotsGrow D) _
  · constructor
    · intro l hl
      obtain ⟨hid, hw, hi, -, hpol, -⟩ := l.patchExpiryOf_keeps id e
      exact ⟨_, List.mem_map_of_mem hl, hid, ⟨hw, hi⟩, hpol,
        fun hreq => Lot.patchExpiryOf_of_required hreq id e⟩
    · intro l' hl' hreq
      obtain ⟨l, hl, rfl⟩ := List.mem_map.mp hl'
      obtain ⟨-, -, -, -, hpol, -⟩ := l.patchExpiryOf_keeps id e
      rw [hpol] at hreq
      left
      rwa [Lot.patchExpiryOf_of_required hreq]

/-- Filling in an expiry date keeps the lots that serve. -/
theorem patchLotExpiryIfNull_serves {u : PUnit} {lotId : ℕ}
    (h : (patchLotExpiryIfNull lotId ed).run b = .ok (u, b'))
    (hserves : ∃ l ∈ b.lots.rows, l.id = id ∧ l.Serves w i pd) :
    ∃ l ∈ b'.lots.rows, l.id = id ∧ l.Serves w i pd := by
  rcases patchLotExpiryIfNull_run_ok h with rfl | ⟨e, -, rfl⟩
  · exact hserves
  · obtain ⟨l, hl, hid, ⟨hw, hi⟩, hpd⟩ := hserves
    obtain ⟨hid', hw', hi', -, -, hpd'⟩ := l.patchExpiryOf_keeps lotId e
    refine ⟨_, List.mem_map_of_mem hl, hid'.trans hid, ⟨hw'.trans hw, hi'.trans hi⟩, fun hsome => ?_⟩
    exact hpd'.trans (hpd hsome)

theorem LotValues.row_dates {v : LotValues} {n : ℕ} {hn : 0 < n} {l : Lot}
    (h : v.row n hn = .ok l) :
    l.id = n ∧ l.BelongsTo v.warehouseId v.itemId ∧ l.lotCodeSource = v.lotCodeSource ∧
      l.productionDate = v.productionDate ∧ l.expiryDate = v.expiryDate ∧
      l.expiryPolicySnapshot = v.policy.expiryPolicy := by
  unfold LotValues.row at h
  simp only [bind, Except.bind] at h
  split at h
  · cases h
  · split at h
    · cases h
      exact ⟨rfl, ⟨rfl, rfl⟩, rfl, rfl, rfl, rfl⟩
    · cases h

/-- An insert either adds the lot with the values, or nothing. -/
theorem insertLot_run_ok {v : LotValues} {o : Option ℕ} (h : (insertLot v).run b = .ok (o, b')) :
    (o = none ∧ b' = b) ∨
      ∃ l, b'.lots.rows = b.lots.rows ++ [l] ∧ o = some l.id ∧
        l.BelongsTo v.warehouseId v.itemId ∧ l.lotCodeSource = v.lotCodeSource ∧
        l.productionDate = v.productionDate ∧ l.expiryDate = v.expiryDate := by
  unfold insertLot at h
  simp only [Tx.run_bind_ok, Tx.run_get_ok, Tx.run_ofExcept_ok] at h
  obtain ⟨_, _, ⟨rfl, rfl⟩, l, _, ⟨hrow, rfl⟩, h⟩ := h
  obtain ⟨-, hbelongs, hsource, hpd, hed, -⟩ := LotValues.row_dates hrow
  split at h
  · obtain ⟨rfl, rfl⟩ := Tx.run_pure_ok.mp h
    exact .inl ⟨rfl, rfl⟩
  · rename_i hinsert
    simp only [Tx.run_bind_ok, Tx.run_set_ok, Tx.run_pure_ok] at h
    obtain ⟨_, _, rfl, rfl, rfl⟩ := h
    exact .inr ⟨l, (Table.insert_eq_some.mp hinsert).2, rfl, hbelongs, hsource, hpd, hed⟩

theorem insertLot_lotsGrow {v : LotValues} {o : Option ℕ}
    (h : (insertLot v).run b = .ok (o, b'))
    (hD : ∀ l : Lot, o = some l.id → l.expiryPolicySnapshot = .required →
      l.productionDate = v.productionDate → l.expiryDate = v.expiryDate → D l) :
    LotsGrow D b b' := by
  rcases insertLot_run_ok h with ⟨-, rfl⟩ | ⟨l, hrows, hid, -, -, hpd, hed⟩
  · exact refl_of (LotsGrow D) _
  · constructor
    · intro l' hl'
      refine ⟨l', ?_, rfl, ⟨rfl, rfl⟩, rfl, fun _ => rfl⟩
      rw [hrows]
      exact List.mem_append_left _ hl'
    · intro l' hl' hreq
      rw [hrows] at hl'
      rcases List.mem_append.mp hl' with hmem | hnew
      · exact .inl hmem
      · obtain rfl := List.mem_singleton.mp hnew
        exact .inr (hD l' hid hreq hpd hed)

/-- The lot that an insert has added. -/
theorem insertLot_serves {v : LotValues} (h : (insertLot v).run b = .ok (some id, b')) :
    ∃ l ∈ b'.lots.rows, l.id = id ∧ l.Serves v.warehouseId v.itemId v.productionDate ∧
      l.lotCodeSource = v.lotCodeSource := by
  rcases insertLot_run_ok h with ⟨hnone, -⟩ | ⟨l, hrows, hid, hbelongs, hsource, hpd, -⟩
  · cases hnone
  · refine ⟨l, ?_, (Option.some.inj hid).symm, ⟨hbelongs, fun _ => hpd⟩, hsource⟩
    rw [hrows]
    exact List.mem_append_right _ List.mem_cons_self

/-! ## Lookups -/

theorem mem_lotsOf {source : LotCodeSource} {l : Lot} :
    l ∈ b.lotsOf w i source ↔ l ∈ b.lots.rows ∧ l.BelongsTo w i ∧ l.lotCodeSource = source := by
  unfold Books.lotsOf
  rw [List.mem_filter, decide_eq_true_iff]

theorem supplierLotByProductionDate_serves {p : Date}
    (h : b.supplierLotByProductionDate w i p = some id) :
    ∃ l ∈ b.lots.rows, l.id = id ∧ l.Serves w i (some p) := by
  obtain ⟨l, hl, rfl⟩ := List.mem_map.mp (List.min?_mem h)
  obtain ⟨hmem, hpd⟩ := List.mem_filter.mp hl
  obtain ⟨hrow, hbelongs, -⟩ := mem_lotsOf.mp hmem
  exact ⟨l, hrow, rfl, hbelongs, fun _ => of_decide_eq_true hpd⟩

theorem internalLot_mem (h : b.internalLot w i = some id) :
    ∃ l ∈ b.lots.rows, l.id = id ∧ l.BelongsTo w i ∧ l.lotCodeSource = .internal := by
  obtain ⟨l, hl, rfl⟩ := List.mem_map.mp (List.min?_mem h)
  obtain ⟨hrow, hbelongs, hsource⟩ := mem_lotsOf.mp (List.mem_filter.mp hl).1
  exact ⟨l, hrow, rfl, hbelongs, hsource⟩

theorem supplierLotIdsByLotCode_serves {code : String}
    (h : id ∈ b.supplierLotIdsByLotCode w i code) :
    ∃ l ∈ b.lots.rows, l.id = id ∧ l.Serves w i none := by
  have hmem := (List.mem_insertionSort (· ≤ ·)).mp (List.mem_of_mem_take h)
  obtain ⟨l, hl, rfl⟩ := List.mem_map.mp hmem
  obtain ⟨hrow, hbelongs, -⟩ := mem_lotsOf.mp (List.mem_filter.mp hl).1
  exact ⟨l, hrow, rfl, hbelongs, nofun⟩

theorem legacyLot_mem {ids : List ℕ} {msg : String} (h : legacyLot ids msg = .ok id) :
    id ∈ ids := by
  unfold legacyLot at h
  split at h
  · cases h
  · cases h
    exact List.mem_singleton_self _
  · cases h

/-! ## The resolver -/

/-- The given dates of a lot are kept when they are completed. -/
theorem completeLotDates_keeps {dates : Option Date × Option Date}
    (h : completeLotDates policy pd ed = .ok dates) :
    (pd.isSome → dates.1 = pd) ∧ (ed.isSome → dates.2 = ed) := by
  unfold completeLotDates at h
  split at h
  · cases pd with
    | some p =>
      cases ed with
      | some e =>
        cases h
        exact ⟨fun _ => rfl, fun _ => rfl⟩
      | none =>
        simp only [bind, Except.bind] at h
        split at h
        · cases h
        · cases h
          exact ⟨fun _ => rfl, nofun⟩
    | none =>
      cases ed with
      | some e =>
        change (shiftDateByShelfLife e _ _ _ >>= fun d => pure (d, some e)) = .ok dates at h
        simp only [bind, Except.bind] at h
        split at h
        · cases h
        · cases h
          exact ⟨nofun, fun _ => rfl⟩
      | none =>
        cases h
        exact ⟨nofun, nofun⟩
  · cases h
    exact ⟨fun _ => rfl, fun _ => rfl⟩

/-- An internal lot has no dates, so no dated lot is created. -/
theorem ensureInternalLotSingleton_run_ok
    (h : (ensureInternalLotSingleton pms i w).run b = .ok (id, b')) :
    LotsGrow D b b' ∧
      ∃ l ∈ b'.lots.rows, l.id = id ∧ l.BelongsTo w i ∧ l.lotCodeSource = .internal := by
  unfold ensureInternalLotSingleton at h
  simp only [Tx.run_bind_ok, Tx.run_get_ok] at h
  obtain ⟨_, _, ⟨rfl, rfl⟩, h⟩ := h
  cases hfound : b.internalLot w i with
  | some id' =>
    simp only [hfound] at h
    obtain ⟨rfl, rfl⟩ := Tx.run_pure_ok.mp h
    exact ⟨refl_of (LotsGrow D) _, internalLot_mem hfound⟩
  | none =>
    simp only [hfound, Tx.run_bind_ok, Tx.run_ofExcept_ok] at h
    obtain ⟨policy, _, ⟨-, rfl⟩, o, b₁, hinsert, h⟩ := h
    have hgrow : LotsGrow D b b₁ := by
      refine insertLot_lotsGrow hinsert fun l _ hreq hpd _ => ?_
      have hdated := (Lot.dated_of_required hreq).2.1
      rw [hpd] at hdated
      cases hdated
    cases o with
    | some id' =>
      obtain ⟨rfl, rfl⟩ := Tx.run_pure_ok.mp h
      obtain ⟨l, hl, hid, hserves, hsource⟩ := insertLot_serves hinsert
      exact ⟨hgrow, l, hl, hid, hserves.1, hsource⟩
    | none => cases (Tx.run_demand_ok.mp h).1

/-- The lot of a dated item: what is created has the completed dates. -/
theorem ensureRequiredLot_run_ok {code : String}
    (hD : ∀ l : Lot, l.id = id → l.productionDate = pd → l.expiryDate = ed → D l)
    (h : (ensureRequiredLot policy i w code pd ed).run b = .ok (id, b')) :
    LotsGrow D b b' ∧ ∃ l ∈ b'.lots.rows, l.id = id ∧ l.Serves w i pd := by
  unfold ensureRequiredLot at h
  simp only [Tx.run_bind_ok, Tx.run_get_ok] at h
  obtain ⟨_, _, ⟨rfl, rfl⟩, h⟩ := h
  have hpatch : ∀ {id' b₁}, (∃ l ∈ b₁.lots.rows, l.id = id' ∧ l.Serves w i pd) →
      (do patchLotExpiryIfNull id' ed; return id' : Tx Books Err ℕ).run b₁ = .ok (id, b') →
      LotsGrow D b₁ b' ∧ ∃ l ∈ b'.lots.rows, l.id = id ∧ l.Serves w i pd := by
    intro id' b₁ hserves hrun
    simp only [Tx.run_bind_ok, Tx.run_pure_ok] at hrun
    obtain ⟨_, _, hpatch, rfl, rfl⟩ := hrun
    exact ⟨patchLotExpiryIfNull_lotsGrow hpatch, patchLotExpiryIfNull_serves hpatch hserves⟩
  cases pd with
  | none =>
    obtain ⟨id', _, hids, h⟩ := Tx.run_bind_ok.mp h
    obtain ⟨hlegacy, rfl⟩ := Tx.run_ofExcept_ok.mp hids
    exact hpatch (supplierLotIdsByLotCode_serves (legacyLot_mem hlegacy)) h
  | some p =>
    cases hfound : b.supplierLotByProductionDate w i p with
    | some id' =>
      simp only [hfound] at h
      exact hpatch (supplierLotByProductionDate_serves hfound) h
    | none =>
      simp only [hfound, Tx.run_bind_ok, Tx.run_failIf_ok] at h
      obtain ⟨_, _, ⟨-, rfl⟩, o, b₁, hinsert, h⟩ := h
      cases o with
      | some id' =>
        obtain ⟨rfl, rfl⟩ := Tx.run_pure_ok.mp h
        have hgrow : LotsGrow D b b₁ :=
          insertLot_lotsGrow hinsert fun l hid _ => hD l (Option.some.inj hid).symm
        obtain ⟨l, hl, hid, hserves, -⟩ := insertLot_serves hinsert
        exact ⟨hgrow, l, hl, hid, hserves⟩
      | none =>
        obtain ⟨_, _, hdemand, -⟩ := Tx.run_bind_ok.mp h
        cases (Tx.run_demand_ok.mp hdemand).1

/-- The supplier lot of an item. For an item that the product master calls dated it has
the production date that was given. -/
theorem ensureLotFull_run_ok {code : String}
    (h : (ensureLotFull pms i w code pd ed).run b = .ok (id, b')) :
    LotsGrow (fun l => l.id = id ∧ (pd.isSome → l.productionDate = pd) ∧
        (ed.isSome → l.expiryDate = ed)) b b' ∧
      ∃ l ∈ b'.lots.rows, l.id = id ∧ l.BelongsTo w i ∧ ∀ policy, loadItemPolicy pms i = .ok policy →
        policy.expiryPolicy = .required → pd.isSome → l.productionDate = pd := by
  unfold ensureLotFull at h
  simp only [Tx.run_bind_ok, Tx.run_failIf_ok, Tx.run_ofExcept_ok] at h
  obtain ⟨_, _, ⟨-, rfl⟩, policy, _, ⟨hpolicy, rfl⟩, ⟨pd', ed'⟩, _, ⟨hdates, rfl⟩, _, _, ⟨-, rfl⟩,
    h⟩ := h
  obtain ⟨hpdKept, hedKept⟩ := completeLotDates_keeps hdates
  split at h
  · obtain ⟨hgrow, l, hl, hid, hbelongs, hpd⟩ := ensureRequiredLot_run_ok
      (D := fun l => l.id = id ∧ (pd.isSome → l.productionDate = pd) ∧
        (ed.isSome → l.expiryDate = ed))
      (fun l hid hpd hed => ⟨hid, fun hsome => hpd.trans (hpdKept hsome),
        fun hsome => hed.trans (hedKept hsome)⟩) h
    refine ⟨hgrow, l, hl, hid, hbelongs, fun _ _ _ hsome => ?_⟩
    have hkept : pd' = pd := hpdKept hsome
    rw [hkept] at hpd
    exact hpd hsome
  · rename_i hnot
    simp only [Tx.run_bind_ok, Tx.run_get_ok, Tx.run_ofExcept_ok] at h
    obtain ⟨_, _, ⟨rfl, rfl⟩, hlegacy, rfl⟩ := h
    obtain ⟨l, hl, hid, hbelongs, -⟩ := supplierLotIdsByLotCode_serves (legacyLot_mem hlegacy)
    refine ⟨refl_of (LotsGrow _) _, l, hl, hid, hbelongs, fun policy' hpolicy' hreq => ?_⟩
    rw [hpolicy] at hpolicy'
    obtain rfl := Except.ok.inj hpolicy'
    exact absurd hreq hnot

theorem loadItemPolicy_eq_ok (h : pms.getItemPolicy i = .ok (some policy)) :
    loadItemPolicy pms i = .ok policy := by
  unfold loadItemPolicy
  rw [h]
  rfl

/-- The lot that an inbound movement is put into. A dated lot is found for a dated item
only, and it has the production date of the movement. -/
structure Resolved (pms : PmsClient) (w : ℕ) (policy : ItemPolicy) (pd : Option Date) (b : Books)
    (id : ℕ) (l : Lot) : Prop where
  mem : l ∈ b.lots.rows
  id_eq : l.id = id
  belongs : l.BelongsTo w policy.itemId
  dated : l.expiryPolicySnapshot = .required →
    policy.expiryPolicy = .required ∧ policy.lotSourcePolicy = .supplierOnly ∧ pd.isSome ∧
      (pms.getItemPolicy policy.itemId = .ok (some policy) → l.productionDate = pd)

theorem Resolved.kept {l : Lot} (h : Resolved pms w policy pd b id l) (hkept : LotsKept b b') :
    ∃ l', Resolved pms w policy pd b' id l' := by
  obtain ⟨l', hl', hid, ⟨hw, hi⟩, hpolicy, hsame⟩ := hkept l h.mem
  refine ⟨l', hl', hid.trans h.id_eq, ⟨hw.trans h.belongs.1, hi.trans h.belongs.2⟩, fun hreq => ?_⟩
  rw [hpolicy] at hreq
  rw [hsame hreq]
  exact h.dated hreq

/-- A foreign key to the lot names the item that the lot was resolved for. -/
theorem Resolved.item_eq {l : Lot} {w' : ℕ} (h : Resolved pms w policy pd b id l)
    (hhas : b.HasLot ⟨w', i, id⟩) : policy.itemId = i := by
  obtain ⟨l', hl', hid', hbelongs'⟩ := hhas
  have hsame : some l = some l' := by
    have hfound := findLot_eq_some hl'
    have hid : l'.id = l.id := hid'.trans h.id_eq.symm
    rwa [hid, findLot_eq_some h.mem] at hfound
  obtain rfl := Option.some.inj hsame
  exact h.belongs.2.symm.trans hbelongs'.2

theorem resolveInboundLot_run_ok {code : Option String}
    (h : (resolveInboundLot pms w policy code pd ed).run b = .ok (id, b')) :
    LotsGrow (Lot.Takes policy pd ed) b b' ∧ ∃ l, Resolved pms w policy pd b' id l := by
  unfold resolveInboundLot at h
  split at h
  · rename_i hsource
    unfold resolveSupplierLot at h
    simp only [Tx.run_bind_ok, Tx.run_demand_ok, Tx.run_failIf_ok, Tx.run_mapErr_ok, Tx.run_get_ok,
      Tx.run_pure_ok] at h
    obtain ⟨code, _, ⟨-, rfl⟩, _, _, ⟨hmissing, rfl⟩, lotId, b₁, hensure, _, _, ⟨rfl, rfl⟩,
      existing, _, ⟨hfind, rfl⟩, _, _, ⟨hsnapshot, rfl⟩, rfl, rfl⟩ := h
    obtain ⟨⟨hkept, hnew⟩, l, hl, hid, hbelongs, hpd⟩ := ensureLotFull_run_ok hensure
    have hfound : b₁.findLot l.id = some l := findLot_eq_some hl
    rw [hid, hfind] at hfound
    obtain rfl := Option.some.inj hfound
    have hdated : existing.expiryPolicySnapshot = .required →
        policy.expiryPolicy = .required ∧ pd.isSome := by
      intro hreq
      have hpolicy : policy.expiryPolicy = .required :=
        (not_not.mp hsnapshot).2.2.2.1.symm.trans hreq
      refine ⟨hpolicy, ?_⟩
      rw [Option.isSome_iff_ne_none]
      exact fun hnone => hmissing ⟨hpolicy, hnone⟩
    refine ⟨⟨hkept, fun l hl' hreq => ?_⟩, existing, hl, rfl, hbelongs, fun hreq => ?_⟩
    · refine (hnew l hl' hreq).imp_right ?_
      rintro ⟨hid', hpd', hed'⟩
      -- the dated lot that is new is the one that was found
      have hsame := findLot_eq_some hl'
      rw [hid', hfind] at hsame
      obtain rfl := Option.some.inj hsame
      obtain ⟨hpolicy, hsome⟩ := hdated hreq
      exact ⟨hpolicy, hsome, hpd' hsome, hed'⟩
    · obtain ⟨hpolicy, hsome⟩ := hdated hreq
      exact ⟨hpolicy, hsource, hsome, fun hget =>
        hpd policy (loadItemPolicy_eq_ok hget) hpolicy hsome⟩
  · obtain ⟨hgrow, l, hl, hid, hbelongs, hsource⟩ :=
      ensureInternalLotSingleton_run_ok (Tx.run_mapErr_ok.mp h)
    refine ⟨hgrow, l, hl, hid, hbelongs, fun hreq => ?_⟩
    have hsupplier : l.lotCodeSource = .supplier := (l.required_supplier hreq).1
    rw [hsource] at hsupplier
    cases hsupplier

end Wms

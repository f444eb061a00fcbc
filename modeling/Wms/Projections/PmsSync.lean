import Wms.Foundation.Transaction
import Wms.Projections.PmsFeed

/-!
# Syncing the projection of the product master

A sync fetches the feed of each resource page by page and upserts the rows one at a time by
their primary key. The tables have another unique key each. A sync that fails is rolled
back as a whole by its caller.
-/

namespace Wms

open Foundation

/-- A stored row, and when a sync wrote it last. -/
structure Synced (ρ : Type) where
  row : ρ
  syncedAt : ℤ
  deriving DecidableEq

/-- A page of the feed. -/
structure FeedPage (F : Type) where
  rows : List F
  hasMore : Bool
  nextOffset : Option ℕ

/-- What the feed of a resource answers to a limit and an offset. -/
abbrev FeedSource (F : Type) : Type := ℕ → ℕ → Except Err (FeedPage F)

/-- A resource of the feed: its conversion, and the keys of its table. -/
structure Resource (F ρ κ : Type) where
  name : String
  /-- `_params_for_resource`. -/
  params : F → Except Err ρ
  /-- The identifier of a row of the feed. -/
  feedId : F → Option ℤ
  /-- The primary key. -/
  id : ρ → ℤ
  /-- The other unique key, and the name of its constraint. -/
  key : ρ → κ
  uniqueKey : String
  id_eq : ∀ {row r}, params row = .ok r → feedId row = some (id r)

/-- `PmsProjectionResourceSyncResult`. -/
structure ResourceSyncResult where
  resource : String
  fetched : ℕ
  upserted : ℕ
  pages : ℕ
  lastOffset : ℕ
  hasMore : Bool
  deriving DecidableEq

/-- `_safe_limit`. -/
def safeLimit (value : ℤ) : ℕ := (max 1 (min value 500)).toNat

theorem safeLimit_pos (value : ℤ) : 0 < safeLimit value := by
  unfold safeLimit
  omega

namespace Resource

variable {F ρ κ : Type} [DecidableEq κ] (res : Resource F ρ κ)

/-- The table of a resource. -/
abbrev Rows : Type := Table (Synced ρ) (Mirror.Clash (fun s => res.id s.row) fun s => res.key s.row)

/-- `INSERT … ON CONFLICT (primary key) DO UPDATE` of one row. -/
def upsertRow (now : ℤ) (r : ρ) : Tx res.Rows Err PUnit := do
  let t ← get
  let t' ← Tx.demand (Mirror.put t ⟨r, now⟩) (.integrityError res.uniqueKey)
  set t'

/-- `_upsert_rows`. -/
def upsertRows (now : ℤ) (rows : List F) : Tx res.Rows Err ℕ := do
  let params ← Tx.ofExcept (rows.mapM' res.params)
  forM params (res.upsertRow now)
  return params.length

/-- The loop of `_sync_resource` from an offset. It has no bound in the source; the model
gives up after `fuel` pages, which a finite feed never needs. -/
def syncPages (fetchPage : FeedSource F) (now : ℤ) (limit : ℕ) :
    ℕ → ResourceSyncResult → ℕ → Tx res.Rows Err ResourceSyncResult
  | 0, _, _ => throw (.runtimeError s!"PMS projection feed {res.name} does not end")
  | fuel + 1, done, offset => do
    let payload ← Tx.ofExcept (fetchPage limit offset)
    let upserted ← res.upsertRows now payload.rows
    let done := { done with
      pages := done.pages + 1, fetched := done.fetched + payload.rows.length
      upserted := done.upserted + upserted, hasMore := payload.hasMore, lastOffset := offset }
    if payload.hasMore = false then return done
    else
      match payload.nextOffset with
      | none => throw (.runtimeError
          s!"PMS projection feed {res.name} has_more=true but next_offset is null")
      | some nextOffset =>
        if nextOffset ≤ offset then throw (.runtimeError
          s!"PMS projection feed {res.name} next_offset must advance")
        else syncPages fetchPage now limit fuel done nextOffset

/-- `_sync_resource`. -/
def sync (fetchPage : FeedSource F) (fuel : ℕ) (limit now : ℤ) :
    Tx res.Rows Err ResourceSyncResult :=
  res.syncPages fetchPage now (safeLimit limit) fuel ⟨res.name, 0, 0, 0, 0, false⟩ 0

end Resource

/-! ## The five resources -/

/-- `ProjectionResource`. -/
inductive ProjectionResource
  | items
  | suppliers
  | uoms
  | skuCodes
  | barcodes
  deriving DecidableEq, Repr

namespace ProjectionResource

/-- `RESOURCE_ORDER`. -/
def order : List ProjectionResource := [items, suppliers, uoms, skuCodes, barcodes]

/-- The rows of its feed. -/
def FeedRow : ProjectionResource → Type
  | items => ItemFeedRow
  | suppliers => SupplierFeedRow
  | uoms => UomFeedRow
  | skuCodes => SkuCodeFeedRow
  | barcodes => BarcodeFeedRow

/-- The rows of its table. -/
def Row : ProjectionResource → Type
  | items => ItemProjection
  | suppliers => SupplierProjection
  | uoms => UomProjection
  | skuCodes => SkuCodeProjection
  | barcodes => BarcodeProjection

/-- The unique key of its table besides the primary key. -/
def Key : ProjectionResource → Type
  | items => Varchar 128
  | suppliers => Varchar 64
  | uoms => ℤ × Varchar 16
  | skuCodes => Varchar 128
  | barcodes => Varchar 128

instance : (k : ProjectionResource) → DecidableEq k.Key
  | items => inferInstanceAs (DecidableEq (Varchar 128))
  | suppliers => inferInstanceAs (DecidableEq (Varchar 64))
  | uoms => inferInstanceAs (DecidableEq (ℤ × Varchar 16))
  | skuCodes => inferInstanceAs (DecidableEq (Varchar 128))
  | barcodes => inferInstanceAs (DecidableEq (Varchar 128))

/-- `UPSERT_SQL` with the constraints of the tables. -/
def resource : (k : ProjectionResource) → Resource k.FeedRow k.Row k.Key
  | items => {
      name := "items", params := itemParams, feedId := ItemFeedRow.itemId
      id := ItemProjection.itemId, key := ItemProjection.sku
      uniqueKey := "uq_wms_pms_item_projection_sku", id_eq := itemParams_id }
  | suppliers => {
      name := "suppliers", params := supplierParams, feedId := SupplierFeedRow.supplierId
      id := SupplierProjection.supplierId, key := SupplierProjection.supplierCode
      uniqueKey := "uq_wms_pms_supplier_projection_supplier_code", id_eq := supplierParams_id }
  | uoms => {
      name := "uoms", params := uomParams, feedId := UomFeedRow.itemUomId
      id := UomProjection.itemUomId, key := fun r : UomProjection => (r.itemId, r.uom)
      uniqueKey := "uq_wms_pms_uom_projection_item_uom", id_eq := uomParams_id }
  | skuCodes => {
      name := "sku-codes", params := skuCodeParams, feedId := SkuCodeFeedRow.skuCodeId
      id := SkuCodeProjection.skuCodeId, key := SkuCodeProjection.skuCode
      uniqueKey := "uq_wms_pms_sku_code_projection_sku_code", id_eq := skuCodeParams_id }
  | barcodes => {
      name := "barcodes", params := barcodeParams, feedId := BarcodeFeedRow.barcodeId
      id := BarcodeProjection.barcodeId, key := BarcodeProjection.barcode
      uniqueKey := "uq_wms_pms_barcode_projection_barcode", id_eq := barcodeParams_id }

end ProjectionResource

/-- The projection tables. -/
def PmsProjection : Type := (k : ProjectionResource) → k.resource.Rows

/-- The projection before the first sync. -/
def PmsProjection.empty : PmsProjection := fun _ => Table.empty

/-- What the product master answers for each resource. -/
def PmsSource : Type := (k : ProjectionResource) → FeedSource k.FeedRow

/-- Sync one resource of the projection. -/
def syncResource (source : PmsSource) (fuel : ℕ) (limit now : ℤ) (k : ProjectionResource) :
    Tx PmsProjection Err ResourceSyncResult :=
  (k.resource.sync (source k) fuel limit now).zoom (fun p => p k) fun t p => Function.update p k t

/-- `sync_pms_read_projection_once`. No selection means all resources. -/
def syncPmsReadProjectionOnce (source : PmsSource) (fuel : ℕ) (limit now : ℤ)
    (resources : List ProjectionResource) : Tx PmsProjection Err (List ResourceSyncResult) :=
  let selected := if resources = [] then ProjectionResource.order else resources
  (ProjectionResource.order.filter (· ∈ selected)).mapM' (syncResource source fuel limit now)

/-! ## What a sync of a served feed does -/

/-- A page of a feed that is served by offset: the rows from the offset on, as many as the
limit allows, and whether there are more. -/
def servedPage {F : Type} (rows : List F) : FeedSource F := fun limit offset => .ok {
  rows := (rows.drop offset).take limit
  hasMore := decide (offset + limit < rows.length)
  nextOffset := if offset + limit < rows.length then some (offset + limit) else none }

theorem mapM_append_eq_ok {F ρ : Type} {f : F → Except Err ρ} {as bs : List F} {cs : List ρ} :
    (as ++ bs).mapM' f = .ok cs ↔
      ∃ cs₁ cs₂, as.mapM' f = .ok cs₁ ∧ bs.mapM' f = .ok cs₂ ∧ cs = cs₁ ++ cs₂ := by
  induction as generalizing cs with
  | nil =>
    rw [List.nil_append]
    constructor
    · intro h
      exact ⟨[], cs, rfl, h, rfl⟩
    · rintro ⟨cs₁, cs₂, hcs₁, hcs₂, rfl⟩
      obtain rfl := Except.ok.inj hcs₁
      exact hcs₂
  | cons a as ih =>
    rw [List.cons_append, List.mapM'_cons, List.mapM'_cons]
    simp only [except_bind_eq_ok, ih]
    constructor
    · rintro ⟨c, hc, _, ⟨cs₁, cs₂, hcs₁, hcs₂, rfl⟩, hcs⟩
      obtain rfl := Except.ok.inj hcs
      exact ⟨c :: cs₁, cs₂, ⟨c, hc, cs₁, hcs₁, rfl⟩, hcs₂, rfl⟩
    · rintro ⟨_, cs₂, ⟨c, hc, cs₁, hcs₁, hcons⟩, hcs₂, rfl⟩
      obtain rfl := Except.ok.inj hcons
      exact ⟨c, hc, cs₁ ++ cs₂, ⟨cs₁, cs₂, hcs₁, hcs₂, rfl⟩, rfl⟩

namespace Resource

variable {F ρ κ : Type} [DecidableEq κ] (res : Resource F ρ κ) {t t' : res.Rows} {now limit : ℤ}

/-- The table accepts the converted rows of the feed, one after the other. -/
def Puts (now : ℤ) (rows : List F) (t t' : res.Rows) : Prop :=
  ∃ params, rows.mapM' res.params = .ok params ∧
    Mirror.putAll t (params.map (Synced.mk · now)) = some t'

theorem puts_append {rows rows' : List F} :
    res.Puts now (rows ++ rows') t t' ↔
      ∃ t₁, res.Puts now rows t t₁ ∧ res.Puts now rows' t₁ t' := by
  constructor
  · rintro ⟨params, hparams, hput⟩
    obtain ⟨ps, ps', hps, hps', rfl⟩ := mapM_append_eq_ok.mp hparams
    rw [List.map_append] at hput
    obtain ⟨t₁, ht₁, ht'⟩ := Mirror.putAll_append_eq_some.mp hput
    exact ⟨t₁, ⟨ps, hps, ht₁⟩, ps', hps', ht'⟩
  · rintro ⟨t₁, ⟨ps, hps, ht₁⟩, ps', hps', ht'⟩
    refine ⟨ps ++ ps', mapM_append_eq_ok.mpr ⟨ps, ps', hps, hps', rfl⟩, ?_⟩
    rw [List.map_append]
    exact Mirror.putAll_append_eq_some.mpr ⟨t₁, ht₁, ht'⟩

theorem upsertRow_run_ok {r : ρ} {u : PUnit} :
    (res.upsertRow now r).run t = .ok (u, t') ↔ Mirror.put t ⟨r, now⟩ = some t' := by
  unfold upsertRow
  simp only [Tx.run_bind_ok, Tx.run_get_ok, Tx.run_demand_ok, Tx.run_set_ok]
  constructor
  · rintro ⟨_, _, ⟨rfl, rfl⟩, t₁, _, ⟨hput, rfl⟩, rfl⟩
    exact hput
  · intro hput
    exact ⟨t, t, ⟨rfl, rfl⟩, t', t, ⟨hput, rfl⟩, rfl⟩

theorem upsertParams_run_ok {params : List ρ} {u : PUnit} :
    (forM params (res.upsertRow now)).run t = .ok (u, t') ↔
      Mirror.putAll t (params.map (Synced.mk · now)) = some t' := by
  induction params generalizing t with
  | nil => rw [Tx.run_forM_nil_ok, List.map_nil, Mirror.putAll_nil, Option.some.injEq]
  | cons r params ih =>
    rw [Tx.run_forM_cons_ok, List.map_cons, Mirror.putAll_cons_eq_some]
    simp only [upsertRow_run_ok, ih]

theorem upsertRows_run_ok {rows : List F} :
    (∃ n, (res.upsertRows now rows).run t = .ok (n, t')) ↔ res.Puts now rows t t' := by
  unfold upsertRows
  simp only [Tx.run_bind_ok, Tx.run_ofExcept_ok, upsertParams_run_ok, Tx.run_pure_ok]
  constructor
  · rintro ⟨_, params, _, ⟨hparams, rfl⟩, _, _, hput, rfl, rfl⟩
    exact ⟨params, hparams, hput⟩
  · rintro ⟨params, hparams, hput⟩
    exact ⟨_, params, t, ⟨hparams, rfl⟩, ⟨⟩, t', hput, rfl, rfl⟩

/-- The loop over the pages of a served feed puts the rows from its offset on into the
table, each of them once and in order, whatever the size of the pages. -/
theorem syncPages_served {rows : List F} {fuel offset pageSize : ℕ} {done : ResourceSyncResult}
    (hpage : 0 < pageSize) (hoffset : offset ≤ rows.length) (hfuel : rows.length < offset + fuel) :
    (∃ r, (res.syncPages (servedPage rows) now pageSize fuel done offset).run t = .ok (r, t')) ↔
      res.Puts now (rows.drop offset) t t' := by
  induction fuel generalizing offset done t with
  | zero => omega
  | succ fuel ih =>
    have hsplit : rows.drop offset =
        (rows.drop offset).take pageSize ++ rows.drop (offset + pageSize) := by
      rw [← List.drop_drop, List.take_append_drop]
    rw [hsplit, puts_append]
    unfold syncPages
    simp only [Tx.run_bind_ok, Tx.run_ofExcept_ok, servedPage]
    by_cases hmore : offset + pageSize < rows.length
    · have hnext : ¬offset + pageSize ≤ offset := by omega
      constructor
      · rintro ⟨r, _, _, ⟨hpayload, rfl⟩, n, t₁, hupsert, hrest⟩
        obtain rfl := Except.ok.inj hpayload
        simp only [hmore, decide_true, if_true, hnext, if_false, reduceCtorEq] at hrest
        refine ⟨t₁, (res.upsertRows_run_ok).mp ⟨n, hupsert⟩, ?_⟩
        exact (ih (by omega) (by omega)).mp ⟨r, hrest⟩
      · rintro ⟨t₁, hputs, hrest⟩
        obtain ⟨n, hupsert⟩ := (res.upsertRows_run_ok).mpr hputs
        obtain ⟨r, hrest⟩ := (ih (by omega) (by omega)).mpr hrest
        refine ⟨r, _, _, ⟨rfl, rfl⟩, n, t₁, hupsert, ?_⟩
        simp only [hmore, decide_true, if_true, hnext, if_false, reduceCtorEq]
        exact hrest
    · have hdrop : rows.drop (offset + pageSize) = [] := List.drop_eq_nil_of_le (by omega)
      rw [hdrop]
      constructor
      · rintro ⟨r, _, _, ⟨hpayload, rfl⟩, n, t₁, hupsert, hrest⟩
        obtain rfl := Except.ok.inj hpayload
        simp only [hmore, decide_false, if_true] at hrest
        obtain ⟨-, rfl⟩ := Tx.run_pure_ok.mp hrest
        exact ⟨t₁, (res.upsertRows_run_ok).mp ⟨n, hupsert⟩, [], rfl, rfl⟩
      · rintro ⟨t₁, hputs, params, hparams, hnone⟩
        obtain rfl := Except.ok.inj hparams
        obtain rfl := Option.some.inj hnone
        obtain ⟨n, hupsert⟩ := (res.upsertRows_run_ok).mpr hputs
        let last : ResourceSyncResult := { done with
          pages := done.pages + 1
          fetched := done.fetched + ((rows.drop offset).take pageSize).length
          upserted := done.upserted + n, hasMore := false, lastOffset := offset }
        refine ⟨last, _, _, ⟨rfl, rfl⟩, n, t₁, hupsert, ?_⟩
        simp only [hmore, decide_false, if_true]
        exact Tx.run_pure_ok.mpr ⟨rfl, rfl⟩

end Resource

end Wms

import Wms.Foundation.Mirror
import Wms.Pms

/-!
# The projection feed of the product master

The product master serves its current state as five lists of rows. A row of the feed is
converted and fitted into the columns of the projection table of its resource; the tables
carry their check constraints as fields of their rows.
-/

namespace Wms

open Foundation

/-! ## Reading a row of the feed -/

namespace PmsFeed

/-- `_required_int`, and `_required_datetime` on an instant. -/
def requiredInt (value : Option ℤ) (key : String) : Except Err ℤ :=
  match value with
  | some n => .ok n
  | none => .error (.runtimeError s!"PMS projection feed row missing required field: {key}")

/-- `_required_str`. -/
def requiredStr (value : Option String) (key : String) : Except Err String :=
  match value with
  | none => .error (.runtimeError s!"PMS projection feed row missing required field: {key}")
  | some s =>
    if strip s = "" then
      .error (.runtimeError s!"PMS projection feed row has blank required field: {key}")
    else .ok (strip s)

/-- `_optional_str`. -/
def optionalStr (value : Option String) : Option String := cleanText value

/-- `_required_bool`. -/
def requiredBool (value : Option Bool) (key : String) : Except Err Bool :=
  match value with
  | some b => .ok b
  | none => .error (.runtimeError s!"PMS projection feed row has invalid boolean field: {key}")

/-- The value of a column that takes one of a few texts. -/
def oneOf {α : Type} (choices : List (String × α)) (s constraint : String) : Except Err α :=
  match choices.lookup s with
  | some a => .ok a
  | none => .error (.integrityError constraint)

theorem requiredInt_eq_ok {value : Option ℤ} {key : String} {n : ℤ}
    (h : requiredInt value key = .ok n) : value = some n := by
  cases value with
  | none => cases h
  | some m => exact congrArg some (Except.ok.inj h)

end PmsFeed

open PmsFeed

/-! ## Items -/

/-- A row of `/projection-feed/items`. -/
structure ItemFeedRow where
  itemId : Option ℤ
  sku : Option String
  name : Option String
  spec : Option String
  enabled : Option Bool
  supplierId : Option ℤ
  brand : Option String
  category : Option String
  expiryPolicy : Option String
  shelfLifeValue : Option ℤ
  shelfLifeUnit : Option String
  lotSourcePolicy : Option String
  derivationAllowed : Option Bool
  uomGovernanceEnabled : Option Bool
  pmsUpdatedAt : Option ℤ

/-- `WmsPmsItemProjection`. -/
structure ItemProjection where
  itemId : ℤ
  sku : Varchar 128
  name : Varchar 128
  spec : Option (Varchar 128)
  enabled : Bool
  supplierId : Option ℤ
  brand : Option (Varchar 64)
  category : Option (Varchar 64)
  expiryPolicy : ExpiryPolicy
  shelfLifeValue : Option ℤ
  shelfLifeUnit : Option ShelfLifeUnit
  lotSourcePolicy : LotSourcePolicy
  derivationAllowed : Bool
  uomGovernanceEnabled : Bool
  pmsUpdatedAt : ℤ
  /-- `ck_wms_pms_item_projection_shelf_life_pair`. -/
  shelfLife_pair : shelfLifeValue = none ↔ shelfLifeUnit = none
  /-- `ck_wms_pms_item_projection_shelf_life_value_pos`. -/
  shelfLife_pos : ∀ v ∈ shelfLifeValue, 0 < v
  deriving DecidableEq

/-- `_item_params`, with the columns and checks of the table. -/
def itemParams (row : ItemFeedRow) : Except Err ItemProjection := do
  let itemId ← requiredInt row.itemId "item_id"
  let sku ← requiredStr row.sku "sku"
  let name ← requiredStr row.name "name"
  let enabled ← requiredBool row.enabled "enabled"
  let expiryPolicy ← requiredStr row.expiryPolicy "expiry_policy"
  let lotSourcePolicy ← requiredStr row.lotSourcePolicy "lot_source_policy"
  let derivationAllowed ← requiredBool row.derivationAllowed "derivation_allowed"
  let uomGovernanceEnabled ← requiredBool row.uomGovernanceEnabled "uom_governance_enabled"
  let pmsUpdatedAt ← requiredInt row.pmsUpdatedAt "pms_updated_at"
  let sku ← Varchar.store 128 sku
  let name ← Varchar.store 128 name
  let spec ← Varchar.store? 128 (optionalStr row.spec)
  let brand ← Varchar.store? 64 (optionalStr row.brand)
  let category ← Varchar.store? 64 (optionalStr row.category)
  let expiryPolicy ← oneOf [("NONE", ExpiryPolicy.none), ("REQUIRED", .required)] expiryPolicy
    "ck_wms_pms_item_projection_expiry_policy"
  let shelfLifeUnit ← (optionalStr row.shelfLifeUnit).mapM fun unit =>
    oneOf [("DAY", ShelfLifeUnit.day), ("WEEK", .week), ("MONTH", .month), ("YEAR", .year)] unit
      "ck_wms_pms_item_projection_shelf_life_unit"
  let lotSourcePolicy ← oneOf
    [("INTERNAL_ONLY", LotSourcePolicy.internalOnly), ("SUPPLIER_ONLY", .supplierOnly)]
    lotSourcePolicy "ck_wms_pms_item_projection_lot_source_policy"
  if hpair : row.shelfLifeValue = none ↔ shelfLifeUnit = none then
    if hpos : ∀ v ∈ row.shelfLifeValue, 0 < v then
      return {
        itemId := itemId, sku := sku, name := name, spec := spec, enabled := enabled
        supplierId := row.supplierId, brand := brand, category := category
        expiryPolicy := expiryPolicy, shelfLifeValue := row.shelfLifeValue
        shelfLifeUnit := shelfLifeUnit, lotSourcePolicy := lotSourcePolicy
        derivationAllowed := derivationAllowed, uomGovernanceEnabled := uomGovernanceEnabled
        pmsUpdatedAt := pmsUpdatedAt, shelfLife_pair := hpair, shelfLife_pos := hpos }
    else .error (.integrityError "ck_wms_pms_item_projection_shelf_life_value_pos")
  else .error (.integrityError "ck_wms_pms_item_projection_shelf_life_pair")

/-- The projection of an item has the number of its row. -/
theorem itemParams_id {row : ItemFeedRow} {r : ItemProjection} (h : itemParams row = .ok r) :
    row.itemId = some r.itemId := by
  simp only [itemParams, except_bind_eq_ok] at h
  obtain ⟨itemId, hid, _, -, _, -, _, -, _, -, _, -, _, -, _, -, _, -, _, -, _, -, _, -, _, -, _, -,
    _, -, _, -, _, -, h⟩ := h
  split at h
  · split at h
    · cases h
      exact requiredInt_eq_ok hid
    · cases h
  · cases h

/-! ## Suppliers -/

/-- A row of `/projection-feed/suppliers`. -/
structure SupplierFeedRow where
  supplierId : Option ℤ
  supplierCode : Option String
  supplierName : Option String
  active : Option Bool
  website : Option String
  sourceUpdatedAt : Option ℤ

/-- `WmsPmsSupplierProjection`. -/
structure SupplierProjection where
  supplierId : ℤ
  supplierCode : Varchar 64
  supplierName : Varchar 255
  active : Bool
  website : Option (Varchar 255)
  pmsUpdatedAt : Option ℤ
  deriving DecidableEq

/-- `_supplier_params`, with the columns of the table. -/
def supplierParams (row : SupplierFeedRow) : Except Err SupplierProjection := do
  let supplierId ← requiredInt row.supplierId "supplier_id"
  let supplierCode ← requiredStr row.supplierCode "supplier_code"
  let supplierName ← requiredStr row.supplierName "supplier_name"
  let active ← requiredBool row.active "active"
  let supplierCode ← Varchar.store 64 supplierCode
  let supplierName ← Varchar.store 255 supplierName
  let website ← Varchar.store? 255 (optionalStr row.website)
  return ⟨supplierId, supplierCode, supplierName, active, website, row.sourceUpdatedAt⟩

theorem supplierParams_id {row : SupplierFeedRow} {r : SupplierProjection}
    (h : supplierParams row = .ok r) : row.supplierId = some r.supplierId := by
  simp only [supplierParams, except_bind_eq_ok] at h
  obtain ⟨supplierId, hid, _, -, _, -, _, -, _, -, _, -, _, -, h⟩ := h
  cases h
  exact requiredInt_eq_ok hid

/-! ## Units -/

/-- A row of `/projection-feed/uoms`. -/
structure UomFeedRow where
  itemUomId : Option ℤ
  itemId : Option ℤ
  uom : Option String
  displayName : Option String
  uomName : Option String
  ratioToBase : Option ℤ
  netWeightKg : Option ℚ≥0
  isBase : Option Bool
  isPurchaseDefault : Option Bool
  isInboundDefault : Option Bool
  isOutboundDefault : Option Bool
  pmsUpdatedAt : Option ℤ

/-- `WmsPmsUomProjection`. -/
structure UomProjection where
  itemUomId : ℤ
  itemId : ℤ
  uom : Varchar 16
  displayName : Option (Varchar 32)
  uomName : Varchar 32
  ratioToBase : ℤ
  netWeightKg : Option ℚ≥0
  isBase : Bool
  isPurchaseDefault : Bool
  isInboundDefault : Bool
  isOutboundDefault : Bool
  pmsUpdatedAt : ℤ
  /-- `ck_wms_pms_uom_projection_ratio_ge_1`. -/
  ratio_pos : 1 ≤ ratioToBase
  deriving DecidableEq

/-- `_uom_params`, with the columns and checks of the table. -/
def uomParams (row : UomFeedRow) : Except Err UomProjection := do
  let itemUomId ← requiredInt row.itemUomId "item_uom_id"
  let itemId ← requiredInt row.itemId "item_id"
  let uom ← requiredStr row.uom "uom"
  let uomName ← requiredStr row.uomName "uom_name"
  let ratioToBase ← requiredInt row.ratioToBase "ratio_to_base"
  let isBase ← requiredBool row.isBase "is_base"
  let isPurchaseDefault ← requiredBool row.isPurchaseDefault "is_purchase_default"
  let isInboundDefault ← requiredBool row.isInboundDefault "is_inbound_default"
  let isOutboundDefault ← requiredBool row.isOutboundDefault "is_outbound_default"
  let pmsUpdatedAt ← requiredInt row.pmsUpdatedAt "pms_updated_at"
  let uom ← Varchar.store 16 uom
  let displayName ← Varchar.store? 32 (optionalStr row.displayName)
  let uomName ← Varchar.store 32 uomName
  let netWeightKg ← numeric 10 3 row.netWeightKg
  if h : 1 ≤ ratioToBase then
    return {
      itemUomId := itemUomId, itemId := itemId, uom := uom, displayName := displayName
      uomName := uomName, ratioToBase := ratioToBase, netWeightKg := netWeightKg
      isBase := isBase, isPurchaseDefault := isPurchaseDefault
      isInboundDefault := isInboundDefault, isOutboundDefault := isOutboundDefault
      pmsUpdatedAt := pmsUpdatedAt, ratio_pos := h }
  else .error (.integrityError "ck_wms_pms_uom_projection_ratio_ge_1")

theorem uomParams_id {row : UomFeedRow} {r : UomProjection} (h : uomParams row = .ok r) :
    row.itemUomId = some r.itemUomId := by
  simp only [uomParams, except_bind_eq_ok] at h
  obtain ⟨itemUomId, hid, _, -, _, -, _, -, _, -, _, -, _, -, _, -, _, -, _, -, _, -, _, -, _, -,
    _, -, h⟩ := h
  split at h
  · cases h
    exact requiredInt_eq_ok hid
  · cases h

/-! ## Item codes -/

/-- The kind of an item code. -/
inductive SkuCodeType
  | primary
  | alias
  | legacy
  | manual
  deriving DecidableEq, Repr

/-- A row of `/projection-feed/sku-codes`. -/
structure SkuCodeFeedRow where
  skuCodeId : Option ℤ
  itemId : Option ℤ
  skuCode : Option String
  codeType : Option String
  isPrimary : Option Bool
  isActive : Option Bool
  effectiveFrom : Option ℤ
  effectiveTo : Option ℤ
  pmsUpdatedAt : Option ℤ

/-- `WmsPmsSkuCodeProjection`. -/
structure SkuCodeProjection where
  skuCodeId : ℤ
  itemId : ℤ
  skuCode : Varchar 128
  codeType : SkuCodeType
  isPrimary : Bool
  isActive : Bool
  effectiveFrom : Option ℤ
  effectiveTo : Option ℤ
  pmsUpdatedAt : ℤ
  /-- `ck_wms_pms_sku_code_projection_primary_active`. -/
  primary_active : isPrimary = true → isActive = true
  /-- `ck_wms_pms_sku_code_projection_primary_no_effective_to`. -/
  primary_no_effective_to : isPrimary = true → effectiveTo = none
  deriving DecidableEq

/-- `_sku_code_params`, with the columns and checks of the table. -/
def skuCodeParams (row : SkuCodeFeedRow) : Except Err SkuCodeProjection := do
  let skuCodeId ← requiredInt row.skuCodeId "sku_code_id"
  let itemId ← requiredInt row.itemId "item_id"
  let skuCode ← requiredStr row.skuCode "sku_code"
  let codeType ← requiredStr row.codeType "code_type"
  let isPrimary ← requiredBool row.isPrimary "is_primary"
  let isActive ← requiredBool row.isActive "is_active"
  let pmsUpdatedAt ← requiredInt row.pmsUpdatedAt "pms_updated_at"
  let skuCode ← Varchar.store 128 skuCode
  let codeType ← oneOf [("PRIMARY", SkuCodeType.primary), ("ALIAS", .alias), ("LEGACY", .legacy),
    ("MANUAL", .manual)] codeType "ck_wms_pms_sku_code_projection_code_type"
  if hactive : isPrimary = true → isActive = true then
    if hto : isPrimary = true → row.effectiveTo = none then
      return {
        skuCodeId := skuCodeId, itemId := itemId, skuCode := skuCode, codeType := codeType
        isPrimary := isPrimary, isActive := isActive, effectiveFrom := row.effectiveFrom
        effectiveTo := row.effectiveTo, pmsUpdatedAt := pmsUpdatedAt
        primary_active := hactive, primary_no_effective_to := hto }
    else .error (.integrityError "ck_wms_pms_sku_code_projection_primary_no_effective_to")
  else .error (.integrityError "ck_wms_pms_sku_code_projection_primary_active")

theorem skuCodeParams_id {row : SkuCodeFeedRow} {r : SkuCodeProjection}
    (h : skuCodeParams row = .ok r) : row.skuCodeId = some r.skuCodeId := by
  simp only [skuCodeParams, except_bind_eq_ok] at h
  obtain ⟨skuCodeId, hid, _, -, _, -, _, -, _, -, _, -, _, -, _, -, _, -, h⟩ := h
  split at h
  · split at h
    · cases h
      exact requiredInt_eq_ok hid
    · cases h
  · cases h

/-! ## Barcodes -/

/-- A row of `/projection-feed/barcodes`. -/
structure BarcodeFeedRow where
  barcodeId : Option ℤ
  itemId : Option ℤ
  itemUomId : Option ℤ
  barcode : Option String
  symbology : Option String
  active : Option Bool
  isPrimary : Option Bool
  pmsUpdatedAt : Option ℤ

/-- `WmsPmsBarcodeProjection`. -/
structure BarcodeProjection where
  barcodeId : ℤ
  itemId : ℤ
  itemUomId : ℤ
  barcode : Varchar 128
  symbology : Varchar 32
  active : Bool
  isPrimary : Bool
  pmsUpdatedAt : ℤ
  /-- `ck_wms_pms_barcode_projection_primary_active`. -/
  primary_active : isPrimary = true → active = true
  deriving DecidableEq

/-- `_barcode_params`, with the columns and checks of the table. -/
def barcodeParams (row : BarcodeFeedRow) : Except Err BarcodeProjection := do
  let barcodeId ← requiredInt row.barcodeId "barcode_id"
  let itemId ← requiredInt row.itemId "item_id"
  let itemUomId ← requiredInt row.itemUomId "item_uom_id"
  let barcode ← requiredStr row.barcode "barcode"
  let symbology ← requiredStr row.symbology "symbology"
  let active ← requiredBool row.active "active"
  let isPrimary ← requiredBool row.isPrimary "is_primary"
  let pmsUpdatedAt ← requiredInt row.pmsUpdatedAt "pms_updated_at"
  let barcode ← Varchar.store 128 barcode
  let symbology ← Varchar.store 32 symbology
  if h : isPrimary = true → active = true then
    return {
      barcodeId := barcodeId, itemId := itemId, itemUomId := itemUomId, barcode := barcode
      symbology := symbology, active := active, isPrimary := isPrimary
      pmsUpdatedAt := pmsUpdatedAt, primary_active := h }
  else .error (.integrityError "ck_wms_pms_barcode_projection_primary_active")

theorem barcodeParams_id {row : BarcodeFeedRow} {r : BarcodeProjection}
    (h : barcodeParams row = .ok r) : row.barcodeId = some r.barcodeId := by
  simp only [barcodeParams, except_bind_eq_ok] at h
  obtain ⟨barcodeId, hid, _, -, _, -, _, -, _, -, _, -, _, -, _, -, _, -, _, -, h⟩ := h
  split at h
  · cases h
    exact requiredInt_eq_ok hid
  · cases h

end Wms

import Wms.Foundation.Transaction
import Wms.Pms
import Wms.Text

/-!
# Production and expiry dates

The shelf life of an item relates the production date of a lot to its expiry date.
This file gives the arithmetic, the completion of a pair of which only one date is
known, and the decision that a stock movement with a lot code makes about its dates.
-/

namespace Wms

open Foundation

/-- `ShelfLifeUnit` of the expiry rules, which know days and months only. -/
inductive RuleUnit
  | day
  | month
  deriving DecidableEq, Repr

/-- `ShelfLife`: an effective shelf life is positive. -/
structure ShelfLife where
  value : ℕ
  unit : RuleUnit
  isEffective : 0 < value
  deriving DecidableEq

/-- Moving a date by days; `datetime` fails at the end of its range. -/
def shiftDays (d : Date) (days : ℤ) : Except Err Date :=
  match if 0 ≤ days then d.addDays days.toNat else d.subDays (-days).toNat with
  | some d' => .ok d'
  | none => .error (.overflowError "date value out of range")

/-- `add_months`: moving a date by calendar months. -/
def addMonths (d : Date) (months : ℤ) : Except Err Date :=
  if months = 0 then .ok d
  else
    match d.addMonths months with
    | some d' => .ok d'
    | none =>
      .error (.valueError
        s!"year {((d.year : ℤ) * 12 + ((d.month : ℤ) - 1) + months) / 12} is out of range")

/-- `compute_expiry_from_shelf_life`. -/
def computeExpiryFromShelfLife (productionDate : Date) (shelfLife : ShelfLife) :
    Except Err Date :=
  match shelfLife.unit with
  | .day => shiftDays productionDate shelfLife.value
  | .month => addMonths productionDate shelfLife.value

/-- `compute_production_from_shelf_life`. -/
def computeProductionFromShelfLife (expiryDate : Date) (shelfLife : ShelfLife) :
    Except Err Date :=
  match shelfLife.unit with
  | .day => shiftDays expiryDate (-shelfLife.value)
  | .month => addMonths expiryDate (-shelfLife.value)

/-- `_build_shelf_life`: units that the rules do not know count as days. -/
def buildShelfLife (value : Option ℕ) (unit : Option ShelfLifeUnit) : Option ShelfLife :=
  match value, unit with
  | some v, some u =>
    if h : 0 < v then
      some ⟨v, match u with
        | .month => .month
        | .day | .week | .year => .day, h⟩
    else none
  | _, _ => none

/-- `BatchDateResolutionMode`. -/
inductive BatchDateResolutionMode
  | fromProductionAndShelfLife
  | fromBothExplicit
  | fromExpiryAndShelfLifeReverse
  deriving DecidableEq, Repr

/-- The dates of a lot as far as they are known, and how they were found. -/
structure BatchDates where
  productionDate : Option Date
  expiryDate : Option Date
  mode : Option BatchDateResolutionMode
  deriving DecidableEq

/-- Two given dates are kept when they are in order. -/
def keepExplicitDates (pd ed : Date) : Except Err BatchDates :=
  if ed < pd then .error (.valueError "production_date cannot be later than expiry_date")
  else .ok ⟨some pd, some ed, some .fromBothExplicit⟩

/-- The consistency check of two given dates computes the expected expiry date; its
verdict is not used, but the computation may fail. -/
def validateExpiryConsistency (pd : Date) (shelfLife : Option ShelfLife) : Except Err Unit :=
  match shelfLife with
  | none => .ok ()
  | some s => (computeExpiryFromShelfLife pd s).map fun _ => ()

/-- `normalize_batch_dates_for_item`. -/
def normalizeBatchDatesForItem (pms : PmsClient) (itemId : ℕ)
    (productionDate expiryDate : Option Date) : Except Err BatchDates :=
  if productionDate = none ∧ expiryDate = none then .ok ⟨none, none, none⟩
  else do
    match ← pms.getItemPolicy itemId with
    | none =>
      match productionDate, expiryDate with
      | some pd, some ed => keepExplicitDates pd ed
      | pd, ed => .ok ⟨pd, ed, none⟩
    | some policy =>
      let shelfLife := buildShelfLife policy.shelfLifeValue policy.shelfLifeUnit
      match policy.expiryPolicy with
      | .none => .ok ⟨none, none, none⟩
      | .required =>
        match productionDate, expiryDate with
        | some pd, some ed =>
          let dates ← keepExplicitDates pd ed
          validateExpiryConsistency pd shelfLife
          return dates
        | some pd, none =>
          match policy.derivationAllowed, shelfLife with
          | true, some s =>
            let ed ← computeExpiryFromShelfLife pd s
            return ⟨some pd, some ed, some .fromProductionAndShelfLife⟩
          | _, _ => .ok ⟨some pd, none, none⟩
        | none, some ed =>
          match policy.derivationAllowed, shelfLife with
          | true, some s =>
            let pd ← computeProductionFromShelfLife ed s
            return ⟨some pd, some ed, some .fromExpiryAndShelfLifeReverse⟩
          | _, _ => .ok ⟨none, some ed, none⟩
        | none, none => .ok ⟨none, none, none⟩

/-- A movement that increases stock needs both dates. -/
def requireInboundDates (delta : ℤ) (pd ed : Option Date) : Except Err Unit :=
  if 0 < delta then
    match pd, ed with
    | none, _ => .error (.valueError
        "批次受控商品必须提供 production_date，或提供可结合保质期反推出 production_date 的 expiry_date。")
    | some _, none => .error (.valueError
        "未提供到期日期，且商品未配置可用于推算的保质期，无法形成 canonical expiry_date。")
    | some _, some _ => .ok ()
  else .ok ()

/-- A date as `date.isoformat` writes it in an error text. -/
def isoFormat (d : Date) : String :=
  let pad (n width : ℕ) : String :=
    let digits := toString n
    String.ofList (List.replicate (width - digits.length) '0') ++ digits
  s!"{pad d.year 4}-{pad d.month 2}-{pad d.day 2}"

/-- `resolve_and_validate_dates_for_inbound`: without a lot code a movement carries no
dates; with one, its dates are completed from the item's policy. -/
def resolveAndValidateDatesForInbound (pms : PmsClient) (itemId : ℕ) (delta : ℤ)
    (lotCodeNorm : Option String) (productionDate expiryDate : Option Date) :
    Except Err (Option Date × Option Date) :=
  match lotCodeNorm with
  | none => .ok (none, none)
  | some _ => do
    let dates ← normalizeBatchDatesForItem pms itemId productionDate expiryDate
    requireInboundDates delta dates.productionDate dates.expiryDate
    match dates.productionDate, dates.expiryDate with
    | some pd, some ed =>
      if ed < pd then
        .error (.valueError s!"expiry_date({isoFormat ed}) < production_date({isoFormat pd})")
      else .ok (some pd, some ed)
    | pd, ed => .ok (pd, ed)

/-- With a lot code but no dates, an increase of stock is always refused: there is
nothing from which its dates could be derived. -/
theorem resolve_dates_of_increase_without_dates (pms : PmsClient) (itemId : ℕ) {delta : ℤ}
    (hdelta : 0 < delta) (code : String) :
    resolveAndValidateDatesForInbound pms itemId delta (some code) none none =
      .error (.valueError
        "批次受控商品必须提供 production_date，或提供可结合保质期反推出 production_date 的 expiry_date。") := by
  simp only [resolveAndValidateDatesForInbound, normalizeBatchDatesForItem, and_self, if_true,
    requireInboundDates, hdelta]
  rfl

/-- A movement that does not increase stock and gives no dates carries none. -/
theorem resolve_dates_of_no_increase_without_dates (pms : PmsClient) (itemId : ℕ)
    {delta : ℤ} (hdelta : delta ≤ 0) (code : Option String) :
    resolveAndValidateDatesForInbound pms itemId delta code none none = .ok (none, none) := by
  cases code with
  | none => rfl
  | some code =>
    have hnot : ¬0 < delta := by omega
    simp only [resolveAndValidateDatesForInbound, normalizeBatchDatesForItem, and_self, if_true,
      requireInboundDates, if_neg hnot]
    rfl

/-- Without a lot code a movement carries no dates, whatever it was given. -/
theorem resolve_dates_without_lot_code (pms : PmsClient) (itemId : ℕ) (delta : ℤ)
    (pd ed : Option Date) :
    resolveAndValidateDatesForInbound pms itemId delta none pd ed = .ok (none, none) := rfl

end Wms

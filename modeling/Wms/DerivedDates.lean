import Wms.Foundation.Ordinal
import Wms.Stock.Expiry

/-!
# Derived dates are consistent

A production date gives an expiry date and an expiry date a production date. Months differ in
length, so deriving a production date and deriving the expiry date from it again may end some
days early, which the tolerance of the consistency check allows for.
-/

namespace Wms.ExpiryRules

open Foundation

/-- `validate_expiry_consistency`. -/
def validateExpiryConsistency (productionDate expiryDate : Option Date)
    (shelfLife : Option ShelfLife) (toleranceDays : ℤ) : Except Err Bool :=
  match productionDate, expiryDate, shelfLife with
  | some pd, some ed, some s => do
    let expected ← computeExpiryFromShelfLife pd s
    return |ed.daysSince expected| ≤ max toleranceDays 0
  | _, _, _ => .ok true

/-- The default of `tolerance_days`. -/
def toleranceDays : ℤ := 3

variable {pd ed d e : Date} {s : ShelfLife} {n : ℕ}

/-- The check made on receipt, which ignores the verdict, computes this one. -/
theorem validateExpiryConsistency_receipt (pd ed : Date) (s : Option ShelfLife) (t : ℤ) :
    Wms.validateExpiryConsistency pd s =
      (validateExpiryConsistency (some pd) (some ed) s t).map fun _ => () := by
  cases s with
  | none => rfl
  | some s =>
    simp only [Wms.validateExpiryConsistency, validateExpiryConsistency]
    cases computeExpiryFromShelfLife pd s with
    | error e => rfl
    | ok expected => rfl

theorem validateExpiryConsistency_of_ok {expected : Date} {t : ℤ}
    (h : computeExpiryFromShelfLife pd s = .ok expected) :
    validateExpiryConsistency (some pd) (some ed) (some s) t =
      .ok (|ed.daysSince expected| ≤ max t 0) := by
  unfold validateExpiryConsistency
  simp only [h]
  rfl

/-! ## Moving dates -/

theorem shiftDays_ok : shiftDays d n = .ok e ↔ d.addDays n = some e := by
  unfold shiftDays
  rw [if_pos (by omega)]
  simp only [Int.toNat_natCast]
  cases d.addDays n <;> simp

theorem shiftDays_neg_ok (hn : 0 < n) : shiftDays d (-n) = .ok e ↔ d.subDays n = some e := by
  unfold shiftDays
  rw [if_neg (by omega)]
  simp only [neg_neg, Int.toNat_natCast]
  cases d.subDays n <;> simp

theorem addMonths_ok {m : ℤ} (hm : m ≠ 0) : addMonths d m = .ok e ↔ d.addMonths m = some e := by
  unfold addMonths
  rw [if_neg hm]
  cases d.addMonths m <;> simp

/-- The expiry date by days or by months. -/
theorem computeExpiryFromShelfLife_ok : computeExpiryFromShelfLife pd s = .ok ed ↔
    (s.unit = .day ∧ pd.addDays s.value = some ed) ∨
      (s.unit = .month ∧ pd.addMonths s.value = some ed) := by
  have hpos := s.isEffective
  unfold computeExpiryFromShelfLife
  cases hunit : s.unit with
  | day => simp [shiftDays_ok]
  | month => simp [addMonths_ok (d := pd) (e := ed) (m := s.value) (by omega)]

theorem computeProductionFromShelfLife_ok : computeProductionFromShelfLife ed s = .ok pd ↔
    (s.unit = .day ∧ ed.subDays s.value = some pd) ∨
      (s.unit = .month ∧ ed.addMonths (-s.value) = some pd) := by
  have hpos := s.isEffective
  unfold computeProductionFromShelfLife
  cases hunit : s.unit with
  | day => simp [shiftDays_neg_ok hpos]
  | month => simp [addMonths_ok (d := ed) (e := pd) (m := -s.value) (by omega)]

/-! ## The two derivations -/

theorem le_computeExpiryFromShelfLife (h : computeExpiryFromShelfLife pd s = .ok ed) : pd ≤ ed := by
  have hpos := s.isEffective
  rcases computeExpiryFromShelfLife_ok.mp h with ⟨-, hdays⟩ | ⟨-, hmonths⟩
  · exact Date.le_of_addDays hdays
  · obtain ⟨htotal, -⟩ := Date.addMonths_eq_some.mp hmonths
    exact (Date.lt_of_months_lt (by omega)).le

theorem computeProductionFromShelfLife_le (h : computeProductionFromShelfLife ed s = .ok pd) :
    pd ≤ ed := by
  have hpos := s.isEffective
  rcases computeProductionFromShelfLife_ok.mp h with ⟨-, hdays⟩ | ⟨-, hmonths⟩
  · exact Date.le_of_addDays (Date.addDays_of_subDays hdays)
  · obtain ⟨htotal, -⟩ := Date.addMonths_eq_some.mp hmonths
    exact (Date.lt_of_months_lt (by omega)).le

/-- An expiry date is exactly the one that is expected. -/
theorem validate_computeExpiry (h : computeExpiryFromShelfLife pd s = .ok ed) :
    validateExpiryConsistency (some pd) (some ed) (some s) toleranceDays = .ok true := by
  rw [validateExpiryConsistency_of_ok h, Date.daysSince_self]
  simp [toleranceDays]

/-- From a production date that was derived, the expiry date is found again, or a date at most
three days before it. -/
theorem validate_computeProduction (h : computeProductionFromShelfLife ed s = .ok pd) :
    validateExpiryConsistency (some pd) (some ed) (some s) toleranceDays = .ok true := by
  rcases computeProductionFromShelfLife_ok.mp h with ⟨hunit, hdays⟩ | ⟨hunit, hmonths⟩
  · have hback : computeExpiryFromShelfLife pd s = .ok ed :=
      computeExpiryFromShelfLife_ok.mpr (.inl ⟨hunit, Date.addDays_of_subDays hdays⟩)
    exact validate_computeExpiry hback
  · obtain ⟨expected, hforth, hlow, hhigh⟩ := Date.addMonths_neg_addMonths hmonths
    have hexpected : computeExpiryFromShelfLife pd s = .ok expected :=
      computeExpiryFromShelfLife_ok.mpr (.inr ⟨hunit, hforth⟩)
    rw [validateExpiryConsistency_of_ok hexpected, abs_of_nonneg hlow]
    have hwithin : ed.daysSince expected ≤ max toleranceDays 0 := by
      unfold toleranceDays
      omega
    simp [hwithin]

theorem computeExpiryFromShelfLife_mono {pd' ed' : Date} (hle : pd ≤ pd')
    (h : computeExpiryFromShelfLife pd s = .ok ed)
    (h' : computeExpiryFromShelfLife pd' s = .ok ed') : ed ≤ ed' := by
  rcases computeExpiryFromShelfLife_ok.mp h with ⟨hunit, hdays⟩ | ⟨hunit, hmonths⟩
  · rcases computeExpiryFromShelfLife_ok.mp h' with ⟨-, hdays'⟩ | ⟨hunit', -⟩
    · exact Date.addDays_mono hle hdays hdays'
    · rw [hunit] at hunit'
      cases hunit'
  · rcases computeExpiryFromShelfLife_ok.mp h' with ⟨hunit', -⟩ | ⟨-, hmonths'⟩
    · rw [hunit] at hunit'
      cases hunit'
    · exact Date.addMonths_mono hle hmonths hmonths'

/-- Dates that are derived from each other are in order and accepted, and a later production
date gives no earlier expiry date. -/
theorem derived_dates_consistent (s : ShelfLife) :
    (∀ pd ed, computeExpiryFromShelfLife pd s = .ok ed →
      pd ≤ ed ∧ validateExpiryConsistency (some pd) (some ed) (some s) toleranceDays = .ok true) ∧
    (∀ pd ed, computeProductionFromShelfLife ed s = .ok pd →
      pd ≤ ed ∧ validateExpiryConsistency (some pd) (some ed) (some s) toleranceDays = .ok true) ∧
    (∀ pd pd' ed ed', pd ≤ pd' → computeExpiryFromShelfLife pd s = .ok ed →
      computeExpiryFromShelfLife pd' s = .ok ed' → ed ≤ ed') := by
  refine ⟨fun pd ed h => ?_, fun pd ed h => ?_, fun pd pd' ed ed' hle h h' => ?_⟩
  · exact ⟨le_computeExpiryFromShelfLife h, validate_computeExpiry h⟩
  · exact ⟨computeProductionFromShelfLife_le h, validate_computeProduction h⟩
  · exact computeExpiryFromShelfLife_mono hle h h'

/-- The last of March and a month: the expiry date that is expected is three days early. -/
theorem derived_dates_consistent_march :
    ∃ pd, computeProductionFromShelfLife ⟨2025, 3, 31, by decide⟩ ⟨1, .month, by decide⟩ = .ok pd ∧
      pd ≤ ⟨2025, 3, 31, by decide⟩ ∧
      validateExpiryConsistency (some pd) (some ⟨2025, 3, 31, by decide⟩)
        (some ⟨1, .month, by decide⟩) toleranceDays = .ok true := by
  have hderived : computeProductionFromShelfLife ⟨2025, 3, 31, by decide⟩
      ⟨1, .month, by decide⟩ = .ok ⟨2025, 2, 28, by decide⟩ := by decide +kernel
  exact ⟨_, hderived, (derived_dates_consistent ⟨1, .month, by decide⟩).2.1 _ _ hderived⟩

end Wms.ExpiryRules

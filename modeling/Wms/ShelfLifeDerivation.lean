import Wms.Stock.LotService

/-!
# Deriving an expiry date from a shelf life

Three functions add a shelf life to a production date: the completion of the dates that
a request gives, the completion of the dates of a lot, and `calc_expire_at`. The first
knows days and months only and counts weeks and years as days, and only the first asks
whether the item may have derived dates. So they agree exactly where derivation is
allowed and the first is not asked about weeks or years.
-/

namespace Wms

open Foundation

/-- The unit as the product master writes it. -/
def ShelfLifeUnit.code : ShelfLifeUnit → String
  | day => "DAY"
  | week => "WEEK"
  | month => "MONTH"
  | year => "YEAR"

/-- `_add_years` of the lot service. -/
def addYears (base : Date) (years : ℤ) : Except Err Date :=
  let year := (base.year : ℤ) + years
  match Date.ofNumbers year base.month
      (min base.day (daysInMonth year.toNat base.month)) with
  | some d => .ok d
  | none => .error (.valueError s!"year {year} is out of range")

/-- The shift by years is a shift by twelve times as many months. -/
theorem addMonths_eq_addYears (base : Date) {years : ℤ} (hyears : years ≠ 0) :
    addMonths base (12 * years) = addYears base years := by
  have hmonth := base.valid.2.1
  have hyear : ((base.year : ℤ) * 12 + ((base.month : ℤ) - 1) + 12 * years) / 12 =
      base.year + years := by omega
  have hsame : (((base.year : ℤ) * 12 + ((base.month : ℤ) - 1) + 12 * years) % 12).toNat + 1 =
      base.month := by omega
  have hne : 12 * years ≠ 0 := by omega
  simp only [addMonths, Date.addMonths, if_neg hne, hyear, hsame]
  rfl

/-- `calc_expire_at`. The shift by months and years is that of another package. -/
def calcExpireAt (relativedelta : Date → ℤ → ℤ → Except Err Date) (productionDate : Option Date)
    (shelfLifeValue : Option ℤ) (shelfLifeUnit : Option String) (allowNull : Bool) :
    Except Err (Option Date) :=
  match productionDate, shelfLifeValue, shelfLifeUnit with
  | none, none, none =>
    if allowNull then .ok none
    else .error (.valueError "expire_at requires production_date and shelf_life_value/unit")
  | some pd, some v, some unit =>
    if v ≤ 0 then .error (.valueError "shelf_life_value must be > 0")
    else
      let u := upper (strip unit)
      if u = "DAY" then (shiftDays pd v).map some
      else if u = "WEEK" then (shiftDays pd (7 * v)).map some
      else if u = "MONTH" then (relativedelta pd 0 v).map some
      else if u = "YEAR" then (relativedelta pd v 0).map some
      else .error (.valueError ("shelf_life_unit must be one of " ++
        "\x7b'DAY', 'WEEK', 'MONTH', 'YEAR'\x7d, got '" ++ unit ++ "'"))
  | _, _, _ =>
    .error (.valueError "production_date, shelf_life_value and shelf_life_unit are required together")

/-- What the package documents: years and months are added in the calendar, and the day is
the last one of a month that is too short. -/
def FollowsCalendar (relativedelta : Date → ℤ → ℤ → Except Err Date) : Prop :=
  ∀ d years months, (relativedelta d years months).toOption = d.addMonths (12 * years + months)

/-! ## What each function derives -/

/-- The last day of a shelf life, unless it lies beyond the calendar. -/
def shelfLifeEnd (pd : Date) (value : ℕ) : ShelfLifeUnit → Option Date
  | .day => pd.addDays value
  | .week => pd.addDays (7 * value)
  | .month => pd.addMonths value
  | .year => pd.addMonths (12 * value)

/-- The expiry date that the completion of given dates derives. -/
def normalizedExpiry (pms : PmsClient) (itemId : ℕ) (pd ed : Option Date) : Option Date :=
  match ed with
  | some _ => none
  | none => (normalizeBatchDatesForItem pms itemId pd none).toOption.bind BatchDates.expiryDate

/-- The expiry date that `ensure_lot_full` derives. -/
def lotExpiry (policy : ItemPolicy) (pd ed : Option Date) : Option Date :=
  match ed with
  | some _ => none
  | none => (completeLotDates policy pd none).toOption.bind Prod.snd

/-- The expiry date that `calc_expire_at` derives. -/
def calculatedExpiry (relativedelta : Date → ℤ → ℤ → Except Err Date) (policy : ItemPolicy)
    (pd : Option Date) : Option Date :=
  (calcExpireAt relativedelta pd (policy.shelfLifeValue.map (Nat.cast : ℕ → ℤ))
    (policy.shelfLifeUnit.map ShelfLifeUnit.code) true).toOption.join

variable {pms : PmsClient} {policy : ItemPolicy} {v : ℕ} {u : ShelfLifeUnit}
  {relativedelta : Date → ℤ → ℤ → Except Err Date}

theorem toOption_shiftDays (d : Date) (n : ℕ) : (shiftDays d n).toOption = d.addDays n := by
  have hn : (0 : ℤ) ≤ n := Int.natCast_nonneg n
  unfold shiftDays
  rw [if_pos hn, Int.toNat_natCast]
  cases d.addDays n <;> rfl

theorem toOption_addMonths (d : Date) {months : ℤ} (hmonths : months ≠ 0) :
    (addMonths d months).toOption = d.addMonths months := by
  unfold addMonths
  rw [if_neg hmonths]
  cases d.addMonths months <;> rfl

theorem toOption_map_some (x : Except Err Date) :
    (x.map some).toOption = x.toOption.map some := by
  cases x <;> rfl

/-- The completion of given dates counts weeks and years as days. -/
theorem normalizedExpiry_eq (hpolicy : pms.getItemPolicy policy.itemId = .ok (some policy))
    (hvalue : policy.shelfLifeValue = some v) (hunit : policy.shelfLifeUnit = some u) (pd : Date) :
    normalizedExpiry pms policy.itemId (some pd) none =
      if policy.expiryPolicy = .required ∧ policy.derivationAllowed = true then
        shelfLifeEnd pd v (if u = .month then .month else .day)
      else none := by
  have hpos : 0 < v := policy.shelfLife_pos v hvalue
  have hne : (v : ℤ) ≠ 0 := by omega
  simp only [normalizedExpiry, normalizeBatchDatesForItem, reduceCtorEq, false_and, if_false,
    hpolicy, bind, Except.bind, hvalue, hunit, buildShelfLife, dif_pos hpos]
  cases hrequired : policy.expiryPolicy with
  | none => rfl
  | required =>
    cases hallowed : policy.derivationAllowed with
    | false => rfl
    | true =>
      simp only [and_self, if_true]
      cases u with
      | month =>
        simp only [computeExpiryFromShelfLife, if_true, shelfLifeEnd]
        rw [← toOption_addMonths pd hne]
        cases addMonths pd v <;> rfl
      | day | week | year =>
        simp only [computeExpiryFromShelfLife, reduceCtorEq, if_false, shelfLifeEnd]
        rw [← toOption_shiftDays pd v]
        cases shiftDays pd v <;> rfl

/-- The completion of the dates of a lot knows every unit. -/
theorem lotExpiry_eq (hvalue : policy.shelfLifeValue = some v)
    (hunit : policy.shelfLifeUnit = some u) (pd : Date) :
    lotExpiry policy (some pd) none =
      if policy.expiryPolicy = .required then shelfLifeEnd pd v u else none := by
  have hpos : 0 < v := policy.shelfLife_pos v hvalue
  have hshift : (shiftDateByShelfLife pd (some v) (some u) 1).toOption =
      (shelfLifeEnd pd v u).map some := by
    cases u with
    | day =>
      rw [shiftDateByShelfLife, one_mul, toOption_map_some, toOption_shiftDays, shelfLifeEnd]
    | week =>
      have hcast : (1 : ℤ) * (7 * v) = ((7 * v : ℕ) : ℤ) := by push_cast; ring
      rw [shiftDateByShelfLife, hcast, toOption_map_some, toOption_shiftDays, shelfLifeEnd]
    | month =>
      rw [shiftDateByShelfLife, one_mul, toOption_map_some, toOption_addMonths pd (by omega),
        shelfLifeEnd]
    | year =>
      rw [shiftDateByShelfLife, one_mul, toOption_map_some, toOption_addMonths pd (by omega),
        shelfLifeEnd]
  unfold lotExpiry completeLotDates
  simp only [hvalue, hunit]
  split
  · simp only [bind, Except.bind]
    cases hresult : shiftDateByShelfLife pd (some v) (some u) 1 with
    | error e =>
      rw [hresult] at hshift
      cases hend : shelfLifeEnd pd v u with
      | none => rfl
      | some e' =>
        rw [hend] at hshift
        cases hshift
    | ok ed =>
      rw [hresult] at hshift
      cases hend : shelfLifeEnd pd v u with
      | none =>
        rw [hend] at hshift
        cases hshift
      | some e' =>
        rw [hend] at hshift
        obtain rfl : ed = some e' := Option.some.inj hshift
        rfl
  · rfl

/-- `calc_expire_at` knows every unit and asks for no policy. -/
theorem calculatedExpiry_eq (hrelative : FollowsCalendar relativedelta)
    (hvalue : policy.shelfLifeValue = some v) (hunit : policy.shelfLifeUnit = some u) (pd : Date) :
    calculatedExpiry relativedelta policy (some pd) = shelfLifeEnd pd v u := by
  have hpos : 0 < v := policy.shelfLife_pos v hvalue
  have hnot : ¬(v : ℤ) ≤ 0 := by omega
  have hjoin : ∀ x : Except Err Date, (x.map some).toOption.join = x.toOption := by
    intro x
    cases x <;> rfl
  unfold calculatedExpiry calcExpireAt
  simp only [hvalue, hunit, Option.map_some, if_neg hnot]
  cases u with
  | day =>
    have hcode : upper (strip ShelfLifeUnit.day.code) = "DAY" := by decide
    rw [if_pos hcode, hjoin, toOption_shiftDays, shelfLifeEnd]
  | week =>
    have hcode : upper (strip ShelfLifeUnit.week.code) = "WEEK" := by decide
    have hcast : (7 : ℤ) * v = ((7 * v : ℕ) : ℤ) := by push_cast; rfl
    rw [hcode, if_neg (by decide), if_pos rfl, hjoin, hcast, toOption_shiftDays, shelfLifeEnd]
  | month =>
    have hcode : upper (strip ShelfLifeUnit.month.code) = "MONTH" := by decide
    rw [hcode, if_neg (by decide), if_neg (by decide), if_pos rfl, hjoin, hrelative, mul_zero,
      zero_add, shelfLifeEnd]
  | year =>
    have hcode : upper (strip ShelfLifeUnit.year.code) = "YEAR" := by decide
    rw [hcode, if_neg (by decide), if_neg (by decide), if_neg (by decide), if_pos rfl, hjoin,
      hrelative, add_zero, shelfLifeEnd]

/-! ## Agreement -/

/-- The expiry dates that the three functions derive. -/
def derivedExpiries (relativedelta : Date → ℤ → ℤ → Except Err Date) (pms : PmsClient)
    (policy : ItemPolicy) (pd ed : Option Date) : List Date :=
  [normalizedExpiry pms policy.itemId pd ed, lotExpiry policy pd ed,
    calculatedExpiry relativedelta policy pd].reduceOption

/-- All derived dates are the same, and none is derived where the policy forbids it. -/
structure DerivationsAgree (relativedelta : Date → ℤ → ℤ → Except Err Date) (pms : PmsClient)
    (policy : ItemPolicy) (pd ed : Option Date) : Prop where
  same : ∀ e ∈ derivedExpiries relativedelta pms policy pd ed,
    ∀ e' ∈ derivedExpiries relativedelta pms policy pd ed, e = e'
  allowed : derivedExpiries relativedelta pms policy pd ed ≠ [] → policy.derivationAllowed = true

/-- Derivation is allowed, and where the item needs an expiry date and none is given, its
shelf life is in days or months. -/
def UnitKnown (policy : ItemPolicy) (u : ShelfLifeUnit) (ed : Option Date) : Prop :=
  policy.derivationAllowed = true ∧
    (policy.expiryPolicy = .required ∧ ed = none → u = .day ∨ u = .month)

/-- Weeks and years end later than as many days. -/
theorem ne_shelfLifeEnd {pd e : Date} (hv : 0 < v) (hunit : ¬(u = .day ∨ u = .month))
    (hend : shelfLifeEnd pd v u = some e) : ∃ e', pd.addDays v = some e' ∧ e' ≠ e := by
  cases u with
  | day => exact absurd (.inl rfl) hunit
  | month => exact absurd (.inr rfl) hunit
  | week =>
    obtain ⟨e', he', hlt⟩ := Date.addDays_lt (m := v) (by omega) hend
    exact ⟨e', he', hlt.ne⟩
  | year =>
    obtain ⟨e', he', hlt⟩ := Date.addDays_lt_years hv hend
    exact ⟨e', he', hlt.ne⟩

/-- Without a production date no function derives an expiry date. -/
theorem derivedExpiries_of_none (hvalue : policy.shelfLifeValue = some v) (ed : Option Date) :
    derivedExpiries relativedelta pms policy none ed = [] := by
  have hcalculated : calculatedExpiry relativedelta policy none = none := by
    unfold calculatedExpiry calcExpireAt
    rw [hvalue]
    rfl
  have hlot : lotExpiry policy none ed = none := by
    cases ed with
    | some e => rfl
    | none =>
      unfold lotExpiry completeLotDates
      simp only
      split <;> rfl
  have hnormalized : normalizedExpiry pms policy.itemId none ed = none := by
    cases ed <;> rfl
  unfold derivedExpiries
  rw [hcalculated, hlot, hnormalized]
  rfl

/-- For an item with a shelf life and any dates, the three functions agree exactly when
derivation is allowed and the shelf life is in a unit that all of them know, or the shelf
life ends beyond the calendar. -/
theorem derivationsAgree_iff (relativedelta : Date → ℤ → ℤ → Except Err Date) (pms : PmsClient)
    (policy : ItemPolicy) (v : ℕ) (u : ShelfLifeUnit) (pd ed : Option Date)
    (hrelative : FollowsCalendar relativedelta)
    (hpolicy : pms.getItemPolicy policy.itemId = .ok (some policy))
    (hvalue : policy.shelfLifeValue = some v) (hunit : policy.shelfLifeUnit = some u) :
    DerivationsAgree relativedelta pms policy pd ed ↔
      ∀ p ∈ pd, shelfLifeEnd p v u ≠ none → UnitKnown policy u ed := by
  have hpos : 0 < v := policy.shelfLife_pos v hvalue
  cases pd with
  | none =>
    have hnil : derivedExpiries relativedelta pms policy none ed = [] :=
      derivedExpiries_of_none hvalue ed
    constructor
    · intro _ p hp
      cases hp
    · intro _
      refine ⟨?_, fun hne => absurd hnil hne⟩
      rw [hnil]
      exact fun e he => absurd he List.not_mem_nil
  | some p =>
    have hcalculated := calculatedExpiry_eq hrelative hvalue hunit p
    have hforall : (∀ p' ∈ some p, shelfLifeEnd p' v u ≠ none → UnitKnown policy u ed) ↔
        (shelfLifeEnd p v u ≠ none → UnitKnown policy u ed) := by simp
    rw [hforall]
    cases ed with
    | some e₀ =>
      -- a given expiry date leaves only `calc_expire_at` to derive one
      have hlist : derivedExpiries relativedelta pms policy (some p) (some e₀) =
          (shelfLifeEnd p v u).toList := by
        unfold derivedExpiries
        rw [hcalculated]
        change [none, none, shelfLifeEnd p v u].reduceOption = _
        cases shelfLifeEnd p v u <;> rfl
      constructor
      · intro h hend
        refine ⟨h.allowed ?_, fun hnone => by cases hnone.2⟩
        rw [hlist]
        simpa using hend
      · intro h
        constructor
        · intro e he e' he'
          rw [hlist, Option.mem_toList] at he he'
          exact Option.some.inj (he.symm.trans he')
        · intro hne
          refine (h fun hnone => hne ?_).1
          rw [hlist, hnone]
          rfl
    | none =>
      have hnormalized := normalizedExpiry_eq hpolicy hvalue hunit p
      have hlot := lotExpiry_eq hvalue hunit p
      have hlist : derivedExpiries relativedelta pms policy (some p) none =
          [if policy.expiryPolicy = .required ∧ policy.derivationAllowed = true then
            shelfLifeEnd p v (if u = .month then .month else .day) else none,
          if policy.expiryPolicy = .required then shelfLifeEnd p v u else none,
          shelfLifeEnd p v u].reduceOption := by
        unfold derivedExpiries
        rw [hnormalized, hlot, hcalculated]
      have hmem : ∀ e, e ∈ derivedExpiries relativedelta pms policy (some p) none ↔
          (policy.expiryPolicy = .required ∧ policy.derivationAllowed = true ∧
            shelfLifeEnd p v (if u = .month then .month else .day) = some e) ∨
          shelfLifeEnd p v u = some e := by
        intro e
        rw [hlist, List.reduceOption_mem_iff]
        by_cases hrequired : policy.expiryPolicy = .required <;>
          by_cases hallowed : policy.derivationAllowed = true <;>
          simp [hrequired, hallowed, eq_comm]
      constructor
      · intro h hend
        obtain ⟨e, he⟩ := Option.ne_none_iff_exists'.mp hend
        have hderived := (hmem e).mpr (.inr he)
        have hallowed := h.allowed (List.ne_nil_of_mem hderived)
        refine ⟨hallowed, fun hneeds => ?_⟩
        by_contra hother
        obtain ⟨e', he', hne⟩ := ne_shelfLifeEnd hpos hother he
        have hmonth : ¬u = .month := fun hmonth => hother (.inr hmonth)
        refine hne (h.same e' ((hmem e').mpr (.inl ⟨hneeds.1, hallowed, ?_⟩)) e hderived)
        rw [if_neg hmonth]
        exact he'
      · intro h
        constructor
        · intro e he e' he'
          rw [hmem] at he he'
          cases hend : shelfLifeEnd p v u with
          | none =>
            -- only the completion of the given dates may derive one
            rw [hend] at he he'
            obtain ⟨-, -, hfirst⟩ := he.resolve_right (by simp)
            obtain ⟨-, -, hsecond⟩ := he'.resolve_right (by simp)
            exact Option.some.inj (hfirst.symm.trans hsecond)
          | some e₁ =>
            obtain ⟨hallowed, hunits⟩ := h (by rw [hend]; simp)
            have hall : ∀ d, ((policy.expiryPolicy = .required ∧
                policy.derivationAllowed = true ∧
                shelfLifeEnd p v (if u = .month then .month else .day) = some d) ∨
                shelfLifeEnd p v u = some d) → d = e₁ := by
              rintro d (⟨hrequired, -, hd⟩ | hd)
              · have hsame : (if u = .month then ShelfLifeUnit.month else .day) = u := by
                  rcases hunits ⟨hrequired, rfl⟩ with rfl | rfl <;> rfl
                rw [hsame, hend] at hd
                exact (Option.some.inj hd).symm
              · rw [hend] at hd
                exact (Option.some.inj hd).symm
            rw [hall e he, hall e' he']
        · intro hne
          obtain ⟨e, he⟩ := List.exists_mem_of_ne_nil _ hne
          rcases (hmem e).mp he with ⟨-, hallowed, -⟩ | hend
          · exact hallowed
          · exact (h (by rw [hend]; simp)).1

/-! ## A shelf life of two weeks -/

/-- The shift by months and years as the package documents it. -/
def calendarDelta (d : Date) (years months : ℤ) : Except Err Date :=
  match d.addMonths (12 * years + months) with
  | some d' => .ok d'
  | none => .error (.valueError "year is out of range")

theorem followsCalendar_calendarDelta : FollowsCalendar calendarDelta := by
  intro d years months
  unfold calendarDelta
  cases d.addMonths (12 * years + months) <;> rfl

/-- An item that keeps for two weeks and may have derived dates. -/
def twoWeeksPolicy : ItemPolicy :=
  { plainPolicy 1 with
    expiryPolicy := .required, shelfLifeValue := some 2, shelfLifeUnit := some .week
    derivationAllowed := true
    shelfLife_pos := by simp }

/-- A product master that knows the item. -/
def twoWeeksPms : PmsClient :=
  { plainPms with getItemPolicy := fun _ => .ok (some twoWeeksPolicy) }

/-- The first of March. -/
def firstOfMarch : Date := ⟨2025, 3, 1, by decide⟩

/-- Where both dates are given, two weeks are as good as fourteen days. -/
theorem derivationsAgree_iff_twoWeeks :
    DerivationsAgree calendarDelta twoWeeksPms twoWeeksPolicy (some firstOfMarch)
      (some firstOfMarch) :=
  (derivationsAgree_iff calendarDelta twoWeeksPms twoWeeksPolicy 2 .week (some firstOfMarch)
    (some firstOfMarch) followsCalendar_calendarDelta rfl rfl rfl).mpr fun _ _ _ =>
      ⟨rfl, fun h => by cases h.2⟩

/-- For goods produced on the first of March, one function derives the third of March and
the others the fifteenth. -/
theorem not_derivationsAgree_twoWeeks :
    ¬∀ relativedelta pms policy pd ed, FollowsCalendar relativedelta →
      pms.getItemPolicy policy.itemId = .ok (some policy) →
      policy.shelfLifeValue ≠ none → policy.shelfLifeUnit ≠ none →
      DerivationsAgree relativedelta pms policy pd ed := by
  intro h
  have hagree := h calendarDelta twoWeeksPms twoWeeksPolicy (some firstOfMarch) none
    followsCalendar_calendarDelta rfl (by decide) (by decide)
  have hlist : (derivedExpiries calendarDelta twoWeeksPms twoWeeksPolicy (some firstOfMarch)
      none).map Date.day = [3, 15, 15] := by decide
  obtain ⟨a, as, hcons, ha, has⟩ := List.map_eq_cons_iff.mp hlist
  obtain ⟨b, bs, rfl, hb, -⟩ := List.map_eq_cons_iff.mp has
  have hsame := hagree.same a (by rw [hcons]; simp) b (by rw [hcons]; simp)
  rw [← hsame, ha] at hb
  exact absurd hb (by decide)

end Wms

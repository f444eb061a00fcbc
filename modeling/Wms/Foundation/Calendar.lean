import Mathlib

/-!
# Calendar dates

Dates of the proleptic Gregorian calendar in the years 1 to 9999, with the day and
month arithmetic of a date library: moving by days walks the calendar, and moving by
months keeps the day of the month where the target month has it and takes the last
day of the month where it does not.
-/

namespace Foundation

/-- Leap years of the Gregorian calendar. -/
def isLeap (year : ℕ) : Bool :=
  year % 4 = 0 ∧ (year % 100 ≠ 0 ∨ year % 400 = 0)

/-- The length of a month. -/
def daysInMonth (year month : ℕ) : ℕ :=
  if month = 2 then (if isLeap year then 29 else 28)
  else if month = 4 ∨ month = 6 ∨ month = 9 ∨ month = 11 then 30 else 31

/-- A date that exists. -/
structure Date where
  year : ℕ
  month : ℕ
  day : ℕ
  /-- The three numbers name a day of the calendar. -/
  valid : (1 ≤ year ∧ year ≤ 9999) ∧ (1 ≤ month ∧ month ≤ 12) ∧
    1 ≤ day ∧ day ≤ daysInMonth year month
  deriving DecidableEq, Repr

namespace Date

/-- A literal date. That it exists is checked by evaluation. -/
abbrev lit (y m d : ℕ) (h : decide ((1 ≤ y ∧ y ≤ 9999) ∧ (1 ≤ m ∧ m ≤ 12) ∧
    1 ≤ d ∧ d ≤ daysInMonth y m) = true := by exact Eq.refl true) : Date :=
  ⟨y, m, d, of_decide_eq_true h⟩

theorem daysInMonth_le (year month : ℕ) : daysInMonth year month ≤ 31 := by
  unfold daysInMonth
  split
  · split <;> omega
  · split <;> omega

theorem one_le_daysInMonth (year month : ℕ) : 1 ≤ daysInMonth year month := by
  unfold daysInMonth
  split
  · split <;> omega
  · split <;> omega

/-- The date with the given numbers, when there is one. -/
def ofNumbers (year : ℤ) (month day : ℕ) : Option Date :=
  if h : (1 ≤ year.toNat ∧ year.toNat ≤ 9999) ∧ (1 ≤ month ∧ month ≤ 12) ∧
      1 ≤ day ∧ day ≤ daysInMonth year.toNat month then
    some ⟨year.toNat, month, day, h⟩
  else none

/-- A number that orders the dates. -/
def index (d : Date) : ℕ := (d.year * 13 + d.month) * 32 + d.day

theorem index_injective : Function.Injective index := by
  rintro ⟨y, m, d, hv⟩ ⟨y', m', d', hv'⟩ h
  have hd := hv.2.2.2.trans (daysInMonth_le y m)
  have hd' := hv'.2.2.2.trans (daysInMonth_le y' m')
  have hm := hv.2.1.2
  have hm' := hv'.2.1.2
  simp only [index] at h
  obtain ⟨rfl, rfl, rfl⟩ : y = y' ∧ m = m' ∧ d = d' := by omega
  rfl

instance : LinearOrder Date := LinearOrder.lift' index index_injective

/-- The following day, unless the calendar ends. -/
def next (d : Date) : Option Date :=
  if d.day < daysInMonth d.year d.month then ofNumbers d.year d.month (d.day + 1)
  else if d.month < 12 then ofNumbers d.year (d.month + 1) 1
  else ofNumbers (d.year + 1) 1 1

/-- The preceding day, unless the calendar begins. -/
def prev (d : Date) : Option Date :=
  if 1 < d.day then ofNumbers d.year d.month (d.day - 1)
  else if 1 < d.month then
    ofNumbers d.year (d.month - 1) (daysInMonth d.year (d.month - 1))
  else ofNumbers (d.year - 1) 12 31

/-- The date `n` days later. -/
def addDays (d : Date) : ℕ → Option Date
  | 0 => some d
  | n + 1 => (d.addDays n).bind next

/-- The date `n` days earlier. -/
def subDays (d : Date) : ℕ → Option Date
  | 0 => some d
  | n + 1 => (d.subDays n).bind prev

/-- The date some months later or earlier, on the last day of the month where the
month is too short. -/
def addMonths (d : Date) (months : ℤ) : Option Date :=
  let total := (d.year : ℤ) * 12 + ((d.month : ℤ) - 1) + months
  let year := total / 12
  let month := (total % 12).toNat + 1
  ofNumbers year month (min d.day (daysInMonth year.toNat month))

theorem le_def {a b : Date} : a ≤ b ↔ a.index ≤ b.index := Iff.rfl

theorem lt_def {a b : Date} : a < b ↔ a.index < b.index := Iff.rfl

/-- Moving by no months changes nothing. -/
theorem addMonths_zero (d : Date) : d.addMonths 0 = some d := by
  obtain ⟨y, m, dd, hv⟩ := d
  obtain ⟨⟨hy, hy'⟩, ⟨hm, hm'⟩, hd, hd'⟩ := id hv
  have hyear : ((y : ℤ) * 12 + ((m : ℤ) - 1) + 0) / 12 = y := by omega
  have hmonth : (((y : ℤ) * 12 + ((m : ℤ) - 1) + 0) % 12).toNat + 1 = m := by omega
  simp only [addMonths, hyear, hmonth, Int.toNat_natCast, min_eq_left hd', ofNumbers]
  rw [dif_pos hv]

/-! ## Moving forward -/

theorem ofNumbers_eq_some {year : ℤ} {month day : ℕ} {e : Date}
    (h : ofNumbers year month day = some e) :
    e.year = year.toNat ∧ e.month = month ∧ e.day = day := by
  obtain ⟨hv, heq⟩ := Option.dite_none_right_eq_some.mp h
  rw [← Option.some.inj heq]
  exact ⟨rfl, rfl, rfl⟩

/-- The following day has a greater number, by at most two months' worth. -/
theorem next_index {d e : Date} (h : d.next = some e) :
    d.index < e.index ∧ e.index ≤ d.index + 64 := by
  have hday := d.valid.2.2
  have hmonth := d.valid.2.1
  have hlength := daysInMonth_le d.year d.month
  unfold next at h
  unfold index
  split at h
  · obtain ⟨hy, hm, hd⟩ := ofNumbers_eq_some h
    rw [Int.toNat_natCast] at hy
    omega
  · split at h
    · obtain ⟨hy, hm, hd⟩ := ofNumbers_eq_some h
      rw [Int.toNat_natCast] at hy
      omega
    · obtain ⟨hy, hm, hd⟩ := ofNumbers_eq_some h
      omega

/-- The calendar does not end before a date that is far enough ahead. -/
theorem exists_next {d e : Date} (h : d.index + 64 ≤ e.index) : ∃ d', d.next = some d' := by
  have hv := d.valid
  have hv' := e.valid
  have hlength := daysInMonth_le e.year e.month
  simp only [index] at h
  unfold next
  split
  · rename_i hday
    refine ⟨_, dif_pos ?_⟩
    simp only [Int.toNat_natCast]
    omega
  · split
    · have hone := one_le_daysInMonth d.year (d.month + 1)
      refine ⟨_, dif_pos ?_⟩
      simp only [Int.toNat_natCast]
      omega
    · have hyear : ((d.year : ℤ) + 1).toNat = d.year + 1 := by omega
      have hone := one_le_daysInMonth (d.year + 1) 1
      refine ⟨_, dif_pos ?_⟩
      rw [hyear]
      omega

theorem addDays_succ {d e : Date} {n : ℕ} :
    d.addDays (n + 1) = some e ↔ ∃ d', d.addDays n = some d' ∧ d'.next = some e := by
  rw [addDays, Option.bind_eq_some_iff]

/-- When a day is reached, so is every day before it, and it is earlier. -/
theorem addDays_lt {d e : Date} {m n : ℕ} (hmn : m < n) (h : d.addDays n = some e) :
    ∃ d', d.addDays m = some d' ∧ d' < e := by
  induction n generalizing e with
  | zero => exact absurd hmn (Nat.not_lt_zero m)
  | succ n ih =>
    obtain ⟨d', hd', hnext⟩ := addDays_succ.mp h
    have hlt : d' < e := lt_def.mpr (next_index hnext).1
    rcases Nat.lt_succ_iff_lt_or_eq.mp hmn with hlt' | rfl
    · obtain ⟨d'', hd'', hlt''⟩ := ih hlt' hd'
      exact ⟨d'', hd'', hlt''.trans hlt⟩
    · exact ⟨d', hd', hlt⟩

/-- Some days later the calendar has not passed a date that is far enough ahead. -/
theorem exists_addDays {d e : Date} {n : ℕ} (h : d.index + 64 * n ≤ e.index) :
    ∃ d', d.addDays n = some d' ∧ d'.index ≤ d.index + 64 * n := by
  induction n with
  | zero => exact ⟨d, rfl, le_rfl⟩
  | succ n ih =>
    obtain ⟨d', hd', hle⟩ := ih (by omega)
    obtain ⟨d'', hd''⟩ := exists_next (d := d') (e := e) (by omega)
    have hindex := (next_index hd'').2
    exact ⟨d'', addDays_succ.mpr ⟨d', hd', hd''⟩, by omega⟩

/-- Moving by years keeps the month, and the day where the month has it. -/
theorem addMonths_years (d : Date) (v : ℕ) :
    d.addMonths (12 * v) =
      ofNumbers (d.year + v) d.month (min d.day (daysInMonth (d.year + v) d.month)) := by
  have hmonth := d.valid.2.1
  have hyear : ((d.year : ℤ) * 12 + ((d.month : ℤ) - 1) + 12 * v) / 12 = d.year + v := by omega
  have hmonth' : (((d.year : ℤ) * 12 + ((d.month : ℤ) - 1) + 12 * v) % 12).toNat + 1 = d.month := by
    omega
  have hnat : ((d.year : ℤ) + v).toNat = d.year + v := by omega
  simp only [addMonths, hyear, hmonth', hnat]

/-- As many days later is earlier than as many years later. -/
theorem addDays_lt_years {d e : Date} {v : ℕ} (hv : 0 < v)
    (h : d.addMonths (12 * v) = some e) : ∃ d', d.addDays v = some d' ∧ d' < e := by
  rw [addMonths_years] at h
  obtain ⟨hyear, hmonth, hday⟩ := ofNumbers_eq_some h
  have hday' := d.valid.2.2
  have hlength := daysInMonth_le d.year d.month
  have hone := one_le_daysInMonth (d.year + v) d.month
  -- a year has more numbers than as many days can pass
  have hfar : d.index + 64 * v < e.index := by
    unfold index
    rw [hmonth, hday]
    have hnat : e.year = d.year + v := by omega
    rw [hnat]
    omega
  obtain ⟨d', hd', hle⟩ := exists_addDays hfar.le
  exact ⟨d', hd', lt_def.mpr (hle.trans_lt hfar)⟩

example : (addMonths ⟨2025, 1, 31, by decide⟩ 1).map (fun d => (d.year, d.month, d.day)) =
    some (2025, 2, 28) := by decide

example : (addMonths ⟨2025, 3, 31, by decide⟩ (-1)).map (fun d => (d.year, d.month, d.day)) =
    some (2025, 2, 28) := by decide

end Date

end Foundation

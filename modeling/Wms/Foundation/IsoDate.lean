import Wms.Foundation.Ordinal

/-!
# Dates in ISO 8601

A date is written with its month and day, or with its week and the day of the week, with or
without dashes. The reader looks at the first characters of a text of seven, eight or ten bytes
only, so it also reads a date without dashes when something follows it that fills ten bytes.
-/

namespace Foundation.Date

/-- The number that a text starts with, in a number of ASCII digits, and the rest. -/
def readDigits : ℕ → List Char → Option (ℕ × List Char)
  | 0, cs => some (0, cs)
  | _ + 1, [] => none
  | n + 1, c :: cs =>
    if c.isDigit then
      (readDigits n cs).map fun found => ((c.toNat - 0x30) * 10 ^ n + found.1, found.2)
    else none

/-- Skip a dash, where the date is written with dashes. -/
def skipDash (dashes : Bool) (cs : List Char) : Option (List Char) :=
  if dashes then (match cs with
    | '-' :: cs => some cs
    | _ => none)
  else some cs

/-- The day of the week of the first of January, where Monday is 0. -/
def firstWeekday (year : ℕ) : ℕ := (daysBeforeYear year + 7) % 7

/-- Whether the year has such a week. Week 53 is in years that start on a Thursday, and in leap
years that start on a Wednesday. -/
def HasWeek (year week : ℕ) : Prop :=
  (1 ≤ week ∧ week ≤ 52) ∨
    (week = 53 ∧ (firstWeekday year = 3 ∨ (firstWeekday year = 2 ∧ isLeap year = true)))

instance (year week : ℕ) : Decidable (HasWeek year week) := inferInstanceAs (Decidable (_ ∨ _))

/-- The date of a day of a week. The first week of a year is the one that has its first
Thursday. -/
def ofWeek (year week day : ℕ) : Option Date :=
  if HasWeek year week ∧ 1 ≤ day ∧ day ≤ 7 then
    (ofNumbers year 1 1).bind fun first =>
      let days := (week - 1) * 7 + (day - 1)
      if firstWeekday year ≤ 3 then
        if firstWeekday year ≤ days then first.addDays (days - firstWeekday year)
        else first.subDays (firstWeekday year - days)
      else first.addDays (days + (7 - firstWeekday year))
  else none

/-- What follows the year: a week with or without a day, or a month and a day. -/
def readRest (year : ℕ) (dashes : Bool) (cs : List Char) : Option Date :=
  match cs with
  | 'W' :: cs =>
    (readDigits 2 cs).bind fun week =>
      if week.2 = [] then ofWeek year week.1 1
      else (skipDash dashes week.2).bind fun cs =>
        (readDigits 1 cs).bind fun day => ofWeek year week.1 day.1
  | cs =>
    (readDigits 2 cs).bind fun month =>
      (skipDash dashes month.2).bind fun cs =>
        (readDigits 2 cs).bind fun day => ofNumbers year month.1 day.1

/-- The bytes of a text in UTF-8. -/
def byteCount (cs : List Char) : ℕ := (cs.map Char.utf8Size).sum

/-- `date.fromisoformat`. -/
def fromIsoformat (s : String) : Option Date :=
  let cs := s.toList
  if byteCount cs ∈ [7, 8, 10] then
    (readDigits 4 cs).bind fun year =>
      match year.2 with
      | '-' :: cs => readRest year.1 true cs
      | cs => readRest year.1 false cs
  else none

/-- Digits are taken from the front. -/
theorem length_of_readDigits {n m : ℕ} {cs rest : List Char}
    (h : readDigits n cs = some (m, rest)) : cs.length = rest.length + n := by
  induction n generalizing cs m with
  | zero =>
    cases h
    rfl
  | succ n ih =>
    cases cs with
    | nil => cases h
    | cons c cs =>
      unfold readDigits at h
      split at h
      · obtain ⟨found, hfound, heq⟩ := Option.map_eq_some_iff.mp h
        cases heq
        have hlength := ih hfound
        rw [List.length_cons]
        omega
      · cases h

theorem length_of_skipDash {dashes : Bool} {cs rest : List Char}
    (h : skipDash dashes cs = some rest) : rest.length ≤ cs.length := by
  unfold skipDash at h
  split at h
  · split at h
    · cases h
      simp
    · cases h
  · cases h
    exact le_rfl

theorem three_le_of_readRest {year : ℕ} {dashes : Bool} {cs : List Char} {d : Date}
    (h : readRest year dashes cs = some d) : 3 ≤ cs.length := by
  unfold readRest at h
  split at h
  · obtain ⟨week, hweek, -⟩ := Option.bind_eq_some_iff.mp h
    have hlength := length_of_readDigits hweek
    rw [List.length_cons]
    omega
  · obtain ⟨month, hmonth, h⟩ := Option.bind_eq_some_iff.mp h
    obtain ⟨cs, hdash, h⟩ := Option.bind_eq_some_iff.mp h
    obtain ⟨day, hday, -⟩ := Option.bind_eq_some_iff.mp h
    have hmonth := length_of_readDigits hmonth
    have hdash := length_of_skipDash hdash
    have hday := length_of_readDigits hday
    omega

/-- No date is written in fewer than seven characters. -/
theorem seven_le_of_fromIsoformat {s : String} {d : Date} (h : fromIsoformat s = some d) :
    7 ≤ s.length := by
  unfold fromIsoformat at h
  dsimp only at h
  split at h
  · obtain ⟨year, hyear, h⟩ := Option.bind_eq_some_iff.mp h
    have hlength := length_of_readDigits hyear
    rw [String.length_toList] at hlength
    split at h
    · have hrest := three_le_of_readRest h
      rename_i hcs
      rw [hcs, List.length_cons] at hlength
      omega
    · have hrest := three_le_of_readRest h
      omega
  · cases h

example : (fromIsoformat "2025-12-31").map index = (ofNumbers 2025 12 31).map index ∧
    (fromIsoformat "2025-W01").map index = (ofNumbers 2024 12 30).map index ∧
    (fromIsoformat "2020W537").map index = (ofNumbers 2021 1 3).map index ∧
    (fromIsoformat "2025123199").map index = (ofNumbers 2025 12 31).map index ∧
    fromIsoformat "251231" = none := by
  decide +kernel

end Foundation.Date

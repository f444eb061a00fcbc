import Wms.Foundation.Calendar

/-!
# Days between dates

Dates are numbered from the first day of the calendar, and two dates differ by the difference
of their numbers. Moving a date by days and moving it back are inverse; moving it by months
keeps the order of dates, and moving it back loses at most the days by which months differ in
length. The days of a period are walked one by one.
-/

namespace Foundation.Date

/-- The days of the years before. -/
def daysBeforeYear (year : ℕ) : ℕ :=
  (year - 1) * 365 + (year - 1) / 4 - (year - 1) / 100 + (year - 1) / 400

/-- The days of the months before, in the same year. -/
def daysBeforeMonth (year month : ℕ) : ℕ :=
  ((List.range (month - 1)).map fun i => daysInMonth year (i + 1)).sum

/-- The number of a date; the first day of the calendar has the number 1. -/
def toOrdinal (d : Date) : ℕ := daysBeforeYear d.year + daysBeforeMonth d.year d.month + d.day

/-- The days from the second date to the first. -/
def daysSince (d e : Date) : ℤ := d.toOrdinal - e.toOrdinal

variable {d e d' e' : Date} {n : ℕ} {m : ℤ}

@[simp] theorem daysSince_self (d : Date) : d.daysSince d = 0 := sub_self _

/-- Within a month the days differ as their numbers do. -/
theorem daysSince_of_same_month (hyear : d.year = e.year) (hmonth : d.month = e.month) :
    d.daysSince e = d.day - e.day := by
  unfold daysSince toOrdinal
  rw [hyear, hmonth]
  omega

/-! ## Days -/

theorem ofNumbers_of_valid {year : ℤ} {month day : ℕ} (d : Date) (hyear : year.toNat = d.year)
    (hmonth : month = d.month) (hday : day = d.day) : ofNumbers year month day = some d := by
  obtain ⟨y, m, dd, hv⟩ := d
  obtain rfl : year.toNat = y := hyear
  obtain rfl : month = m := hmonth
  obtain rfl : day = dd := hday
  exact dif_pos hv

/-- The day after the day before is the day itself. -/
theorem next_of_prev (h : d.prev = some e) : e.next = some d := by
  have hmonth := d.valid.2.1
  have hday := d.valid.2.2
  have hyear := d.valid.1
  unfold prev at h
  unfold next
  split at h
  · obtain ⟨hy, hm, hd⟩ := ofNumbers_eq_some h
    rw [Int.toNat_natCast] at hy
    rw [hy, hm, if_pos (by omega)]
    apply ofNumbers_of_valid d (by simp) rfl
    omega
  · split at h
    · obtain ⟨hy, hm, hd⟩ := ofNumbers_eq_some h
      rw [Int.toNat_natCast] at hy
      rw [hy, hm, if_neg (by omega), if_pos (by omega)]
      apply ofNumbers_of_valid d (by simp)
      · omega
      · omega
    · have hvalid := e.valid.1
      obtain ⟨hy, hm, hd⟩ := ofNumbers_eq_some h
      have hlength : daysInMonth e.year 12 = 31 := by simp [daysInMonth]
      rw [hm, hd, hlength, if_neg (by omega), if_neg (by omega)]
      apply ofNumbers_of_valid d
      · omega
      · omega
      · omega

theorem addDays_succ_left : d.addDays (n + 1) = d.next.bind fun d' => d'.addDays n := by
  induction n with
  | zero => simp [addDays]
  | succ n ih =>
    rw [addDays, ih]
    cases d.next with
    | none => rfl
    | some d' => rfl

/-- Going back some days can be undone. -/
theorem addDays_of_subDays (h : d.subDays n = some e) : e.addDays n = some d := by
  induction n generalizing e with
  | zero =>
    obtain rfl := Option.some.inj h
    rfl
  | succ n ih =>
    obtain ⟨d', hd', hprev⟩ := Option.bind_eq_some_iff.mp h
    rw [addDays_succ_left, next_of_prev hprev]
    exact ih hd'

theorem le_of_addDays (h : d.addDays n = some e) : d ≤ e := by
  cases n with
  | zero =>
    obtain rfl := Option.some.inj h
    exact le_rfl
  | succ n =>
    obtain ⟨d', hd', hlt⟩ := addDays_lt (Nat.succ_pos n) h
    obtain rfl := Option.some.inj hd'
    exact hlt.le

/-- No date lies between a date and the following one. -/
theorem next_le_of_lt (hlt : d < e) (h : d.next = some d') : d' ≤ e := by
  have hmonth := d.valid.2.1
  have hday := d.valid.2.2
  have hmonth' := e.valid.2.1
  have hday' := e.valid.2.2
  have hlength := daysInMonth_le e.year e.month
  have hlength' := daysInMonth_le d.year d.month
  rw [lt_def] at hlt
  rw [le_def]
  unfold index at hlt ⊢
  unfold next at h
  -- a later day of the same month is within the length of the month
  have hsame : d.year = e.year → d.month = e.month →
      daysInMonth e.year e.month = daysInMonth d.year d.month := by
    intro hy hm
    rw [hy, hm]
  split at h
  · obtain ⟨hy, hm, hd⟩ := ofNumbers_eq_some h
    rw [Int.toNat_natCast] at hy
    omega
  · split at h
    · obtain ⟨hy, hm, hd⟩ := ofNumbers_eq_some h
      rw [Int.toNat_natCast] at hy
      by_cases hyears : d.year = e.year
      · by_cases hmonths : d.month = e.month
        · have := hsame hyears hmonths
          rw [hyears, hmonths] at hlt
          omega
        · omega
      · omega
    · obtain ⟨hy, hm, hd⟩ := ofNumbers_eq_some h
      by_cases hyears : d.year = e.year
      · by_cases hmonths : d.month = e.month
        · have := hsame hyears hmonths
          rw [hyears, hmonths] at hlt
          omega
        · omega
      · omega

/-- Moving by days keeps the order. -/
theorem addDays_mono (hle : d ≤ e) (hd : d.addDays n = some d') (he : e.addDays n = some e') :
    d' ≤ e' := by
  induction n generalizing d' e' with
  | zero =>
    obtain rfl := Option.some.inj hd
    obtain rfl := Option.some.inj he
    exact hle
  | succ n ih =>
    obtain ⟨d₁, hd₁, hdnext⟩ := addDays_succ.mp hd
    obtain ⟨e₁, he₁, henext⟩ := addDays_succ.mp he
    rcases eq_or_lt_of_le (ih hd₁ he₁) with rfl | hlt
    · rw [hdnext] at henext
      exact (Option.some.inj henext).le
    · exact (next_le_of_lt hlt hdnext).trans (lt_def.mpr (next_index henext).1).le

/-! ## Months -/

/-- The months from the beginning of the calendar, and the day of the month as far as the month
has it. -/
theorem addMonths_eq_some : d.addMonths m = some e ↔
    (e.year : ℤ) * 12 + e.month = d.year * 12 + d.month + m ∧
      e.day = min d.day (daysInMonth e.year e.month) := by
  have hmonth := d.valid.2.1
  have hmonth' := e.valid.2.1
  have hyear' := e.valid.1
  unfold addMonths
  simp only
  constructor
  · intro h
    obtain ⟨hy, hm, hd⟩ := ofNumbers_eq_some h
    refine ⟨by omega, ?_⟩
    rw [hd, hy, hm]
  · rintro ⟨htotal, hd⟩
    have hy : (((d.year : ℤ) * 12 + ((d.month : ℤ) - 1) + m) / 12).toNat = e.year := by omega
    have hm : (((d.year : ℤ) * 12 + ((d.month : ℤ) - 1) + m) % 12).toNat + 1 = e.month := by omega
    apply ofNumbers_of_valid e hy hm
    rw [hy, hm, hd]

/-- A later month is later. -/
theorem lt_of_months_lt (h : (d.year : ℤ) * 12 + d.month < e.year * 12 + e.month) : d < e := by
  have hlength := daysInMonth_le d.year d.month
  have hday := d.valid.2.2
  have hmonth := d.valid.2.1
  have hmonth' := e.valid.2.1
  rw [lt_def]
  unfold index
  omega

/-- Moving by months keeps the order. -/
theorem addMonths_mono (hle : d ≤ e) (hd : d.addMonths m = some d') (he : e.addMonths m = some e') :
    d' ≤ e' := by
  obtain ⟨hdtotal, hdday⟩ := addMonths_eq_some.mp hd
  obtain ⟨hetotal, heday⟩ := addMonths_eq_some.mp he
  have hmonth := d'.valid.2.1
  have hmonth' := e'.valid.2.1
  have hdmonth := d.valid.2.1
  have hemonth := e.valid.2.1
  have hdlength := daysInMonth_le d.year d.month
  have helength := daysInMonth_le e.year e.month
  have hddays := d.valid.2.2
  have hedays := e.valid.2.2
  rw [le_def] at hle
  unfold index at hle
  rcases lt_trichotomy ((d'.year : ℤ) * 12 + d'.month) (e'.year * 12 + e'.month) with
    hlt | heq | hgt
  · exact (lt_of_months_lt hlt).le
  · -- the months are the same, so are those of the results
    have hyears : d'.year = e'.year := by omega
    have hmonths : d'.month = e'.month := by omega
    have hdays : d.day ≤ e.day := by omega
    rw [le_def]
    unfold index
    rw [hdday, heday, hyears, hmonths]
    omega
  · omega

/-- Moving back by months and forth again ends in the same month, at most three days earlier. -/
theorem addMonths_neg_addMonths (h : d.addMonths (-m) = some e) :
    ∃ d', e.addMonths m = some d' ∧ 0 ≤ d.daysSince d' ∧ d.daysSince d' ≤ 3 := by
  obtain ⟨htotal, hday⟩ := addMonths_eq_some.mp h
  have hd := d.valid.2.2
  have hlength := daysInMonth_le d.year d.month
  have hshort : ∀ year month, 28 ≤ daysInMonth year month := by
    intro year month
    unfold daysInMonth
    split
    · split <;> omega
    · split <;> omega
  have hvalid : (1 ≤ d.year ∧ d.year ≤ 9999) ∧ (1 ≤ d.month ∧ d.month ≤ 12) ∧
      1 ≤ min e.day (daysInMonth d.year d.month) ∧
        min e.day (daysInMonth d.year d.month) ≤ daysInMonth d.year d.month := by
    have he := e.valid.2.2
    have hd' := one_le_daysInMonth d.year d.month
    exact ⟨d.valid.1, d.valid.2.1, by omega, by omega⟩
  have hmin := hshort e.year e.month
  have hsince : d.daysSince ⟨d.year, d.month, min e.day (daysInMonth d.year d.month), hvalid⟩ =
      d.day - (min e.day (daysInMonth d.year d.month) : ℕ) := daysSince_of_same_month rfl rfl
  refine ⟨⟨d.year, d.month, min e.day (daysInMonth d.year d.month), hvalid⟩,
    addMonths_eq_some.mpr ⟨by simp only; omega, rfl⟩, ?_⟩
  rw [hsince]
  omega

/-! ## The days of a period -/

/-- The days from a date to another one, at most so many. -/
def seriesTo (last : Date) : ℕ → Date → List Date
  | 0, _ => []
  | n + 1, d =>
    if d ≤ last then d :: (match d.next with
      | none => []
      | some e => seriesTo last n e)
    else []

/-- The days from a date to another one, which are none where the other one is earlier. -/
def generateSeries (first last : Date) : List Date :=
  seriesTo last (last.index + 1 - first.index) first

/-- A later date has the following day before it. -/
theorem exists_next_of_lt (h : d < e) : ∃ d', d.next = some d' := by
  have hv := d.valid
  have hv' := e.valid
  have hlength := daysInMonth_le e.year e.month
  rw [lt_def] at h
  unfold index at h
  unfold next
  split
  · refine ⟨_, dif_pos ?_⟩
    simp only [Int.toNat_natCast]
    omega
  · split
    · have hone := one_le_daysInMonth d.year (d.month + 1)
      refine ⟨_, dif_pos ?_⟩
      simp only [Int.toNat_natCast]
      omega
    · have hyear : ((d.year : ℤ) + 1).toNat = d.year + 1 := by omega
      have hone := one_le_daysInMonth (d.year + 1) 1
      have hdecember : daysInMonth d.year d.month = 31 := by
        have : d.month = 12 := by omega
        rw [this]
        rfl
      refine ⟨_, dif_pos ?_⟩
      rw [hyear]
      omega

theorem mem_seriesTo {last : Date} (hn : last.index < d.index + n) :
    e ∈ seriesTo last n d ↔ d ≤ e ∧ e ≤ last := by
  induction n generalizing d with
  | zero =>
    have hlt : last < d := lt_def.mpr (by omega)
    simp only [seriesTo, List.not_mem_nil, false_iff]
    exact fun h => absurd (h.1.trans h.2) (not_le.mpr hlt)
  | succ n ih =>
    rw [seriesTo]
    split
    · rename_i hle
      rw [List.mem_cons]
      cases hnext : d.next with
      | none =>
        have hend : ¬d < e := fun hlt => by
          obtain ⟨d', hd'⟩ := exists_next_of_lt hlt
          rw [hnext] at hd'
          cases hd'
        simp only [List.not_mem_nil, or_false]
        constructor
        · rintro rfl
          exact ⟨le_rfl, hle⟩
        · rintro ⟨hge, -⟩
          exact le_antisymm (not_lt.mp hend) hge
      | some d' =>
        have hlt := next_index hnext
        rw [ih (by omega)]
        constructor
        · rintro (rfl | ⟨hge, hle'⟩)
          · exact ⟨le_rfl, hle⟩
          · exact ⟨(lt_def.mpr hlt.1).le.trans hge, hle'⟩
        · rintro ⟨hge, hle'⟩
          rcases hge.eq_or_lt with rfl | hgt
          · exact .inl rfl
          · exact .inr ⟨next_le_of_lt hgt hnext, hle'⟩
    · rename_i hgt
      simp only [List.not_mem_nil, false_iff]
      exact fun h => hgt (h.1.trans h.2)

theorem seriesTo_pairwise {last : Date} : (seriesTo last n d).Pairwise (· < ·) ∧
    ∀ e ∈ seriesTo last n d, d ≤ e := by
  induction n generalizing d with
  | zero => simp [seriesTo]
  | succ n ih =>
    rw [seriesTo]
    split
    · cases hnext : d.next with
      | none => simp
      | some d' =>
        have hlt : d < d' := lt_def.mpr (next_index hnext).1
        obtain ⟨hsorted, hfrom⟩ := @ih d'
        refine ⟨List.pairwise_cons.mpr ⟨fun e he => hlt.trans_le (hfrom e he), hsorted⟩, ?_⟩
        intro e he
        rcases List.mem_cons.mp he with rfl | he
        · exact le_rfl
        · exact hlt.le.trans (hfrom e he)
    · simp

/-- The days of a period are those that are not before its beginning and not after its end. -/
theorem mem_generateSeries {first last : Date} :
    e ∈ generateSeries first last ↔ first ≤ e ∧ e ≤ last :=
  mem_seriesTo (by omega)

theorem nodup_generateSeries (first last : Date) : (generateSeries first last).Nodup :=
  seriesTo_pairwise.1.imp fun h => h.ne

end Foundation.Date

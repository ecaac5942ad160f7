import ParentalCoord.Calendar

/-!
The months of the calendar, counted.

A month is a number: twelve times its year, and its place in the year from zero on.  The
days of a month are those from its first day to the first of the next one, and a day that
is written as a date is read back as the same date.
-/

namespace ParentalCoord

/-- The first day of a month. -/
def monthStart (month : ℤ) : ℤ := dayOfCivil (month / 12) ((month % 12).toNat + 1) 1

/-- The month that a day is in. -/
def monthOfDay (day : ℤ) : ℤ := (civilOfDay day).1 * 12 + (civilOfDay day).2.1 - 1

/-- The month of an instant, in UTC. -/
def monthOf (instant : Instant) : ℤ := monthOfDay (instant / 86400000)

theorem dayOfCivil_day {year : ℤ} {month day : ℕ} (positive : 1 ≤ day) :
    dayOfCivil year month day = dayOfCivil year month 1 + (day - 1) := by
  simp only [dayOfCivil]
  omega

theorem monthStart_of_date (year : ℤ) {month : ℕ} (first : 1 ≤ month) (last : month ≤ 12) :
    monthStart (year * 12 + month - 1) = dayOfCivil year month 1 := by
  have years : (year * 12 + month - 1) / 12 = year := by omega
  have place : ((year * 12 + month - 1) % 12).toNat + 1 = month := by omega
  rw [monthStart, years, place]

/-- From one month of a year to the next one. -/
theorem dayOfCivil_next (year : ℤ) {month : ℕ} (first : 1 ≤ month) (last : month < 12) :
    dayOfCivil year (month + 1) 1 = dayOfCivil year month 1 + daysInMonth year month := by
  by_cases february : month = 2
  · subst february
    by_cases leap : isLeap year
    · simp only [isLeap, decide_eq_true_eq] at leap
      simp only [dayOfCivil, daysInMonth, isLeap, leap]
      norm_num
      omega
    · simp only [daysInMonth, leap]
      simp only [isLeap, decide_eq_true_eq] at leap
      norm_num [dayOfCivil]
      omega
  · interval_cases month
    all_goals first | exact absurd rfl february | (norm_num [dayOfCivil, daysInMonth]; omega)

/-- From one year to the next one. -/
theorem dayOfCivil_next_year (year : ℤ) : dayOfCivil (year + 1) 1 1 = dayOfCivil year 12 1 + 31 := by
  norm_num [dayOfCivil]
  omega

theorem monthStart_succ (year : ℤ) {month : ℕ} (first : 1 ≤ month) (last : month ≤ 12) :
    monthStart (year * 12 + month - 1 + 1) =
      monthStart (year * 12 + month - 1) + daysInMonth year month := by
  rw [monthStart_of_date year first last]
  by_cases december : month = 12
  · subst december
    have next : year * 12 + (12 : ℕ) - 1 + 1 = (year + 1) * 12 + (1 : ℕ) - 1 := by omega
    have days : daysInMonth year 12 = 31 := rfl
    rw [next, monthStart_of_date (year + 1) (Nat.le_refl 1) (by decide), dayOfCivil_next_year, days]
    rfl
  · have next : year * 12 + month - 1 + 1 = year * 12 + (month + 1 : ℕ) - 1 := by omega
    rw [next, monthStart_of_date year (Nat.le_add_left 1 month) (by omega)]
    exact dayOfCivil_next year first (by omega)

theorem daysInMonth_pos (year : ℤ) (month : ℕ) : 0 < daysInMonth year month := by
  unfold daysInMonth
  split_ifs <;> decide

theorem exists_date_of_month (month : ℤ) :
    ∃ (year : ℤ) (place : ℕ), 1 ≤ place ∧ place ≤ 12 ∧ month = year * 12 + place - 1 :=
  ⟨month / 12, (month % 12).toNat + 1, by omega, by omega, by omega⟩

theorem daysInMonth_ge (year : ℤ) (month : ℕ) : 28 ≤ daysInMonth year month := by
  unfold daysInMonth
  split_ifs <;> decide

theorem monthStart_add_le (month : ℤ) : monthStart month + 28 ≤ monthStart (month + 1) := by
  obtain ⟨year, place, first, last, rfl⟩ := exists_date_of_month month
  have days := daysInMonth_ge year place
  rw [monthStart_succ year first last]
  omega

theorem monthStart_lt_iff {month later : ℤ} : monthStart month < monthStart later ↔ month < later := by
  have increasing : StrictMono monthStart := by
    apply strictMono_int_of_lt_succ
    intro month
    have next := monthStart_add_le month
    omega
  exact increasing.lt_iff_lt

theorem monthStart_mono {month later : ℤ} (le : month ≤ later) : monthStart month ≤ monthStart later := by
  apply Int.not_lt.mp
  intro back
  exact Int.not_lt.mpr le (monthStart_lt_iff.mp back)

/-- A day lies between the first of its month and the first of the next one. -/
theorem monthOfDay_spec (day : ℤ) :
    monthStart (monthOfDay day) ≤ day ∧ day < monthStart (monthOfDay day + 1) := by
  obtain ⟨month_pos, month_le, day_pos, day_le⟩ := isDate_civilOfDay day
  have back := dayOfCivil_civilOfDay day
  rw [dayOfCivil_day day_pos] at back
  rw [monthOfDay, monthStart_succ _ month_pos month_le, monthStart_of_date _ month_pos month_le]
  omega

theorem monthOfDay_eq_iff {day month : ℤ} :
    monthOfDay day = month ↔ monthStart month ≤ day ∧ day < monthStart (month + 1) := by
  obtain ⟨start, next⟩ := monthOfDay_spec day
  constructor
  · rintro rfl
    exact ⟨start, next⟩
  · rintro ⟨start', next'⟩
    have after := monthStart_lt_iff.mp (start.trans_lt next')
    have before := monthStart_lt_iff.mp (start'.trans_lt next)
    omega

theorem monthOfDay_mono {first second : ℤ} (le : first ≤ second) :
    monthOfDay first ≤ monthOfDay second := by
  have start := (monthOfDay_spec first).1
  have next := (monthOfDay_spec second).2
  have less : monthStart (monthOfDay first) < monthStart (monthOfDay second + 1) := by omega
  have before := monthStart_lt_iff.mp less
  omega

theorem le_monthOf_iff {instant : Instant} {month : ℤ} :
    month ≤ monthOf instant ↔ monthStart month * 86400000 ≤ instant := by
  obtain ⟨start, next⟩ := monthOfDay_spec (instant / 86400000)
  rw [← Int.le_ediv_iff_mul_le (by decide), monthOf]
  constructor
  · intro le
    exact (monthStart_mono le).trans start
  · intro after
    have less : monthStart month < monthStart (monthOfDay (instant / 86400000) + 1) :=
      after.trans_lt next
    have before := monthStart_lt_iff.mp less
    omega

/-- Less than four weeks lead at most into the next month. -/
theorem monthOfDay_near {first second : ℤ} (near : second < first + 28) :
    monthOfDay second ≤ monthOfDay first + 1 := by
  have next := (monthOfDay_spec first).2
  have start := (monthOfDay_spec second).1
  have month := monthStart_add_le (monthOfDay first + 1)
  have less : monthStart (monthOfDay second) < monthStart (monthOfDay first + 1 + 1) := by omega
  have before := monthStart_lt_iff.mp less
  omega

/-- A date that exists is read back off its day. -/
theorem civilOfDay_dayOfCivil {year : ℤ} {month day : ℕ} (date : IsDate year month day) :
    civilOfDay (dayOfCivil year month day) = (year, month, day) := by
  obtain ⟨month_pos, month_le, day_pos, day_le⟩ := date
  have split : dayOfCivil year month day = dayOfCivil year month 1 + (day - 1) :=
    dayOfCivil_day day_pos
  have inside : monthOfDay (dayOfCivil year month day) = year * 12 + month - 1 := by
    rw [monthOfDay_eq_iff, monthStart_succ year month_pos month_le,
      monthStart_of_date year month_pos month_le, split]
    omega
  rw [monthOfDay] at inside
  obtain ⟨month_pos', month_le', day_pos', _⟩ := isDate_civilOfDay (dayOfCivil year month day)
  have back := dayOfCivil_civilOfDay (dayOfCivil year month day)
  generalize civilOfDay (dayOfCivil year month day) = civil at *
  obtain ⟨year', month', day'⟩ := civil
  simp only at inside month_pos' month_le' day_pos' back
  obtain rfl : year' = year := by omega
  obtain rfl : month' = month := by omega
  rw [dayOfCivil_day day_pos', split] at back
  obtain rfl : day' = day := by omega
  rfl

theorem civilOfDay_monthStart {year : ℤ} {month : ℕ} (first : 1 ≤ month) (last : month ≤ 12) :
    civilOfDay (monthStart (year * 12 + month - 1)) = (year, month, 1) := by
  rw [monthStart_of_date year first last]
  exact civilOfDay_dayOfCivil ⟨first, last, Nat.le_refl 1, daysInMonth_pos year month⟩

end ParentalCoord

import Mathlib.Tactic.IntervalCases
import ParentalCoord.Js

/-!
The Gregorian calendar behind the dates of the code.

A day of the count of `civilOfDay` is a date that exists, and the text that an
instant begins with is the text of that date.  So a text that comes back from a
`Date` as it was written is the text of a date that exists.
-/

namespace ParentalCoord

def isLeap (year : ℤ) : Bool := year % 4 = 0 ∧ (year % 100 ≠ 0 ∨ year % 400 = 0)

def daysInMonth (year : ℤ) (month : ℕ) : ℕ :=
  if month = 2 then if isLeap year then 29 else 28
  else if month = 4 ∨ month = 6 ∨ month = 9 ∨ month = 11 then 30 else 31

/-- The date exists in the calendar. -/
structure IsDate (year : ℤ) (month day : ℕ) : Prop where
  month_pos : 1 ≤ month
  month_le : month ≤ 12
  day_pos : 1 ≤ day
  day_le : day ≤ daysInMonth year month

theorem IsDate.day_le_31 {year : ℤ} {month day : ℕ} (date : IsDate year month day) : day ≤ 31 := by
  refine date.day_le.trans ?_
  unfold daysInMonth
  split_ifs <;> decide

/-! ## Days of an era -/

/-- A day of an era by centuries, spans of four years, years and days.  Only the
last day of a leap year is the 366th of its year. -/
theorem exists_day_parts (dayOfEra : ℕ) (within : dayOfEra < 146097) :
    ∃ century quad year day, dayOfEra = 36524 * century + 1461 * quad + 365 * year + day ∧
      century < 4 ∧ quad < 25 ∧ year < 4 ∧
      (day < 365 ∨ day = 365 ∧ year = 3 ∧ (quad < 24 ∨ century = 3)) := by
  let century := min (dayOfEra / 36524) 3
  let inCentury := dayOfEra - 36524 * century
  let quad := inCentury / 1461
  let inQuad := inCentury - 1461 * quad
  let year := min (inQuad / 365) 3
  refine ⟨century, quad, year, inQuad - 365 * year, ?_⟩
  omega

theorem yearOfEra_of_parts {century quad year day : ℕ} (century_lt : century < 4)
    (quad_lt : quad < 25) (year_lt : year < 4)
    (short : day < 365 ∨ day = 365 ∧ year = 3 ∧ (quad < 24 ∨ century = 3)) {dayOfEra : ℕ}
    (parts : dayOfEra = 36524 * century + 1461 * quad + 365 * year + day) :
    (dayOfEra - dayOfEra / 1460 + dayOfEra / 36524 - dayOfEra / 146096) / 365 =
      100 * century + 4 * quad + year := by
  have centuries : dayOfEra / 36524 = century + dayOfEra / 146096 := by
    obtain inside | ⟨last, full⟩ : 1461 * quad + 365 * year + day < 36524 ∨
        century = 3 ∧ 1461 * quad + 365 * year + day = 36524 := by omega
    · have before : dayOfEra / 36524 = century := by omega
      have whole : dayOfEra / 146096 = 0 := by omega
      omega
    · omega
  have quads : dayOfEra / 1460 =
      25 * century + quad + (24 * century + quad + 365 * year + day) / 1460 := by omega
  obtain first | second | third | fourth :
      year = 0 ∨ year = 1 ∨ year = 2 ∨ year = 3 := by omega
  all_goals omega

/-- The months of a year that begins in March. -/
theorem day_of_month_le (dayOfYear : ℕ) (within : dayOfYear ≤ 365) (year : ℤ)
    (leap : dayOfYear = 365 → isLeap (year + 1)) :
    let month := (5 * dayOfYear + 2) / 153
    month ≤ 11 ∧ dayOfYear - (153 * month + 2) / 5 + 1 ≤
      daysInMonth (if month < 10 then year else year + 1)
        (if month < 10 then month + 3 else month - 9) := by
  intro month
  have month_le : month ≤ 11 := by omega
  refine ⟨month_le, ?_⟩
  generalize named : month = m at month_le
  have bounds : 153 * m ≤ 5 * dayOfYear + 2 ∧ 5 * dayOfYear + 2 < 153 * m + 153 := by omega
  interval_cases m <;> simp [daysInMonth] <;> try omega
  split
  · omega
  · rename_i plain
    have before : dayOfYear ≠ 365 := fun last => plain (leap last)
    omega

/-- A year of an era with 366 days ends in a leap year. -/
theorem isLeap_of_last {century quad : ℕ} (era : ℤ) (quad_lt : quad < 25)
    (full : quad < 24 ∨ century = 3) :
    isLeap ((100 * century + 4 * quad + 3 : ℕ) + era * 400 + 1) := by
  simp only [isLeap, decide_eq_true_eq]
  omega

/-- The date of the day of a year of an era that begins in March. -/
def marchDate (era : ℤ) (yearOfEra dayOfYear : ℕ) : ℤ × ℕ × ℕ :=
  let month := (5 * dayOfYear + 2) / 153
  let year := (yearOfEra : ℤ) + era * 400
  (if month < 10 then year else year + 1,
    if month < 10 then month + 3 else month - 9,
    dayOfYear - (153 * month + 2) / 5 + 1)

/-- Every day of the count by its era, its year in it and its day in that. -/
theorem exists_civilOfDay (day : ℤ) : ∃ (era : ℤ) (yearOfEra dayOfYear : ℕ), yearOfEra < 400 ∧
    dayOfYear ≤ 365 ∧ (dayOfYear = 365 → isLeap (yearOfEra + era * 400 + 1)) ∧
    day + 719468 = era * 146097 +
      (365 * yearOfEra + yearOfEra / 4 - yearOfEra / 100 + dayOfYear : ℕ) ∧
    civilOfDay day = marchDate era yearOfEra dayOfYear := by
  obtain ⟨century, quad, year, rest, parts, century_lt, quad_lt, year_lt, short⟩ :=
    exists_day_parts ((day + 719468) % 146097).toNat (by omega)
  have years := yearOfEra_of_parts century_lt quad_lt year_lt short parts
  have quarters : (100 * century + 4 * quad + year) / 4 = 25 * century + quad := by omega
  have hundreds : (100 * century + 4 * quad + year) / 100 = century := by omega
  have days : 365 * (100 * century + 4 * quad + year) + (100 * century + 4 * quad + year) / 4 -
      (100 * century + 4 * quad + year) / 100 + rest = ((day + 719468) % 146097).toNat := by
    rw [quarters, hundreds, parts]
    omega
  have dayOfYear : ((day + 719468) % 146097).toNat -
      (365 * (100 * century + 4 * quad + year) + (100 * century + 4 * quad + year) / 4 -
        (100 * century + 4 * quad + year) / 100) = rest := by
    rw [← days, Nat.add_sub_cancel_left]
  refine ⟨(day + 719468) / 146097, 100 * century + 4 * quad + year, rest, by omega, by omega, ?_, ?_, ?_⟩
  · intro last
    obtain less | ⟨-, rfl, full⟩ := short
    · omega
    · exact isLeap_of_last _ quad_lt full
  · rw [days, Int.toNat_of_nonneg (Int.emod_nonneg _ (by decide))]
    exact (Int.ediv_mul_add_emod _ _).symm
  · simp only [civilOfDay, years, dayOfYear, marchDate]

/-- Every day of the count is a date that exists. -/
theorem isDate_civilOfDay (day : ℤ) :
    IsDate (civilOfDay day).1 (civilOfDay day).2.1 (civilOfDay day).2.2 := by
  obtain ⟨era, yearOfEra, dayOfYear, -, within, leap, -, same⟩ := exists_civilOfDay day
  obtain ⟨month_le, day_le⟩ := day_of_month_le dayOfYear within (yearOfEra + era * 400) leap
  rw [same]
  refine ⟨?_, ?_, Nat.le_add_left 1 _, day_le⟩
  all_goals
    simp only [marchDate]
    split <;> omega

/-- The day of a date that was read off a day is that day. -/
theorem dayOfCivil_civilOfDay (day : ℤ) :
    dayOfCivil (civilOfDay day).1 (civilOfDay day).2.1 (civilOfDay day).2.2 = day := by
  obtain ⟨era, yearOfEra, dayOfYear, year_lt, within, -, sum, same⟩ := exists_civilOfDay day
  rw [same]
  obtain ⟨month, named⟩ : ∃ month, (5 * dayOfYear + 2) / 153 = month := ⟨_, rfl⟩
  simp only [marchDate, dayOfCivil, named]
  have era_back : ((yearOfEra : ℤ) + era * 400) / 400 = era := by omega
  have year_back : ((yearOfEra : ℤ) + era * 400) % 400 = yearOfEra := by omega
  have day_back : (153 * month + 2) / 5 + (dayOfYear - (153 * month + 2) / 5 + 1) - 1 = dayOfYear := by
    omega
  by_cases early : month < 10
  · have later : ¬month + 3 ≤ 2 := by omega
    have spring : 2 < month + 3 := by omega
    simp only [early, later, spring, ↓reduceIte, Nat.add_sub_cancel, day_back, era_back, year_back]
    omega
  · have first : month - 9 ≤ 2 := by omega
    have winter : ¬2 < month - 9 := by omega
    have month_back : month - 9 + 9 = month := by omega
    simp only [early, first, winter, ↓reduceIte, add_sub_cancel_right, month_back, day_back, era_back,
      year_back]
    omega

/-! ## Texts -/

/-- `YYYY-MM-DD`. -/
def dateText (year month day : ℕ) : String :=
  padded 4 year ++ "-" ++ padded 2 month ++ "-" ++ padded 2 day

theorem length_padded {width value : ℕ} (fits : value < 10 ^ width) (some_width : 0 < width) :
    (padded width value).length = width := by
  have short : (Nat.repr value).length ≤ width := (Nat.length_repr_le_iff some_width).mpr fits
  simp only [padded, String.length_append, String.length_ofList, List.length_replicate]
  omega

theorem length_dateText {year month day : ℕ} (year_le : year ≤ 9999) (date : IsDate year month day) :
    (dateText year month day).length = 10 := by
  have day_le := date.day_le_31
  have month_le := date.month_le
  simp only [dateText, String.length_append]
  rw [length_padded (by omega) (by decide), length_padded (by omega) (by decide),
    length_padded (by omega) (by decide)]
  rfl

theorem isDigit_of_mem_padded {width value : ℕ} {c : Char} (member : c ∈ (padded width value).toList) :
    c.isDigit := by
  simp only [padded, String.toList_append, String.toList_ofList, List.mem_append] at member
  rcases member with zero | digit
  · rw [(List.mem_replicate.mp zero).2]
    rfl
  · exact Numbers.Literal.isDigit_digitsOf digit

theorem ofDigitChars_padded (width value : ℕ) : Nat.ofDigitChars 10 (padded width value).toList 0 = value := by
  simp only [padded, String.toList_append, String.toList_ofList, Nat.ofDigitChars_append,
    Nat.ofDigitChars_replicate_zero, Nat.toList_repr, Nat.mul_zero]
  exact Nat.ofDigitChars_ten_toDigits

theorem decimal_padded (width value : ℕ) : decimal (padded width value).toList = some value := by
  have digits : (padded width value).toList.all Char.isDigit :=
    List.all_eq_true.mpr fun c member => isDigit_of_mem_padded member
  have read := ofDigitChars_padded width value
  rw [decimal, if_pos digits]
  rw [Nat.ofDigitChars_eq_foldl] at read
  simpa [Nat.mul_comm] using read

theorem padded_injective {width first second : ℕ} (same : padded width first = padded width second) :
    first = second := by
  have read := decimal_padded width first
  rw [same, decimal_padded] at read
  exact (Option.some.inj read).symm

/-- The years that are written with four digits. -/
theorem year_of_day {day : ℤ} (first : dayOfCivil 0 1 1 ≤ day) (last : day ≤ dayOfCivil 9999 12 31) :
    0 ≤ (civilOfDay day).1 ∧ (civilOfDay day).1 ≤ 9999 := by
  obtain ⟨era, yearOfEra, dayOfYear, year_lt, within, -, sum, same⟩ := exists_civilOfDay day
  have low : dayOfCivil 0 1 1 = -719528 := by decide
  have high : dayOfCivil 9999 12 31 = 2932896 := by decide
  rw [same]
  simp only [marchDate]
  obtain rfl | inside | rfl : era = -1 ∨ 0 ≤ era ∧ era ≤ 23 ∨ era = 24 := by omega
  · have last_year : yearOfEra = 399 := by omega
    subst last_year
    split <;> omega
  · split <;> omega
  · obtain earlier | rfl : yearOfEra ≤ 398 ∨ yearOfEra = 399 := by omega
    all_goals split <;> omega

/-- A text that is read as a day begins with a digit. -/
theorem isDigit_head_of_parseDay {text : String} {day : ℤ} (parsed : parseDay text = some day) :
    ∃ c rest, text.toList = c :: rest ∧ c.isDigit := by
  unfold parseDay at parsed
  split at parsed
  · rename_i y₁ y₂ y₃ y₄ m₁ m₂ d₁ d₂ shape
    refine ⟨y₁, _, shape, ?_⟩
    obtain ⟨year, read, -⟩ := Option.bind_eq_some_iff.mp parsed
    unfold decimal at read
    split at read
    · rename_i digits
      exact List.all_eq_true.mp digits y₁ List.mem_cons_self
    · cases read
  · cases parsed

/-- An instant is written with its date first. -/
theorem take_toISOString {year month day : ℕ} {instant : Instant}
    (civil : civilOfDay (instant / 86400000) = (↑year, month, day)) (year_le : year ≤ 9999) :
    (toISOString instant).toList.take 10 = (dateText year month day).toList := by
  have date := isDate_civilOfDay (instant / 86400000)
  rw [civil] at date
  have length : (dateText year month day).toList.length = 10 := by
    rw [String.length_toList]
    exact length_dateText year_le date
  have within : (0 : ℤ) ≤ year ∧ (year : ℤ) ≤ 9999 := by omega
  simp only [toISOString, civil, within, and_self, ↓reduceIte, Int.toNat_natCast]
  rw [← dateText]
  simp only [String.toList_append, List.append_assoc, List.take_left' length]

/-- A text that comes back from a date as it was written is that of a real date. -/
theorem exists_date_of_returned {text : String} {day : ℤ} {instant : Instant}
    (parsed : parseDay text = some day)
    (returned : (toISOString instant).toList.take 10 = text.toList) :
    ∃ year month day : ℕ, year ≤ 9999 ∧ IsDate year month day ∧ text = dateText year month day := by
  obtain ⟨c, rest, shape, digit⟩ := isDigit_head_of_parseDay parsed
  have date := isDate_civilOfDay (instant / 86400000)
  obtain ⟨year, month, date_day, civil⟩ : ∃ year month date_day,
      civilOfDay (instant / 86400000) = (year, month, date_day) := ⟨_, _, _, rfl⟩
  rw [civil] at date
  by_cases within : 0 ≤ year ∧ year ≤ 9999
  · obtain ⟨number, rfl⟩ := Int.eq_ofNat_of_zero_le within.1
    have number_le : number ≤ 9999 := by omega
    refine ⟨number, month, date_day, number_le, date, ?_⟩
    apply String.toList_inj.mp
    rw [← returned, take_toISOString civil number_le]
  · simp only [toISOString, civil, within, ↓reduceIte, String.toList_append] at returned
    rw [shape] at returned
    split at returned
    all_goals
      simp only [String.reduceToList, List.cons_append, List.take_succ_cons, List.cons.injEq] at returned
      obtain ⟨rfl, -⟩ := returned
      exact absurd digit (by decide)

/-- A text of four, two and two digits is read as the day of its date. -/
theorem parseDay_dateText {year month day : ℕ} (year_le : year ≤ 9999)
    (date : IsDate year month day) :
    parseDay (dateText year month day) = some (dayOfCivil year month day) := by
  have day_le := date.day_le_31
  have month_le := date.month_le
  have years : (padded 4 year).toList.length = 4 := by
    rw [String.length_toList]
    exact length_padded (by omega) (by decide)
  have months : (padded 2 month).toList.length = 2 := by
    rw [String.length_toList]
    exact length_padded (by omega) (by decide)
  have days : (padded 2 day).toList.length = 2 := by
    rw [String.length_toList]
    exact length_padded (by omega) (by decide)
  obtain ⟨y₁, y₂, y₃, y₄, year_text⟩ := List.length_eq_four.mp years
  obtain ⟨m₁, m₂, month_text⟩ := List.length_eq_two.mp months
  obtain ⟨d₁, d₂, day_text⟩ := List.length_eq_two.mp days
  have shape : (dateText year month day).toList =
      [y₁, y₂, y₃, y₄, '-', m₁, m₂, '-', d₁, d₂] := by
    simp only [dateText, String.toList_append, year_text, month_text, day_text]
    rfl
  have year_read := decimal_padded 4 year
  have month_read := decimal_padded 2 month
  have day_read := decimal_padded 2 day
  rw [year_text] at year_read
  rw [month_text] at month_read
  rw [day_text] at day_read
  have exists_ : 1 ≤ month ∧ month ≤ 12 ∧ 1 ≤ day ∧ day ≤ 31 :=
    ⟨date.month_pos, month_le, date.day_pos, day_le⟩
  unfold parseDay
  rw [shape]
  simp [year_read, month_read, day_read, exists_]

/-- The date an instant is written with is read as the instant's day. -/
theorem parseDay_returned {day : ℤ} {text : String} (first : dayOfCivil 0 1 1 ≤ day)
    (last : day ≤ dayOfCivil 9999 12 31)
    (written : text.toList = (toISOString (day * 86400000)).toList.take 10) :
    parseDay text = some day := by
  have within := year_of_day first last
  have date := isDate_civilOfDay day
  have back := dayOfCivil_civilOfDay day
  obtain ⟨year, month, date_day, civil⟩ : ∃ year month date_day,
      civilOfDay day = (year, month, date_day) := ⟨_, _, _, rfl⟩
  rw [civil] at within date back
  obtain ⟨number, rfl⟩ := Int.eq_ofNat_of_zero_le within.1
  have number_le : number ≤ 9999 := by omega
  have same : day * 86400000 / 86400000 = day := Int.mul_ediv_cancel _ (by decide)
  rw [take_toISOString (by rw [same]; exact civil) number_le] at written
  rw [String.toList_inj.mp written, parseDay_dateText number_le date]
  exact congrArg some back

end ParentalCoord

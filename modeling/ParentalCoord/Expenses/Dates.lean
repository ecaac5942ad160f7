import ParentalCoord.Expenses.Editing
import ParentalCoord.Months

/-!
The dates that an expense can have.

The service reads a date and writes it again, and takes it when it comes back the same, so it
takes the dates that exist.  The column takes those of the year 1 or later, and the calendar
that the service reads by has a year 0.
-/

namespace ParentalCoord.Expenses

open Interleaving

/-- The text is a date that the column can hold: one that exists, and is of the year 1 or later. -/
def Storable (value : String) : Prop :=
  ∃ year month day : ℕ, 1 ≤ year ∧ year ≤ 9999 ∧ IsDate year month day ∧ value = dateText year month day

/-- The text is a date of the year 0. -/
def OfYearZero (value : String) : Prop :=
  ∃ month day : ℕ, IsDate 0 month day ∧ value = dateText 0 month day

variable {value : String}

/-- The service takes for real exactly the dates that exist. -/
theorem isRealDate_iff : isRealDate value ↔
    ∃ year month day : ℕ, year ≤ 9999 ∧ IsDate year month day ∧ value = dateText year month day := by
  refine ⟨exists_date_of_isRealDate, ?_⟩
  rintro ⟨year, month, day, year_le, date, rfl⟩
  have civil : civilOfDay (dayOfCivil year month day * MS_PER_DAY / 86400000) = (↑year, month, day) := by
    rw [show MS_PER_DAY = 86400000 from rfl, Int.mul_ediv_cancel _ (by decide)]
    exact civilOfDay_dayOfCivil date
  unfold isRealDate
  rw [parseDay_dateText year_le date, Option.any_some, decide_eq_true_eq]
  exact take_toISOString civil year_le

theorem isRealDate_iff_storable_or : isRealDate value ↔ Storable value ∨ OfYearZero value := by
  rw [isRealDate_iff]
  constructor
  · rintro ⟨year, month, day, year_le, date, same⟩
    cases year with
    | zero => exact .inr ⟨month, day, date, same⟩
    | succ year => exact .inl ⟨year + 1, month, day, Nat.le_add_left 1 year, year_le, date, same⟩
  · rintro (⟨year, month, day, -, year_le, date, same⟩ | ⟨month, day, date, same⟩)
    · exact ⟨year, month, day, year_le, date, same⟩
    · exact ⟨0, month, day, Nat.zero_le _, date, same⟩

/-- A date is of one year only. -/
theorem not_storable_of_year_zero (zero : OfYearZero value) : ¬Storable value := by
  obtain ⟨month, day, date, rfl⟩ := zero
  rintro ⟨year, month', day', positive, year_le, date', same⟩
  have days := (parseDay_dateText (Nat.zero_le 9999) date).symm.trans
    ((congrArg parseDay same).trans (parseDay_dateText year_le date'))
  have civil := congrArg civilOfDay (Option.some.inj days)
  rw [Int.ofNat_zero, civilOfDay_dayOfCivil date, civilOfDay_dayOfCivil date'] at civil
  have years : (0 : ℤ) = year := congrArg Prod.fst civil
  omega

theorem parseExpenseDate_accepts : parseExpenseDate (some value) = pure () ↔ isRealDate value := by
  unfold parseExpenseDate
  rw [Option.any_some]
  cases isRealDate value with
  | true => exact iff_of_true rfl rfl
  | false => exact iff_of_false nofun nofun

/-- **The service takes the dates that the column takes, and those of the year 0 as well.** -/
theorem parseExpenseDate_storable_iff (value : String) :
    (parseExpenseDate (some value) = pure () ↔ Storable value) ↔ ¬OfYearZero value := by
  rw [parseExpenseDate_accepts, isRealDate_iff_storable_or]
  by_cases zero : OfYearZero value
  · have unstorable := not_storable_of_year_zero zero
    simp [zero, unstorable]
  · simp [zero]

/-- The leap day of the year 0 is accepted. -/
theorem year_zero_accepted : ¬∀ value : String, matchesDate value →
    (parseExpenseDate (some value) = pure () ↔ Storable value) := by
  intro always
  have zero : OfYearZero "0000-02-29" := ⟨2, 29, ⟨by decide, by decide, by decide, by decide⟩, rfl⟩
  have accepted := parseExpenseDate_accepts.mpr (isRealDate_iff_storable_or.mpr (.inr zero))
  exact not_storable_of_year_zero zero ((always "0000-02-29" (by decide)).mp accepted)

end ParentalCoord.Expenses

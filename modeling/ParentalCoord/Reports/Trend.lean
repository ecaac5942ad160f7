import ParentalCoord.Months
import ParentalCoord.Reports.BondHealth

/-!
The trend of a bond: its activities by months.

The window and the names of its months are made in UTC.  The rows are grouped in the
database, where a month is one of the session's time zone, and the two are joined by the
text of the month.
-/

namespace ParentalCoord.Reports

open Activities Bonds Expenses Store

structure BondTrendAggregateRow where
  month : String
  activitiesTotal : ℕ
  activitiesCompleted : ℕ

structure BondTrendPoint where
  month : String
  activitiesTotal : ℕ
  completionRate : ℚ

/-- A time zone: what its clock shows ahead of UTC, in milliseconds, at each instant. -/
structure Zone where
  offset : Instant → ℤ
  bounded : ∀ instant, -604800000 < offset instant ∧ offset instant < 604800000

/-- The month that the clock of a zone shows. -/
def Zone.monthOf (zone : Zone) (instant : Instant) : ℤ :=
  ParentalCoord.monthOf (instant + zone.offset instant)

/-! ## The service -/

/-- `Date.UTC(year, month, 1)`, of a month counted from zero; `none` is an invalid date. -/
def dateUTC (year month : ℤ) : Option Instant :=
  let fullYear := if 0 ≤ year ∧ year ≤ 99 then 1900 + year else year
  let instant := monthStart (fullYear * 12 + month) * MS_PER_DAY
  if instant.natAbs ≤ 8640000000000000 then some instant else none

def getUTCFullYear (date : Instant) : ℤ := (civilOfDay (date / MS_PER_DAY)).1

/-- The month counted from zero. -/
def getUTCMonth (date : Instant) : ℤ := (civilOfDay (date / MS_PER_DAY)).2.1 - 1

def monthKey (date : Option Instant) : String :=
  match date with
  | none => "NaN-NaN"
  | some date => toString (getUTCFullYear date) ++ "-" ++ padded 2 (getUTCMonth date + 1).toNat

/-- `build-bond-health.ts::buildBondTrend`: every month of the series has a point, the oldest
first. -/
def buildBondTrend (rows : List BondTrendAggregateRow) (months : ℕ) (reference : Instant) :
    List BondTrendPoint :=
  (List.range months).reverse.map fun offset : ℕ =>
    let cursor := dateUTC (getUTCFullYear reference) (getUTCMonth reference - offset)
    let key := monthKey cursor
    let row := rows.reverse.find? (·.month = key)
    let total := (row.map (·.activitiesTotal)).getD 0
    { month := key
      activitiesTotal := total
      completionRate := percentage ((row.map (·.activitiesCompleted)).getD 0) total }

/-- `to_char(date_trunc('month', instant), 'YYYY-MM')` in a session of a zone.  A year before
the first is written as that of its era. -/
def toCharMonth (zone : Zone) (instant : Instant) : String :=
  let year := zone.monthOf instant / 12
  padded 4 (if 0 < year then year else 1 - year).toNat ++ "-" ++
    padded 2 ((zone.monthOf instant % 12).toNat + 1)

namespace BondHealthRepository

/-- `bond-health.repository.ts::trendByMonth`: the numbers of each month in which something
happened. -/
def trendByMonth (db : Database) (zone : Zone) (bondId : Uuid)
    (fromInstant toExclusiveInstant : Instant) : List BondTrendAggregateRow :=
  let rows := (groupBy (fun activity => toCharMonth zone activity.reference)
    (db.activities.rows.filter (·.selected bondId fromInstant toExclusiveInstant))).map
      fun (month, group) =>
        { month := month
          activitiesTotal := group.length
          activitiesCompleted := (group.filter (·.status = .done)).length }
  rows.mergeSort fun first second => utf16 first.month ≤ utf16 second.month

end BondHealthRepository

/-- `bond-health.service.ts::trend`: the months up to that of now, each with its numbers. -/
def BondHealthService.trend (db : Database) (zone : Zone) (now : Instant) (bondId : Uuid)
    (months : ℕ) : Except Exception (List BondTrendPoint) :=
  if months < 1 ∨ 12 < months then
    .error (badRequestException "months must be between 1 and 12")
  else match db.bonds.get bondId with
  | none => .error (notFoundException ("Bond " ++ bondId ++ " not found"))
  | some _ =>
    let from_ := dateUTC (getUTCFullYear now) (getUTCMonth now - (months - 1))
    let toExclusive := dateUTC (getUTCFullYear now) (getUTCMonth now + 1)
    match from_, toExclusive with
    | some from_, some toExclusive =>
      .ok (buildBondTrend (BondHealthRepository.trendByMonth db zone bondId from_ toExclusive)
        months now)
    | _, _ => .error .fault

/-! ## What a trend should say -/

/-- The months of a series, the oldest first. -/
def lastMonths (now : Instant) (months : ℕ) : List ℤ :=
  (List.range months).reverse.map fun offset : ℕ => monthOf now - offset

/-- `YYYY-MM` of a month. -/
def monthName (month : ℤ) : String :=
  toString (month / 12) ++ "-" ++ padded 2 ((month % 12).toNat + 1)

/-- A live activity of the bond whose reference date falls in the month. -/
def inMonth (bondId : Uuid) (month : ℤ) (activity : StoredActivity) : Bool :=
  activity.bondId = bondId && activity.deletedAt = none && monthOf activity.reference = month

/-- The first instant of a month. -/
def monthInstant (month : ℤ) : ℤ := monthStart month * MS_PER_DAY

/-- One point for each month, with the activities of that month; together they are those of
the window. -/
structure Lossless (db : Database) (bondId : Uuid) (now : Instant) (months : ℕ)
    (points : List BondTrendPoint) : Prop where
  names : points.map (·.month) = (lastMonths now months).map monthName
  totals : points.map (·.activitiesTotal) = (lastMonths now months).map fun month =>
    (db.activities.rows.filter (inMonth bondId month)).length
  sum : (points.map (·.activitiesTotal)).sum = (db.activities.rows.filter
    (·.selected bondId (monthInstant (monthOf now - months + 1))
      (monthInstant (monthOf now + 1)))).length

/-- The zone of the session has the months of UTC over the window, which begins in the year
1000 or later and ends within the range of dates. -/
structure Agrees (zone : Zone) (now : Instant) (months : ℕ) : Prop where
  modern : 12000 ≤ monthOf now - months + 1
  ends : monthInstant (monthOf now + 1) ≤ 8640000000000000
  clock : ∀ instant, monthOf now - months < monthOf instant → monthOf instant ≤ monthOf now →
    zone.monthOf instant = monthOf instant

/-! ## Names of months -/

theorem length_le_padded (width value : ℕ) : width ≤ (padded width value).length := by
  simp only [padded, String.length_append, String.length_ofList, List.length_replicate]
  omega

theorem decimal_repr (value : ℕ) : decimal (Nat.repr value).toList = some value := by
  have read := decimal_padded 0 value
  rwa [padded, Nat.zero_sub, List.replicate_zero, String.ofList_nil, String.empty_append] at read

theorem padded_of_le {value : ℕ} (long : 1000 ≤ value) : padded 4 value = Nat.repr value := by
  have digits : 4 ≤ (Nat.repr value).length := by
    by_contra few
    have small := (Nat.length_repr_le_iff (by decide : 0 < 3)).mp (show (Nat.repr value).length ≤ 3 by omega)
    omega
  rw [padded, Nat.sub_eq_zero_of_le digits]
  simp

/-- The month of a name are its last two characters. -/
theorem name_inj {first second : String} {month other : ℕ} (short : month < 100)
    (short' : other < 100)
    (same : first ++ "-" ++ padded 2 month = second ++ "-" ++ padded 2 other) :
    first = second ∧ month = other := by
  have lists := congrArg String.toList same
  simp only [String.toList_append, List.append_assoc] at lists
  have widths : ('-' :: (padded 2 month).toList).length = ('-' :: (padded 2 other).toList).length := by
    have width := length_padded short (by decide : 0 < 2)
    have width' := length_padded short' (by decide : 0 < 2)
    simp only [List.length_cons, String.length_toList, width, width']
  obtain ⟨firsts, rests⟩ := List.append_inj' lists widths
  have months := List.append_cancel_left rests
  exact ⟨String.toList_inj.mp firsts, padded_injective (String.toList_inj.mp months)⟩

/-- A year as the database writes it is the same text in UTC only from the year 1000 on. -/
theorem padded_eq_toString {year : ℤ} {other : ℕ} :
    padded 4 other = toString year ↔ year = other ∧ 1000 ≤ other := by
  constructor
  · intro same
    cases year with
    | negSucc value =>
      have hyphen : '-' ∈ (padded 4 other).toList := by
        rw [same]
        simp [ToString.toString, Int.repr]
      exact absurd (isDigit_of_mem_padded hyphen) (by decide)
    | ofNat value =>
      have written : padded 4 other = Nat.repr value := same
      have equal : other = value := by
        have read := decimal_padded 4 other
        rw [written, decimal_repr] at read
        exact (Option.some.inj read).symm
      have long : ¬value < 1000 := by
        intro small
        have width := length_le_padded 4 other
        rw [written] at width
        have short := (Nat.length_repr_le_iff (by decide : 0 < 3)).mpr small
        omega
      exact ⟨congrArg Int.ofNat equal.symm, by omega⟩
  · rintro ⟨rfl, long⟩
    exact padded_of_le long

theorem Zone.monthOf_near (zone : Zone) (instant : Instant) :
    zone.monthOf instant ≤ ParentalCoord.monthOf instant + 1 ∧
      ParentalCoord.monthOf instant ≤ zone.monthOf instant + 1 := by
  obtain ⟨behind, ahead⟩ := zone.bounded instant
  constructor
  · apply monthOfDay_near
    omega
  · apply monthOfDay_near
    omega

/-- The two names of an instant's month are one where the zone agrees, from the year 1000
on. -/
theorem toCharMonth_eq_iff {zone : Zone} {instant : Instant} :
    toCharMonth zone instant = monthName (monthOf instant) ↔
      zone.monthOf instant = monthOf instant ∧ 12000 ≤ monthOf instant := by
  obtain ⟨after, before⟩ := zone.monthOf_near instant
  unfold toCharMonth monthName
  constructor
  · intro same
    obtain ⟨years, months⟩ := name_inj (by omega) (by omega) same
    obtain ⟨year, long⟩ := padded_eq_toString.mp years
    split_ifs at year long <;> omega
  · rintro ⟨same, late⟩
    have year : padded 4 (monthOf instant / 12).toNat = toString (monthOf instant / 12) :=
      padded_eq_toString.mpr (by omega)
    simp only [same, if_pos (show 0 < monthOf instant / 12 by omega), year]

theorem monthName_inj {first second : ℤ} (late : 12000 ≤ first) (late' : 12000 ≤ second)
    (same : monthName first = monthName second) : first = second := by
  obtain ⟨years, months⟩ := name_inj (by omega) (by omega) same
  have written : padded 4 (first / 12).toNat = toString (first / 12) :=
    padded_eq_toString.mpr (by omega)
  rw [years] at written
  have year := (padded_eq_toString.mp written).1
  omega

/-! ## The window -/

theorem getUTC_month (now : Instant) :
    getUTCFullYear now * 12 + getUTCMonth now = monthOf now := by
  simp only [getUTCFullYear, getUTCMonth, monthOf, monthOfDay, MS_PER_DAY]
  omega

theorem getUTCFullYear_eq (now : Instant) : getUTCFullYear now = monthOf now / 12 := by
  have date := isDate_civilOfDay (now / MS_PER_DAY)
  have month_pos := date.month_pos
  have month_le := date.month_le
  have whole := getUTC_month now
  rw [getUTCMonth] at whole
  omega

theorem dateUTC_eq {now : Instant} {offset : ℤ} (modern : 1200 ≤ monthOf now)
    (range : (monthInstant (monthOf now + offset)).natAbs ≤ 8640000000000000) :
    dateUTC (getUTCFullYear now) (getUTCMonth now + offset) =
      some (monthInstant (monthOf now + offset)) := by
  have year := getUTCFullYear_eq now
  have late : ¬(0 ≤ getUTCFullYear now ∧ getUTCFullYear now ≤ 99) := by omega
  have whole := getUTC_month now
  have month : getUTCFullYear now * 12 + (getUTCMonth now + offset) = monthOf now + offset := by
    omega
  rw [dateUTC, if_neg late, month, ← monthInstant]
  exact if_pos range

theorem monthKey_monthInstant (month : ℤ) :
    monthKey (some (monthInstant month)) = monthName month := by
  obtain ⟨year, place, first, last, rfl⟩ := exists_date_of_month month
  have days : monthInstant (year * 12 + place - 1) / MS_PER_DAY =
      monthStart (year * 12 + place - 1) :=
    Int.mul_ediv_cancel _ (by decide)
  have years : (year * 12 + place - 1) / 12 = year := by omega
  have months : ((year * 12 + place - 1) % 12).toNat + 1 = place := by omega
  simp only [monthKey, getUTCFullYear, getUTCMonth, days, civilOfDay_monthStart first last,
    monthName, years, months, Int.sub_add_cancel, Int.toNat_natCast]

/-! ## The rows of the query -/

section Rows

open BondHealthRepository

variable {db : Database} {zone : Zone} {bondId : Uuid} {from_ toExclusive : Instant}

/-- A row counts the activities that the session puts into its month. -/
theorem total_of_row {row : BondTrendAggregateRow}
    (member : row ∈ trendByMonth db zone bondId from_ toExclusive) :
    row.activitiesTotal =
      ((db.activities.rows.filter (·.selected bondId from_ toExclusive)).filter fun activity =>
        toCharMonth zone activity.reference = row.month).length := by
  rw [trendByMonth, (List.mergeSort_perm _ _).mem_iff, List.mem_map] at member
  obtain ⟨⟨month, group⟩, member, rfl⟩ := member
  obtain ⟨_, rfl⟩ := mem_groupBy.mp member
  rfl

theorem exists_row {activity : StoredActivity}
    (listed : activity ∈ db.activities.rows.filter (·.selected bondId from_ toExclusive)) :
    ∃ row ∈ trendByMonth db zone bondId from_ toExclusive,
      row.month = toCharMonth zone activity.reference := by
  have grouped : (toCharMonth zone activity.reference, _) ∈
      groupBy (fun activity => toCharMonth zone activity.reference)
        (db.activities.rows.filter (·.selected bondId from_ toExclusive)) :=
    mem_groupBy.mpr ⟨List.mem_map.mpr ⟨activity, listed, rfl⟩, rfl⟩
  rw [trendByMonth]
  exact ⟨_, (List.mergeSort_perm _ _).mem_iff.mpr (List.mem_map.mpr ⟨_, grouped, rfl⟩), rfl⟩

/-- What a point says of a month: the activities that the session puts into it. -/
theorem total_of_key (key : String) :
    (((trendByMonth db zone bondId from_ toExclusive).reverse.find? (·.month = key)).map
      (·.activitiesTotal)).getD 0 =
      ((db.activities.rows.filter (·.selected bondId from_ toExclusive)).filter fun activity =>
        toCharMonth zone activity.reference = key).length := by
  cases found : (trendByMonth db zone bondId from_ toExclusive).reverse.find? (·.month = key) with
  | some row =>
    have named : row.month = key := by simpa using List.find?_some found
    have member := List.mem_reverse.mp (List.mem_of_find?_eq_some found)
    rw [Option.map_some, Option.getD_some, total_of_row member, named]
  | none =>
    rw [Option.map_none, Option.getD_none, eq_comm, List.length_eq_zero_iff, List.filter_eq_nil_iff]
    intro activity listed named
    obtain ⟨row, member, same⟩ := exists_row listed
    have absent := List.find?_eq_none.mp found row (List.mem_reverse.mpr member)
    simp only [decide_eq_true_eq] at named absent
    exact absent (same.trans named)

end Rows

/-- The activities of a window are those of its months. -/
theorem selected_iff {bondId : Uuid} {first last : ℤ} {activity : StoredActivity} :
    activity.selected bondId (monthInstant first) (monthInstant (last + 1)) = true ↔
      activity.bondId = bondId ∧ activity.deletedAt = none ∧
        first ≤ monthOf activity.reference ∧ monthOf activity.reference ≤ last := by
  have start : first ≤ monthOf activity.reference ↔ monthInstant first ≤ activity.reference :=
    le_monthOf_iff
  have next : last + 1 ≤ monthOf activity.reference ↔
      monthInstant (last + 1) ≤ activity.reference :=
    le_monthOf_iff
  have before : monthOf activity.reference ≤ last ↔
      activity.reference < monthInstant (last + 1) := by
    rw [← Int.not_le, ← next]
    omega
  simp only [StoredActivity.selected, Bool.and_eq_true, decide_eq_true_eq, and_assoc, start, before]

/-- The activities of consecutive months, one month after the other. -/
theorem sum_months (rows : List StoredActivity) (bondId : Uuid) (last : ℤ) (months : ℕ) :
    (((List.range months).reverse.map fun offset : ℕ => last - offset).map fun month =>
      (rows.filter (inMonth bondId month)).length).sum =
      (rows.filter (·.selected bondId (monthInstant (last - months + 1))
        (monthInstant (last + 1)))).length := by
  induction months with
  | zero =>
    rw [eq_comm]
    simp only [List.range_zero, List.reverse_nil, List.map_nil, List.sum_nil,
      List.length_eq_zero_iff, List.filter_eq_nil_iff]
    intro activity _ chosen
    obtain ⟨_, _, start, next⟩ := selected_iff.mp chosen
    omega
  | succ months ih =>
    rw [List.range_succ, List.reverse_append, List.map_append, List.map_append, List.sum_append, ih]
    simp only [List.reverse_singleton, List.map_singleton, List.sum_singleton]
    rw [eq_comm]
    apply length_filter_or
    · intro activity _
      rw [Bool.eq_iff_iff, Bool.or_eq_true, selected_iff, selected_iff]
      simp only [inMonth, Bool.and_eq_true, decide_eq_true_eq]
      constructor
      · rintro ⟨own, alive, start, next⟩
        by_cases first : monthOf activity.reference = last - months
        · exact Or.inl ⟨⟨own, alive⟩, first⟩
        · exact Or.inr ⟨own, alive, by omega, next⟩
      · rintro (⟨⟨own, alive⟩, first⟩ | ⟨own, alive, start, next⟩)
        · exact ⟨own, alive, by omega, by omega⟩
        · exact ⟨own, alive, by omega, next⟩
    · rintro activity _ ⟨first, chosen⟩
      obtain ⟨_, _, start, _⟩ := selected_iff.mp chosen
      simp only [inMonth, Bool.and_eq_true, decide_eq_true_eq] at first
      omega

/-! ## When nothing is lost -/

section Agreement

variable {zone : Zone} {now : Instant} {months : ℕ}

theorem monthInstant_mono {first second : ℤ} (le : first ≤ second) :
    monthInstant first ≤ monthInstant second :=
  Int.mul_le_mul_of_nonneg_right (monthStart_mono le) (by decide)

/-- The months of the window and the one after it begin at instants that a date can hold. -/
theorem Agrees.range (agrees : Agrees zone now months) {month : ℤ} (late : 12000 ≤ month)
    (last : month ≤ monthOf now + 1) : (monthInstant month).natAbs ≤ 8640000000000000 := by
  have least : monthInstant 12000 ≤ monthInstant month := monthInstant_mono late
  have most := (monthInstant_mono last).trans agrees.ends
  have first : monthInstant 12000 = -30610224000000 := by decide
  rw [first] at least
  obtain ⟨value, same⟩ : ∃ value : ℤ, monthInstant month = value := ⟨_, rfl⟩
  rw [same] at least most ⊢
  omega

theorem Agrees.dateUTC (agrees : Agrees zone now months) {offset : ℤ} (present : 1 ≤ months)
    (late : 12000 ≤ monthOf now + offset) (last : offset ≤ 1) :
    Reports.dateUTC (getUTCFullYear now) (getUTCMonth now + offset) =
      some (monthInstant (monthOf now + offset)) := by
  have modern := agrees.modern
  exact dateUTC_eq (by omega) (agrees.range late (by omega))

/-- Within the window the session's months are those of UTC. -/
theorem Agrees.count (agrees : Agrees zone now months) (db : Database) (bondId : Uuid) {month : ℤ}
    (first : monthOf now - months < month) (last : month ≤ monthOf now) :
    ((db.activities.rows.filter (·.selected bondId (monthInstant (monthOf now - months + 1))
      (monthInstant (monthOf now + 1)))).filter fun activity =>
        toCharMonth zone activity.reference = monthName month).length =
      (db.activities.rows.filter (inMonth bondId month)).length := by
  have modern := agrees.modern
  have named : ∀ instant, monthOf now - months < monthOf instant → monthOf instant ≤ monthOf now →
      toCharMonth zone instant = monthName (monthOf instant) := by
    intro instant start next
    exact toCharMonth_eq_iff.mpr ⟨agrees.clock instant start next, by omega⟩
  rw [List.filter_filter]
  refine congrArg List.length (List.filter_congr ?_)
  intro activity _
  rw [Bool.eq_iff_iff, Bool.and_eq_true, decide_eq_true_eq, selected_iff]
  simp only [inMonth, Bool.and_eq_true, decide_eq_true_eq]
  constructor
  · rintro ⟨same, own, alive, start, next⟩
    rw [named _ (by omega) next] at same
    exact ⟨⟨own, alive⟩, monthName_inj (by omega) (by omega) same⟩
  · rintro ⟨⟨own, alive⟩, rfl⟩
    exact ⟨named _ first last, own, alive, by omega, last⟩

theorem Agrees.lossless (agrees : Agrees zone now months) (present : 1 ≤ months) (few : months ≤ 12)
    {db : Database} {bondId : Uuid} (there : (db.bonds.get bondId).isSome) :
    ∃ points, BondHealthService.trend db zone now bondId months = .ok points ∧
      Lossless db bondId now months points := by
  have modern := agrees.modern
  obtain ⟨bond, found⟩ := Option.isSome_iff_exists.mp there
  have opens : Reports.dateUTC (getUTCFullYear now) (getUTCMonth now - (months - 1)) =
      some (monthInstant (monthOf now - months + 1)) := by
    have same : getUTCMonth now - (months - 1) = getUTCMonth now + (1 - months : ℤ) := by omega
    have month : monthOf now - months + 1 = monthOf now + (1 - months : ℤ) := by omega
    rw [same, month]
    exact agrees.dateUTC present (by omega) (by omega)
  have closes : Reports.dateUTC (getUTCFullYear now) (getUTCMonth now + 1) =
      some (monthInstant (monthOf now + 1)) :=
    agrees.dateUTC present (by omega) (by omega)
  have key : ∀ offset ∈ (List.range months).reverse,
      monthKey (Reports.dateUTC (getUTCFullYear now) (getUTCMonth now - (offset : ℕ))) =
        monthName (monthOf now - offset) := by
    intro offset member
    have inside := List.mem_range.mp (List.mem_reverse.mp member)
    rw [sub_eq_add_neg, agrees.dateUTC present (by omega) (by omega), monthKey_monthInstant]
    rfl
  refine ⟨buildBondTrend (BondHealthRepository.trendByMonth db zone bondId
    (monthInstant (monthOf now - months + 1)) (monthInstant (monthOf now + 1))) months now, ?_, ?_⟩
  · simp only [BondHealthService.trend, found, opens, closes]
    rw [if_neg (by omega)]
  · have totals : (buildBondTrend (BondHealthRepository.trendByMonth db zone bondId
        (monthInstant (monthOf now - months + 1)) (monthInstant (monthOf now + 1))) months now).map
          (·.activitiesTotal) = (lastMonths now months).map fun month =>
            (db.activities.rows.filter (inMonth bondId month)).length := by
      rw [buildBondTrend, lastMonths, List.map_map, List.map_map]
      apply List.map_congr_left
      intro offset member
      have inside := List.mem_range.mp (List.mem_reverse.mp member)
      simp only [Function.comp_def, key offset member, total_of_key]
      exact agrees.count db bondId (by omega) (by omega)
    constructor
    · rw [buildBondTrend, lastMonths, List.map_map, List.map_map]
      apply List.map_congr_left
      intro offset member
      exact key offset member
    · exact totals
    · rw [totals]
      exact sum_months _ bondId (monthOf now) months

/-- A bond with one activity, at an instant. -/
def lone (instant : Instant) : Database where
  bonds := .singleton home
  activities := .singleton
    { id := "a1", bondId := "b1", categoryId := "c1", type := .event, status := .done, version := 4,
      criticality := .high, title := "Dentist", description := "", createdBy := "u1",
      assignedTo := some "u1", scheduledStart := some instant, scheduledEnd := none,
      deadline := none, notifBefore := none, notifAfter := none, createdAt := 0 }
  expenses := .empty
  categories := .empty
  children := .empty
  activityChildren := []
  members := .empty
  users := .empty
  personalData := .empty

/-- An activity that is counted in its month is one that the session puts there. -/
theorem named_of_lossless {instant : Instant} {points : List BondTrendPoint}
    (shown : BondHealthService.trend (lone instant) zone now "b1" months = .ok points)
    (lossless : Lossless (lone instant) "b1" now months points)
    (first : monthOf now - months < monthOf instant) (last : monthOf instant ≤ monthOf now) :
    toCharMonth zone instant = monthName (monthOf instant) := by
  unfold BondHealthService.trend at shown
  split at shown
  · cases shown
  split at shown
  · cases shown
  simp only at shown
  split at shown
  · rename_i from_ toExclusive _ _
    obtain rfl := Except.ok.inj shown
    have names := lossless.names
    have totals := lossless.totals
    rw [buildBondTrend, lastMonths, List.map_map, List.map_map, List.map_inj_left] at names totals
    obtain ⟨offset, place⟩ := Int.eq_ofNat_of_zero_le (show 0 ≤ monthOf now - monthOf instant by omega)
    have member : offset ∈ (List.range months).reverse :=
      List.mem_reverse.mpr (List.mem_range.mpr (by omega))
    have month : monthOf now - offset = monthOf instant := by omega
    have named := names offset member
    have total := totals offset member
    simp only [Function.comp_def, month] at named total
    rw [named, total_of_key] at total
    have counted : ((lone instant).activities.rows.filter (inMonth "b1" (monthOf instant))).length = 1 := by
      simp [lone, inMonth, StoredActivity.reference]
    rw [counted] at total
    obtain ⟨activity, single⟩ := List.length_eq_one_iff.mp total
    have chosen : activity ∈ ((lone instant).activities.rows.filter
        (·.selected "b1" from_ toExclusive)).filter fun activity =>
          toCharMonth zone activity.reference = monthName (monthOf instant) := by
      rw [single]
      exact List.mem_singleton_self activity
    obtain ⟨listed, same⟩ := List.mem_filter.mp chosen
    have only := List.mem_singleton.mp (List.mem_filter.mp listed).1
    rw [only] at same
    exact of_decide_eq_true same
  · cases shown

theorem agrees_of_lossless (present : 1 ≤ months)
    (always : ∀ db bondId, (db.bonds.get bondId).isSome →
      ∃ points, BondHealthService.trend db zone now bondId months = .ok points ∧
        Lossless db bondId now months points) : Agrees zone now months := by
  have agreed : ∀ instant, monthOf now - months < monthOf instant → monthOf instant ≤ monthOf now →
      zone.monthOf instant = monthOf instant ∧ 12000 ≤ monthOf instant := by
    intro instant first last
    obtain ⟨points, shown, lossless⟩ := always (lone instant) "b1" rfl
    exact toCharMonth_eq_iff.mp (named_of_lossless shown lossless first last)
  have opening : monthOf (monthInstant (monthOf now - months + 1)) = monthOf now - months + 1 := by
    rw [monthOf, monthInstant, MS_PER_DAY, Int.mul_ediv_cancel _ (by decide), monthOfDay_eq_iff]
    exact ⟨Int.le_refl _, monthStart_lt_iff.mpr (by omega)⟩
  have modern := (agreed (monthInstant (monthOf now - months + 1)) (by omega) (by omega)).2
  rw [opening] at modern
  refine ⟨modern, ?_, fun instant first last => (agreed instant first last).1⟩
  obtain ⟨points, shown, _⟩ := always (lone 0) "b1" rfl
  unfold BondHealthService.trend at shown
  split at shown
  · cases shown
  split at shown
  · cases shown
  simp only at shown
  split at shown
  · rename_i from_ toExclusive _ closes
    have year := getUTCFullYear_eq now
    have whole := getUTC_month now
    have late : ¬(0 ≤ getUTCFullYear now ∧ getUTCFullYear now ≤ 99) := by omega
    have month : getUTCFullYear now * 12 + (getUTCMonth now + 1) = monthOf now + 1 := by omega
    rw [dateUTC, if_neg late, month, ← monthInstant] at closes
    split at closes
    · rename_i range
      omega
    · cases closes
  · cases shown

end Agreement

/-- **The trend loses nothing** for whatever activities there are, if and only if the months
of the session's zone are those of UTC over the window, and the window lies between the year
1000 and the end of the range of dates. -/
theorem trend_lossless_iff (zone : Zone) (now : Instant) {months : ℕ} (present : 1 ≤ months)
    (few : months ≤ 12) :
    (∀ db bondId, (db.bonds.get bondId).isSome →
      ∃ points, BondHealthService.trend db zone now bondId months = .ok points ∧
        Lossless db bondId now months points) ↔ Agrees zone now months :=
  ⟨agrees_of_lossless present, fun agrees _ _ there => agrees.lossless present few there⟩

def utc : Zone := ⟨fun _ => 0, fun _ => by decide⟩

/-- The trend of three months up to June. -/
theorem trend_lossless_june :
    ∃ points, BondHealthService.trend shared utc 1782820800000 "b1" 3 = .ok points ∧
      Lossless shared "b1" 1782820800000 3 points := by
  apply (trend_lossless_iff utc 1782820800000 (by decide) (by decide)).mpr _ shared "b1" rfl
  constructor
  · decide +kernel
  · decide +kernel
  · intro instant _ _
    simp [Zone.monthOf, utc]

/-- Three hours behind UTC. -/
def buenosAires : Zone := ⟨fun _ => -10800000, fun _ => by decide⟩

/-- The first half hour of July is still June in Buenos Aires. -/
theorem trend_loses :
    ¬∀ (zone : Zone) (now : Instant) (months : ℕ), 1 ≤ months → months ≤ 12 →
      ∀ db bondId, (db.bonds.get bondId).isSome →
        ∃ points, BondHealthService.trend db zone now bondId months = .ok points ∧
          Lossless db bondId now months points := by
  intro always
  obtain ⟨points, shown, lossless⟩ := always buenosAires 1784116800000 1 (by decide) (by decide)
    (lone 1782865800000) "b1" rfl
  have named := named_of_lossless shown lossless (by decide +kernel) (by decide +kernel)
  exact absurd named (by decide +kernel)

end ParentalCoord.Reports

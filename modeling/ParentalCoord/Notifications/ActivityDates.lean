import ParentalCoord.Months
import ParentalCoord.Zones

/-!
The date that a notification says an activity begins at.

The instant is written as the clocks of Buenos Aires show it, what was written is taken for a
time of the server's own clocks, and its fields are those of the server's clocks.  So the
date is that of Buenos Aires as long as the server's clocks show every such time themselves;
one that they skip comes out as another.
-/

namespace ParentalCoord.Notifications

/-- The greatest time value that a date holds. -/
def MAX_TIME : ℤ := 8640000000000000

/-- `none` is an invalid date. -/
def timeClip (time : ℤ) : Option Instant :=
  if -MAX_TIME ≤ time ∧ time ≤ MAX_TIME then some time else none

/-- What `date.toLocaleString('en-US', { timeZone })` shows: the clocks of the zone, without the
fraction of the second. -/
def toLocaleString (timeZone : TimeZone) (date : Instant) : ℤ := timeZone.localTime date / 1000 * 1000

/-- `new Date(text)`, for a text that shows this time. -/
def readLocaleString (server : TimeZone) (shown : ℤ) : Option Instant := timeClip (server.utc shown)

section Fields

variable (server : TimeZone) (date : Option Instant)

def getDate : Option ℕ :=
  date.map fun date => (civilOfDay (server.localTime date / 86400000)).2.2

/-- From zero on. -/
def getMonth : Option ℕ :=
  date.map fun date => (civilOfDay (server.localTime date / 86400000)).2.1 - 1

def getHours : Option ℕ :=
  date.map fun date => (server.localTime date % 86400000 / 3600000).toNat

def getMinutes : Option ℕ :=
  date.map fun date => (server.localTime date / 60000 % 60).toNat

end Fields

/-- `String(value).padStart(2, '0')`, where an invalid date has `NaN`. -/
def padStart2 : Option ℕ → String
  | some value => padded 2 value
  | none => "NaN"

def formatActivityDateTime (server buenosAires : TimeZone) (date : Instant) : String :=
  let localDate := readLocaleString server (toLocaleString buenosAires date)
  let day := padStart2 (getDate server localDate)
  let month := padStart2 ((getMonth server localDate).map (· + 1))
  let hour := padStart2 (getHours server localDate)
  let minute := padStart2 (getMinutes server localDate)
  day ++ "/" ++ month ++ " a las " ++ hour ++ ":" ++ minute

theorem timeClip_of_within {time : ℤ} (within : -MAX_TIME ≤ time ∧ time ≤ MAX_TIME) :
    timeClip time = some time := if_pos within

theorem timeClip_of_beyond {time : ℤ} (beyond : ¬(-MAX_TIME ≤ time ∧ time ≤ MAX_TIME)) :
    timeClip time = none := if_neg beyond

/-! ## What the clocks show -/

/-- The day, the month, the hour and the minute of a wall clock. -/
def clockText (wall : ℤ) : String :=
  padded 2 (civilOfDay (wall / 86400000)).2.2 ++ "/" ++ padded 2 (civilOfDay (wall / 86400000)).2.1 ++
    " a las " ++ padded 2 (wall % 86400000 / 3600000).toNat ++ ":" ++ padded 2 (wall / 60000 % 60).toNat

variable {server buenosAires : TimeZone} {date : Instant} {wall other : ℤ}

/-- Two days of the same name are far apart. -/
theorem day_of_fields {first second : ℤ} (after : first ≤ second) (near : second < first + 28)
    (month : (civilOfDay first).2.1 = (civilOfDay second).2.1)
    (day : (civilOfDay first).2.2 = (civilOfDay second).2.2) : first = second := by
  have next := monthOfDay_near near
  have mono := monthOfDay_mono after
  have years : (civilOfDay first).1 = (civilOfDay second).1 := by
    unfold monthOfDay at next mono
    omega
  rw [← dayOfCivil_civilOfDay first, ← dayOfCivil_civilOfDay second, years, month, day]

theorem toList_length_two {value : ℕ} (short : value < 100) : (padded 2 value).toList.length = 2 := by
  rw [String.length_toList, length_padded short (by decide)]

theorem day_short (wall : ℤ) : (civilOfDay (wall / 86400000)).2.2 < 100 := by
  have day := (isDate_civilOfDay (wall / 86400000)).day_le_31
  omega

theorem month_short (wall : ℤ) : (civilOfDay (wall / 86400000)).2.1 < 100 := by
  have month := (isDate_civilOfDay (wall / 86400000)).month_le
  omega

theorem clockText_of_minute (same : wall / 60000 = other / 60000) : clockText wall = clockText other := by
  have days : wall / 86400000 = other / 86400000 := by omega
  have hours : wall % 86400000 / 3600000 = other % 86400000 / 3600000 := by omega
  unfold clockText
  rw [days, hours, same]

/-- Of two times that are close to each other, those of the same minute are written the same. -/
theorem clockText_eq_iff (below : wall - 172800000 < other) (above : other < wall + 172800000) :
    clockText wall = clockText other ↔ wall / 60000 = other / 60000 := by
  refine ⟨fun same => ?_, clockText_of_minute⟩
  have lists := congrArg String.toList same
  unfold clockText at lists
  simp only [String.toList_append] at lists
  have minute_length : ∀ time : ℤ, (padded 2 (time / 60000 % 60).toNat).toList.length = 2 :=
    fun time => toList_length_two (by omega)
  have hour_length : ∀ time : ℤ, (padded 2 (time % 86400000 / 3600000).toNat).toList.length = 2 :=
    fun time => toList_length_two (by omega)
  have month_length : ∀ time : ℤ, (padded 2 (civilOfDay (time / 86400000)).2.1).toList.length = 2 :=
    fun time => toList_length_two (month_short time)
  obtain ⟨lists, minutes⟩ := List.append_inj' lists ((minute_length _).trans (minute_length _).symm)
  obtain ⟨lists, -⟩ := List.append_inj' lists rfl
  obtain ⟨lists, hours⟩ := List.append_inj' lists ((hour_length _).trans (hour_length _).symm)
  obtain ⟨lists, -⟩ := List.append_inj' lists rfl
  obtain ⟨lists, months⟩ := List.append_inj' lists ((month_length _).trans (month_length _).symm)
  obtain ⟨days, -⟩ := List.append_inj' lists rfl
  have minute := padded_injective (String.toList_inj.mp minutes)
  have hour := padded_injective (String.toList_inj.mp hours)
  have month := padded_injective (String.toList_inj.mp months)
  have day := padded_injective (String.toList_inj.mp days)
  have same_day : wall / 86400000 = other / 86400000 := by
    rcases le_total (wall / 86400000) (other / 86400000) with after | before
    · exact day_of_fields after (by omega) month day
    · exact (day_of_fields before (by omega) month.symm day.symm).symm
  omega

theorem formatActivityDateTime_eq : formatActivityDateTime server buenosAires date =
    match readLocaleString server (toLocaleString buenosAires date) with
    | some localDate => clockText (server.localTime localDate)
    | none => "NaN/NaN a las NaN:NaN" := by
  unfold formatActivityDateTime
  cases readLocaleString server (toLocaleString buenosAires date) with
  | none => rfl
  | some localDate =>
    have month := (isDate_civilOfDay (server.localTime localDate / 86400000)).month_pos
    simp only [getMonth, Option.map_some, padStart2, Nat.sub_add_cancel month]
    rfl

theorem clockText_ne_nan (wall : ℤ) : "NaN/NaN a las NaN:NaN" ≠ clockText wall := by
  intro same
  have read := decimal_padded 2 (civilOfDay (wall / 86400000)).2.2
  have lists := congrArg String.toList same
  unfold clockText at lists
  simp only [String.toList_append, List.append_assoc] at lists
  have first : (padded 2 (civilOfDay (wall / 86400000)).2.2).toList = ['N', 'a'] := by
    have taken := congrArg (List.take 2) lists
    rw [List.take_left' (toList_length_two (day_short wall))] at taken
    exact taken.symm
  rw [first] at read
  cases read

/-! ## When the server's clocks keep the time -/

/-- A date holds the instant that this time stands for; and if the server's clocks skip it, they do so
by so little that its minute does not end. -/
structure KeepsMinute (server : TimeZone) (wall : ℤ) : Prop where
  within : -MAX_TIME ≤ server.utc wall ∧ server.utc wall ≤ MAX_TIME
  shown : ¬server.Has wall → 0 ≤ wall % 60000 + server.gap wall ∧ wall % 60000 + server.gap wall < 60000

theorem clockText_toLocaleString (timeZone : TimeZone) (date : Instant) :
    clockText (timeZone.localTime date) = clockText (toLocaleString timeZone date) :=
  clockText_of_minute (by unfold toLocaleString; omega)

theorem keepsMinute_of_eq
    (same : formatActivityDateTime server buenosAires date = clockText (buenosAires.localTime date)) :
    KeepsMinute server (toLocaleString buenosAires date) := by
  rw [clockText_toLocaleString, formatActivityDateTime_eq] at same
  generalize toLocaleString buenosAires date = wall at *
  obtain ⟨below, above⟩ := server.localTime_utc_near wall
  by_cases within : -MAX_TIME ≤ server.utc wall ∧ server.utc wall ≤ MAX_TIME
  · rw [readLocaleString, timeClip_of_within within] at same
    refine ⟨within, fun skipped => ?_⟩
    have minute := (clockText_eq_iff below above).mp same.symm
    rw [TimeZone.localTime_utc_of_skipped skipped] at minute
    omega
  · rw [readLocaleString, timeClip_of_beyond within] at same
    exact absurd same (clockText_ne_nan wall)

theorem eq_of_keeps (keeps : KeepsMinute server (toLocaleString buenosAires date)) :
    formatActivityDateTime server buenosAires date = clockText (buenosAires.localTime date) := by
  rw [clockText_toLocaleString, formatActivityDateTime_eq, readLocaleString,
    timeClip_of_within keeps.within]
  refine (clockText_of_minute ?_).symm
  by_cases has : server.Has (toLocaleString buenosAires date)
  · rw [TimeZone.localTime_utc has]
  · have fits := keeps.shown has
    rw [TimeZone.localTime_utc_of_skipped has]
    omega

/-- **The time is that of Buenos Aires exactly where the server's clocks keep it.** -/
theorem formatActivityDateTime_iff (server buenosAires : TimeZone) (date : Instant) :
    formatActivityDateTime server buenosAires date = clockText (buenosAires.localTime date) ↔
      KeepsMinute server (toLocaleString buenosAires date) :=
  ⟨keepsMinute_of_eq, eq_of_keeps⟩

/-- Three hours behind. -/
def argentina : TimeZone := ⟨fun _ => -10800000, fun _ => by decide⟩

/-- New York, where the clocks are put forward at two o'clock on the eighth of March 2026. -/
def newYork : TimeZone :=
  ⟨fun instant => if instant < 1772953200000 then -18000000 else -14400000, fun instant => by
    split <;> decide⟩

/-- What begins in Buenos Aires at half past two that night is announced for another time. -/
theorem announced_another_time : ¬∀ (server : TimeZone) (date : Instant),
    formatActivityDateTime server argentina date = clockText (argentina.localTime date) := by
  intro always
  have keeps := keepsMinute_of_eq (always newYork 1772947800000)
  have wall : toLocaleString argentina 1772947800000 = 1772937000000 := rfl
  rw [wall] at keeps
  have skipped : ¬newYork.Has 1772937000000 := by
    rintro ⟨instant, shows⟩
    simp only [TimeZone.localTime, newYork] at shows
    split at shows <;> omega
  have fits := keeps.shown skipped
  obtain ⟨last, gap⟩ := newYork.exists_gap_eq 1772937000000
  rw [gap] at fits
  simp only [newYork] at fits
  split at fits <;> split at fits <;> omega

end ParentalCoord.Notifications

import Mathlib.Data.Int.LeastGreatest
import Mathlib.Tactic.Ring

/-!
Time zones, and which instant a wall clock stands for.

A zone is what its clocks are ahead of UTC by, at each instant.  Where the clocks are put
forward some times are skipped, and where they are put back some come twice.  A time that
comes twice stands for the first instant that shows it; one that is skipped is taken as if the
clocks had not been put forward yet.  Instants and times are in milliseconds.
-/

namespace ParentalCoord

structure TimeZone where
  offset : ℤ → ℤ
  /-- Less than a day. -/
  bounded : ∀ instant, -86400000 < offset instant ∧ offset instant < 86400000

namespace TimeZone

variable {zone : TimeZone} {instant wall : ℤ}

/-- What the clocks show at an instant. -/
def localTime (zone : TimeZone) (instant : ℤ) : ℤ := instant + zone.offset instant

/-- At some instant the clocks show this. -/
def Has (zone : TimeZone) (wall : ℤ) : Prop := ∃ instant, zone.localTime instant = wall

theorem localTime_near (zone : TimeZone) (instant : ℤ) :
    instant - 86400000 < zone.localTime instant ∧ zone.localTime instant < instant + 86400000 := by
  have bounded := zone.bounded instant
  unfold localTime
  omega

theorem near_of_shows (shows : zone.localTime instant = wall) :
    wall - 86400000 ≤ instant ∧ instant ≤ wall + 86400000 := by
  have near := zone.localTime_near instant
  omega

instance : DecidablePred zone.Has := fun wall =>
  decidable_of_iff (∃ n : ℕ, n < 172800000 ∧ zone.localTime (wall - 86400000 + n) = wall) <| by
    constructor
    · rintro ⟨n, -, shows⟩
      exact ⟨_, shows⟩
    · rintro ⟨instant, shows⟩
      have near := zone.localTime_near instant
      refine ⟨(instant - (wall - 86400000)).toNat, by omega, ?_⟩
      rw [Int.toNat_of_nonneg (by omega), add_sub_cancel, shows]

/-- The first instant at which the clocks show this. -/
def firstInstant (zone : TimeZone) (wall : ℤ) (has : zone.Has wall) : ℤ :=
  (Int.leastOfBdd (wall - 86400000) (fun _ shows => (near_of_shows shows).1) has).1

/-- The last instant at which the clocks show this. -/
def lastInstant (zone : TimeZone) (wall : ℤ) (has : zone.Has wall) : ℤ :=
  (Int.greatestOfBdd (wall + 86400000) (fun _ shows => (near_of_shows shows).2) has).1

theorem exists_before (zone : TimeZone) (wall : ℤ) : ∃ before, before < wall ∧ zone.Has before :=
  ⟨zone.localTime (wall - 86400000), by have near := zone.localTime_near (wall - 86400000); omega, _, rfl⟩

/-- The last time before this one that the clocks show. -/
def lastBefore (zone : TimeZone) (wall : ℤ) : { before // before < wall ∧ zone.Has before } :=
  have last := Int.greatestOfBdd wall (fun _ before => before.1.le) (zone.exists_before wall)
  ⟨last.1, last.2.1⟩

/-- The instant that a wall clock stands for. -/
def utc (zone : TimeZone) (wall : ℤ) : ℤ :=
  if has : zone.Has wall then wall - zone.offset (zone.firstInstant wall has)
  else
    have before := zone.lastBefore wall
    wall - zone.offset (zone.lastInstant before.1 before.2.2)

/-- What the clocks are put forward by over a time that they skip. -/
def gap (zone : TimeZone) (wall : ℤ) : ℤ :=
  have before := zone.lastBefore wall
  have last := zone.lastInstant before.1 before.2.2
  zone.offset (wall - zone.offset last) - zone.offset last

theorem localTime_firstInstant (has : zone.Has wall) :
    zone.localTime (zone.firstInstant wall has) = wall :=
  (Int.leastOfBdd (wall - 86400000) (fun _ shows => (near_of_shows shows).1) has).2.1

/-- A time that the clocks show is read back as itself. -/
theorem localTime_utc (has : zone.Has wall) : zone.localTime (zone.utc wall) = wall := by
  have shows := localTime_firstInstant has
  have same : zone.utc wall = zone.firstInstant wall has := by
    unfold utc
    rw [dif_pos has]
    unfold localTime at shows
    omega
  rw [same, shows]

/-- A time that is skipped is read as one that is later by the gap. -/
theorem localTime_utc_of_skipped (skipped : ¬zone.Has wall) :
    zone.localTime (zone.utc wall) = wall + zone.gap wall := by
  unfold localTime utc gap
  rw [dif_neg skipped]
  ring

theorem exists_gap_eq (zone : TimeZone) (wall : ℤ) :
    ∃ last, zone.gap wall = zone.offset (wall - zone.offset last) - zone.offset last := ⟨_, rfl⟩

theorem exists_utc_eq (zone : TimeZone) (wall : ℤ) :
    ∃ instant, zone.utc wall = wall - zone.offset instant := by
  unfold utc
  split
  · exact ⟨_, rfl⟩
  · exact ⟨_, rfl⟩

/-- A time that is skipped is read as one that is less than two days off. -/
theorem localTime_utc_near (zone : TimeZone) (wall : ℤ) :
    wall - 172800000 < zone.localTime (zone.utc wall) ∧
      zone.localTime (zone.utc wall) < wall + 172800000 := by
  obtain ⟨instant, same⟩ := zone.exists_utc_eq wall
  have bounded := zone.bounded instant
  have near := zone.localTime_near (zone.utc wall)
  omega

end TimeZone

end ParentalCoord

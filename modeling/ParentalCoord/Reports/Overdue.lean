import ParentalCoord.Activities.Guarantees
import ParentalCoord.Reports.Repository

/-!
Which of the overdue activities the report counts as overdue.

The report goes by the deadline.  An activity that expires while it waits for an answer
keeps its deadline; one that expires without an assignee, or without being verified, has it
cleared.  So the history of a row tells whether the report counts it.
-/

namespace ParentalCoord.Activities

open Store

variable {config : Config} {row row' : ActivityEntity} {event : InsertOutboxEventInput}
  {events : List InsertOutboxEventInput}

/-- Of the rules into `overdue`, only the one from `assigned` keeps the deadline. -/
theorem Moves.expired_deadline (moves : Moves config event row row') (late : row'.status = .overdue) :
    row'.deadline = if row.status = .assigned then row.deadline else none := by
  cases moves with
  | @transition req _ rule now actorRole made live admitted =>
    have overdue : req.to_ = .overdue := late
    have actor := made.system_of_overdue overdue
    obtain ⟨resolved, waits⟩ := made.expires overdue admitted
    rcases waits with status | status | status
    all_goals
      rw [status] at resolved ⊢
      cases resolved
      cases made <;> cases actor
      rfl

/-- An overdue row has a deadline exactly when it expired while it was assigned. -/
theorem History.expired_deadline (history : History config events row) (late : row.status = .overdue) :
    row.deadline.isSome ↔ cameFrom events = some (.str ActivityStatus.assigned.value) := by
  rw [cameFrom_assigned history late]
  cases history with
  | opened opens =>
    obtain ⟨bondId, dto, userId, criticality, now, id⟩ := opens
    cases assignee : dto.assignedTo <;>
      simp [InsertWithInitialTransitionInput.saved, createInput, resolveInitial, assignee] at late
  | @moved _ _ before _ earlier moves =>
    have shape := History.shape earlier
    have origin := moves.origin shape late
    rw [moves.expired_deadline late]
    by_cases assigned : before.status = .assigned
    · have waited := shape.columns.deadline (by rw [assigned]; decide)
      rw [if_pos assigned]
      rw [assigned] at origin
      refine iff_of_true waited ?_
      cases expired : overdueOrigin row <;> rw [expired] at origin <;> first | rfl | cases origin
    · rw [if_neg assigned]
      refine iff_of_false Bool.false_ne_true fun expired => assigned ?_
      rw [origin, expired]
      rfl

end ParentalCoord.Activities

namespace ParentalCoord.Reports

open Activities Bonds Expenses Interleaving Store

/-! ## The counts of a report -/

theorem lookup_increment (bucket : List (String × ℕ)) (name key : String) :
    ((increment bucket name).lookup key).getD 0 =
      (bucket.lookup key).getD 0 + if name = key then 1 else 0 := by
  rw [increment, lookup_alter]
  by_cases same : key = name
  · simp [same]
  · simp [same, Ne.symm same]

/-- A bucket of the statuses has the number of the rows with the status. -/
theorem lookup_byStatus (rows : List ReportActivityRow) (status : ActivityStatus) :
    ((rows.foldl (fun bucket activity => increment bucket activity.status.value) []).lookup
      status.value).getD 0 = (rows.filter (·.status = status)).length := by
  have counted : ∀ bucket : List (String × ℕ),
      ((rows.foldl (fun bucket activity => increment bucket activity.status.value) bucket).lookup
        status.value).getD 0 =
          (bucket.lookup status.value).getD 0 + (rows.filter (·.status = status)).length := by
    induction rows with
    | nil => simp
    | cons row rest ih =>
      intro bucket
      rw [List.foldl_cons, ih, lookup_increment]
      by_cases same : row.status = status
      · simp [same]
        omega
      · have apart : row.status.value ≠ status.value := mt ActivityStatus.value_injective same
        simp [same, apart]
  simpa using counted []

/-! ## The activities that are counted -/

/-- The last transition of the events was from `assigned`. -/
def expiredAssigned (events : List InsertOutboxEventInput) : Bool :=
  match cameFrom events with
  | some (.str source) => source = ActivityStatus.assigned.value
  | _ => false

theorem expiredAssigned_iff (events : List InsertOutboxEventInput) :
    expiredAssigned events ↔ cameFrom events = some (.str ActivityStatus.assigned.value) := by
  unfold expiredAssigned
  split
  · rename_i source came
    rw [came, Option.some.injEq, Json.str.injEq, decide_eq_true_eq]
  · rename_i other
    exact iff_of_false nofun (other _)

/-- An activity as the builder takes it. -/
def StoredActivity.reported (activity : StoredActivity) : ReportActivityRow :=
  ⟨activity.status, activity.criticality, activity.deadline, activity.assignedTo⟩

variable {config : Activities.Config} {cfg : Config (activities config)} {db : Database}

/-- The activities of the report are those of the run, each with the instant it was created at. -/
def Database.Stores (db : Database) (world : Activities.World) : Prop :=
  ∀ activity ∈ db.activities.rows, world.activities.get activity.id = some activity.toActivityEntity

/-- An overdue activity is counted when it expired while assigned, and before the instant. -/
theorem isOverdue_iff (reachable : Reachable (activities config) cfg) {activity : StoredActivity}
    (found : cfg.world.activities.get activity.id = some activity.toActivityEntity)
    (late : activity.status = .overdue) (generatedAt : Instant) :
    isOverdue generatedAt activity.reported ↔
      expiredAssigned (eventsOf .activity activity.id cfg.world.outbox) ∧
        activity.deadline.any (· < generatedAt) := by
  have expired := (row_history reachable found).expired_deadline late
  have closed : activity.status ∉ TERMINAL_ACTIVITY_STATUSES := by
    rw [late]
    decide
  rw [expiredAssigned_iff, ← expired, isOverdue, Bool.and_eq_true]
  refine ⟨fun counted => ⟨?_, counted.2⟩, fun counted => ⟨decide_eq_true closed, counted.2⟩⟩
  obtain ⟨deadline, given, -⟩ := (Option.any_eq_true _ _).mp counted.2
  exact Option.isSome_iff_exists.mpr ⟨deadline, given⟩

section Counts

variable (bond : StoredBond) (period : BondReportPeriod) (generatedAt from_ to_ : Instant)
  (expenses : List ExpenseEntity) (categories : List CategoryEntity) (children : List StoredChild)
  (childActivityCounts : List (Uuid × ℕ))

theorem statuses_of_report (status : ActivityStatus) :
    ((reportOver db bond period generatedAt from_ to_ expenses categories children
      childActivityCounts).activities.byStatus.lookup status.value).getD 0 =
      ((BondReportRepository.findActivities db bond.id from_ to_).filter
        fun activity => activity.status = status).length := by
  change ((((BondReportRepository.findActivities db bond.id from_ to_).map
    StoredActivity.reported).foldl _ []).lookup _).getD 0 = _
  rw [lookup_byStatus, List.filter_map, List.length_map]
  rfl

theorem overdue_count :
    (reportOver db bond period generatedAt from_ to_ expenses categories children
      childActivityCounts).activities.overdue =
      ((BondReportRepository.findActivities db bond.id from_ to_).filter
        fun activity => isOverdue generatedAt activity.reported).length := by
  change (((BondReportRepository.findActivities db bond.id from_ to_).map
    StoredActivity.reported).filter _).length = _
  rw [List.filter_map, List.length_map]
  rfl

end Counts

/-- In every run, for every report of its activities: of the overdue ones it counts those that
expired while they were assigned, with a deadline before the report; those that expired
otherwise have none.  So the count and the ones that are left out cover all of them. -/
theorem overdue_of_report (reachable : Reachable (activities config) cfg)
    (stores : db.Stores cfg.world) (bond : StoredBond) (period : BondReportPeriod)
    (generatedAt from_ to_ : Instant) (expenses : List ExpenseEntity)
    (categories : List CategoryEntity) (children : List StoredChild)
    (childActivityCounts : List (Uuid × ℕ)) :
    let selected := BondReportRepository.findActivities db bond.id from_ to_
    let report := reportOver db bond period generatedAt from_ to_ expenses categories children
      childActivityCounts
    let counts := fun activity : StoredActivity =>
      expiredAssigned (eventsOf .activity activity.id cfg.world.outbox) &&
        activity.deadline.any (· < generatedAt)
    (∀ activity ∈ selected, activity.status = .overdue →
      (isOverdue generatedAt activity.reported ↔ counts activity) ∧
      (¬expiredAssigned (eventsOf .activity activity.id cfg.world.outbox) →
        activity.deadline = none)) ∧
    ((report.activities.byStatus.lookup ActivityStatus.overdue.value).getD 0 ≤
      report.activities.overdue +
        (selected.filter fun activity => activity.status = .overdue && !counts activity).length) := by
  intro selected report counts
  have row_of : ∀ activity ∈ selected,
      cfg.world.activities.get activity.id = some activity.toActivityEntity :=
    fun activity listed => stores activity (List.mem_filter.mp listed).1
  have counted : ∀ activity ∈ selected, activity.status = .overdue →
      (isOverdue generatedAt activity.reported ↔ counts activity) := by
    intro activity listed late
    rw [isOverdue_iff reachable (row_of activity listed) late, Bool.and_eq_true]
  refine ⟨fun activity listed late => ⟨counted activity listed late, fun other => ?_⟩, ?_⟩
  · have expired := (row_history reachable (row_of activity listed)).expired_deadline late
    rw [expiredAssigned_iff, ← expired] at other
    exact Option.not_isSome_iff_eq_none.mp other
  · have parts := @length_filter_or _
      (fun activity : StoredActivity => decide (activity.status = .overdue) && counts activity)
      (fun activity => decide (activity.status = .overdue) && !counts activity)
      (fun activity => activity.status = .overdue) selected
      (fun activity _ => by cases counts activity <;> simp)
      (fun activity _ both => by cases kept : counts activity <;> simp [kept] at both)
    have within : (selected.filter fun activity =>
        decide (activity.status = .overdue) && counts activity).length ≤
        (selected.filter fun activity => isOverdue generatedAt activity.reported).length := by
      rw [← List.countP_eq_length_filter, ← List.countP_eq_length_filter]
      refine List.countP_mono_left fun activity listed kept => ?_
      obtain ⟨late, kept⟩ := Bool.and_eq_true_iff.mp kept
      exact (counted activity listed (of_decide_eq_true late)).mpr kept
    calc ((report.activities.byStatus.lookup ActivityStatus.overdue.value).getD 0)
        = (selected.filter fun activity => activity.status = .overdue).length :=
          statuses_of_report bond period generatedAt from_ to_ expenses categories children
            childActivityCounts .overdue
      _ ≤ (selected.filter fun activity => isOverdue generatedAt activity.reported).length + _ := by
          rw [parts]
          exact Nat.add_le_add_right within _
      _ = report.activities.overdue + _ := by rw [overdue_count]

/-- The activity of the runs, after it has expired. -/
def expiredVisit (version : ℕ) (assignedTo : Option Uuid) (deadline : Option Instant) :
    StoredActivity where
  id := "a1"
  bondId := "b1"
  categoryId := "c1"
  type := .event
  status := .overdue
  version := version
  criticality := .medium
  title := "Pediatra"
  description := ""
  createdBy := "u1"
  assignedTo := assignedTo
  scheduledStart := some 864000000
  scheduledEnd := none
  deadline := deadline
  notifBefore := some "-3 days"
  notifAfter := some "1 day"
  createdAt := 0

/-- The shared bond with one activity. -/
def storing (activity : StoredActivity) : Database :=
  { shared with activities := ⟨[activity], by simp⟩ }

theorem overdue_of_report_expired : ∃ cfg : Config (activities defaults),
    Reachable (activities defaults) cfg ∧
    (storing (expiredVisit 3 (some "u2") (some 259200000))).Stores cfg.world ∧
    let report := reportOver (storing (expiredVisit 3 (some "u2") (some 259200000))) home june
      300000000 0 900000000 [] [] [] []
    (report.activities.byStatus.lookup ActivityStatus.overdue.value).getD 0 ≤
      report.activities.overdue +
        ([expiredVisit 3 (some "u2") (some 259200000)].filter fun activity =>
          activity.status = .overdue &&
            !(expiredAssigned (eventsOf .activity activity.id cfg.world.outbox) &&
              activity.deadline.any (· < 300000000))).length := by
  obtain ⟨cfg, run, shown⟩ := exists_played (fun _ _ => True) expired
    (fun cfg => cfg.world.activities.get "a1" =
      some (expiredVisit 3 (some "u2") (some 259200000)).toActivityEntity) (by decide +kernel)
  have stores : (storing (expiredVisit 3 (some "u2") (some 259200000))).Stores cfg.world := by
    intro activity listed
    obtain rfl := List.mem_singleton.mp listed
    exact of_decide_eq_true shown
  exact ⟨cfg, run, stores, (overdue_of_report run stores home june 300000000 0 900000000 [] [] [] []).2⟩

/-- An activity that expires while nobody is assigned is overdue in its status, and nowhere in
the count. -/
theorem created_overdue_uncounted : ∃ cfg : Config (activities defaults),
    Reachable (activities defaults) cfg ∧
    (storing (expiredVisit 2 none none)).Stores cfg.world ∧
    let report := reportOver (storing (expiredVisit 2 none none)) home june 300000000 0 900000000
      [] [] [] []
    report.activities.overdue < (report.activities.byStatus.lookup ActivityStatus.overdue.value).getD 0 := by
  obtain ⟨cfg, run, shown⟩ := exists_played (fun _ _ => True) (undisturbed ++ Activities.turns 1 1)
    (fun cfg => cfg.world.activities.get "a1" = some (expiredVisit 2 none none).toActivityEntity)
    (by decide +kernel)
  refine ⟨cfg, run, ?_, by decide⟩
  intro activity listed
  obtain rfl := List.mem_singleton.mp listed
  exact of_decide_eq_true shown

end ParentalCoord.Reports

import ParentalCoord.Reports.Repository

/-!
The compliance of the members of a bond, and the members section of its report.

Both count the activities of a member in a window, but not by the same date.  The query of
the compliance takes those that are scheduled in it.  The report takes an activity by its
date of reference, so it has besides those that are not scheduled and were created in it.
-/

namespace ParentalCoord.Reports

open Activities Bonds Expenses Store

/-! ## The query -/

structure ComplianceMemberRow where
  userId : Uuid
  firstName : String
  lastName : String
  total : ℕ
  completed : ℕ

/-- A row of the joined tables. -/
structure MemberActivity where
  member : BondMemberEntity
  personalData : PersonalDataEntity
  activity : Option StoredActivity

/-- The condition of the left join. -/
def StoredActivity.scheduledFor (bondId userId : Uuid) (from_ to_ : Instant)
    (activity : StoredActivity) : Bool :=
  activity.assignedTo = some userId && activity.bondId = bondId &&
    activity.scheduledStart.any fun start => from_ ≤ start && start < to_

/-- The rows of one membership. -/
def Database.withActivities (db : Database) (bondId : Uuid) (from_ to_ : Instant)
    (member : BondMemberEntity) : List MemberActivity :=
  (db.personalData.rows.filter fun data => data.userId = member.userId).flatMap fun data =>
    (outer (db.activities.rows.filter (·.scheduledFor bondId member.userId from_ to_))).map
      fun activity => ⟨member, data, activity⟩

/-- The columns of the groups. -/
def MemberActivity.group (row : MemberActivity) : Uuid × String × String :=
  (row.member.userId, row.personalData.firstName, row.personalData.lastName)

/-- A group as it is selected: `COUNT` passes over the rows without an activity. -/
def complianceRow (key : Uuid × String × String) (rows : List MemberActivity) : ComplianceMemberRow where
  userId := key.1
  firstName := key.2.1
  lastName := key.2.2
  total := (rows.filterMap (·.activity)).length
  completed := ((rows.filterMap (·.activity)).filter (·.status = .done)).length

/-- The rows of the members that have not left. -/
def Database.joinedActivities (db : Database) (bondId : Uuid) (from_ to_ : Instant) :
    List MemberActivity :=
  (db.members.rows.filter fun member => member.bondId = bondId && member.leftAt = none).flatMap
    (db.withActivities bondId from_ to_)

def BondMembersRepository.findActiveMembersWithActStats (db : Database) (bondId : Uuid)
    (from_ to_ : Instant) : List ComplianceMemberRow :=
  (groupBy MemberActivity.group (db.joinedActivities bondId from_ to_)).map fun (key, group) =>
    complianceRow key group

/-- The percentage that is added to a row. -/
def ComplianceMemberRow.percentage (row : ComplianceMemberRow) : ℚ :=
  if row.total > 0 then mathRound ((row.completed : ℚ) / row.total * 1000) / 10 else 0

/-! ## What each counts -/

section Counts

variable {db : Database} {bondId userId : Uuid} {from_ to_ : Instant} {member : BondMemberEntity}
  {data : PersonalDataEntity}

theorem filterMap_outer {α : Type} (rows : List α) : (outer rows).filterMap id = rows := by
  unfold outer
  split
  · rename_i empty
    rw [List.isEmpty_iff.mp empty]
    rfl
  · rw [List.filterMap_map]
    exact List.filterMap_some

/-- The user is an active member of the bond by one row. -/
def Database.OneMembership (db : Database) (bondId userId : Uuid) (member : BondMemberEntity) : Prop :=
  (db.members.rows.filter fun member => member.bondId = bondId && member.leftAt = none).filter
    (fun member => member.userId = userId) = [member]

theorem withActivities_eq (own : member.userId = userId)
    (profile : db.personalData.get userId = some data) :
    db.withActivities bondId from_ to_ member =
      (outer (db.activities.rows.filter (·.scheduledFor bondId userId from_ to_))).map
        fun activity => ⟨member, data, activity⟩ := by
  rw [Database.withActivities, own, Table.filter_of_get profile, List.flatMap_cons, List.flatMap_nil,
    List.append_nil]

theorem Database.OneMembership.own (once : db.OneMembership bondId userId member) : member.userId = userId := by
  have listed : member ∈ [member] := List.mem_singleton_self member
  rw [← once] at listed
  exact of_decide_eq_true (List.mem_filter.mp listed).2

/-- The joined rows of a member: one for each activity that is scheduled, or one without. -/
theorem joined_of_user (once : db.OneMembership bondId userId member)
    (profile : db.personalData.get userId = some data) :
    (db.joinedActivities bondId from_ to_).filter (fun row => row.member.userId = userId) =
      (outer (db.activities.rows.filter (·.scheduledFor bondId userId from_ to_))).map
        fun activity => ⟨member, data, activity⟩ := by
  have inherited : ∀ member, ∀ row ∈ db.withActivities bondId from_ to_ member,
      decide (row.member.userId = userId) = decide (member.userId = userId) := by
    intro member row joined
    simp only [Database.withActivities, List.mem_flatMap, List.mem_map] at joined
    obtain ⟨_, -, activity, -, rfl⟩ := joined
    rfl
  rw [Database.joinedActivities, filter_flatMap inherited, once, List.flatMap_cons, List.flatMap_nil,
    List.append_nil, withActivities_eq once.own profile]

/-- The names come with the user, so the group of the names is the group of the user. -/
theorem group_of_user (once : db.OneMembership bondId userId member)
    (profile : db.personalData.get userId = some data) {row : MemberActivity}
    (listed : row ∈ db.joinedActivities bondId from_ to_) :
    row.member.userId = userId ↔ row.group = (userId, data.firstName, data.lastName) := by
  constructor
  · intro same
    have found : row ∈ (db.joinedActivities bondId from_ to_).filter
        (fun row => row.member.userId = userId) := List.mem_filter.mpr ⟨listed, decide_eq_true same⟩
    rw [joined_of_user once profile] at found
    obtain ⟨activity, -, rfl⟩ := List.mem_map.mp found
    rw [MemberActivity.group, once.own]
  · intro same
    exact congrArg Prod.fst same

theorem exists_mem_outer {α : Type} (rows : List α) : ∃ first, first ∈ outer rows := by
  cases rows with
  | nil => exact ⟨none, List.mem_singleton_self none⟩
  | cons first rest => exact ⟨some first, List.mem_cons_self⟩

/-- The one row of a member: it counts what is scheduled for the member. -/
theorem compliance_of_member (once : db.OneMembership bondId userId member)
    (profile : db.personalData.get userId = some data) :
    let scheduled := db.activities.rows.filter (·.scheduledFor bondId userId from_ to_)
    (BondMembersRepository.findActiveMembersWithActStats db bondId from_ to_).filter
        (fun row => row.userId = userId) =
      [⟨userId, data.firstName, data.lastName, scheduled.length,
        (scheduled.filter (·.status = .done)).length⟩] := by
  intro scheduled
  have joined := @joined_of_user db bondId userId from_ to_ member data once profile
  have named : ∀ row ∈ db.joinedActivities bondId from_ to_, decide (row.group.1 = userId) =
      decide (row.group = (userId, data.firstName, data.lastName)) := fun row listed =>
    decide_eq_decide.mpr (group_of_user once profile listed)
  have there : (userId, data.firstName, data.lastName) ∈
      (db.joinedActivities bondId from_ to_).map MemberActivity.group := by
    obtain ⟨first, more⟩ := exists_mem_outer scheduled
    have found : (⟨member, data, first⟩ : MemberActivity) ∈
        (db.joinedActivities bondId from_ to_).filter (fun row => row.member.userId = userId) := by
      rw [joined]
      exact List.mem_map.mpr ⟨first, more, rfl⟩
    obtain ⟨listed, own⟩ := List.mem_filter.mp found
    exact List.mem_map.mpr ⟨_, listed, (group_of_user once profile listed).mp (of_decide_eq_true own)⟩
  have group : (db.joinedActivities bondId from_ to_).filter
      (fun row => row.group = (userId, data.firstName, data.lastName)) =
        (outer scheduled).map fun activity => ⟨member, data, activity⟩ := by
    rw [← joined]
    exact List.filter_congr fun row listed => (named row listed).symm
  have counted : ((outer scheduled).map fun activity =>
      (⟨member, data, activity⟩ : MemberActivity)).filterMap (·.activity) = scheduled := by
    rw [List.filterMap_map]
    exact filterMap_outer scheduled
  have alone := filter_groupBy there (fun key => decide (key.1 = userId)) named
  rw [group] at alone
  rw [BondMembersRepository.findActiveMembersWithActStats, List.filter_map]
  refine (congrArg (List.map _) alone).trans ?_
  simp only [List.map_cons, List.map_nil, complianceRow, counted]

/-- A live activity of the member that is not scheduled, and was created in the window. -/
def StoredActivity.unscheduledFor (bondId userId : Uuid) (from_ to_ : Instant)
    (activity : StoredActivity) : Bool :=
  activity.assignedTo = some userId && activity.bondId = bondId && activity.deletedAt = none &&
    activity.scheduledStart = none && from_ ≤ activity.createdAt && activity.createdAt < to_

/-- The activities of the report that are assigned to the member, by how they came to be in the
window. -/
theorem length_selected (keep : ActivityStatus → Bool)
    (live : ∀ activity ∈ db.activities.rows, activity.scheduledFor bondId userId from_ to_ →
      activity.deletedAt = none) :
    (db.activities.rows.filter fun activity => activity.selected bondId from_ to_ &&
        activity.assignedTo = some userId && keep activity.status).length =
      (db.activities.rows.filter fun activity =>
        activity.scheduledFor bondId userId from_ to_ && keep activity.status).length +
      (db.activities.rows.filter fun activity =>
        activity.unscheduledFor bondId userId from_ to_ && keep activity.status).length := by
  refine length_filter_or (fun activity listed => ?_) (fun activity _ both => ?_)
  · have kept := live activity listed
    rw [Bool.eq_iff_iff]
    cases scheduled : activity.scheduledStart with
    | none =>
      simp only [StoredActivity.selected, StoredActivity.reference, StoredActivity.scheduledFor,
        StoredActivity.unscheduledFor, scheduled, Option.getD_none, Option.any_none, Bool.and_false,
        Bool.false_and, Bool.false_or, Bool.and_eq_true, decide_eq_true_eq]
      tauto
    | some start =>
      simp only [StoredActivity.scheduledFor, scheduled, Option.any_some, Bool.and_eq_true,
        decide_eq_true_eq] at kept
      simp only [StoredActivity.selected, StoredActivity.reference, StoredActivity.scheduledFor,
        StoredActivity.unscheduledFor, scheduled, Option.getD_some, Option.any_some, reduceCtorEq,
        decide_false, Bool.and_false, Bool.false_and, Bool.or_false, Bool.and_eq_true,
        decide_eq_true_eq]
      tauto
  · simp only [StoredActivity.scheduledFor, StoredActivity.unscheduledFor, Bool.and_eq_true,
      decide_eq_true_eq] at both
    obtain ⟨⟨⟨-, starts⟩, -⟩, ⟨⟨⟨-, unscheduled⟩, -⟩, -⟩, -⟩ := both
    rw [unscheduled] at starts
    cases starts

end Counts

/-! ## Percentages -/

/-- The percentage before it is rounded. -/
def share (completed total : ℕ) : ℚ := if total = 0 then 0 else (completed : ℚ) / total * 100

theorem mathRound_near (value : ℚ) : |(mathRound value : ℚ) - value| ≤ 1 / 2 := by
  have below := Int.floor_le (value + 1 / 2)
  have above := Int.lt_floor_add_one (value + 1 / 2)
  rw [mathRound, abs_le]
  constructor <;> linarith

/-- The compliance rounds to one decimal. -/
theorem compliance_near (row : ComplianceMemberRow) :
    |row.percentage - share row.completed row.total| ≤ 1 / 20 := by
  unfold ComplianceMemberRow.percentage share
  by_cases none : row.total = 0
  · simp [none]
  · rw [if_pos (Nat.pos_of_ne_zero none), if_neg none]
    have near := abs_le.mp (mathRound_near ((row.completed : ℚ) / row.total * 1000))
    rw [abs_le]
    constructor <;> linarith [near.1, near.2]

/-- The report rounds to two, after it has added the epsilon. -/
theorem percentage_near (completed total : ℕ) :
    |percentage completed total - share completed total| ≤ 1 / 200 + EPSILON := by
  unfold percentage share round2
  by_cases none : total = 0
  · simp [none, EPSILON]
    norm_num
  · rw [if_neg (Nat.cast_ne_zero.mpr none), if_neg none]
    have near := abs_le.mp (mathRound_near (((completed : ℚ) / total * 100 + EPSILON) * 100))
    have small : 0 < EPSILON := by norm_num [EPSILON]
    rw [abs_le]
    constructor <;> linarith [near.1, near.2]

/-! ## The compliance and the report -/

/-- The entry of a membership. -/
def entryOf (db : Database) (bondId : Uuid) (from_ to_ : Instant) (member : BondMemberEntity) :
    BondReportMember :=
  let data := (db.users.get member.userId).bind fun user => db.personalData.get user.id
  memberSection
    ((BondReportRepository.findActivities db bondId from_ to_).map fun activity =>
      ⟨activity.status, activity.criticality, activity.deadline, activity.assignedTo⟩)
    { userId := member.userId
      firstName := (data.map (·.firstName)).getD ""
      lastName := (data.map (·.lastName)).getD ""
      role := member.role }

section Agreement

variable {db : Database} {bond : StoredBond} {userId : Uuid} {from_ to_ : Instant}
  {member : BondMemberEntity} {data : PersonalDataEntity}

/-- The one entry of a member. -/
theorem report_of_member (once : db.OneMembership bond.id userId member) (period : BondReportPeriod)
    (generatedAt : Instant) (expenses : List ExpenseEntity) (categories : List CategoryEntity)
    (children : List StoredChild) (childActivityCounts : List (Uuid × ℕ)) :
    (reportOver db bond period generatedAt from_ to_ expenses categories children
        childActivityCounts).members.filter (fun entry => entry.userId = userId) =
      [entryOf db bond.id from_ to_ member] := by
  have entries : (reportOver db bond period generatedAt from_ to_ expenses categories children
      childActivityCounts).members = (db.members.rows.filter fun member =>
        member.bondId = bond.id && member.leftAt = none).map (entryOf db bond.id from_ to_) := by
    simp only [reportOver, buildBondReport, reportInput, BondReportRepository.findMembers, List.map_map]
    rfl
  rw [entries, List.filter_map]
  exact congrArg (List.map _) once

/-- An entry counts what is assigned to the member, of what is selected. -/
theorem entry_counts (own : member.userId = userId) :
    (entryOf db bond.id from_ to_ member).assigned =
      (db.activities.rows.filter fun activity => activity.selected bond.id from_ to_ &&
        activity.assignedTo = some userId && true).length ∧
    (entryOf db bond.id from_ to_ member).completed =
      (db.activities.rows.filter fun activity => activity.selected bond.id from_ to_ &&
        activity.assignedTo = some userId && activity.status = .done).length := by
  subst own
  simp only [entryOf, memberSection, BondReportRepository.findActivities, List.filter_map,
    List.length_map, List.filter_filter]
  constructor
  all_goals
    refine congrArg List.length (List.filter_congr fun activity _ => ?_)
    simp only [Function.comp_apply, Bool.and_comm, Bool.true_and]

/-- For every window, a member with a profile and one membership, who has nothing deleted that is
scheduled in the window: the report counts what the compliance counts, and what is not
scheduled and was created in the window; where there is nothing of that, both have the
percentage of the same numbers, each rounded in its own way. -/
theorem compliance_agrees (once : db.OneMembership bond.id userId member)
    (profile : db.personalData.get userId = some data)
    (live : ∀ activity ∈ db.activities.rows, activity.scheduledFor bond.id userId from_ to_ →
      activity.deletedAt = none)
    (period : BondReportPeriod) (generatedAt : Instant) (expenses : List ExpenseEntity)
    (categories : List CategoryEntity) (children : List StoredChild)
    (childActivityCounts : List (Uuid × ℕ)) :
    let unscheduled := db.activities.rows.filter (·.unscheduledFor bond.id userId from_ to_)
    ∃ row entry,
      (BondMembersRepository.findActiveMembersWithActStats db bond.id from_ to_).filter
        (fun row => row.userId = userId) = [row] ∧
      (reportOver db bond period generatedAt from_ to_ expenses categories children
        childActivityCounts).members.filter (fun entry => entry.userId = userId) = [entry] ∧
      entry.assigned = row.total + unscheduled.length ∧
      entry.completed = row.completed + (unscheduled.filter (·.status = .done)).length ∧
      (unscheduled = [] →
        |row.percentage - share row.completed row.total| ≤ 1 / 20 ∧
        |entry.completionPercentage - share row.completed row.total| ≤ 1 / 200 + EPSILON) := by
  intro unscheduled
  obtain ⟨assigned, completed⟩ := @entry_counts db bond userId from_ to_ member once.own
  rw [length_selected (fun _ => true) live] at assigned
  rw [length_selected (fun status => decide (status = .done)) live] at completed
  simp only [Bool.and_true] at assigned
  simp only [Bool.and_comm (StoredActivity.scheduledFor _ _ _ _ _),
    Bool.and_comm (StoredActivity.unscheduledFor _ _ _ _ _), ← List.filter_filter] at completed
  refine ⟨_, entryOf db bond.id from_ to_ member, compliance_of_member once profile,
    report_of_member once period generatedAt expenses categories children childActivityCounts,
    assigned, completed, fun none => ⟨compliance_near _, ?_⟩⟩
  change |percentage (entryOf db bond.id from_ to_ member).completed
    (entryOf db bond.id from_ to_ member).assigned - share _ _| ≤ _
  change db.activities.rows.filter (·.unscheduledFor bond.id userId from_ to_) = [] at none
  rw [none, List.length_nil, Nat.add_zero] at assigned
  rw [none, List.filter_nil, List.length_nil, Nat.add_zero] at completed
  rw [assigned, completed]
  exact percentage_near _ _

theorem mem_of_filter {α : Type} {keep : α → Bool} {row : α} {rows : List α}
    (alone : rows.filter keep = [row]) : row ∈ rows := by
  have found : row ∈ [row] := List.mem_singleton_self row
  rw [← alone] at found
  exact (List.mem_filter.mp found).1

end Agreement

/-- The membership of the one user of the shared bond. -/
def eva : BondMemberEntity := ⟨"m1", "b1", "u1", "progenitor", some 0, none⟩

/-- June, as instants. -/
def juneStart : Instant := 20605 * MS_PER_DAY

def juneEnd : Instant := 20635 * MS_PER_DAY

theorem compliance_agrees_june : ∃ row entry,
    row ∈ BondMembersRepository.findActiveMembersWithActStats shared "b1" juneStart juneEnd ∧
    entry ∈ (reportOver shared home june 0 juneStart juneEnd [] [] [] []).members ∧
    entry.assigned = row.total + 1 ∧ entry.completed = row.completed + 1 := by
  obtain ⟨row, entry, shown, listed, assigned, completed, -⟩ :=
    @compliance_agrees shared home "u1" juneStart juneEnd eva ⟨"u1", "Eva", "Ruiz", none⟩ rfl rfl
      (by decide) june 0 [] [] [] []
  exact ⟨row, entry, mem_of_filter shown, mem_of_filter listed, assigned, completed⟩

/-- An activity that was created in June and is not scheduled is in the report only. -/
theorem compliance_without_unscheduled : ∃ row entry,
    row ∈ BondMembersRepository.findActiveMembersWithActStats shared "b1" juneStart juneEnd ∧
    entry ∈ (reportOver shared home june 0 juneStart juneEnd [] [] [] []).members ∧
    row.userId = entry.userId ∧ ¬(row.total = entry.assigned ∧ row.completed = entry.completed) :=
  ⟨_, _, mem_of_filter (@compliance_of_member shared "b1" "u1" juneStart juneEnd eva
      ⟨"u1", "Eva", "Ruiz", none⟩ rfl rfl),
    mem_of_filter (@report_of_member shared home "u1" juneStart juneEnd eva rfl june 0 [] [] [] []),
    rfl, by decide⟩

end ParentalCoord.Reports

import ParentalCoord.Bonds.Membership
import ParentalCoord.Expenses.Service
import ParentalCoord.Reports.BondReport
import ParentalCoord.Reports.PdfRequests

/-!
What a report is built from: the tables, the window of a period, and the queries.

A period is two days, both included.  The queries are asked for a window that excludes its
end, which is the midnight after the last day; of the expenses, which have a date and no
time, it is the day after.
-/

namespace ParentalCoord.Reports

open Activities Bonds Expenses Store

/-! ## Tables -/

/-- A row of `activity`, with the column that only reports read. -/
structure StoredActivity extends ActivityEntity where
  createdAt : Instant

structure StoredBond where
  id : Uuid
  title : String
  agreementType : String
  isActive : Bool
  createdAt : Instant

structure StoredChild extends ChildEntity where
  createdAt : Instant

structure Database where
  bonds : Table StoredBond.id
  activities : Table fun activity : StoredActivity => activity.id
  expenses : Table ExpenseEntity.id
  categories : Table CategoryEntity.id
  children : Table fun child : StoredChild => child.id
  /-- The activity and the child of each row of `activity_child`. -/
  activityChildren : List (Uuid × Uuid)
  members : Table BondMemberEntity.id
  users : Table UserEntity.id
  personalData : Table PersonalDataEntity.userId

/-! ## Dates -/

/-- `new Date(date + 'T00:00:00.000Z')`, where an invalid date is an error as soon as it is
used. -/
def midnight (date : String) : Except Exception Instant :=
  match parseDay date with
  | some day => .ok (day * MS_PER_DAY)
  | none => .error (.error "Invalid time value")

/-- `date.toISOString().slice(0, 10)`. -/
def isoDay (instant : Instant) : String := String.ofList ((toISOString instant).toList.take 10)

def addDaysToIsoDate (date : String) (days : ℤ) : Except Exception String := do
  let parsed ← midnight date
  return isoDay (parsed + days * MS_PER_DAY)

/-- A text as Postgres reads a date: one that exists, of the year 1 or later. -/
def postgresDate (text : String) : Except Exception ℤ :=
  match parseDay text with
  | some day => if isRealDate text ∧ dayOfCivil 1 1 1 ≤ day then .ok day else .error .fault
  | none => .error .fault

/-! ## Queries -/

/-- `COALESCE(scheduled_start, created_at)`. -/
def StoredActivity.reference (activity : StoredActivity) : Instant :=
  activity.scheduledStart.getD activity.createdAt

/-- A live activity of the bond whose reference date is in the window. -/
def StoredActivity.selected (bondId : Uuid) (from_ toExclusive : Instant)
    (activity : StoredActivity) : Bool :=
  activity.bondId = bondId && activity.deletedAt = none && from_ ≤ activity.reference &&
    activity.reference < toExclusive

/-- The date of an expense is in the window. -/
def datedIn (fromDay toDay : ℤ) (expense : ExpenseEntity) : Bool :=
  (parseDay expense.expenseDate).any fun day => fromDay ≤ day && day < toDay

namespace BondReportRepository

def findBond (db : Database) (bondId : Uuid) : Option StoredBond := db.bonds.get bondId

def findActivities (db : Database) (bondId : Uuid) (from_ toExclusive : Instant) :
    List StoredActivity :=
  db.activities.rows.filter (·.selected bondId from_ toExclusive)

def findExpenses (db : Database) (bondId : Uuid) (fromDate toExclusiveDate : String) :
    Except Exception (List ExpenseEntity) := do
  let fromDay ← postgresDate fromDate
  let toDay ← postgresDate toExclusiveDate
  return db.expenses.rows.filter fun expense =>
    expense.bondId = bondId && datedIn fromDay toDay expense

def findCategoriesByIds (db : Database) (ids : List Uuid) : List CategoryEntity :=
  db.categories.rows.filter (·.id ∈ ids)

/-- `bond-report.repository.ts::findChildren`: the latest first. -/
def findChildren (db : Database) (bondId : Uuid) : List StoredChild :=
  (db.children.rows.filter (·.bondId = bondId)).mergeSort fun first second =>
    second.createdAt ≤ first.createdAt

/-- `bond-report.repository.ts::findChildActivityCounts`: the number of different activities of the
window that each child is in. -/
def findChildActivityCounts (db : Database) (bondId : Uuid) (from_ toExclusive : Instant) :
    List (Uuid × ℕ) :=
  let rows := (findActivities db bondId from_ toExclusive).flatMap fun activity =>
    (db.activityChildren.filter (·.1 = activity.id)).map fun child => (child.2, activity.id)
  (groupBy (·.1) rows).map fun (childId, group) => (childId, (group.map (·.2)).dedup.length)

/-- `bond-report.repository.ts::findMembers`: the members that have not left, with their profiles. -/
def findMembers (db : Database) (bondId : Uuid) :
    List (BondMemberEntity × Option PersonalDataEntity) :=
  (db.members.rows.filter fun member => member.bondId = bondId && member.leftAt = none).map
    fun member => (member, (db.users.get member.userId).bind fun user => db.personalData.get user.id)

end BondReportRepository

/-! ## The service -/

/-- The rows of a report, as the builder takes them. -/
def reportInput (bond : StoredBond) (period : BondReportPeriod) (generatedAt : Instant)
    (activities : List StoredActivity) (expenses : List ExpenseEntity)
    (categories : List CategoryEntity) (children : List StoredChild)
    (childActivityCounts : List (Uuid × ℕ))
    (members : List (BondMemberEntity × Option PersonalDataEntity)) : BondReportInput where
  bondId := bond.id
  bondTitle := bond.title
  dateFrom := period.dateFrom
  dateTo := period.dateTo
  generatedAt := generatedAt
  activities := activities.map fun activity =>
    ⟨activity.status, activity.criticality, activity.deadline, activity.assignedTo⟩
  expenses := expenses.map fun expense =>
    ⟨expense.status, .number (some (hundredths expense.amount)), expense.categoryId,
      expense.deletedAt⟩
  categories := categories.map fun category => ⟨category.id, category.name⟩
  children := children.map fun child =>
    ⟨child.id, child.firstName, child.lastName, child.dateOfBirth⟩
  childActivityCounts := childActivityCounts
  members := members.map fun (member, data) =>
    { userId := member.userId
      firstName := (data.map (·.firstName)).getD ""
      lastName := (data.map (·.lastName)).getD ""
      role := member.role }

/-- `bond-report.service.ts::build`: the rows of the bond in the window, and the report of them. -/
def BondReportService.build (db : Database) (now : Instant) (bondId : Uuid)
    (period : BondReportPeriod) : Except Exception BondReport := do
  if before period.dateTo period.dateFrom then
    throw (badRequestException "dateTo must be on or after dateFrom")
  else match BondReportRepository.findBond db bondId with
  | none => throw (notFoundException ("Bond " ++ bondId ++ " not found"))
  | some bond =>
    let toExclusiveDate ← addDaysToIsoDate period.dateTo 1
    let fromInstant ← midnight period.dateFrom
    let toInstant ← midnight toExclusiveDate
    let activities := BondReportRepository.findActivities db bondId fromInstant toInstant
    let expenses ← BondReportRepository.findExpenses db bondId period.dateFrom toExclusiveDate
    let children := BondReportRepository.findChildren db bondId
    let childActivityCounts :=
      BondReportRepository.findChildActivityCounts db bondId fromInstant toInstant
    let members := BondReportRepository.findMembers db bondId
    let categories := BondReportRepository.findCategoriesByIds db
      ((expenses.filterMap (·.categoryId)).filter truthy).dedup
    return buildBondReport (reportInput bond period now activities expenses categories children
      childActivityCounts members)

/-- The report of a bond of which the activities are those of a window. -/
def reportOver (db : Database) (bond : StoredBond) (period : BondReportPeriod) (generatedAt : Instant)
    (from_ to_ : Instant) (expenses : List ExpenseEntity) (categories : List CategoryEntity)
    (children : List StoredChild) (childActivityCounts : List (Uuid × ℕ)) : BondReport :=
  buildBondReport (reportInput bond period generatedAt
    (BondReportRepository.findActivities db bond.id from_ to_) expenses categories children
    childActivityCounts (BondReportRepository.findMembers db bond.id))

def home : StoredBond := ⟨"b1", "Home", "court", true, 0⟩

/-- A bond with a child and a member, a paid expense, and an activity done of two. -/
def shared : Database where
  bonds := .singleton home
  activities := ⟨[
    { id := "a1", bondId := "b1", categoryId := "c1", type := .event, status := .done, version := 4,
      criticality := .high, title := "Dentist", description := "", createdBy := "u1",
      assignedTo := some "u1", scheduledStart := none, scheduledEnd := none, deadline := none,
      notifBefore := none, notifAfter := none, createdAt := 20610 * MS_PER_DAY },
    { id := "a2", bondId := "b1", categoryId := "c1", type := .event, status := .assigned,
      version := 2, criticality := .low, title := "Library", description := "", createdBy := "u1",
      assignedTo := some "u1", scheduledStart := some (20620 * MS_PER_DAY), scheduledEnd := none,
      deadline := none, notifBefore := none, notifAfter := none, createdAt := 0 }], by decide⟩
  expenses := .singleton
    { id := "e1", bondId := "b1", categoryId := some "c1", concept := "Shoes", description := none,
      amount := 4599, expenseDate := "2026-06-30", splitRatioPayer := 50, splitRatioOther := 50,
      status := .paid, requestedBy := "u1", createdAt := 0, updatedAt := 0 }
  categories := .empty
  children := .singleton ⟨⟨"k1", "b1", "Ana", "Ruiz", none⟩, 0⟩
  activityChildren := [("a1", "k1")]
  members := .singleton ⟨"m1", "b1", "u1", "progenitor", some 0, none⟩
  users := .singleton ⟨"u1", "user"⟩
  personalData := .singleton ⟨"u1", "Eva", "Ruiz", none⟩

def june : BondReportPeriod := ⟨"2026-06-01", "2026-06-30"⟩

end ParentalCoord.Reports

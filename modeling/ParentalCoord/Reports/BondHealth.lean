import ParentalCoord.Calendar
import ParentalCoord.Reports.Repository

/-!
The health card of a bond, and that it shows what the report says.

The card of every bond is made of four grouped queries, each of which has a row only for
the bonds it finds something of; the report fetches the rows of one bond and counts them.
-/

namespace ParentalCoord.Reports

open Activities Bonds Expenses Store

structure BondHealthAggregates where
  activitiesTotal : ℕ
  activitiesCompleted : ℕ
  expensesEligibleAmount : ℚ
  expensesPaidAmount : ℚ
  childrenCount : ℕ
  membersCount : ℕ

structure BondHealthRow where
  bondId : Uuid
  title : String
  agreementType : String
  isActive : Bool
  membersCount : ℕ
  childrenCount : ℕ
  activitiesTotal : ℕ
  completionRate : ℚ
  paidAmountPercentage : ℚ

def EMPTY_AGGREGATES : BondHealthAggregates := ⟨0, 0, 0, 0, 0, 0⟩

/-- `build-bond-health.ts::buildBondHealthRow`: the aggregates of a bond as percentages and
amounts. -/
def buildBondHealthRow (bond : StoredBond) (aggregates : BondHealthAggregates) : BondHealthRow where
  bondId := bond.id
  title := bond.title
  agreementType := bond.agreementType
  isActive := bond.isActive
  membersCount := aggregates.membersCount
  childrenCount := aggregates.childrenCount
  activitiesTotal := aggregates.activitiesTotal
  completionRate := percentage aggregates.activitiesCompleted aggregates.activitiesTotal
  paidAmountPercentage :=
    percentage aggregates.expensesPaidAmount aggregates.expensesEligibleAmount

/-- `SUM(amount)`, of a `numeric` column. -/
def sumColumn (rows : List ExpenseEntity) : ℚ := (rows.map fun row => hundredths row.amount).sum

namespace BondHealthRepository

/-- `bond-health.repository.ts::findBonds`: the latest first. -/
def findBonds (db : Database) : List StoredBond :=
  db.bonds.rows.mergeSort fun first second => second.createdAt ≤ first.createdAt

/-- `result.set(bondId, { ...base(bondId), ... })`, for every row of a grouped query. -/
def fill {ρ : Type} (rows : List (Uuid × List ρ))
    (change : List ρ → BondHealthAggregates → BondHealthAggregates)
    (result : List (Uuid × BondHealthAggregates)) : List (Uuid × BondHealthAggregates) :=
  rows.foldl (fun result row => alter row.1 EMPTY_AGGREGATES (change row.2) result) result

/-- `COUNT(*)`, and `COUNT(*) FILTER (WHERE a.status = 'done')`. -/
def countActivities (group : List StoredActivity) (current : BondHealthAggregates) :
    BondHealthAggregates :=
  { current with
    activitiesTotal := group.length
    activitiesCompleted := (group.filter (·.status = .done)).length }

/-- The sums of what is not rejected and of what is paid. -/
def sumExpenses (group : List ExpenseEntity) (current : BondHealthAggregates) :
    BondHealthAggregates :=
  { current with
    expensesEligibleAmount := sumColumn (group.filter (·.status ≠ .rejected))
    expensesPaidAmount := sumColumn (group.filter (·.status = .paid)) }

def countChildren (group : List StoredChild) (current : BondHealthAggregates) :
    BondHealthAggregates :=
  { current with childrenCount := group.length }

def countMembers (group : List BondMemberEntity) (current : BondHealthAggregates) :
    BondHealthAggregates :=
  { current with membersCount := group.length }

def activityRows (db : Database) (bondIds : List Uuid) (from_ toExclusive : Instant) :
    List (Uuid × List StoredActivity) :=
  groupBy (·.bondId) (db.activities.rows.filter fun activity =>
    activity.bondId ∈ bondIds && activity.deletedAt = none && from_ ≤ activity.reference &&
      activity.reference < toExclusive)

def expenseRows (db : Database) (bondIds : List Uuid) (fromDay toDay : ℤ) :
    List (Uuid × List ExpenseEntity) :=
  groupBy (·.bondId) (db.expenses.rows.filter fun expense =>
    expense.bondId ∈ bondIds && expense.deletedAt = none && datedIn fromDay toDay expense)

def childRows (db : Database) (bondIds : List Uuid) : List (Uuid × List StoredChild) :=
  groupBy (·.bondId) (db.children.rows.filter (·.bondId ∈ bondIds))

def memberRows (db : Database) (bondIds : List Uuid) : List (Uuid × List BondMemberEntity) :=
  groupBy (·.bondId) (db.members.rows.filter fun member =>
    member.bondId ∈ bondIds && member.leftAt = none)

/-- `bond-health.repository.ts::aggregatesByBond`: the numbers of a bond within the window. -/
def aggregatesByBond (db : Database) (bondIds : List Uuid) (fromInstant toExclusiveInstant : Instant) :
    Except Exception (List (Uuid × BondHealthAggregates)) :=
  if bondIds.isEmpty then return []
  else do
    let fromDay ← postgresDate (isoDay fromInstant)
    let toDay ← postgresDate (isoDay toExclusiveInstant)
    return fill (memberRows db bondIds) countMembers
      (fill (childRows db bondIds) countChildren
        (fill (expenseRows db bondIds fromDay toDay) sumExpenses
          (fill (activityRows db bondIds fromInstant toExclusiveInstant) countActivities [])))

end BondHealthRepository

/-- `bond-health.service.ts::window`: the instants of a period. -/
def window (dateFrom dateTo : String) : Except Exception (Instant × Instant) := do
  if before dateTo dateFrom then
    throw (badRequestException "dateTo must be on or after dateFrom")
  else
    let toExclusiveDate ← addDaysToIsoDate dateTo 1
    let from_ ← midnight dateFrom
    let to_ ← midnight toExclusiveDate
    return (from_, to_)

def BondHealthService.health (db : Database) (period : BondReportPeriod) :
    Except Exception (List BondHealthRow) := do
  let (from_, to_) ← window period.dateFrom period.dateTo
  let bonds := BondHealthRepository.findBonds db
  let aggregates ← BondHealthRepository.aggregatesByBond db (bonds.map (·.id)) from_ to_
  return bonds.map fun bond =>
    buildBondHealthRow bond ((aggregates.lookup bond.id).getD EMPTY_AGGREGATES)

/-! ## What the card counts -/

section Aggregates

open BondHealthRepository

variable {db : Database} {bondId : Uuid} {bondIds : List Uuid}

theorem lookup_fill {ρ : Type} (key : ρ → Uuid) (rows : List ρ)
    (change : List ρ → BondHealthAggregates → BondHealthAggregates)
    (result : List (Uuid × BondHealthAggregates)) (bondId : Uuid)
    (blank : change [] ((result.lookup bondId).getD EMPTY_AGGREGATES) =
      (result.lookup bondId).getD EMPTY_AGGREGATES) :
    ((fill (groupBy key rows) change result).lookup bondId).getD EMPTY_AGGREGATES =
      change (rows.filter fun row => key row = bondId)
        ((result.lookup bondId).getD EMPTY_AGGREGATES) := by
  have distinct : ((groupBy key rows).map (·.1)).Nodup := by
    rw [keys_groupBy]
    exact List.nodup_dedup _
  rw [fill, lookup_foldl_alter EMPTY_AGGREGATES change bondId _ distinct, lookup_groupBy]
  by_cases there : bondId ∈ rows.map key
  · rw [if_pos there]
    rfl
  · have none : rows.filter (fun row => key row = bondId) = [] := by
      rw [List.filter_eq_nil_iff]
      intro row member same
      exact there (List.mem_map.mpr ⟨row, member, of_decide_eq_true same⟩)
    rw [if_neg there, none, blank]

theorem sumColumn_eq (rows : List ExpenseEntity) :
    sumColumn rows = hundredths (rows.map (·.amount)).sum := by
  induction rows with
  | nil => simp [sumColumn, hundredths]
  | cons row rest ih =>
    rw [sumColumn] at ih ⊢
    rw [List.map_cons, List.sum_cons, List.map_cons, List.sum_cons, hundredths_add, ih]

/-- The rows of a bond that is asked for, out of those of all that are. -/
theorem filter_asked {ρ : Type} (key : ρ → Uuid) (asked : bondId ∈ bondIds) (keep : ρ → Bool)
    (rows : List ρ) :
    (rows.filter fun row => key row ∈ bondIds && keep row).filter (fun row => key row = bondId) =
      rows.filter fun row => key row = bondId && keep row := by
  rw [List.filter_filter]
  refine List.filter_congr fun row _ => ?_
  by_cases own : key row = bondId
  · simp [own, asked]
  · simp [own]

/-- What the four queries leave for a bond that is asked for. -/
theorem aggregates_eq (asked : bondId ∈ bondIds) {from_ toExclusive : Instant} {fromDay toDay : ℤ}
    (first : postgresDate (isoDay from_) = .ok fromDay)
    (last : postgresDate (isoDay toExclusive) = .ok toDay)
    {aggregates : List (Uuid × BondHealthAggregates)}
    (found : aggregatesByBond db bondIds from_ toExclusive = .ok aggregates) :
    let activities := BondReportRepository.findActivities db bondId from_ toExclusive
    let expenses := db.expenses.rows.filter fun expense =>
      expense.bondId = bondId && (expense.deletedAt = none && datedIn fromDay toDay expense)
    (aggregates.lookup bondId).getD EMPTY_AGGREGATES =
      { activitiesTotal := activities.length
        activitiesCompleted := (activities.filter (·.status = .done)).length
        expensesEligibleAmount := sumColumn (expenses.filter (·.status ≠ .rejected))
        expensesPaidAmount := sumColumn (expenses.filter (·.status = .paid))
        childrenCount := (db.children.rows.filter (·.bondId = bondId)).length
        membersCount := (db.members.rows.filter fun member =>
          member.bondId = bondId && member.leftAt = none).length } := by
  intro activities expenses
  have some_asked : bondIds.isEmpty = false := by
    cases bondIds with
    | nil => cases asked
    | cons => rfl
  simp only [aggregatesByBond, some_asked, Bool.false_eq_true, ↓reduceIte, first, last] at found
  cases found
  have counted := lookup_fill (·.bondId) (db.activities.rows.filter fun activity =>
    activity.bondId ∈ bondIds && activity.deletedAt = none && from_ ≤ activity.reference &&
      activity.reference < toExclusive) countActivities [] bondId rfl
  have summed := lookup_fill (·.bondId) (db.expenses.rows.filter fun expense =>
    expense.bondId ∈ bondIds && expense.deletedAt = none && datedIn fromDay toDay expense)
    sumExpenses _ bondId (by rw [counted]; rfl)
  have children := lookup_fill (·.bondId) (db.children.rows.filter (·.bondId ∈ bondIds))
    countChildren _ bondId (by rw [summed, counted]; rfl)
  have members := lookup_fill (·.bondId) (db.members.rows.filter fun member =>
    member.bondId ∈ bondIds && member.leftAt = none) countMembers _ bondId
    (by rw [children, summed, counted]; rfl)
  rw [children, summed, counted] at members
  refine members.trans ?_
  have own := filter_asked (fun child : StoredChild => child.bondId) asked (fun _ => true)
    db.children.rows
  simp only [Bool.and_true] at own
  simp only [countMembers, countChildren, sumExpenses, countActivities, Bool.and_assoc,
    filter_asked _ asked, own, activities, expenses, BondReportRepository.findActivities,
    StoredActivity.selected]

end Aggregates

/-! ## The dates of a period -/

/-- A date that the database takes comes back as it was written. -/
theorem isoDay_of_postgresDate {text : String} {day : ℤ} (read : postgresDate text = .ok day) :
    midnight text = .ok (day * MS_PER_DAY) ∧ isoDay (day * MS_PER_DAY) = text := by
  unfold postgresDate at read
  split at read
  · rename_i found parsed
    split at read
    · rename_i real
      cases read
      refine ⟨by rw [midnight, parsed], ?_⟩
      have returned := real.1
      rw [isRealDate, parsed, Option.any_some, decide_eq_true_eq] at returned
      rw [isoDay, returned, String.ofList_toList]
    · cases read
  · cases read

theorem postgresDate_eq {text : String} {day : ℤ} (parsed : parseDay text = some day)
    (real : isRealDate text) (year_one : dayOfCivil 1 1 1 ≤ day) : postgresDate text = .ok day := by
  rw [postgresDate, parsed]
  exact if_pos ⟨real, year_one⟩

/-- The next day of a date, as far as it is of the year 9999 or before. -/
theorem addDays_of_postgresDate {text : String} {day : ℤ} (read : postgresDate text = .ok day)
    (later : day < dayOfCivil 9999 12 31) :
    ∃ next, addDaysToIsoDate text 1 = .ok next ∧ postgresDate next = .ok (day + 1) := by
  have year_one : dayOfCivil 1 1 1 ≤ day := by
    unfold postgresDate at read
    split at read
    · split at read
      · rename_i real
        cases read
        exact real.2
      · cases read
    · cases read
  have zero : dayOfCivil 0 1 1 ≤ dayOfCivil 1 1 1 := by decide
  have sum : day * MS_PER_DAY + 1 * MS_PER_DAY = (day + 1) * MS_PER_DAY := by ring
  refine ⟨isoDay ((day + 1) * MS_PER_DAY), ?_, ?_⟩
  · rw [addDaysToIsoDate, (isoDay_of_postgresDate read).1]
    exact congrArg (Except.ok ∘ isoDay) sum
  · have parsed : parseDay (isoDay ((day + 1) * MS_PER_DAY)) = some (day + 1) :=
      parseDay_returned (by omega) (by omega) String.toList_ofList
    have real : isRealDate (isoDay ((day + 1) * MS_PER_DAY)) := by
      rw [isRealDate, parsed, Option.any_some, decide_eq_true_eq, isoDay, String.toList_ofList]
    exact postgresDate_eq parsed real (by omega)

/-! ## The card and the report -/

/-- What a report that was built was built from. -/
theorem build_cases {db : Database} {now : Instant} {bondId : Uuid} {period : BondReportPeriod}
    {report : BondReport} (built : BondReportService.build db now bondId period = .ok report) :
    ∃ bond fromDay toDay toExclusiveDate,
      addDaysToIsoDate period.dateTo 1 = .ok toExclusiveDate ∧
      postgresDate period.dateFrom = .ok fromDay ∧ postgresDate toExclusiveDate = .ok toDay ∧
      report = buildBondReport (reportInput bond period now
        (BondReportRepository.findActivities db bondId (fromDay * MS_PER_DAY) (toDay * MS_PER_DAY))
        (db.expenses.rows.filter fun expense =>
          expense.bondId = bondId && datedIn fromDay toDay expense)
        (BondReportRepository.findCategoriesByIds db (((db.expenses.rows.filter fun expense =>
          expense.bondId = bondId && datedIn fromDay toDay expense).filterMap
            (·.categoryId)).filter truthy).dedup)
        (BondReportRepository.findChildren db bondId)
        (BondReportRepository.findChildActivityCounts db bondId (fromDay * MS_PER_DAY)
          (toDay * MS_PER_DAY))
        (BondReportRepository.findMembers db bondId)) := by
  unfold BondReportService.build at built
  split at built
  · cases built
  · split at built
    · cases built
    · rename_i bond _
      obtain ⟨toExclusiveDate, next, built⟩ := bind_ok built
      obtain ⟨fromInstant, starts, built⟩ := bind_ok built
      obtain ⟨toInstant, ends, built⟩ := bind_ok built
      obtain ⟨expenses, paid, built⟩ := bind_ok built
      obtain ⟨fromDay, first, paid⟩ := bind_ok paid
      obtain ⟨toDay, last, paid⟩ := bind_ok paid
      rw [(isoDay_of_postgresDate first).1] at starts
      rw [(isoDay_of_postgresDate last).1] at ends
      cases starts
      cases ends
      cases paid
      cases built
      exact ⟨bond, fromDay, toDay, toExclusiveDate, next, first, last, rfl⟩

/-- The card of every bond, when there are cards. -/
theorem health_cases {db : Database} {period : BondReportPeriod} {rows : List BondHealthRow}
    {toExclusiveDate : String} {fromDay toDay : ℤ}
    (next : addDaysToIsoDate period.dateTo 1 = .ok toExclusiveDate)
    (first : postgresDate period.dateFrom = .ok fromDay)
    (last : postgresDate toExclusiveDate = .ok toDay)
    (shown : BondHealthService.health db period = .ok rows) :
    ∃ aggregates, BondHealthRepository.aggregatesByBond db
        ((BondHealthRepository.findBonds db).map (·.id)) (fromDay * MS_PER_DAY) (toDay * MS_PER_DAY) =
          .ok aggregates ∧
      rows = (BondHealthRepository.findBonds db).map fun bond =>
        buildBondHealthRow bond ((aggregates.lookup bond.id).getD EMPTY_AGGREGATES) := by
  obtain ⟨⟨from_, to_⟩, opened, shown⟩ := bind_ok shown
  unfold window at opened
  split at opened
  · cases opened
  · obtain ⟨toExclusiveDate', next', opened⟩ := bind_ok opened
    obtain ⟨fromInstant, starts, opened⟩ := bind_ok opened
    obtain ⟨toInstant, ends, opened⟩ := bind_ok opened
    cases next.symm.trans next'
    rw [(isoDay_of_postgresDate first).1] at starts
    rw [(isoDay_of_postgresDate last).1] at ends
    cases starts
    cases ends
    cases opened
    obtain ⟨aggregates, grouped, shown⟩ := bind_ok shown
    cases shown
    exact ⟨aggregates, grouped, rfl⟩

/-- The card of every bond, when the window is open and the queries answer. -/
theorem health_ok {db : Database} {period : BondReportPeriod} {from_ to_ : Instant}
    {aggregates : List (Uuid × BondHealthAggregates)}
    (opened : window period.dateFrom period.dateTo = .ok (from_, to_))
    (grouped : BondHealthRepository.aggregatesByBond db
      ((BondHealthRepository.findBonds db).map (·.id)) from_ to_ = .ok aggregates) :
    BondHealthService.health db period = .ok ((BondHealthRepository.findBonds db).map fun bond =>
      buildBondHealthRow bond ((aggregates.lookup bond.id).getD EMPTY_AGGREGATES)) := by
  rw [BondHealthService.health, opened]
  simp only [bind, Except.bind, grouped]
  rfl

/-- The list of the bonds has a bond once. -/
theorem filter_findBonds {db : Database} {bondId : Uuid} {bond : StoredBond}
    (found : db.bonds.get bondId = some bond) :
    (BondHealthRepository.findBonds db).filter (fun bond => bond.id = bondId) = [bond] := by
  have sorted := (List.mergeSort_perm db.bonds.rows fun first second =>
    decide (second.createdAt ≤ first.createdAt)).filter fun bond => decide (bond.id = bondId)
  rw [Table.filter_of_get found] at sorted
  exact List.perm_singleton.mp sorted

/-- The report of a bond that exists is built, when its dates are good. -/
theorem build_ok {db : Database} (now : Instant) {bondId : Uuid} {bond : StoredBond}
    {period : BondReportPeriod} {toExclusiveDate : String} {fromDay toDay : ℤ}
    (ordered : ¬before period.dateTo period.dateFrom) (found : db.bonds.get bondId = some bond)
    (next : addDaysToIsoDate period.dateTo 1 = .ok toExclusiveDate)
    (first : postgresDate period.dateFrom = .ok fromDay)
    (last : postgresDate toExclusiveDate = .ok toDay) :
    ∃ report, BondReportService.build db now bondId period = .ok report := by
  rw [BondReportService.build, if_neg ordered, BondReportRepository.findBond, found, next]
  simp only [bind, Except.bind, (isoDay_of_postgresDate first).1, (isoDay_of_postgresDate last).1,
    BondReportRepository.findExpenses, first, last]
  exact ⟨_, rfl⟩

/-- The figures of a card are those of a report. -/
structure SameFigures (row : BondHealthRow) (report : BondReport) : Prop where
  activitiesTotal : row.activitiesTotal = report.activities.total
  completionRate : row.completionRate = report.activities.completionRate
  paidAmountPercentage : row.paidAmountPercentage = report.expenses.paidAmountPercentage
  childrenCount : row.childrenCount = report.children.length
  membersCount : row.membersCount = report.members.length

/-- The amounts of the rows that are kept, of those that are not deleted. -/
theorem sumAmounts_filter (expenses : List ExpenseEntity) (keep : ExpenseStatus → Bool)
    (live : ∀ status, keep status → status ≠ .rejected) :
    round2 (sumAmounts (((expenses.map fun expense => (⟨expense.status,
        .number (some (hundredths expense.amount)), expense.categoryId,
        expense.deletedAt⟩ : ReportExpenseRow)).filter isEligibleExpense).filter
        (keep ·.status))) =
      sumColumn ((expenses.filter (·.deletedAt = none)).filter (keep ·.status)) := by
  have same : expenses.filter ((fun row : ReportExpenseRow => keep row.status && isEligibleExpense row) ∘
      fun expense => ⟨expense.status, .number (some (hundredths expense.amount)),
        expense.categoryId, expense.deletedAt⟩) =
      expenses.filter fun expense => keep expense.status && decide (expense.deletedAt = none) := by
    refine List.filter_congr fun expense _ => ?_
    by_cases kept : keep expense.status
    · simp [kept, isEligibleExpense, live _ kept]
    · simp [kept]
  have summed : sumAmounts (((expenses.map fun expense => (⟨expense.status,
        .number (some (hundredths expense.amount)), expense.categoryId,
        expense.deletedAt⟩ : ReportExpenseRow)).filter isEligibleExpense).filter
        (keep ·.status)) =
      sumColumn ((expenses.filter (·.deletedAt = none)).filter (keep ·.status)) := by
    rw [sumAmounts_eq, List.filter_filter, List.filter_filter, List.filter_map, List.map_map, same]
    rfl
  rw [summed, sumColumn_eq, round2_hundredths]

theorem filter_eligible (rows : List ReportExpenseRow) :
    (rows.filter isEligibleExpense).filter (fun row => decide (row.status ≠ .rejected)) =
      rows.filter isEligibleExpense := by
  refine List.filter_eq_self.mpr fun row member => ?_
  have eligible := (List.mem_filter.mp member).2
  simp only [isEligibleExpense, Bool.and_eq_true] at eligible
  exact eligible.2

/-- The period is of days that exist, in their order, and has a day after it. -/
def BondReportPeriod.Inclusive (period : BondReportPeriod) : Prop :=
  ¬before period.dateTo period.dateFrom ∧ (∃ day, postgresDate period.dateFrom = .ok day) ∧
    ∃ day, postgresDate period.dateTo = .ok day ∧ day < dayOfCivil 9999 12 31

/-- For every database, period and bond, the card of the bond has the figures of its
report; and of an inclusive period both are made, and there is one card of the bond. -/
theorem health_is_report (db : Database) (now : Instant) (bondId : Uuid) (period : BondReportPeriod) :
    (∀ rows row report, BondHealthService.health db period = .ok rows → row ∈ rows →
      row.bondId = bondId → BondReportService.build db now bondId period = .ok report →
        SameFigures row report) ∧
    (period.Inclusive → (db.bonds.get bondId).isSome →
      ∃ rows row report, BondHealthService.health db period = .ok rows ∧
        rows.filter (·.bondId = bondId) = [row] ∧
        BondReportService.build db now bondId period = .ok report) := by
  constructor
  · intro rows row report shown member own built
    obtain ⟨reported, fromDay, toDay, toExclusiveDate, next, first, last, rfl⟩ := build_cases built
    obtain ⟨aggregates, grouped, rfl⟩ := health_cases next first last shown
    obtain ⟨bond, there, rfl⟩ := List.mem_map.mp member
    have asked : bondId ∈ (BondHealthRepository.findBonds db).map (·.id) :=
      List.mem_map.mpr ⟨bond, there, own⟩
    have figures := aggregates_eq asked (by rw [(isoDay_of_postgresDate first).2]; exact first)
      (by rw [(isoDay_of_postgresDate last).2]; exact last) grouped
    change bond.id = bondId at own
    rw [own, figures]
    constructor
    · simp [buildBondHealthRow, buildBondReport, reportInput]
    · simp [buildBondHealthRow, buildBondReport, reportInput, List.filter_map, Function.comp_def]
    · have live : (db.expenses.rows.filter fun expense =>
          expense.bondId = bondId && (expense.deletedAt = none && datedIn fromDay toDay expense)) =
          (db.expenses.rows.filter fun expense =>
            expense.bondId = bondId && datedIn fromDay toDay expense).filter (·.deletedAt = none) := by
        rw [List.filter_filter]
        refine List.filter_congr fun expense _ => ?_
        cases decide (expense.bondId = bondId) <;> cases decide (expense.deletedAt = none) <;> rfl
      have paid := sumAmounts_filter (db.expenses.rows.filter fun expense =>
        expense.bondId = bondId && datedIn fromDay toDay expense) (· = .paid)
        (fun status kept => by rw [of_decide_eq_true kept]; exact nofun)
      have eligible := sumAmounts_filter (db.expenses.rows.filter fun expense =>
        expense.bondId = bondId && datedIn fromDay toDay expense) (· ≠ .rejected)
        (fun status kept => by simpa using kept)
      rw [filter_eligible] at eligible
      simp only [buildBondHealthRow, live, ← paid, ← eligible, buildBondReport, reportInput]
    · simp [buildBondHealthRow, buildBondReport, reportInput, BondReportRepository.findChildren]
    · simp [buildBondHealthRow, buildBondReport, reportInput, BondReportRepository.findMembers]
  · rintro ⟨ordered, ⟨fromDay, first⟩, lastDay, ends, later⟩ there
    obtain ⟨bond, found⟩ := Option.isSome_iff_exists.mp there
    obtain ⟨toExclusiveDate, next, last⟩ := addDays_of_postgresDate ends later
    obtain ⟨from_written, from_back⟩ := isoDay_of_postgresDate first
    obtain ⟨to_written, to_back⟩ := isoDay_of_postgresDate last
    have opened : window period.dateFrom period.dateTo =
        .ok (fromDay * MS_PER_DAY, (lastDay + 1) * MS_PER_DAY) := by
      rw [window, if_neg ordered, next]
      simp only [bind, Except.bind, from_written, to_written]
      rfl
    obtain ⟨aggregates, grouped⟩ : ∃ aggregates, BondHealthRepository.aggregatesByBond db
        ((BondHealthRepository.findBonds db).map (·.id)) (fromDay * MS_PER_DAY)
        ((lastDay + 1) * MS_PER_DAY) = .ok aggregates := by
      unfold BondHealthRepository.aggregatesByBond
      split
      · exact ⟨[], rfl⟩
      · rw [from_back, to_back, first, last]
        exact ⟨_, rfl⟩
    obtain ⟨report, built⟩ := build_ok now ordered found next first last
    refine ⟨_, buildBondHealthRow bond ((aggregates.lookup bond.id).getD EMPTY_AGGREGATES), report,
      health_ok opened grouped, ?_, built⟩
    rw [List.filter_map]
    exact congrArg (List.map _) (filter_findBonds found)

theorem health_is_report_june : ∃ rows row report,
    BondHealthService.health shared june = .ok rows ∧ row ∈ rows ∧
      BondReportService.build shared 0 "b1" june = .ok report ∧ SameFigures row report := by
  have inclusive : june.Inclusive :=
    ⟨by decide +kernel, ⟨20605, postgresDate_eq (by decide +kernel) (by decide +kernel) (by decide)⟩,
      20634, postgresDate_eq (by decide +kernel) (by decide +kernel) (by decide), by decide⟩
  obtain ⟨rows, row, report, shown, alone, built⟩ :=
    (health_is_report shared 0 "b1" june).2 inclusive rfl
  have found : row ∈ rows.filter (·.bondId = "b1") := by
    rw [alone]
    exact List.mem_singleton_self row
  obtain ⟨member, own⟩ := List.mem_filter.mp found
  exact ⟨rows, row, report, shown, member, built,
    (health_is_report shared 0 "b1" june).1 rows row report shown member (of_decide_eq_true own) built⟩

end ParentalCoord.Reports

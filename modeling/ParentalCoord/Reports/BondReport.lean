import Mathlib.Data.Rat.Floor
import Mathlib.Tactic.Linarith
import Mathlib.Tactic.NormNum
import Mathlib.Tactic.Ring
import ParentalCoord.Activities.TransitionMap
import ParentalCoord.Expenses.Policy
import ParentalCoord.Store.Grouping

/-!
The report of a bond, built from rows.

The repository brings rows and the builder aggregates them; it knows no database.  Its
arithmetic is that of the decimals, not of the binary numbers they are kept in.
-/

namespace ParentalCoord.Activities

def Criticality.value : Criticality → String
  | .critical => "critical"
  | .high => "high"
  | .medium => "medium"
  | .low => "low"

end ParentalCoord.Activities

namespace ParentalCoord.Reports

open Activities Expenses Store

structure ReportActivityRow where
  status : ActivityStatus
  criticality : Criticality
  deadline : Option Instant
  assignedTo : Option Uuid

/-- `number | string`: a number, `none` where it is not finite, or the text that a `numeric`
column may come as. -/
inductive Amount where
  | number (value : Option ℚ)
  | text (value : String)
  deriving DecidableEq

structure ReportExpenseRow where
  status : ExpenseStatus
  amount : Amount
  categoryId : Option Uuid
  deletedAt : Option Instant

structure ReportCategoryRow where
  id : Uuid
  name : String

structure ReportChildRow where
  id : Uuid
  firstName : String
  lastName : String
  dateOfBirth : Option String

structure ReportMemberRow where
  userId : Uuid
  firstName : String
  lastName : String
  role : String

structure BondReportInput where
  bondId : Uuid
  bondTitle : String
  dateFrom : String
  dateTo : String
  generatedAt : Instant
  activities : List ReportActivityRow
  expenses : List ReportExpenseRow
  categories : List ReportCategoryRow
  children : List ReportChildRow
  childActivityCounts : List (Uuid × ℕ)
  members : List ReportMemberRow

structure BondReportActivitySection where
  total : ℕ
  completed : ℕ
  overdue : ℕ
  completionRate : ℚ
  byStatus : List (String × ℕ)
  byCriticality : List (String × ℕ)

structure BondExpenseStatusBucket where
  count : ℕ
  amount : ℚ

structure BondExpenseCategoryBucket where
  categoryId : Option Uuid
  categoryName : Option String
  count : ℕ
  amount : ℚ

structure BondReportExpenseSection where
  totalAmount : ℚ
  paidAmount : ℚ
  pendingAmount : ℚ
  paidAmountPercentage : ℚ
  paidCountPercentage : ℚ
  byStatus : List (String × BondExpenseStatusBucket)
  byCategory : List BondExpenseCategoryBucket

structure BondReportChild where
  id : Uuid
  firstName : String
  lastName : String
  dateOfBirth : Option String
  ageInYears : Option ℤ
  activityCount : ℕ

structure BondReportMember where
  userId : Uuid
  firstName : String
  lastName : String
  role : String
  assigned : ℕ
  completed : ℕ
  completionPercentage : ℚ

structure BondReport where
  bondId : Uuid
  bondTitle : String
  dateFrom : String
  dateTo : String
  generatedAt : String
  activities : BondReportActivitySection
  expenses : BondReportExpenseSection
  children : List BondReportChild
  members : List BondReportMember

/-! ## Numbers -/

/-- `Number.EPSILON`. -/
def EPSILON : ℚ := 1 / 2 ^ 52

/-- `Math.round(value)`: the nearest integer, the greater one of two. -/
def mathRound (value : ℚ) : ℤ := ⌊value + 1 / 2⌋

def round2 (value : ℚ) : ℚ := mathRound ((value + EPSILON) * 100) / 100

def percentage (numerator denominator : ℚ) : ℚ :=
  if denominator = 0 then 0 else round2 (numerator / denominator * 100)

/-- A whole number written in a base, in one or more digits. -/
def inBase (base : ℕ) (digits : List Char) : Option ℚ :=
  if digits = [] then none
  else (digits.foldlM (fun value c =>
    let digit := if c.isDigit then c.toNat - 48 else c.toLower.toNat - 87
    if (c.isDigit ∨ c.isAlpha) ∧ digit < base then some (value * base + digit) else none)
      (0 : ℕ)).map fun value => (value : ℚ)

/-- Digits that may have a point among them and an exponent behind. -/
def decimalLiteral (literal : List Char) : Option ℚ := do
  let (mantissa, marked) := literal.span fun c => c ≠ 'e' ∧ c ≠ 'E'
  let (whole, pointed) := mantissa.span (· ≠ '.')
  let fraction := pointed.drop 1
  let exponent ← match marked.drop 1 with
    | '-' :: digits => (inBase 10 digits).map fun value => -value.num
    | '+' :: digits => (inBase 10 digits).map (·.num)
    | digits => if marked = [] then some 0 else (inBase 10 digits).map (·.num)
  let digits ← inBase 10 (whole ++ fraction)
  return digits * 10 ^ (exponent - fraction.length)

/-- `Number(text)`; `none` for `NaN` and for the infinities. -/
def numberOf (text : String) : Option ℚ :=
  match (jsTrim text).toList with
  | [] => some 0
  | '0' :: 'x' :: digits => inBase 16 digits
  | '0' :: 'X' :: digits => inBase 16 digits
  | '0' :: 'o' :: digits => inBase 8 digits
  | '0' :: 'O' :: digits => inBase 8 digits
  | '0' :: 'b' :: digits => inBase 2 digits
  | '0' :: 'B' :: digits => inBase 2 digits
  | '-' :: literal => (decimalLiteral literal).map (-·)
  | '+' :: literal => decimalLiteral literal
  | literal => decimalLiteral literal

example : numberOf " 12.50 " = some (25 / 2) := by decide +kernel

example : numberOf "1.2e3" = some 1200 ∧ numberOf "1.2.3" = none := by decide +kernel

def toAmount (value : Amount) : ℚ :=
  match value with
  | .number value => value.getD 0
  | .text value => (numberOf value).getD 0

/-- The sum of the amounts of some rows. -/
def sumAmounts (rows : List ReportExpenseRow) : ℚ :=
  rows.foldl (fun sum row => sum + toAmount row.amount) 0

/-- An amount, of its number of hundredths. -/
def hundredths (value : ℤ) : ℚ := value / 100

/-- An amount of hundredths has nothing to be rounded. -/
theorem round2_hundredths (value : ℤ) : round2 (hundredths value) = hundredths value := by
  have whole : mathRound ((hundredths value + EPSILON) * 100) = value := by
    simp only [mathRound, hundredths, EPSILON]
    rw [Int.floor_eq_iff]
    constructor <;> norm_num <;> linarith
  rw [round2, whole, hundredths]

theorem hundredths_add (first second : ℤ) :
    hundredths (first + second) = hundredths first + hundredths second := by
  simp only [hundredths, Int.cast_add]
  ring

theorem sumAmounts_eq (rows : List ReportExpenseRow) :
    sumAmounts rows = (rows.map fun row => toAmount row.amount).sum := by
  rw [sumAmounts, List.sum_eq_foldl, List.foldl_map]

/-! ## The builder -/

def TERMINAL_ACTIVITY_STATUSES : List ActivityStatus := [.done, .cancelled]

/-- What counts for the totals: neither deleted nor rejected. -/
def isEligibleExpense (row : ReportExpenseRow) : Bool :=
  row.deletedAt = none && row.status ≠ .rejected

/-- The full years from a date of birth on; nothing for a date that is to come. -/
def ageInYears (dateOfBirth : Option String) (at_ : Instant) : Option ℤ := do
  let born ← parseDay (← dateOfBirth)
  let (year, month, day) := civilOfDay (at_ / 86400000)
  let (bornYear, bornMonth, bornDay) := civilOfDay born
  let age := if month < bornMonth ∨ month = bornMonth ∧ day < bornDay then year - bornYear - 1
    else year - bornYear
  if age < 0 then none else some age

def increment (bucket : List (String × ℕ)) (key : String) : List (String × ℕ) :=
  alter key 0 (· + 1) bucket

/-- Past its deadline, and not closed. -/
def isOverdue (generatedAt : Instant) (activity : ReportActivityRow) : Bool :=
  activity.status ∉ TERMINAL_ACTIVITY_STATUSES && activity.deadline.any (· < generatedAt)

/-- The buckets of the expenses by status, the rejected ones too. -/
def expenseStatus (expenses : List ReportExpenseRow) : List (String × BondExpenseStatusBucket) :=
  expenses.foldl (fun buckets expense =>
    if expense.deletedAt.isSome then buckets
    else alter expense.status.value ⟨0, 0⟩
      (fun bucket => ⟨bucket.count + 1, bucket.amount + toAmount expense.amount⟩) buckets) []

/-- The bucket a category begins with. -/
def emptyBucket (categories : List ReportCategoryRow) (categoryId : Option Uuid) :
    BondExpenseCategoryBucket where
  categoryId := categoryId
  categoryName := (categoryId.filter truthy).bind fun id =>
    ((categories.reverse.find? (·.id = id)).map (·.name))
  count := 0
  amount := 0

def categoryBuckets (categories : List ReportCategoryRow) (eligible : List ReportExpenseRow) :
    List (Option Uuid × BondExpenseCategoryBucket) :=
  eligible.foldl (fun buckets expense =>
    alter expense.categoryId (emptyBucket categories expense.categoryId)
      (fun bucket => { bucket with
        count := bucket.count + 1, amount := bucket.amount + toAmount expense.amount }) buckets) []

/-- The greatest amount first; of equal ones by the category's id, whose texts are UUIDs. -/
def byAmount (first second : BondExpenseCategoryBucket) : Bool :=
  second.amount < first.amount ||
    first.amount = second.amount && utf16 (first.categoryId.getD "") ≤ utf16 (second.categoryId.getD "")

/-- A member's share of the activities. -/
def memberSection (activities : List ReportActivityRow) (member : ReportMemberRow) :
    BondReportMember :=
  let assignedRows := activities.filter (·.assignedTo = some member.userId)
  let completedRows := assignedRows.filter (·.status = .done)
  { userId := member.userId
    firstName := member.firstName
    lastName := member.lastName
    role := member.role
    assigned := assignedRows.length
    completed := completedRows.length
    completionPercentage := percentage completedRows.length assignedRows.length }

/-- `build-bond-report.ts::buildBondReport`: the sections of a report, over the rows that were read
for it. -/
def buildBondReport (input : BondReportInput) : BondReport :=
  let activities := input.activities
  let completed := (activities.filter (·.status = .done)).length
  let eligible := input.expenses.filter isEligibleExpense
  let totalAmount := round2 (sumAmounts eligible)
  let paidRows := eligible.filter (·.status = .paid)
  let paidAmount := round2 (sumAmounts paidRows)
  { bondId := input.bondId
    bondTitle := input.bondTitle
    dateFrom := input.dateFrom
    dateTo := input.dateTo
    generatedAt := toISOString input.generatedAt
    activities :=
      { total := activities.length
        completed := completed
        overdue := (activities.filter (isOverdue input.generatedAt)).length
        completionRate := percentage completed activities.length
        byStatus := activities.foldl (fun bucket activity => increment bucket activity.status.value) []
        byCriticality :=
          activities.foldl (fun bucket activity => increment bucket activity.criticality.value) [] }
    expenses :=
      { totalAmount := totalAmount
        paidAmount := paidAmount
        pendingAmount := round2 (sumAmounts (eligible.filter fun expense =>
          expense.status = .pending || expense.status = .approved))
        paidAmountPercentage := percentage paidAmount totalAmount
        paidCountPercentage := percentage paidRows.length eligible.length
        byStatus := (expenseStatus input.expenses).map fun (status, bucket) =>
          (status, { bucket with amount := round2 bucket.amount })
        byCategory := ((categoryBuckets input.categories eligible).map fun (_, bucket) =>
          { bucket with amount := round2 bucket.amount }).mergeSort byAmount }
    children := input.children.map fun child =>
      { id := child.id
        firstName := child.firstName
        lastName := child.lastName
        dateOfBirth := child.dateOfBirth
        ageInYears := ageInYears child.dateOfBirth input.generatedAt
        activityCount := (input.childActivityCounts.lookup child.id).getD 0 }
    members := input.members.map (memberSection activities) }

end ParentalCoord.Reports

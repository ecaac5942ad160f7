import ParentalCoord.Expenses.Repository

/-!
The expenses service, the stale reminder and the retention pass.

Every request on an expense loads it and decides, in calls of their own, and
leaves the write to the guarded update of the repository, whose only guard is the
status that was loaded.  What it writes is fixed by then.
-/

namespace ParentalCoord.Expenses

open Interleaving

structure Config where
  WEBHOOK_RETENTION_DAYS : Option ℕ

structure CreateExpenseDto where
  concept : String
  description : Option String
  amount : ℤ
  categoryId : Uuid
  expenseDate : String
  splitRatioPayer : Option ℤ

/-- The outer `none` is an absent field, the inner one is `null`. -/
structure UpdateExpenseDto where
  concept : Option (Option String) := none
  description : Option (Option String) := none
  amount : Option (Option ℤ) := none
  categoryId : Option (Option Uuid) := none
  expenseDate : Option (Option String) := none
  splitRatioPayer : Option (Option ℤ) := none

structure ExpenseResponseDto extends ExpensePolicyDecision where
  id : Uuid
  bondId : Uuid
  categoryId : Option Uuid
  categoryName : Option String
  concept : String
  description : Option String
  amount : ℤ
  expenseDate : String
  splitRatioPayer : ℤ
  splitRatioOther : ℤ
  status : ExpenseStatus
  requestedBy : Uuid
  requestedByName : Option String
  counterpartId : Option Uuid
  counterpartName : Option String
  approvedBy : Option Uuid
  approvedByName : Option String
  approvedAt : Option String
  paidAt : Option String
  createdAt : String
  updatedAt : String
  hasDocument : Bool

structure RetentionResult where
  purgedAttempts : ℕ
  purgedOutbox : ℕ
  cutoff : Instant

/-- What a request answers with. -/
inductive Reply where
  | expense (dto : ExpenseResponseDto)
  | cancelled (id : Uuid) (deletedAt : String)
  | retention (result : RetentionResult)
  | nothing

abbrev Request := Handler interface Exception

/-! ## The calls, under the names of the source -/

def perform (query : Call) : Request (interface.Answer query) :=
  @Handler.perform interface Exception query

def findOne (id : Uuid) : Request (Option (ExpenseEntity × Option CategoryEntity)) :=
  perform (.findOne id)

def existsBy (expenseId : Uuid) : Request Bool := perform (.existsBy expenseId)

def isActiveBondForMember (bondId userId : Uuid) : Request Bool :=
  perform (.isActiveBondForMember bondId userId)

def findActiveMemberIds (bondId : Uuid) : Request (List Uuid) :=
  perform (.findActiveMemberIds bondId)

def findMemberNames (bondId : Uuid) : Request (List (Uuid × String)) :=
  perform (.findMemberNames bondId)

def findActiveById (id : Option Uuid) : Request (Option CategoryEntity) :=
  perform (.findActiveById id)

def clockNow : Request Instant := perform .now

def saveExpense (row : NewExpense) : Request ExpenseEntity := perform (.insertWithManager row)

def guardedUpdate (write : GuardedWrite) : Request Bool := perform (.updateGuarded write)

/-! ## Helpers -/

def EDIT_DENIED := "You are not allowed to edit this expense"

def CANCEL_DENIED := "You are not allowed to cancel this expense"

def APPROVE_DENIED := "You are not allowed to approve this expense"

def REJECT_DENIED := "You are not allowed to reject this expense"

def PAY_DENIED := "You are not allowed to mark this expense as paid"

def CONFLICT := "The expense changed before your action could be applied"

/-- One hundred, and the default share, in hundredths of a percent. -/
def WHOLE : ℤ := 10000

def DEFAULT_SPLIT_PAYER : ℤ := 5000

def expenseNotFound : Exception := notFoundException "Expense not found"

def assertBondMember (bondId viewerId : Uuid) : Request Unit := do
  let isMember ← isActiveBondForMember bondId viewerId
  if !isMember then throw (notFoundException "Bond not found or you are not a member")

def counterpartOf (bondId requesterId : Uuid) : Request (Option Uuid) := do
  let memberIds ← findActiveMemberIds bondId
  return selectCounterpartId memberIds requesterId

def verifyCategoryActive (categoryId : Option Uuid) : Request CategoryEntity := do
  match ← findActiveById categoryId with
  | some category => return category
  | none => throw (badRequestException "Category is unknown or inactive")

/-- `expenses.service.ts::splitRatios`: the share of who pays, and the rest. -/
def splitRatios (payer : Option ℤ) : ℤ × ℤ :=
  let ratio := payer.getD DEFAULT_SPLIT_PAYER
  (ratio, WHOLE - ratio)

/-- The date has to come back as it was written. -/
def isRealDate (value : String) : Bool :=
  (parseDay value).any fun day => (toISOString (day * MS_PER_DAY)).toList.take 10 = value.toList

def parseExpenseDate (value : Option String) : Request Unit :=
  if value.any isRealDate then return ()
  else throw (badRequestException "expenseDate is not a real calendar date")

def normalizeReason (rawReason : Option String) : Option String :=
  (rawReason.map jsTrim).filter truthy

def buildPatch (dto : UpdateExpenseDto) : ExpenseEditableFields where
  concept := dto.concept
  description := dto.description
  amount := dto.amount
  categoryId := dto.categoryId
  expenseDate := dto.expenseDate
  splitRatioPayer := dto.splitRatioPayer.map fun payer => (splitRatios payer).1
  splitRatioOther := dto.splitRatioPayer.map fun payer => (splitRatios payer).2

/-- A live expense, as `findAliveById` reads it. -/
structure ExpenseWithDocument where
  expense : ExpenseEntity
  category : Option CategoryEntity := none
  hasDocument : Bool := false

def nameOf (names : List (Uuid × String)) (userId : Option Uuid) : Option String :=
  (userId.filter truthy).bind fun userId => names.lookup userId

/-- `expenses.service.ts::toResponse`: the expense as a viewer is shown it. -/
def toResponse (loaded : ExpenseWithDocument) (decision : ExpensePolicyDecision)
    (counterpartId : Option Uuid) (names : List (Uuid × String))
    (categoryName : Option String := none) : ExpenseResponseDto :=
  let expense := loaded.expense
  { decision with
    id := expense.id
    bondId := expense.bondId
    categoryId := expense.categoryId
    categoryName := categoryName.or (loaded.category.map (·.name))
    concept := expense.concept
    description := expense.description
    amount := expense.amount
    expenseDate := expense.expenseDate
    splitRatioPayer := expense.splitRatioPayer
    splitRatioOther := expense.splitRatioOther
    status := expense.status
    requestedBy := expense.requestedBy
    requestedByName := names.lookup expense.requestedBy
    counterpartId := counterpartId
    counterpartName := nameOf names counterpartId
    approvedBy := expense.approvedBy
    approvedByName := nameOf names expense.approvedBy
    approvedAt := expense.approvedAt.map toISOString
    paidAt := expense.paidAt.map toISOString
    createdAt := toISOString expense.createdAt
    updatedAt := toISOString expense.updatedAt
    hasDocument := loaded.hasDocument }

def findAliveById (id : Uuid) : Request (Option ExpenseWithDocument) := do
  match ← findOne id with
  | none => return none
  | some (expense, category) =>
    let hasDocument ← existsBy id
    return some ⟨expense, category, hasDocument⟩

structure LoadedForViewer where
  loaded : ExpenseWithDocument
  counterpartId : Option Uuid
  decision : ExpensePolicyDecision
  names : List (Uuid × String)

/-- `expenses.service.ts::loadForViewer`: the live expense and the decision for the viewer; to a
viewer who is not a member it does not exist. -/
def loadForViewer (id viewerId : Uuid) : Request LoadedForViewer := do
  match ← findAliveById id with
  | none => throw expenseNotFound
  | some loaded =>
    let expense := loaded.expense
    let isMember ← isActiveBondForMember expense.bondId viewerId
    if !isMember then throw expenseNotFound
    else
      let counterpartId ← counterpartOf expense.bondId expense.requestedBy
      let names ← findMemberNames expense.bondId
      return ⟨loaded, counterpartId,
        evaluate ⟨expense.status, expense.requestedBy, counterpartId⟩ viewerId, names⟩

/-! ## Requests -/

def getDetail (id viewerId : Uuid) : Request ExpenseResponseDto := do
  let viewed ← loadForViewer id viewerId
  return toResponse viewed.loaded viewed.decision viewed.counterpartId viewed.names

/-- `expenses.service.ts::create`: the checks of a new expense, and its insertion. -/
def create (bondId : Uuid) (dto : CreateExpenseDto) (viewerId : Uuid) :
    Request ExpenseResponseDto := do
  assertBondMember bondId viewerId
  let category ← verifyCategoryActive (some dto.categoryId)
  parseExpenseDate (some dto.expenseDate)
  let (payer, other) := splitRatios dto.splitRatioPayer
  let saved ← saveExpense
    { bondId := bondId
      requestedBy := viewerId
      categoryId := dto.categoryId
      concept := dto.concept
      description := dto.description
      amount := dto.amount
      expenseDate := dto.expenseDate
      splitRatioPayer := payer
      splitRatioOther := other }
  let counterpartId ← counterpartOf bondId saved.requestedBy
  let names ← findMemberNames bondId
  return toResponse { expense := saved }
    (evaluate ⟨saved.status, saved.requestedBy, counterpartId⟩ viewerId) counterpartId names
    (some category.name)

/-- `expenses.repository.ts::editFields`: the transaction of `update`: the old value is what was
loaded. -/
def editFields (id viewerId : Uuid) (expense : ExpenseEntity) (patch : ExpenseEditableFields) :
    GuardedWrite where
  id := id
  expectedStatus := expense.status
  patch := { toExpenseEditableFields := patch }
  audit :=
    { bondId := expense.bondId
      userId := viewerId
      expenseId := id
      action := .update
      oldValue :=
        some (.fields expense.concept expense.amount expense.categoryId expense.expenseDate)
      newValue := some (.patch patch) }

/-- The checks that two of the columns need before the transaction. -/
def verifyPatch (patch : ExpenseEditableFields) : Request Unit := do
  match patch.categoryId with
  | some categoryId => do let _ ← verifyCategoryActive categoryId
  | none => pure ()
  match patch.expenseDate with
  | some expenseDate => parseExpenseDate expenseDate
  | none => pure ()

/-- What `verifyPatch` ends with. -/
def verifyDate (expenseDate : Option (Option String)) : Request Unit :=
  match expenseDate with
  | some expenseDate => parseExpenseDate expenseDate
  | none => pure ()

/-- `expenses.service.ts::update`: the columns that are given are checked, and written if the expense
is still pending. -/
def update (id : Uuid) (dto : UpdateExpenseDto) (viewerId : Uuid) :
    Request ExpenseResponseDto := do
  let viewed ← loadForViewer id viewerId
  if !viewed.decision.canEdit then throw (forbiddenException EDIT_DENIED)
  else
    let patch := buildPatch dto
    if patch = {} then throw (badRequestException "Nothing to update")
    else
      verifyPatch patch
      let applied ← guardedUpdate (editFields id viewerId viewed.loaded.expense patch)
      if !applied then throw (conflictException CONFLICT)
      else getDetail id viewerId

/-- `expenses.repository.ts::markDeleted`: the transaction of `cancel`; no event announces it. -/
def markDeleted (id viewerId : Uuid) (expense : ExpenseEntity) (now : Instant) : GuardedWrite where
  id := id
  expectedStatus := expense.status
  patch := { deletedAt := some now }
  audit :=
    { bondId := expense.bondId
      userId := viewerId
      expenseId := id
      action := .delete
      oldValue := some (.status expense.status)
      newValue := some (.deletedAt (toISOString now)) }

def cancel (id viewerId : Uuid) : Request Reply := do
  let viewed ← loadForViewer id viewerId
  if !viewed.decision.canCancel then throw (forbiddenException CANCEL_DENIED)
  else
    let now ← clockNow
    let applied ← guardedUpdate (markDeleted id viewerId viewed.loaded.expense now)
    if !applied then throw (conflictException CONFLICT)
    else return .cancelled id (toISOString now)

structure TransitionParams where
  id : Uuid
  viewerId : Uuid
  allowed : ExpensePolicyDecision → Bool
  denial : String
  nextStatus : NextStatus
  fields : ExpenseTransitionFields
  detail : Option String := none

/-- `expenses.repository.ts::transitionStatus`: the transaction of a change of status: the row, its
audit entry and its event. -/
def transitionStatus (params : TransitionParams) (expense : ExpenseEntity) : GuardedWrite where
  id := params.id
  expectedStatus := expense.status
  patch := { toExpenseTransitionFields := params.fields, status := some params.nextStatus }
  audit := recordStatusChange
    { bondId := expense.bondId
      userId := params.viewerId
      expenseId := params.id
      from_ := expense.status
      to_ := params.nextStatus
      detail := params.detail }
  event := some (expenseEvent (EXPENSE_STATUS_EVENT params.nextStatus) expense.id expense.bondId
    params.nextStatus params.viewerId)

def transition (params : TransitionParams) : Request ExpenseResponseDto := do
  let viewed ← loadForViewer params.id params.viewerId
  if !params.allowed viewed.decision then throw (forbiddenException params.denial)
  else
    let applied ← guardedUpdate (transitionStatus params viewed.loaded.expense)
    if !applied then throw (conflictException CONFLICT)
    else getDetail params.id params.viewerId

def approveParams (id viewerId : Uuid) (now : Instant) : TransitionParams where
  id := id
  viewerId := viewerId
  allowed := (·.canApprove)
  denial := APPROVE_DENIED
  nextStatus := ⟨.approved, nofun⟩
  fields := { approvedBy := some viewerId, approvedAt := some now }

def rejectParams (id viewerId : Uuid) (rawReason : Option String) : TransitionParams where
  id := id
  viewerId := viewerId
  allowed := (·.canReject)
  denial := REJECT_DENIED
  nextStatus := ⟨.rejected, nofun⟩
  fields := {}
  detail := normalizeReason rawReason

def payParams (id viewerId : Uuid) (now : Instant) : TransitionParams where
  id := id
  viewerId := viewerId
  allowed := (·.canMarkPaid)
  denial := PAY_DENIED
  nextStatus := ⟨.paid, nofun⟩
  fields := { paidAt := some now }

def approve (id viewerId : Uuid) : Request ExpenseResponseDto := do
  let now ← clockNow
  transition (approveParams id viewerId now)

def reject (id viewerId : Uuid) (rawReason : Option String) : Request ExpenseResponseDto :=
  transition (rejectParams id viewerId rawReason)

def pay (id viewerId : Uuid) : Request ExpenseResponseDto := do
  let now ← clockNow
  transition (payParams id viewerId now)

/-! ## The stale reminder -/

/-- The locks of the snapshot's rows, one after the other. -/
def lockAll (txn : ℕ) (today : ℤ) : List StaleExpense → Request (List StaleExpense)
  | [] => return []
  | candidate :: rest => do
    let locked ← perform (.lockStale txn today candidate.id)
    let others ← lockAll txn today rest
    return locked.toList ++ others

/-- `expense-stale-reminder.repository.ts::emitStaleEvents`: the transaction of one scan. -/
def emitStaleEvents : Request ℕ := do
  let (txn, today) ← perform .beginScan
  tryCatch
    (do
      let candidates ← perform (.selectStale today)
      let staleExpenses ← lockAll txn today candidates
      perform (.commitStale txn staleExpenses)
      return staleExpenses.length)
    fun error => do
      perform (.rollbackScan txn)
      throw error

/-- A failed scan is logged; the next one tries again. -/
def processStaleReminder : Request Unit :=
  tryCatch (do let _ ← emitStaleEvents) fun _ => return ()

/-! ## Retention -/

def DEFAULT_RETENTION_DAYS := 30

def retention (config : Config) : Request RetentionResult := do
  let now ← clockNow
  let days := config.WEBHOOK_RETENTION_DAYS.getD DEFAULT_RETENTION_DAYS
  let cutoff : Instant := now - days * MS_PER_DAY
  let purgedAttempts ← perform (.purgeOlderThan cutoff)
  let purgedOutbox ← perform (.purgeDispatchedBefore cutoff)
  return ⟨purgedAttempts, purgedOutbox, cutoff⟩

/-! ## The system -/

inductive Entry where
  | create (bondId : Uuid) (dto : CreateExpenseDto) (viewerId : Uuid)
  | getDetail (id viewerId : Uuid)
  | update (id : Uuid) (dto : UpdateExpenseDto) (viewerId : Uuid)
  | cancel (id viewerId : Uuid)
  | approve (id viewerId : Uuid)
  | reject (id viewerId : Uuid) (rawReason : Option String)
  | pay (id viewerId : Uuid)
  | staleReminder
  | retention

def handler (config : Config) : Entry → Request Reply
  | .create bondId dto viewerId => return .expense (← create bondId dto viewerId)
  | .getDetail id viewerId => return .expense (← getDetail id viewerId)
  | .update id dto viewerId => return .expense (← update id dto viewerId)
  | .cancel id viewerId => cancel id viewerId
  | .approve id viewerId => return .expense (← approve id viewerId)
  | .reject id viewerId rawReason => return .expense (← reject id viewerId rawReason)
  | .pay id viewerId => return .expense (← pay id viewerId)
  | .staleReminder => do processStaleReminder; return .nothing
  | .retention => return .retention (← retention config)

@[reducible] def expenses (config : Config) : System interface Exception Reply where
  World := World
  Entry := Entry
  Nudge := Nudge
  start := start
  handler := handler config
  serve := serve
  failure := failure
  nudge := nudge

end ParentalCoord.Expenses

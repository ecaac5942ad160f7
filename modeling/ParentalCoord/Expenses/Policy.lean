import ParentalCoord.Outbox

/-!
An expense, its life cycle, and who may do what with it.

The policy decides on a structural subject and knows neither the database nor
the transport.  The counterpart of an expense is not stored with it: it is the
first active member of the bond who is not the requester.
-/

namespace ParentalCoord.Expenses

inductive ExpenseStatus where
  | pending
  | approved
  | rejected
  | paid
  deriving DecidableEq, Inhabited

def ExpenseStatus.value : ExpenseStatus → String
  | .pending => "pending"
  | .approved => "approved"
  | .rejected => "rejected"
  | .paid => "paid"

/-- A row of `expense`.  Amounts and ratios are numbers of hundredths, as the
`numeric(_, 2)` columns hold them. -/
structure ExpenseEntity where
  id : Uuid
  bondId : Uuid
  categoryId : Option Uuid
  concept : String
  description : Option String
  amount : ℤ
  expenseDate : String
  splitRatioPayer : ℤ
  splitRatioOther : ℤ
  status : ExpenseStatus
  requestedBy : Uuid
  approvedBy : Option Uuid := none
  approvedAt : Option Instant := none
  paidAt : Option Instant := none
  deletedAt : Option Instant := none
  createdAt : Instant
  updatedAt : Instant

/-! ## The policy -/

structure ExpensePolicySubject where
  status : ExpenseStatus
  requestedBy : Uuid
  counterpartId : Option Uuid

structure ExpensePolicyDecision where
  canApprove : Bool
  canReject : Bool
  canMarkPaid : Bool
  canEdit : Bool
  canCancel : Bool
  isTerminal : Bool

def isTerminal (status : ExpenseStatus) : Bool := status ∈ [ExpenseStatus.paid, .rejected]

/-- `expense-policy.service.ts::evaluate`: what a viewer may do with an expense. -/
def evaluate (expense : ExpensePolicySubject) (viewerId : Uuid) : ExpensePolicyDecision :=
  let isPending := expense.status = .pending
  let isApproved := expense.status = .approved
  let isRequester := expense.requestedBy = viewerId
  let isCounterpart := expense.counterpartId = some viewerId
  let isParty := isRequester ∨ isCounterpart
  { canApprove := isCounterpart ∧ isPending
    canReject := isCounterpart ∧ isPending
    canMarkPaid := isParty ∧ isApproved
    canEdit := isRequester ∧ isPending
    canCancel := isRequester ∧ isPending
    isTerminal := isTerminal expense.status }

section Decisions

variable {expense : ExpensePolicySubject} {viewerId : Uuid}

@[simp] theorem canApprove_iff : (evaluate expense viewerId).canApprove ↔
    expense.counterpartId = some viewerId ∧ expense.status = .pending := by
  simp [evaluate]

@[simp] theorem canReject_iff : (evaluate expense viewerId).canReject ↔
    expense.counterpartId = some viewerId ∧ expense.status = .pending := by
  simp [evaluate]

@[simp] theorem canMarkPaid_iff : (evaluate expense viewerId).canMarkPaid ↔
    (expense.requestedBy = viewerId ∨ expense.counterpartId = some viewerId) ∧
      expense.status = .approved := by
  simp [evaluate]

@[simp] theorem canEdit_iff : (evaluate expense viewerId).canEdit ↔
    expense.requestedBy = viewerId ∧ expense.status = .pending := by
  simp [evaluate]

@[simp] theorem canCancel_iff : (evaluate expense viewerId).canCancel ↔
    expense.requestedBy = viewerId ∧ expense.status = .pending := by
  simp [evaluate]

end Decisions

/-- `expense-counterpart.ts::selectCounterpartId`: the first active member who is not the
requester. -/
def selectCounterpartId (memberIds : List Uuid) (requesterId : Uuid) : Option Uuid :=
  memberIds.find? (· ≠ requesterId)

/-- Nobody is their own counterpart. -/
theorem selectCounterpartId_ne {memberIds : List Uuid} {requesterId counterpartId : Uuid}
    (selected : selectCounterpartId memberIds requesterId = some counterpartId) :
    counterpartId ≠ requesterId := by
  have apart := List.find?_some selected
  simpa using apart

/-! ## The events -/

/-- `EXPENSE_EVENT`. -/
inductive ExpenseEventType where
  | created
  | approved
  | rejected
  | paid
  | stale
  deriving DecidableEq

def ExpenseEventType.value : ExpenseEventType → String
  | .created => "expense.created"
  | .approved => "expense.approved"
  | .rejected => "expense.rejected"
  | .paid => "expense.paid"
  | .stale => "expense.stale"

/-- A status that an expense changes to; it is born pending and never becomes so. -/
abbrev NextStatus := { status : ExpenseStatus // status ≠ .pending }

def EXPENSE_STATUS_EVENT : NextStatus → ExpenseEventType
  | ⟨.approved, _⟩ => .approved
  | ⟨.rejected, _⟩ => .rejected
  | ⟨.paid, _⟩ => .paid
  | ⟨.pending, never⟩ => absurd rfl never

/-- `expense-events.ts::expenseAggregateVersion`: there is no version column: the version of an event
is the ordinal of the status in the life cycle. -/
def expenseAggregateVersion : ExpenseStatus → ℕ
  | .pending => 1
  | .approved => 2
  | .rejected => 2
  | .paid => 3

/-- The outbox row of an expense, as the requests of users write it. -/
def expenseEvent (eventType : ExpenseEventType) (id bondId : Uuid) (status : ExpenseStatus)
    (actorId : Uuid) : InsertOutboxEventInput where
  aggregateType := .expense
  aggregateId := id
  bondId := bondId
  eventType := eventType.value
  aggregateVersion := expenseAggregateVersion status
  payload :=
    [("actor", .obj [("type", .str "user"), ("id", .str actorId)]), ("status", .str status.value)]

/-- The outbox row of the reminder, which changes no status. -/
def staleEvent (id bondId : Uuid) : InsertOutboxEventInput where
  aggregateType := .expense
  aggregateId := id
  bondId := bondId
  eventType := ExpenseEventType.stale.value
  aggregateVersion := expenseAggregateVersion .pending
  payload :=
    [("actor", .obj [("type", .str "system")]), ("status", .str ExpenseStatus.pending.value)]

def isStale (event : InsertOutboxEventInput) : Bool :=
  event.eventType = ExpenseEventType.stale.value

/-! ## The audit -/

/-- `EXPENSE_AUDIT_ACTIONS`. -/
inductive ExpenseAuditAction where
  | create
  | update
  | statusChange
  | approve
  | reject
  | pay
  | delete
  deriving DecidableEq

def ExpenseAuditAction.value : ExpenseAuditAction → String
  | .create => "expense_create"
  | .update => "expense_update"
  | .statusChange => "expense_status_change"
  | .approve => "expense_approve"
  | .reject => "expense_reject"
  | .pay => "expense_pay"
  | .delete => "expense_delete"

/-- The action of a change of status is derived from the two statuses. -/
def TRANSITION_ACTIONS : ExpenseStatus → ExpenseStatus → Option ExpenseAuditAction
  | .pending, .approved => some .approve
  | .pending, .rejected => some .reject
  | .approved, .paid => some .pay
  | _, _ => none

/-- The columns a PATCH may touch.  The outer `none` leaves the column alone; the
inner one is `null`, which the body may hold for any of them. -/
structure ExpenseEditableFields where
  concept : Option (Option String) := none
  description : Option (Option String) := none
  amount : Option (Option ℤ) := none
  categoryId : Option (Option Uuid) := none
  expenseDate : Option (Option String) := none
  splitRatioPayer : Option ℤ := none
  splitRatioOther : Option ℤ := none
  deriving DecidableEq

/-- `old_value` and `new_value` of an entry, in the shapes the service writes. -/
inductive AuditValue where
  | status (status : ExpenseStatus)
  | fields (concept : String) (amount : ℤ) (categoryId : Option Uuid) (expenseDate : String)
  | patch (patch : ExpenseEditableFields)
  | deletedAt (deletedAt : String)
  deriving DecidableEq

structure ExpenseAuditEntryInput where
  bondId : Uuid
  userId : Uuid
  expenseId : Uuid
  action : ExpenseAuditAction
  oldValue : Option AuditValue := none
  newValue : Option AuditValue := none
  detail : Option String := none
  deriving DecidableEq

structure ExpenseStatusChangeInput where
  bondId : Uuid
  userId : Uuid
  expenseId : Uuid
  from_ : ExpenseStatus
  to_ : ExpenseStatus
  detail : Option String := none

/-- `expenses-audit.repository.ts::recordStatusChange`: the entry that is written. -/
def recordStatusChange (input : ExpenseStatusChangeInput) : ExpenseAuditEntryInput where
  bondId := input.bondId
  userId := input.userId
  expenseId := input.expenseId
  action := (TRANSITION_ACTIONS input.from_ input.to_).getD .statusChange
  oldValue := some (.status input.from_)
  newValue := some (.status input.to_)
  detail := input.detail

/-- The entries of one expense, oldest first. -/
def auditOf (id : Uuid) (audit : List ExpenseAuditEntryInput) : List ExpenseAuditEntryInput :=
  audit.filter (·.expenseId = id)

@[simp] theorem auditOf_nil (id : Uuid) : auditOf id [] = [] := rfl

@[simp] theorem auditOf_append (id : Uuid) (audit more : List ExpenseAuditEntryInput) :
    auditOf id (audit ++ more) = auditOf id audit ++ auditOf id more := by
  simp [auditOf]

theorem auditOf_self {entry : ExpenseAuditEntryInput} {id : Uuid} (own : entry.expenseId = id) :
    auditOf id [entry] = [entry] := by
  simp [auditOf, own]

theorem auditOf_other {entry : ExpenseAuditEntryInput} {id : Uuid} (other : entry.expenseId ≠ id) :
    auditOf id [entry] = [] := by
  simp [auditOf, other]

end ParentalCoord.Expenses

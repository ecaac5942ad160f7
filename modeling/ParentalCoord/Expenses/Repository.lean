import ParentalCoord.Exceptions
import ParentalCoord.Expenses.Policy
import ParentalCoord.Interleaving.Pool
import ParentalCoord.Store.Table

/-!
What the expenses service shares with the stale reminder and with retention: the
expense table, the audit log, the outbox and the clock, and the calls that act on
them.

The transaction of a user's request is one call: its guarded `UPDATE` takes the
row's lock and keeps it until the audit entry and the event are committed with
it.  The transaction of the reminder is several: its statement sees a snapshot,
and takes the locks of the rows it found one after the other.  A write of a row
that a reminder has locked waits for it; here a call that is made meanwhile
fails, and a request that waits is one whose call has not been made yet.
-/

namespace ParentalCoord.Expenses

open Interleaving Store

/-! ## Writes of an expense -/

structure ExpenseTransitionFields where
  approvedBy : Option Uuid := none
  approvedAt : Option Instant := none
  paidAt : Option Instant := none

/-- `Partial<ExpenseEntity>`: `none` leaves the column alone. -/
structure ExpensePatch extends ExpenseEditableFields, ExpenseTransitionFields where
  status : Option ExpenseStatus := none
  deletedAt : Option Instant := none

/-- A `NOT NULL` column is set to null. -/
def ExpenseEditableFields.violatesNotNull (fields : ExpenseEditableFields) : Bool :=
  fields.concept = some none ∨ fields.amount = some none ∨ fields.expenseDate = some none

/-- The editable columns of an expense. -/
structure Editable where
  concept : String
  description : Option String
  amount : ℤ
  categoryId : Option Uuid
  expenseDate : String
  splitRatioPayer : ℤ
  splitRatioOther : ℤ
  deriving DecidableEq

def ExpenseEntity.editable (row : ExpenseEntity) : Editable where
  concept := row.concept
  description := row.description
  amount := row.amount
  categoryId := row.categoryId
  expenseDate := row.expenseDate
  splitRatioPayer := row.splitRatioPayer
  splitRatioOther := row.splitRatioOther

def ExpenseEditableFields.apply (fields : ExpenseEditableFields) (columns : Editable) :
    Editable where
  concept := fields.concept.join.getD columns.concept
  description := fields.description.getD columns.description
  amount := fields.amount.join.getD columns.amount
  categoryId := fields.categoryId.getD columns.categoryId
  expenseDate := fields.expenseDate.join.getD columns.expenseDate
  splitRatioPayer := fields.splitRatioPayer.getD columns.splitRatioPayer
  splitRatioOther := fields.splitRatioOther.getD columns.splitRatioOther

/-- `SET` of the guarded update; `updated_at` is written with it. -/
def ExpensePatch.onto (patch : ExpensePatch) (row : ExpenseEntity) (now : Instant) :
    ExpenseEntity :=
  let columns := patch.apply row.editable
  { row with
    concept := columns.concept
    description := columns.description
    amount := columns.amount
    categoryId := columns.categoryId
    expenseDate := columns.expenseDate
    splitRatioPayer := columns.splitRatioPayer
    splitRatioOther := columns.splitRatioOther
    status := patch.status.getD row.status
    approvedBy := patch.approvedBy.or row.approvedBy
    approvedAt := patch.approvedAt.or row.approvedAt
    paidAt := patch.paidAt.or row.paidAt
    deletedAt := patch.deletedAt.or row.deletedAt
    updatedAt := now }

/-- A transaction of a request on one expense: the guarded update, and what is
inserted with it when a row was affected. -/
structure GuardedWrite where
  id : Uuid
  expectedStatus : ExpenseStatus
  patch : ExpensePatch
  audit : ExpenseAuditEntryInput
  event : Option InsertOutboxEventInput := none

/-- The columns `create` gives a row. -/
structure NewExpense where
  bondId : Uuid
  requestedBy : Uuid
  categoryId : Uuid
  concept : String
  description : Option String
  amount : ℤ
  expenseDate : String
  splitRatioPayer : ℤ
  splitRatioOther : ℤ

def NewExpense.saved (input : NewExpense) (id : Uuid) (now : Instant) : ExpenseEntity where
  id := id
  bondId := input.bondId
  categoryId := some input.categoryId
  concept := input.concept
  description := input.description
  amount := input.amount
  expenseDate := input.expenseDate
  splitRatioPayer := input.splitRatioPayer
  splitRatioOther := input.splitRatioOther
  status := .pending
  requestedBy := input.requestedBy
  createdAt := now
  updatedAt := now

/-- The entry of the creation. -/
def NewExpense.audit (input : NewExpense) (id : Uuid) : ExpenseAuditEntryInput where
  bondId := input.bondId
  userId := input.requestedBy
  expenseId := id
  action := .create
  newValue := some (.status .pending)

def NewExpense.event (input : NewExpense) (id : Uuid) : InsertOutboxEventInput :=
  expenseEvent .created id input.bondId .pending input.requestedBy

/-! ## The world -/

structure CategoryEntity where
  id : Uuid
  name : String

/-- What other modules keep, and may change at any time. -/
structure Directory where
  isActiveBondForMember : Uuid → Uuid → Bool
  findActiveMemberIds : Uuid → List Uuid
  findMemberNames : Uuid → List (Uuid × String)
  /-- A body may hold `null` where an id is due. -/
  findActiveById : Option Uuid → Option CategoryEntity
  category : Uuid → Option CategoryEntity

/-- An outbox row, as far as it is read here. -/
structure OutboxRow where
  event : InsertOutboxEventInput
  dispatchedAt : Option Instant := none

/-- An open transaction of the stale reminder, with the rows it has locked. -/
structure StaleScan where
  txn : ℕ
  locked : List Uuid := []

structure World where
  clock : Instant
  expenses : Table ExpenseEntity.id
  audit : List ExpenseAuditEntryInput
  outbox : List OutboxRow
  /-- Every event that was ever inserted, also those purged since. -/
  inserted : List InsertOutboxEventInput
  /-- The expenses of the attachments. -/
  attachments : List Uuid
  /-- When the recorded attempts of webhook deliveries started. -/
  attempts : List Instant
  scans : List StaleScan
  nextTxn : ℕ
  directory : Directory
  freshId : Uuid

/-- The columns of the reminder's `SELECT`. -/
structure StaleExpense where
  id : Uuid
  bondId : Uuid

inductive Call where
  | findOne (id : Uuid)
  | existsBy (expenseId : Uuid)
  | isActiveBondForMember (bondId userId : Uuid)
  | findActiveMemberIds (bondId : Uuid)
  | findMemberNames (bondId : Uuid)
  | findActiveById (id : Option Uuid)
  | now
  | insertWithManager (row : NewExpense)
  | updateGuarded (write : GuardedWrite)
  | beginScan
  | selectStale (today : ℤ)
  | lockStale (txn : ℕ) (today : ℤ) (id : Uuid)
  | commitStale (txn : ℕ) (staleExpenses : List StaleExpense)
  | rollbackScan (txn : ℕ)
  | purgeOlderThan (before : Instant)
  | purgeDispatchedBefore (before : Instant)

@[reducible] def interface : Interface where
  Call := Call
  Answer
    | .findOne _ => Option (ExpenseEntity × Option CategoryEntity)
    | .existsBy _ => Bool
    | .isActiveBondForMember _ _ => Bool
    | .findActiveMemberIds _ => List Uuid
    | .findMemberNames _ => List (Uuid × String)
    | .findActiveById _ => Option CategoryEntity
    | .now => Instant
    | .insertWithManager _ => ExpenseEntity
    | .updateGuarded _ => Bool
    | .beginScan => ℕ × ℤ
    | .selectStale _ => List StaleExpense
    | .lockStale _ _ _ => Option StaleExpense
    | .commitStale _ _ => Unit
    | .rollbackScan _ => Unit
    | .purgeOlderThan _ => ℕ
    | .purgeDispatchedBefore _ => ℕ

def MS_PER_DAY : ℤ := 86400000

/-- The row is alive and in the status that is expected. -/
def guarded (expectedStatus : ExpenseStatus) (row : ExpenseEntity) : Bool :=
  row.status = expectedStatus ∧ row.deletedAt = none

/-- `outbox-event.repository.ts::insert`: `INSERT` of an outbox row. -/
def World.emit (world : World) (events : List InsertOutboxEventInput) : World :=
  { world with
    outbox := world.outbox ++ events.map fun event => { event := event }
    inserted := world.inserted ++ events }

/-- Some open reminder has locked the row. -/
def World.locks (world : World) (id : Uuid) : Bool := world.scans.any (id ∈ ·.locked)

/-- The row, its entry and its event, committed together. -/
def GuardedWrite.commit (write : GuardedWrite) (row : ExpenseEntity) (world : World) : World :=
  World.emit
    { world with
      expenses := world.expenses.put (write.patch.onto row world.clock)
      audit := world.audit ++ [write.audit] } write.event.toList

/-- `expenses.repository.ts::updateGuarded`: `UPDATE ... WHERE id AND status = expected AND deleted_at
IS NULL`, with what its transaction inserts besides. -/
def updateGuarded (write : GuardedWrite) (world : World) : Except Exception Bool × World :=
  if world.locks write.id then (.error .fault, world)
  else match (world.expenses.get write.id).filter (guarded write.expectedStatus) with
  | none => (.ok false, world)
  | some row =>
    if write.patch.violatesNotNull then (.error .fault, world)
    else (.ok true, write.commit row world)

/-- `expenses.repository.ts::insertWithManager`: the transaction of `create`. -/
def insertWithManager (input : NewExpense) (world : World) :
    Except Exception ExpenseEntity × World :=
  match world.expenses.insert (input.saved world.freshId world.clock) with
  | none => (.error .fault, world)
  | some expenses =>
      (.ok (input.saved world.freshId world.clock), World.emit
        { world with
          expenses := expenses
          audit := world.audit ++ [input.audit world.freshId] } [input.event world.freshId])

/-- The conditions of the reminder on the row itself. -/
def eligible (today : ℤ) (row : ExpenseEntity) : Bool :=
  row.status = .pending ∧ row.deletedAt = none ∧ (parseDay row.expenseDate).any (· ≤ today - 7)

/-- The reminder of an expense that the outbox still holds. -/
def isStaleOf (id : Uuid) (event : InsertOutboxEventInput) : Bool :=
  event.aggregateType = .expense ∧ event.aggregateId = id ∧ isStale event

def World.remembers (world : World) (id : Uuid) : Bool := world.outbox.any (isStaleOf id ·.event)

def ExpenseEntity.selected (row : ExpenseEntity) : StaleExpense := ⟨row.id, row.bondId⟩

/-- The rows of the statement's snapshot, by the anti-join on the outbox. -/
def selectStale (today : ℤ) (world : World) : List StaleExpense :=
  (world.expenses.rows.filter fun row => eligible today row && !world.remembers row.id).map
    (·.selected)

/-- The row is locked for the transaction. -/
def World.grant (world : World) (txn : ℕ) (id : Uuid) : World :=
  { world with
    scans := world.scans.map fun scan =>
      if scan.txn = txn then { scan with locked := scan.locked ++ [id] } else scan }

/-- `FOR UPDATE SKIP LOCKED` of one row of the snapshot.  A row that has changed
since is checked again on its own columns; the anti-join is not. -/
def lockStale (txn : ℕ) (today : ℤ) (id : Uuid) (world : World) :
    Except Exception (Option StaleExpense) × World :=
  if world.scans.all (·.txn ≠ txn) then (.error .fault, world)
  else if world.scans.any fun scan => scan.txn ≠ txn ∧ id ∈ scan.locked then (.ok none, world)
  else match (world.expenses.get id).filter (eligible today) with
  | none => (.ok none, world)
  | some row => (.ok (some row.selected), world.grant txn id)

/-- The end of a reminder's transaction, with its locks. -/
def World.endScan (world : World) (txn : ℕ) : World :=
  { world with scans := world.scans.filter (·.txn ≠ txn) }

def commitStale (txn : ℕ) (staleExpenses : List StaleExpense) (world : World) :
    Except Exception Unit × World :=
  if world.scans.all (·.txn ≠ txn) then (.error .fault, world)
  else
    (.ok (), (world.endScan txn).emit
      (staleExpenses.map fun expense => staleEvent expense.id expense.bondId))

/-- `dispatched_at IS NOT NULL AND dispatched_at < before`. -/
def purged (before : Instant) (row : OutboxRow) : Bool := row.dispatchedAt.any (· < before)

def serve (query : Call) (world : World) : Except Exception (interface.Answer query) × World :=
  match query with
  | .findOne id =>
      (.ok (((world.expenses.get id).filter (·.deletedAt = none)).map fun row =>
        (row, row.categoryId.bind world.directory.category)), world)
  | .existsBy expenseId => (.ok (expenseId ∈ world.attachments), world)
  | .isActiveBondForMember bondId userId =>
      (.ok (world.directory.isActiveBondForMember bondId userId), world)
  | .findActiveMemberIds bondId => (.ok (world.directory.findActiveMemberIds bondId), world)
  | .findMemberNames bondId => (.ok (world.directory.findMemberNames bondId), world)
  | .findActiveById id => (.ok (world.directory.findActiveById id), world)
  | .now => (.ok world.clock, world)
  | .insertWithManager row => insertWithManager row world
  | .updateGuarded write => updateGuarded write world
  | .beginScan =>
      (.ok (world.nextTxn, world.clock / MS_PER_DAY),
        { world with
          scans := world.scans ++ [{ txn := world.nextTxn }]
          nextTxn := world.nextTxn + 1 })
  | .selectStale today => (.ok (selectStale today world), world)
  | .lockStale txn today id => lockStale txn today id world
  | .commitStale txn staleExpenses => commitStale txn staleExpenses world
  | .rollbackScan txn => (.ok (), world.endScan txn)
  | .purgeOlderThan before =>
      (.ok (world.attempts.countP (· < before)),
        { world with attempts := world.attempts.filter (¬· < before) })
  | .purgeDispatchedBefore before =>
      (.ok (world.outbox.countP (purged before)),
        { world with outbox := world.outbox.filter (!purged before ·) })

def failure : Call → Option Exception
  | .now => none
  | _ => some .fault

/-- How the world moves by itself. -/
inductive Nudge where
  | tick (ms : ℕ)
  | directory (directory : Directory)
  | generate (id : Uuid)
  | attach (expenseId : Uuid)
  | attempt
  /-- The relay marks an outbox row dispatched. -/
  | dispatch (index : ℕ)
  /-- The connection of a reminder is lost, and its transaction with it. -/
  | abort (txn : ℕ)

def nudge (how : Nudge) (world : World) : World :=
  match how with
  | .tick ms => { world with clock := world.clock + ms }
  | .directory directory => { world with directory := directory }
  | .generate id => { world with freshId := id }
  | .attach expenseId => { world with attachments := world.attachments ++ [expenseId] }
  | .attempt => { world with attempts := world.attempts ++ [world.clock] }
  | .dispatch index =>
      { world with
        outbox := world.outbox.modify index fun row =>
          { row with dispatchedAt := some world.clock } }
  | .abort txn => world.endScan txn

def start : World where
  clock := 0
  expenses := .empty
  audit := []
  outbox := []
  inserted := []
  attachments := []
  attempts := []
  scans := []
  nextTxn := 0
  directory := ⟨fun _ _ => false, fun _ => [], fun _ => [], fun _ => none, fun _ => none⟩
  freshId := ""

end ParentalCoord.Expenses

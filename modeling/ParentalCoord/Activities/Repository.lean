import Mathlib.Data.List.Sort
import ParentalCoord.Activities.Timers
import ParentalCoord.Exceptions
import ParentalCoord.Interleaving.Pool
import ParentalCoord.Outbox
import ParentalCoord.Store.Table

/-!
What the activities service shares with its timers: the activity table, the
outbox, the timer queue and the clock, and the calls that act on them.  Each
call is one statement or one transaction.

Queue mutations are fired and not awaited: `fire` leaves them in flight, and
the world carries each of them out later, or loses it.  Who is a member of
which bond, with which role, and which categories and children there are, is
kept by other modules and may change at any time.
-/

namespace ParentalCoord.Activities

open Interleaving Store

/-- Columns a transition may write; `none` leaves the column alone. -/
structure ApplyTransitionFields where
  assignedTo : Option (Option Uuid) := none
  confirmedAt : Option (Option Instant) := none
  cancelledAt : Option (Option Instant) := none
  cancelledBy : Option (Option Uuid) := none
  declinedAt : Option (Option Instant) := none
  declinedReason : Option (Option String) := none
  completedAt : Option (Option Instant) := none
  deadline : Option (Option Instant) := none
  deletedAt : Option (Option Instant) := none
  verifyAt : Option (Option Instant) := none
  deriving DecidableEq

namespace ApplyTransitionFields

/-- `Object.assign(fields, extra)`. -/
def assign (fields extra : ApplyTransitionFields) : ApplyTransitionFields where
  assignedTo := extra.assignedTo.or fields.assignedTo
  confirmedAt := extra.confirmedAt.or fields.confirmedAt
  cancelledAt := extra.cancelledAt.or fields.cancelledAt
  cancelledBy := extra.cancelledBy.or fields.cancelledBy
  declinedAt := extra.declinedAt.or fields.declinedAt
  declinedReason := extra.declinedReason.or fields.declinedReason
  completedAt := extra.completedAt.or fields.completedAt
  deadline := extra.deadline.or fields.deadline
  deletedAt := extra.deletedAt.or fields.deletedAt
  verifyAt := extra.verifyAt.or fields.verifyAt

/-- `Object.assign(row, fields)`. -/
def onto (fields : ApplyTransitionFields) (row : ActivityEntity) : ActivityEntity :=
  { row with
    assignedTo := fields.assignedTo.getD row.assignedTo
    confirmedAt := fields.confirmedAt.getD row.confirmedAt
    cancelledAt := fields.cancelledAt.getD row.cancelledAt
    cancelledBy := fields.cancelledBy.getD row.cancelledBy
    declinedAt := fields.declinedAt.getD row.declinedAt
    declinedReason := fields.declinedReason.getD row.declinedReason
    completedAt := fields.completedAt.getD row.completedAt
    deadline := fields.deadline.getD row.deadline
    deletedAt := fields.deletedAt.getD row.deletedAt
    verifyAt := fields.verifyAt.getD row.verifyAt }

end ApplyTransitionFields

structure TransitionOutbox where
  bondId : Uuid
  eventType : String
  payload : Record

structure ApplyTransitionInput where
  id : Uuid
  expectedFrom : ActivityStatus
  expectedVersion : ℕ
  nextStatus : ActivityStatus
  fields : ApplyTransitionFields
  outbox : TransitionOutbox

/-- The row as the transition saves it. -/
def ApplyTransitionInput.saved (input : ApplyTransitionInput) (row : ActivityEntity) :
    ActivityEntity :=
  input.fields.onto { row with status := input.nextStatus, version := row.version + 1 }

/-- The outbox row the transition inserts with it. -/
def ApplyTransitionInput.event (input : ApplyTransitionInput) (row : ActivityEntity) :
    InsertOutboxEventInput where
  aggregateType := .activity
  aggregateId := input.id
  bondId := input.outbox.bondId
  eventType := input.outbox.eventType
  aggregateVersion := row.version + 1
  payload := input.outbox.payload

/-- The columns `create` gives a row. -/
structure NewActivity where
  bondId : Uuid
  categoryId : Uuid
  type : ActivityType
  criticality : Criticality
  title : String
  description : String
  createdBy : Uuid
  assignedTo : Option Uuid
  scheduledStart : Instant
  scheduledEnd : Option Instant
  deadline : Instant
  notifBefore : String
  notifAfter : String

structure InsertWithInitialTransitionInput where
  row : NewActivity
  initial : InitialTransition
  payload : Record

def InsertWithInitialTransitionInput.saved (input : InsertWithInitialTransitionInput) (id : Uuid) :
    ActivityEntity where
  id := id
  bondId := input.row.bondId
  categoryId := input.row.categoryId
  type := input.row.type
  status := input.initial.status
  version := 1
  criticality := input.row.criticality
  title := input.row.title
  description := input.row.description
  createdBy := input.row.createdBy
  assignedTo := input.row.assignedTo
  scheduledStart := some input.row.scheduledStart
  scheduledEnd := input.row.scheduledEnd
  deadline := some input.row.deadline
  notifBefore := some input.row.notifBefore
  notifAfter := some input.row.notifAfter

def InsertWithInitialTransitionInput.event (input : InsertWithInitialTransitionInput) (id : Uuid) :
    InsertOutboxEventInput where
  aggregateType := .activity
  aggregateId := id
  bondId := input.row.bondId
  eventType := input.initial.event
  aggregateVersion := 1
  payload := input.payload

structure TimerJob where
  jobId : String
  data : ActivityTimerJobData
  /-- When the delay it was added with has elapsed. -/
  runAt : Instant

inductive QueueMutation where
  | add (data : ActivityTimerJobData) (delay : ℤ)
  | remove (jobId : String)

structure Directory where
  isActiveBondForMember : Uuid → Uuid → Bool
  role : Uuid → Uuid → Option String
  activeCategory : Uuid → Option Criticality
  childOfBond : Uuid → Uuid → Bool

structure World where
  clock : Instant
  activities : Table ActivityEntity.id
  activityChildren : List (Uuid × Uuid)
  outbox : List InsertOutboxEventInput
  timers : Table TimerJob.jobId
  firing : List QueueMutation
  directory : Directory
  /-- The id the database generates next. -/
  freshId : Uuid
  /-- The order in which the database comes upon the rows. -/
  scanned : List Uuid

inductive Call where
  | findById (id : Uuid)
  | isActiveBondForMember (bondId userId : Uuid)
  | findOneByBondAndUser (bondId userId : Uuid)
  | findActiveCategory (id : Uuid)
  | findByIdsAndBond (ids : List Uuid) (bondId : Uuid)
  | findDueForTransition (now : Instant) (limit : ℕ)
  | now
  | takeTimer (jobId : String)
  | fire (mutation : QueueMutation)
  | applyTransition (input : ApplyTransitionInput)
  | insertActivity (input : InsertWithInitialTransitionInput) (childrenIds : List Uuid)

@[reducible] def interface : Interface where
  Call := Call
  Answer
    | .findById _ => Option ActivityEntity
    | .isActiveBondForMember _ _ => Bool
    | .findOneByBondAndUser _ _ => Option String
    | .findActiveCategory _ => Option Criticality
    | .findByIdsAndBond _ _ => List Uuid
    | .findDueForTransition _ _ => List ActivityEntity
    | .now => Instant
    | .takeTimer _ => Option ActivityTimerJobData
    | .fire _ => Unit
    | .applyTransition _ => Option ActivityEntity
    | .insertActivity _ _ => ActivityEntity

/-- `WHERE` of the reconciliation query. -/
def dueForTransition (now : Instant) (row : ActivityEntity) : Bool :=
  row.deletedAt = none ∧
    ((row.status = .created ∧ reached row.deadline now) ∨
      (row.status = .assigned ∧ reached row.deadline now) ∨
      (row.status = .assisting ∧ reached row.scheduledStart now) ∨
      (row.status = .inProgress ∧ reached (row.scheduledEnd.or row.scheduledStart) now) ∨
      (row.status = .verify ∧ reached row.deadline now))

/-- Ascending, the null values last. -/
def nullsLast (first second : Option Instant) : Ordering :=
  match first, second with
  | some first, some second => compare first second
  | some _, none => .lt
  | none, some _ => .gt
  | none, none => .eq

/-- `ORDER BY` of the reconciliation query. -/
def soonestFirst (first second : ActivityEntity) : Prop :=
  (((nullsLast first.deadline second.deadline).then
    (nullsLast first.scheduledStart second.scheduledStart)).then
    (nullsLast first.scheduledEnd second.scheduledEnd)) ≠ .gt

instance : DecidableRel soonestFirst := fun _ _ => inferInstanceAs (Decidable (_ ≠ _))

/-- The rows that are due.  Those that `ORDER BY` leaves equal stay as they were come upon. -/
def World.due (world : World) (now : Instant) : List ActivityEntity :=
  ((world.activities.rows.filter (dueForTransition now)).insertionSort fun first second =>
    world.scanned.idxOf first.id ≤ world.scanned.idxOf second.id).insertionSort soonestFirst

/-- `activities.repository.ts::applyTransition`: one transaction: lock the row, compare status and
version, write the row and its outbox event.  A miss writes nothing. -/
def applyTransition (input : ApplyTransitionInput) (world : World) :
    Option ActivityEntity × World :=
  match world.activities.get input.id with
  | none => (none, world)
  | some row =>
    if row.deletedAt ≠ none ∨ row.status ≠ input.expectedFrom ∨
        row.version ≠ input.expectedVersion then
      (none, world)
    else
      (some (input.saved row),
        { world with
          activities := world.activities.put (input.saved row)
          outbox := world.outbox ++ [input.event row] })

/-- `activities.repository.ts::insertWithInitialTransition`: the transaction of `create`: the row, its
outbox event and its children. -/
def insertActivity (input : InsertWithInitialTransitionInput) (childrenIds : List Uuid)
    (world : World) : Except Exception ActivityEntity × World :=
  match world.activities.insert (input.saved world.freshId) with
  | none => (.error .fault, world)
  | some activities =>
      (.ok (input.saved world.freshId),
        { world with
          activities := activities
          outbox := world.outbox ++ [input.event world.freshId]
          activityChildren :=
            world.activityChildren ++ childrenIds.map fun childId => (world.freshId, childId) })

def serve (query : Call) (world : World) : Except Exception (interface.Answer query) × World :=
  match query with
  | .findById id => (.ok ((world.activities.get id).filter (·.deletedAt = none)), world)
  | .isActiveBondForMember bondId userId =>
      (.ok (world.directory.isActiveBondForMember bondId userId), world)
  | .findOneByBondAndUser bondId userId => (.ok (world.directory.role bondId userId), world)
  | .findActiveCategory id => (.ok (world.directory.activeCategory id), world)
  | .findByIdsAndBond ids bondId =>
      (.ok (ids.dedup.filter (world.directory.childOfBond · bondId)), world)
  | .findDueForTransition now limit => (.ok ((world.due now).take limit), world)
  | .now => (.ok world.clock, world)
  | .takeTimer jobId =>
      (.ok (((world.timers.get jobId).filter (·.runAt ≤ world.clock)).map (·.data)), world)
  | .fire mutation => (.ok (), { world with firing := world.firing ++ [mutation] })
  | .applyTransition input =>
      (.ok (applyTransition input world).1, (applyTransition input world).2)
  | .insertActivity input childrenIds => insertActivity input childrenIds world

/-- Statements may fail; the clock, and a mutation nobody waits for, may not. -/
def failure : Call → Option Exception
  | .now => none
  | .fire _ => none
  | _ => some .fault

/-- Carries out one mutation of the timer queue.  Adding a job under an id that
exists is a no-op. -/
def QueueMutation.settle (mutation : QueueMutation) (world : World) : World :=
  match mutation with
  | .add data delay =>
      match world.timers.insert
        ⟨buildTimerJobId data.kind data.activityId data.version, data, world.clock + delay⟩ with
      | some timers => { world with timers := timers }
      | none => world
  | .remove jobId => { world with timers := world.timers.filter (·.jobId ≠ jobId) }

/-- How the world moves by itself. -/
inductive Nudge where
  | tick (ms : ℕ)
  | directory (directory : Directory)
  | generate (id : Uuid)
  /-- A mutation in flight reaches Redis. -/
  | settle (index : ℕ)
  /-- A mutation in flight is lost. -/
  | lose (index : ℕ)
  /-- A job is gone: finished and removed, or lost with Redis. -/
  | drop (jobId : String)
  /-- The database will come upon the rows in another order. -/
  | scan (order : List Uuid)

def nudge (how : Nudge) (world : World) : World :=
  match how with
  | .tick ms => { world with clock := world.clock + ms }
  | .directory directory => { world with directory := directory }
  | .generate id => { world with freshId := id }
  | .settle index =>
      match world.firing[index]? with
      | some mutation => mutation.settle { world with firing := world.firing.eraseIdx index }
      | none => world
  | .lose index => { world with firing := world.firing.eraseIdx index }
  | .drop jobId => { world with timers := world.timers.filter (·.jobId ≠ jobId) }
  | .scan order => { world with scanned := order }

def start : World where
  clock := 0
  activities := .empty
  activityChildren := []
  outbox := []
  timers := .empty
  firing := []
  directory := ⟨fun _ _ => false, fun _ _ => none, fun _ => none, fun _ _ => false⟩
  freshId := ""
  scanned := []

theorem mem_due {world : World} {now : Instant} {row : ActivityEntity} :
    row ∈ world.due now ↔ row ∈ world.activities.rows ∧ dueForTransition now row = true := by
  rw [World.due, List.mem_insertionSort, List.mem_insertionSort, List.mem_filter]

end ParentalCoord.Activities

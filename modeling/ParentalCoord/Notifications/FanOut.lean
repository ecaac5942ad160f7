import ParentalCoord.Notifications.Rules
import ParentalCoord.Webhooks.Repository

/-!
The fan-out of an outbox event, call by call, and the relay that makes it.

A dispatch runs one transaction, and publishes and enqueues after its commit.  What a
transaction has written so far goes along with it and is seen by nobody else; a commit
takes all of it or nothing.  In the database an insert waits for another transaction that
has written the same key and has not ended.  Here it does not wait, and the later of the
two commits fails instead, so that no order the database allows is left out.

A row that refers to a missing one makes a call fail, as any call may.  What removes rows
is not part of the model.
-/

namespace ParentalCoord.Notifications

open Interleaving Store Activities Expenses Webhooks

/-! ## Rows -/

structure CreateNotificationInput where
  userId : Uuid
  bondId : Option Uuid
  type : String
  title : String
  body : String
  refEntityType : String
  refEntityId : Option Uuid
  sourceEventId : Option Uuid

structure NotificationEntity extends CreateNotificationInput where
  id : Uuid
  isRead : Bool := false
  createdAt : Instant

/-- The key of the partial unique index. -/
def NotificationEntity.source (row : NotificationEntity) : Option (Uuid × Uuid) :=
  row.sourceEventId.map fun eventId => (row.userId, eventId)

/-- `notification`, with its primary key and the partial unique index on the user and the
source event. -/
structure NotificationTable extends Table NotificationEntity.id where
  once : (rows.filterMap NotificationEntity.source).Nodup

def NotificationTable.empty : NotificationTable := ⟨.empty, List.nodup_nil⟩

def NotificationTable.insert (table : NotificationTable) (row : NotificationEntity) :
    Option NotificationTable := do
  let added ← table.toTable.insert row
  if once : (added.rows.filterMap NotificationEntity.source).Nodup then some ⟨added, once⟩ else none

/-- The key of the unique constraint on deliveries. -/
def pairOf (row : WebhookDeliveryEntity) : Uuid × Uuid := (row.eventId, row.subscriptionId)

structure CreatedNotificationRef where
  id : Uuid
  userId : Uuid
  type : String
  refEntityType : String
  refEntityId : Option Uuid
  deriving DecidableEq

def NotificationEntity.ref (row : NotificationEntity) : CreatedNotificationRef where
  id := row.id
  userId := row.userId
  type := row.type
  refEntityType := row.refEntityType
  refEntityId := row.refEntityId

/-- What is published.  The frame of a change is built from its event alone. -/
inductive Frame where
  | notificationCreated (notification : CreatedNotificationRef) (occurredAt : String)
  | activityChanged (event : OutboxEventEntity)
  | expenseChanged (event : OutboxEventEntity)

/-! ## The world -/

/-- What others keep, and may change at any time. -/
structure Surroundings where
  activities : Uuid → Option ActivityEntity := fun _ => none
  expenses : Uuid → Option ExpenseEntity := fun _ => none
  /-- `user_id` of the active coordinator. -/
  coordinators : Uuid → Option Uuid := fun _ => none
  /-- The active members, in the order the query returns them. -/
  members : Uuid → List Uuid := fun _ => []
  /-- Whether the answer to a commit comes back. -/
  acknowledges : Bool := true
  /-- The ids that the database generates. -/
  uuids : ℕ → Uuid := fun _ => ""

structure World where
  clock : Instant
  outbox : Table OutboxEventEntity.id
  subscriptions : Table WebhookSubscriptionEntity.id
  deliveries : Table pairOf
  notifications : NotificationTable
  /-- How many ids have been generated. -/
  generated : ℕ
  queue : JobQueue String WebhookDeliveryJobData
  frames : List Frame
  surroundings : Surroundings

/-- What a transaction has written so far. -/
structure Transaction where
  deliveries : List WebhookDeliveryEntity := []
  notifications : List NotificationEntity := []
  dispatched : List (Uuid × Instant) := []

inductive Call where
  | findPending (limit : ℕ)
  | findActiveByBond (bondId : Uuid)
  | insertOnConflictDoNothing (tx : Transaction) (eventId subscriptionId : Uuid)
  | findById (activityId : Uuid)
  | findByIdIncludingDeleted (activityId : Uuid)
  | findCoordinator (bondId : Uuid)
  | findActiveMemberIds (bondId : Uuid)
  | findAliveById (expenseId : Uuid)
  | createFromEvent (tx : Transaction) (input : CreateNotificationInput)
  | markDispatched (tx : Transaction) (id : Uuid)
  | commit (tx : Transaction)
  | publishNotificationCreated (notification : CreatedNotificationRef)
  | publishActivityChanged (event : OutboxEventEntity)
  | publishExpenseChanged (event : OutboxEventEntity)
  | addJob (job : DeliveryJob)

@[reducible] def interface : Interface where
  Call := Call
  Answer
    | .findPending _ => List OutboxEventEntity
    | .findActiveByBond _ => List WebhookSubscriptionEntity
    | .insertOnConflictDoNothing _ _ _ => Bool × Transaction
    | .findById _ => Option ActivityEntity
    | .findByIdIncludingDeleted _ => Option ActivityEntity
    | .findCoordinator _ => Option Uuid
    | .findActiveMemberIds _ => List Uuid
    | .findAliveById _ => Option ExpenseEntity
    | .createFromEvent _ _ => Option NotificationEntity × Transaction
    | .markDispatched _ _ => Transaction
    | .commit _ => Unit
    | .publishNotificationCreated _ => Unit
    | .publishActivityChanged _ => Unit
    | .publishExpenseChanged _ => Unit
    | .addJob _ => Unit

/-! ## Queries -/

/-- `ON CONFLICT DO NOTHING`, among what is committed and what the transaction has written. -/
def World.insertDelivery (world : World) (tx : Transaction) (eventId subscriptionId : Uuid) :
    Bool × Transaction :=
  if (world.deliveries.rows ++ tx.deliveries).any (pairOf · = (eventId, subscriptionId)) then
    (false, tx)
  else
    let row : WebhookDeliveryEntity :=
      { id := world.surroundings.uuids world.generated
        eventId := eventId
        subscriptionId := subscriptionId
        createdAt := world.clock }
    (true, { tx with deliveries := tx.deliveries ++ [row] })

def World.insertNotification (world : World) (tx : Transaction) (input : CreateNotificationInput) :
    Option NotificationEntity × Transaction :=
  let row : NotificationEntity :=
    { input with id := world.surroundings.uuids world.generated, createdAt := world.clock }
  if row.source.isSome && (world.notifications.rows ++ tx.notifications).any (·.source = row.source)
  then (none, tx)
  else (some row, { tx with notifications := tx.notifications ++ [row] })

def World.generate (world : World) : World := { world with generated := world.generated + 1 }

/-- Sets nothing but `dispatched_at`. -/
def markRow (outbox : Table OutboxEventEntity.id) (mark : Uuid × Instant) :
    Table OutboxEventEntity.id :=
  match outbox.get mark.1 with
  | none => outbox
  | some row => outbox.put { row with dispatchedAt := some mark.2 }

/-- All that the transaction has written, or nothing when a key is taken by now. -/
def World.commit (world : World) (tx : Transaction) : Option World := do
  let deliveries ← tx.deliveries.foldlM Table.insert world.deliveries
  let notifications ← tx.notifications.foldlM NotificationTable.insert world.notifications
  some { world with
    deliveries := deliveries
    notifications := notifications
    outbox := tx.dispatched.foldl markRow world.outbox }

def World.publish (world : World) (frame : Frame) : World :=
  { world with frames := world.frames ++ [frame] }

def serve (query : Call) (world : World) : Except Exception (interface.Answer query) × World :=
  match query with
  | .findPending limit =>
      (.ok ((world.outbox.rows.filter fun event => event.dispatchedAt = none).take limit), world)
  | .findActiveByBond bondId =>
      (.ok (world.subscriptions.rows.filter fun row => row.bondId = bondId ∧ row.status = .ACTIVE),
        world)
  | .insertOnConflictDoNothing tx eventId subscriptionId =>
      (.ok (world.insertDelivery tx eventId subscriptionId), world.generate)
  | .findById activityId =>
      (.ok ((world.surroundings.activities activityId).filter (·.deletedAt.isNone)), world)
  | .findByIdIncludingDeleted activityId => (.ok (world.surroundings.activities activityId), world)
  | .findCoordinator bondId => (.ok (world.surroundings.coordinators bondId), world)
  | .findActiveMemberIds bondId => (.ok (world.surroundings.members bondId), world)
  | .findAliveById expenseId =>
      (.ok ((world.surroundings.expenses expenseId).filter (·.deletedAt.isNone)), world)
  | .createFromEvent tx input => (.ok (world.insertNotification tx input), world.generate)
  | .markDispatched tx id =>
      (.ok { tx with dispatched := tx.dispatched ++ [(id, world.clock)] }, world)
  | .commit tx => match world.commit tx with
      | none => (.error .fault, world)
      | some after =>
          (if world.surroundings.acknowledges then .ok () else .error .fault, after)
  | .publishNotificationCreated notification =>
      (.ok (), world.publish (.notificationCreated notification (toISOString world.clock)))
  | .publishActivityChanged event => (.ok (), world.publish (.activityChanged event))
  | .publishExpenseChanged event => (.ok (), world.publish (.expenseChanged event))
  | .addJob job => (.ok (), { world with queue := world.queue.add job })

/-- Every call reaches out of the process. -/
def failure (_ : Call) : Option Exception := some .fault

/-- How the world moves by itself. -/
inductive Nudge where
  | tick (ms : ℕ)
  | surroundings (surroundings : Surroundings)
  | produce (id : Uuid) (input : InsertOutboxEventInput)
  | subscribe (entity : WebhookSubscriptionEntity)
  /-- A notification that is not made from an event. -/
  | notify (row : NotificationEntity)

def nudge (how : Nudge) (world : World) : World :=
  match how with
  | .tick ms => { world with clock := world.clock + ms }
  | .surroundings surroundings => { world with surroundings := surroundings }
  | .produce id input =>
      let event : OutboxEventEntity :=
        { input with id := id, createdAt := world.clock, dispatchedAt := none }
      { world with outbox := (world.outbox.insert event).getD world.outbox }
  | .subscribe entity =>
      { world with
        subscriptions := (world.subscriptions.insert entity).getD (world.subscriptions.put entity) }
  | .notify row =>
      { world with
        notifications :=
          (world.notifications.insert { row with sourceEventId := none }).getD world.notifications }

def start : World where
  clock := 0
  outbox := .empty
  subscriptions := .empty
  deliveries := .empty
  notifications := .empty
  generated := 0
  queue := {}
  frames := []
  surroundings := {}

/-! ## The fan-out of notifications -/

structure Config where
  NOTIFICATIONS_FANOUT_ENABLED : Option Json := none
  REALTIME_PUBLISH_ENABLED : Option String := none
  formatActivityDateTime : Instant → String

abbrev Request := Handler interface Exception

def perform (query : Call) : Request (interface.Answer query) :=
  @Handler.perform interface Exception query

def isFanOutEnabled (config : Config) : Bool :=
  match config.NOTIFICATIONS_FANOUT_ENABLED with
  | some (.bool value) => value
  | some (.str value) => value.toLower ≠ "false"
  | _ => true

/-- `notification-fan-out.service.ts::actorIdOf`: the id of the actor, when it is a user. -/
def actorIdOf (event : OutboxEventEntity) : Option Uuid :=
  match event.payload.lookup "actor" with
  | some (.obj actor) =>
      if asString (actor.lookup "type") = some "user" then asString (actor.lookup "id") else none
  | _ => none

/-- `notification-fan-out.service.ts::persist`: one row for each recipient; the rows that were created
come back. -/
def persist (input : Uuid → CreateNotificationInput) :
    List Uuid → Transaction → Request (List CreatedNotificationRef × Transaction)
  | [], tx => return ([], tx)
  | userId :: rest, tx => do
    let (row, tx) ← perform (.createFromEvent tx (input userId))
    let (created, tx) ← persist input rest tx
    return ((row.map (·.ref)).toList ++ created, tx)

def loadActivity (activityId : Uuid) : Request (Option ActivityEntity) := do
  match ← perform (.findById activityId) with
  | some activity => return some activity
  | none => perform (.findByIdIncludingDeleted activityId)

/-- `notification-fan-out.service.ts::buildRecipientContext`: who is who in the activity, and in its
bond. -/
def buildRecipientContext (bondId : Uuid) (activity : ActivityEntity) (actorId : Option Uuid) :
    Request RecipientContext := do
  let coordinator ← perform (.findCoordinator bondId)
  let memberIds ← perform (.findActiveMemberIds bondId)
  return {
    assignedTo := activity.assignedTo
    createdBy := some activity.createdBy
    actorId := actorId
    coordinatorId := coordinator
    memberIds := some memberIds }

def activityNotification (config : Config) (event : OutboxEventEntity) (activity : ActivityEntity)
    (rule : NotificationFanOutRule) (userId : Uuid) : CreateNotificationInput :=
  let text := renderNotificationText config.formatActivityDateTime rule
    { activityTitle := activity.title, scheduledStart := activity.scheduledStart }
  { userId := userId
    bondId := some event.bondId
    type := rule.type
    title := text.title
    body := String.ofList (storedChars text.body)
    refEntityType := "activity"
    refEntityId := some activity.id
    sourceEventId := some event.id }

/-- `notification-fan-out.service.ts::handleActivityEvent`: the activity is read, and those that its
rule names are told. -/
def handleActivityEvent (config : Config) (event : OutboxEventEntity) (tx : Transaction) :
    Request (List CreatedNotificationRef × Transaction) := do
  match resolveNotificationRule event.eventType with
  | none => return ([], tx)
  | some rule =>
    match ← loadActivity event.aggregateId with
    | none => return ([], tx)
    | some activity =>
      if activity.deletedAt.isSome then return ([], tx)
      else
        let context ← buildRecipientContext event.bondId activity (actorIdOf event)
        persist (activityNotification config event activity rule) (buildRecipientIds rule context) tx

def expenseNotification (event : OutboxEventEntity) (expense : ExpenseEntity)
    (rule : ExpenseNotificationRule) (userId : Uuid) : CreateNotificationInput :=
  let text := renderExpenseNotificationText rule ⟨expense.concept, expense.amount⟩
  { userId := userId
    bondId := some event.bondId
    type := rule.type
    title := text.title
    body := String.ofList (storedChars text.body)
    refEntityType := "expense"
    refEntityId := some expense.id
    sourceEventId := some event.id }

/-- The recipients of an expense event, by the member list of the bond. -/
def expenseRecipients (rule : ExpenseNotificationRule) (expense : ExpenseEntity)
    (memberIds : List Uuid) (actorId : Option Uuid) : List Uuid :=
  buildExpenseRecipientIds rule
    { requestedBy := some expense.requestedBy
      counterpartId := selectCounterpartId memberIds expense.requestedBy
      actorId := actorId }

/-- `notification-fan-out.service.ts::handleExpenseEvent`: the expense is read, and those that its
rule names are told. -/
def handleExpenseEvent (event : OutboxEventEntity) (tx : Transaction) :
    Request (List CreatedNotificationRef × Transaction) := do
  match resolveExpenseNotificationRule event.eventType with
  | none => return ([], tx)
  | some rule =>
    match ← perform (.findAliveById event.aggregateId) with
    | none => return ([], tx)
    | some expense =>
      let memberIds ← perform (.findActiveMemberIds event.bondId)
      persist (expenseNotification event expense rule)
        (expenseRecipients rule expense memberIds (actorIdOf event)) tx

def handleOutboxEvent (config : Config) (event : OutboxEventEntity) (tx : Transaction) :
    Request (List CreatedNotificationRef × Transaction) :=
  if !isFanOutEnabled config then return ([], tx)
  else match event.aggregateType with
  | .activity => handleActivityEvent config event tx
  | .expense => handleExpenseEvent event tx

/-! ## The dispatch -/

/-- The publisher swallows what Redis fails with. -/
def send (config : Config) (publish : Request Unit) : Request Unit :=
  if config.REALTIME_PUBLISH_ENABLED.getD "true" = "false" then return ()
  else tryCatch publish fun _ => return ()

def publishAll (config : Config) : List CreatedNotificationRef → Request Unit
  | [] => return ()
  | notification :: rest => do
    send config (perform (.publishNotificationCreated notification))
    publishAll config rest

/-- `fan-out.service.ts::enqueue`: a job that Redis does not take is left to the reconciliation. -/
def enqueue (eventId subscriptionId : Uuid) : Request Unit :=
  tryCatch (perform (.addJob (deliveryJob eventId subscriptionId))) fun _ => return ()

def enqueueAll (eventId : Uuid) : List Uuid → Request Unit
  | [] => return ()
  | subscriptionId :: rest => do
    enqueue eventId subscriptionId
    enqueueAll eventId rest

/-- The active subscriptions that match; an expense has none. -/
def matchedSubscriptions (event : OutboxEventEntity) : Request (List WebhookSubscriptionEntity) := do
  if event.aggregateType = .activity then
    let subscriptions ← perform (.findActiveByBond event.bondId)
    return selectMatchedSubscriptions subscriptions event.eventType
  else return []

/-- One row for each subscription; those that a row was created for come back. -/
def insertDeliveries (eventId : Uuid) :
    List Uuid → Transaction → Request (List Uuid × Transaction)
  | [], tx => return ([], tx)
  | subscriptionId :: rest, tx => do
    let (created, tx) ← perform (.insertOnConflictDoNothing tx eventId subscriptionId)
    let (enqueued, tx) ← insertDeliveries eventId rest tx
    return (if created then subscriptionId :: enqueued else enqueued, tx)

/-- The transaction of a dispatch: what to enqueue and what to publish. -/
def dispatchTransaction (config : Config) (event : OutboxEventEntity)
    (matched : List WebhookSubscriptionEntity) :
    Request (List Uuid × List CreatedNotificationRef) := do
  let (enqueued, tx) ← insertDeliveries event.id (matched.map (·.id)) {}
  let (createdNotifications, tx) ← handleOutboxEvent config event tx
  let tx ← perform (.markDispatched tx event.id)
  perform (.commit tx)
  return (enqueued, createdNotifications)

def dispatch (config : Config) (event : OutboxEventEntity) : Request ℕ := do
  let matched ← matchedSubscriptions event
  let (enqueued, createdNotifications) ← dispatchTransaction config event matched
  publishAll config createdNotifications
  enqueueAll event.id enqueued
  return enqueued.length

/-! ## The relay -/

def publishChanged (config : Config) (event : OutboxEventEntity) : Request Unit :=
  match event.aggregateType with
  | .activity => send config (perform (.publishActivityChanged event))
  | .expense => send config (perform (.publishExpenseChanged event))

/-- An event that fails does not hold up the others. -/
def dispatchAll (config : Config) : List OutboxEventEntity → Request ℕ
  | [] => return 0
  | event :: rest => do
    let dispatched ← tryCatch
      (do
        let created ← dispatch config event
        publishChanged config event
        return created)
      fun _ => return 0
    let others ← dispatchAll config rest
    return dispatched + others

def run (config : Config) (limit : ℕ) : Request ℕ := do
  let pending ← perform (.findPending limit)
  dispatchAll config pending

/-- Passes of the relay, each with its limit; whoever starts them. -/
@[reducible] def relaying (config : Config) : System interface Exception ℕ where
  World := World
  Entry := ℕ
  Nudge := Nudge
  start := start
  handler := run config
  serve := serve
  failure := failure
  nudge := nudge

end ParentalCoord.Notifications

import ParentalCoord.Store.JobQueue
import ParentalCoord.Webhooks.Attempt

/-!
What the delivery worker shares with the relay, the reconciliation, the replays and
retention: the tables of the webhooks, the outbox, the queue of deliveries and the
clock, and the calls that act on them.

A row of a delivery and its job are in two stores, which no transaction spans.  The
fan-out commits its rows with the mark on the outbox event, and everything else is a
call of its own.  What the fan-out does besides, the notifications and the frames of
realtime, is not part of the model, nor is what is only logged.
-/

namespace ParentalCoord.Webhooks

open Interleaving Store

/-! ## Rows -/

structure WebhookDeliveryEntity where
  id : Uuid
  eventId : Uuid
  subscriptionId : Uuid
  status : WebhookDeliveryStatus := .PENDING
  attemptCount : ℕ := 0
  nextAttemptAt : Option Instant := none
  lastStatusCode : Option ℕ := none
  lastError : Option String := none
  createdAt : Instant
  completedAt : Option Instant := none

def buildDeliveryJobId (eventId subscriptionId : Uuid) : String := eventId ++ "--" ++ subscriptionId

/-- The id of the job of a delivery. -/
def WebhookDeliveryEntity.jobId (row : WebhookDeliveryEntity) : String :=
  buildDeliveryJobId row.eventId row.subscriptionId

/-- What a change of status may write; `none` leaves the column alone. -/
structure DeliveryStatusPatch where
  status : WebhookDeliveryStatus
  attemptCount : Option ℕ := none
  nextAttemptAt : Option (Option Instant) := none
  lastStatusCode : Option (Option ℕ) := none
  lastError : Option (Option String) := none
  completedAt : Option (Option Instant) := none

def DeliveryStatusPatch.onto (patch : DeliveryStatusPatch) (row : WebhookDeliveryEntity) :
    WebhookDeliveryEntity :=
  { row with
    status := patch.status
    attemptCount := patch.attemptCount.getD row.attemptCount
    nextAttemptAt := patch.nextAttemptAt.getD row.nextAttemptAt
    lastStatusCode := patch.lastStatusCode.getD row.lastStatusCode
    lastError := patch.lastError.getD row.lastError
    completedAt := patch.completedAt.getD row.completedAt }

/-- The instants that `Date` can hold; another one cannot be written. -/
def validDate (instant : Instant) : Bool := instant.natAbs ≤ 8640000000000000

structure InsertDeliveryAttemptInput where
  deliveryId : Uuid
  attemptNo : ℕ
  startedAt : Instant
  durationMs : ℤ
  statusCode : Option ℕ
  responseSnippet : Option String
  error : Option String

/-- What is counted and logged of an attempt. -/
structure DeliveryLogInput where
  eventId : Uuid
  subscriptionId : Uuid
  attempt : ℕ
  outcome : DeliveryOutcome
  status : WebhookDeliveryStatus
  statusCode : Option ℕ
  latencyMs : ℤ
  deliveryId : Uuid
  bondId : Uuid

inductive WebhookAuditAction where
  | CREATE
  | UPDATE
  | ROTATE
  | DELETE
  | DISABLE
  | ENABLE
  | REPLAY

def WebhookAuditAction.value : WebhookAuditAction → String
  | .CREATE => "webhook_create"
  | .UPDATE => "webhook_update"
  | .ROTATE => "webhook_rotate"
  | .DELETE => "webhook_delete"
  | .DISABLE => "webhook_disable"
  | .ENABLE => "webhook_enable"
  | .REPLAY => "webhook_replay"

structure WebhookAuditEntryInput where
  bondId : Uuid
  userId : Uuid
  entityId : Uuid
  action : WebhookAuditAction
  oldValue : Option Record := none
  newValue : Option Record := none
  detail : Option String := none

/-! ## Jobs -/

structure WebhookDeliveryJobData where
  eventId : Uuid
  subscriptionId : Uuid
  retryAfterMs : Option ℤ := none
  test : Bool := false

abbrev DeliveryJob := Job String WebhookDeliveryJobData

/-- The job that the fan-out, the reconciliation and a replay add. -/
def deliveryJob (eventId subscriptionId : Uuid) : DeliveryJob where
  id := buildDeliveryJobId eventId subscriptionId
  data := { eventId := eventId, subscriptionId := subscriptionId }
  attempts := some WEBHOOK_MAX_ATTEMPTS

/-- The job of a test ping. -/
def testJob (subscriptionId : Uuid) (now : Instant) : DeliveryJob where
  id := "test--" ++ subscriptionId ++ "--" ++ toString now
  data := { eventId := "", subscriptionId := subscriptionId, test := true }
  attempts := none

def webhookBackoffStrategy (attemptsMade : ℕ) (data : WebhookDeliveryJobData) : ℤ :=
  resolveBackoffMs attemptsMade data.retryAfterMs

/-- How long a completed job is kept. -/
def REMOVE_ON_COMPLETE_AGE_MS : ℤ := 3600000

/-! ## The world -/

/-- What others keep, and may change at any time. -/
structure Surroundings where
  endpoints : String → SsrfHttpResult
  activities : Uuid → Option Activities.ActivityEntity
  isActiveBondForMember : Uuid → Uuid → Bool
  /-- The ids that the database generates next. -/
  uuids : ℕ → Uuid

structure World where
  clock : Instant
  deliveries : Table WebhookDeliveryEntity.id
  subscriptions : Table WebhookSubscriptionEntity.id
  outbox : Table OutboxEventEntity.id
  attempts : List InsertDeliveryAttemptInput
  notifications : List CreateNotificationInput
  audit : List WebhookAuditEntryInput
  observed : List DeliveryLogInput
  queue : JobQueue String WebhookDeliveryJobData
  surroundings : Surroundings

inductive Call where
  | now
  | findByEventSub (eventId subscriptionId : Uuid)
  | findDelivery (id : Uuid)
  | findDeadBySubscription (subscriptionId : Uuid)
  | findReconcilable (now : Instant)
  | updateStatus (id : Uuid) (patch : DeliveryStatusPatch)
  | insertAttempt (input : InsertDeliveryAttemptInput)
  | recordAttempt (input : DeliveryLogInput)
  | findSubscription (id : Uuid)
  | saveSubscription (entity : WebhookSubscriptionEntity)
  | countByBond (bondId : Uuid)
  | createSubscription (entity : WebhookSubscriptionEntity)
  | removeSubscription (id : Uuid)
  | findActiveByBond (bondId : Uuid)
  | findOutboxEvent (id : Uuid)
  | findPending (limit : ℕ)
  | findByIdIncludingDeleted (activityId : Uuid)
  /-- One POST, with the delivery it is made for. -/
  | post (delivery : Option Uuid) (url rawBody : String) (headers : List (String × String))
  | createNotification (input : CreateNotificationInput)
  | dispatch (event : OutboxEventEntity) (subscriptionIds : List Uuid)
  | isActiveBondForMember (bondId userId : Uuid)
  | record (entry : WebhookAuditEntryInput)
  | purgeOlderThan (before : Instant)
  | purgeDispatchedBefore (before : Instant)
  | getJob (jobId : String)
  | addJob (job : DeliveryJob)
  | removeJob (jobId : String)
  | updateData (jobId : String) (data : WebhookDeliveryJobData)
  | takeJob (jobId : String)
  | moveToCompleted (jobId : String) (token : ℕ)
  | moveToFailed (jobId : String) (token : ℕ)

@[reducible] def interface : Interface where
  Call := Call
  Answer
    | .now => Instant
    | .findByEventSub _ _ => Option WebhookDeliveryEntity
    | .findDelivery _ => Option WebhookDeliveryEntity
    | .findDeadBySubscription _ => List WebhookDeliveryEntity
    | .findReconcilable _ => List WebhookDeliveryEntity
    | .updateStatus _ _ => Unit
    | .insertAttempt _ => Unit
    | .recordAttempt _ => Unit
    | .findSubscription _ => Option WebhookSubscriptionEntity
    | .saveSubscription _ => Unit
    | .countByBond _ => ℕ
    | .createSubscription _ => WebhookSubscriptionEntity
    | .removeSubscription _ => Unit
    | .findActiveByBond _ => List WebhookSubscriptionEntity
    | .findOutboxEvent _ => Option OutboxEventEntity
    | .findPending _ => List OutboxEventEntity
    | .findByIdIncludingDeleted _ => Option Activities.ActivityEntity
    | .post _ _ _ _ => SsrfHttpResult
    | .createNotification _ => Unit
    | .dispatch _ _ => List Uuid
    | .isActiveBondForMember _ _ => Bool
    | .record _ => Unit
    | .purgeOlderThan _ => ℕ
    | .purgeDispatchedBefore _ => ℕ
    | .getJob _ => Option DeliveryJob
    | .addJob _ => Unit
    | .removeJob _ => Unit
    | .updateData _ _ => Unit
    | .takeJob _ => Option (DeliveryJob × ℕ)
    | .moveToCompleted _ _ => Unit
    | .moveToFailed _ _ => Unit

/-! ## Queries -/

/-- The rows that the reconciliation lists. -/
def reconcilable (now : Instant) (row : WebhookDeliveryEntity) : Bool :=
  (row.status = .PENDING ∧ row.nextAttemptAt = none) ∨
    (row.status = .PENDING ∧ row.nextAttemptAt.any (· ≤ now)) ∨
    (row.status = .RETRYING ∧ row.nextAttemptAt.any (· ≤ now))

def World.updateStatus (world : World) (id : Uuid) (patch : DeliveryStatusPatch) :
    Except Exception Unit × World :=
  if (patch.nextAttemptAt.join).any (!validDate ·) then (.error .fault, world)
  else match world.deliveries.get id with
  | none => (.ok (), world)
  | some row => (.ok (), { world with deliveries := world.deliveries.put (patch.onto row) })

def World.insertAttempt (world : World) (input : InsertDeliveryAttemptInput) :
    Except Exception Unit × World :=
  if (world.deliveries.get input.deliveryId).isNone then (.error .fault, world)
  else (.ok (), { world with attempts := world.attempts ++ [input] })

/-- `save`: the columns of the entity, over the row or as a new one. -/
def World.saveSubscription (world : World) (entity : WebhookSubscriptionEntity) : World :=
  { world with
    subscriptions := (world.subscriptions.insert entity).getD (world.subscriptions.put entity) }

/-- A new row, under the id that the database generates. -/
def World.createSubscription (world : World) (entity : WebhookSubscriptionEntity) :
    Except Exception WebhookSubscriptionEntity × World :=
  let stored := { entity with id := world.surroundings.uuids 0 }
  match world.subscriptions.insert stored with
  | none => (.error .fault, world)
  | some subscriptions => (.ok stored, { world with subscriptions := subscriptions })

/-- `ON CONFLICT DO NOTHING`: the row, unless its id or its pair is taken. -/
def insertOnConflictDoNothing (row : WebhookDeliveryEntity)
    (deliveries : Table WebhookDeliveryEntity.id) : Option (Table WebhookDeliveryEntity.id) :=
  if deliveries.rows.any fun old =>
      old.eventId = row.eventId ∧ old.subscriptionId = row.subscriptionId then none
  else deliveries.insert row

/-- The rows of one event, one for each subscription that has none; the subscriptions
that a row was created for come first. -/
def insertDeliveries (eventId : Uuid) (now : Instant) (uuids : ℕ → Uuid) :
    ℕ → List Uuid → Table WebhookDeliveryEntity.id → List Uuid × Table WebhookDeliveryEntity.id
  | _, [], deliveries => ([], deliveries)
  | index, subscriptionId :: rest, deliveries =>
      let row : WebhookDeliveryEntity :=
        { id := uuids index, eventId := eventId, subscriptionId := subscriptionId, createdAt := now }
      match insertOnConflictDoNothing row deliveries with
      | none => insertDeliveries eventId now uuids (index + 1) rest deliveries
      | some added =>
          let (created, all) := insertDeliveries eventId now uuids (index + 1) rest added
          (subscriptionId :: created, all)

/-- A row that the new ones refer to is missing. -/
def World.orphans (world : World) (eventId : Uuid) (subscriptionIds : List Uuid) : Bool :=
  subscriptionIds.any fun subscriptionId =>
    (world.outbox.get eventId).isNone || (world.subscriptions.get subscriptionId).isNone

/-- `fan-out.service.ts::dispatch`: the transaction of the fan-out. -/
def World.dispatch (world : World) (event : OutboxEventEntity) (subscriptionIds : List Uuid) :
    Except Exception (List Uuid) × World :=
  if world.orphans event.id subscriptionIds then (.error .fault, world)
  else
    let (created, deliveries) :=
      insertDeliveries event.id world.clock world.surroundings.uuids 0 subscriptionIds world.deliveries
    let outbox := match world.outbox.get event.id with
      | none => world.outbox
      | some row => world.outbox.put { row with dispatchedAt := some world.clock }
    (.ok created, { world with deliveries := deliveries, outbox := outbox })

/-- `ON DELETE CASCADE`, from the events and the subscriptions to the deliveries and
from these to their attempts. -/
def World.cascade (world : World) : World :=
  let deliveries := world.deliveries.filter fun row =>
    (world.outbox.get row.eventId).isSome && (world.subscriptions.get row.subscriptionId).isSome
  { world with
    deliveries := deliveries
    attempts := world.attempts.filter fun attempt => (deliveries.get attempt.deliveryId).isSome }

def World.removeSubscription (world : World) (id : Uuid) : World :=
  World.cascade { world with subscriptions := world.subscriptions.filter (·.id ≠ id) }

/-- `dispatched_at IS NOT NULL AND dispatched_at < before`. -/
def purged (before : Instant) (event : OutboxEventEntity) : Bool := event.dispatchedAt.any (· < before)

/-- What the queue answers, or the error of a report that it refuses. -/
def World.queued (world : World) (queue : Option (JobQueue String WebhookDeliveryJobData)) :
    Except Exception Unit × World :=
  match queue with
  | none => (.error .fault, world)
  | some queue => (.ok (), { world with queue := queue })

def serve (query : Call) (world : World) : Except Exception (interface.Answer query) × World :=
  match query with
  | .now => (.ok world.clock, world)
  | .findByEventSub eventId subscriptionId =>
      (.ok (world.deliveries.rows.find? fun row =>
        row.eventId = eventId ∧ row.subscriptionId = subscriptionId), world)
  | .findDelivery id => (.ok (world.deliveries.get id), world)
  | .findDeadBySubscription subscriptionId =>
      (.ok (world.deliveries.rows.filter fun row =>
        row.subscriptionId = subscriptionId ∧ row.status = .DEAD), world)
  | .findReconcilable now => (.ok (world.deliveries.rows.filter (reconcilable now)), world)
  | .updateStatus id patch => world.updateStatus id patch
  | .insertAttempt input => world.insertAttempt input
  | .recordAttempt input => (.ok (), { world with observed := world.observed ++ [input] })
  | .findSubscription id => (.ok (world.subscriptions.get id), world)
  | .saveSubscription entity => (.ok (), world.saveSubscription entity)
  | .countByBond bondId => (.ok (world.subscriptions.rows.countP (·.bondId = bondId)), world)
  | .createSubscription entity => world.createSubscription entity
  | .removeSubscription id => (.ok (), world.removeSubscription id)
  | .findActiveByBond bondId =>
      (.ok (world.subscriptions.rows.filter fun row => row.bondId = bondId ∧ row.status = .ACTIVE),
        world)
  | .findOutboxEvent id => (.ok (world.outbox.get id), world)
  | .findPending limit =>
      (.ok ((world.outbox.rows.filter fun event => event.dispatchedAt = none).take limit), world)
  | .findByIdIncludingDeleted activityId => (.ok (world.surroundings.activities activityId), world)
  | .post _ url _ _ => (.ok (world.surroundings.endpoints url), world)
  | .createNotification input =>
      (.ok (), { world with notifications := world.notifications ++ [input] })
  | .dispatch event subscriptionIds => world.dispatch event subscriptionIds
  | .isActiveBondForMember bondId userId =>
      (.ok (world.surroundings.isActiveBondForMember bondId userId), world)
  | .record entry => (.ok (), { world with audit := world.audit ++ [entry] })
  | .purgeOlderThan before =>
      (.ok (world.attempts.countP (·.startedAt < before)),
        { world with attempts := world.attempts.filter (¬·.startedAt < before) })
  | .purgeDispatchedBefore before =>
      (.ok (world.outbox.rows.countP (purged before)),
        World.cascade { world with outbox := world.outbox.filter (!purged before ·) })
  | .getJob jobId => (.ok (world.queue.get jobId), world)
  | .addJob job => (.ok (), { world with queue := world.queue.add job })
  | .removeJob jobId => world.queued (world.queue.remove jobId)
  | .updateData jobId data => world.queued (world.queue.updateData jobId data)
  | .takeJob jobId =>
      (.ok (world.queue.take jobId).1, { world with queue := (world.queue.take jobId).2 })
  | .moveToCompleted jobId token => world.queued (world.queue.complete jobId token world.clock)
  | .moveToFailed jobId token =>
      world.queued (world.queue.fail webhookBackoffStrategy jobId token world.clock)

/-- The calls but those that write a delivery, an event or a subscription. -/
def Call.sparesTables : Call → Prop
  | .updateStatus _ _ | .saveSubscription _ | .createSubscription _ | .removeSubscription _
  | .dispatch _ _ | .purgeDispatchedBefore _ => False
  | _ => True

structure SameTables (world after : World) : Prop where
  deliveries : after.deliveries = world.deliveries
  outbox : after.outbox = world.outbox
  subscriptions : after.subscriptions = world.subscriptions

theorem tables_spared {query : Call} (spares : query.sparesTables) (world : World) :
    SameTables world (serve query world).2 := by
  cases query with
  | updateStatus | saveSubscription | createSubscription | removeSubscription | dispatch
  | purgeDispatchedBefore => exact spares.elim
  | insertAttempt input =>
    simp only [serve, World.insertAttempt]
    split <;> exact ⟨rfl, rfl, rfl⟩
  | removeJob | updateData | moveToCompleted | moveToFailed =>
    simp only [serve, World.queued]
    split <;> exact ⟨rfl, rfl, rfl⟩
  | _ => exact ⟨rfl, rfl, rfl⟩

def Call.sparesQueue : Call → Prop
  | .addJob _ | .removeJob _ | .updateData _ _ | .takeJob _ | .moveToCompleted _ _
  | .moveToFailed _ _ => False
  | _ => True

theorem queue_spared {query : Call} (spares : query.sparesQueue) (world : World) :
    (serve query world).2.queue = world.queue := by
  cases query with
  | addJob | removeJob | updateData | takeJob | moveToCompleted | moveToFailed => exact spares.elim
  | updateStatus id patch =>
    simp only [serve, World.updateStatus]
    split
    · rfl
    · split <;> rfl
  | insertAttempt input =>
    simp only [serve, World.insertAttempt]
    split <;> rfl
  | createSubscription entity =>
    simp only [serve, World.createSubscription]
    split <;> rfl
  | dispatch event subscriptionIds =>
    simp only [serve, World.dispatch]
    split <;> rfl
  | _ => rfl

/-- The HTTP client does not throw, and neither do the clock and the counters. -/
def failure : Call → Option Exception
  | .now => none
  | .post _ _ _ _ => none
  | .recordAttempt _ => none
  | _ => some .fault

/-- How the world moves by itself. -/
inductive Nudge where
  | tick (ms : ℕ)
  | surroundings (surroundings : Surroundings)
  | produce (id : Uuid) (input : InsertOutboxEventInput)
  | subscribe (entity : WebhookSubscriptionEntity)
  | unsubscribe (id : Uuid)
  | stall (jobId : String)
  | promote (jobId : String)
  | expire (jobId : String)
  /-- Redis loses everything. -/
  | flush

def nudge (how : Nudge) (world : World) : World :=
  match how with
  | .tick ms => { world with clock := world.clock + ms }
  | .surroundings surroundings => { world with surroundings := surroundings }
  | .produce id input =>
      let event : OutboxEventEntity :=
        { input with id := id, createdAt := world.clock, dispatchedAt := none }
      { world with outbox := (world.outbox.insert event).getD world.outbox }
  | .subscribe entity => world.saveSubscription entity
  | .unsubscribe id => world.removeSubscription id
  | .stall jobId => { world with queue := world.queue.stall jobId }
  | .promote jobId => { world with queue := world.queue.promote jobId world.clock }
  | .expire jobId =>
      { world with queue := world.queue.expire REMOVE_ON_COMPLETE_AGE_MS jobId world.clock }
  | .flush => { world with queue := world.queue.flush }

def start : World where
  clock := 0
  deliveries := .empty
  subscriptions := .empty
  outbox := .empty
  attempts := []
  notifications := []
  audit := []
  observed := []
  queue := {}
  surroundings := ⟨fun _ => { status := none }, fun _ => none, fun _ _ => false, fun _ => ""⟩

end ParentalCoord.Webhooks

import ParentalCoord.Webhooks.Repository

/-!
The delivery of webhooks: the worker, the relay with its fan-out, the reconciliation,
the replays and retention, and the management of the subscriptions.

The worker takes a job, makes one attempt of its delivery and reports how that went.
The attempt reads the delivery once and writes its status once, whatever the answer
of the endpoint, and it goes by the delivery that it has read.  The cap on concurrent
requests to one endpoint only delays a request, and so is not part of the model.
-/

namespace ParentalCoord.Webhooks

open Interleaving Store

structure Config where
  WEBHOOK_API_VERSION : Option String := none
  WEBHOOK_AUTO_DISABLE_DAYS : Option ℕ := none
  WEBHOOK_RETENTION_DAYS : Option ℕ := none
  WEBHOOK_MAX_PER_BOND : Option ℕ := none
  WEBHOOK_ROTATION_GRACE_HOURS : Option ℕ := none
  /-- The cipher of the stored secrets; it fails on one that it cannot read. -/
  decrypt : String → Except Exception String
  /-- The cipher, with an initialization vector; it fails when it has no key. -/
  encrypt : String → String → Except Exception String := fun _ secret => .ok secret
  /-- The protocol of a URL, by the parser of the platform. -/
  protocol : String → Option String := fun _ => some "https:"
  hmacBase64 : String → String → String

/-- Nothing configured, and a cipher and a hash that stand for themselves. -/
def defaults : Config where
  decrypt secret := .ok secret
  hmacBase64 _ secret := secret

structure AuthUser where
  id : Uuid
  /-- `systemRole === 'admin'`. -/
  admin : Bool

structure ReconcileResult where
  dispatchedOutbox : ℕ
  reenqueuedDeliveries : ℕ

structure RetentionResult where
  purgedAttempts : ℕ
  purgedOutbox : ℕ
  cutoff : Instant

/-- What a client sees of a subscription. -/
structure WebhookSubscriptionResponseDto where
  id : Uuid
  bondId : Uuid
  url : String
  description : Option String
  eventTypes : List String
  status : String

/-- What a request answers with. -/
inductive Reply where
  | queued
  | replayed (queued : ℕ)
  | nothing
  | created (subscription : WebhookSubscriptionResponseDto) (secret : String)
  | updated (subscription : WebhookSubscriptionResponseDto)
  | rotated (id : Uuid) (secret previousSecretExpiresAt : String)

abbrev Request := Handler interface Exception

/-! ## The calls, under the names of the source -/

def perform (query : Call) : Request (interface.Answer query) :=
  @Handler.perform interface Exception query

def clockNow : Request Instant := perform .now

def findByEventSub (eventId subscriptionId : Uuid) : Request (Option WebhookDeliveryEntity) :=
  perform (.findByEventSub eventId subscriptionId)

def updateStatus (id : Uuid) (patch : DeliveryStatusPatch) : Request Unit :=
  perform (.updateStatus id patch)

def insertAttempt (input : InsertDeliveryAttemptInput) : Request Unit :=
  perform (.insertAttempt input)

def recordAttempt (input : DeliveryLogInput) : Request Unit := perform (.recordAttempt input)

def findSubscription (id : Uuid) : Request (Option WebhookSubscriptionEntity) :=
  perform (.findSubscription id)

def findOutboxEvent (id : Uuid) : Request (Option OutboxEventEntity) := perform (.findOutboxEvent id)

def post (delivery : Option Uuid) (url rawBody : String) (headers : List (String × String)) :
    Request SsrfHttpResult := perform (.post delivery url rawBody headers)

def getJob (jobId : String) : Request (Option DeliveryJob) := perform (.getJob jobId)

def addJob (job : DeliveryJob) : Request Unit := perform (.addJob job)

/-! ## The health of a subscription -/

def MS_PER_DAY : ℤ := 86400000

/-- `delivery.service.ts::errorMessage`: the message of an error; that of a fault is the database's
own. -/
def errorMessage : Exception → String
  | .http _ _ message _ => message
  | .error message => message
  | .fault => "fault"

/-- `base.repository.ts::updateEntity`: the row is read, assigned to and saved. -/
def updateEntity (id : Uuid)
    (assign : WebhookSubscriptionEntity → WebhookSubscriptionEntity) : Request Unit := do
  match ← findSubscription id with
  | none => throw (notFoundException ("WebhookSubscriptionEntity with id \"" ++ id ++ "\" not found"))
  | some entity => perform (.saveSubscription (assign entity))

/-- `subscription-health.service.ts::notifyDisabled`: a notice that cannot be written does not break
the delivery. -/
def notifyDisabled (config : Config) (subscription : WebhookSubscriptionEntity)
    (reason : WebhookDisableReason) : Request Unit :=
  let text := disableNotificationText subscription.id reason config.WEBHOOK_AUTO_DISABLE_DAYS
  tryCatch
    (perform (.createNotification
      { userId := subscription.createdBy
        bondId := subscription.bondId
        type := WEBHOOK_DISABLED_NOTIFICATION_TYPE
        title := text.1
        body := text.2
        refEntityType := WEBHOOK_SUBSCRIPTION_REF_ENTITY_TYPE
        refEntityId := subscription.id }))
    fun _ => return ()

/-- The row is disabled after days of failure without a success in between. -/
def autoDisable (config : Config) (subscription : WebhookSubscriptionEntity) : Request Bool := do
  updateEntity subscription.id fun entity =>
    { entity with status := .AUTO_DISABLED, consecutiveFailureSince := none }
  notifyDisabled config subscription .sustainedFailure
  return true

/-- `subscription-health.service.ts::recordFailure`: a streak begins, or has lasted long enough to
disable the subscription. -/
def recordFailure (config : Config) (subscription : WebhookSubscriptionEntity) (now : Instant) :
    Request Bool := do
  let days := config.WEBHOOK_AUTO_DISABLE_DAYS.getD DEFAULT_WEBHOOK_AUTO_DISABLE_DAYS
  if subscription.status ≠ .ACTIVE then return false
  else match subscription.consecutiveFailureSince with
    | none =>
      updateEntity subscription.id fun entity => { entity with consecutiveFailureSince := some now }
      if 0 < days * MS_PER_DAY then return false else autoDisable config subscription
    | some since =>
      if now - since < days * MS_PER_DAY then return false else autoDisable config subscription

def recordSuccess (subscription : WebhookSubscriptionEntity) : Request Unit := do
  if subscription.consecutiveFailureSince.isNone then return ()
  else updateEntity subscription.id fun entity => { entity with consecutiveFailureSince := none }

def disableSubscription (subscriptionId : Uuid) : Request Unit :=
  updateEntity subscriptionId fun entity =>
    { entity with status := .DISABLED, consecutiveFailureSince := none }

/-! ## One attempt -/

/-- `delivery.service.ts::fail`: an attempt that ends without a request to the endpoint. -/
def fail (deliveryId : Uuid) (attemptNo : ℕ) (error : String) : Request Unit := do
  let completedAt ← clockNow
  updateStatus deliveryId
    { status := .FAILED
      attemptCount := some attemptNo
      nextAttemptAt := some none
      completedAt := some (some completedAt)
      lastError := some (some error) }

/-- A change of status to a terminal one. -/
def concluded (status : WebhookDeliveryStatus) (attemptNo : ℕ) (lastStatusCode : Option ℕ)
    (lastError : Option String) (now : Instant) : DeliveryStatusPatch where
  status := status
  attemptCount := some attemptNo
  nextAttemptAt := some none
  lastStatusCode := some lastStatusCode
  lastError := some lastError
  completedAt := some (some now)

def retried (attemptNo : ℕ) (nextAttemptAt : Instant) (result : SsrfHttpResult) :
    DeliveryStatusPatch where
  status := .RETRYING
  attemptCount := some attemptNo
  nextAttemptAt := some (some nextAttemptAt)
  lastStatusCode := some result.status
  lastError := some result.error
  completedAt := some none

def stashRetryAfter (job : DeliveryJob) (retryAfterMs : Option ℤ) : Request Unit :=
  perform (.updateData job.id { job.data with retryAfterMs := retryAfterMs })

def deliveryRetryError (deliveryId : Uuid) (attemptNo : ℕ) : Exception :=
  .error ("Delivery " ++ deliveryId ++ " failed on attempt " ++ Nat.repr attemptNo ++ "; retrying")

/-- `delivery.service.ts::applyOutcome`: what is written of an attempt, and whether the job is to be
retried. -/
def applyOutcome (config : Config) (job : DeliveryJob) (deliveryId : Uuid)
    (subscription : WebhookSubscriptionEntity) (outcome : DeliveryOutcome) (result : SsrfHttpResult)
    (attemptNo : ℕ) : Request Unit := do
  let now ← clockNow
  match outcome with
  | .SUCCESS =>
    updateStatus deliveryId (concluded .SUCCEEDED attemptNo result.status none now)
    recordSuccess subscription
  | .DISABLE =>
    updateStatus deliveryId (concluded .FAILED attemptNo result.status
      (some (result.error.getD "Endpoint returned 410 Gone")) now)
    disableSubscription subscription.id
    notifyDisabled config subscription .gone
  | .TERMINAL =>
    updateStatus deliveryId (concluded .FAILED attemptNo result.status
      (some (result.error.getD
        ("Terminal response " ++ (result.status.map Nat.repr).getD "blocked"))) now)
    let _ ← recordFailure config subscription now
  | .RETRY =>
    if job.attempts.getD WEBHOOK_MAX_ATTEMPTS ≤ attemptNo then
      updateStatus deliveryId (concluded .DEAD attemptNo result.status
        (some (result.error.getD ("Exhausted after " ++ Nat.repr attemptNo ++ " attempts"))) now)
      let _ ← recordFailure config subscription now
    else
      updateStatus deliveryId
        (retried attemptNo (now + resolveBackoffMs attemptNo result.retryAfterMs) result)
      let _ ← recordFailure config subscription now
      stashRetryAfter job result.retryAfterMs
      throw (deliveryRetryError deliveryId attemptNo)

/-- The body of the event, or the message of what broke it. -/
def buildBody (config : Config) (event : OutboxEventEntity) : Request (Except String String) :=
  tryCatch
    (do
      let activity ← perform (.findByIdIncludingDeleted event.aggregateId)
      match buildWebhookPayload (payloadInput config.WEBHOOK_API_VERSION event activity) with
      | .ok payload => return .ok (jsonStringify payload.toJson)
      | .error error => throw error)
    fun error => return .error (errorMessage error)

/-- The headers of a request, or the error of the cipher or of the signature. -/
def signedHeaders (config : Config) (subscription : WebhookSubscriptionEntity) (id : String)
    (now : Instant) (rawBody : String) : Except Exception (List (String × String)) := do
  let secrets ← (signingSecretsFor subscription now).mapM config.decrypt
  let headers ← buildSignatureHeaders config.hmacBase64 id (now / 1000) rawBody secrets
  return headers ++ [("content-type", "application/json")]

/-- The request and what is written of it. -/
def deliver (config : Config) (job : DeliveryJob) (deliveryId : Uuid) (attemptNo : ℕ)
    (subscription : WebhookSubscriptionEntity) (rawBody : String)
    (headers : List (String × String)) : Request Unit := do
  let startedAt ← clockNow
  let result ← post (some deliveryId) subscription.url rawBody headers
  let endedAt ← clockNow
  let durationMs := max (endedAt - startedAt) 0
  insertAttempt
    { deliveryId := deliveryId
      attemptNo := attemptNo
      startedAt := startedAt
      durationMs := durationMs
      statusCode := result.status
      responseSnippet := truncateResponseSnippet result.body
      error := result.error }
  let outcome := classify result.status result.networkError
  recordAttempt
    { eventId := job.data.eventId
      subscriptionId := job.data.subscriptionId
      attempt := attemptNo
      outcome := outcome
      status := statusForAttempt outcome attemptNo (job.attempts.getD WEBHOOK_MAX_ATTEMPTS)
      statusCode := result.status
      latencyMs := durationMs
      deliveryId := deliveryId
      bondId := subscription.bondId }
  applyOutcome config job deliveryId subscription outcome result attemptNo

/-- What follows once the delivery was found. -/
def attempt (config : Config) (job : DeliveryJob) (delivery : WebhookDeliveryEntity) :
    Request Unit := do
  let attemptNo := delivery.attemptCount + 1
  match ← findSubscription job.data.subscriptionId with
  | none => fail delivery.id attemptNo "Subscription not found"
  | some subscription =>
    if subscription.status ≠ .ACTIVE then
      fail delivery.id attemptNo
        ("Subscription is " ++ subscription.status.value ++ ", not ACTIVE")
    else match ← findOutboxEvent job.data.eventId with
    | none => fail delivery.id attemptNo "Outbox event not found"
    | some event =>
      match ← buildBody config event with
      | .error message => fail delivery.id attemptNo ("Payload build failed: " ++ message)
      | .ok rawBody =>
        let now ← clockNow
        match signedHeaders config subscription event.id now rawBody with
        | .error error => fail delivery.id attemptNo ("Signing failed: " ++ errorMessage error)
        | .ok headers => deliver config job delivery.id attemptNo subscription rawBody headers

def testBody (config : Config) (now : Instant) (webhookId : Uuid) : String :=
  jsonStringify (.obj [("id", .str webhookId), ("type", .str "webhook.test"),
    ("apiVersion", .str (config.WEBHOOK_API_VERSION.getD DEFAULT_WEBHOOK_API_VERSION)),
    ("occurredAt", .str (toISOString now)), ("data", .obj [("test", .bool true)])])

/-- `delivery.service.ts::handleTest`: a ping has no delivery and leaves nothing behind. -/
def handleTest (config : Config) (subscriptionId webhookId : Uuid) : Request Unit := do
  match ← findSubscription subscriptionId with
  | none => return ()
  | some subscription =>
    if subscription.status ≠ .ACTIVE then return ()
    else
      let now ← clockNow
      let rawBody := testBody config now webhookId
      match signedHeaders config subscription webhookId now rawBody with
      | .error _ => return ()
      | .ok headers =>
        let _ ← post none subscription.url rawBody headers

/-- `delivery.service.ts::handle`: `webhookId` is the id that a ping generates for itself. -/
def handle (config : Config) (job : DeliveryJob) (webhookId : Uuid) : Request Unit := do
  if job.data.test then handleTest config job.data.subscriptionId webhookId
  else match ← findByEventSub job.data.eventId job.data.subscriptionId with
  | none => return ()
  | some delivery => attempt config job delivery

/-- `processor.ts::process`: the worker takes a job, and reports whether it was carried out or
threw. -/
def work (config : Config) (jobId : String) (webhookId : Uuid) : Request Unit := do
  match ← perform (.takeJob jobId) with
  | none => return ()
  | some (job, token) =>
    tryCatch
      (do
        handle config job webhookId
        perform (.moveToCompleted jobId token))
      fun _ => perform (.moveToFailed jobId token)

/-! ## The fan-out and the relay -/

def RELAY_BATCH_LIMIT := 100

/-- `replay.service.ts::enqueue`: a job that Redis does not take is left to the reconciliation. -/
def enqueue (eventId subscriptionId : Uuid) : Request Unit :=
  tryCatch (addJob (deliveryJob eventId subscriptionId)) fun _ => return ()

def enqueueAll (eventId : Uuid) : List Uuid → Request Unit
  | [] => return ()
  | subscriptionId :: rest => do
    enqueue eventId subscriptionId
    enqueueAll eventId rest

/-- The active subscriptions that match; an expense has none. -/
def matchedSubscriptions (event : OutboxEventEntity) : Request (List WebhookSubscriptionEntity) := do
  if event.aggregateType = .activity then
    let subscriptions ← perform (.findActiveByBond event.bondId)
    return selectMatchedSubscriptions subscriptions event.eventType
  else return []

def dispatch (event : OutboxEventEntity) : Request ℕ := do
  let matched ← matchedSubscriptions event
  let enqueued ← perform (.dispatch event (matched.map (·.id)))
  enqueueAll event.id enqueued
  return enqueued.length

/-- An event that fails does not hold up the others. -/
def dispatchAll : List OutboxEventEntity → Request ℕ
  | [] => return 0
  | event :: rest => do
    let dispatched ← tryCatch (dispatch event) fun _ => return 0
    let others ← dispatchAll rest
    return dispatched + others

def relay : Request ℕ := do
  let pending ← perform (.findPending RELAY_BATCH_LIMIT)
  dispatchAll pending

/-! ## The reconciliation -/

/-- `none` when Redis cannot be asked. -/
def checkJob (jobId : String) : Request (Option (Option DeliveryJob)) :=
  tryCatch (do let existing ← getJob jobId; return some existing) fun _ => return none

def reenqueue : List WebhookDeliveryEntity → Request ℕ
  | [] => return 0
  | delivery :: rest => do
    match ← checkJob delivery.jobId with
    | none => return 0
    | some (some _) => reenqueue rest
    | some none =>
      enqueue delivery.eventId delivery.subscriptionId
      let others ← reenqueue rest
      return others + 1

def reconcile : Request ReconcileResult := do
  let now ← clockNow
  let dispatchedOutbox ← relay
  let candidates ← perform (.findReconcilable now)
  let reenqueuedDeliveries ← reenqueue candidates
  return ⟨dispatchedOutbox, reenqueuedDeliveries⟩

/-! ## Replays -/

def assertCanManage (bondId : Uuid) (user : AuthUser) : Request Unit := do
  if user.admin then return ()
  else
    let isMember ← perform (.isActiveBondForMember bondId user.id)
    if !isMember then throw (forbiddenException "You are not an active member of this bond")
    else return ()

/-- The delivery as if it had never been attempted. -/
def resetPatch : DeliveryStatusPatch where
  status := .PENDING
  attemptCount := some 0
  nextAttemptAt := some none
  lastStatusCode := some none
  lastError := some none
  completedAt := some none

/-- The job in the way is removed, unless it is active. -/
def replaceJob (eventId subscriptionId : Uuid) : Request Unit := do
  match ← getJob (buildDeliveryJobId eventId subscriptionId) with
  | none => addJob (deliveryJob eventId subscriptionId)
  | some existing =>
    tryCatch (perform (.removeJob existing.id)) fun _ => return ()
    addJob (deliveryJob eventId subscriptionId)

def resetAndEnqueue (delivery : WebhookDeliveryEntity) : Request Unit := do
  updateStatus delivery.id resetPatch
  replaceJob delivery.eventId delivery.subscriptionId

/-- `replay.service.ts::replayDelivery`: a delivery, whatever its status is, is reset, and its job is
added again. -/
def replayDelivery (deliveryId : Uuid) (user : AuthUser) : Request Unit := do
  match ← perform (.findDelivery deliveryId) with
  | none => throw (notFoundException ("Webhook delivery \"" ++ deliveryId ++ "\" not found"))
  | some delivery =>
    match ← findSubscription delivery.subscriptionId with
    | none =>
      throw (notFoundException ("Webhook delivery \"" ++ deliveryId ++ "\" has no subscription"))
    | some subscription =>
      assertCanManage subscription.bondId user
      resetAndEnqueue delivery
      perform (.record
        { bondId := subscription.bondId
          userId := user.id
          entityId := delivery.id
          action := .REPLAY
          detail := "Replayed delivery " ++ delivery.id ++ " for subscription " ++ subscription.id })

def resetAll : List WebhookDeliveryEntity → Request Unit
  | [] => return ()
  | delivery :: rest => do
    resetAndEnqueue delivery
    resetAll rest

def subscriptionNotFound (subscriptionId : Uuid) : Exception :=
  notFoundException ("Webhook subscription \"" ++ subscriptionId ++ "\" not found")

/-- `subscriptions.service.ts::findInBond`: the subscription, when it is one of the bond. -/
def findInBond (bondId subscriptionId : Uuid) : Request WebhookSubscriptionEntity := do
  match ← findSubscription subscriptionId with
  | none => throw (subscriptionNotFound subscriptionId)
  | some subscription =>
    if subscription.bondId ≠ bondId then throw (subscriptionNotFound subscriptionId)
    else return subscription

/-- `replay.service.ts::replayDead`: the same for each dead delivery of a subscription. -/
def replayDead (bondId subscriptionId : Uuid) (user : AuthUser) : Request ℕ := do
  assertCanManage bondId user
  let _ ← findInBond bondId subscriptionId
  let dead ← perform (.findDeadBySubscription subscriptionId)
  resetAll dead
  if dead = [] then return 0
  else
    perform (.record
      { bondId := bondId
        userId := user.id
        entityId := subscriptionId
        action := .REPLAY
        detail := "Replayed " ++ Nat.repr dead.length ++ " DEAD deliveries for subscription " ++
          subscriptionId })
    return dead.length

def test (bondId id : Uuid) (user : AuthUser) : Request Unit := do
  assertCanManage bondId user
  let _ ← findInBond bondId id
  let now ← clockNow
  addJob (testJob id now)

/-! ## Subscriptions -/

def DEFAULT_WEBHOOK_MAX_PER_BOND := 10

def DEFAULT_WEBHOOK_ROTATION_GRACE_HOURS := 24

def PRODUCED_ACTIVITY_EVENT_TYPES : List String :=
  [Activities.ACTIVITY_EVENT.CREATED, Activities.ACTIVITY_EVENT.ASSIGNED,
    Activities.ACTIVITY_EVENT.ASSISTING, Activities.ACTIVITY_EVENT.IN_PROGRESS,
    Activities.ACTIVITY_EVENT.VERIFY, Activities.ACTIVITY_EVENT.VERIFY_EXPIRED,
    Activities.ACTIVITY_EVENT.CREATED_OVERDUE, Activities.ACTIVITY_EVENT.OVERDUE,
    Activities.ACTIVITY_EVENT.NOT_ASSISTING, Activities.ACTIVITY_EVENT.DONE,
    Activities.ACTIVITY_EVENT.CANCELLED]

structure CreateWebhookSubscriptionDto where
  url : String
  eventTypes : Option (List String) := none
  description : Option String := none

/-- `none` is a field that is left out, and `some none` is `null`. -/
structure UpdateWebhookSubscriptionDto where
  url : Option (Option String) := none
  eventTypes : Option (Option (List String)) := none
  description : Option (Option String) := none
  status : Option (Option WebhookSubscriptionStatus) := none

/-- What `generateSecret` and `encrypt` draw at random. -/
structure Drawn where
  secret : String
  iv : String

/-- `subscriptions.service.ts::assertHttpsUrl`: `null` is no URL. -/
def assertHttpsUrl (config : Config) (url : Option String) : Except Exception Unit :=
  match url.bind config.protocol with
  | none => .error (badRequestException "url must be a valid absolute URL")
  | some protocol =>
    if protocol ≠ "https:" then .error (badRequestException "url must use the https scheme")
    else .ok ()

/-- `subscriptions.service.ts::normalizeEventTypes`: each type once, where it came first. -/
def normalizeEventTypes (eventTypes : Option (List String)) : Except Exception (List String) :=
  match eventTypes.getD [] with
  | [] => .ok [WEBHOOK_WILDCARD]
  | types =>
    match types.find? fun type =>
        type ∉ PRODUCED_ACTIVITY_EVENT_TYPES ++ [WEBHOOK_STATE_CHANGED_EVENT, WEBHOOK_WILDCARD] with
    | some type => .error (badRequestException ("Unknown event type \"" ++ type ++ "\""))
    | none => .ok types.eraseDups

def responseOf (entity : WebhookSubscriptionEntity) : WebhookSubscriptionResponseDto where
  id := entity.id
  bondId := entity.bondId
  url := entity.url
  description := entity.description
  eventTypes := entity.eventTypes
  status := entity.status.value

/-- What is computed may throw. -/
def computed {α : Type} : Except Exception α → Request α
  | .ok value => return value
  | .error error => throw error

/-- `subscriptions.service.ts::create`: the checks of a new subscription, and the secret, which is
shown this once. -/
def create (config : Config) (bondId : Uuid) (dto : CreateWebhookSubscriptionDto) (user : AuthUser)
    (drawn : Drawn) : Request Reply := do
  assertCanManage bondId user
  computed (assertHttpsUrl config (some dto.url))
  let eventTypes ← computed (normalizeEventTypes dto.eventTypes)
  let count ← perform (.countByBond bondId)
  let max := config.WEBHOOK_MAX_PER_BOND.getD DEFAULT_WEBHOOK_MAX_PER_BOND
  if max ≤ count then
    throw (conflictException
      ("Bond already has the maximum of " ++ Nat.repr max ++ " webhook subscriptions"))
  else
    let secretEncrypted ← computed (config.encrypt drawn.iv drawn.secret)
    let entity ← perform (.createSubscription
      { id := ""
        bondId := bondId
        createdBy := user.id
        url := dto.url
        description := dto.description
        eventTypes := eventTypes
        secretEncrypted := secretEncrypted })
    perform (.record
      { bondId := bondId
        userId := user.id
        entityId := entity.id
        action := .CREATE
        newValue := some [("url", .str entity.url),
          ("eventTypes", .arr (entity.eventTypes.map .str))] })
    return .created (responseOf entity) drawn.secret

/-- What an update may assign; `none` leaves the column alone. -/
structure SubscriptionPatch where
  url : Option String := none
  eventTypes : Option (List String) := none
  description : Option (Option String) := none
  status : Option WebhookSubscriptionStatus := none

def SubscriptionPatch.onto (patch : SubscriptionPatch) (entity : WebhookSubscriptionEntity) :
    WebhookSubscriptionEntity :=
  { entity with
    url := patch.url.getD entity.url
    eventTypes := patch.eventTypes.getD entity.eventTypes
    description := patch.description.getD entity.description
    status := patch.status.getD entity.status }

/-- Only the system may set another status. -/
def assignableStatus : Option (Option WebhookSubscriptionStatus) →
    Except Exception (Option WebhookSubscriptionStatus)
  | none => .ok none
  | some (some .ACTIVE) => .ok (some .ACTIVE)
  | some (some .DISABLED) => .ok (some .DISABLED)
  | some _ => .error (badRequestException "status must be ACTIVE or DISABLED")

def patchOf (config : Config) (dto : UpdateWebhookSubscriptionDto) :
    Except Exception SubscriptionPatch := do
  if dto.url.isSome then assertHttpsUrl config dto.url.join
  let eventTypes ← dto.eventTypes.mapM normalizeEventTypes
  let status ← assignableStatus dto.status
  return ⟨dto.url.join, eventTypes, dto.description, status⟩

/-- What the audit keeps of a subscription. -/
def auditValue (entity : WebhookSubscriptionEntity) : Record :=
  [("url", .str entity.url), ("eventTypes", .arr (entity.eventTypes.map .str)),
    ("description", Json.ofOption entity.description), ("status", .str entity.status.value)]

/-- `updateEntity` with what it returns: the row is read, assigned to and saved. -/
def updatedEntity (id : Uuid) (assign : WebhookSubscriptionEntity → WebhookSubscriptionEntity) :
    Request WebhookSubscriptionEntity := do
  match ← findSubscription id with
  | none => throw (notFoundException ("WebhookSubscriptionEntity with id \"" ++ id ++ "\" not found"))
  | some entity =>
    perform (.saveSubscription (assign entity))
    return assign entity

def updateAction (dto : UpdateWebhookSubscriptionDto) (old : WebhookSubscriptionStatus) :
    WebhookAuditAction :=
  if dto.status = some (some .DISABLED) then .DISABLE
  else if dto.status = some (some .ACTIVE) ∧ old ≠ .ACTIVE then .ENABLE
  else .UPDATE

/-- `subscriptions.service.ts::update`: the fields that are given are checked and saved. -/
def update (config : Config) (bondId id : Uuid) (dto : UpdateWebhookSubscriptionDto)
    (user : AuthUser) : Request Reply := do
  assertCanManage bondId user
  let entity ← findInBond bondId id
  let patch ← computed (patchOf config dto)
  let updated ← updatedEntity id patch.onto
  perform (.record
    { bondId := bondId
      userId := user.id
      entityId := id
      action := updateAction dto entity.status
      oldValue := some (auditValue entity)
      newValue := some (auditValue updated) })
  return .updated (responseOf updated)

/-- `subscriptions.service.ts::remove`: the subscription goes, and its deliveries with it. -/
def remove (bondId id : Uuid) (user : AuthUser) : Request Reply := do
  assertCanManage bondId user
  let entity ← findInBond bondId id
  match ← findSubscription id with
  | none => throw (notFoundException ("WebhookSubscriptionEntity with id \"" ++ id ++ "\" not found"))
  | some _ =>
    perform (.removeSubscription id)
    perform (.record
      { bondId := bondId
        userId := user.id
        entityId := id
        action := .DELETE
        oldValue := some [("url", .str entity.url), ("status", .str entity.status.value)] })
    return .nothing

def MS_PER_HOUR : ℤ := 3600000

/-- `subscriptions.service.ts::rotateSecret`: a new secret is stored, and the one before it stays
valid for the hours of grace. -/
def rotateSecret (config : Config) (bondId id : Uuid) (user : AuthUser) (drawn : Drawn) :
    Request Reply := do
  assertCanManage bondId user
  let entity ← findInBond bondId id
  let now ← clockNow
  let hours := config.WEBHOOK_ROTATION_GRACE_HOURS.getD DEFAULT_WEBHOOK_ROTATION_GRACE_HOURS
  let expiresAt : Instant := now + hours * MS_PER_HOUR
  let secretEncrypted ← computed (config.encrypt drawn.iv drawn.secret)
  updateEntity id fun current =>
    { current with
      secretPrevEncrypted := some entity.secretEncrypted
      secretPrevExpiresAt := some expiresAt
      secretEncrypted := secretEncrypted }
  perform (.record
    { bondId := bondId
      userId := user.id
      entityId := id
      action := .ROTATE
      newValue := some [("previousSecretExpiresAt", .str (toISOString expiresAt))] })
  return .rotated id drawn.secret (toISOString expiresAt)

/-! ## Retention -/

def DEFAULT_RETENTION_DAYS := 30

def retention (config : Config) : Request RetentionResult := do
  let now ← clockNow
  let days := config.WEBHOOK_RETENTION_DAYS.getD DEFAULT_RETENTION_DAYS
  let cutoff : Instant := now - days * MS_PER_DAY
  let purgedAttempts ← perform (.purgeOlderThan cutoff)
  let purgedOutbox ← perform (.purgeDispatchedBefore cutoff)
  return ⟨purgedAttempts, purgedOutbox, cutoff⟩

/-! ## The system -/

inductive Entry where
  | work (jobId : String) (webhookId : Uuid)
  | poll
  | reconcile
  | retention
  | replayDelivery (deliveryId : Uuid) (user : AuthUser)
  | replayDead (bondId subscriptionId : Uuid) (user : AuthUser)
  | test (bondId id : Uuid) (user : AuthUser)
  | create (bondId : Uuid) (dto : CreateWebhookSubscriptionDto) (user : AuthUser) (drawn : Drawn)
  | update (bondId id : Uuid) (dto : UpdateWebhookSubscriptionDto) (user : AuthUser)
  | remove (bondId id : Uuid) (user : AuthUser)
  | rotateSecret (bondId id : Uuid) (user : AuthUser) (drawn : Drawn)

/-- A periodic job logs what it fails with. -/
def periodic {α : Type} (run : Request α) : Request Reply :=
  tryCatch (do let _ ← run; return .nothing) fun _ => return .nothing

def handler (config : Config) : Entry → Request Reply
  | .work jobId webhookId => do work config jobId webhookId; return .nothing
  | .poll => periodic relay
  | .reconcile => periodic reconcile
  | .retention => periodic (retention config)
  | .replayDelivery deliveryId user => do replayDelivery deliveryId user; return .queued
  | .replayDead bondId subscriptionId user =>
      return .replayed (← replayDead bondId subscriptionId user)
  | .test bondId id user => do test bondId id user; return .queued
  | .create bondId dto user drawn => create config bondId dto user drawn
  | .update bondId id dto user => update config bondId id dto user
  | .remove bondId id user => remove bondId id user
  | .rotateSecret bondId id user drawn => rotateSecret config bondId id user drawn

@[reducible] def webhooks (config : Config) : System interface Exception Reply where
  World := World
  Entry := Entry
  Nudge := Nudge
  start := start
  handler := handler config
  serve := serve
  failure := failure
  nudge := nudge

end ParentalCoord.Webhooks

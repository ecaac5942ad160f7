import ParentalCoord.Webhooks.Payload

/-!
One attempt of a delivery: what its answer means, what status it leaves, when the
next attempt is due, and how its body is signed.
-/

namespace ParentalCoord.Webhooks

inductive WebhookDeliveryStatus where
  | PENDING
  | RETRYING
  | SUCCEEDED
  | FAILED
  | DEAD
  deriving DecidableEq, Inhabited

/-- The delivery has come to an end. -/
def WebhookDeliveryStatus.terminal : WebhookDeliveryStatus → Bool
  | .PENDING => false
  | .RETRYING => false
  | .SUCCEEDED => true
  | .FAILED => true
  | .DEAD => true

inductive WebhookSubscriptionStatus where
  | ACTIVE
  | DISABLED
  | AUTO_DISABLED
  deriving DecidableEq, Inhabited

def WebhookSubscriptionStatus.value : WebhookSubscriptionStatus → String
  | .ACTIVE => "ACTIVE"
  | .DISABLED => "DISABLED"
  | .AUTO_DISABLED => "AUTO_DISABLED"

structure WebhookSubscriptionEntity where
  id : Uuid
  bondId : Uuid
  createdBy : Uuid
  url : String
  description : Option String := none
  eventTypes : List String
  secretEncrypted : String
  secretPrevEncrypted : Option String := none
  secretPrevExpiresAt : Option Instant := none
  status : WebhookSubscriptionStatus := .ACTIVE
  consecutiveFailureSince : Option Instant := none

/-- What the HTTP client answers; it does not throw. -/
structure SsrfHttpResult where
  status : Option ℕ
  body : String := ""
  blocked : Bool := false
  networkError : Bool := false
  error : Option String := none
  retryAfterMs : Option ℤ := none

/-! ## The outcome -/

inductive DeliveryOutcome where
  | SUCCESS
  | DISABLE
  | TERMINAL
  | RETRY
  deriving DecidableEq

/-- `classify.ts::classify`: what the answer of an endpoint means for the delivery. -/
def classify (status : Option ℕ) (networkError : Bool) : DeliveryOutcome :=
  if networkError then .RETRY
  else match status with
    | none => .TERMINAL
    | some status =>
      if 200 ≤ status ∧ status < 300 then .SUCCESS
      else if status = 410 then .DISABLE
      else if status = 408 ∨ status = 429 then .RETRY
      else if 500 ≤ status then .RETRY
      else .TERMINAL

def WEBHOOK_BACKOFF_MS : List ℤ :=
  [0, 5000, 300000, 1800000, 7200000, 18000000, 36000000, 36000000]

def WEBHOOK_MAX_ATTEMPTS : ℕ := WEBHOOK_BACKOFF_MS.length

/-- `backoff.strategy.ts::webhookBackoffForAttempt`: the schedule, by the number of the attempt; it
stays at its last value. -/
def webhookBackoffForAttempt (attemptsMade : ℕ) : ℤ :=
  WEBHOOK_BACKOFF_MS.getD (min (attemptsMade - 1) (WEBHOOK_BACKOFF_MS.length - 1)) 0

def resolveBackoffMs (attemptsMade : ℕ) (retryAfterMs : Option ℤ) : ℤ :=
  match retryAfterMs with
  | some delay => if 0 ≤ delay then delay else webhookBackoffForAttempt attemptsMade
  | none => webhookBackoffForAttempt attemptsMade

def statusForAttempt (outcome : DeliveryOutcome) (attemptNo maxAttempts : ℕ) :
    WebhookDeliveryStatus :=
  match outcome with
  | .SUCCESS => .SUCCEEDED
  | .DISABLE => .FAILED
  | .TERMINAL => .FAILED
  | .RETRY => if maxAttempts ≤ attemptNo then .DEAD else .RETRYING

def WEBHOOK_RESPONSE_SNIPPET_MAX_CHARS := 1024

def truncateResponseSnippet (body : String) : Option String :=
  if !truthy body then none
  else if WEBHOOK_RESPONSE_SNIPPET_MAX_CHARS < jsLength body then
    some (String.ofList (sliceStart WEBHOOK_RESPONSE_SNIPPET_MAX_CHARS body.toList))
  else some body

/-! ## The signature -/

def WEBHOOK_USER_AGENT := "CoparentAgenda-Webhooks/1.0"

def WEBHOOK_SIGNATURE_VERSION := "v1"

/-- `delivery.service.ts::signingSecretsFor`: within the grace of a rotation the old secret signs too,
and first. -/
def signingSecretsFor (subscription : WebhookSubscriptionEntity) (now : Instant) : List String :=
  let previous := match subscription.secretPrevEncrypted, subscription.secretPrevExpiresAt with
    | some previous, some expiresAt => if now < expiresAt then [previous] else []
    | _, _ => []
  previous ++ [subscription.secretEncrypted]

/-- `signing.service.ts::sign`: the value of `webhook-signature`, by the keyed hash of the runtime. -/
def sign (hmacBase64 : String → String → String) (id : String) (timestamp : ℤ) (rawBody : String)
    (secrets : List String) : Except Exception String :=
  if secrets = [] then .error (.error "At least one signing secret is required")
  else
    let signedContent := id ++ "." ++ toString timestamp ++ "." ++ rawBody
    .ok (String.intercalate " " (secrets.map fun secret =>
      WEBHOOK_SIGNATURE_VERSION ++ "," ++ hmacBase64 signedContent secret))

def buildSignatureHeaders (hmacBase64 : String → String → String) (id : String) (timestamp : ℤ)
    (rawBody : String) (secrets : List String) : Except Exception (List (String × String)) := do
  let signature ← sign hmacBase64 id timestamp rawBody secrets
  return [("webhook-id", id), ("webhook-timestamp", toString timestamp),
    ("webhook-signature", signature), ("user-agent", WEBHOOK_USER_AGENT)]

/-! ## The notice of a disabled subscription -/

def DEFAULT_WEBHOOK_AUTO_DISABLE_DAYS := 5

def WEBHOOK_DISABLED_NOTIFICATION_TYPE := "webhook_disabled"

def WEBHOOK_SUBSCRIPTION_REF_ENTITY_TYPE := "webhook_subscription"

inductive WebhookDisableReason where
  | gone
  | sustainedFailure

/-- `subscription-health.service.ts::disableNotificationText`: the title and the body of the notice
that a subscription was disabled. -/
def disableNotificationText (subscriptionId : Uuid) (reason : WebhookDisableReason)
    (autoDisableDays : Option ℕ) : String × String :=
  match reason with
  | .gone =>
      ("Webhook subscription disabled",
        "Your webhook subscription " ++ subscriptionId ++ " was disabled automatically: " ++
          "the endpoint answered 410 Gone. Re-enable it from the webhooks screen to resume " ++
          "deliveries.")
  | .sustainedFailure =>
      ("Webhook subscription auto-disabled",
        "Your webhook subscription " ++ subscriptionId ++ " was auto-disabled after " ++
          Nat.repr (autoDisableDays.getD DEFAULT_WEBHOOK_AUTO_DISABLE_DAYS) ++
          " days of continuous delivery failures. Re-enable it from the webhooks screen once " ++
          "the endpoint is healthy again.")

structure CreateNotificationInput where
  userId : Uuid
  bondId : Uuid
  type : String
  title : String
  body : String
  refEntityType : String
  refEntityId : Uuid

/-! ## Matching -/

def WEBHOOK_STATE_CHANGED_EVENT := "activity.state_changed"

def WEBHOOK_WILDCARD := "*"

def subscriptionMatchesEventType (eventTypes : List String) (eventType : String) : Bool :=
  eventType ∈ eventTypes ∨ WEBHOOK_STATE_CHANGED_EVENT ∈ eventTypes ∨ WEBHOOK_WILDCARD ∈ eventTypes

/-- `fan-out.service.ts::selectMatchedSubscriptions`: each subscription that matches, once. -/
def selectMatchedSubscriptions (subscriptions : List WebhookSubscriptionEntity)
    (eventType : String) : List WebhookSubscriptionEntity :=
  (subscriptions.foldl (fun (seen, matched) subscription =>
    if subscription.id ∈ seen then (seen, matched)
    else if !subscriptionMatchesEventType subscription.eventTypes eventType then (seen, matched)
    else (seen ++ [subscription.id], matched ++ [subscription])) (([] : List Uuid), [])).2

/-- One subscription of the selection, with the ids and the rows that were taken before it. -/
def pick (eventType : String) (taken : List Uuid × List WebhookSubscriptionEntity)
    (subscription : WebhookSubscriptionEntity) : List Uuid × List WebhookSubscriptionEntity :=
  if subscription.id ∈ taken.1 then taken
  else if !subscriptionMatchesEventType subscription.eventTypes eventType then taken
  else (taken.1 ++ [subscription.id], taken.2 ++ [subscription])

theorem selectMatchedSubscriptions_eq (subscriptions : List WebhookSubscriptionEntity)
    (eventType : String) : selectMatchedSubscriptions subscriptions eventType =
      (subscriptions.foldl (pick eventType) ([], [])).2 := rfl

end ParentalCoord.Webhooks

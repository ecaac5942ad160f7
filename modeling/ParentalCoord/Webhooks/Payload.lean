import ParentalCoord.Activities.Guarantees

/-!
The body of a webhook, built from an outbox event and the live activity row, and
how much of the recorded transition it carries.

The producer records the actor as an object and the builder reads it as a string,
so that the body says nothing of the actor; the other fields line up.
-/

namespace ParentalCoord.Webhooks

open Activities Interleaving

def MAX_WEBHOOK_PAYLOAD_BYTES := 64 * 1024

def DEFAULT_WEBHOOK_API_VERSION := "2026-10-01"

structure WebhookTransition where
  from_ : String
  to_ : String
  actor : String
  reason : Option String := none

structure WebhookActivitySnapshot where
  id : Uuid
  familyId : Uuid
  title : String
  state : String
  assigneeId : Option Uuid
  scheduledStart : Option String
  scheduledEnd : Option String
  responseDeadlineAt : Option String
  deleted : Bool
  version : ℕ

structure WebhookData where
  activity : WebhookActivitySnapshot
  transition : WebhookTransition

structure WebhookPayload where
  id : Uuid
  type : String
  apiVersion : String
  occurredAt : String
  data : WebhookData

structure BuildWebhookPayloadInput where
  id : Uuid
  type : String
  activityId : Uuid
  bondId : Uuid
  aggregateVersion : ℕ
  createdAt : Instant
  payload : Record
  activity : Option ActivityEntity
  apiVersion : String

/-- `raw.deleted === true`. -/
def isTrue : Option Json → Bool
  | some (.bool value) => value
  | _ => false

/-- `payload-builder.ts::buildSnapshot`: the activity as it is at the time of the attempt. -/
def buildSnapshot (input : BuildWebhookPayloadInput) : WebhookActivitySnapshot :=
  let raw := input.payload
  let activity := input.activity
  { id := (activity.map (·.id)).getD input.activityId
    familyId := (activity.map (·.bondId)).getD input.bondId
    title := (activity.map (·.title)).getD ""
    -- The live row may be newer: state and version are those of the event.
    state := ((asString (raw.lookup "to")).or (activity.map (·.status.value))).getD ""
    assigneeId := activity.bind (·.assignedTo)
    scheduledStart := (activity.bind (·.scheduledStart)).map toISOString
    scheduledEnd := (activity.bind (·.scheduledEnd)).map toISOString
    responseDeadlineAt := (activity.bind (·.deadline)).map toISOString
    deleted := isTrue (raw.lookup "deleted") || (activity.bind (·.deletedAt)).isSome
    version := input.aggregateVersion }

def buildTransition (raw : Record) : WebhookTransition where
  from_ := (asString (raw.lookup "from")).getD ""
  to_ := (asString (raw.lookup "to")).getD ""
  actor := (asString (raw.lookup "actor")).getD ""
  reason := asString (raw.lookup "reason")

/-- The body as it is serialised; an absent reason is an absent key. -/
def WebhookPayload.toJson (payload : WebhookPayload) : Json :=
  let activity := payload.data.activity
  let transition := payload.data.transition
  .obj [("id", .str payload.id), ("type", .str payload.type), ("apiVersion", .str payload.apiVersion),
    ("occurredAt", .str payload.occurredAt),
    ("data", .obj [
      ("activity", .obj [("id", .str activity.id), ("familyId", .str activity.familyId),
        ("title", .str activity.title), ("state", .str activity.state),
        ("assigneeId", Json.ofOption activity.assigneeId),
        ("scheduledStart", Json.ofOption activity.scheduledStart),
        ("scheduledEnd", Json.ofOption activity.scheduledEnd),
        ("responseDeadlineAt", Json.ofOption activity.responseDeadlineAt),
        ("deleted", .bool activity.deleted), ("version", .num (.ofInt activity.version))]),
      ("transition", .obj ([("from", .str transition.from_), ("to", .str transition.to_),
        ("actor", .str transition.actor)] ++
        (transition.reason.map fun reason => ("reason", Json.str reason)).toList))])]

def assertPayloadWithinLimit (payload : WebhookPayload) : Except Exception Unit :=
  let size := (jsonStringify payload.toJson).utf8ByteSize
  if MAX_WEBHOOK_PAYLOAD_BYTES < size then
    .error (.error ("Webhook payload is " ++ Nat.repr size ++ " bytes, exceeding the " ++
      Nat.repr MAX_WEBHOOK_PAYLOAD_BYTES ++ "-byte (64 KB) limit"))
  else .ok ()

/-- `payload-builder.ts::buildWebhookPayload`: the event, its transition and the activity, within the
limit of size. -/
def buildWebhookPayload (input : BuildWebhookPayloadInput) : Except Exception WebhookPayload :=
  let raw := input.payload
  let payload : WebhookPayload :=
    { id := input.id
      type := input.type
      apiVersion := input.apiVersion
      occurredAt := (asString (raw.lookup "occurredAt")).getD (toISOString input.createdAt)
      data := { activity := buildSnapshot input, transition := buildTransition raw } }
  match assertPayloadWithinLimit payload with
  | .error error => .error error
  | .ok _ => .ok payload

/-- What the builder is given for an event and the row it has read. -/
def payloadInput (WEBHOOK_API_VERSION : Option String) (event : OutboxEventEntity)
    (activity : Option ActivityEntity) : BuildWebhookPayloadInput where
  id := event.id
  type := event.eventType
  activityId := event.aggregateId
  bondId := event.bondId
  aggregateVersion := event.aggregateVersion
  createdAt := event.createdAt
  payload := event.payload
  activity := activity
  apiVersion := WEBHOOK_API_VERSION.getD DEFAULT_WEBHOOK_API_VERSION

/-- A body that carries the transition an event records. -/
structure Carries (event : OutboxEventEntity) (payload : WebhookPayload) : Prop where
  from_ : event.payload.lookup "from" = some (.str payload.data.transition.from_)
  to_ : event.payload.lookup "to" = some (.str payload.data.transition.to_)
  reason : payload.data.transition.reason = asString (event.payload.lookup "reason")
  occurredAt : event.payload.lookup "occurredAt" = some (.str payload.occurredAt)
  actor : payload.data.transition.actor ≠ ""

variable {config : Config} {cfg : Interleaving.Config (activities config)} {id : Uuid}
  {input : BuildWebhookPayloadInput} {payload : WebhookPayload}

/-- The texts and the actor that the activities service records in an event. -/
structure Recorded (payload : Record) : Prop where
  from_ : ∃ text, payload.lookup "from" = some (.str text)
  to_ : ∃ text, payload.lookup "to" = some (.str text)
  occurredAt : ∃ text, payload.lookup "occurredAt" = some (.str text)
  actor : ∃ members, payload.lookup "actor" = some (.obj members)

theorem recorded_of_history {events : List InsertOutboxEventInput} {row : ActivityEntity}
    (history : History config events row) {event : InsertOutboxEventInput}
    (member : event ∈ events) : Recorded event.payload := by
  rcases history.of_mem member with ⟨opened, opens⟩ | ⟨earlier, later, moves⟩
  · obtain ⟨bondId, dto, userId, criticality, now, id⟩ := opens
    exact ⟨⟨_, rfl⟩, ⟨_, rfl⟩, ⟨_, rfl⟩, ⟨_, rfl⟩⟩
  · cases moves with
    | @transition req _ rule now actorRole made live admitted =>
      obtain ⟨source, target, actor, -, time⟩ :=
        transitionInput_payload config earlier rule made now actorRole
      refine ⟨⟨_, source⟩, ⟨_, target⟩, ⟨_, time⟩, ?_⟩
      cases kind : req.actor with
      | user userId => exact ⟨_, by rw [kind] at actor; exact actor⟩
      | system => exact ⟨_, by rw [kind] at actor; exact actor⟩

theorem buildWebhookPayload_ok (built : buildWebhookPayload input = .ok payload) :
    payload.occurredAt =
        (asString (input.payload.lookup "occurredAt")).getD (toISOString input.createdAt) ∧
      payload.data.transition = buildTransition input.payload := by
  unfold buildWebhookPayload at built
  simp only [] at built
  split at built
  · cases built
  · cases built
    exact ⟨rfl, rfl⟩

/-- What a body carries of an event of the activities service. -/
theorem built_of_recorded {event : OutboxEventEntity} {activity : Option ActivityEntity}
    {version : Option String} (recorded : Recorded event.payload)
    (built : buildWebhookPayload (payloadInput version event activity) = .ok payload) :
    event.payload.lookup "from" = some (.str payload.data.transition.from_) ∧
      event.payload.lookup "to" = some (.str payload.data.transition.to_) ∧
      payload.data.transition.reason = asString (event.payload.lookup "reason") ∧
      event.payload.lookup "occurredAt" = some (.str payload.occurredAt) ∧
      payload.data.transition.actor = "" := by
  obtain ⟨⟨source, from_⟩, ⟨target, to_⟩, ⟨time, occurredAt⟩, ⟨members, actor⟩⟩ := recorded
  obtain ⟨told, transition⟩ := buildWebhookPayload_ok built
  rw [transition, told]
  simp [payloadInput, buildTransition, from_, to_, occurredAt, actor, asString]

theorem recorded_of_reachable (reachable : Reachable (activities config) cfg)
    {event : InsertOutboxEventInput} (member : event ∈ eventsOf .activity id cfg.world.outbox) :
    Recorded event.payload := by
  have journaled := (consistent_of_reachable reachable).journaled id
  cases found : cfg.world.activities.get id with
  | none => rw [journaled.1 found] at member; cases member
  | some row => exact recorded_of_history (journaled.2 row found) member

/-- In every run, whatever event of an activity and whatever row the body is built
from: if a body is built at all then it carries the statuses, the reason and the
time as recorded, and an empty actor, whoever acted.  So no body carries the
recorded transition. -/
theorem payload_never_carries_actor (reachable : Reachable (activities config) cfg)
    {event : OutboxEventEntity}
    (member : event.toInsertOutboxEventInput ∈ eventsOf .activity id cfg.world.outbox)
    (activity : Option ActivityEntity) (version : Option String) :
    (∀ payload, buildWebhookPayload (payloadInput version event activity) = .ok payload →
      event.payload.lookup "from" = some (.str payload.data.transition.from_) ∧
      event.payload.lookup "to" = some (.str payload.data.transition.to_) ∧
      payload.data.transition.reason = asString (event.payload.lookup "reason") ∧
      event.payload.lookup "occurredAt" = some (.str payload.occurredAt) ∧
      payload.data.transition.actor = "") ∧
    ¬∃ payload, buildWebhookPayload (payloadInput version event activity) = .ok payload ∧
      Carries event payload := by
  have recorded := recorded_of_reachable reachable member
  refine ⟨fun payload built => built_of_recorded recorded built, ?_⟩
  rintro ⟨payload, built, carries⟩
  exact carries.actor (built_of_recorded recorded built).2.2.2.2

/-- The row of the outbox that the relay reads for an event. -/
def stored (event : InsertOutboxEventInput) : OutboxEventEntity := ⟨event, "e1", 0, none⟩

/-- The creation of an activity by `u1` is recorded, and its body is built. -/
theorem creation_built : ∃ cfg : Interleaving.Config (activities defaults),
    Reachable (activities defaults) cfg ∧ ∃ event ∈ eventsOf .activity "a1" cfg.world.outbox,
      ∃ payload, buildWebhookPayload
        (payloadInput none (stored event) (cfg.world.activities.get "a1")) = .ok payload := by
  obtain ⟨cfg, run, shown⟩ := exists_played (fun _ _ => True) creation
    (fun cfg => (eventsOf .activity "a1" cfg.world.outbox).any fun event =>
      (buildWebhookPayload (payloadInput none (stored event)
        (cfg.world.activities.get "a1"))).toOption.isSome) (by decide +kernel)
  obtain ⟨event, member, built⟩ := List.any_eq_true.mp shown
  refine ⟨cfg, run, event, member, ?_⟩
  cases made : buildWebhookPayload
      (payloadInput none (stored event) (cfg.world.activities.get "a1")) with
  | error error => simp [made, Except.toOption] at built
  | ok payload => exact ⟨payload, rfl⟩

theorem payload_never_carries_actor_created : ∃ (event : OutboxEventEntity) (payload : WebhookPayload)
    (activity : Option ActivityEntity),
    buildWebhookPayload (payloadInput none event activity) = .ok payload ∧
      payload.data.transition.actor = "" ∧ ¬Carries event payload := by
  obtain ⟨cfg, reachable, event, member, payload, built⟩ := creation_built
  obtain ⟨carried, none⟩ :=
    @payload_never_carries_actor _ _ _ reachable (stored event) member
      (cfg.world.activities.get "a1") none
  exact ⟨stored event, payload, _, built, (carried payload built).2.2.2.2,
    fun carries => none ⟨payload, built, carries⟩⟩

/-- The body of the creation by `u1` does not carry it: its actor is empty. -/
theorem payload_loses_actor :
    ¬∀ (cfg : Interleaving.Config (activities defaults)) (id : Uuid) (event : OutboxEventEntity)
      (activity : Option ActivityEntity) (version : Option String),
      Reachable (activities defaults) cfg →
      event.toInsertOutboxEventInput ∈ eventsOf .activity id cfg.world.outbox →
      ∃ payload, buildWebhookPayload (payloadInput version event activity) = .ok payload ∧
        Carries event payload := by
  intro carried
  obtain ⟨cfg, reachable, event, member, -⟩ := creation_built
  obtain ⟨payload, built, carries⟩ := carried cfg "a1" (stored event) none none reachable member
  exact carries.actor (built_of_recorded (recorded_of_reachable reachable member) built).2.2.2.2

end ParentalCoord.Webhooks

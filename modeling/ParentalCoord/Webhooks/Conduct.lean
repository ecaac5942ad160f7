import ParentalCoord.Interleaving.Protocol
import ParentalCoord.Webhooks.Service

/-!
Which calls the parts of the service make.

Only an attempt reads a delivery by its pair, makes a request for it and concludes it;
only a replay resets one; and only the worker reports on a job.  Everything else is
`aside` of that, and the relay and the reconciliation make even fewer calls.
-/

namespace ParentalCoord.Webhooks

open Interleaving Store

variable {query : Call}

/-- The calls of the relay and of the reconciliation, other than its listing. -/
def Call.relays : Call → Prop
  | .now | .findPending _ | .findActiveByBond _ | .dispatch _ _ | .getJob _ => True
  | .addJob job => job.finished = false
  | _ => False

/-- The calls that touch no delivery and report on no job. -/
def Call.aside : Call → Prop
  | .findByEventSub _ _ | .updateStatus _ _ | .post (some _) _ _ _ | .moveToCompleted _ _
  | .moveToFailed _ _ => False
  | .addJob job => job.finished = false
  | _ => True

/-- The job of a ping, or of the pair that it is named after. -/
def NamedByPair (job : DeliveryJob) : Prop :=
  job.data.test = true ∨ job.id = buildDeliveryJobId job.data.eventId job.data.subscriptionId

/-- A job as it is added. -/
def Built (job : DeliveryJob) : Prop := job.finished = false ∧ NamedByPair job

theorem built_delivery (eventId subscriptionId : Uuid) : Built (deliveryJob eventId subscriptionId) :=
  ⟨rfl, .inr rfl⟩

/-- The calls of what takes no job. -/
def Call.elsewhere : Call → Prop
  | .findByEventSub _ _ | .updateStatus _ _ | .post (some _) _ _ _ | .recordAttempt _ | .takeJob _
  | .updateData _ _ | .moveToCompleted _ _ | .moveToFailed _ _ => False
  | .addJob job => Built job
  | _ => True

theorem aside_of_elsewhere (elsewhere : query.elsewhere) : query.aside := by
  cases query with
  | addJob job => exact elsewhere.1
  | post delivery => cases delivery <;> trivial
  | _ => trivial

/-- The calls of the relay, with the job that it adds. -/
def Call.fansOut : Call → Prop
  | .addJob job => ∃ eventId subscriptionId, job = deliveryJob eventId subscriptionId
  | query => query.relays

theorem relays_of_fansOut (fansOut : query.fansOut) : query.relays := by
  cases query with
  | addJob job =>
    obtain ⟨eventId, subscriptionId, rfl⟩ := fansOut
    rfl
  | _ => exact fansOut

theorem elsewhere_of_fansOut (fansOut : query.fansOut) : query.elsewhere := by
  cases query with
  | addJob job =>
    obtain ⟨eventId, subscriptionId, rfl⟩ := fansOut
    exact built_delivery eventId subscriptionId
  | findByEventSub => exact fansOut
  | updateStatus => exact fansOut
  | recordAttempt => exact fansOut
  | takeJob => exact fansOut
  | updateData => exact fansOut
  | moveToCompleted => exact fansOut
  | moveToFailed => exact fansOut
  | post delivery => exact fansOut.elim
  | _ => trivial

theorem aside_of_calls {α : Type} {handler : Request α} (calls : handler.Calls Call.elsewhere) :
    handler.Calls Call.aside := calls.mono fun _ => aside_of_elsewhere

/-! ## The relay and the reconciliation -/

theorem enqueue_fansOut (eventId subscriptionId : Uuid) :
    (enqueue eventId subscriptionId).Calls Call.fansOut :=
  .tryCatch (Handler.calls_perform.mpr ⟨_, _, rfl⟩) fun _ => trivial

theorem enqueueAll_fansOut (eventId : Uuid) (subscriptionIds : List Uuid) :
    (enqueueAll eventId subscriptionIds).Calls Call.fansOut := by
  induction subscriptionIds with
  | nil => trivial
  | cons subscriptionId rest ih => exact .bind (enqueue_fansOut eventId subscriptionId) fun _ => ih

theorem dispatch_fansOut (event : OutboxEventEntity) : (dispatch event).Calls Call.fansOut := by
  have matching : (matchedSubscriptions event).Calls Call.fansOut := by
    unfold matchedSubscriptions
    split
    · exact .bind (Handler.calls_perform.mpr trivial) fun _ => trivial
    · trivial
  refine .bind matching fun matched => ?_
  refine .bind (Handler.calls_perform.mpr trivial) fun enqueued => ?_
  exact .bind (enqueueAll_fansOut event.id enqueued) fun _ => trivial

theorem dispatchAll_fansOut (events : List OutboxEventEntity) :
    (dispatchAll events).Calls Call.fansOut := by
  induction events with
  | nil => trivial
  | cons event rest ih =>
    refine .bind (.tryCatch (dispatch_fansOut event) fun _ => trivial) fun dispatched => ?_
    exact .bind ih fun _ => trivial

theorem relay_fansOut : relay.Calls Call.fansOut :=
  .bind (Handler.calls_perform.mpr trivial) dispatchAll_fansOut

theorem checkJob_fansOut (jobId : String) : (checkJob jobId).Calls Call.fansOut :=
  .tryCatch (.bind (Handler.calls_perform.mpr trivial) fun _ => trivial) fun _ => trivial

theorem reenqueue_fansOut (candidates : List WebhookDeliveryEntity) :
    (reenqueue candidates).Calls Call.fansOut := by
  induction candidates with
  | nil => trivial
  | cons delivery rest ih =>
    refine .bind (checkJob_fansOut delivery.jobId) fun checked => ?_
    rcases checked with - | - | existing
    · trivial
    · exact .bind (enqueue_fansOut _ _) fun _ => .bind ih fun _ => trivial
    · exact ih

theorem relay_relays : relay.Calls Call.relays := relay_fansOut.mono fun _ => relays_of_fansOut

theorem reenqueue_relays (candidates : List WebhookDeliveryEntity) :
    (reenqueue candidates).Calls Call.relays :=
  (reenqueue_fansOut candidates).mono fun _ => relays_of_fansOut

theorem relay_elsewhere : relay.Calls Call.elsewhere :=
  relay_fansOut.mono fun _ => elsewhere_of_fansOut

/-! ## The worker -/

section Worker

variable (config : Config) (subscription : WebhookSubscriptionEntity)

theorem asked_aside (query : Call) (aside : query.aside) : (perform query).Calls Call.aside :=
  Handler.calls_perform.mpr aside

theorem asked_elsewhere (query : Call) (elsewhere : query.elsewhere) :
    (perform query).Calls Call.elsewhere := Handler.calls_perform.mpr elsewhere

theorem updateEntity_elsewhere (id : Uuid)
    (assign : WebhookSubscriptionEntity → WebhookSubscriptionEntity) :
    (updateEntity id assign).Calls Call.elsewhere := by
  refine .bind (asked_elsewhere _ trivial) fun found => ?_
  cases found with
  | none => trivial
  | some entity => exact asked_elsewhere _ trivial

theorem updateEntity_aside (id : Uuid)
    (assign : WebhookSubscriptionEntity → WebhookSubscriptionEntity) :
    (updateEntity id assign).Calls Call.aside := aside_of_calls (updateEntity_elsewhere id assign)

theorem notifyDisabled_aside (reason : WebhookDisableReason) :
    (notifyDisabled config subscription reason).Calls Call.aside :=
  .tryCatch (asked_aside _ trivial) fun _ => trivial

theorem autoDisable_aside : (autoDisable config subscription).Calls Call.aside :=
  .bind (updateEntity_aside _ _) fun _ => .bind (notifyDisabled_aside config _ _) fun _ => trivial

theorem recordFailure_aside (now : Instant) :
    (recordFailure config subscription now).Calls Call.aside := by
  unfold recordFailure
  split
  · trivial
  · split
    · refine .bind (updateEntity_aside _ _) fun _ => ?_
      split
      · trivial
      · exact autoDisable_aside config subscription
    · dsimp only
      split
      · trivial
      · exact autoDisable_aside config subscription

theorem recordSuccess_aside : (recordSuccess subscription).Calls Call.aside := by
  unfold recordSuccess
  split
  · trivial
  · exact updateEntity_aside _ _

theorem buildBody_aside (event : OutboxEventEntity) :
    (buildBody config event).Calls Call.aside := by
  refine .tryCatch (.bind (asked_aside _ trivial) fun activity => ?_) fun _ => trivial
  split <;> trivial

theorem handleTest_aside (subscriptionId webhookId : Uuid) :
    (handleTest config subscriptionId webhookId).Calls Call.aside := by
  refine .bind (asked_aside _ trivial) fun found => ?_
  cases found with
  | none => trivial
  | some subscription =>
    dsimp only
    split
    · trivial
    · refine .bind (asked_aside _ trivial) fun now => ?_
      split
      · trivial
      · exact .bind (asked_aside _ trivial) fun _ => trivial

end Worker

/-! ## Replays, pings and retention -/

theorem assertCanManage_elsewhere (bondId : Uuid) (user : AuthUser) :
    (assertCanManage bondId user).Calls Call.elsewhere := by
  unfold assertCanManage
  split
  · trivial
  · refine .bind (asked_elsewhere _ trivial) fun isMember => ?_
    split <;> trivial

theorem replaceJob_elsewhere (eventId subscriptionId : Uuid) :
    (replaceJob eventId subscriptionId).Calls Call.elsewhere := by
  refine .bind (asked_elsewhere _ trivial) fun found => ?_
  cases found with
  | none => exact asked_elsewhere _ (built_delivery _ _)
  | some existing =>
    exact .bind (.tryCatch (asked_elsewhere _ trivial) fun _ => trivial) fun _ =>
      asked_elsewhere _ (built_delivery _ _)

theorem findInBond_elsewhere (bondId subscriptionId : Uuid) :
    (findInBond bondId subscriptionId).Calls Call.elsewhere := by
  refine .bind (asked_elsewhere _ trivial) fun found => ?_
  cases found with
  | none => trivial
  | some subscription =>
    dsimp only
    split <;> trivial

theorem test_elsewhere (bondId id : Uuid) (user : AuthUser) :
    (test bondId id user).Calls Call.elsewhere := by
  refine .bind (assertCanManage_elsewhere bondId user) fun _ => ?_
  refine .bind (findInBond_elsewhere bondId id) fun _ => ?_
  exact .bind (asked_elsewhere _ trivial) fun now => asked_elsewhere _ ⟨rfl, .inl rfl⟩

theorem computed_elsewhere {α : Type} (value : Except Exception α) :
    (computed value).Calls Call.elsewhere := by
  cases value <;> trivial

theorem create_elsewhere (config : Config) (bondId : Uuid) (dto : CreateWebhookSubscriptionDto)
    (user : AuthUser) (drawn : Drawn) : (create config bondId dto user drawn).Calls Call.elsewhere := by
  refine .bind (assertCanManage_elsewhere bondId user) fun _ => ?_
  refine .bind (computed_elsewhere _) fun _ => .bind (computed_elsewhere _) fun eventTypes => ?_
  refine .bind (asked_elsewhere _ trivial) fun count => ?_
  dsimp only
  split
  · trivial
  · refine .bind (computed_elsewhere _) fun secretEncrypted => ?_
    refine .bind (asked_elsewhere _ trivial) fun entity => ?_
    exact .bind (asked_elsewhere _ trivial) fun _ => trivial

theorem updatedEntity_elsewhere (id : Uuid)
    (assign : WebhookSubscriptionEntity → WebhookSubscriptionEntity) :
    (updatedEntity id assign).Calls Call.elsewhere := by
  refine .bind (asked_elsewhere _ trivial) fun found => ?_
  cases found with
  | none => trivial
  | some entity => exact .bind (asked_elsewhere _ trivial) fun _ => trivial

theorem update_elsewhere (config : Config) (bondId id : Uuid) (dto : UpdateWebhookSubscriptionDto)
    (user : AuthUser) : (update config bondId id dto user).Calls Call.elsewhere := by
  refine .bind (assertCanManage_elsewhere bondId user) fun _ => ?_
  refine .bind (findInBond_elsewhere bondId id) fun entity => .bind (computed_elsewhere _) fun patch => ?_
  refine .bind (updatedEntity_elsewhere id _) fun updated => ?_
  exact .bind (asked_elsewhere _ trivial) fun _ => trivial

theorem remove_elsewhere (bondId id : Uuid) (user : AuthUser) :
    (remove bondId id user).Calls Call.elsewhere := by
  refine .bind (assertCanManage_elsewhere bondId user) fun _ => ?_
  refine .bind (findInBond_elsewhere bondId id) fun entity => ?_
  refine .bind (asked_elsewhere _ trivial) fun found => ?_
  cases found with
  | none => trivial
  | some _ =>
    exact .bind (asked_elsewhere _ trivial) fun _ => .bind (asked_elsewhere _ trivial) fun _ => trivial

theorem rotateSecret_elsewhere (config : Config) (bondId id : Uuid) (user : AuthUser) (drawn : Drawn) :
    (rotateSecret config bondId id user drawn).Calls Call.elsewhere := by
  refine .bind (assertCanManage_elsewhere bondId user) fun _ => ?_
  refine .bind (findInBond_elsewhere bondId id) fun entity => ?_
  refine .bind (asked_elsewhere _ trivial) fun now => .bind (computed_elsewhere _) fun secretEncrypted => ?_
  refine .bind (updateEntity_elsewhere _ _) fun _ => ?_
  exact .bind (asked_elsewhere _ trivial) fun _ => trivial

theorem retention_elsewhere (config : Config) : (retention config).Calls Call.elsewhere := by
  refine .bind (asked_elsewhere _ trivial) fun now => ?_
  refine .bind (asked_elsewhere _ trivial) fun purgedAttempts => ?_
  exact .bind (asked_elsewhere _ trivial) fun purgedOutbox => trivial

theorem reconcile_elsewhere : reconcile.Calls Call.elsewhere := by
  refine .bind (asked_elsewhere _ trivial) fun now => ?_
  refine .bind relay_elsewhere fun dispatchedOutbox => ?_
  refine .bind (asked_elsewhere _ trivial) fun candidates => ?_
  exact .bind ((reenqueue_fansOut candidates).mono fun _ => elsewhere_of_fansOut) fun _ => trivial

/-- The calls of a replay: it resets deliveries, and touches none besides. -/
def Call.replays (query : Call) : Prop := query.aside ∨ ∃ id, query = .updateStatus id resetPatch

/-- The calls of a replay, which takes no job. -/
def Call.resets (query : Call) : Prop := query.elsewhere ∨ ∃ id, query = .updateStatus id resetPatch

theorem resets_of_calls {α : Type} {handler : Request α} (calls : handler.Calls Call.elsewhere) :
    handler.Calls Call.resets := calls.mono fun _ => .inl

theorem replays_of_calls {α : Type} {handler : Request α} (calls : handler.Calls Call.resets) :
    handler.Calls Call.replays := calls.mono fun _ => Or.imp_left aside_of_elsewhere

theorem resetAndEnqueue_resets (delivery : WebhookDeliveryEntity) :
    (resetAndEnqueue delivery).Calls Call.resets :=
  .bind (Handler.calls_perform.mpr (.inr ⟨_, rfl⟩)) fun _ => resets_of_calls (replaceJob_elsewhere _ _)

theorem resetAll_resets (deliveries : List WebhookDeliveryEntity) :
    (resetAll deliveries).Calls Call.resets := by
  induction deliveries with
  | nil => trivial
  | cons delivery rest ih => exact .bind (resetAndEnqueue_resets delivery) fun _ => ih

theorem replayDelivery_resets (deliveryId : Uuid) (user : AuthUser) :
    (replayDelivery deliveryId user).Calls Call.resets := by
  have asked (query : Call) (elsewhere : query.elsewhere) : (perform query).Calls Call.resets :=
    resets_of_calls (asked_elsewhere query elsewhere)
  refine .bind (asked _ trivial) fun found => ?_
  cases found with
  | none => trivial
  | some delivery =>
    refine .bind (asked _ trivial) fun found => ?_
    cases found with
    | none => trivial
    | some subscription =>
      refine .bind (resets_of_calls (assertCanManage_elsewhere _ user)) fun _ => ?_
      exact .bind (resetAndEnqueue_resets delivery) fun _ => asked _ trivial

theorem replayDead_resets (bondId subscriptionId : Uuid) (user : AuthUser) :
    (replayDead bondId subscriptionId user).Calls Call.resets := by
  have asked (query : Call) (elsewhere : query.elsewhere) : (perform query).Calls Call.resets :=
    resets_of_calls (asked_elsewhere query elsewhere)
  refine .bind (resets_of_calls (assertCanManage_elsewhere bondId user)) fun _ => ?_
  refine .bind (resets_of_calls (findInBond_elsewhere bondId subscriptionId)) fun _ => ?_
  refine .bind (asked _ trivial) fun dead => .bind (resetAll_resets dead) fun _ => ?_
  split
  · trivial
  · exact .bind (asked _ trivial) fun _ => trivial

theorem replayDelivery_replays (deliveryId : Uuid) (user : AuthUser) :
    (replayDelivery deliveryId user).Calls Call.replays :=
  replays_of_calls (replayDelivery_resets deliveryId user)

theorem replayDead_replays (bondId subscriptionId : Uuid) (user : AuthUser) :
    (replayDead bondId subscriptionId user).Calls Call.replays :=
  replays_of_calls (replayDead_resets bondId subscriptionId user)

/-! ## The protocol of an attempt -/

/-- How far a request is with a delivery. -/
inductive Phase where
  /-- It has nothing to do with one. -/
  | apart
  | replaying
  /-- It is to attempt one, and has not read it. -/
  | idle
  /-- It has read the delivery, and not yet written its status. -/
  | attempting (id : Uuid)
  | concluded

/-- A retry is written with its date. -/
def DeliveryStatusPatch.dated (patch : DeliveryStatusPatch) : Prop :=
  patch.status = .RETRYING → ∃ nextAttemptAt, patch.nextAttemptAt = some (some nextAttemptAt)

def permits (phase : Phase) : Call → Prop
  | .findByEventSub _ _ => phase = .idle
  | .updateStatus id patch =>
      phase = .replaying ∧ patch = resetPatch ∨ phase = .attempting id ∧ patch.dated
  | .post (some id) _ _ _ => phase = .attempting id
  | .addJob job => job.finished = false
  | _ => True

/-- The status of an attempt is behind it. -/
def Phase.conclude : Phase → Phase
  | .attempting _ => .concluded
  | phase => phase

def nextPhase (phase : Phase) :
    (query : Call) → Except Exception (interface.Answer query) → Phase
  | .findByEventSub _ _, .ok (some row) =>
      match phase with
      | .idle => .attempting row.id
      | phase => phase
  | .updateStatus _ _, _ => phase.conclude
  | .moveToCompleted _ _, _ => phase.conclude
  | .moveToFailed _ _, _ => phase.conclude
  | _, _ => phase

@[reducible] def conduct : Protocol interface Exception := ⟨Phase, permits, nextPhase⟩

/-- The phase that a request begins in. -/
def Entry.phase : Entry → Phase
  | .work _ _ => .idle
  | .replayDelivery _ _ => .replaying
  | .replayDead _ _ _ => .replaying
  | _ => .apart

abbrev Conducts {α : Type} (phase : Phase) (handler : Request α) : Prop :=
  conduct.Follows (fun _ _ => True) phase handler

section Conduct

variable {α β : Type} {phase : Phase} {id : Uuid} {patch : DeliveryStatusPatch} (config : Config)

theorem aside_stays (aside : query.aside) :
    permits phase query ∧ ∀ answer, nextPhase phase query answer = phase := by
  cases query with
  | findByEventSub => cases aside
  | updateStatus => cases aside
  | post delivery =>
    cases delivery with
    | none => exact ⟨trivial, fun _ => rfl⟩
    | some id => cases aside
  | addJob => exact ⟨aside, fun _ => rfl⟩
  | moveToCompleted => cases aside
  | moveToFailed => cases aside
  | _ => exact ⟨trivial, fun _ => rfl⟩

theorem conducts_aside {handler : Request α} (calls : handler.Calls Call.aside) :
    Conducts phase handler :=
  .of_calls calls (fun _ aside => aside_stays aside) fun _ => trivial

/-- What is aside of the delivery may come before anything. -/
theorem conducts_after {first : Request β} {rest : β → Request α} (calls : first.Calls Call.aside)
    (more : ∀ value, Conducts phase (rest value)) : Conducts phase (first.bind rest) := by
  refine .bind (.of_calls calls (fun _ aside => aside_stays aside) fun result => ?_)
  cases result with
  | ok value => exact more value
  | error error => trivial

/-- The status is written once, and only what is aside comes after it. -/
theorem concludes {rest : Unit → Request α} (dated : patch.dated)
    (more : (rest ()).Calls Call.aside) :
    Conducts (.attempting id) ((updateStatus id patch).bind rest) :=
  .perform_bind (.inr ⟨rfl, dated⟩) (fun _ => conducts_aside more) fun _ => trivial

theorem fail_conducts (attemptNo : ℕ) (error : String) :
    Conducts (.attempting id) (fail id attemptNo error) :=
  conducts_after (asked_aside _ trivial) fun completedAt =>
    ⟨.inr ⟨rfl, nofun⟩, fun answer => by cases answer <;> trivial⟩

theorem applyOutcome_conducts (job : DeliveryJob) (subscription : WebhookSubscriptionEntity)
    (outcome : DeliveryOutcome) (result : SsrfHttpResult) (attemptNo : ℕ) :
    Conducts (.attempting id)
      (applyOutcome config job id subscription outcome result attemptNo) := by
  refine conducts_after (asked_aside _ trivial) fun now => ?_
  have failed : (recordFailure config subscription now).Calls Call.aside :=
    recordFailure_aside config subscription now
  cases outcome with
  | SUCCESS => exact concludes nofun (recordSuccess_aside subscription)
  | DISABLE =>
    exact concludes nofun (.bind (updateEntity_aside _ _) fun _ => notifyDisabled_aside config _ _)
  | TERMINAL => exact concludes nofun (.bind failed fun _ => trivial)
  | RETRY =>
    dsimp only
    split
    · exact concludes nofun (.bind failed fun _ => trivial)
    · refine concludes (fun _ => ⟨_, rfl⟩) (.bind failed fun _ => ?_)
      exact .bind (asked_aside _ trivial) fun _ => trivial

theorem deliver_conducts (job : DeliveryJob) (attemptNo : ℕ)
    (subscription : WebhookSubscriptionEntity) (rawBody : String)
    (headers : List (String × String)) :
    Conducts (.attempting id) (deliver config job id attemptNo subscription rawBody headers) := by
  refine conducts_after (asked_aside _ trivial) fun startedAt => ?_
  refine .perform_bind rfl (fun result => ?_) fun _ => trivial
  refine conducts_after (asked_aside _ trivial) fun endedAt => ?_
  refine conducts_after (asked_aside _ trivial) fun _ => ?_
  refine conducts_after (asked_aside _ trivial) fun _ => ?_
  exact applyOutcome_conducts config job subscription _ result attemptNo

theorem attempt_conducts (job : DeliveryJob) (delivery : WebhookDeliveryEntity) :
    Conducts (.attempting delivery.id) (attempt config job delivery) := by
  refine conducts_after (asked_aside _ trivial) fun found => ?_
  cases found with
  | none => exact fail_conducts _ _
  | some subscription =>
    dsimp only
    split
    · exact fail_conducts _ _
    · refine conducts_after (asked_aside _ trivial) fun found => ?_
      cases found with
      | none => exact fail_conducts _ _
      | some event =>
        refine conducts_after (buildBody_aside config event) fun built => ?_
        cases built with
        | error message => exact fail_conducts _ _
        | ok rawBody =>
          refine conducts_after (asked_aside _ trivial) fun now => ?_
          split
          · exact fail_conducts _ _
          · exact deliver_conducts config job _ subscription rawBody _

theorem handle_conducts (job : DeliveryJob) (webhookId : Uuid) :
    Conducts .idle (handle config job webhookId) := by
  unfold handle
  split
  · exact conducts_aside (handleTest_aside config _ webhookId)
  · refine .perform_bind rfl (fun found => ?_) fun _ => trivial
    cases found with
    | none => trivial
    | some delivery => exact attempt_conducts config job delivery

/-- A report is due in any phase. -/
theorem work_conducts (jobId : String) (webhookId : Uuid) :
    Conducts .idle (work config jobId webhookId) := by
  refine conducts_after (asked_aside _ trivial) fun taken => ?_
  rcases taken with - | ⟨job, token⟩
  · trivial
  · have reported : ∀ phase query, permits phase query →
        Conducts phase (perform query : Request (interface.Answer query)) :=
      fun phase query permitted => ⟨permitted, fun answer => by cases answer <;> trivial⟩
    refine .tryCatch (.bind ((handle_conducts config job webhookId).mono fun result phase _ => ?_))
    cases result with
    | ok value =>
      refine (reported phase (.moveToCompleted jobId token) trivial).mono fun result phase _ => ?_
      cases result with
      | ok value => trivial
      | error error => exact reported phase (.moveToFailed jobId token) trivial
    | error error => exact reported phase (.moveToFailed jobId token) trivial

theorem resetAndEnqueue_conducts (delivery : WebhookDeliveryEntity) {rest : Unit → Request α}
    (more : Conducts .replaying (rest ())) :
    Conducts .replaying ((resetAndEnqueue delivery).bind rest) := by
  refine .bind (.perform_bind (.inl ⟨rfl, rfl⟩) (fun _ => ?_) fun _ => trivial)
  refine .of_calls (aside_of_calls (replaceJob_elsewhere _ _)) (fun _ aside => aside_stays aside) fun result => ?_
  cases result with
  | ok value => exact more
  | error error => trivial

theorem resetAll_conducts (deliveries : List WebhookDeliveryEntity) {rest : Unit → Request α}
    (more : Conducts .replaying (rest ())) :
    Conducts .replaying ((resetAll deliveries).bind rest) := by
  induction deliveries with
  | nil => exact more
  | cons delivery others ih =>
    simp only [resetAll, Handler.bind_eq, Handler.bind_assoc]
    exact resetAndEnqueue_conducts delivery ih

theorem replayDelivery_conducts (deliveryId : Uuid) (user : AuthUser) :
    Conducts .replaying (replayDelivery deliveryId user) := by
  refine conducts_after (asked_aside _ trivial) fun found => ?_
  cases found with
  | none => trivial
  | some delivery =>
    refine conducts_after (asked_aside _ trivial) fun found => ?_
    cases found with
    | none => trivial
    | some subscription =>
      refine conducts_after (aside_of_calls (assertCanManage_elsewhere _ user)) fun _ => ?_
      exact resetAndEnqueue_conducts delivery (conducts_aside (asked_aside _ trivial))

theorem replayDead_conducts (bondId subscriptionId : Uuid) (user : AuthUser) :
    Conducts .replaying (replayDead bondId subscriptionId user) := by
  refine conducts_after (aside_of_calls (assertCanManage_elsewhere bondId user)) fun _ => ?_
  refine conducts_after (aside_of_calls (findInBond_elsewhere bondId subscriptionId)) fun _ => ?_
  refine conducts_after (asked_aside _ trivial) fun dead => ?_
  refine resetAll_conducts dead ?_
  split
  · trivial
  · exact conducts_after (asked_aside _ trivial) fun _ => trivial

/-- A request that is answered once it has gone through. -/
theorem conducts_answered {first : Request α} {answer : α → β} (conducts : Conducts phase first) :
    Conducts phase (first.bind fun value => .ret (answer value)) := by
  refine .bind (conducts.mono fun result phase _ => ?_)
  cases result <;> trivial

theorem periodic_aside {first : Request α} (calls : first.Calls Call.aside) :
    (periodic first).Calls Call.aside := .tryCatch (.bind calls fun _ => trivial) fun _ => trivial

/-- Every request follows the protocol, from the phase that it begins in. -/
theorem handler_conducts (entry : Entry) : Conducts entry.phase (handler config entry) := by
  cases entry with
  | work jobId webhookId => exact conducts_answered (work_conducts config jobId webhookId)
  | poll => exact conducts_aside (periodic_aside (aside_of_calls relay_elsewhere))
  | reconcile => exact conducts_aside (periodic_aside (aside_of_calls reconcile_elsewhere))
  | retention => exact conducts_aside (periodic_aside (aside_of_calls (retention_elsewhere config)))
  | replayDelivery deliveryId user =>
    exact conducts_answered (replayDelivery_conducts deliveryId user)
  | replayDead bondId subscriptionId user =>
    exact conducts_answered (replayDead_conducts bondId subscriptionId user)
  | test bondId id user => exact conducts_aside (.bind (aside_of_calls (test_elsewhere bondId id user)) fun _ => trivial)
  | create bondId dto user drawn => exact conducts_aside (aside_of_calls (create_elsewhere config bondId dto user drawn))
  | update bondId id dto user => exact conducts_aside (aside_of_calls (update_elsewhere config bondId id dto user))
  | remove bondId id user => exact conducts_aside (aside_of_calls (remove_elsewhere bondId id user))
  | rotateSecret bondId id user drawn =>
    exact conducts_aside (aside_of_calls (rotateSecret_elsewhere config bondId id user drawn))

end Conduct

end ParentalCoord.Webhooks

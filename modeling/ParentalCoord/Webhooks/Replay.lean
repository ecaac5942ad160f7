import ParentalCoord.Interleaving.Chronicle
import ParentalCoord.Webhooks.Finality

/-!
Whether a replay can be lost.

A replay resets the row of a delivery, and cannot remove a job that a worker has taken.
An execution that has its request behind it when the row is reset writes its own status
over the reset.  In the runs where none has (`Unmasked`), a delivery that has been reset
is requested again before it is finished.
-/

namespace ParentalCoord.Webhooks

open Interleaving Store

/-! ## What an execution has still to do -/

/-- How far a request is with a delivery, and what it has read for it. -/
inductive Errand where
  | apart
  | replaying
  | idle
  | reading (id : Uuid)
  | subscribed (id : Uuid) (subscription : WebhookSubscriptionEntity)
  | evented (id : Uuid) (subscription : WebhookSubscriptionEntity) (event : OutboxEventEntity)
  | built (id : Uuid) (subscription : WebhookSubscriptionEntity) (event : OutboxEventEntity)
      (rawBody : String)
  | signed (id : Uuid)
  /-- There is nothing to make a request with: the subscription or the event is gone, or
  the body cannot be built or signed. -/
  | barred (id : Uuid)
  | posted (id : Uuid)
  | concluded

namespace Errand

variable (config : Config)

/-- The status of an execution is behind it. -/
def conclude : Errand → Errand
  | .apart => .apart
  | .replaying => .replaying
  | .idle => .idle
  | _ => .concluded

/-- The subscription has been looked for. -/
def ofSubscription (id : Uuid) : Option WebhookSubscriptionEntity → Errand
  | some subscription =>
      if subscription.status = .ACTIVE then .subscribed id subscription else .barred id
  | none => .barred id

def ofEvent (id : Uuid) (subscription : WebhookSubscriptionEntity) : Option OutboxEventEntity → Errand
  | some event => .evented id subscription event
  | none => .barred id

/-- The activity of the event has been read for the body. -/
def ofActivity (id : Uuid) (subscription : WebhookSubscriptionEntity) (event : OutboxEventEntity) :
    Except Exception (Option Activities.ActivityEntity) → Errand
  | .ok activity =>
      match buildWebhookPayload (payloadInput config.WEBHOOK_API_VERSION event activity) with
      | .ok payload => .built id subscription event (jsonStringify payload.toJson)
      | .error _ => .barred id
  | .error _ => .barred id

/-- The clock has been read for the signature. -/
def ofClock (id : Uuid) (subscription : WebhookSubscriptionEntity) (event : OutboxEventEntity)
    (rawBody : String) (now : Instant) : Errand :=
  match signedHeaders config subscription event.id now rawBody with
  | .ok _ => .signed id
  | .error _ => .barred id

def next (errand : Errand) : (query : Call) → Except Exception (interface.Answer query) → Errand
  | .findByEventSub _ _, .ok (some row) =>
      match errand with
      | .idle => .reading row.id
      | errand => errand
  | .findSubscription _, .ok found =>
      match errand with
      | .reading id => ofSubscription id found
      | errand => errand
  | .findOutboxEvent _, .ok found =>
      match errand with
      | .subscribed id subscription => ofEvent id subscription found
      | errand => errand
  | .findByIdIncludingDeleted _, answer =>
      match errand with
      | .evented id subscription event => ofActivity config id subscription event answer
      | errand => errand
  | .now, .ok now =>
      match errand with
      | .built id subscription event rawBody => ofClock config id subscription event rawBody now
      | errand => errand
  | .post (some _) _ _ _, _ =>
      match errand with
      | .signed id => .posted id
      | errand => errand
  | .updateStatus _ _, _ => errand.conclude
  | .moveToCompleted _ _, _ => errand.conclude
  | .moveToFailed _ _, _ => errand.conclude
  | _, _ => errand

def permits (errand : Errand) : Call → Prop
  | .findByEventSub _ _ => errand = .idle
  | .updateStatus id patch =>
      errand = .replaying ∧ patch = resetPatch ∨ errand = .barred id ∨ errand = .posted id
  | .post (some id) _ _ _ => errand = .signed id
  | _ => True

/-- Nothing that is aside of the delivery leads on from here. -/
def rests : Errand → Bool
  | .reading _ => false
  | .subscribed _ _ => false
  | .evented _ _ _ => false
  | .built _ _ _ _ => false
  | _ => true

end Errand

@[reducible] def errands (config : Config) : Protocol interface Exception where
  Phase := Errand
  permits := Errand.permits
  next := Errand.next config

def Entry.errand : Entry → Errand
  | .work _ _ => .idle
  | .replayDelivery _ _ => .replaying
  | .replayDead _ _ _ => .replaying
  | _ => .apart

abbrev Errs (config : Config) {α : Type} (errand : Errand) (handler : Request α) : Prop :=
  (errands config).Follows (fun _ _ => True) errand handler

section Errs

variable {α β : Type} {errand : Errand} {id : Uuid} {patch : DeliveryStatusPatch} {config : Config}
  {query : Call}

theorem aside_rests (aside : query.aside) (rests : errand.rests = true) :
    errand.permits query ∧ ∀ answer, errand.next config query answer = errand := by
  cases query with
  | findByEventSub => cases aside
  | updateStatus => cases aside
  | post delivery =>
    cases delivery with
    | none => exact ⟨trivial, fun _ => rfl⟩
    | some id => cases aside
  | moveToCompleted => cases aside
  | moveToFailed => cases aside
  | findSubscription | findOutboxEvent | findByIdIncludingDeleted | now =>
    refine ⟨trivial, fun answer => ?_⟩
    cases errand <;> first | (cases rests; done) | (cases answer <;> rfl)
  | _ => exact ⟨trivial, fun _ => rfl⟩

theorem errs_aside {handler : Request α} (calls : handler.Calls Call.aside)
    (rests : errand.rests = true) : Errs config errand handler :=
  .of_calls calls (fun _ aside => aside_rests aside rests) fun _ => trivial

theorem errs_after {first : Request β} {rest : β → Request α} (calls : first.Calls Call.aside)
    (rests : errand.rests = true) (more : ∀ value, Errs config errand (rest value)) :
    Errs config errand (first.bind rest) := by
  refine .bind (.of_calls calls (fun _ aside => aside_rests aside rests) fun result => ?_)
  cases result with
  | ok value => exact more value
  | error error => trivial

/-- The status is written, and only what is aside comes after it. -/
theorem errs_concluding {rest : Unit → Request α} (posted : errand = .barred id ∨ errand = .posted id)
    (more : (rest ()).Calls Call.aside) : Errs config errand ((updateStatus id patch).bind rest) := by
  refine .perform_bind (.inr posted) (fun _ => ?_) fun _ => trivial
  apply errs_aside more
  rcases posted with rfl | rfl <;> rfl

theorem fail_errs (attemptNo : ℕ) (error : String) :
    Errs config (.barred id) (fail id attemptNo error) :=
  errs_after (asked_aside _ trivial) rfl fun completedAt =>
    ⟨.inr (.inl rfl), fun answer => by cases answer <;> trivial⟩

theorem applyOutcome_errs (job : DeliveryJob) (subscription : WebhookSubscriptionEntity)
    (outcome : DeliveryOutcome) (result : SsrfHttpResult) (attemptNo : ℕ) :
    Errs config (.posted id) (applyOutcome config job id subscription outcome result attemptNo) := by
  refine errs_after (asked_aside _ trivial) rfl fun now => ?_
  have failed : (recordFailure config subscription now).Calls Call.aside :=
    recordFailure_aside config subscription now
  cases outcome with
  | SUCCESS => exact errs_concluding (.inr rfl) (recordSuccess_aside subscription)
  | DISABLE =>
    apply errs_concluding (.inr rfl)
    exact .bind (updateEntity_aside _ _) fun _ => notifyDisabled_aside config _ _
  | TERMINAL => exact errs_concluding (.inr rfl) (.bind failed fun _ => trivial)
  | RETRY =>
    dsimp only
    split
    · exact errs_concluding (.inr rfl) (.bind failed fun _ => trivial)
    · apply errs_concluding (.inr rfl)
      exact .bind failed fun _ => .bind (asked_aside _ trivial) fun _ => trivial

theorem deliver_errs (job : DeliveryJob) (attemptNo : ℕ) (subscription : WebhookSubscriptionEntity)
    (rawBody : String) (headers : List (String × String)) :
    Errs config (.signed id) (deliver config job id attemptNo subscription rawBody headers) := by
  refine errs_after (asked_aside _ trivial) rfl fun startedAt => ?_
  refine .perform_bind rfl (fun result => ?_) fun _ => trivial
  refine errs_after (asked_aside _ trivial) rfl fun endedAt => ?_
  refine errs_after (asked_aside _ trivial) rfl fun _ => ?_
  refine errs_after (asked_aside _ trivial) rfl fun _ => ?_
  exact applyOutcome_errs job subscription _ result attemptNo

/-- The body is built and then signed, or the execution is barred. -/
theorem buildBody_errs {subscription : WebhookSubscriptionEntity} {event : OutboxEventEntity}
    {rest : Except String String → Request α}
    (fails : ∀ message, Errs config (.barred id) (rest (.error message)))
    (more : ∀ rawBody, Errs config (.built id subscription event rawBody) (rest (.ok rawBody))) :
    Errs config (.evented id subscription event) ((buildBody config event).bind rest) := by
  refine ⟨trivial, fun answer => ?_⟩
  cases answer with
  | error error => exact fails _
  | ok activity =>
    cases built : buildWebhookPayload (payloadInput config.WEBHOOK_API_VERSION event activity) with
    | error error =>
      simpa [Errand.next, Errand.ofActivity, built, Handler.tryCatch, Handler.bind] using fails _
    | ok payload =>
      simpa [Errand.next, Errand.ofActivity, built, Handler.tryCatch, Handler.bind] using more _

theorem attempt_errs (job : DeliveryJob) (delivery : WebhookDeliveryEntity) :
    Errs config (.reading delivery.id) (attempt config job delivery) := by
  refine .perform_bind trivial (fun found => ?_) fun _ => trivial
  cases found with
  | none => exact fail_errs _ _
  | some subscription =>
    by_cases active : subscription.status = .ACTIVE
    · simp only [Errand.next, Errand.ofSubscription, active, ne_eq, not_true_eq_false, if_true, if_false]
      refine .perform_bind trivial (fun found => ?_) fun _ => trivial
      cases found with
      | none => exact fail_errs _ _
      | some event =>
        refine buildBody_errs (fun message => fail_errs _ _) fun rawBody => ?_
        refine .perform_bind trivial (fun now => ?_) fun _ => trivial
        cases signed : signedHeaders config subscription event.id now rawBody with
        | error error =>
          simp only [Errand.next, Errand.ofClock, signed]
          exact fail_errs _ _
        | ok headers =>
          simp only [Errand.next, Errand.ofClock, signed]
          exact deliver_errs job _ subscription rawBody headers
    · simp only [Errand.next, Errand.ofSubscription, active, ne_eq, not_false_eq_true, if_true, if_false]
      exact fail_errs _ _

theorem handle_errs (job : DeliveryJob) (webhookId : Uuid) :
    Errs config .idle (handle config job webhookId) := by
  unfold handle
  split
  · exact errs_aside (handleTest_aside config _ webhookId) rfl
  · refine .perform_bind rfl (fun found => ?_) fun _ => trivial
    cases found with
    | none => trivial
    | some delivery => exact attempt_errs job delivery

/-- A report is due in any phase. -/
theorem reported_errs (errand : Errand) (query : Call) (permitted : errand.permits query) :
    Errs config errand (perform query) :=
  ⟨permitted, fun answer => by cases answer <;> trivial⟩

theorem work_errs (jobId : String) (webhookId : Uuid) :
    Errs config .idle (work config jobId webhookId) := by
  refine errs_after (asked_aside _ trivial) rfl fun taken => ?_
  rcases taken with - | ⟨job, token⟩
  · trivial
  · refine .tryCatch (.bind ((handle_errs job webhookId).mono fun result errand _ => ?_))
    cases result with
    | ok value =>
      refine (reported_errs errand (.moveToCompleted jobId token) trivial).mono
        fun result errand _ => ?_
      cases result with
      | ok value => trivial
      | error error => exact reported_errs errand (.moveToFailed jobId token) trivial
    | error error => exact reported_errs errand (.moveToFailed jobId token) trivial

theorem errs_replays {handler : Request α} (calls : handler.Calls Call.replays) :
    Errs config .replaying handler := by
  refine .of_calls calls (fun query replays => ?_) fun _ => trivial
  rcases replays with aside | ⟨id, rfl⟩
  · exact @aside_rests _ config _ aside rfl
  · exact ⟨.inl ⟨rfl, rfl⟩, fun _ => rfl⟩

theorem errs_answered {first : Request α} {answer : α → β} (errs : Errs config errand first) :
    Errs config errand (first.bind fun value => .ret (answer value)) := by
  refine .bind (errs.mono fun result errand _ => ?_)
  cases result <;> trivial

/-- Every request follows the protocol. -/
theorem handler_errs (entry : Entry) : Errs config entry.errand (handler config entry) := by
  cases entry with
  | work jobId webhookId => exact errs_answered (work_errs jobId webhookId)
  | poll => exact errs_aside (periodic_aside (aside_of_calls relay_elsewhere)) rfl
  | reconcile => exact errs_aside (periodic_aside (aside_of_calls reconcile_elsewhere)) rfl
  | retention => exact errs_aside (periodic_aside (aside_of_calls (retention_elsewhere config))) rfl
  | replayDelivery deliveryId user =>
    exact errs_answered (errs_replays (replayDelivery_replays deliveryId user))
  | replayDead bondId subscriptionId user =>
    exact errs_answered (errs_replays (replayDead_replays bondId subscriptionId user))
  | test bondId id user =>
    exact errs_aside (aside_of_calls (.bind (test_elsewhere bondId id user) fun _ => trivial)) rfl
  | create bondId dto user drawn =>
    exact errs_aside (aside_of_calls (create_elsewhere config bondId dto user drawn)) rfl
  | update bondId id dto user =>
    exact errs_aside (aside_of_calls (update_elsewhere config bondId id dto user)) rfl
  | remove bondId id user => exact errs_aside (aside_of_calls (remove_elsewhere bondId id user)) rfl
  | rotateSecret bondId id user drawn =>
    exact errs_aside (aside_of_calls (rotateSecret_elsewhere config bondId id user drawn)) rfl

end Errs

/-! ## A replay among other requests -/

variable {config : Config} {cfg cfg' : Interleaving.Config (webhooks config)}
  {move : Move (webhooks config)} {moments newer older : List (Moment (webhooks config))}
  {thread : Thread (webhooks config)} {event : Event (webhooks config)} {rest : Request Reply}
  {id : Uuid}

/-- What a request has still to do with the delivery that it attempts. -/
def errandOf (thread : Thread (webhooks config)) : Errand :=
  (errands config).reached thread.entry.errand thread.past

def Errand.bars (id : Uuid) : Errand → Bool
  | .barred other => other = id
  | _ => false

/-- Nothing is left of an execution but to write the status of the delivery. -/
def Errand.spent (id : Uuid) : Errand → Bool
  | .posted other => other = id
  | errand => errand.bars id

/-- A replay writes the delivery as if it had never been attempted. -/
def Resetting (id : Uuid) (thread : Thread (webhooks config)) : Event (webhooks config) → Prop
  | ⟨_, .updateStatus written _, .ok _, _⟩ => thread.entry.replays ∧ written = id
  | _ => False

instance (event : Event (webhooks config)) : Decidable (Resetting id thread event) := by
  obtain ⟨_, query, answer, _⟩ := event
  unfold Resetting
  rcases query with ⟨⟩ <;> rcases answer with _ | _ <;> infer_instance

/-- The move makes a request for the delivery. -/
def Posts (id : Uuid) (cfg : Interleaving.Config (webhooks config)) (move : Move (webhooks config)) :
    Prop :=
  match cfg.acts move with
  | some (_, ⟨_, .post (some delivery) _ _ _, _, _⟩, _) => delivery = id
  | _ => False

instance (cfg : Interleaving.Config (webhooks config)) (move : Move (webhooks config)) :
    Decidable (Posts id cfg move) := by
  unfold Posts
  rcases cfg.acts move with _ | ⟨_, ⟨_, query, _, _⟩, _⟩
  · infer_instance
  · rcases query with ⟨⟩
    case post delivery url rawBody headers answer => rcases delivery with _ | _ <;> infer_instance
    all_goals infer_instance

/-- A delivery has been queued again, by what the replay answers. -/
def Reply.queues : Reply → Bool
  | .queued => true
  | .replayed count => 0 < count
  | _ => false

/-- The request has answered that it has queued what it has reset by the event. -/
def Queued (cfg : Interleaving.Config (webhooks config)) (thread : Thread (webhooks config))
    (event : Event (webhooks config)) : Prop :=
  ∃ done ∈ cfg.threads, done.entry = thread.entry ∧ event ∈ done.past ∧
    ∃ reply, done.rest = .ret reply ∧ reply.queues

/-- A delivery that a replay has reset and queued, and whose subscription has been active
since, was requested again before it was finished. -/
def ReplayKept (id : Uuid) (moments : List (Moment (webhooks config)))
    (cfg : Interleaving.Config (webhooks config)) : Prop :=
  ∀ newest newer older before move thread event rest row,
    moments = newest ++ (newer ++ (before, move) :: older) →
    before.acts move = some (thread, event, rest) → Resetting id thread event →
    Queued cfg thread event →
    (∀ since ∈ cfg :: (newest ++ newer).map (·.1),
      (since.world.subscriptions.get row.subscriptionId).any (·.status = .ACTIVE)) →
    (ledTo newest cfg).world.deliveries.get id = some row → row.status.terminal →
    ∃ moment ∈ newer, Posts id moment.1 moment.2

/-- The move resets the delivery. -/
def ResetsNow (id : Uuid) (moment : Moment (webhooks config)) : Prop :=
  match moment.1.acts moment.2 with
  | some (thread, event, _) => Resetting id thread event
  | none => False

instance (moment : Moment (webhooks config)) : Decidable (ResetsNow id moment) := by
  unfold ResetsNow
  rcases moment.1.acts moment.2 with _ | ⟨thread, event, _⟩ <;> infer_instance

/-- The move shows an execution that there is nothing to make its request with. -/
def BarsNow (id : Uuid) (moment : Moment (webhooks config)) : Prop :=
  match moment.1.acts moment.2 with
  | some (thread, event, rest) => (errandOf (thread.after event rest)).bars id
  | none => False

instance (moment : Moment (webhooks config)) : Decidable (BarsNow id moment) := by
  unfold BarsNow
  rcases moment.1.acts moment.2 with _ | ⟨thread, event, rest⟩ <;> infer_instance

/-- When the delivery is reset, no execution has nothing left but to write its status, and
every one that reads it later has what it makes the request with. -/
def Unmasked (id : Uuid) : List (Moment (webhooks config)) → Prop
  | [] => True
  | moment :: older => Unmasked id older ∧
      (ResetsNow id moment → ∀ thread ∈ moment.1.threads, ¬(errandOf thread).spent id) ∧
      (BarsNow id moment → ∀ earlier ∈ older, ¬ResetsNow id earlier)

instance decidableUnmasked :
    (moments : List (Moment (webhooks config))) → Decidable (Unmasked id moments)
  | [] => inferInstanceAs (Decidable True)
  | _ :: older =>
      have := decidableUnmasked older
      inferInstanceAs (Decidable (_ ∧ _ ∧ _))

/-- The delivery is not finished, and nobody is about to write its status. -/
structure Clear (id : Uuid) (cfg : Interleaving.Config (webhooks config)) : Prop where
  unfinished : ∀ row, cfg.world.deliveries.get id = some row → row.unfinished
  unspent : ∀ thread ∈ cfg.threads, ¬(errandOf thread).spent id

theorem errand_permits {allowed : Interleaving.Config (webhooks config) → Move (webhooks config) → Prop}
    (run : Run (webhooks config) allowed cfg) (acts : cfg.acts move = some (thread, event, rest)) :
    (errandOf thread).permits event.query :=
  ((run.follows handler_errs thread (acts_cases acts).1).act acts).1

theorem unspent_begin (entry : Entry) : ¬(errandOf (Thread.begin (webhooks config) entry)).spent id := by
  cases entry <;> exact Bool.false_ne_true

theorem Errand.spent_conclude (errand : Errand) : ¬errand.conclude.spent id := by
  cases errand <;> exact Bool.false_ne_true

theorem Errand.posted_of_spent {errand : Errand} (spent : errand.spent id) (reaches : ¬errand.bars id) :
    errand = .posted id := by
  cases errand with
  | posted other =>
    obtain rfl : other = id := of_decide_eq_true spent
    rfl
  | _ => exact absurd spent reaches

/-- What is read for a request does not make it. -/
theorem ofSubscription_unposted (other : Uuid) (found : Option WebhookSubscriptionEntity) :
    Errand.ofSubscription other found ≠ .posted id := by
  unfold Errand.ofSubscription
  split
  · split <;> nofun
  · nofun

theorem ofActivity_unposted (other : Uuid) (subscription : WebhookSubscriptionEntity)
    (event : OutboxEventEntity) (answer : Except Exception (Option Activities.ActivityEntity)) :
    Errand.ofActivity config other subscription event answer ≠ .posted id := by
  unfold Errand.ofActivity
  split
  · split <;> nofun
  · nofun

theorem ofClock_unposted (other : Uuid) (subscription : WebhookSubscriptionEntity)
    (event : OutboxEventEntity) (rawBody : String) (now : Instant) :
    Errand.ofClock config other subscription event rawBody now ≠ .posted id := by
  unfold Errand.ofClock
  split <;> nofun

/-- An execution has its request behind it by making it. -/
theorem posted_next {errand : Errand} {query : Call} {answer : Except Exception (interface.Answer query)}
    (permitted : errand.permits query) (posted : errand.next config query answer = .posted id) :
    errand = .posted id ∨ ∃ url rawBody headers, query = .post (some id) url rawBody headers := by
  have concluded : errand.conclude ≠ .posted id := by cases errand <;> nofun
  cases query with
  | updateStatus | moveToCompleted | moveToFailed => exact absurd posted concluded
  | post delivery url rawBody headers =>
    cases delivery with
    | none => exact .inl posted
    | some delivery =>
      obtain rfl : errand = .signed delivery := permitted
      cases posted
      exact .inr ⟨url, rawBody, headers, rfl⟩
  | findByEventSub eventId subscriptionId =>
    rcases answer with error | _ | row
    · exact .inl posted
    · exact .inl posted
    · cases errand with
      | idle => cases posted
      | _ => exact .inl posted
  | findSubscription asked =>
    cases answer with
    | error error => exact .inl posted
    | ok found =>
      cases errand with
      | reading other => exact absurd posted (ofSubscription_unposted other found)
      | _ => exact .inl posted
  | findOutboxEvent asked =>
    rcases answer with error | _ | event
    · exact .inl posted
    · cases errand with
      | subscribed => cases posted
      | _ => exact .inl posted
    · cases errand with
      | subscribed => cases posted
      | _ => exact .inl posted
  | findByIdIncludingDeleted asked =>
    cases errand with
    | evented other subscription event =>
      rw [Errand.next] at posted
      exact absurd posted (ofActivity_unposted other subscription event answer)
    | _ => exact .inl posted
  | now =>
    cases answer with
    | error error => exact .inl posted
    | ok now =>
      cases errand with
      | built other subscription event rawBody =>
        exact absurd posted (ofClock_unposted other subscription event rawBody now)
      | _ => exact .inl posted
  | _ => exact .inl posted

/-- A thread with nothing left but to write the status of a delivery has just made the
request for it, was so before, or has been barred. -/
theorem unspent_after {allowed : Interleaving.Config (webhooks config) → Move (webhooks config) → Prop}
    (run : Run (webhooks config) allowed cfg) (reaches : ¬BarsNow id (cfg, move))
    (acts : cfg.acts move = some (thread, event, rest)) (unspent : ¬(errandOf thread).spent id)
    (unposted : ¬Posts id cfg move) : ¬(errandOf (thread.after event rest)).spent id := by
  intro spent
  have permitted := errand_permits run acts
  simp only [BarsNow, acts] at reaches
  have posted : (errandOf (thread.after event rest)) = .posted id := Errand.posted_of_spent spent reaches
  rcases posted_next permitted posted with before | ⟨url, rawBody, headers, same⟩
  · apply unspent
    rw [before]
    exact decide_eq_true rfl
  · apply unposted
    obtain ⟨before, query, answer, after⟩ := event
    dsimp only at same
    subst same
    simp only [Posts, acts]

/-- A clear delivery stays so until it is requested. -/
theorem Clear.advance {allowed : Interleaving.Config (webhooks config) → Move (webhooks config) → Prop}
    (clear : Clear id cfg) (run : Run (webhooks config) allowed cfg) (reaches : ¬BarsNow id (cfg, move))
    (unposted : ¬Posts id cfg move) (moved : advance move cfg = some cfg') : Clear id cfg' := by
  constructor
  · intro row found
    rcases advance_cases moved with ⟨how, rfl, rfl⟩ | ⟨entry, rfl, rfl⟩ | ⟨index, rfl, rfl⟩ |
      ⟨index, thread, event, rest, at_, acts, rfl⟩
    · exact clear.unfinished row (deliveries_nudged found)
    · exact clear.unfinished row found
    · exact clear.unfinished row found
    · have permitted := errand_permits run acts
      obtain ⟨member, query, next, answer, after, shape, rfl, rfl, answers⟩ := acts_cases acts
      rcases answers.elim with ⟨rfl, rfl⟩ | ⟨error, -, -, rfl⟩
      · rcases deliveries_served found with same | ⟨-, pending⟩ | ⟨patch, old, rfl, -, -, rfl⟩
        · exact clear.unfinished row same
        · rw [WebhookDeliveryEntity.unfinished, pending]
          rfl
        · rcases permitted with ⟨-, rfl⟩ | barred | posted
          · rfl
          · apply absurd _ (clear.unspent thread member)
            rw [barred]
            exact decide_eq_true rfl
          · apply absurd _ (clear.unspent thread member)
            rw [posted]
            exact decide_eq_true rfl
      · exact clear.unfinished row found
  · intro thread member
    rcases thread_came moved member with old | ⟨entry, rfl⟩ | ⟨acting, event, rest, acts, -, rfl⟩
    · exact clear.unspent thread old
    · exact unspent_begin entry
    · exact unspent_after run reaches acts (clear.unspent acting (acts_cases acts).1) unposted

/-- What a status write has left. -/
theorem deliveries_updated {world : World} {patch : DeliveryStatusPatch} {row : WebhookDeliveryEntity}
    (ok : (serve (.updateStatus id patch) world).1.isOk)
    (found : (serve (.updateStatus id patch) world).2.deliveries.get id = some row) :
    row.status = patch.status := by
  simp only [serve, World.updateStatus] at ok found
  split at found
  · rename_i invalid
    rw [if_pos invalid] at ok
    cases ok
  · split at found
    · rename_i missing
      rw [missing] at found
      cases found
    · rename_i old there
      have own : (patch.onto old).id = id := (Table.key_of_get there : old.id = id)
      rw [Table.get_put, own, if_pos rfl, there, Option.map_some, Option.some.injEq] at found
      rw [← found]
      rfl

/-- A reset among executions that are not past their requests leaves the delivery clear. -/
theorem clear_of_reset {allowed : Interleaving.Config (webhooks config) → Move (webhooks config) → Prop}
    (run : Run (webhooks config) allowed cfg) (acts : cfg.acts move = some (thread, event, rest))
    (resetting : Resetting id thread event)
    (unspent : ∀ thread ∈ cfg.threads, ¬(errandOf thread).spent id)
    (moved : Interleaving.advance move cfg = some cfg') : Clear id cfg' := by
  have permitted := errand_permits run acts
  obtain ⟨member, query, next, answer, after, shape, rfl, rfl, answers⟩ := acts_cases acts
  unfold Resetting at resetting
  split at resetting
  · rename_i before written patch done after' same
    cases same
    obtain ⟨-, rfl⟩ := resetting
    have world := (advance_of_acts moved acts).1
    rcases answers.elim with ⟨served, rfl⟩ | ⟨error, -, failed, -⟩
    · constructor
      · intro row found
        rw [world] at found
        have status := deliveries_updated (by rw [← served]; rfl) found
        have reset : patch = resetPatch := by
          rcases permitted with ⟨-, reset⟩ | barred | posted
          · exact reset
          · apply absurd _ (unspent thread member)
            rw [barred]
            exact decide_eq_true rfl
          · apply absurd _ (unspent thread member)
            rw [posted]
            exact decide_eq_true rfl
        rw [WebhookDeliveryEntity.unfinished, status, reset]
        rfl
      · intro other among
        rcases thread_came moved among with old | ⟨entry, rfl⟩ | ⟨acting, event, rest, same, -, rfl⟩
        · exact unspent other old
        · exact unspent_begin entry
        · rw [acts] at same
          cases same
          exact Errand.spent_conclude _
    · cases failed
  · exact resetting.elim

theorem Unmasked.part (unmasked : Unmasked id (newer ++ older)) : Unmasked id older := by
  induction newer with
  | nil => exact unmasked
  | cons last newer ih => exact ih unmasked.1

/-- From its reset on a delivery is clear, or has been requested. -/
theorem clear_since {allowed : Interleaving.Config (webhooks config) → Move (webhooks config) → Prop}
    {before : Interleaving.Config (webhooks config)}
    (chronicle : Chronicle (webhooks config) allowed (newer ++ (before, move) :: older) cfg)
    (unmasked : Unmasked id (newer ++ (before, move) :: older))
    (acts : before.acts move = some (thread, event, rest)) (resetting : Resetting id thread event) :
    (∃ moment ∈ newer, Posts id moment.1 moment.2) ∨ Clear id cfg := by
  have resets : ResetsNow id (before, move) := by
    simp only [ResetsNow, acts]
    exact resetting
  induction newer generalizing cfg with
  | nil =>
    cases chronicle with
    | step earlier permitted moved =>
      exact .inr (clear_of_reset earlier.run acts resetting (unmasked.2.1 resets) moved)
  | cons last newer ih =>
    cases chronicle with
    | @step _ past _ made earlier permitted moved =>
      rcases ih earlier unmasked.1 with ⟨moment, member, posts⟩ | clear
      · exact .inl ⟨moment, List.mem_cons_of_mem _ member, posts⟩
      · by_cases posts : Posts id past made
        · exact .inl ⟨(past, made), List.mem_cons_self, posts⟩
        · have reaches : ¬BarsNow id (past, made) := by
            intro bars
            exact unmasked.2.2 bars (before, move) (List.mem_append_right _ List.mem_cons_self) resets
          exact .inr (clear.advance earlier.run reaches posts moved)

/-- In every run in which no execution is past its request when the delivery is reset, and
every later one comes to its request, a replay is kept. -/
theorem replay_kept
    (chronicle : Chronicle (webhooks config) (fun _ _ => True) moments cfg)
    (unmasked : Unmasked id moments) : ReplayKept id moments cfg := by
  intro newest newer older before move thread event rest row shape acts resetting _ _ found terminal
  subst shape
  rcases clear_since chronicle.part unmasked.part acts resetting with posted | clear
  · exact posted
  · have unfinished := clear.unfinished row found
    rw [WebhookDeliveryEntity.unfinished, terminal] at unfinished
    cases unfinished

def admin : AuthUser := { id := "u1", admin := true }

def crashes : Move (webhooks defaults) → Bool
  | .crash _ => true
  | _ => false

/-- A replay has answered that it queued its delivery. -/
def answersQueued (thread : Thread (webhooks defaults)) : Bool :=
  match thread.rest with
  | .ret reply => reply.queues
  | _ => false

/-- The delivery is reset so many moves ago, and queued; its subscription has been active
since, and it is finished now. -/
def replayedAgo (count : ℕ) (moments : List (Moment (webhooks defaults)))
    (cfg : Interleaving.Config (webhooks defaults)) : Bool :=
  (moments[count]?.any (ResetsNow "d1" ·)) &&
    (moments.take count).all (fun moment => !crashes moment.2) &&
    (cfg.threads.all fun thread => !thread.entry.replays || answersQueued thread) &&
    ((cfg :: (moments.take count).map (·.1)).all fun since =>
      (since.world.subscriptions.get "s1").any (·.status = .ACTIVE)) &&
    (cfg.world.deliveries.get "d1").any fun row => row.subscriptionId = "s1" && row.status.terminal

/-- What is kept of such a replay. -/
theorem ReplayKept.posted {count : ℕ} {moments : List (Moment (webhooks defaults))}
    {cfg : Interleaving.Config (webhooks defaults)}
    (chronicle : Chronicle (webhooks defaults) (fun _ _ => True) moments cfg)
    (replayed : replayedAgo count moments cfg = true) (kept : ReplayKept "d1" moments cfg) :
    ∃ moment ∈ moments.take count, Posts "d1" moment.1 moment.2 := by
  simp only [replayedAgo, Bool.and_eq_true] at replayed
  obtain ⟨⟨⟨⟨reset, uncrashed⟩, answered⟩, active⟩, finished⟩ := replayed
  obtain ⟨⟨before, move⟩, at_, resets⟩ := (Option.any_eq_true _ _).mp reset
  obtain ⟨row, found, shown⟩ := (Option.any_eq_true _ _).mp finished
  obtain ⟨bound, same⟩ := List.getElem?_eq_some_iff.mp at_
  have shape : moments = moments.take count ++ (before, move) :: moments.drop (count + 1) := by
    rw [← same, ← List.drop_eq_getElem_cons bound, List.take_append_drop]
  have subscription : row.subscriptionId = "s1" ∧ row.status.terminal = true := by simpa using shown
  rw [decide_eq_true_eq, ResetsNow] at resets
  split at resets
  · rename_i thread event rest acts
    rw [shape] at chronicle
    obtain ⟨done, member, entry, known⟩ := chronicle.remembered acts fun moment new index crash => by
      have silent := List.all_eq_true.mp uncrashed moment new
      rw [crash] at silent
      cases silent
    have replays : done.entry.replays = true := by
      rw [entry]
      unfold Resetting at resets
      split at resets
      · exact resets.1
      · exact resets.elim
    have queued : answersQueued done = true := by
      have either := List.all_eq_true.mp answered done member
      rw [replays] at either
      exact either
    unfold answersQueued at queued
    split at queued
    · rename_i reply ended
      apply kept [] _ _ before move thread event rest row shape acts resets
        ⟨done, member, entry, known, reply, ended, queued⟩ _ found subscription.2
      rw [subscription.1]
      exact fun since among => List.all_eq_true.mp active since among
    · cases queued
  · exact resets.elim

/-- A delivery has succeeded, and is replayed: another execution makes its request. -/
def replayed : List (Move (webhooks defaults)) :=
  delivered ++ turns 1 1 ++ .arrive (.replayDelivery "d1" admin) :: turns 2 7 ++
    .arrive (.work "e1--s1" "w2") :: turns 3 13

theorem replay_kept_succeeded : ∃ (moments : List (Moment (webhooks defaults)))
    (cfg : Interleaving.Config (webhooks defaults)),
    Chronicle (webhooks defaults) (fun _ _ => True) moments cfg ∧ Unmasked "d1" moments ∧
      replayedAgo 18 moments cfg = true ∧
      ∃ moment ∈ moments.take 18, Posts "d1" moment.1 moment.2 := by
  obtain ⟨moments, cfg, chronicle, shown⟩ := exists_followed (fun _ _ => True) replayed
    (fun moments cfg => replayedAgo 18 moments cfg && decide (Unmasked "d1" moments))
    (by decide +kernel)
  obtain ⟨ago, unmasked⟩ := Bool.and_eq_true_iff.mp shown
  have kept : ReplayKept "d1" moments cfg := replay_kept chronicle (of_decide_eq_true unmasked)
  exact ⟨moments, cfg, chronicle, of_decide_eq_true unmasked, ago, kept.posted chronicle ago⟩

/-- The first execution has made its request when the delivery is replayed.  Its job is
active and stays, and it writes that the delivery has succeeded over the reset. -/
def overwritten : List (Move (webhooks defaults)) :=
  fannedOut 200 ++ turns 0 1 ++ .arrive (.work "e1--s1" "w1") :: turns 1 8 ++
    .arrive (.replayDelivery "d1" admin) :: turns 2 7 ++ turns 1 5

/-- A replay is lost to an execution that it has overtaken. -/
theorem replay_lost : ¬∀ (id : Uuid) (moments : List (Moment (webhooks defaults)))
    (cfg : Interleaving.Config (webhooks defaults)),
    Chronicle (webhooks defaults) (fun _ _ => True) moments cfg → ReplayKept id moments cfg := by
  intro always
  obtain ⟨moments, cfg, chronicle, shown⟩ := exists_followed (fun _ _ => True) overwritten
    (fun moments cfg => replayedAgo 9 moments cfg &&
      (moments.take 9).all fun moment => !decide (Posts "d1" moment.1 moment.2))
    (by decide +kernel)
  obtain ⟨ago, silent⟩ := Bool.and_eq_true_iff.mp shown
  obtain ⟨moment, member, posts⟩ := (always "d1" moments cfg chronicle).posted chronicle ago
  have unposted := List.all_eq_true.mp silent moment member
  rw [decide_eq_true posts] at unposted
  cases unposted

end ParentalCoord.Webhooks

import ParentalCoord.Webhooks.Conduct

/-!
What a request has read and written so far, and what it may write next.

The ledger of a request keeps the clock that it has read last, the subscription that it
goes by, the row that it has read last and the one that it has saved last.  A row of a
subscription is saved only over the row that was read last, and `Saves` lists what may
have become of it; outbox events are purged only by retention, by the clock it has read.
-/

namespace ParentalCoord.Webhooks

open Interleaving Store

variable {config : Config} {query : Call}

structure Ledger where
  entry : Entry
  clock : Option Instant := none
  /-- The delivery to attempt. -/
  delivery : Option Uuid := none
  /-- The id of the subscription that was last asked for. -/
  asked : Option Uuid := none
  /-- The subscription as it was first read, before a status is written; the request goes by
  it. -/
  snapshot : Option WebhookSubscriptionEntity := none
  /-- The subscription as it was last read, and not saved since. -/
  base : Option WebhookSubscriptionEntity := none
  /-- The status that the first delivery was given. -/
  status : Option WebhookDeliveryStatus := none
  saved : Option WebhookSubscriptionEntity := none

def Ledger.next (ledger : Ledger) :
    (query : Call) → Except Exception (interface.Answer query) → Ledger
  | .now, .ok now => { ledger with clock := some now }
  | .findByEventSub _ _, .ok (some row) => { ledger with delivery := some row.id }
  | .findSubscription id, .ok found =>
      { ledger with
        asked := some id
        snapshot := if ledger.status.isNone then ledger.snapshot.or found else ledger.snapshot
        base := found }
  | .updateStatus _ patch, .ok _ => { ledger with status := ledger.status.or (some patch.status) }
  | .saveSubscription entity, .ok _ => { ledger with base := none, saved := some entity }
  | _, _ => ledger

def Entry.works : Entry → Bool
  | .work _ _ => true
  | _ => false

/-- How long a streak of failures may last. -/
def disableAfter (config : Config) : ℤ :=
  config.WEBHOOK_AUTO_DISABLE_DAYS.getD DEFAULT_WEBHOOK_AUTO_DISABLE_DAYS * MS_PER_DAY

/-- How long the previous secret is kept. -/
def graceOf (config : Config) : ℤ :=
  config.WEBHOOK_ROTATION_GRACE_HOURS.getD DEFAULT_WEBHOOK_ROTATION_GRACE_HOURS * MS_PER_HOUR

/-- Up to when the events of a pass of retention are purged. -/
def cutoffOf (config : Config) (now : Instant) : Instant :=
  now - config.WEBHOOK_RETENTION_DAYS.getD DEFAULT_RETENTION_DAYS * MS_PER_DAY

/-- The attempt has gone by the subscription, which was active, and has failed at an instant. -/
structure Ledger.Failed (ledger : Ledger) (snapshot : WebhookSubscriptionEntity) (now : Instant) :
    Prop where
  active : snapshot.status = .ACTIVE
  works : ledger.entry.works
  clock : ledger.clock = some now
  snapshot : ledger.snapshot = some snapshot
  status : ∃ status, ledger.status = some status ∧ status ≠ .SUCCEEDED

/-- What is saved over a row that was read. -/
inductive Saves (config : Config) (ledger : Ledger) (base : WebhookSubscriptionEntity) :
    WebhookSubscriptionEntity → Prop where
  /-- The first failure of a streak. -/
  | opens {snapshot : WebhookSubscriptionEntity} {now : Instant} :
      ledger.Failed snapshot now → snapshot.consecutiveFailureSince = none → ledger.saved = none →
      Saves config ledger base { base with consecutiveFailureSince := some now }
  | closes {snapshot : WebhookSubscriptionEntity} :
      ledger.entry.works → ledger.snapshot = some snapshot →
      snapshot.consecutiveFailureSince ≠ none → ledger.status = some .SUCCEEDED →
      Saves config ledger base { base with consecutiveFailureSince := none }
  | autoDisables {snapshot : WebhookSubscriptionEntity} {since now : Instant} :
      ledger.Failed snapshot now →
      (snapshot.consecutiveFailureSince = some since ∨
        since = now ∧ snapshot.consecutiveFailureSince = none ∧
          ∃ opened, ledger.saved = some opened ∧ opened.consecutiveFailureSince = some now) →
      disableAfter config ≤ now - since →
      Saves config ledger base { base with status := .AUTO_DISABLED, consecutiveFailureSince := none }
  /-- The endpoint is gone. -/
  | disables {snapshot : WebhookSubscriptionEntity} {now : Instant} :
      ledger.Failed snapshot now →
      Saves config ledger base { base with status := .DISABLED, consecutiveFailureSince := none }
  | updates {bondId id : Uuid} {dto : UpdateWebhookSubscriptionDto} {user : AuthUser}
      {patch : SubscriptionPatch} :
      ledger.entry = .update bondId id dto user → Saves config ledger base (patch.onto base)
  | rotates {bondId id : Uuid} {user : AuthUser} {drawn : Drawn} {now : Instant}
      {snapshot : WebhookSubscriptionEntity} {secretEncrypted : String} :
      ledger.entry = .rotateSecret bondId id user drawn → ledger.clock = some now →
      ledger.snapshot = some snapshot → config.encrypt drawn.iv drawn.secret = .ok secretEncrypted →
      Saves config ledger base
        { base with
          secretPrevEncrypted := some snapshot.secretEncrypted
          secretPrevExpiresAt := some (now + graceOf config)
          secretEncrypted := secretEncrypted }

/-- A new subscription, with the secret of its request. -/
structure Creates (config : Config) (entry : Entry) (entity : WebhookSubscriptionEntity) : Prop where
  secret : ∃ bondId dto user drawn, entry = .create bondId dto user drawn ∧
    config.encrypt drawn.iv drawn.secret = .ok entity.secretEncrypted
  active : entity.status = .ACTIVE
  closed : entity.consecutiveFailureSince = none

def Ledger.permits (config : Config) (ledger : Ledger) : Call → Prop
  | .findSubscription id => ∀ snapshot, ledger.snapshot = some snapshot →
      id = snapshot.id ∨ ledger.asked = some id
  | .updateStatus _ patch => patch.status = .SUCCEEDED →
      ledger.entry.works ∧ ledger.snapshot ≠ none ∧ ledger.status = none ∧ ledger.saved = none
  | .saveSubscription entity => ∃ base, ledger.base = some base ∧ Saves config ledger base entity
  | .createSubscription entity => Creates config ledger.entry entity
  | .purgeDispatchedBefore before => ledger.entry = .retention ∧
      ∃ now, ledger.clock = some now ∧ before = cutoffOf config now
  | _ => True

@[reducible] def accounts (config : Config) : Protocol interface Exception where
  Phase := Ledger
  permits := Ledger.permits config
  next := Ledger.next

/-- The ledger of a request, before its first call. -/
def Entry.ledger (entry : Entry) : Ledger := { entry := entry }

abbrev Accounts (config : Config) {α : Type} (ledger : Ledger) (handler : Request α) : Prop :=
  (accounts config).Follows (fun _ _ => True) ledger handler

/-! ## Calls that a ledger does not keep -/

/-- Calls that leave every ledger as it is. -/
def Call.quiet : Call → Prop
  | .now | .findByEventSub _ _ | .findSubscription _ | .updateStatus _ _ | .saveSubscription _
  | .createSubscription _ | .purgeDispatchedBefore _ => False
  | _ => True

/-- Calls that any ledger permits. -/
def Call.free : Call → Prop
  | .findSubscription _ | .saveSubscription _ | .createSubscription _ | .purgeDispatchedBefore _ => False
  | .updateStatus _ patch => patch.status ≠ .SUCCEEDED
  | _ => True

variable {ledger : Ledger} {α β : Type}

theorem quiet_stays (quiet : query.quiet) :
    ledger.permits config query ∧ ∀ answer, ledger.next query answer = ledger := by
  cases query <;> first | exact quiet.elim | exact ⟨trivial, fun _ => rfl⟩

theorem permits_of_free (free : query.free) : ledger.permits config query := by
  cases query with
  | updateStatus id patch => exact fun succeeded => absurd succeeded free
  | findSubscription | saveSubscription | createSubscription | purgeDispatchedBefore => exact free.elim
  | _ => trivial

theorem free_of_relays (relays : query.relays) : query.free := by
  cases query <;> first | exact relays.elim | trivial

theorem accounts_free {handler : Request α} (calls : handler.Calls Call.free) :
    Accounts config ledger handler := by
  induction handler generalizing ledger with
  | ret value => trivial
  | throw error => trivial
  | call query next ih => exact ⟨permits_of_free calls.1, fun answer => ih answer (calls.2 answer)⟩

/-- Quiet calls may come before anything. -/
theorem accounts_after {first : Request β} {rest : β → Request α} (calls : first.Calls Call.quiet)
    (more : ∀ value, Accounts config ledger (rest value)) :
    Accounts config ledger (first.bind rest) := by
  refine .bind (.of_calls calls (fun _ quiet => quiet_stays quiet) fun result => ?_)
  cases result with
  | ok value => exact more value
  | error error => trivial

/-- Free calls may come after anything. -/
theorem accounts_before {first : Request β} {rest : β → Request α}
    (accounted : Accounts config ledger first) (calls : ∀ value, (rest value).Calls Call.free) :
    Accounts config ledger (first.bind rest) := by
  refine .bind (accounted.mono fun result ledger _ => ?_)
  cases result with
  | ok value => exact accounts_free (calls value)
  | error error => trivial

theorem asked_quiet (query : Call) (quiet : query.quiet) : (perform query).Calls Call.quiet :=
  Handler.calls_perform.mpr quiet

theorem asked_free (query : Call) (free : query.free) : (perform query).Calls Call.free :=
  Handler.calls_perform.mpr free

/-- The clock is read. -/
theorem accounts_now {rest : Instant → Request α}
    (more : ∀ now, Accounts config { ledger with clock := some now } (rest now)) :
    Accounts config ledger (clockNow.bind rest) :=
  .perform_bind trivial (fun now => more now) fun _ => trivial

/-! ## The worker -/

/-- Nothing has been read or written of a subscription or a delivery. -/
structure Ledger.Fresh (ledger : Ledger) : Prop where
  snapshot : ledger.snapshot = none
  status : ledger.status = none
  saved : ledger.saved = none

/-- The attempt goes by an active subscription, and has not ended the delivery. -/
structure Ledger.Trying (ledger : Ledger) (subscription : WebhookSubscriptionEntity) : Prop where
  active : subscription.status = .ACTIVE
  works : ledger.entry.works
  snapshot : ledger.snapshot = some subscription
  status : ledger.status = none
  saved : ledger.saved = none

variable {subscription : WebhookSubscriptionEntity}

/-- The ledger after a row was read and saved. -/
def Ledger.updated (ledger : Ledger) (id : Uuid) (base entity : WebhookSubscriptionEntity) : Ledger :=
  (ledger.next (.findSubscription id) (.ok (some base))).next (.saveSubscription entity) (.ok ())

/-- The row is read, and saved as `assign` makes it. -/
theorem updateEntity_follows {id : Uuid}
    {assign : WebhookSubscriptionEntity → WebhookSubscriptionEntity}
    (own : ∀ snapshot, ledger.snapshot = some snapshot → id = snapshot.id ∨ ledger.asked = some id)
    (saves : ∀ base, Saves config (ledger.next (.findSubscription id) (.ok (some base))) base
      (assign base)) :
    (accounts config).Follows (fun result after => result = .ok () →
      ∃ base, after = ledger.updated id base (assign base)) ledger (updateEntity id assign) := by
  refine .perform_bind own (fun found => ?_) fun _ => nofun
  cases found with
  | none => nofun
  | some base =>
    refine ⟨⟨base, rfl, saves base⟩, fun answer => ?_⟩
    cases answer with
    | ok _ => exact fun _ => ⟨base, rfl⟩
    | error _ => nofun

theorem updateEntity_accounts {id : Uuid}
    {assign : WebhookSubscriptionEntity → WebhookSubscriptionEntity} {rest : Unit → Request α}
    (own : ∀ snapshot, ledger.snapshot = some snapshot → id = snapshot.id ∨ ledger.asked = some id)
    (saves : ∀ base, Saves config (ledger.next (.findSubscription id) (.ok (some base))) base
      (assign base))
    (more : ∀ base, Accounts config (ledger.updated id base (assign base)) (rest ())) :
    Accounts config ledger ((updateEntity id assign).bind rest) := by
  refine .bind ((updateEntity_follows own saves).mono fun result after reached => ?_)
  cases result with
  | ok value =>
    obtain ⟨base, rfl⟩ := reached rfl
    exact more base
  | error error => trivial

theorem notifyDisabled_free (config : Config) (subscription : WebhookSubscriptionEntity)
    (reason : WebhookDisableReason) : (notifyDisabled config subscription reason).Calls Call.free :=
  .tryCatch (asked_free _ trivial) fun _ => trivial

/-- A failure is one whatever is read after it. -/
theorem Ledger.Failed.read {now : Instant} (failed : ledger.Failed subscription now) (id : Uuid)
    (found : Option WebhookSubscriptionEntity) :
    (ledger.next (.findSubscription id) (.ok found)).Failed subscription now where
  active := failed.active
  works := failed.works
  clock := failed.clock
  snapshot := by simp [Ledger.next, failed.snapshot]
  status := failed.status

theorem Ledger.Failed.own {now : Instant} (failed : ledger.Failed subscription now)
    (snapshot : WebhookSubscriptionEntity) (same : ledger.snapshot = some snapshot) :
    subscription.id = snapshot.id ∨ ledger.asked = some subscription.id := by
  rw [failed.snapshot, Option.some.injEq] at same
  rw [same]
  exact .inl rfl

theorem autoDisable_accounts {since now : Instant} (failed : ledger.Failed subscription now)
    (streak : subscription.consecutiveFailureSince = some since ∨
      since = now ∧ subscription.consecutiveFailureSince = none ∧
        ∃ opened, ledger.saved = some opened ∧ opened.consecutiveFailureSince = some now)
    (long : disableAfter config ≤ now - since) :
    Accounts config ledger (autoDisable config subscription) := by
  refine updateEntity_accounts failed.own (fun base => ?_) fun base => ?_
  · exact .autoDisables (failed.read _ _) streak long
  · exact accounts_before (accounts_free (notifyDisabled_free config _ _)) fun _ => trivial

theorem recordFailure_accounts {now : Instant} (failed : ledger.Failed subscription now)
    (unsaved : ledger.saved = none) :
    Accounts config ledger (recordFailure config subscription now) := by
  unfold recordFailure
  dsimp only
  split
  · trivial
  · split
    · rename_i closed
      refine updateEntity_accounts failed.own (fun base => ?_) fun base => ?_
      · exact .opens (failed.read _ _) closed unsaved
      · split
        · trivial
        · rename_i short
          refine autoDisable_accounts ?_ (.inr ⟨rfl, closed, _, rfl, rfl⟩) ?_
          · obtain ⟨active, works, clock, snapshot, status⟩ := failed.read subscription.id (some base)
            exact ⟨active, works, clock, snapshot, status⟩
          · rw [disableAfter, Int.sub_self]
            exact not_lt.mp short
    · rename_i since opened
      split
      · trivial
      · rename_i long
        exact autoDisable_accounts failed (.inl opened) (not_lt.mp long)

theorem recordSuccess_accounts (works : ledger.entry.works)
    (snapshot : ledger.snapshot = some subscription) (succeeded : ledger.status = some .SUCCEEDED) :
    Accounts config ledger (recordSuccess subscription) := by
  unfold recordSuccess
  split
  · trivial
  · rename_i opened
    refine (updateEntity_follows (fun found same => .inl ?_) fun base => ?_).mono fun _ _ _ => trivial
    · rw [snapshot, Option.some.injEq] at same
      rw [same]
    · have still : (ledger.next (.findSubscription subscription.id) (.ok (some base))).snapshot =
          some subscription := by simp [Ledger.next, snapshot]
      exact .closes works still (by simpa using opened) succeeded

theorem fail_free (deliveryId : Uuid) (attemptNo : ℕ) (error : String) :
    (fail deliveryId attemptNo error).Calls Call.free :=
  .bind (asked_free _ trivial) fun _ => asked_free _ (by nofun)

/-- The status is written, and then what follows from it. -/
theorem updateStatus_accounts {id : Uuid} {patch : DeliveryStatusPatch} {rest : Unit → Request α}
    (trying : ledger.Trying subscription)
    (more : Accounts config { ledger with status := some patch.status } (rest ())) :
    Accounts config ledger ((updateStatus id patch).bind rest) := by
  have written : ledger.next (.updateStatus id patch) (.ok ()) =
      { ledger with status := some patch.status } := by simp [Ledger.next, trying.status]
  refine .perform_bind (fun _ => ⟨trying.works, ?_, trying.status, trying.saved⟩) (fun _ => ?_)
    fun _ => trivial
  · simp [trying.snapshot]
  · rwa [← written] at more

theorem applyOutcome_accounts (trying : ledger.Trying subscription) (job : DeliveryJob)
    (deliveryId : Uuid) (outcome : DeliveryOutcome) (result : SsrfHttpResult) (attemptNo : ℕ) :
    Accounts config ledger
      (applyOutcome config job deliveryId subscription outcome result attemptNo) := by
  refine accounts_now fun now => ?_
  have timed : ({ ledger with clock := some now } : Ledger).Trying subscription :=
    ⟨trying.active, trying.works, trying.snapshot, trying.status, trying.saved⟩
  have failed (status : WebhookDeliveryStatus) (fails : status ≠ .SUCCEEDED) :
      ({ ledger with clock := some now, status := some status } : Ledger).Failed subscription now :=
    ⟨trying.active, trying.works, rfl, trying.snapshot, status, rfl, fails⟩
  cases outcome with
  | SUCCESS =>
    exact updateStatus_accounts timed (recordSuccess_accounts trying.works trying.snapshot rfl)
  | DISABLE =>
    refine updateStatus_accounts timed ?_
    refine updateEntity_accounts (failed .FAILED nofun).own (fun base => ?_) fun base => ?_
    · exact .disables ((failed .FAILED nofun).read _ _)
    · exact accounts_free (notifyDisabled_free config _ _)
  | TERMINAL =>
    refine updateStatus_accounts timed ?_
    exact accounts_before (recordFailure_accounts (failed .FAILED nofun) trying.saved) fun _ => trivial
  | RETRY =>
    dsimp only
    split
    · refine updateStatus_accounts timed ?_
      exact accounts_before (recordFailure_accounts (failed .DEAD nofun) trying.saved) fun _ => trivial
    · refine updateStatus_accounts timed ?_
      refine accounts_before (recordFailure_accounts (failed .RETRYING nofun) trying.saved) fun _ => ?_
      exact .bind (asked_free _ trivial) fun _ => trivial

theorem deliver_accounts (trying : ledger.Trying subscription) (job : DeliveryJob)
    (deliveryId : Uuid) (attemptNo : ℕ) (rawBody : String) (headers : List (String × String)) :
    Accounts config ledger (deliver config job deliveryId attemptNo subscription rawBody headers) := by
  refine accounts_now fun startedAt => accounts_after (asked_quiet _ trivial) fun result => ?_
  refine accounts_now fun endedAt => accounts_after (asked_quiet _ trivial) fun _ => ?_
  refine accounts_after (asked_quiet _ trivial) fun _ => ?_
  apply applyOutcome_accounts
  exact ⟨trying.active, trying.works, trying.snapshot, trying.status, trying.saved⟩

theorem buildBody_quiet (event : OutboxEventEntity) : (buildBody config event).Calls Call.quiet := by
  refine .tryCatch (.bind (asked_quiet _ trivial) fun activity => ?_) fun _ => trivial
  split <;> trivial

theorem attempt_accounts (works : ledger.entry.works) (fresh : ledger.Fresh) (job : DeliveryJob)
    (delivery : WebhookDeliveryEntity) :
    Accounts config ledger (attempt config job delivery) := by
  refine .perform_bind (fun snapshot same => ?_) (fun found => ?_) fun _ => trivial
  · rw [fresh.snapshot] at same
    cases same
  · cases found with
    | none => exact accounts_free (fail_free _ _ _)
    | some subscription =>
      dsimp only
      split
      · exact accounts_free (fail_free _ _ _)
      · rename_i active
        refine accounts_after (asked_quiet _ trivial) fun found => ?_
        cases found with
        | none => exact accounts_free (fail_free _ _ _)
        | some event =>
          refine accounts_after (buildBody_quiet event) fun built => ?_
          cases built with
          | error message => exact accounts_free (fail_free _ _ _)
          | ok rawBody =>
            refine accounts_now fun now => ?_
            split
            · exact accounts_free (fail_free _ _ _)
            · apply deliver_accounts
              refine ⟨not_not.mp active, works, ?_, fresh.status, fresh.saved⟩
              simp [Ledger.next, fresh.snapshot, fresh.status]

theorem handleTest_accounts (fresh : ledger.snapshot = none) (subscriptionId webhookId : Uuid) :
    Accounts config ledger (handleTest config subscriptionId webhookId) := by
  refine .perform_bind (fun snapshot same => ?_) (fun found => ?_) fun _ => trivial
  · rw [fresh] at same
    cases same
  · cases found with
    | none => trivial
    | some subscription =>
      dsimp only
      split
      · trivial
      · refine accounts_now fun now => ?_
        split
        · trivial
        · exact accounts_free (.bind (asked_free _ trivial) fun _ => trivial)

theorem handle_accounts (works : ledger.entry.works) (fresh : ledger.Fresh) (job : DeliveryJob)
    (webhookId : Uuid) :
    Accounts config ledger (handle config job webhookId) := by
  unfold handle
  split
  · exact handleTest_accounts fresh.snapshot _ webhookId
  · refine .perform_bind trivial (fun found => ?_) fun _ => trivial
    cases found with
    | none => trivial
    | some delivery =>
      apply attempt_accounts
      · exact works
      · exact ⟨fresh.snapshot, fresh.status, fresh.saved⟩

theorem work_accounts (works : ledger.entry.works) (fresh : ledger.Fresh) (jobId : String)
    (webhookId : Uuid) :
    Accounts config ledger (work config jobId webhookId) := by
  refine accounts_after (asked_quiet _ trivial) fun taken => ?_
  rcases taken with - | ⟨job, token⟩
  · trivial
  · refine .tryCatch ((accounts_before (handle_accounts works fresh job webhookId)
      fun _ => asked_free (.moveToCompleted jobId token) trivial).mono fun result ledger _ => ?_)
    cases result with
    | ok value => trivial
    | error error => exact accounts_free (asked_free _ trivial)

/-! ## The other requests -/

theorem assertCanManage_quiet (bondId : Uuid) (user : AuthUser) :
    (assertCanManage bondId user).Calls Call.quiet := by
  unfold assertCanManage
  split
  · trivial
  · refine .bind (asked_quiet _ trivial) fun isMember => ?_
    split <;> trivial

theorem computed_quiet (value : Except Exception α) : (computed value).Calls Call.quiet := by
  cases value <;> trivial

/-- The subscription of the path is read, and the request goes by it. -/
theorem findInBond_accounts {rest : WebhookSubscriptionEntity → Request α} {bondId id : Uuid}
    (fresh : ledger.snapshot = none)
    (more : ∀ entity, Accounts config (ledger.next (.findSubscription id) (.ok (some entity)))
      (rest entity)) :
    Accounts config ledger ((findInBond bondId id).bind rest) := by
  refine .bind (.perform_bind (fun snapshot same => ?_) (fun found => ?_) fun _ => trivial)
  · rw [fresh] at same
    cases same
  · cases found with
    | none => trivial
    | some entity =>
      dsimp only
      split
      · trivial
      · exact more entity

theorem replaceJob_free (eventId subscriptionId : Uuid) :
    (replaceJob eventId subscriptionId).Calls Call.free := by
  refine .bind (asked_free _ trivial) fun found => ?_
  cases found with
  | none => exact asked_free _ trivial
  | some existing =>
    exact .bind (.tryCatch (asked_free _ trivial) fun _ => trivial) fun _ => asked_free _ trivial

theorem resetAndEnqueue_free (delivery : WebhookDeliveryEntity) :
    (resetAndEnqueue delivery).Calls Call.free :=
  .bind (asked_free _ (by nofun)) fun _ => replaceJob_free _ _

theorem resetAll_free (deliveries : List WebhookDeliveryEntity) :
    (resetAll deliveries).Calls Call.free := by
  induction deliveries with
  | nil => trivial
  | cons delivery rest ih => exact .bind (resetAndEnqueue_free delivery) fun _ => ih

theorem replayDelivery_accounts (fresh : ledger.snapshot = none) (deliveryId : Uuid)
    (user : AuthUser) : Accounts config ledger (replayDelivery deliveryId user) := by
  refine accounts_after (asked_quiet _ trivial) fun found => ?_
  cases found with
  | none => trivial
  | some delivery =>
    refine .perform_bind (fun snapshot same => ?_) (fun found => ?_) fun _ => trivial
    · rw [fresh] at same
      cases same
    · cases found with
      | none => trivial
      | some subscription =>
        refine accounts_after (assertCanManage_quiet _ user) fun _ => ?_
        exact accounts_free (.bind (resetAndEnqueue_free delivery) fun _ => asked_free _ trivial)

theorem replayDead_accounts (fresh : ledger.snapshot = none) (bondId subscriptionId : Uuid)
    (user : AuthUser) : Accounts config ledger (replayDead bondId subscriptionId user) := by
  refine accounts_after (assertCanManage_quiet bondId user) fun _ => ?_
  refine findInBond_accounts fresh fun entity => accounts_after (asked_quiet _ trivial) fun dead => ?_
  refine accounts_free (.bind (resetAll_free dead) fun _ => ?_)
  split
  · trivial
  · exact .bind (asked_free _ trivial) fun _ => trivial

theorem test_accounts (fresh : ledger.snapshot = none) (bondId id : Uuid) (user : AuthUser) :
    Accounts config ledger (test bondId id user) := by
  refine accounts_after (assertCanManage_quiet bondId user) fun _ => ?_
  exact findInBond_accounts fresh fun entity => accounts_now fun now => accounts_free (asked_free _ trivial)

theorem create_accounts {bondId : Uuid} {dto : CreateWebhookSubscriptionDto} {user : AuthUser}
    {drawn : Drawn} (entry : ledger.entry = .create bondId dto user drawn) :
    Accounts config ledger (create config bondId dto user drawn) := by
  refine accounts_after (assertCanManage_quiet bondId user) fun _ => ?_
  refine accounts_after (computed_quiet _) fun _ => accounts_after (computed_quiet _) fun types => ?_
  refine accounts_after (asked_quiet _ trivial) fun count => ?_
  dsimp only
  split
  · trivial
  · cases encrypted : config.encrypt drawn.iv drawn.secret with
    | error error => trivial
    | ok secretEncrypted =>
      refine .perform_bind ⟨⟨bondId, dto, user, drawn, entry, encrypted⟩, rfl, rfl⟩ (fun entity => ?_)
        fun _ => trivial
      exact accounts_free (.bind (asked_free _ trivial) fun _ => trivial)

theorem update_accounts {bondId id : Uuid} {dto : UpdateWebhookSubscriptionDto} {user : AuthUser}
    (entry : ledger.entry = .update bondId id dto user) (fresh : ledger.snapshot = none) :
    Accounts config ledger (update config bondId id dto user) := by
  refine accounts_after (assertCanManage_quiet bondId user) fun _ => ?_
  refine findInBond_accounts fresh fun entity => accounts_after (computed_quiet _) fun patch => ?_
  refine .bind (.perform_bind (fun _ _ => .inr rfl) (fun found => ?_) fun _ => trivial)
  cases found with
  | none => trivial
  | some base =>
    refine .perform_bind ⟨base, rfl, .updates entry⟩ (fun _ => ?_) fun _ => trivial
    exact accounts_free (.bind (asked_free _ trivial) fun _ => trivial)

theorem remove_accounts (fresh : ledger.snapshot = none) (bondId id : Uuid) (user : AuthUser) :
    Accounts config ledger (remove bondId id user) := by
  refine accounts_after (assertCanManage_quiet bondId user) fun _ => ?_
  refine findInBond_accounts fresh fun entity => ?_
  refine .perform_bind (fun _ _ => .inr rfl) (fun found => ?_) fun _ => trivial
  cases found with
  | none => trivial
  | some _ =>
    exact accounts_free
      (.bind (asked_free _ trivial) fun _ => .bind (asked_free _ trivial) fun _ => trivial)

theorem rotateSecret_accounts {bondId id : Uuid} {user : AuthUser} {drawn : Drawn}
    (entry : ledger.entry = .rotateSecret bondId id user drawn) (fresh : ledger.Fresh) :
    Accounts config ledger (rotateSecret config bondId id user drawn) := by
  refine accounts_after (assertCanManage_quiet bondId user) fun _ => ?_
  refine findInBond_accounts fresh.snapshot fun entity => accounts_now fun now => ?_
  cases encrypted : config.encrypt drawn.iv drawn.secret with
  | error error => trivial
  | ok secretEncrypted =>
    refine updateEntity_accounts (fun _ _ => .inr rfl) (fun base => ?_) fun base => ?_
    · refine .rotates entry rfl ?_ encrypted
      simp [Ledger.next, fresh.snapshot, fresh.status]
    · exact accounts_free (.bind (asked_free _ trivial) fun _ => trivial)

theorem retention_accounts (entry : ledger.entry = .retention) :
    Accounts config ledger (retention config) := by
  refine accounts_now fun now => accounts_after (asked_quiet _ trivial) fun purgedAttempts => ?_
  exact .perform_bind ⟨entry, now, rfl, rfl⟩ (fun _ => trivial) fun _ => trivial

theorem accounts_periodic {first : Request α} (accounted : Accounts config ledger first) :
    Accounts config ledger (periodic first) := by
  have answered : Accounts config ledger (first.bind fun _ => .ret Reply.nothing) :=
    accounts_before accounted fun _ => trivial
  refine .tryCatch (answered.mono fun result ledger _ => ?_)
  cases result <;> trivial

theorem reconcile_free : reconcile.Calls Call.free := by
  refine .bind (asked_free _ trivial) fun now => ?_
  refine .bind (relay_relays.mono fun _ => free_of_relays) fun dispatchedOutbox => ?_
  refine .bind (asked_free _ trivial) fun candidates => ?_
  exact .bind ((reenqueue_relays candidates).mono fun _ => free_of_relays) fun _ => trivial

/-- Every request keeps its ledger, from an empty one on. -/
theorem handler_accounts (config : Config) (entry : Entry) :
    Accounts config entry.ledger (handler config entry) := by
  cases entry with
  | work jobId webhookId => exact accounts_before (work_accounts rfl ⟨rfl, rfl, rfl⟩ jobId webhookId) fun _ => trivial
  | poll => exact accounts_periodic (accounts_free (relay_relays.mono fun _ => free_of_relays))
  | reconcile => exact accounts_periodic (accounts_free reconcile_free)
  | retention => exact accounts_periodic (retention_accounts rfl)
  | replayDelivery deliveryId user =>
    exact accounts_before (replayDelivery_accounts rfl deliveryId user) fun _ => trivial
  | replayDead bondId subscriptionId user =>
    exact accounts_before (replayDead_accounts rfl bondId subscriptionId user) fun _ => trivial
  | test bondId id user => exact accounts_before (test_accounts rfl bondId id user) fun _ => trivial
  | create bondId dto user drawn => exact create_accounts rfl
  | update bondId id dto user => exact update_accounts rfl rfl
  | remove bondId id user => exact remove_accounts rfl bondId id user
  | rotateSecret bondId id user drawn => exact rotateSecret_accounts rfl ⟨rfl, rfl, rfl⟩

/-! ## The ledgers of a run -/

variable {allowed : Interleaving.Config (webhooks config) → Move (webhooks config) → Prop}
  {cfg : Interleaving.Config (webhooks config)} {move : Move (webhooks config)}

/-- What a thread has read and written. -/
def ledgerOf (thread : Thread (webhooks config)) : Ledger :=
  (accounts config).reached thread.entry.ledger thread.past

theorem ledgerOf_after (thread : Thread (webhooks config)) (event : Event (webhooks config))
    (rest : Request Reply) :
    ledgerOf (thread.after event rest) = (ledgerOf thread).next event.query event.answer := rfl

theorem Ledger.next_entry (ledger : Ledger) (query : Call)
    (answer : Except Exception (interface.Answer query)) : (ledger.next query answer).entry = ledger.entry := by
  unfold Ledger.next
  split <;> rfl

theorem ledgerOf_entry (thread : Thread (webhooks config)) : (ledgerOf thread).entry = thread.entry := by
  obtain ⟨entry, past, rest⟩ := thread
  induction past with
  | nil => rfl
  | cons event past ih => exact (Ledger.next_entry _ _ _).trans ih

/-- What a thread does next, its ledger permits. -/
theorem permitted_of_acts (run : Run (webhooks config) allowed cfg) {thread : Thread (webhooks config)}
    {event : Event (webhooks config)} {rest : Request Reply}
    (acts : cfg.acts move = some (thread, event, rest)) : (ledgerOf thread).permits config event.query :=
  ((run.follows (handler_accounts config) thread (acts_cases acts).1).act acts).1

theorem clock_served (query : Call) (world : World) : (serve query world).2.clock = world.clock := by
  cases query with
  | updateStatus id patch =>
    simp only [serve, World.updateStatus]
    split
    · rfl
    · split <;> rfl
  | insertAttempt input =>
    simp only [serve, World.insertAttempt]
    split <;> rfl
  | createSubscription entity =>
    simp only [serve, World.createSubscription]
    split <;> rfl
  | dispatch event subscriptionIds =>
    simp only [serve, World.dispatch]
    split <;> rfl
  | removeJob | updateData | moveToCompleted | moveToFailed =>
    simp only [serve, World.queued]
    split <;> rfl
  | _ => rfl

theorem clock_nudged (how : Nudge) (world : World) : world.clock ≤ (nudge how world).clock := by
  cases how with
  | tick ms => exact Int.le_add_of_nonneg_right (Int.natCast_nonneg ms)
  | _ => exact le_rfl

/-- The clock of a ledger is read, or as it was. -/
theorem clock_next {world after : World} {answer : Except Exception (interface.Answer query)}
    {now : Instant} (answers : Answers (webhooks config) query world answer after)
    (read : (ledger.next query answer).clock = some now) :
    ledger.clock = some now ∨ query = .now ∧ now = world.clock := by
  cases query with
  | now =>
    rcases answers.elim with ⟨rfl, -⟩ | ⟨error, -, rfl, -⟩
    · exact .inr ⟨rfl, (Option.some.inj read).symm⟩
    · exact .inl read
  | _ =>
    left
    rw [← read]
    unfold Ledger.next
    split <;> first | rfl | contradiction

/-- The clock that was read last is not ahead. -/
theorem ledgerOf_clock (run : Run (webhooks config) allowed cfg) : ∀ thread ∈ cfg.threads,
    ∀ now, (ledgerOf thread).clock = some now → now ≤ cfg.world.clock := by
  refine Run.threads (fun world thread => ∀ now, (ledgerOf thread).clock = some now → now ≤ world.clock)
    ?_ ?_ ?_ ?_ run
  · rintro world entry now ⟨⟩
  · exact fun how world thread behind now read => (behind now read).trans (clock_nudged how world)
  · exact fun query world thread behind now read =>
      (behind now read).trans (clock_served query world).ge
  · intro thread query answer after rest world behind answers now read
    have still : world.clock ≤ after.clock := by
      rcases answers.elim with ⟨-, rfl⟩ | ⟨error, -, -, rfl⟩
      · exact (clock_served query world).ge
      · exact le_rfl
    rcases clock_next answers read with before | ⟨-, rfl⟩
    · exact (behind now before).trans still
    · exact still

end ParentalCoord.Webhooks

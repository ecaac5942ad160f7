import ParentalCoord.Interleaving.Discipline
import ParentalCoord.Webhooks.Subscriptions

/-!
How long a secret that was handed out signs.

There is one slot for a previous secret, and a rotation writes what it has read.  In the
runs where no rotation finds a previous secret that still signs, and no save writes over
a secret that it has not read (`Spares`), a secret signs until a rotation replaces it and
then until the instant that this rotation answers with.
-/

namespace ParentalCoord.Webhooks

open Interleaving Store

variable {config : Config} {cfg cfg' : Interleaving.Config (webhooks config)}
  {move : Move (webhooks config)} {id : Uuid} {row now : WebhookSubscriptionEntity}
  {encrypted : String} {until_ : Instant}
  {allowed : Interleaving.Config (webhooks config) → Move (webhooks config) → Prop}

/-- The columns of the secrets. -/
def WebhookSubscriptionEntity.secrets (row : WebhookSubscriptionEntity) :
    String × Option String × Option Instant :=
  (row.secretEncrypted, row.secretPrevEncrypted, row.secretPrevExpiresAt)

/-- The secret that a request makes up. -/
def Entry.drawn : Entry → Option Drawn
  | .create _ _ _ drawn => some drawn
  | .rotateSecret _ _ _ drawn => some drawn
  | _ => none

def Entry.rotates : Entry → Bool
  | .rotateSecret _ _ _ _ => true
  | _ => false

/-- The secret that a move stores, and for which subscription. -/
def storageOf (cfg : Interleaving.Config (webhooks config)) (move : Move (webhooks config)) :
    Option (Uuid × Drawn × String) :=
  match cfg.acts move with
  | some (thread, ⟨_, .saveSubscription entity, .ok _, _⟩, _) =>
      if thread.entry.rotates then
        thread.entry.drawn.map fun drawn => (entity.id, drawn, entity.secretEncrypted)
      else none
  | some (thread, ⟨_, .createSubscription _, .ok entity, _⟩, _) =>
      thread.entry.drawn.map fun drawn => (entity.id, drawn, entity.secretEncrypted)
  | _ => none

/-- The subscription whose secret a move replaces, and until when the old one is kept. -/
def rotationOf (cfg : Interleaving.Config (webhooks config)) (move : Move (webhooks config)) :
    Option (Uuid × Instant) :=
  match cfg.acts move with
  | some (thread, ⟨_, .saveSubscription entity, .ok _, _⟩, _) =>
      if thread.entry.rotates then entity.secretPrevExpiresAt.map fun until_ => (entity.id, until_)
      else none
  | _ => none

/-- A save finds the secrets as its request has read them; a rotation finds the secret that
it has read, and no previous one that still signs. -/
def sparesSecrets (cfg : Interleaving.Config (webhooks config)) (thread : Thread (webhooks config))
    (entity : WebhookSubscriptionEntity) : Bool :=
  (cfg.world.subscriptions.get entity.id).all fun row =>
    if thread.entry.rotates then
      (ledgerOf thread).snapshot.all (·.secretEncrypted = row.secretEncrypted) &&
        (row.secretPrevEncrypted.isNone || row.secretPrevExpiresAt.all (· ≤ cfg.world.clock))
    else (ledgerOf thread).base.all (·.secrets = row.secrets)

def Spares (cfg : Interleaving.Config (webhooks config)) (move : Move (webhooks config)) : Bool :=
  match cfg.acts move with
  | some (thread, ⟨_, .saveSubscription entity, .ok _, _⟩, _) => sparesSecrets cfg thread entity
  | _ => Serviced move

/-- The subscription is there, and the move does not replace its secret. -/
def Unrotated (id : Uuid) (cfg : Interleaving.Config (webhooks config))
    (move : Move (webhooks config)) : Bool :=
  (cfg.world.subscriptions.get id).isSome && (rotationOf cfg move).all (·.1 ≠ id)

/-- The secret was stored, and no rotation has replaced it. -/
def Standing (allowed : Interleaving.Config (webhooks config) → Move (webhooks config) → Prop)
    (id : Uuid) (encrypted : String) (cfg : Interleaving.Config (webhooks config)) : Prop :=
  ∃ before after move drawn, Run (webhooks config) allowed before ∧ allowed before move ∧
    storageOf before move = some (id, drawn, encrypted) ∧ advance move before = some after ∧
    Onward (webhooks config) (fun cfg move => allowed cfg move ∧ Unrotated id cfg move) after cfg

/-- A rotation has replaced the secret, which it keeps until an instant. -/
def Replaced (allowed : Interleaving.Config (webhooks config) → Move (webhooks config) → Prop)
    (id : Uuid) (encrypted : String) (until_ : Instant)
    (cfg : Interleaving.Config (webhooks config)) : Prop :=
  ∃ before after move, Standing allowed id encrypted before ∧ allowed before move ∧
    (before.world.subscriptions.get id).isSome ∧ rotationOf before move = some (id, until_) ∧
    advance move before = some after ∧
    Onward (webhooks config)
      (fun cfg move => allowed cfg move ∧ (cfg.world.subscriptions.get id).isSome) after cfg

/-- What a request answers with has been stored. -/
def Answered (config : Config) (entry : Entry) (past : List (Event (webhooks config)))
    (reply : Reply) : Prop :=
  match entry with
  | .create _ _ _ drawn => ∃ entity event response, event ∈ past ∧
      event.query = .createSubscription entity ∧ event.answer.isOk ∧
      config.encrypt drawn.iv drawn.secret = .ok entity.secretEncrypted ∧
      reply = .created response drawn.secret
  | .rotateSecret _ id _ drawn => ∃ entity event until_, event ∈ past ∧
      event.query = .saveSubscription entity ∧ event.answer.isOk ∧ entity.id = id ∧
      config.encrypt drawn.iv drawn.secret = .ok entity.secretEncrypted ∧
      entity.secretPrevExpiresAt = some until_ ∧
      reply = .rotated id drawn.secret (toISOString until_)
  | _ => True

/-- The delivery was read, then its subscription, and then the clock; the headers are signed
with the secrets of the subscription at that instant. -/
def Sealed (config : Config) (past : List (Event (webhooks config))) (delivery : Uuid)
    (rawBody : String) (headers : List (String × String)) : Prop :=
  ∃ fetched ∈ past, ∃ found ∈ fetched.before.deliveries.rows, ∃ seen ∈ past, ∃ dated ∈ past,
    ∃ row eventId, found.id = delivery ∧ found.subscriptionId = row.id ∧
      seen.before.subscriptions.get row.id = some row ∧
      seen.before.clock ≤ dated.before.clock ∧
      signedHeaders config row eventId dated.before.clock rawBody = .ok headers

/-- What is sent for a delivery is signed with the secrets of its subscription. -/
def Signed (config : Config) (past : List (Event (webhooks config)))
    (event : Event (webhooks config)) : Prop :=
  ∀ delivery url rawBody headers, event.query = .post (some delivery) url rawBody headers →
    Sealed config past delivery rawBody headers

/-- A secret that is handed out was stored; it signs until a rotation replaces it, and then
until the instant that the rotation answers with. -/
structure Honours (config : Config)
    (allowed : Interleaving.Config (webhooks config) → Move (webhooks config) → Prop) : Prop where
  stored : ∀ cfg, Run (webhooks config) allowed cfg → ∀ thread ∈ cfg.threads, ∀ reply,
    thread.rest = .ret reply → Answered config thread.entry thread.past reply
  signed : ∀ cfg move thread event rest, Run (webhooks config) allowed cfg → allowed cfg move →
    cfg.acts move = some (thread, event, rest) → Signed config thread.past event
  current : ∀ cfg id encrypted row now, Standing allowed id encrypted cfg →
    cfg.world.subscriptions.get id = some row → encrypted ∈ signingSecretsFor row now
  previous : ∀ cfg id encrypted until_ row now, Replaced allowed id encrypted until_ cfg →
    cfg.world.subscriptions.get id = some row → cfg.world.clock ≤ now → now < until_ →
    encrypted ∈ signingSecretsFor row now

/-! ## What is answered was stored, and what is sent is signed -/

/-- What a request answers with is looked up in its past, and so is what it signs with. -/
def disclosing (config : Config) : Discipline (webhooks config) where
  inv _ := True
  rely before after := before.clock ≤ after.clock
  guar _ past event := event.before.clock ≤ event.after.clock ∧ Signed config past event
  post entry result past := ∀ reply, result = .ok reply → Answered config entry past reply

/-- The calls that send nothing for a delivery. -/
def Call.mute : Call → Prop
  | .post (some _) _ _ _ => False
  | _ => True

theorem mute_of_aside {query : Call} (aside : query.aside) : query.mute := by
  unfold Call.mute
  split
  · exact aside.elim
  · trivial

section Disclosing

variable {entry : Entry} {past : List (Event (webhooks config))} {α β : Type}
  {post : Discipline.Post (webhooks config) α}

theorem clock_answered {query : Call} {before after : World}
    {answer : Except Exception (interface.Answer query)}
    (answers : Answers (webhooks config) query before answer after) : before.clock ≤ after.clock := by
  rcases answers.elim with ⟨-, rfl⟩ | ⟨error, -, -, rfl⟩
  · exact (clock_served query before).ge
  · exact le_rfl

theorem mute_guar {query : Call} {before after : World}
    {answer : Except Exception (interface.Answer query)} (mute : query.mute)
    (answers : Answers (webhooks config) query before answer after) :
    (disclosing config).guar entry past ⟨before, query, answer, after⟩ := by
  refine ⟨clock_answered answers, ?_⟩
  rintro delivery url rawBody headers (rfl : query = _)
  exact mute.elim

theorem keeps_mute {handler : Request α} (calls : handler.Calls Call.mute)
    (ends : ∀ result past, post result past) :
    (disclosing config).Keeps entry post handler past :=
  .of_calls calls (fun _ mute _ _ _ _ _ answers _ => ⟨mute_guar mute answers, trivial⟩)
    fun _ _ _ => ends _ _

theorem keeps_after {first : Request β} {rest : β → Request α} (calls : first.Calls Call.aside)
    (fails : ∀ error past, post (.error error) past)
    (more : ∀ value added, (disclosing config).Keeps entry post (rest value) (added ++ past)) :
    (disclosing config).Keeps entry post (first.bind rest) past := by
  refine .bind (.of_calls (calls.mono fun _ => mute_of_aside)
    (fun _ mute _ _ _ _ _ answers _ => ⟨mute_guar mute answers, trivial⟩) fun result added _ => ?_)
  cases result with
  | ok value => exact more value added
  | error error => exact fails error _

/-- A handler that throws has answered nothing. -/
theorem fails_answers (error : Exception) (past : List (Event (webhooks config))) (reply : Reply)
    (same : (.error error : Except Exception Reply) = .ok reply) : Answered config entry past reply := by
  cases same

theorem create_answers (bondId : Uuid) (dto : CreateWebhookSubscriptionDto) (user : AuthUser)
    (drawn : Drawn) : (disclosing config).Keeps entry
      (fun result past => ∀ reply, result = .ok reply →
        Answered config (.create bondId dto user drawn) past reply)
      (create config bondId dto user drawn) past := by
  refine keeps_after (aside_of_calls (assertCanManage_elsewhere bondId user)) fails_answers fun _ _ => ?_
  refine keeps_after (aside_of_calls (computed_elsewhere _)) fails_answers fun _ _ => ?_
  refine keeps_after (aside_of_calls (computed_elsewhere _)) fails_answers fun types _ => ?_
  refine keeps_after (asked_aside (.countByBond bondId) trivial) fails_answers fun count past => ?_
  dsimp only
  split
  · exact fails_answers _ _
  · cases encrypted : config.encrypt drawn.iv drawn.secret with
    | error error => exact fails_answers _ _
    | ok secretEncrypted =>
      refine .perform_bind fun before answer after _ _ answers _ =>
        ⟨mute_guar trivial answers, trivial, ?_⟩
      cases answer with
      | error error => exact fails_answers _ _
      | ok stored =>
        refine .perform_bind fun before' answer after' _ _ answers _ =>
          ⟨mute_guar trivial answers, trivial, ?_⟩
        cases answer with
        | error error => exact fails_answers _ _
        | ok _ =>
          rintro reply same
          cases same
          refine ⟨_, ⟨before, _, _, after⟩, _, List.mem_cons_of_mem _ List.mem_cons_self, rfl, rfl,
            ?_, rfl⟩
          exact encrypted

/-- The row that is saved is the one that was asked for. -/
theorem rotateSecret_answers (bondId id : Uuid) (user : AuthUser) (drawn : Drawn) :
    (disclosing config).Keeps entry
      (fun result past => ∀ reply, result = .ok reply →
        Answered config (.rotateSecret bondId id user drawn) past reply)
      (rotateSecret config bondId id user drawn) past := by
  refine keeps_after (aside_of_calls (assertCanManage_elsewhere bondId user)) fails_answers fun _ _ => ?_
  refine keeps_after (aside_of_calls (findInBond_elsewhere bondId id)) fails_answers fun entity _ => ?_
  refine keeps_after (asked_aside .now trivial) fails_answers fun now _ => ?_
  dsimp only
  cases encrypted : config.encrypt drawn.iv drawn.secret with
  | error error => exact fails_answers _ _
  | ok secretEncrypted =>
    simp only [computed, Handler.pure_eq, Handler.bind_eq, Handler.ret_bind]
    refine .bind ?_
    refine .perform_bind fun before found after _ _ answers _ => ?_
    refine ⟨mute_guar trivial answers, trivial, ?_⟩
    rcases found with error | - | current
    · exact fails_answers _ _
    · exact fails_answers _ _
    · have own : current.id = id := by
        rcases answers.elim with ⟨same, -⟩ | ⟨error, -, failed, -⟩
        · exact Table.key_of_get (Except.ok.inj same).symm
        · cases failed
      refine .perform fun before saved after _ _ answers _ => ⟨mute_guar trivial answers, trivial, ?_⟩
      cases saved with
      | error error => exact fails_answers _ _
      | ok _ =>
        refine .perform_bind fun before' answer after' _ _ answers _ =>
          ⟨mute_guar trivial answers, trivial, ?_⟩
        cases answer with
        | error error => exact fails_answers _ _
        | ok _ =>
          rintro reply same
          cases same
          refine ⟨_, ⟨before, _, _, after⟩, _, List.mem_cons_of_mem _ List.mem_cons_self, rfl, rfl,
            own, encrypted, rfl, rfl⟩

theorem asked_mute (query : Call) (mute : query.mute) : (perform query).Calls Call.mute :=
  Handler.calls_perform.mpr mute

theorem mute_of_calls {handler : Request α} (calls : handler.Calls Call.aside) :
    handler.Calls Call.mute := calls.mono fun _ => mute_of_aside

theorem fail_mute (deliveryId : Uuid) (attemptNo : ℕ) (error : String) :
    (fail deliveryId attemptNo error).Calls Call.mute :=
  .bind (asked_mute _ trivial) fun _ => asked_mute _ trivial

theorem applyOutcome_mute (job : DeliveryJob) (deliveryId : Uuid)
    (subscription : WebhookSubscriptionEntity) (outcome : DeliveryOutcome) (result : SsrfHttpResult)
    (attemptNo : ℕ) :
    (applyOutcome config job deliveryId subscription outcome result attemptNo).Calls Call.mute := by
  have failing (now : Instant) : (recordFailure config subscription now).Calls Call.mute :=
    mute_of_calls (recordFailure_aside config subscription now)
  refine .bind (asked_mute _ trivial) fun now => ?_
  cases outcome with
  | SUCCESS =>
    exact .bind (asked_mute _ trivial) fun _ => mute_of_calls (recordSuccess_aside subscription)
  | DISABLE =>
    refine .bind (asked_mute _ trivial) fun _ => .bind (mute_of_calls (updateEntity_aside _ _)) fun _ => ?_
    exact mute_of_calls (notifyDisabled_aside config subscription _)
  | TERMINAL => exact .bind (asked_mute _ trivial) fun _ => .bind (failing now) fun _ => trivial
  | RETRY =>
    dsimp only
    split
    · exact .bind (asked_mute _ trivial) fun _ => .bind (failing now) fun _ => trivial
    · refine .bind (asked_mute _ trivial) fun _ => .bind (failing now) fun _ => ?_
      exact .bind (asked_mute _ trivial) fun _ => trivial

theorem mute_of_replays {handler : Request α} (calls : handler.Calls Call.replays) :
    handler.Calls Call.mute := by
  refine calls.mono fun query replays => ?_
  rcases replays with aside | ⟨id, rfl⟩
  · exact mute_of_aside aside
  · trivial

theorem Sealed.later {delivery : Uuid} {rawBody : String} {headers : List (String × String)}
    (sealed : Sealed config past delivery rawBody headers) (added : List (Event (webhooks config))) :
    Sealed config (added ++ past) delivery rawBody headers := by
  obtain ⟨fetched, first, found, there, seen, second, dated, third, signed⟩ := sealed
  refine ⟨fetched, List.mem_append_right _ first, found, there, seen, List.mem_append_right _ second, ?_⟩
  exact ⟨dated, List.mem_append_right _ third, signed⟩

/-- A request that is signed goes out, and nothing is sent after it. -/
theorem deliver_signs (job : DeliveryJob) (delivery : Uuid) (attemptNo : ℕ)
    (subscription : WebhookSubscriptionEntity) {rawBody : String} {headers : List (String × String)}
    (sealed : Sealed config past delivery rawBody headers) :
    (disclosing config).Keeps entry (fun _ _ => True)
      (deliver config job delivery attemptNo subscription rawBody headers) past := by
  refine keeps_after (asked_aside .now trivial) (fun _ _ => trivial) fun startedAt added => ?_
  refine .perform_bind fun before answer after _ _ answers _ => ⟨⟨clock_answered answers, ?_⟩, trivial, ?_⟩
  · rintro _ _ _ _ same
    cases same
    exact sealed.later added
  · cases answer with
    | error error => trivial
    | ok result =>
      refine keeps_mute ?_ fun _ _ => trivial
      refine .bind (asked_mute _ trivial) fun endedAt => .bind (asked_mute _ trivial) fun _ => ?_
      refine .bind (asked_mute _ trivial) fun _ => ?_
      exact applyOutcome_mute job delivery subscription _ result attemptNo

theorem attempt_signs {job : DeliveryJob} {delivery : WebhookDeliveryEntity}
    {fetched : Event (webhooks config)} (member : fetched ∈ past)
    (listed : delivery ∈ fetched.before.deliveries.rows)
    (own : delivery.subscriptionId = job.data.subscriptionId) :
    (disclosing config).Keeps entry (fun _ _ => True) (attempt config job delivery) past := by
  have fails (error : String) (past : List (Event (webhooks config))) :
      (disclosing config).Keeps entry (fun _ _ => True)
        (fail delivery.id (delivery.attemptCount + 1) error) past :=
    keeps_mute (fail_mute _ _ _) fun _ _ => trivial
  refine .perform_bind fun read answer after _ _ answers _ => ⟨mute_guar trivial answers, trivial, ?_⟩
  rcases answer with error | - | subscription
  · trivial
  · exact fails _ _
  · obtain ⟨there, same⟩ : read.subscriptions.get subscription.id = some subscription ∧
        delivery.subscriptionId = subscription.id := by
      rcases answers.elim with ⟨same, -⟩ | ⟨error, -, failed, -⟩
      · have got : read.subscriptions.get job.data.subscriptionId = some subscription :=
          (Except.ok.inj same).symm
        rw [Table.key_of_get got]
        exact ⟨got, own⟩
      · cases failed
    dsimp only
    split
    · exact fails _ _
    · refine keeps_after (asked_aside (.findOutboxEvent _) trivial) (fun _ _ => trivial) fun found added => ?_
      cases found with
      | none => exact fails _ _
      | some event =>
        refine keeps_after (buildBody_aside config event) (fun _ _ => trivial) fun built more => ?_
        cases built with
        | error message => exact fails _ _
        | ok rawBody =>
          refine .perform_bind fun dated answer after' behind _ answers _ =>
            ⟨mute_guar trivial answers, trivial, ?_⟩
          cases answer with
          | error error => trivial
          | ok now =>
            have told : now = dated.clock := by
              rcases answers.elim with ⟨same, -⟩ | ⟨error, -, failed, -⟩
              · exact Except.ok.inj same
              · cases failed
            subst told
            dsimp only
            split
            · exact fails _ _
            · rename_i headers signed
              have kept (seen : Event (webhooks config)) : seen ∈ more ++ (added ++ seen :: past) := by
                simp
              obtain ⟨genuine, since⟩ := behind _ (kept _)
              refine deliver_signs job _ _ _ ⟨fetched, by simp [member], delivery, listed, _,
                List.mem_cons_of_mem _ (kept _), ⟨dated, _, _, after'⟩, List.mem_cons_self,
                subscription, event.id, rfl, same, there, (clock_answered genuine).trans since, signed⟩

theorem handle_signs (job : DeliveryJob) (webhookId : Uuid) :
    (disclosing config).Keeps entry (fun _ _ => True) (handle config job webhookId) past := by
  unfold handle
  split
  · exact keeps_mute (mute_of_calls (handleTest_aside config _ webhookId)) fun _ _ => trivial
  · refine .perform_bind fun before answer after _ _ answers _ => ⟨mute_guar trivial answers, trivial, ?_⟩
    rcases answer with error | - | delivery
    · trivial
    · trivial
    · rcases answers.elim with ⟨same, -⟩ | ⟨error, -, failed, -⟩
      · have listed : before.deliveries.rows.find? _ = some delivery := (Except.ok.inj same).symm
        have pair := List.find?_some listed
        rw [decide_eq_true_eq] at pair
        exact attempt_signs List.mem_cons_self (List.mem_of_find?_eq_some listed) pair.2
      · cases failed

theorem work_signs (jobId : String) (webhookId : Uuid) :
    (disclosing config).Keeps entry (fun _ _ => True) (work config jobId webhookId) past := by
  refine keeps_after (asked_aside (.takeJob jobId) trivial) (fun _ _ => trivial) fun taken added => ?_
  rcases taken with - | ⟨job, token⟩
  · trivial
  · have reported (query : Call) (mute : query.mute) (past : List (Event (webhooks config))) :
        (disclosing config).Keeps entry (fun _ _ => True) (perform query) past :=
      keeps_mute (asked_mute query mute) fun _ _ => trivial
    refine .tryCatch (.bind ((handle_signs job webhookId).mono fun result past _ => ?_))
    cases result with
    | ok value =>
      refine (reported (.moveToCompleted jobId token) trivial past).mono fun result past _ => ?_
      cases result with
      | ok value => trivial
      | error error => exact reported (.moveToFailed jobId token) trivial past
    | error error => exact reported (.moveToFailed jobId token) trivial past

/-- Every request answers and signs with what is in its past. -/
theorem handler_discloses (config : Config) (entry : Entry) :
    (disclosing config).Keeps entry ((disclosing config).post entry) (handler config entry) [] := by
  cases entry with
  | work jobId webhookId =>
    refine .bind ((work_signs jobId webhookId).mono fun result past _ => ?_)
    cases result <;> exact fun _ _ => trivial
  | poll =>
    exact keeps_mute (mute_of_calls (periodic_aside (aside_of_calls relay_elsewhere))) fun _ _ _ _ => trivial
  | reconcile =>
    exact keeps_mute (mute_of_calls (periodic_aside (aside_of_calls reconcile_elsewhere))) fun _ _ _ _ => trivial
  | retention =>
    exact keeps_mute (mute_of_calls (periodic_aside (aside_of_calls (retention_elsewhere config)))) fun _ _ _ _ => trivial
  | replayDelivery deliveryId user =>
    exact keeps_mute (.bind (mute_of_replays (replayDelivery_replays deliveryId user)) fun _ => trivial)
      fun _ _ _ _ => trivial
  | replayDead bondId subscriptionId user =>
    exact keeps_mute (.bind (mute_of_replays (replayDead_replays bondId subscriptionId user)) fun _ => trivial)
      fun _ _ _ _ => trivial
  | test bondId id user =>
    exact keeps_mute (.bind (mute_of_calls (aside_of_calls (test_elsewhere bondId id user))) fun _ => trivial)
      fun _ _ _ _ => trivial
  | create bondId dto user drawn => exact create_answers bondId dto user drawn
  | update bondId id dto user =>
    exact keeps_mute (mute_of_calls (aside_of_calls (update_elsewhere config bondId id dto user))) fun _ _ _ _ => trivial
  | remove bondId id user =>
    exact keeps_mute (mute_of_calls (aside_of_calls (remove_elsewhere bondId id user))) fun _ _ _ _ => trivial
  | rotateSecret bondId id user drawn => exact rotateSecret_answers bondId id user drawn

theorem disclosing_sound (config : Config) : (disclosing config).Sound where
  refl _ := le_rfl
  trans := le_trans
  start := trivial
  nudge how world _ := ⟨trivial, clock_nudged how world⟩
  guar_rely _ guaranteed := guaranteed.1
  handlers := handler_discloses config

end Disclosing

/-! ## The slot of the previous secret -/

/-- The move replaces the secret of a row, whose previous one does not sign any more. -/
structure Replaces (cfg : Interleaving.Config (webhooks config)) (move : Move (webhooks config))
    (row now : WebhookSubscriptionEntity) (until_ : Instant) : Prop where
  rotation : rotationOf cfg move = some (now.id, until_)
  previous : now.secretPrevEncrypted = some row.secretEncrypted
  expires : now.secretPrevExpiresAt = some until_
  spent : ∀ old expiresAt, row.secretPrevEncrypted = some old →
    row.secretPrevExpiresAt = some expiresAt → expiresAt ≤ cfg.world.clock

/-- Only a rotation saves other secrets than those that were read. -/
theorem Saves.secrets_eq {ledger : Ledger} {base entity : WebhookSubscriptionEntity}
    (saves : Saves config ledger base entity) (still : ledger.entry.rotates = false) :
    entity.secrets = base.secrets := by
  cases saves with
  | rotates entry => simp [entry, Entry.rotates] at still
  | _ => rfl

theorem Saves.rotated {ledger : Ledger} {base entity : WebhookSubscriptionEntity}
    (saves : Saves config ledger base entity) (rotates : ledger.entry.rotates = true) :
    ∃ snapshot until_, ledger.snapshot = some snapshot ∧
      entity.secretPrevEncrypted = some snapshot.secretEncrypted ∧
      entity.secretPrevExpiresAt = some until_ := by
  have working (works : ledger.entry.works = true) : False := by
    cases entered : ledger.entry <;> rw [entered] at works rotates <;> contradiction
  cases saves with
  | opens failed => exact (working failed.works).elim
  | closes works => exact (working works).elim
  | autoDisables failed => exact (working failed.works).elim
  | disables failed => exact (working failed.works).elim
  | updates entry => simp [entry, Entry.rotates] at rotates
  | rotates _ _ snapshot => exact ⟨_, _, snapshot, rfl, rfl⟩

theorem serviced_of_spares (spares : Spares cfg move) (still : cfg.acts move = none) :
    Serviced move := by
  simpa [Spares, still] using spares

/-- A save that spares the secrets. -/
theorem secrets_saved {thread : Thread (webhooks config)} {entity : WebhookSubscriptionEntity}
    (run : Run (webhooks config) allowed cfg) (saved : SavedBy cfg move thread entity)
    (spares : Spares cfg move) (found : cfg.world.subscriptions.get entity.id = some row) :
    (entity.secrets = row.secrets ∧ rotationOf cfg move = none) ∨
      ∃ until_, Replaces cfg move row entity until_ := by
  obtain ⟨before, after, rest, acts⟩ := saved
  obtain ⟨base, read, saves⟩ := permitted_of_acts run acts
  have spared : sparesSecrets cfg thread entity = true := by
    simpa only [Spares, acts] using spares
  simp only [sparesSecrets, found, Option.all_some] at spared
  cases rotates : thread.entry.rotates with
  | false =>
    simp only [rotates, Bool.false_eq_true, if_false, read, Option.all_some, decide_eq_true_eq] at spared
    refine .inl ⟨?_, by simp [rotationOf, acts, rotates]⟩
    rw [← spared]
    exact saves.secrets_eq (by rw [ledgerOf_entry, rotates])
  | true =>
    obtain ⟨snapshot, until_, known, previous, expires⟩ := saves.rotated (by rw [ledgerOf_entry, rotates])
    simp only [rotates, if_true, known, Option.all_some, Bool.and_eq_true, decide_eq_true_eq,
      Bool.or_eq_true] at spared
    obtain ⟨same, spent⟩ := spared
    refine .inr ⟨until_, ?_, same ▸ previous, expires, fun old expiresAt kept dated => ?_⟩
    · simp [rotationOf, acts, rotates, expires]
    · simpa [kept, dated] using spent

theorem saved_of_rotationOf (rotation : rotationOf cfg move = some (id, until_)) :
    ∃ thread entity, SavedBy cfg move thread entity ∧ entity.id = id := by
  unfold rotationOf at rotation
  split at rotation
  · rename_i acts
    split at rotation
    · obtain ⟨_, -, same⟩ := Option.map_eq_some_iff.mp rotation
      exact ⟨_, _, ⟨_, _, _, acts⟩, congrArg Prod.fst same⟩
    · cases rotation
  · cases rotation

/-- A move that spares the secrets leaves them alone, or replaces them in time. -/
theorem secrets_step (run : Run (webhooks config) allowed cfg) (spares : Spares cfg move)
    (moved : advance move cfg = some cfg') (found : cfg.world.subscriptions.get id = some row)
    (kept : cfg'.world.subscriptions.get id = some now) :
    (now.secrets = row.secrets ∧ ∀ until_, rotationOf cfg move ≠ some (id, until_)) ∨
      ∃ until_, Replaces cfg move row now until_ := by
  by_cases rotation : ∃ until_, rotationOf cfg move = some (id, until_)
  · obtain ⟨until_, rotation⟩ := rotation
    obtain ⟨thread, entity, saved, rfl⟩ := saved_of_rotationOf rotation
    rw [saved.get moved, Option.some.injEq] at kept
    subst kept
    rcases secrets_saved run saved spares found with ⟨-, still⟩ | replaces
    · rw [still] at rotation
      cases rotation
    · exact .inr replaces
  · have unrotated (until_ : Instant) : rotationOf cfg move ≠ some (id, until_) :=
      fun rotates => rotation ⟨until_, rotates⟩
    rcases subscription_moved (serviced_of_spares spares) moved kept with same |
      ⟨thread, saved, rfl⟩ | ⟨thread, -, rfl, free⟩
    · rw [found, Option.some.injEq] at same
      exact .inl ⟨by rw [same], unrotated⟩
    · exact (secrets_saved run saved spares found).imp_left fun unsaved => ⟨unsaved.1, unrotated⟩
    · rw [free] at found
      cases found

/-- What is stored is the secret of its row. -/
theorem stored_secret {drawn : Drawn} (storage : storageOf cfg move = some (id, drawn, encrypted))
    (moved : advance move cfg = some cfg') :
    ∃ row, cfg'.world.subscriptions.get id = some row ∧ row.secretEncrypted = encrypted := by
  unfold storageOf at storage
  split at storage
  · rename_i acts
    split at storage
    · obtain ⟨_, -, same⟩ := Option.map_eq_some_iff.mp storage
      cases same
      exact ⟨_, SavedBy.get ⟨_, _, _, acts⟩ moved, rfl⟩
    · cases storage
  · rename_i acts
    obtain ⟨_, -, same⟩ := Option.map_eq_some_iff.mp storage
    cases same
    exact ⟨_, CreatedBy.get ⟨_, _, _, _, acts⟩ moved, rfl⟩
  · cases storage

/-! ## The runs that spare the secrets -/

/-- The condition as one on moves. -/
def sparing (cfg : Interleaving.Config (webhooks config)) (move : Move (webhooks config)) : Prop :=
  Spares cfg move = true

theorem Standing.run (standing : Standing allowed id encrypted cfg) : Run (webhooks config) allowed cfg := by
  obtain ⟨before, after, move, drawn, run, permitted, -, moved, later⟩ := standing
  exact (run.step permitted moved).onward later fun _ _ both => both.1

/-- The secret that stands is the one of the row. -/
theorem Standing.secret (standing : Standing sparing id encrypted cfg)
    (found : cfg.world.subscriptions.get id = some row) : row.secretEncrypted = encrypted := by
  obtain ⟨before, after, move, drawn, run, permitted, storage, moved, later⟩ := standing
  have reached := run.step permitted moved
  induction later generalizing row with
  | here =>
    obtain ⟨stored, there, same⟩ := stored_secret storage moved
    rw [there, Option.some.injEq] at found
    rw [← found, same]
  | @step mid last move later both moved ih =>
    obtain ⟨spares, unrotated⟩ := both
    obtain ⟨there, unrotated⟩ := Bool.and_eq_true_iff.mp unrotated
    obtain ⟨old, there⟩ := Option.isSome_iff_exists.mp there
    rcases secrets_step (reached.onward later fun _ _ both => both.1) spares moved there found with
      ⟨same, -⟩ | ⟨until_, replaces⟩
    · rw [← ih there]
      exact congrArg Prod.fst same
    · rw [replaces.rotation, Table.key_of_get found] at unrotated
      simp at unrotated

/-- The secret that a rotation has replaced is the previous one, up to its instant. -/
theorem Replaced.slot (replaced : Replaced sparing id encrypted until_ cfg)
    (found : cfg.world.subscriptions.get id = some row) :
    (row.secretPrevEncrypted = some encrypted ∧ row.secretPrevExpiresAt = some until_) ∨
      until_ ≤ cfg.world.clock := by
  obtain ⟨before, after, move, standing, permitted, there, rotation, moved, later⟩ := replaced
  have reached := standing.run.step permitted moved
  induction later generalizing row with
  | here =>
    obtain ⟨old, there⟩ := Option.isSome_iff_exists.mp there
    rcases secrets_step standing.run permitted moved there found with ⟨-, unrotated⟩ | ⟨until', replaces⟩
    · exact absurd rotation (unrotated until_)
    · have same := replaces.rotation
      rw [rotation, Option.some.injEq, Prod.mk.injEq] at same
      refine .inl ⟨?_, ?_⟩
      · rw [replaces.previous, standing.secret there]
      · rw [replaces.expires, same.2]
  | @step mid last move later both moved ih =>
    obtain ⟨spares, there⟩ := both
    obtain ⟨old, there⟩ := Option.isSome_iff_exists.mp there
    have run := reached.onward later fun _ _ both => both.1
    have onward := run.relied (disclosing_sound config) (Discipline.supplies_of_assumes fun _ _ _ => trivial)
      (.step .here spares moved)
    rcases ih there with ⟨previous, expires⟩ | passed
    · rcases secrets_step run spares moved there found with ⟨same, -⟩ | ⟨until', replaces⟩
      · refine .inl ⟨?_, ?_⟩
        · rw [← previous]
          exact congrArg (·.2.1) same
        · rw [← expires]
          exact congrArg (·.2.2) same
      · exact .inr ((replaces.spent _ _ previous expires).trans onward)
    · exact .inr (passed.trans onward)

/-- **The rotation grace window.** In every run whose moves spare the secrets, a secret that
was handed out signs until it is replaced, and up to the instant that was answered then. -/
theorem sparing_honours (config : Config) : Honours config sparing where
  stored cfg run thread member reply ends := by
    have shown := (run.ended (disclosing_sound config)
      (Discipline.supplies_of_assumes fun _ _ _ => trivial) member).1 reply ends
    exact shown reply rfl
  signed cfg move thread event rest run permitted acts :=
    (run.guaranteed (disclosing_sound config) (Discipline.supplies_of_assumes fun _ _ _ => trivial)
      permitted acts).2
  current cfg id encrypted row now standing found := by
    rw [signingSecretsFor, standing.secret found]
    exact List.mem_append_right _ (List.mem_singleton_self _)
  previous cfg id encrypted until_ row now replaced found since within := by
    rcases replaced.slot found with ⟨previous, expires⟩ | past
    · simp [signingSecretsFor, previous, expires, within]
    · exact absurd within (not_lt.mpr (past.trans since))

/-! ## One rotation, and a second one within the window -/

def owner : AuthUser := ⟨"u1", true⟩

/-- A subscription is asked for, with the secret `first`; its storage is the next turn. -/
def asking : List (Move (webhooks defaults)) :=
  [.arrive (.create "b1" ⟨"https://receiver.example", none, none⟩ owner ⟨"first", ""⟩), .turn 0]

/-- The secret is rotated to `second`; the save is the next turn. -/
def rotatingOnce : List (Move (webhooks defaults)) :=
  [.turn 0, .arrive (.rotateSecret "b1" "" owner ⟨"second", ""⟩)] ++ List.replicate 3 (.turn 1)

/-- The replaced secret signs a second before its window is over. -/
theorem sparing_honours_rotated : ∃ (cfg : Interleaving.Config (webhooks defaults))
    (row : WebhookSubscriptionEntity), Replaced sparing "" "first" 86400000 cfg ∧
      cfg.world.subscriptions.get "" = some row ∧ cfg.world.clock ≤ 86399000 ∧
      "first" ∈ signingSecretsFor row 86399000 := by
  have played : (play (fun cfg move => Spares cfg move = true) asking ⟨(webhooks defaults).start, []⟩).any
      (fun asked => Spares asked (.turn 0) &&
        (storageOf asked (.turn 0)).any (fun stored => stored.1 = "" && stored.2.2 = "first") &&
        (advance (.turn 0) asked).any fun stored =>
          (play (fun cfg move => Spares cfg move = true ∧ Unrotated "" cfg move = true) rotatingOnce stored).any
            fun standing => rotationOf standing (.turn 1) = some ("", 86400000) && Spares standing (.turn 1) &&
              (standing.world.subscriptions.get "").isSome &&
              (advance (.turn 1) standing).any fun replaced =>
                (replaced.world.subscriptions.get "").isSome && replaced.world.clock = 0) = true := by
    decide +kernel
  obtain ⟨asked, first, shown⟩ := (Option.any_eq_true _ _).mp played
  simp only [Bool.and_eq_true] at shown
  obtain ⟨⟨permitted, storage⟩, shown⟩ := shown
  obtain ⟨⟨id, drawn, encrypted⟩, storage, same⟩ := (Option.any_eq_true _ _).mp storage
  obtain ⟨stored, storing, shown⟩ := (Option.any_eq_true _ _).mp shown
  obtain ⟨standing, second, shown⟩ := (Option.any_eq_true _ _).mp shown
  simp only [Bool.and_eq_true, decide_eq_true_eq] at same shown
  obtain ⟨rfl, rfl⟩ := same
  obtain ⟨⟨⟨rotation, spares⟩, there⟩, shown⟩ := shown
  obtain ⟨cfg, replacing, shown⟩ := (Option.any_eq_true _ _).mp shown
  simp only [Bool.and_eq_true, decide_eq_true_eq] at shown
  obtain ⟨row, found⟩ := Option.isSome_iff_exists.mp shown.1
  have today : cfg.world.clock ≤ 86399000 := shown.2.trans_le (by decide)
  have run : Run (webhooks defaults) sparing asked :=
    Run.start.onward (Onward.here.play first) fun _ _ permitted => permitted
  have meanwhile : Onward (webhooks defaults) (fun cfg move => Spares cfg move = true ∧ Unrotated "" cfg move = true)
      stored standing := Onward.here.play second
  have replaced : Replaced sparing "" "first" 86400000 cfg :=
    ⟨standing, cfg, .turn 1, ⟨asked, stored, .turn 0, drawn, run, permitted, storage, storing, meanwhile⟩,
      spares, there, rotation, replacing, .here⟩
  exact ⟨cfg, row, replaced, found, today,
    (sparing_honours defaults).previous cfg "" "first" 86400000 row 86399000 replaced found today (by decide)⟩

/-- The secret is rotated to `third`, on the same day. -/
def rotatingAgain : List (Move (webhooks defaults)) :=
  [.turn 1, .arrive (.rotateSecret "b1" "" owner ⟨"third", ""⟩)] ++ List.replicate 5 (.turn 2)

/-- The second of two rotations within the window cuts the window of the first one. -/
theorem window_cut : ¬Honours defaults fun _ move => Serviced move = true := by
  intro honours
  have played : (play (fun _ move => Serviced move = true) asking ⟨(webhooks defaults).start, []⟩).any
      (fun asked => (storageOf asked (.turn 0)).any (fun stored => stored.1 = "" && stored.2.2 = "first") &&
        (advance (.turn 0) asked).any fun stored =>
          (play (fun cfg move => Serviced move = true ∧ Unrotated "" cfg move = true) rotatingOnce stored).any
            fun standing => rotationOf standing (.turn 1) = some ("", 86400000) &&
              (standing.world.subscriptions.get "").isSome &&
              (advance (.turn 1) standing).any fun replaced =>
                (play (fun cfg move => Serviced move = true ∧
                    (cfg.world.subscriptions.get "").isSome = true) rotatingAgain replaced).any
                  fun cfg => (cfg.world.subscriptions.get "").any fun row =>
                    cfg.world.clock = 0 && !("first" ∈ signingSecretsFor row 0)) = true := by
    decide +kernel
  obtain ⟨asked, first, shown⟩ := (Option.any_eq_true _ _).mp played
  rw [Bool.and_eq_true] at shown
  obtain ⟨storage, shown⟩ := shown
  obtain ⟨⟨id, drawn, encrypted⟩, storage, same⟩ := (Option.any_eq_true _ _).mp storage
  obtain ⟨stored, storing, shown⟩ := (Option.any_eq_true _ _).mp shown
  obtain ⟨standing, second, shown⟩ := (Option.any_eq_true _ _).mp shown
  simp only [Bool.and_eq_true, decide_eq_true_eq] at same shown
  obtain ⟨rfl, rfl⟩ := same
  obtain ⟨⟨rotation, there⟩, shown⟩ := shown
  obtain ⟨replaced, replacing, shown⟩ := (Option.any_eq_true _ _).mp shown
  obtain ⟨cfg, third, shown⟩ := (Option.any_eq_true _ _).mp shown
  obtain ⟨row, found, shown⟩ := (Option.any_eq_true _ _).mp shown
  rw [Bool.and_eq_true, decide_eq_true_eq, Bool.not_eq_true', decide_eq_false_iff_not] at shown
  obtain ⟨today, forgotten⟩ := shown
  apply forgotten
  have run : Run (webhooks defaults) (fun _ move => Serviced move = true) asked :=
    Run.start.onward (Onward.here.play first) fun _ _ permitted => permitted
  refine honours.previous cfg "" "first" 86400000 row 0 ⟨standing, replaced, .turn 1, ?_, rfl, there,
    rotation, replacing, Onward.here.play third⟩ found today.le (by decide)
  exact ⟨asked, stored, .turn 0, drawn, run, rfl, storage, storing, Onward.here.play second⟩

end ParentalCoord.Webhooks

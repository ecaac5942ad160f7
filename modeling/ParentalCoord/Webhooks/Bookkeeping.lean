import ParentalCoord.Webhooks.Conduct

/-!
What an execution of a delivery keeps of itself.

The state of a retry is kept twice, in the row of the delivery and in its job, and each
is advanced by other calls.  The protocol says what an execution has come to know and
what it writes and reports of it.
-/

namespace ParentalCoord.Webhooks

open Interleaving Store

/-- The execution of a job: what it has been told and what it has written. -/
structure Execution where
  jobId : String
  job : DeliveryJob
  token : ℕ
  /-- What was found for the pair of the job. -/
  row : Option (Option WebhookDeliveryEntity) := none
  clock : Instant := 0
  result : Option SsrfHttpResult := none
  observed : Option DeliveryLogInput := none
  written : Option DeliveryStatusPatch := none
  stashed : Bool := false
  /-- A call has failed, or the subscription was not there. -/
  failed : Bool := false

namespace Execution

def next (x : Execution) : (query : Call) → Except Exception (interface.Answer query) → Execution
  | .now, .ok now => { x with clock := now }
  | .findByEventSub _ _, .ok found => { x with row := some found }
  | .findSubscription _, .ok none => { x with failed := true }
  | .post (some _) _ _ _, .ok result => { x with result := some result }
  | .recordAttempt input, .ok _ => { x with observed := some input }
  | .updateStatus _ patch, .ok _ => { x with written := some patch }
  | .updateData _ _, .ok _ => { x with stashed := true }
  | _, .error _ => { x with failed := true }
  | _, .ok _ => x

/-- The status and the date of a delivery follow from the answer of the endpoint, as what
was observed of it does. -/
structure Settles (x : Execution) (row : WebhookDeliveryEntity) (result : SsrfHttpResult)
    (patch : DeliveryStatusPatch) : Prop where
  observed : ∃ input, x.observed = some input ∧ input.attempt = row.attemptCount + 1 ∧
    input.status = patch.status
  status : patch.status = statusForAttempt (classify result.status result.networkError)
    (row.attemptCount + 1) (x.job.attempts.getD WEBHOOK_MAX_ATTEMPTS)
  due : patch.status = .RETRYING → patch.nextAttemptAt =
    some (some (x.clock + resolveBackoffMs (row.attemptCount + 1) result.retryAfterMs))

/-- The status of the delivery can be written: after its request, or because there is none
to make. -/
def Judges (x : Execution) (id : Uuid) (patch : DeliveryStatusPatch) : Prop :=
  x.written = none ∧ ∃ row, x.row = some (some row) ∧ row.id = id ∧
    patch.attemptCount = some (row.attemptCount + 1) ∧
    (x.result = none ∧ patch.status = .FAILED ∨
      ∃ result, x.result = some result ∧ x.Settles row result patch)

/-- The execution was carried out. -/
def Completes (x : Execution) : Prop :=
  x.job.data.test = true ∨ x.row = some none ∨
    ∃ patch, x.written = some patch ∧ patch.status.terminal = true

/-- The execution has thrown: it is to be retried, or something went wrong. -/
def Throws (x : Execution) : Prop :=
  x.failed = true ∨ ∃ patch, x.written = some patch ∧ patch.status = .RETRYING ∧ x.stashed = true

def permits (x : Execution) : Call → Prop
  | .now | .recordAttempt _ => x.written = none
  | .findByEventSub eventId subscriptionId => x.row = none ∧ x.job.data.test = false ∧
      eventId = x.job.data.eventId ∧ subscriptionId = x.job.data.subscriptionId
  | .post (some id) _ _ _ => x.result = none ∧ x.written = none ∧
      ∃ row, x.row = some (some row) ∧ row.id = id
  | .updateStatus id patch => x.Judges id patch
  | .updateData id data => id = x.job.id ∧ x.written.isSome ∧
      ∃ result, x.result = some result ∧ data = { x.job.data with retryAfterMs := result.retryAfterMs }
  | .moveToCompleted jobId token => jobId = x.jobId ∧ token = x.token ∧ x.Completes
  | .moveToFailed jobId token => jobId = x.jobId ∧ token = x.token ∧ x.Throws
  | .findSubscription _ | .saveSubscription _ | .findOutboxEvent _ | .findByIdIncludingDeleted _
  | .post none _ _ _ | .createNotification _ | .insertAttempt _ => True
  | _ => False

end Execution

/-- How far a request is with the job that it takes. -/
inductive Stage where
  | apart
  | idle (jobId : String)
  | busy (x : Execution)
  | finished

namespace Stage

/-- The report is behind it. -/
def finish : Stage → Stage
  | .busy _ => .finished
  | stage => stage

def next (stage : Stage) : (query : Call) → Except Exception (interface.Answer query) → Stage
  | .takeJob _, .ok (some (job, token)) =>
      match stage with
      | .idle jobId => .busy { jobId := jobId, job := job, token := token }
      | stage => stage
  | .moveToCompleted _ _, .ok _ => stage.finish
  | .moveToFailed _ _, .ok _ => stage.finish
  | query, answer =>
      match stage with
      | .busy x => .busy (x.next query answer)
      | stage => stage

def permits (stage : Stage) (query : Call) : Prop :=
  match stage with
  | .apart => query.resets
  | .idle jobId => query = .takeJob jobId
  | .busy x => x.permits query
  | .finished => False

end Stage

@[reducible] def bookkeeping : Protocol interface Exception where
  Phase := Stage
  permits := Stage.permits
  next := Stage.next

def Entry.stage : Entry → Stage
  | .work jobId _ => .idle jobId
  | _ => .apart

abbrev Books {α : Type} (post : Except Exception α → Stage → Prop) (stage : Stage)
    (handler : Request α) : Prop := bookkeeping.Follows post stage handler

section Books

variable {α β : Type} {x : Execution} {jobId : String} {token : ℕ} {config : Config} {id : Uuid}
  {row : WebhookDeliveryEntity} {result : SsrfHttpResult}

/-! ## What an execution does aside of its delivery -/

/-- The execution has at most failed. -/
def Aside (x : Execution) (result : Except Exception α) (stage : Stage) : Prop :=
  ∃ failed, stage = .busy { x with failed := failed } ∧ (result.isOk = false → failed = true)

theorem aside_ok (failed : Bool) (value : α) :
    Aside x (.ok value) (.busy { x with failed := failed }) :=
  ⟨failed, rfl, nofun⟩

theorem aside_failed (error : Exception) :
    Aside x (.error error : Except Exception α) (.busy { x with failed := true }) :=
  ⟨true, rfl, fun _ => rfl⟩

theorem aside_bind {first : Request β} {rest : β → Request α} (begins : Books (Aside x) (.busy x) first)
    (more : ∀ value failed, Books (Aside x) (.busy { x with failed := failed }) (rest value)) :
    Books (Aside x) (.busy x) (first.bind rest) := by
  refine .bind (begins.mono fun result stage aside => ?_)
  obtain ⟨failed, rfl, threw⟩ := aside
  cases result with
  | ok value => exact more value failed
  | error error => exact ⟨failed, rfl, fun _ => threw rfl⟩

theorem updateEntity_books (id : Uuid) (assign : WebhookSubscriptionEntity → WebhookSubscriptionEntity) :
    Books (Aside x) (.busy x) (updateEntity id assign) := by
  refine ⟨trivial, fun answer => ?_⟩
  rcases answer with error | _ | entity
  · exact aside_failed _
  · exact aside_failed _
  · refine ⟨trivial, fun answer => ?_⟩
    cases answer with
    | ok value => exact aside_ok x.failed _
    | error error => exact aside_failed _

theorem notifyDisabled_books (subscription : WebhookSubscriptionEntity) (reason : WebhookDisableReason) :
    Books (Aside x) (.busy x) (notifyDisabled config subscription reason) := by
  refine ⟨trivial, fun answer => ?_⟩
  cases answer with
  | ok value => exact aside_ok x.failed _
  | error error => exact aside_ok true _

theorem autoDisable_books (subscription : WebhookSubscriptionEntity) :
    Books (Aside x) (.busy x) (autoDisable config subscription) := by
  refine aside_bind (updateEntity_books _ _) fun _ failed => ?_
  exact aside_bind (notifyDisabled_books _ _) fun _ failed => aside_ok failed _

theorem recordFailure_books (subscription : WebhookSubscriptionEntity) (now : Instant) :
    Books (Aside x) (.busy x) (recordFailure config subscription now) := by
  unfold recordFailure
  split
  · exact aside_ok x.failed _
  · split
    · refine aside_bind (updateEntity_books _ _) fun _ failed => ?_
      split
      · exact aside_ok failed _
      · exact autoDisable_books subscription
    · dsimp only
      split
      · exact aside_ok x.failed _
      · exact autoDisable_books subscription

theorem recordSuccess_books (subscription : WebhookSubscriptionEntity) :
    Books (Aside x) (.busy x) (recordSuccess subscription) := by
  unfold recordSuccess
  split
  · exact aside_ok x.failed _
  · exact updateEntity_books _ _

/-! ## What an execution writes -/

/-- The report that is due after an execution. -/
def Handled (jobId : String) (token : ℕ) : Except Exception α → Stage → Prop
  | .ok _, stage => ∃ x, stage = .busy x ∧ x.jobId = jobId ∧ x.token = token ∧ x.Completes
  | .error _, stage => ∃ x, stage = .busy x ∧ x.jobId = jobId ∧ x.token = token ∧ x.Throws

theorem handled_failed {error : Exception} :
    Handled (α := α) x.jobId x.token (.error error) (.busy { x with failed := true }) :=
  ⟨_, rfl, rfl, rfl, .inl rfl⟩

/-- A finished delivery stays so, whatever is done aside of it. -/
theorem concluded_books {first : Request α} {patch : DeliveryStatusPatch}
    (begins : Books (Aside x) (.busy x) first) (written : x.written = some patch)
    (terminal : patch.status.terminal = true) :
    Books (Handled x.jobId x.token) (.busy x) first := by
  refine begins.mono fun result stage aside => ?_
  obtain ⟨failed, rfl, threw⟩ := aside
  cases result with
  | ok value => exact ⟨_, rfl, rfl, rfl, .inr (.inr ⟨patch, written, terminal⟩)⟩
  | error error => exact ⟨_, rfl, rfl, rfl, .inl (threw rfl)⟩

/-- The status is written, and what comes after it is aside of the delivery. -/
theorem conclude_books {patch : DeliveryStatusPatch} {rest : Unit → Request α}
    (judges : x.Judges id patch) (terminal : patch.status.terminal = true)
    (more : Books (Aside { x with written := some patch }) (.busy { x with written := some patch })
      (rest ())) :
    Books (Handled x.jobId x.token) (.busy x) ((updateStatus id patch).bind rest) := by
  refine .perform_bind judges (fun _ => ?_) fun _ => handled_failed
  exact concluded_books more rfl terminal

theorem fail_books (attemptNo : ℕ) (error : String) (read : x.row = some (some row))
    (number : attemptNo = row.attemptCount + 1) (unasked : x.result = none)
    (unwritten : x.written = none) :
    Books (Handled x.jobId x.token) (.busy x) (fail row.id attemptNo error) := by
  subst number
  refine .perform_bind unwritten (fun completedAt => ?_) fun _ => handled_failed
  have judges : Execution.Judges { x with clock := completedAt } row.id
      { status := .FAILED
        attemptCount := some (row.attemptCount + 1)
        nextAttemptAt := some none
        completedAt := some (some completedAt)
        lastError := some (some error) } :=
    ⟨unwritten, row, read, rfl, rfl, .inl ⟨unasked, rfl⟩⟩
  refine ⟨judges, fun answer => ?_⟩
  cases answer with
  | ok value => exact ⟨_, rfl, rfl, rfl, .inr (.inr ⟨_, rfl, rfl⟩)⟩
  | error error => exact handled_failed

theorem applyOutcome_books (subscription : WebhookSubscriptionEntity) (attemptNo : ℕ)
    (input : DeliveryLogInput) (read : x.row = some (some row))
    (number : attemptNo = row.attemptCount + 1)
    (asked : x.result = some result) (unwritten : x.written = none) (observed : x.observed = some input)
    (attempt : input.attempt = attemptNo)
    (status : input.status = statusForAttempt (classify result.status result.networkError) attemptNo
      (x.job.attempts.getD WEBHOOK_MAX_ATTEMPTS)) :
    Books (Handled x.jobId x.token) (.busy x) (applyOutcome config x.job row.id subscription
      (classify result.status result.networkError) result attemptNo) := by
  subst number
  refine .perform_bind unwritten (fun now => ?_) fun _ => handled_failed
  have judges (patch : DeliveryStatusPatch) (count : patch.attemptCount = some (row.attemptCount + 1))
      (settled : patch.status = input.status)
      (due : patch.status = .RETRYING → patch.nextAttemptAt =
        some (some (now + resolveBackoffMs (row.attemptCount + 1) result.retryAfterMs))) :
      Execution.Judges { x with clock := now } row.id patch :=
    ⟨unwritten, row, read, rfl, count, .inr ⟨result, asked,
      ⟨⟨input, observed, attempt, settled.symm⟩, settled.trans status, due⟩⟩⟩
  cases outcome : classify result.status result.networkError with
  | SUCCESS =>
    rw [outcome] at status
    exact conclude_books (judges _ rfl status.symm nofun) rfl (recordSuccess_books subscription)
  | DISABLE =>
    rw [outcome] at status
    refine conclude_books (judges _ rfl status.symm nofun) rfl ?_
    exact aside_bind (updateEntity_books _ _) fun _ failed => notifyDisabled_books _ _
  | TERMINAL =>
    rw [outcome] at status
    refine conclude_books (judges _ rfl status.symm nofun) rfl ?_
    exact aside_bind (recordFailure_books _ _) fun _ failed => aside_ok failed _
  | RETRY =>
    rw [outcome] at status
    dsimp only
    split
    · rename_i last
      rw [statusForAttempt, if_pos last] at status
      refine conclude_books (judges _ rfl status.symm nofun) rfl ?_
      exact aside_bind (recordFailure_books _ _) fun _ failed => aside_ok failed _
    · rename_i more
      rw [statusForAttempt, if_neg more] at status
      refine .perform_bind (judges _ rfl status.symm fun _ => rfl) (fun _ => ?_) fun _ => handled_failed
      refine .bind ((recordFailure_books subscription now).mono fun failure stage aside => ?_)
      obtain ⟨failed, rfl, threw⟩ := aside
      cases failure with
      | error error => exact ⟨_, rfl, rfl, rfl, .inl (threw rfl)⟩
      | ok value =>
        refine .perform_bind ⟨rfl, rfl, result, asked, rfl⟩ (fun _ => ?_) fun _ => handled_failed
        exact ⟨_, rfl, rfl, rfl, .inr ⟨_, rfl, rfl, rfl⟩⟩

theorem deliver_books (subscription : WebhookSubscriptionEntity) (attemptNo : ℕ) (rawBody : String)
    (headers : List (String × String)) (read : x.row = some (some row))
    (number : attemptNo = row.attemptCount + 1) (unasked : x.result = none)
    (unwritten : x.written = none) :
    Books (Handled x.jobId x.token) (.busy x)
      (deliver config x.job row.id attemptNo subscription rawBody headers) := by
  refine .perform_bind unwritten (fun startedAt => ?_) fun _ => handled_failed
  refine .perform_bind ⟨unasked, unwritten, row, read, rfl⟩ (fun result => ?_) fun _ => handled_failed
  refine .perform_bind unwritten (fun endedAt => ?_) fun _ => handled_failed
  refine .perform_bind trivial (fun _ => ?_) fun _ => handled_failed
  refine .perform_bind unwritten (fun _ => ?_) fun _ => handled_failed
  exact applyOutcome_books subscription attemptNo _ read number rfl unwritten rfl rfl rfl

/-- A body that cannot be built is a message, and the execution goes on. -/
theorem buildBody_books {event : OutboxEventEntity} {rest : Except String String → Request α}
    {post : Except Exception α → Stage → Prop}
    (more : ∀ body failed, Books post (.busy { x with failed := failed }) (rest body)) :
    Books post (.busy x) ((buildBody config event).bind rest) := by
  refine ⟨trivial, fun answer => ?_⟩
  cases answer with
  | error error => exact more _ true
  | ok activity =>
    cases built : buildWebhookPayload (payloadInput config.WEBHOOK_API_VERSION event activity) with
    | error error =>
      simpa [built, Handler.tryCatch, Handler.bind, Stage.next, Execution.next] using more _ x.failed
    | ok payload =>
      simpa [built, Handler.tryCatch, Handler.bind, Stage.next, Execution.next] using more _ x.failed

theorem attempt_books (read : x.row = some (some row)) (unasked : x.result = none)
    (unwritten : x.written = none) :
    Books (Handled x.jobId x.token) (.busy x) (attempt config x.job row) := by
  refine .perform_bind trivial (fun found => ?_) fun _ => handled_failed
  cases found with
  | none => exact fail_books (x := { x with failed := true }) _ _ read rfl unasked unwritten
  | some subscription =>
    dsimp only
    split
    · exact fail_books _ _ read rfl unasked unwritten
    · refine .perform_bind trivial (fun found => ?_) fun _ => handled_failed
      cases found with
      | none => exact fail_books _ _ read rfl unasked unwritten
      | some event =>
        refine buildBody_books fun body failed => ?_
        cases body with
        | error message =>
          exact fail_books (x := { x with failed := failed }) _ _ read rfl unasked unwritten
        | ok rawBody =>
          refine .perform_bind unwritten (fun now => ?_) fun _ => handled_failed
          dsimp only
          split
          · exact fail_books (x := { x with failed := failed, clock := now }) _ _ read rfl unasked
              unwritten
          · exact deliver_books (x := { x with failed := failed, clock := now }) subscription _ rawBody _
              read rfl unasked unwritten

/-- Pings are carried out unless a call fails. -/
theorem tested (test : x.job.data.test = true) (value : α) :
    Handled x.jobId x.token (.ok value) (.busy x) := ⟨x, rfl, rfl, rfl, .inl test⟩

theorem handleTest_books (test : x.job.data.test = true) (unwritten : x.written = none)
    (subscriptionId webhookId : Uuid) :
    Books (Handled x.jobId x.token) (.busy x) (handleTest config subscriptionId webhookId) := by
  refine .perform_bind trivial (fun found => ?_) fun _ => handled_failed
  cases found with
  | none => exact tested (x := { x with failed := true }) test ()
  | some subscription =>
    dsimp only
    split
    · exact tested test ()
    · refine .perform_bind unwritten (fun now => ?_) fun _ => handled_failed
      dsimp only
      split
      · exact tested (x := { x with clock := now }) test ()
      · refine .perform_bind trivial (fun _ => ?_) fun _ => handled_failed
        exact tested (x := { x with clock := now }) test ()

theorem handle_books (job : DeliveryJob) (webhookId : Uuid) :
    Books (Handled jobId token) (.busy { jobId := jobId, job := job, token := token })
      (handle config job webhookId) := by
  unfold handle
  split
  · rename_i test
    exact handleTest_books test rfl _ _
  · rename_i delivers
    refine .perform_bind ⟨rfl, Bool.eq_false_iff.mpr delivers, rfl, rfl⟩ (fun found => ?_)
      fun _ => handled_failed
    cases found with
    | none => exact ⟨_, rfl, rfl, rfl, .inr (.inl rfl)⟩
    | some row =>
      exact attempt_books (x := { jobId := jobId, job := job, token := token, row := some (some row) })
        rfl rfl rfl

/-- A request ends with its job reported, unless something has gone wrong. -/
def Reported (_ : Except Exception α) (stage : Stage) : Prop := ∀ x, stage = .busy x → x.failed = true

theorem reported_idle (result : Except Exception α) : Reported result (.idle jobId) := by
  intro x same
  cases same

theorem reported_apart (result : Except Exception α) : Reported result .apart := by
  intro x same
  cases same

theorem reported_finished (result : Except Exception α) : Reported result .finished := by
  intro x same
  cases same

theorem reported_failed (result : Except Exception α) : Reported result (.busy { x with failed := true }) := by
  intro y same
  cases same
  rfl

theorem work_books (jobId : String) (webhookId : Uuid) :
    Books Reported (.idle jobId) (work config jobId webhookId) := by
  refine .perform_bind rfl (fun taken => ?_) fun _ => reported_idle _
  rcases taken with - | ⟨job, token⟩
  · exact reported_idle _
  · refine .tryCatch (.bind ((handle_books job webhookId).mono fun result stage handled => ?_))
    cases result with
    | error error =>
      obtain ⟨x, rfl, rfl, rfl, throws⟩ := handled
      refine ⟨⟨rfl, rfl, throws⟩, fun answer => ?_⟩
      cases answer with
      | ok value => exact reported_finished _
      | error error => exact reported_failed _
    | ok value =>
      obtain ⟨x, rfl, rfl, rfl, completes⟩ := handled
      refine ⟨⟨rfl, rfl, completes⟩, fun answer => ?_⟩
      cases answer with
      | ok value => exact reported_finished (.ok value)
      | error error =>
        refine ⟨⟨rfl, rfl, .inl rfl⟩, fun answer => ?_⟩
        cases answer with
        | ok value => exact reported_finished _
        | error error => exact reported_failed _

/-! ## What other requests do -/

theorem apart_books {handler : Request α} (calls : handler.Calls Call.resets) :
    Books Reported .apart handler := by
  refine .of_calls calls (fun query resets => ⟨resets, fun answer => ?_⟩) reported_apart
  cases query with
  | takeJob => rcases answer with _ | _ | ⟨job, token⟩ <;> rfl
  | moveToCompleted => cases answer <;> rfl
  | moveToFailed => cases answer <;> rfl
  | _ => rfl

theorem periodic_resets {first : Request α} (calls : first.Calls Call.elsewhere) :
    (periodic first).Calls Call.resets :=
  resets_of_calls (.tryCatch (.bind calls fun _ => trivial) fun _ => trivial)

theorem answered_books {first : Request α} {stage : Stage} {answer : α → β}
    (books : Books Reported stage first) :
    Books Reported stage (first.bind fun value => .ret (answer value)) := by
  refine .bind (books.mono fun result stage reported => ?_)
  cases result <;> exact reported

theorem handler_books (entry : Entry) : Books Reported entry.stage (handler config entry) := by
  cases entry with
  | work jobId webhookId => exact answered_books (work_books jobId webhookId)
  | poll => exact apart_books (periodic_resets relay_elsewhere)
  | reconcile => exact apart_books (periodic_resets reconcile_elsewhere)
  | retention => exact apart_books (periodic_resets (retention_elsewhere config))
  | replayDelivery deliveryId user =>
    exact answered_books (apart_books (replayDelivery_resets deliveryId user))
  | replayDead bondId subscriptionId user =>
    exact answered_books (apart_books (replayDead_resets bondId subscriptionId user))
  | test bondId id user =>
    exact answered_books (apart_books (resets_of_calls (test_elsewhere bondId id user)))
  | create bondId dto user drawn =>
    exact apart_books (resets_of_calls (create_elsewhere config bondId dto user drawn))
  | update bondId id dto user =>
    exact apart_books (resets_of_calls (update_elsewhere config bondId id dto user))
  | remove bondId id user => exact apart_books (resets_of_calls (remove_elsewhere bondId id user))
  | rotateSecret bondId id user drawn =>
    exact apart_books (resets_of_calls (rotateSecret_elsewhere config bondId id user drawn))

end Books

end ParentalCoord.Webhooks

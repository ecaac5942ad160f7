import ParentalCoord.Interleaving.Chronicle
import ParentalCoord.Webhooks.Subscriptions

/-!
When a subscription is disabled for its failures.

The streak of failures is one column, which an attempt opens, clears and judges by the
row that it has read before its request.  In the runs where no move comes between what
an attempt has read and what it writes (`UnracedWrites`), a subscription is disabled only after
days without a success, all of which it was active.
-/

namespace ParentalCoord.Webhooks

open Interleaving Store

variable {config : Config} {cfg cfg' : Interleaving.Config (webhooks config)}
  {move : Move (webhooks config)} {id : Uuid} {thread : Thread (webhooks config)}
  {since now : Instant}
  {allowed : Interleaving.Config (webhooks config) → Move (webhooks config) → Prop}

/-! ## What happens to a subscription -/

def active (id : Uuid) (cfg : Interleaving.Config (webhooks config)) : Bool :=
  (cfg.world.subscriptions.get id).any (·.status = .ACTIVE)

/-- The start of its streak, as the row has it. -/
def streakOf (id : Uuid) (cfg : Interleaving.Config (webhooks config)) : Option Instant :=
  (cfg.world.subscriptions.get id).bind (·.consecutiveFailureSince)

/-- The subscription that an attempt goes by, when a move writes its success. -/
def successOf (cfg : Interleaving.Config (webhooks config)) (move : Move (webhooks config)) :
    Option Uuid :=
  match cfg.acts move with
  | some (thread, ⟨_, .updateStatus _ patch, .ok _, _⟩, _) =>
      if patch.status = .SUCCEEDED then (ledgerOf thread).snapshot.map (·.id) else none
  | _ => none

/-- An attempt that has failed at an instant opens a streak. -/
def Records (cfg : Interleaving.Config (webhooks config)) (move : Move (webhooks config)) (id : Uuid)
    (now : Instant) : Prop :=
  ∃ thread entity snapshot, SavedBy cfg move thread entity ∧ entity.id = id ∧
    entity.consecutiveFailureSince = some now ∧ (ledgerOf thread).Failed snapshot now

/-- The save of `recordFailure` that disables. -/
def autoDisabling (thread : Thread (webhooks config)) (entity : WebhookSubscriptionEntity) : Bool :=
  thread.entry.works && (ledgerOf thread).status ≠ some .SUCCEEDED &&
    entity.status = .AUTO_DISABLED && entity.consecutiveFailureSince = none

/-- The subscription that a move sets `AUTO_DISABLED`, and the instant that the attempt has
read for it. -/
def autoDisabled (cfg : Interleaving.Config (webhooks config)) (move : Move (webhooks config)) :
    Option (Uuid × Instant) :=
  match cfg.acts move with
  | some (thread, ⟨_, .saveSubscription entity, .ok _, _⟩, _) =>
      if autoDisabling thread entity then
        (ledgerOf thread).clock.map fun now => (entity.id, now)
      else none
  | _ => none

/-- The subscription is active, and the move is no success. -/
def Calm (id : Uuid) (cfg : Interleaving.Config (webhooks config)) (move : Move (webhooks config)) :
    Prop := active id cfg ∧ successOf cfg move ≠ some id

/-- Since an instant the subscription has been active, without a success. -/
inductive Lull (id : Uuid) (since : Instant) :
    List (Moment (webhooks config)) → Interleaving.Config (webhooks config) → Prop where
  | here {moments : List (Moment (webhooks config))} {cfg : Interleaving.Config (webhooks config)} :
      cfg.world.clock = since → Lull id since moments cfg
  | step {moments : List (Moment (webhooks config))} {cfg cfg' : Interleaving.Config (webhooks config)}
      {move : Move (webhooks config)} :
      Lull id since moments cfg → Calm id cfg move → Lull id since ((cfg, move) :: moments) cfg'

/-- The same, and a failure of that instant was recorded in the meantime. -/
inductive Streak (id : Uuid) (since : Instant) : List (Moment (webhooks config)) → Prop where
  | opened {moments : List (Moment (webhooks config))} {cfg : Interleaving.Config (webhooks config)}
      {move : Move (webhooks config)} :
      Lull id since moments cfg → Calm id cfg move → Records cfg move id since →
      Streak id since ((cfg, move) :: moments)
  | step {moments : List (Moment (webhooks config))} {cfg : Interleaving.Config (webhooks config)}
      {move : Move (webhooks config)} :
      Streak id since moments → Calm id cfg move → Streak id since ((cfg, move) :: moments)

/-- From an instant to another, up to what has happened after that. -/
def Failing (id : Uuid) (since now : Instant) (moments : List (Moment (webhooks config))) : Prop :=
  ∃ newer older, moments = newer ++ older ∧ (∀ moment ∈ newer, now ≤ moment.1.world.clock) ∧
    Streak id since older

/-- A subscription is disabled for its failures only after days of failure. -/
def FailsFirst (config : Config)
    (allowed : Interleaving.Config (webhooks config) → Move (webhooks config) → Prop) : Prop :=
  ∀ moments cfg move id now, Chronicle (webhooks config) allowed moments cfg → allowed cfg move →
    autoDisabled cfg move = some (id, now) →
    ∃ since, since ≤ now - disableAfter config ∧ Failing id since now moments

/-! ## The moves that come between -/

/-- What the thread does next is to write the failure of an attempt. -/
def failsNext (thread : Thread (webhooks config)) : Bool :=
  match thread.rest with
  | .call (.updateStatus _ patch) _ => patch.status ≠ .SUCCEEDED
  | _ => false

/-- The attempt has read no streak, and is about to open one: it has failed, at the instant
that it has read last. -/
def recording (id : Uuid) (thread : Thread (webhooks config)) : Bool :=
  let ledger := ledgerOf thread
  thread.entry.works && ledger.saved.isNone &&
    ledger.snapshot.any (fun snapshot =>
      snapshot.id = id && snapshot.consecutiveFailureSince.isNone) &&
    match ledger.status with
    | some status => status ≠ .SUCCEEDED
    | none => failsNext thread

/-- The attempt has succeeded, and has not cleared the streak that it has read. -/
def clearing (id : Uuid) (thread : Thread (webhooks config)) : Bool :=
  let ledger := ledgerOf thread
  thread.entry.works && ledger.saved.isNone && ledger.status = some .SUCCEEDED &&
    ledger.snapshot.any (fun snapshot =>
      snapshot.id = id && snapshot.consecutiveFailureSince.isSome)

/-- The streak that an attempt goes by: the one that it has read, or else opened. -/
def Ledger.streak (ledger : Ledger) : Option Instant :=
  (ledger.snapshot.bind (·.consecutiveFailureSince)).or
    (ledger.saved.bind (·.consecutiveFailureSince))

/-- A subscription becomes active without a streak, and while no failure is recorded. -/
def reopens (cfg : Interleaving.Config (webhooks config)) (entity : WebhookSubscriptionEntity) :
    Bool :=
  active entity.id cfg || entity.status ≠ .ACTIVE ||
    entity.consecutiveFailureSince.isNone && cfg.threads.all (!recording entity.id ·)

/-- A save finds the status and the streak as its request has read them, and one that disables
the subscription finds it active, with the streak that the attempt goes by, and that no
success is to clear. -/
def unracedSave (cfg : Interleaving.Config (webhooks config)) (thread : Thread (webhooks config))
    (entity : WebhookSubscriptionEntity) : Bool :=
  (cfg.world.subscriptions.get entity.id).all (fun row =>
    (ledgerOf thread).base.all fun base => base.status = row.status &&
      base.consecutiveFailureSince = row.consecutiveFailureSince) &&
  reopens cfg entity &&
  (!autoDisabling thread entity || active entity.id cfg &&
    streakOf entity.id cfg = (ledgerOf thread).streak && cfg.threads.all (!clearing entity.id ·))

/-- A success finds no streak that its attempt has not read, and no failure being recorded. -/
def unracedSuccess (cfg : Interleaving.Config (webhooks config)) (thread : Thread (webhooks config)) :
    Bool :=
  (ledgerOf thread).snapshot.all fun snapshot =>
    ((streakOf snapshot.id cfg).isNone || snapshot.consecutiveFailureSince.isSome) &&
      cfg.threads.all (!recording snapshot.id ·)

/-- No move comes between what an attempt, or another request, has read and what it writes. -/
def UnracedWrites (cfg : Interleaving.Config (webhooks config)) (move : Move (webhooks config)) : Bool :=
  match cfg.acts move with
  | some (thread, ⟨_, .saveSubscription entity, .ok _, _⟩, _) => unracedSave cfg thread entity
  | some (_, ⟨_, .createSubscription _, .ok entity, _⟩, _) => reopens cfg entity
  | some (thread, ⟨_, .updateStatus _ patch, .ok _, _⟩, _) =>
      patch.status ≠ .SUCCEEDED || unracedSuccess cfg thread
  | _ =>
    match move with
    | .crash index => (cfg.threads[index]?).all fun thread =>
        (ledgerOf thread).snapshot.all fun snapshot => !clearing snapshot.id thread
    | move => Serviced move

/-! ## The pace of an attempt -/

/-- Whether the clock has just been read; requests other than attempts have no pace. -/
def paceNext (phase : Option Bool) :
    (query : Call) → Except Exception (interface.Answer query) → Option Bool
  | .now, .ok _ => phase.map fun _ => true
  | _, _ => phase.map fun _ => false

/-- An attempt reads the clock right before it writes a status. -/
@[reducible] def pace : Protocol interface Exception where
  Phase := Option Bool
  permits phase
    | .updateStatus _ _ => phase ≠ some false
    | _ => True
  next := paceNext

def Entry.pace (entry : Entry) : Option Bool := if entry.works then some false else none

abbrev Paced {α : Type} (phase : Option Bool) (handler : Request α) : Prop :=
  pace.Follows (fun _ _ => True) phase handler

/-- The calls that write no status. -/
def Call.writeless : Call → Prop
  | .updateStatus _ _ => False
  | _ => True

section Pace

variable {α β : Type} {phase : Option Bool}

theorem writeless_of_aside {query : Call} (aside : query.aside) : query.writeless := by
  cases query <;> first | exact aside.elim | trivial

theorem permits_writeless {query : Call} (writeless : query.writeless) : pace.permits phase query := by
  cases query <;> first | exact writeless.elim | trivial

theorem paceNext_none (query : Call) (answer : Except Exception (interface.Answer query)) :
    paceNext none query answer = none := by
  unfold paceNext
  split <;> rfl

theorem paced_none (handler : Request α) : Paced none handler := by
  induction handler with
  | ret value => trivial
  | throw error => trivial
  | call query next ih =>
    refine ⟨?_, fun answer => ?_⟩
    · cases query <;> first | trivial | exact nofun
    · change Paced (paceNext none query answer) (next answer)
      rw [paceNext_none]
      exact ih answer

theorem paced_writeless {handler : Request α} (calls : handler.Calls Call.writeless) :
    Paced phase handler := by
  induction handler generalizing phase with
  | ret value => trivial
  | throw error => trivial
  | call query next ih => exact ⟨permits_writeless calls.1, fun answer => ih answer (calls.2 answer)⟩

theorem paced_after {first : Request β} {rest : β → Request α} (calls : first.Calls Call.aside)
    (more : ∀ value phase, Paced phase (rest value)) : Paced phase (first.bind rest) := by
  refine .bind ?_
  induction first generalizing phase with
  | ret value => exact more value phase
  | throw error => trivial
  | call query next ih =>
    exact ⟨permits_writeless (writeless_of_aside calls.1), fun answer => ih answer (calls.2 answer)⟩

theorem paced_aside {handler : Request α} (calls : handler.Calls Call.aside) : Paced phase handler :=
  paced_writeless (calls.mono fun _ => writeless_of_aside)

/-- A status is written at the instant that was just read. -/
theorem paced_written {id : Uuid} {patch : DeliveryStatusPatch} {rest : Unit → Request α}
    (more : ∀ phase, Paced phase (rest ())) :
    Paced (phase.map fun _ => true) ((updateStatus id patch).bind rest) := by
  refine .perform_bind ?_ (fun _ => more _) fun _ => trivial
  cases phase <;> exact nofun

theorem fail_paced (deliveryId : Uuid) (attemptNo : ℕ) (error : String) :
    Paced phase (fail deliveryId attemptNo error) := by
  refine .perform_bind trivial (fun now => ⟨?_, fun answer => ?_⟩) fun _ => trivial
  · cases phase <;> exact nofun
  · cases answer <;> trivial

theorem applyOutcome_paced (config : Config) (job : DeliveryJob) (deliveryId : Uuid)
    (subscription : WebhookSubscriptionEntity) (outcome : DeliveryOutcome) (result : SsrfHttpResult)
    (attemptNo : ℕ) :
    Paced phase (applyOutcome config job deliveryId subscription outcome result attemptNo) := by
  have failing (now : Instant) : (recordFailure config subscription now).Calls Call.aside :=
    recordFailure_aside config subscription now
  refine .perform_bind trivial (fun now => ?_) fun _ => trivial
  change Paced (phase.map fun _ => true) _
  cases outcome with
  | SUCCESS => exact paced_written fun _ => paced_aside (recordSuccess_aside subscription)
  | DISABLE =>
    refine paced_written fun _ => paced_aside (.bind (updateEntity_aside _ _) fun _ => ?_)
    exact notifyDisabled_aside config subscription _
  | TERMINAL => exact paced_written fun _ => paced_aside (.bind (failing now) fun _ => trivial)
  | RETRY =>
    dsimp only
    split
    · exact paced_written fun _ => paced_aside (.bind (failing now) fun _ => trivial)
    · refine paced_written fun _ => paced_aside (.bind (failing now) fun _ => ?_)
      exact .bind (asked_aside _ trivial) fun _ => trivial

theorem attempt_paced (job : DeliveryJob) (delivery : WebhookDeliveryEntity) :
    Paced phase (attempt config job delivery) := by
  refine paced_after (asked_aside (.findSubscription _) trivial) fun found phase => ?_
  cases found with
  | none => exact fail_paced _ _ _
  | some subscription =>
    dsimp only
    split
    · exact fail_paced _ _ _
    · refine paced_after (asked_aside (.findOutboxEvent _) trivial) fun found phase => ?_
      cases found with
      | none => exact fail_paced _ _ _
      | some event =>
        refine paced_after (buildBody_aside config event) fun built phase => ?_
        cases built with
        | error message => exact fail_paced _ _ _
        | ok rawBody =>
          refine paced_after (asked_aside .now trivial) fun now phase => ?_
          split
          · exact fail_paced _ _ _
          · refine paced_after (asked_aside .now trivial) fun startedAt phase => ?_
            refine .perform_bind trivial (fun result => ?_) fun _ => trivial
            refine paced_after (asked_aside .now trivial) fun endedAt phase => ?_
            refine paced_after (asked_aside (.insertAttempt _) trivial) fun _ phase => ?_
            refine paced_after (asked_aside (.recordAttempt _) trivial) fun _ phase => ?_
            exact applyOutcome_paced config job _ subscription _ result _

theorem handle_paced (job : DeliveryJob) (webhookId : Uuid) :
    Paced phase (handle config job webhookId) := by
  unfold handle
  split
  · exact paced_aside (handleTest_aside config _ webhookId)
  · refine .perform_bind trivial (fun found => ?_) fun _ => trivial
    cases found with
    | none => trivial
    | some delivery => exact attempt_paced job delivery

theorem work_paced (jobId : String) (webhookId : Uuid) : Paced phase (work config jobId webhookId) := by
  refine paced_after (asked_aside (.takeJob jobId) trivial) fun taken phase => ?_
  rcases taken with - | ⟨job, token⟩
  · trivial
  · have reported (phase : Option Bool) (query : Call) (writeless : query.writeless) :
        Paced phase (perform query) := paced_writeless (Handler.calls_perform.mpr writeless)
    refine .tryCatch (.bind ((handle_paced job webhookId).mono fun result phase _ => ?_))
    cases result with
    | ok value =>
      refine (reported phase (.moveToCompleted jobId token) trivial).mono fun result phase _ => ?_
      cases result with
      | ok value => trivial
      | error error => exact reported phase (.moveToFailed jobId token) trivial
    | error error => exact reported phase (.moveToFailed jobId token) trivial

theorem handler_paced (config : Config) (entry : Entry) : Paced entry.pace (handler config entry) := by
  cases entry with
  | work jobId webhookId =>
    refine .bind ((work_paced jobId webhookId).mono fun result phase _ => ?_)
    cases result <;> trivial
  | _ => exact paced_none _

theorem paceNext_isSome (query : Call) (answer : Except Exception (interface.Answer query)) :
    (paceNext phase query answer).isSome = phase.isSome := by
  unfold paceNext
  split <;> simp

theorem reached_isSome (works : thread.entry.works) :
    (pace.reached thread.entry.pace thread.past).isSome := by
  obtain ⟨entry, past, rest⟩ := thread
  induction past with
  | nil =>
    simp only [Protocol.reached, Entry.pace]
    rw [if_pos works]
    rfl
  | cons event past ih => exact (paceNext_isSome _ _).trans (ih works)

/-- An attempt that writes a status next has just read the clock. -/
theorem clock_of_failsNext (run : Run (webhooks config) allowed cfg) {event : Event (webhooks config)}
    {rest : Request Reply} (acts : cfg.acts move = some (thread, event, rest))
    (works : thread.entry.works) (fails : failsNext (thread.after event rest)) :
    (ledgerOf (thread.after event rest)).clock = some event.after.clock := by
  have follows := ((run.follows (handler_paced config) thread (acts_cases acts).1).act acts).2
  obtain ⟨read, phase⟩ := Option.isSome_iff_exists.mp (reached_isSome works)
  obtain ⟨-, query, next, answer, after, shape, rfl, rfl, answers⟩ := acts_cases acts
  unfold failsNext Thread.after at fails
  dsimp only at fails
  split at fails
  · rename_i id patch more writes
    rw [writes] at follows
    have timely : paceNext (pace.reached thread.entry.pace thread.past) query answer ≠ some false :=
      follows.1
    rw [phase] at timely
    unfold paceNext at timely
    split at timely
    · rcases answers.elim with ⟨same, rfl⟩ | ⟨error, -, failed, -⟩
      · cases same
        rfl
      · cases failed
    · exact absurd rfl timely
  · cases fails

end Pace

/-! ## What becomes of a ledger -/

section Ledgers

variable {ledger : Ledger} {query : Call} {answer : Except Exception (interface.Answer query)}
  {snapshot : WebhookSubscriptionEntity}

/-- What was read is of the subscription that was asked for. -/
structure Ledger.Coherent (ledger : Ledger) : Prop where
  snapshot : ∀ snapshot, ledger.snapshot = some snapshot → ledger.asked = some snapshot.id
  base : ∀ base, ledger.base = some base → ledger.asked = some base.id

theorem coherent_read {asked : Uuid} {found : Option WebhookSubscriptionEntity}
    (coherent : ledger.Coherent) (own : ∀ row, found = some row → row.id = asked)
    (permitted : ledger.permits config (.findSubscription asked)) :
    (ledger.next (.findSubscription asked) (.ok found)).Coherent := by
  constructor
  · intro snapshot same
    rw [show (ledger.next (.findSubscription asked) (.ok found)).asked = some asked from rfl]
    have taken : ledger.snapshot = some snapshot ∨ found = some snapshot := by
      simp only [Ledger.next] at same
      split at same
      · rcases Option.or_eq_some_iff.mp same with old | ⟨-, new⟩
        · exact .inl old
        · exact .inr new
      · exact .inl same
    rcases taken with old | new
    · rcases permitted snapshot old with rfl | again
      · rfl
      · rw [← again, coherent.snapshot snapshot old]
    · rw [own snapshot new]
  · exact fun base same => congrArg some (own base same).symm

theorem coherent_next {world after : World} (coherent : ledger.Coherent)
    (permitted : ledger.permits config query)
    (answers : Answers (webhooks config) query world answer after) :
    (ledger.next query answer).Coherent := by
  cases query with
  | findSubscription asked =>
    rcases answers.elim with ⟨rfl, -⟩ | ⟨error, -, rfl, -⟩
    · exact coherent_read coherent (fun row found => Table.key_of_get found) permitted
    · exact coherent
  | saveSubscription entity =>
    cases answer with
    | ok _ => exact ⟨coherent.snapshot, nofun⟩
    | error _ => exact coherent
  | _ =>
    unfold Ledger.next
    split <;> first | exact coherent | contradiction | exact ⟨coherent.snapshot, coherent.base⟩

theorem ledgerOf_coherent (run : Run (webhooks config) allowed cfg) :
    ∀ thread ∈ cfg.threads, (ledgerOf thread).Coherent := by
  induction run with
  | start => simp
  | @step cfg cfg' move run permitted moved ih =>
    intro thread member
    rcases thread_came moved member with old | ⟨entry, rfl⟩ | ⟨thread, event, rest, acts, -, rfl⟩
    · exact ih thread old
    · constructor <;> rintro _ ⟨⟩
    · have lawful := permitted_of_acts run acts
      obtain ⟨mine, query, next, answer, after, -, rfl, rfl, answers⟩ := acts_cases acts
      exact coherent_next (ih thread mine) lawful answers

theorem saved_next (still : (ledger.next query answer).saved = none) : ledger.saved = none := by
  unfold Ledger.next at still
  split at still <;> first | exact still | cases still

theorem status_next {status : WebhookDeliveryStatus}
    (written : (ledger.next query answer).status = some status) : ledger.status = some status ∨
      ledger.status = none ∧ ∃ id patch, query = .updateStatus id patch ∧ patch.status = status := by
  unfold Ledger.next at written
  split at written
  case h_4 id patch _ =>
    rcases Option.or_eq_some_iff.mp written with old | ⟨none, new⟩
    · exact .inl old
    · exact .inr ⟨none, id, patch, rfl, Option.some.inj new⟩
  all_goals exact .inl written

theorem snapshot_next (read : (ledger.next query answer).snapshot = some snapshot) :
    ledger.snapshot = some snapshot ∨
      ledger.status = none ∧ ∃ id, query = .findSubscription id := by
  unfold Ledger.next at read
  split at read
  case h_3 id found =>
    dsimp only at read
    split at read
    · rename_i unwritten
      exact .inr ⟨Option.isNone_iff_eq_none.mp unwritten, id, rfl⟩
    · exact .inl read
  all_goals exact .inl read

theorem status_kept {status : WebhookDeliveryStatus} (written : ledger.status = some status) :
    (ledger.next query answer).status = some status := by
  unfold Ledger.next
  split <;> simp [written]

theorem snapshot_kept {status : WebhookDeliveryStatus} (written : ledger.status = some status) :
    (ledger.next query answer).snapshot = ledger.snapshot := by
  unfold Ledger.next
  split <;> simp [written]

theorem saved_kept (unsaved : ledger.saved = none) : (ledger.next query answer).saved = none ∨
    ∃ entity, query = .saveSubscription entity ∧ answer.isOk = true := by
  unfold Ledger.next
  split
  case h_5 entity _ => exact .inr ⟨entity, rfl, rfl⟩
  all_goals exact .inl unsaved

/-- After a success an attempt only clears. -/
theorem Saves.clears {base entity : WebhookSubscriptionEntity} (saves : Saves config ledger base entity)
    (works : ledger.entry.works) (succeeded : ledger.status = some .SUCCEEDED) :
    entity.consecutiveFailureSince = none := by
  have still {now : Instant} {snapshot : WebhookSubscriptionEntity}
      (failed : ledger.Failed snapshot now) : False := by
    obtain ⟨status, written, fails⟩ := failed.status
    rw [succeeded, Option.some.injEq] at written
    exact fails written.symm
  cases saves with
  | opens failed => exact (still failed).elim
  | closes => rfl
  | autoDisables => rfl
  | disables => rfl
  | updates entry =>
    rw [entry] at works
    cases works
  | rotates entry =>
    rw [entry] at works
    cases works

end Ledgers

/-! ## Attempts under way -/

theorem recording_iff : recording id thread = true ↔ thread.entry.works = true ∧
    (ledgerOf thread).saved = none ∧ (∃ snapshot, (ledgerOf thread).snapshot = some snapshot ∧
      snapshot.id = id ∧ snapshot.consecutiveFailureSince = none) ∧
    ((∃ status, (ledgerOf thread).status = some status ∧ status ≠ .SUCCEEDED) ∨
      (ledgerOf thread).status = none ∧ failsNext thread = true) := by
  cases written : (ledgerOf thread).status <;>
    simp [recording, written, and_assoc, Option.any_eq_true]

theorem clearing_iff : clearing id thread = true ↔ thread.entry.works = true ∧
    (ledgerOf thread).saved = none ∧ (ledgerOf thread).status = some .SUCCEEDED ∧
    ∃ snapshot, (ledgerOf thread).snapshot = some snapshot ∧ snapshot.id = id ∧
      snapshot.consecutiveFailureSince.isSome = true := by
  simp [clearing, and_assoc, Option.any_eq_true]

theorem clock_of_now {world after : World} {answer : Except Exception Instant}
    (answers : Answers (webhooks config) .now world answer after) : after.clock = world.clock := by
  rcases answers.elim with ⟨-, rfl⟩ | ⟨error, -, -, rfl⟩ <;> rfl

/-- An attempt that records a failure has done so before, or has just read its instant. -/
theorem recording_after (run : Run (webhooks config) allowed cfg) {event : Event (webhooks config)}
    {rest : Request Reply} (acts : cfg.acts move = some (thread, event, rest))
    (records : recording id (thread.after event rest)) {instant : Instant}
    (clock : (ledgerOf (thread.after event rest)).clock = some instant) :
    recording id thread ∧ (ledgerOf thread).clock = some instant ∨
      event.after.clock = instant := by
  obtain ⟨works, unsaved, ⟨snapshot, read, own, closed⟩, status⟩ := recording_iff.mp records
  have timely (fails : failsNext (thread.after event rest) = true) : event.after.clock = instant := by
    have just := clock_of_failsNext run acts works fails
    rw [clock, Option.some.injEq] at just
    exact just.symm
  rcases status with ⟨status, written, failed⟩ | ⟨-, fails⟩
  · obtain ⟨-, query, next, answer, after, shape, rfl, rfl, answers⟩ := acts_cases acts
    rcases clock_next answers clock with before | ⟨rfl, rfl⟩
    · refine .inl ⟨recording_iff.mpr ⟨works, saved_next unsaved, ?_⟩, before⟩
      rcases status_next written with old | ⟨unwritten, deliveryId, patch, rfl, same⟩
      · rcases snapshot_next read with known | ⟨unwritten, -⟩
        · exact ⟨⟨snapshot, known, own, closed⟩, .inl ⟨status, old, failed⟩⟩
        · rw [unwritten] at old
          cases old
      · rcases snapshot_next read with known | ⟨-, asked, same⟩
        · refine ⟨⟨snapshot, known, own, closed⟩, .inr ⟨unwritten, ?_⟩⟩
          simp [failsNext, shape, same, failed]
        · cases same
    · exact .inr (clock_of_now answers)
  · exact .inr (timely fails)

/-- An attempt that has a streak to clear still has to, or clears it. -/
theorem clearing_after (run : Run (webhooks config) allowed cfg) {event : Event (webhooks config)}
    {rest : Request Reply} (acts : cfg.acts move = some (thread, event, rest))
    (clears : clearing id thread) : clearing id (thread.after event rest) ∨
      ∃ entity, SavedBy cfg move thread entity ∧ entity.id = id ∧
        entity.consecutiveFailureSince = none := by
  have permitted := permitted_of_acts run acts
  have coherent := ledgerOf_coherent run thread (acts_cases acts).1
  obtain ⟨works, unsaved, written, snapshot, read, own, opened⟩ := clearing_iff.mp clears
  obtain ⟨-, query, next, answer, after, -, rfl, rfl, answers⟩ := acts_cases acts
  by_cases saves : ∃ entity, SavedBy cfg move thread entity
  · obtain ⟨entity, saved⟩ := saves
    obtain ⟨_, _, _, again⟩ := saved
    rw [again] at acts
    cases acts
    obtain ⟨base, known, saves⟩ := permitted
    have same : entity.id = id := by
      have asked := coherent.snapshot snapshot read
      rw [coherent.base base known, Option.some.injEq] at asked
      rw [saves.id_eq, asked, own]
    refine .inr ⟨entity, ⟨_, _, _, again⟩, same, saves.clears ?_ written⟩
    rw [ledgerOf_entry, works]
  · refine .inl (clearing_iff.mpr ⟨works, ?_, status_kept written, snapshot, ?_, own, opened⟩)
    · have kept : ((ledgerOf thread).next query answer).saved = none ∨ _ := saved_kept unsaved
      rcases kept with still | ⟨entity, rfl, ok⟩
      · exact still
      · cases answer with
        | ok _ => exact absurd ⟨entity, _, _, _, acts⟩ saves
        | error _ => cases ok
    · exact (snapshot_kept written).trans read

/-! ## What an unraced move does to a row -/

theorem serviced_of_unraced (unraced : UnracedWrites cfg move) (still : cfg.acts move = none) :
    Serviced move := by
  unfold UnracedWrites at unraced
  rw [still] at unraced
  cases move with
  | crash index => rfl
  | _ => exact unraced

theorem active_iff : active id cfg = true ↔
    ∃ row, cfg.world.subscriptions.get id = some row ∧ row.status = .ACTIVE := by
  simp [active, Option.any_eq_true]

theorem reopens_iff {entity : WebhookSubscriptionEntity} : reopens cfg entity = true ↔
    (active entity.id cfg = true ∨ entity.status ≠ .ACTIVE) ∨
      entity.consecutiveFailureSince = none ∧
        ∀ thread ∈ cfg.threads, recording entity.id thread = false := by
  simp [reopens]

theorem SavedBy.unraced {entity : WebhookSubscriptionEntity} (saved : SavedBy cfg move thread entity)
    (unraced : UnracedWrites cfg move) : unracedSave cfg thread entity := by
  obtain ⟨_, _, _, acts⟩ := saved
  simpa only [UnracedWrites, acts] using unraced

theorem SavedBy.reopens {entity : WebhookSubscriptionEntity} (saved : SavedBy cfg move thread entity)
    (unraced : UnracedWrites cfg move) : reopens cfg entity := by
  have unraced := saved.unraced unraced
  simp only [unracedSave, Bool.and_eq_true] at unraced
  exact unraced.1.2

theorem CreatedBy.reopens {entity : WebhookSubscriptionEntity}
    (created : CreatedBy cfg move thread entity) (unraced : UnracedWrites cfg move) :
    reopens cfg entity := by
  obtain ⟨_, _, _, _, acts⟩ := created
  simpa only [UnracedWrites, acts] using unraced

/-- A subscription becomes active only while no failure of it is recorded. -/
theorem active_step (unraced : UnracedWrites cfg move) (moved : advance move cfg = some cfg')
    (now : active id cfg') :
    active id cfg = true ∨ ∀ thread ∈ cfg.threads, recording id thread = false := by
  obtain ⟨row, found, status⟩ := active_iff.mp now
  rcases subscription_moved (serviced_of_unraced unraced) moved found with same |
    ⟨thread, saved, rfl⟩ | ⟨thread, created, rfl, -⟩
  · exact .inl (active_iff.mpr ⟨row, same, status⟩)
  · rcases reopens_iff.mp (saved.reopens unraced) with (before | other) | ⟨-, quiet⟩
    · exact .inl before
    · exact absurd status other
    · exact .inr quiet
  · rcases reopens_iff.mp (created.reopens unraced) with (before | other) | ⟨-, quiet⟩
    · exact .inl before
    · exact absurd status other
    · exact .inr quiet

/-- A save keeps the streak of the row, or opens one. -/
theorem saved_streak (run : Run (webhooks config) allowed cfg)
    {entity old : WebhookSubscriptionEntity} (saved : SavedBy cfg move thread entity)
    (unraced : UnracedWrites cfg move) (there : cfg.world.subscriptions.get entity.id = some old)
    (opened : entity.consecutiveFailureSince = some since) :
    streakOf entity.id cfg = some since ∨ Records cfg move entity.id since ∧
      ∃ thread ∈ cfg.threads, recording entity.id thread = true ∧
        (ledgerOf thread).clock = some since := by
  have unraced' := saved.unraced unraced
  obtain ⟨before, after, rest, acts⟩ := saved
  have mine := (acts_cases acts).1
  have coherent := ledgerOf_coherent run thread mine
  obtain ⟨base, read, saves⟩ := permitted_of_acts run acts
  simp only [unracedSave, there, read, Option.all_some, Bool.and_eq_true, decide_eq_true_eq] at unraced'
  obtain ⟨⟨⟨-, unmoved⟩, -⟩, -⟩ := unraced'
  have kept (same : entity.consecutiveFailureSince = base.consecutiveFailureSince) :
      streakOf entity.id cfg = some since := by
    simp [streakOf, there, ← unmoved, ← same, opened]
  have own := saves.id_eq
  cases saves with
  | @opens snapshot instant failed closed unsaved =>
    cases opened
    refine .inr ⟨⟨thread, _, snapshot, ⟨_, _, _, acts⟩, rfl, rfl, failed⟩, thread, mine, ?_, failed.clock⟩
    have asked := coherent.snapshot snapshot failed.snapshot
    rw [coherent.base base read, Option.some.injEq] at asked
    refine recording_iff.mpr ⟨?_, unsaved, ⟨snapshot, failed.snapshot, ?_, closed⟩, .inl failed.status⟩
    · rw [← ledgerOf_entry, failed.works]
    · exact asked.symm
  | closes => cases opened
  | autoDisables => cases opened
  | disables => cases opened
  | updates => exact .inl (kept rfl)
  | rotates => exact .inl (kept rfl)

/-- The streak of an active subscription is as it was, or has just been opened. -/
theorem streak_step (run : Run (webhooks config) allowed cfg) (unraced : UnracedWrites cfg move)
    (moved : advance move cfg = some cfg') (now : active id cfg')
    (opened : streakOf id cfg' = some since) : active id cfg = true ∧
      (streakOf id cfg = some since ∨ Records cfg move id since ∧
        ∃ thread ∈ cfg.threads, recording id thread = true ∧
          (ledgerOf thread).clock = some since) := by
  obtain ⟨row, found, status⟩ := active_iff.mp now
  have since_eq : row.consecutiveFailureSince = some since := by simpa [streakOf, found] using opened
  rcases subscription_moved (serviced_of_unraced unraced) moved found with same |
    ⟨thread, saved, rfl⟩ | ⟨thread, created, rfl, free⟩
  · exact ⟨active_iff.mpr ⟨row, same, status⟩, .inl (by simpa [streakOf, same] using since_eq)⟩
  · have before : active row.id cfg = true := by
      rcases reopens_iff.mp (saved.reopens unraced) with (before | other) | ⟨closed, -⟩
      · exact before
      · exact absurd status other
      · rw [closed] at since_eq
        cases since_eq
    refine ⟨before, ?_⟩
    obtain ⟨old, there, -⟩ := active_iff.mp before
    exact saved_streak run saved unraced there since_eq
  · rcases reopens_iff.mp (created.reopens unraced) with (before | other) | ⟨closed, -⟩
    · simp [active, free] at before
    · exact absurd status other
    · rw [closed] at since_eq
      cases since_eq

/-! ## The streak of a row -/

/-- The condition as one on moves. -/
def unraced' (cfg : Interleaving.Config (webhooks config)) (move : Move (webhooks config)) : Prop :=
  UnracedWrites cfg move = true

theorem recording_step (run : Run (webhooks config) allowed cfg) (moved : advance move cfg = some cfg')
    (member : thread ∈ cfg'.threads) (records : recording id thread)
    (clock : (ledgerOf thread).clock = some since) :
    (∃ thread ∈ cfg.threads, recording id thread = true ∧ (ledgerOf thread).clock = some since) ∨
      cfg'.world.clock = since := by
  rcases thread_came moved member with old | ⟨entry, rfl⟩ | ⟨acting, event, rest, acts, same, rfl⟩
  · exact .inl ⟨thread, old, records, clock⟩
  · cases clock
  · rcases recording_after run acts records clock with ⟨before, earlier⟩ | present
    · exact .inl ⟨acting, (acts_cases acts).1, before, earlier⟩
    · exact .inr (same ▸ present)

/-- Whoever has a streak to clear keeps the duty until there is none. -/
theorem clearing_step (run : Run (webhooks config) allowed cfg) (unraced : UnracedWrites cfg move)
    (moved : advance move cfg = some cfg') (member : thread ∈ cfg.threads)
    (clears : clearing id thread) :
    (∃ thread ∈ cfg'.threads, clearing id thread = true) ∨ streakOf id cfg' = none := by
  rcases thread_goes_on moved member with still | ⟨index, rfl, crashed⟩ | ⟨event, rest, acts, new⟩
  · exact .inl ⟨thread, still, clears⟩
  · obtain ⟨-, -, -, snapshot, read, rfl, -⟩ := clearing_iff.mp clears
    simp [UnracedWrites, Config.acts, crashed, read, clears] at unraced
  · rcases clearing_after run acts clears with still | ⟨entity, saved, rfl, closed⟩
    · exact .inl ⟨_, new, still⟩
    · exact .inr (by simp [streakOf, saved.get moved, closed])

theorem acts_of_success (success : successOf cfg move = some id) :
    ∃ thread before deliveryId patch after rest snapshot,
      cfg.acts move = some (thread, ⟨before, .updateStatus deliveryId patch, .ok (), after⟩, rest) ∧
      patch.status = .SUCCEEDED ∧ (ledgerOf thread).snapshot = some snapshot ∧ snapshot.id = id := by
  unfold successOf at success
  split at success
  · rename_i acts
    split at success
    · rename_i succeeded
      obtain ⟨snapshot, read, own⟩ := Option.map_eq_some_iff.mp success
      exact ⟨_, _, _, _, _, _, snapshot, acts, succeeded, read, own⟩
    · cases success
  · cases success

/-- A success is written while no failure is recorded, and has the streak to clear that the
row has. -/
theorem success_step (run : Run (webhooks config) allowed cfg) (unraced : UnracedWrites cfg move)
    (moved : advance move cfg = some cfg') (success : successOf cfg move = some id) :
    (∀ thread ∈ cfg.threads, recording id thread = false) ∧
      (streakOf id cfg ≠ none → ∃ thread ∈ cfg'.threads, clearing id thread = true) := by
  obtain ⟨thread, _, deliveryId, patch, _, _, snapshot, acts, succeeded, read, rfl⟩ :=
    acts_of_success success
  have unraced' : unracedSuccess cfg thread = true := by
    simpa [UnracedWrites, acts, succeeded] using unraced
  simp only [unracedSuccess, read, Option.all_some, Bool.and_eq_true, Bool.or_eq_true,
    List.all_eq_true, Bool.not_eq_true', Option.isNone_iff_eq_none] at unraced'
  obtain ⟨known, quiet⟩ := unraced'
  refine ⟨quiet, fun opened => ?_⟩
  obtain ⟨works, -, unwritten, unsaved⟩ := permitted_of_acts run acts succeeded
  rw [ledgerOf_entry] at works
  refine ⟨_, (advance_of_acts moved acts).2, clearing_iff.mpr ⟨works, unsaved, ?_, snapshot, read, rfl, ?_⟩⟩
  · rw [ledgerOf_after]
    simp [Ledger.next, unwritten, succeeded]
  · exact known.resolve_left opened

/-- What the chronicle tells of the streaks that the rows have and of the failures that are
being recorded. -/
structure Told (moments : List (Moment (webhooks config)))
    (cfg : Interleaving.Config (webhooks config)) : Prop where
  streak : ∀ id since, active id cfg → streakOf id cfg = some since →
    Streak id since moments ∨ ∃ thread ∈ cfg.threads, clearing id thread = true
  lull : ∀ id, ∀ thread ∈ cfg.threads, recording id thread → ∀ since,
    (ledgerOf thread).clock = some since → active id cfg → Lull id since moments cfg

/-- An unraced move keeps what the chronicle tells. -/
theorem told_step {moments : List (Moment (webhooks config))} (told : Told moments cfg)
    (run : Run (webhooks config) allowed cfg) (unraced : UnracedWrites cfg move)
    (moved : advance move cfg = some cfg') : Told ((cfg, move) :: moments) cfg' := by
  constructor
  · intro id since now opened
    obtain ⟨before, kept⟩ := streak_step run unraced moved now opened
    by_cases success : successOf cfg move = some id
    · obtain ⟨quiet, clears⟩ := success_step run unraced moved success
      rcases kept with same | ⟨-, thread, member, records, -⟩
      · exact .inr (clears (by simp [same]))
      · simp [quiet thread member] at records
    · rcases kept with same | ⟨recorded, thread, member, records, clock⟩
      · rcases told.streak id since before same with streak | ⟨thread, member, clears⟩
        · exact .inl (streak.step ⟨before, success⟩)
        · refine .inr ((clearing_step run unraced moved member clears).resolve_right ?_)
          simp [opened]
      · exact .inl (.opened (told.lull id thread member records since clock before) ⟨before, success⟩
          recorded)
  · intro id thread member records since clock now
    rcases recording_step run moved member records clock with ⟨old, there, recorded, earlier⟩ | present
    · have before : active id cfg = true := by
        refine (active_step unraced moved now).resolve_right fun quiet => ?_
        simp [quiet old there] at recorded
      refine .step (told.lull id old there recorded since earlier before) ⟨before, fun success => ?_⟩
      have quiet := (success_step run unraced moved success).1 old there
      simp [quiet] at recorded
    · exact .here present

theorem told {moments : List (Moment (webhooks config))}
    (chronicle : Chronicle (webhooks config) unraced' moments cfg) : Told moments cfg := by
  induction chronicle with
  | start =>
    constructor
    · intro id since now opened
      cases opened
    · intro id thread member
      cases member
  | step before unraced moved ih => exact told_step ih before.run unraced moved

/-- The save that disables, by the streak that its attempt goes by. -/
theorem autoDisabling_streak {ledger : Ledger} {base entity : WebhookSubscriptionEntity}
    (saves : Saves config ledger base entity) (works : ledger.entry.works)
    (failed : ledger.status ≠ some .SUCCEEDED) (disables : entity.status = .AUTO_DISABLED)
    (closes : entity.consecutiveFailureSince = none) (clock : ledger.clock = some now) :
    ∃ since, ledger.streak = some since ∧ disableAfter config ≤ now - since := by
  cases saves with
  | opens => cases closes
  | closes _ _ _ succeeded => exact absurd succeeded failed
  | @autoDisables snapshot since instant fails streak long =>
    rw [fails.clock, Option.some.injEq] at clock
    subst clock
    refine ⟨since, ?_, long⟩
    rcases streak with opened | ⟨rfl, closed, row, saved, opened⟩
    · simp [Ledger.streak, fails.snapshot, opened]
    · simp [Ledger.streak, fails.snapshot, closed, saved, opened]
  | disables => cases disables
  | updates entry =>
    rw [entry] at works
    cases works
  | rotates entry =>
    rw [entry] at works
    cases works

theorem saved_of_autoDisabled (disabled : autoDisabled cfg move = some (id, now)) :
    ∃ thread entity, SavedBy cfg move thread entity ∧ entity.id = id ∧
      autoDisabling thread entity = true ∧ (ledgerOf thread).clock = some now := by
  unfold autoDisabled at disabled
  split at disabled
  · rename_i acts
    split at disabled
    · rename_i disables
      obtain ⟨instant, clock, same⟩ := Option.map_eq_some_iff.mp disabled
      cases same
      exact ⟨_, _, ⟨_, _, _, acts⟩, rfl, disables, clock⟩
    · cases disabled
  · cases disabled

/-- **Auto-disabling.** In every run of unraced moves, a subscription is disabled only after
days of failure, without a success and active throughout. -/
theorem steadily_fails_first (config : Config) : FailsFirst config unraced' := by
  intro moments cfg move id now chronicle unraced disabled
  obtain ⟨thread, entity, saved, rfl, disables, clock⟩ := saved_of_autoDisabled disabled
  have unraced' := saved.unraced unraced
  simp only [unracedSave, disables, Bool.not_true, Bool.false_or, Bool.and_eq_true,
    decide_eq_true_eq, List.all_eq_true, Bool.not_eq_true'] at unraced'
  obtain ⟨-, ⟨before, goes⟩, settled⟩ := unraced'
  simp only [autoDisabling, Bool.and_eq_true, decide_eq_true_eq] at disables
  obtain ⟨⟨⟨works, failed⟩, status⟩, closes⟩ := disables
  obtain ⟨_, _, _, acts⟩ := saved
  obtain ⟨base, -, saves⟩ := permitted_of_acts chronicle.run acts
  obtain ⟨since, streak, long⟩ := autoDisabling_streak saves (by rw [ledgerOf_entry, works]) failed
    status closes clock
  rw [streak] at goes
  refine ⟨since, Int.le_sub_left_of_add_le (Int.add_le_of_le_sub_right long), [], moments, rfl,
    List.forall_mem_nil _, ?_⟩
  refine ((told chronicle).streak _ since before goes).resolve_right ?_
  rintro ⟨other, member, clears⟩
  simp [settled other member] at clears

/-! ## A streak across a break -/

theorem clock_chronicled {moments : List (Moment (webhooks config))}
    (chronicle : Chronicle (webhooks config) allowed moments cfg) :
    ∀ moment ∈ moments, moment.1.world.clock ≤ cfg.world.clock :=
  chronicle.related (fun before after : World => before.clock ≤ after.clock) (fun _ => le_rfl)
    (fun _ _ _ => le_trans) clock_nudged fun query world => (clock_served query world).ge

theorem Lull.active {moments : List (Moment (webhooks config))} (lull : Lull id since moments cfg)
    (chronicle : Chronicle (webhooks config) allowed moments cfg) :
    ∀ moment ∈ moments, active id moment.1 = true ∨ moment.1.world.clock ≤ since := by
  induction lull with
  | here same => exact fun moment member => .inr (same ▸ clock_chronicled chronicle moment member)
  | step lull calm ih =>
    cases chronicle with
    | step before =>
      intro moment member
      rcases List.mem_cons.mp member with rfl | earlier
      · exact .inl calm.1
      · exact ih before moment earlier

/-- Within a streak the subscription is active. -/
theorem Streak.active {moments : List (Moment (webhooks config))} (streak : Streak id since moments)
    (chronicle : Chronicle (webhooks config) allowed moments cfg) :
    ∀ moment ∈ moments, active id moment.1 = true ∨ moment.1.world.clock ≤ since := by
  induction streak generalizing cfg with
  | opened lull calm _ => exact (lull.step calm).active chronicle
  | step _ calm ih =>
    cases chronicle with
    | step before =>
      intro moment member
      rcases List.mem_cons.mp member with rfl | earlier
      · exact .inl calm.1
      · exact ih before moment earlier

def manager : AuthUser := ⟨"u1", true⟩

/-- The endpoint answers with an error. -/
def broken : Surroundings :=
  ⟨fun _ => { status := some 500 }, fun _ => none, fun _ _ => true, fun _ => "d1"⟩

def assignedEvent : InsertOutboxEventInput where
  aggregateType := .activity
  aggregateId := "a1"
  bondId := "b1"
  eventType := "activity.assigned"
  aggregateVersion := 1
  payload := []

def repeated (index count : ℕ) : List (Move (webhooks defaults)) := List.replicate count (.turn index)

def setting (status : WebhookSubscriptionStatus) : Move (webhooks defaults) :=
  .arrive (.update "b1" "" { status := some (some status) } manager)

/-- A subscription is created, an event is fanned out to it, and its first attempt fails. -/
def failedOnce : List (Move (webhooks defaults)) :=
  .arrive (.create "b1" ⟨"https://receiver.example", none, none⟩ manager ⟨"first", ""⟩) ::
    repeated 0 3 ++ [.nudge (.surroundings broken), .nudge (.produce "e1" assignedEvent),
    .arrive .poll] ++ repeated 1 4 ++ [.arrive (.work "e1--" "w1")] ++ repeated 2 17

/-- The next attempt, up to the save that disables. -/
def failedAgain (index : ℕ) : List (Move (webhooks defaults)) :=
  [.nudge (.promote "e1--"), .arrive (.work "e1--" "w1")] ++ repeated index 14

/-- Six days after the first failure, the second one disables. -/
theorem steadily_fails_first_again : ∃ (moments : List (Moment (webhooks defaults)))
    (cfg : Interleaving.Config (webhooks defaults)), Chronicle (webhooks defaults) unraced' moments cfg ∧
      unraced' cfg (.turn 3) ∧ autoDisabled cfg (.turn 3) = some ("", 518400000) ∧
      ∃ since, since ≤ 518400000 - disableAfter defaults ∧ Failing "" since 518400000 moments := by
  obtain ⟨moments, cfg, chronicle, shown⟩ := exists_followed (fun cfg move => UnracedWrites cfg move = true)
    (failedOnce ++ [.nudge (.tick 518400000)] ++ failedAgain 3)
    (fun _ cfg => UnracedWrites cfg (.turn 3) && autoDisabled cfg (.turn 3) = some ("", 518400000))
    (by decide +kernel)
  rw [Bool.and_eq_true, decide_eq_true_eq] at shown
  exact ⟨moments, cfg, chronicle, shown.1, shown.2,
    steadily_fails_first defaults moments cfg (.turn 3) "" 518400000 chronicle shown.1 shown.2⟩

/-- On the second day the subscription is disabled, on the sixth it is enabled again, and the
first attempt after that fails too. -/
def interrupted : List (Move (webhooks defaults)) :=
  failedOnce ++ [.nudge (.tick 172800000), setting .DISABLED] ++ repeated 3 4 ++
    [.nudge (.tick 345600000), setting .ACTIVE] ++ repeated 4 4 ++ failedAgain 5

/-- The streak goes on across the days on which the subscription was disabled. -/
theorem disabled_after_break : ¬FailsFirst defaults fun _ move => Serviced move = true := by
  intro failsFirst
  obtain ⟨moments, cfg, chronicle, shown⟩ := exists_followed (fun _ move => Serviced move = true)
    interrupted (fun moments cfg => autoDisabled cfg (.turn 5) = some ("", 518400000) &&
      moments.any fun moment => !active "" moment.1 && 86400000 < moment.1.world.clock &&
        moment.1.world.clock < 518400000)
    (by decide +kernel)
  rw [Bool.and_eq_true, decide_eq_true_eq, List.any_eq_true] at shown
  obtain ⟨disabled, moment, member, shown⟩ := shown
  simp only [Bool.and_eq_true, Bool.not_eq_true', decide_eq_true_eq] at shown
  obtain ⟨⟨inactive, later⟩, earlier⟩ := shown
  obtain ⟨since, early, newer, older, rfl, after, streak⟩ :=
    failsFirst moments cfg (.turn 5) "" 518400000 chronicle rfl disabled
  rcases List.mem_append.mp member with new | old
  · exact absurd earlier (not_lt.mpr (after moment new))
  · have part := chronicle.part
    rcases streak.active part moment old with active | before
    · rw [inactive] at active
      cases active
    · have limit : 518400000 - disableAfter defaults = 86400000 := by decide +kernel
      rw [limit] at early
      exact absurd (before.trans early) (not_le.mpr later)

end ParentalCoord.Webhooks

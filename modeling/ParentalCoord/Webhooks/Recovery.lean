import ParentalCoord.Interleaving.Discipline
import ParentalCoord.Webhooks.Conduct

/-!
Whether a delivery can get stuck.

The reconciliation looks for the job of an open delivery and takes any job for one
that will run.  In the runs where no open delivery is left with a finished job
(`Lossless`), its job can run or is missing, and a missing one is added by the next
pass; otherwise a finished job stands in the way of every pass.
-/

namespace ParentalCoord.Webhooks

open Interleaving Store

/-- PENDING or RETRYING. -/
def WebhookDeliveryEntity.unfinished (row : WebhookDeliveryEntity) : Bool := !row.status.terminal

/-- `nextAttemptAt` is null or past. -/
def WebhookDeliveryEntity.due (now : Instant) (row : WebhookDeliveryEntity) : Bool :=
  row.nextAttemptAt.all (· ≤ now)

/-- The job is that of a delivery which is not finished. -/
def World.needs (world : World) (jobId : String) : Bool :=
  world.deliveries.rows.any fun row => row.jobId = jobId && row.unfinished

/-- The call leaves no unfinished delivery with a finished job: when a job is reported
completed, or failed for good, its delivery is finished, and a delivery that is
written as unfinished has no finished job. -/
def Lossless (world : World) : Call → Prop
  | .moveToCompleted jobId _ => ¬world.needs jobId
  | .moveToFailed jobId token =>
      (world.queue.held jobId token).any (·.exhausted) → ¬world.needs jobId
  | .updateStatus id patch => ¬patch.status.terminal →
      (world.deliveries.get id).all fun row => !world.queue.finished row.jobId
  | .dispatch event subscriptionIds => ∀ subscriptionId ∈ subscriptionIds,
      (world.deliveries.rows.any fun row =>
        row.eventId = event.id ∧ row.subscriptionId = subscriptionId) ∨
      ¬world.queue.finished (buildDeliveryJobId event.id subscriptionId)
  | _ => True

instance (world : World) (query : Call) : Decidable (Lossless world query) := by
  unfold Lossless
  rcases query with ⟨⟩ <;> infer_instance

variable {config : Config}

/-- The call was answered, and not with an error. -/
def answered (event : Event (webhooks config)) : Bool := event.answer.isOk

/-- A move whose call, if it takes effect, is lossless. -/
def LosslessMove (cfg : Interleaving.Config (webhooks config)) (move : Move (webhooks config)) : Prop :=
  match cfg.acts move with
  | some (_, event, _) => answered event → Lossless event.before event.query
  | none => True

instance (cfg : Interleaving.Config (webhooks config)) (move : Move (webhooks config)) :
    Decidable (LosslessMove cfg move) := by
  unfold LosslessMove
  rcases cfg.acts move with _ | ⟨_, event, _⟩ <;> infer_instance

/-- The world after a pass of the reconciliation that nothing else interrupts. -/
def reconciled (world : World) : World := (reconcile.run serve world).2

/-- The delivery has a job that can run, or is given one by the next pass. -/
def Attended (world : World) (row : WebhookDeliveryEntity) : Prop :=
  world.queue.runnable row.jobId ∨ (reconciled world).queue.runnable row.jobId

/-- Every unfinished delivery that is due is attended to. -/
def NoneStuck (world : World) : Prop :=
  ∀ row ∈ world.deliveries.rows, row.unfinished → row.due world.clock → Attended world row

/-! ## A pass among other requests -/

/-- The reconciliation has listed the deliveries that are due. -/
def isListing : Event (webhooks config) → Bool
  | ⟨_, .findReconcilable _, .ok _, _⟩ => true
  | _ => false

def sinceListing (past : List (Event (webhooks config))) : List (Event (webhooks config)) :=
  past.takeWhile (!isListing ·)

def Call.ofRedis : Call → Bool
  | .getJob _ => true
  | .addJob _ => true
  | _ => false

/-- Redis has answered all that it was asked. -/
def Reached (events : List (Event (webhooks config))) : Prop :=
  ∀ event ∈ events, event.query.ofRedis → answered event

/-- There is a job for the delivery, which can run unless the delivery is finished. -/
def Enqueued (world : World) (row : WebhookDeliveryEntity) : Prop :=
  world.queue.get row.jobId ≠ none ∧ (world.needs row.jobId → world.queue.runnable row.jobId)

/-- A pass that reached Redis has seen or added a job for every unfinished delivery
that was due when it began. -/
def Recovers (past : List (Event (webhooks config))) : Prop :=
  ∀ listing now, past.find? isListing = some listing → listing.query = .findReconcilable now →
    Reached (sinceListing past) → ∀ row ∈ listing.before.deliveries.rows, row.unfinished →
      row.due now → ∃ event ∈ sinceListing past, Enqueued event.after row

/-! ## The invariant -/

/-- The row is one that the reconciliation can count on: while it is to be retried it
has a date, and while it is unfinished its job is not finished. -/
structure Recoverable (queue : JobQueue String WebhookDeliveryJobData) (row : WebhookDeliveryEntity) :
    Prop where
  dated : row.status = .RETRYING → row.nextAttemptAt ≠ none
  going : row.unfinished → queue.finished row.jobId = false

def AllRecoverable (world : World) : Prop := ∀ row ∈ world.deliveries.rows, Recoverable world.queue row

variable {world before after : World} {row : WebhookDeliveryEntity} {query : Call}
  {answer : Except Exception (interface.Answer query)}

/-- Rows that were there, or are recoverable, over a queue in which no further job is
finished. -/
theorem AllRecoverable.of_rows (held : AllRecoverable before)
    (rows : ∀ row ∈ after.deliveries.rows, row ∈ before.deliveries.rows ∨ Recoverable before.queue row)
    (finished : ∀ jobId, after.queue.finished jobId → before.queue.finished jobId) :
    AllRecoverable after := by
  intro row member
  have recoverable : Recoverable before.queue row := (rows row member).elim (held row) id
  refine ⟨recoverable.dated, fun unfinished => ?_⟩
  have going := recoverable.going unfinished
  cases ended : after.queue.finished row.jobId with
  | false => rfl
  | true =>
    rw [finished row.jobId ended] at going
    cases going

/-- The queue alone is moved, and finishes no job. -/
theorem AllRecoverable.of_queue (held : AllRecoverable world) {queue : JobQueue String WebhookDeliveryJobData}
    (finished : ∀ jobId, queue.finished jobId → world.queue.finished jobId) :
    AllRecoverable { world with queue := queue } :=
  held.of_rows (fun _ => .inl) finished

/-- The queue alone is moved, and the one job that it may finish is not needed. -/
theorem AllRecoverable.of_report (held : AllRecoverable world)
    {queue : JobQueue String WebhookDeliveryJobData} {jobId : String} (free : ¬world.needs jobId)
    (finished : ∀ other, other ≠ jobId → queue.finished other → world.queue.finished other) :
    AllRecoverable { world with queue := queue } := by
  intro row member
  refine ⟨(held row member).dated, fun unfinished => ?_⟩
  have apart : row.jobId ≠ jobId := by
    rintro rfl
    exact free (List.any_eq_true.mpr ⟨row, member, by simp [unfinished]⟩)
  have going := (held row member).going unfinished
  cases ended : queue.finished row.jobId with
  | false => rfl
  | true =>
    rw [finished row.jobId apart ended] at going
    cases going

/-! ## One call -/

/-- A call that adds no finished job and gives a date to every retry. -/
def Call.dated : Call → Prop
  | .updateStatus _ patch => patch.dated
  | .addJob job => job.finished = false
  | _ => True

theorem dated_of_permits {phase : Phase} (permitted : permits phase query) : query.dated := by
  cases query with
  | updateStatus id patch =>
    rcases permitted with ⟨-, rfl⟩ | ⟨-, dated⟩
    · exact nofun
    · exact dated
  | addJob job => exact permitted
  | _ => trivial

theorem dated_of_relays (relays : query.relays) : query.dated := by
  cases query <;> trivial

theorem insertOnConflictDoNothing_cases {deliveries added : Table WebhookDeliveryEntity.id}
    (accepted : insertOnConflictDoNothing row deliveries = some added) :
    added.rows = deliveries.rows ++ [row] ∧ (deliveries.rows.any fun old =>
      old.eventId = row.eventId ∧ old.subscriptionId = row.subscriptionId) = false := by
  unfold insertOnConflictDoNothing at accepted
  split at accepted
  · cases accepted
  · rename_i free
    exact ⟨Table.rows_insert accepted, by simpa using free⟩

/-- The rows of the fan-out: those there were, and new ones for pairs that had none. -/
theorem mem_insertDeliveries {eventId : Uuid} {now : Instant} {uuids : ℕ → Uuid} {index : ℕ}
    {subscriptionIds : List Uuid} {deliveries : Table WebhookDeliveryEntity.id}
    (member : row ∈ (insertDeliveries eventId now uuids index subscriptionIds deliveries).2.rows) :
    row ∈ deliveries.rows ∨ row.status = .PENDING ∧ row.eventId = eventId ∧
      row.subscriptionId ∈ subscriptionIds ∧ (deliveries.rows.any fun old =>
        old.eventId = eventId ∧ old.subscriptionId = row.subscriptionId) = false := by
  induction subscriptionIds generalizing index deliveries with
  | nil => exact .inl member
  | cons subscriptionId rest ih =>
    unfold insertDeliveries at member
    simp only [] at member
    split at member
    · exact (ih member).imp_right fun ⟨status, event, among, free⟩ =>
        ⟨status, event, List.mem_cons_of_mem _ among, free⟩
    · rename_i added accepted
      obtain ⟨rows, free⟩ := insertOnConflictDoNothing_cases accepted
      rcases ih member with there | ⟨status, event, among, none_⟩
      · rw [rows] at there
        rcases List.mem_append.mp there with old | new
        · exact .inl old
        · rw [List.mem_singleton] at new
          subst new
          exact .inr ⟨rfl, rfl, List.mem_cons_self .., free⟩
      · rw [rows, List.any_append, Bool.or_eq_false_iff] at none_
        exact .inr ⟨status, event, List.mem_cons_of_mem _ among, none_.1⟩

theorem subset_insertDeliveries (eventId : Uuid) (now : Instant) (uuids : ℕ → Uuid) (index : ℕ)
    (subscriptionIds : List Uuid) {deliveries : Table WebhookDeliveryEntity.id}
    (member : row ∈ deliveries.rows) :
    row ∈ (insertDeliveries eventId now uuids index subscriptionIds deliveries).2.rows := by
  induction subscriptionIds generalizing index deliveries with
  | nil => exact member
  | cons subscriptionId rest ih =>
    unfold insertDeliveries
    simp only []
    split
    · exact ih (index + 1) member
    · rename_i added accepted
      refine ih (index + 1) ?_
      rw [(insertOnConflictDoNothing_cases accepted).1]
      exact List.mem_append_left _ member

theorem AllRecoverable.dispatch (held : AllRecoverable world) {event : OutboxEventEntity}
    {subscriptionIds : List Uuid} (lossless : (world.dispatch event subscriptionIds).1.isOk →
      Lossless world (.dispatch event subscriptionIds)) :
    AllRecoverable (world.dispatch event subscriptionIds).2 := by
  unfold World.dispatch at lossless ⊢
  split
  · exact held
  · rename_i present
    rw [if_neg present] at lossless
    refine held.of_rows (fun row member => ?_) fun _ ended => ended
    rcases mem_insertDeliveries member with old | ⟨status, event_, among, free⟩
    · exact .inl old
    right
    constructor
    · intro retrying
      rw [status] at retrying
      cases retrying
    · intro unfinished
      have spared := (lossless rfl row.subscriptionId among).resolve_left (Bool.eq_false_iff.mp free)
      rw [WebhookDeliveryEntity.jobId, event_]
      simpa using spared

theorem AllRecoverable.updateStatus (held : AllRecoverable world) {id : Uuid} {patch : DeliveryStatusPatch}
    (dated : Call.dated (.updateStatus id patch))
    (lossless : (world.updateStatus id patch).1.isOk → Lossless world (.updateStatus id patch)) :
    AllRecoverable (world.updateStatus id patch).2 := by
  unfold World.updateStatus at lossless ⊢
  split
  · exact held
  · rename_i valid
    rw [if_neg valid] at lossless
    split
    · exact held
    · rename_i row found
      rw [found] at lossless
      refine held.of_rows (fun other member => (Table.mem_put member).imp_right ?_)
        fun _ ended => ended
      rintro rfl
      constructor
      · intro retrying
        obtain ⟨nextAttemptAt, date⟩ := dated retrying
        simp [DeliveryStatusPatch.onto, date]
      · intro unfinished
        have going := lossless rfl (by simpa [WebhookDeliveryEntity.unfinished,
          DeliveryStatusPatch.onto] using unfinished)
        rw [found, Option.all_some] at going
        have same : (patch.onto row).jobId = row.jobId := rfl
        rw [same]
        simpa using going

theorem AllRecoverable.cascade (held : AllRecoverable world) : AllRecoverable world.cascade :=
  held.of_rows (fun _ member => .inl (List.mem_of_mem_filter member)) fun _ ended => ended

/-- What the queue does with a report or another change of one job, unless it refuses. -/
theorem AllRecoverable.queued (held : AllRecoverable world)
    {queue : Option (JobQueue String WebhookDeliveryJobData)}
    (moves : ∀ moved, queue = some moved → AllRecoverable { world with queue := moved }) :
    AllRecoverable (world.queued queue).2 := by
  cases queue with
  | none => exact held
  | some moved => exact moves moved rfl

theorem AllRecoverable.removeSubscription (held : AllRecoverable world) (id : Uuid) :
    AllRecoverable (world.removeSubscription id) := by
  have removed : AllRecoverable { world with subscriptions := world.subscriptions.filter (·.id ≠ id) } :=
    held.of_rows (fun _ => .inl) fun _ ended => ended
  exact removed.cascade

/-- Every lossless call keeps the rows recoverable. -/
theorem AllRecoverable.served (held : AllRecoverable world) (dated : query.dated)
    (lossless : (serve query world).1.isOk → Lossless world query) :
    AllRecoverable (serve query world).2 := by
  cases query with
  | dispatch event subscriptionIds => exact held.dispatch lossless
  | updateStatus id patch => exact held.updateStatus dated lossless
  | insertAttempt input =>
    simp only [serve, World.insertAttempt]
    split
    · exact held
    · exact held.of_rows (fun _ => .inl) fun _ ended => ended
  | createSubscription entity =>
    simp only [serve, World.createSubscription]
    split
    · exact held
    · exact held.of_rows (fun _ => .inl) fun _ ended => ended
  | removeSubscription id => exact held.removeSubscription id
  | purgeDispatchedBefore cutoff =>
    have purged : AllRecoverable { world with outbox := world.outbox.filter (!purged cutoff ·) } :=
      held.of_rows (fun _ => .inl) fun _ ended => ended
    exact purged.cascade
  | addJob job =>
    refine held.of_queue fun jobId ended => ?_
    rwa [JobQueue.finished_add dated] at ended
  | removeJob jobId =>
    exact held.queued fun moved removed =>
      held.of_queue fun other ended => JobQueue.finished_remove removed ended
  | updateData jobId data =>
    refine held.queued fun moved updated => held.of_queue fun other ended => ?_
    rwa [JobQueue.finished_updateData updated] at ended
  | takeJob jobId =>
    refine held.of_queue fun other ended => ?_
    rwa [JobQueue.finished_take] at ended
  | moveToCompleted jobId token =>
    refine held.queued fun moved reported => ?_
    have free : ¬world.needs jobId := lossless (by simp only [serve, reported]; rfl)
    refine held.of_report free fun other apart ended => ?_
    rwa [JobQueue.finished_complete reported apart] at ended
  | moveToFailed jobId token =>
    refine held.queued fun moved reported => ?_
    have free := lossless (by simp only [serve, reported]; rfl)
    by_cases last : (world.queue.held jobId token).any (·.exhausted)
    · refine held.of_report (free last) fun other apart ended => ?_
      exact (JobQueue.finished_fail reported ended).resolve_right fun both => apart both.1
    · refine held.of_queue fun other ended => ?_
      exact (JobQueue.finished_fail reported ended).resolve_right fun both => last both.2
  | _ => exact held.of_rows (fun _ => .inl) fun _ ended => ended

theorem AllRecoverable.nudge (held : AllRecoverable world) (how : Nudge) : AllRecoverable (nudge how world) := by
  cases how with
  | unsubscribe id => exact held.removeSubscription id
  | stall jobId => exact held.of_queue fun _ ended => JobQueue.finished_stall ended
  | promote jobId => exact held.of_queue fun _ ended => JobQueue.finished_promote ended
  | expire jobId => exact held.of_queue fun _ ended => JobQueue.finished_expire ended
  | flush => exact held.of_queue fun _ ended => by cases ended
  | _ => exact held.of_rows (fun _ => .inl) fun _ ended => ended

/-- A delivery that is not finished and has a job has one that can run. -/
theorem AllRecoverable.enqueued (held : AllRecoverable world) (found : world.queue.get row.jobId ≠ none) :
    Enqueued world row := by
  refine ⟨found, fun needed => ?_⟩
  obtain ⟨other, member, same⟩ := List.any_eq_true.mp needed
  obtain ⟨own, unfinished⟩ : other.jobId = row.jobId ∧ other.unfinished := by simpa using same
  have going := (held other member).going unfinished
  obtain ⟨job, there⟩ := Option.ne_none_iff_exists'.mp found
  rw [own] at going
  exact JobQueue.runnable_of_get there going

/-! ## A pass on its own -/

/-- Nothing is lost, and no further job is finished. -/
structure Extends (first second : World) : Prop where
  rows : ∀ row ∈ first.deliveries.rows, row ∈ second.deliveries.rows
  jobs : ∀ jobId, first.queue.get jobId ≠ none → second.queue.get jobId ≠ none
  finished : ∀ jobId, second.queue.finished jobId → first.queue.finished jobId

theorem Extends.refl (world : World) : Extends world world :=
  ⟨fun _ member => member, fun _ found => found, fun _ ended => ended⟩

theorem Extends.trans {first second third : World} (early : Extends first second)
    (late : Extends second third) : Extends first third :=
  ⟨fun row member => late.rows row (early.rows row member),
    fun jobId found => late.jobs jobId (early.jobs jobId found),
    fun jobId ended => early.finished jobId (late.finished jobId ended)⟩

theorem extends_serve (query : Call) (world : World) (relays : query.relays) :
    Extends world (serve query world).2 := by
  cases query with
  | dispatch event subscriptionIds =>
    simp only [serve, World.dispatch]
    split
    · exact .refl world
    · refine ⟨fun row member => ?_, fun _ found => found, fun _ ended => ended⟩
      exact subset_insertDeliveries _ _ _ _ _ member
  | addJob job =>
    refine ⟨fun _ member => member, fun jobId found => ?_, fun jobId ended => ?_⟩
    · obtain ⟨old, there⟩ := Option.ne_none_iff_exists'.mp found
      have kept : (world.queue.add job).get jobId = some old := JobQueue.get_add_of_get there job
      change (world.queue.add job).get jobId ≠ none
      rw [kept]
      exact Option.some_ne_none old
    · rwa [serve, JobQueue.finished_add relays] at ended
  | _ => first | exact .refl world | cases relays

theorem extends_run {α : Type} {handler : Request α} (calls : handler.Calls Call.relays)
    (world : World) : Extends world (handler.run serve world).2 :=
  calls.run Extends.refl (fun _ _ _ => Extends.trans) extends_serve world

/-- The relay catches what its events fail with. -/
theorem dispatchAll_ok (events : List OutboxEventEntity) (world : World) :
    ∃ count, ((dispatchAll events).run serve world).1 = .ok count := by
  induction events generalizing world with
  | nil => exact ⟨0, rfl⟩
  | cons event rest ih =>
    have caught : ∃ count, (((dispatch event).tryCatch fun _ => .ret 0).run serve world).1 =
        .ok count := by
      rw [Handler.run_tryCatch]
      split
      · exact ⟨_, rfl⟩
      · exact ⟨0, rfl⟩
    obtain ⟨dispatched, first⟩ := caught
    obtain ⟨others, second⟩ := ih (((dispatch event).tryCatch fun _ => .ret 0).run serve world).2
    refine ⟨dispatched + others, ?_⟩
    simp only [dispatchAll, Handler.bind_eq, Handler.pure_eq, Handler.tryCatch_eq]
    rw [Handler.run_bind_of_ok first, Handler.run_bind_of_ok second]
    rfl

theorem relay_ok (world : World) : ∃ count, (relay.run serve world).1 = .ok count :=
  dispatchAll_ok _ world

/-- Every delivery that was listed has a job in the end. -/
theorem reenqueue_run {candidates : List WebhookDeliveryEntity} {delivery : WebhookDeliveryEntity}
    (listed : delivery ∈ candidates) (world : World) :
    ((reenqueue candidates).run serve world).2.queue.get delivery.jobId ≠ none := by
  induction candidates generalizing world with
  | nil => cases listed
  | cons first rest ih =>
    cases existing : world.queue.get first.jobId with
    | some job =>
      have skipped : (reenqueue (first :: rest)).run serve world = (reenqueue rest).run serve world := by
        have seen : (checkJob first.jobId).run serve world = (.ok (some (some job)), world) := by
          change (Except.ok (some (world.queue.get first.jobId)), world) = _
          rw [existing]
        simp only [reenqueue, Handler.bind_eq, Handler.run_bind, seen]
      rw [skipped]
      rcases List.mem_cons.mp listed with rfl | later
      · exact (extends_run (reenqueue_relays rest) world).jobs _ (by simp [existing])
      · exact ih later world
    | none =>
      have added : ((reenqueue (first :: rest)).run serve world).2 = ((reenqueue rest).run serve
          { world with
            queue := world.queue.add (deliveryJob first.eventId first.subscriptionId) }).2 := by
        have seen : (checkJob first.jobId).run serve world = (.ok (some none), world) := by
          change (Except.ok (some (world.queue.get first.jobId)), world) = _
          rw [existing]
        have joined : (enqueue first.eventId first.subscriptionId).run serve world = (.ok (),
            { world with
              queue := world.queue.add (deliveryJob first.eventId first.subscriptionId) }) := rfl
        simp only [reenqueue, Handler.bind_eq, Handler.run_bind, seen, joined]
        split
        · rename_i same
          rw [same]
          rfl
        · rename_i same
          rw [same]
      rw [added]
      rcases List.mem_cons.mp listed with rfl | later
      · refine (extends_run (reenqueue_relays rest) _).jobs _ ?_
        exact JobQueue.get_add
      · exact ih later _

/-- A pass on its own: the relay, and then what is listed after it. -/
theorem reconciled_eq {count : ℕ} (ended : (relay.run serve world).1 = .ok count) :
    reconciled world = ((reenqueue ((relay.run serve world).2.deliveries.rows.filter
      (reconcilable world.clock))).run serve (relay.run serve world).2).2 := by
  change ((relay.bind fun dispatchedOutbox =>
    (perform (.findReconcilable world.clock)).bind fun candidates =>
      (reenqueue candidates).bind fun reenqueuedDeliveries =>
        .ret ⟨dispatchedOutbox, reenqueuedDeliveries⟩ : Request ReconcileResult).run serve world).2 = _
  rw [Handler.run_bind_of_ok ended]
  change (((reenqueue ((relay.run serve world).2.deliveries.rows.filter
    (reconcilable world.clock))).bind fun reenqueuedDeliveries =>
      .ret ⟨count, reenqueuedDeliveries⟩ : Request ReconcileResult).run serve _).2 = _
  rw [Handler.run_bind]
  split
  · rename_i same
    exact (congrArg Prod.snd same).symm
  · rename_i same
    exact (congrArg Prod.snd same).symm

/-- The reconciliation lists every recoverable delivery that is unfinished and due. -/
theorem Recoverable.listed {queue : JobQueue String WebhookDeliveryJobData} {now : Instant}
    (recoverable : Recoverable queue row) (unfinished : row.unfinished) (due : row.due now) :
    reconcilable now row := by
  have dated := recoverable.dated
  cases date : row.nextAttemptAt <;> cases status : row.status <;>
    simp_all [reconcilable, WebhookDeliveryEntity.unfinished, WebhookDeliveryStatus.terminal,
      WebhookDeliveryEntity.due]

/-- A pass on its own attends to every unfinished delivery that is due. -/
theorem AllRecoverable.noneStuck (held : AllRecoverable world) : NoneStuck world := by
  intro row member unfinished due
  obtain ⟨count, ended⟩ := relay_ok world
  have relayed := extends_run relay_relays world
  have listed := (held row member).listed unfinished due
  have extended : Extends world (reconciled world) := by
    rw [reconciled_eq ended]
    exact relayed.trans (extends_run (reenqueue_relays _) _)
  have found : (reconciled world).queue.get row.jobId ≠ none := by
    rw [reconciled_eq ended]
    exact reenqueue_run (List.mem_filter.mpr ⟨relayed.rows row member, listed⟩) _
  obtain ⟨job, there⟩ := Option.ne_none_iff_exists'.mp found
  refine .inr (JobQueue.runnable_of_get there (Bool.eq_false_iff.mpr fun done => ?_))
  have going := (held row member).going unfinished
  rw [extended.finished row.jobId done] at going
  cases going

/-! ## The discipline of the requests -/

/-- Lossless calls keep the rows recoverable, and a pass that has ended has recovered. -/
def recovering (config : Config) : Discipline (webhooks config) where
  inv := AllRecoverable
  rely _ _ := True
  assumes _ _ event := answered event → Lossless event.before event.query
  guar _ _ _ := True
  post entry _ past := entry = .reconcile → Recovers past

variable {entry : Entry} {past : List (Event (webhooks config))} {α : Type}

theorem AllRecoverable.answers (held : AllRecoverable before) (dated : query.dated)
    (answers : Answers (webhooks config) query before answer after)
    (lossless : answer.isOk → Lossless before query) : AllRecoverable after := by
  rcases answers.elim with ⟨rfl, rfl⟩ | ⟨error, -, -, rfl⟩
  · exact held.served dated lossless
  · exact held

theorem dated_keeps {handler : Request α} {post : Discipline.Post (webhooks config) α}
    (calls : handler.Calls Call.dated) (ends : ∀ result later, post result later) :
    (recovering config).Keeps entry post handler past :=
  .of_calls calls (fun _ dated _ _ _ _ held answers lossless =>
    ⟨trivial, held.answers dated answers lossless⟩) fun result _ _ => ends result _

theorem isListing_of_relays {event : Event (webhooks config)} (relays : event.query.relays) :
    isListing event = false := by
  obtain ⟨before, query, answer, after⟩ := event
  cases query <;> first | rfl | exact relays.elim

/-- Before it has listed, a pass has nothing to show. -/
theorem recovers_of_unlisted (unlisted : ∀ event ∈ past, isListing event = false) :
    Recovers past := by
  intro listing now found
  have listed := List.find?_some found
  rw [unlisted listing (List.mem_of_find?_eq_some found)] at listed
  cases listed

/-- What the pass has to show for the deliveries that it has listed. -/
theorem recovers_of_listed {listing : Event (webhooks config)}
    {more earlier : List (Event (webhooks config))} (listed : isListing listing)
    (after : ∀ event ∈ more, isListing event = false)
    (enqueued : Reached more → ∀ now, listing.query = .findReconcilable now →
      ∀ row ∈ listing.before.deliveries.rows, row.unfinished → row.due now →
        ∃ event ∈ more, Enqueued event.after row) : Recovers (more ++ listing :: earlier) := by
  intro found now first query reached row member unfinished due
  have none_ : more.find? isListing = none :=
    List.find?_eq_none.mpr fun event there => by simp [after event there]
  rw [List.find?_append, none_, Option.none_or, List.find?_cons_of_pos listed] at first
  cases first
  have since : sinceListing (more ++ listing :: earlier) = more := by
    unfold sinceListing
    rw [List.takeWhile_append_of_pos fun event there => by simp [after event there],
      List.takeWhile_cons_of_neg (by simp [listed]), List.append_nil]
  rw [since] at reached ⊢
  exact enqueued reached now query row member unfinished due

/-- Calls after the listing that see or add a job for each of the deliveries. -/
structure Shows (deliveries : List WebhookDeliveryEntity) (events : List (Event (webhooks config))) :
    Prop where
  relays : ∀ event ∈ events, event.query.relays
  enqueued : Reached events → ∀ row ∈ deliveries, ∃ event ∈ events, Enqueued event.after row

theorem Shows.cons {first more : List (Event (webhooks config))}
    {rest : List WebhookDeliveryEntity} (own : Shows [row] first) (others : Shows rest more) :
    Shows (row :: rest) (more ++ first) := by
  constructor
  · intro event member
    rcases List.mem_append.mp member with late | early
    · exact others.relays event late
    · exact own.relays event early
  · intro reached other member
    rcases List.mem_cons.mp member with rfl | later
    · obtain ⟨event, there, enqueued⟩ := own.enqueued
        (fun event early => reached event (List.mem_append_right _ early)) other (by simp)
      exact ⟨event, List.mem_append_right _ there, enqueued⟩
    · obtain ⟨event, there, enqueued⟩ := others.enqueued
        (fun event late => reached event (List.mem_append_left _ late)) other later
      exact ⟨event, List.mem_append_left _ there, enqueued⟩

/-- After the listing, each delivery in turn: its job is found, or one is added. -/
theorem reenqueue_keeps {candidates : List WebhookDeliveryEntity}
    {post : Discipline.Post (webhooks config) ℕ}
    (ends : ∀ result more, Shows candidates more → post result (more ++ past)) :
    (recovering config).Keeps entry post (reenqueue candidates) past := by
  induction candidates generalizing past post with
  | nil => exact ends (.ok 0) [] ⟨by simp, by simp⟩
  | cons delivery rest ih =>
    refine fun before answer after behind held answers lossless => ?_
    have dated : Call.dated (.getJob delivery.jobId) := trivial
    have kept : AllRecoverable after := held.answers dated answers lossless
    refine ⟨trivial, kept, ?_⟩
    let asked : Event (webhooks config) := ⟨before, .getJob delivery.jobId, answer, after⟩
    cases answer with
    | error error =>
      refine ends (.ok 0) [asked] ⟨by simp [asked, Call.relays], fun reached => ?_⟩
      cases reached asked (by simp) rfl
    | ok existing =>
      obtain ⟨seen, rfl⟩ : existing = before.queue.get delivery.jobId ∧ after = before := by
        rcases answers.elim with ⟨served, same⟩ | ⟨error, -, never, -⟩
        · cases served
          exact ⟨rfl, same⟩
        · cases never
      cases existing with
      | some job =>
        have own : Shows [delivery] [asked] := by
          refine ⟨by simp [asked, Call.relays], fun _ row member => ?_⟩
          rw [List.mem_singleton] at member
          subst member
          exact ⟨asked, by simp, kept.enqueued (by rw [← seen]; exact Option.some_ne_none job)⟩
        change (recovering config).Keeps entry post (reenqueue rest) (asked :: past)
        refine ih fun result more others => ?_
        have ended := ends result (more ++ [asked]) (own.cons others)
        rwa [List.append_assoc] at ended
      | none =>
        change (recovering config).Keeps entry post
          ((enqueue delivery.eventId delivery.subscriptionId).bind fun _ =>
            (reenqueue rest).bind fun others => .ret (others + 1)) (asked :: past)
        refine fun before' answer' after' behind' held' answers' lossless' => ?_
        have dated' : Call.dated (.addJob (deliveryJob delivery.eventId delivery.subscriptionId)) := rfl
        have kept' : AllRecoverable after' := held'.answers dated' answers' lossless'
        refine ⟨trivial, kept', ?_⟩
        let added : Event (webhooks config) :=
          ⟨before', .addJob (deliveryJob delivery.eventId delivery.subscriptionId), answer', after'⟩
        have own : Shows [delivery] [added, asked] := by
          refine ⟨by simp [asked, added, Call.relays, Job.finished, deliveryJob], ?_⟩
          intro reached row member
          rw [List.mem_singleton] at member
          subst member
          refine ⟨added, by simp, kept'.enqueued ?_⟩
          rcases answers'.elim with ⟨-, same⟩ | ⟨error, -, failed, -⟩
          · rw [same]
            exact JobQueue.get_add
          · have taken : answered added := reached added (by simp) rfl
            simp only [added, answered, failed] at taken
            cases taken
        have onward : (recovering config).Keeps entry post
            ((reenqueue rest).bind fun others => .ret (others + 1)) (added :: asked :: past) := by
          refine .bind (ih fun result more others => ?_)
          have ended := fun result => ends result (more ++ [added, asked]) (own.cons others)
          simp only [List.append_assoc, List.cons_append, List.nil_append] at ended
          cases result with
          | ok value => exact ended (.ok (value + 1))
          | error error => exact ended (.error error)
        cases answer' with
        | ok value => exact onward
        | error error => exact onward

/-- A pass among other requests, from its beginning. -/
theorem reconcile_keeps :
    (recovering config).Keeps entry (fun _ later => Recovers later) reconcile [] := by
  refine .perform_bind fun before answer after behind held answers lossless => ?_
  have dated : Call.dated .now := trivial
  refine ⟨trivial, held.answers dated answers lossless, ?_⟩
  have unlisted : ∀ added : List (Event (webhooks config)), (∀ event ∈ added, event.query.relays) →
      ∀ event ∈ added ++ [⟨before, .now, answer, after⟩], isListing event = false := by
    intro added relays event member
    rcases List.mem_append.mp member with late | first
    · exact isListing_of_relays (relays event late)
    · rw [List.mem_singleton] at first
      subst first
      rfl
  cases answer with
  | error error => exact recovers_of_unlisted (unlisted [] (by simp))
  | ok now =>
    refine .bind (.of_calls relay_relays (fun query relays _ _ _ _ held answers lossless =>
      ⟨trivial, held.answers (dated_of_relays relays) answers lossless⟩) fun result added relays => ?_)
    cases result with
    | error error => exact recovers_of_unlisted (unlisted added relays)
    | ok dispatchedOutbox =>
      refine .perform_bind fun before' answer' after' behind' held' answers' lossless' => ?_
      have dated' : Call.dated (.findReconcilable now) := trivial
      refine ⟨trivial, held'.answers dated' answers' lossless', ?_⟩
      cases answer' with
      | error error =>
        refine recovers_of_unlisted fun event member => ?_
        rcases List.mem_cons.mp member with rfl | early
        · rfl
        · exact unlisted added relays event early
      | ok candidates =>
        obtain rfl : candidates = before'.deliveries.rows.filter (reconcilable now) := by
          rcases answers'.elim with ⟨served, -⟩ | ⟨error, -, never, -⟩
          · cases served
            rfl
          · cases never
        refine .bind (reenqueue_keeps fun result more shows => ?_)
        let listing : Event (webhooks config) := ⟨before', .findReconcilable now,
          .ok (before'.deliveries.rows.filter (reconcilable now)), after'⟩
        have recovers :
            Recovers (more ++ listing :: (added ++ [⟨before, .now, .ok now, after⟩])) := by
          refine recovers_of_listed rfl
            (fun event there => isListing_of_relays (shows.relays event there)) ?_
          intro reached now' query row member unfinished due
          cases query
          exact shows.enqueued reached row
            (List.mem_filter.mpr ⟨member, (held' row member).listed unfinished due⟩)
        cases result <;> exact recovers

theorem handler_recovers (entry : Entry) : (recovering config).Keeps entry
    (fun _ past => entry = .reconcile → Recovers past) (handler config entry) [] := by
  by_cases same : entry = .reconcile
  · subst same
    refine .tryCatch (.bind (reconcile_keeps.mono fun result later recovers => ?_))
    cases result <;> exact fun _ => recovers
  · exact dated_keeps ((handler_conducts config entry).calls fun _ _ => dated_of_permits)
      fun _ _ equal => absurd equal same

theorem recovering_sound (config : Config) : (recovering config).Sound where
  refl _ := trivial
  trans _ _ := trivial
  start := by simp [recovering, AllRecoverable, webhooks, start, Table.empty]
  nudge how _ held := ⟨held.nudge how, trivial⟩
  guar_rely _ _ := trivial
  handlers := handler_recovers

theorem recovering_supplied : (recovering config).Supplies LosslessMove := by
  intro cfg move thread event rest run lossless acts
  simp only [LosslessMove, acts] at lossless
  exact lossless

/-! ## No delivery gets stuck -/

/-- In every run whose calls are lossless, every unfinished delivery that is due has a
job that can run, or is given one by a pass of the reconciliation; and every pass that
has ended and reached Redis has seen to those that were due when it began, whatever
happened meanwhile. -/
theorem no_delivery_stuck {cfg : Interleaving.Config (webhooks config)}
    (run : Run (webhooks config) LosslessMove cfg) : NoneStuck cfg.world ∧
      ∀ thread ∈ cfg.threads, thread.entry = .reconcile →
        ∀ reply, thread.rest = .ret reply → Recovers thread.past := by
  have recoverable := run.disciplined (recovering_sound config) recovering_supplied
  refine ⟨recoverable.1.noneStuck, fun thread member entry reply ended => ?_⟩
  exact (run.ended (recovering_sound config) recovering_supplied member).1 reply ended entry

def turns (index count : ℕ) : List (Move (webhooks defaults)) := List.replicate count (.turn index)

def subscribed : WebhookSubscriptionEntity where
  id := "s1"
  bondId := "b1"
  createdBy := "u1"
  url := "https://receiver.example"
  eventTypes := ["*"]
  secretEncrypted := "whsec"

def produced : InsertOutboxEventInput where
  aggregateType := .activity
  aggregateId := "a1"
  bondId := "b1"
  eventType := "activity.created"
  aggregateVersion := 1
  payload := []

/-- One endpoint, and one delivery to be. -/
def answering (status : ℕ) : Surroundings where
  endpoints _ := { status := some status }
  activities _ := none
  isActiveBondForMember _ _ := true
  uuids _ := "d1"

/-- The fan-out of one event to one subscription, up to the job. -/
def fannedOut (status : ℕ) : List (Move (webhooks defaults)) :=
  [.nudge (.surroundings (answering status)), .nudge (.subscribe subscribed),
    .nudge (.produce "e1" produced), .arrive .poll] ++ turns 0 3

/-- The job of the delivery is never added, as Redis is down: the delivery waits for
the reconciliation. -/
theorem no_delivery_stuck_lost : ∃ cfg : Interleaving.Config (webhooks defaults),
    Run (webhooks defaults) LosslessMove cfg ∧ ∃ row ∈ cfg.world.deliveries.rows,
      row.unfinished ∧ row.due cfg.world.clock ∧ cfg.world.queue.get row.jobId = none ∧
        Attended cfg.world row := by
  obtain ⟨cfg, run, shown⟩ := exists_played LosslessMove (fannedOut 200 ++ [.fault 0])
    (fun cfg => cfg.world.deliveries.rows.any fun row =>
      row.unfinished && row.due cfg.world.clock && (cfg.world.queue.get row.jobId).isNone)
    (by decide +kernel)
  obtain ⟨row, member, shown⟩ := List.any_eq_true.mp shown
  obtain ⟨⟨unfinished, due⟩, missing⟩ : (row.unfinished ∧ row.due cfg.world.clock) ∧
      cfg.world.queue.get row.jobId = none := by simpa using shown
  exact ⟨cfg, run, row, member, unfinished, due, missing, (no_delivery_stuck run).1 row member unfinished due⟩

/-- An execution that cannot read the delivery, and the delay after it. -/
def thrown (index : ℕ) : List (Move (webhooks defaults)) :=
  [.arrive (.work "e1--s1" "w1"), .turn index, .fault index, .turn index,
    .nudge (.tick 36000000), .nudge (.promote "e1--s1")]

/-- Eight executions that cannot read the delivery leave it pending, with a failed job
that every pass takes for one that will run. -/
theorem delivery_stuck : ¬∀ cfg : Interleaving.Config (webhooks defaults),
    Reachable (webhooks defaults) cfg → NoneStuck cfg.world := by
  intro always
  obtain ⟨cfg, run, shown⟩ := exists_played (fun _ _ => True)
    (fannedOut 200 ++ turns 0 1 ++ (List.range' 1 8).flatMap thrown)
    (fun cfg => cfg.world.deliveries.rows.any fun row =>
      row.unfinished && row.due cfg.world.clock && !cfg.world.queue.runnable row.jobId &&
        !(reconciled cfg.world).queue.runnable row.jobId)
    (by decide +kernel)
  obtain ⟨row, member, shown⟩ := List.any_eq_true.mp shown
  simp only [Bool.and_eq_true, Bool.not_eq_true'] at shown
  obtain ⟨⟨⟨unfinished, due⟩, halted⟩, passed⟩ := shown
  rcases always cfg run row member unfinished due with runs | added
  · rw [halted] at runs
    cases runs
  · rw [passed] at added
    cases added

end ParentalCoord.Webhooks

import ParentalCoord.Webhooks.InStep

/-!
Whether the bookkeeping of the attempts stays in lockstep.

The row of a delivery counts its attempts and the queue counts the executions of its job.
As long as nothing but the endpoint fails, the two agree at every execution, and the job
ends with its delivery.
-/

namespace ParentalCoord.Webhooks

open Interleaving Store

variable {config : Config} {cfg cfg' : Interleaving.Config (webhooks config)}
  {move : Move (webhooks config)} {thread : Thread (webhooks config)}
  {event : Event (webhooks config)} {rest : Request Reply} {x : Execution}
  {row : WebhookDeliveryEntity} {posts : ℕ}
  {allowed : Interleaving.Config (webhooks config) → Move (webhooks config) → Prop}

/-! ## The bookkeeping of a job -/

/-- How often the delivery has been requested. -/
def postsOf (id : Uuid) (moments : List (Moment (webhooks config))) : ℕ :=
  moments.countP fun moment => decide (Posts id moment.1 moment.2)

/-- The job that a call reports an execution of. -/
def Call.concludes : Call → Option String
  | .moveToCompleted jobId _ | .moveToFailed jobId _ => some jobId
  | _ => none

/-- The queue has accepted the report of an execution of the job. -/
def Concluded (jobId : String) (event : Event (webhooks config)) : Prop :=
  event.query.concludes = some jobId ∧ event.answer.isOk = true

instance (jobId : String) (event : Event (webhooks config)) : Decidable (Concluded jobId event) :=
  inferInstanceAs (Decidable (_ ∧ _))

/-- The move completes an execution of the job. -/
def Concludes (jobId : String) (cfg : Interleaving.Config (webhooks config)) (move : Move (webhooks config)) :
    Prop :=
  ∃ act ∈ cfg.acts move, Concluded jobId act.2.1

instance (jobId : String) (cfg : Interleaving.Config (webhooks config)) (move : Move (webhooks config)) :
    Decidable (Concludes jobId cfg move) := inferInstanceAs (Decidable (∃ act ∈ cfg.acts move, _))

/-- How many executions of the job have been completed. -/
def executionsOf (jobId : String) (moments : List (Moment (webhooks config))) : ℕ :=
  moments.countP fun moment => decide (Concludes jobId moment.1 moment.2)

variable {moments newer older : List (Moment (webhooks config))} {world : World} {query : Call}
  {job job' : DeliveryJob}

/-! ## What the queue counts -/

theorem concludes_of_sparesQueue (still : query.sparesQueue) : query.concludes = none := by
  cases query with
  | moveToCompleted | moveToFailed => exact still.elim
  | _ => rfl

/-- A call leaves what is counted of a job as it is, but for a report of it that is accepted. -/
theorem made_served (found : world.queue.get row.jobId = some job)
    (left : (serve query world).2.queue.get row.jobId = some job') :
    job'.attemptsMade = job.attemptsMade +
      if query.concludes = some row.jobId ∧ (serve query world).1.isOk = true then 1 else 0 := by
  have spared (apart : query.spares row) (silent : query.concludes ≠ some row.jobId) :
      job'.attemptsMade = job.attemptsMade +
        if query.concludes = some row.jobId ∧ (serve query world).1.isOk = true then 1 else 0 := by
    rw [job_spared found apart] at left
    cases left
    rw [if_neg fun reported => silent reported.1, Nat.add_zero]
  by_cases still : query.sparesQueue
  · rw [queue_spared still, found] at left
    cases left
    rw [if_neg fun reported => by simp [concludes_of_sparesQueue still] at reported, Nat.add_zero]
  have key := JobQueue.id_of_get found
  cases query with
  | addJob added => exact spared trivial (Option.some_ne_none _).symm
  | removeJob named =>
    by_cases own : named = row.jobId
    · subst own
      simp only [serve, World.queued, JobQueue.remove] at left
      split at left
      · rw [found] at left
        cases left
        rfl
      · rename_i removed
        split at removed
        · cases removed
        · cases removed
          change (Table.filter _ _).get row.jobId = some job' at left
          rw [Table.get_filter, show world.queue.jobs.get row.jobId = some job from found] at left
          simp only [Option.filter_some, Option.ite_none_right_eq_some, Option.some.injEq] at left
          obtain ⟨kept, rfl⟩ := left
          exact absurd key (of_decide_eq_true kept)
    · exact spared own (Option.some_ne_none _).symm
  | updateData named data =>
    by_cases own : named = row.jobId
    · subst own
      simp only [serve, World.queued, JobQueue.updateData, found, Option.map_some] at left
      rw [JobQueue.get_set (by simp [key, found]), if_pos key.symm, Option.some.injEq] at left
      subst left
      rfl
    · exact spared own (Option.some_ne_none _).symm
  | takeJob named =>
    by_cases own : named = row.jobId
    · subst own
      simp only [serve, JobQueue.take] at left
      split at left
      · rw [found] at left
        cases left
        rfl
      · rename_i taken waiting
        obtain ⟨there, -⟩ := Option.filter_eq_some_iff.mp waiting
        rw [found, Option.some.injEq] at there
        subst there
        change (world.queue.set { job with state := .active world.queue.nextToken }).get row.jobId = _ at left
        rw [JobQueue.get_set (by simp [key, found]), if_pos key.symm, Option.some.injEq] at left
        subst left
        rfl
    · exact spared own (Option.some_ne_none _).symm
  | moveToCompleted named token =>
    by_cases own : named = row.jobId
    · subst own
      simp only [serve, World.queued, JobQueue.complete, Call.concludes, true_and] at left ⊢
      cases held : world.queue.held row.jobId token with
      | none =>
        rw [held] at left
        cases found.symm.trans left
        rfl
      | some old =>
        obtain ⟨there, -⟩ := JobQueue.held_cases held
        rw [found, Option.some.injEq] at there
        subst there
        simp only [held, Option.map_some] at left ⊢
        rw [JobQueue.get_set (by simp [key, found]), if_pos key.symm, Option.some.injEq] at left
        subst left
        rfl
    · exact spared own fun same => own (Option.some.inj same)
  | moveToFailed named token =>
    by_cases own : named = row.jobId
    · subst own
      simp only [serve, World.queued, JobQueue.fail, Call.concludes, true_and] at left ⊢
      cases held : world.queue.held row.jobId token with
      | none =>
        rw [held] at left
        cases found.symm.trans left
        rfl
      | some old =>
        obtain ⟨there, -⟩ := JobQueue.held_cases held
        rw [found, Option.some.injEq] at there
        subst there
        simp only [held, Option.map_some] at left ⊢
        rw [JobQueue.get_set (by simp [key, found]), if_pos key.symm, Option.some.injEq] at left
        subst left
        rfl
    · exact spared own fun same => own (Option.some.inj same)
  | _ => exact absurd trivial still

/-- A move raises what the queue counts by one when it completes an execution, and else leaves it. -/
theorem made_advance (found : cfg.world.queue.get row.jobId = some job) (unhindered : Unhindered row cfg move)
    (moved : advance move cfg = some cfg') (left : cfg'.world.queue.get row.jobId = some job') :
    job'.attemptsMade = job.attemptsMade + if Concludes row.jobId cfg move then 1 else 0 := by
  rcases advance_cases moved with ⟨how, rfl, rfl⟩ | ⟨entry, rfl, rfl⟩ | ⟨index, rfl, rfl⟩ |
    ⟨index, thread, event, rest, at_, acts, rfl⟩
  · have quiet : ¬Concludes row.jobId cfg (.nudge how) := fun ⟨_, acted, _⟩ => by cases acted
    rw [if_neg quiet]
    rcases job_kept found unhindered.1 with same | ⟨-, woken⟩
    · cases left.symm.trans same
      rfl
    · cases left.symm.trans woken
      rfl
  · have quiet : ¬Concludes row.jobId cfg (.arrive entry) := fun ⟨_, acted, _⟩ => by cases acted
    rw [if_neg quiet]
    cases found.symm.trans left
    rfl
  · have quiet : ¬Concludes row.jobId cfg (.crash index) := fun ⟨_, acted, _⟩ => by cases acted
    rw [if_neg quiet]
    cases found.symm.trans left
    rfl
  · have concludes : Concludes row.jobId cfg move ↔ Concluded row.jobId event := by
      simp [Concludes, acts]
    obtain ⟨-, query, next, answer, after, -, rfl, -, answers⟩ := acts_cases acts
    rcases answers.elim with ⟨rfl, rfl⟩ | ⟨error, -, rfl, rfl⟩
    · rw [made_served found left]
      congr 1
      exact if_congr concludes.symm rfl rfl
    · cases found.symm.trans left
      have quiet : ¬Concludes row.jobId cfg move := fun concluded => by cases (concludes.mp concluded).2
      rw [if_neg quiet, Nat.add_zero]

theorem inStep_of_chronicle (chronicle : Chronicle (webhooks config) allowed (newer ++ older) cfg)
    (unattempted : Unattempted row (ledTo newer cfg))
    (unhindered : ∀ moment ∈ newer, Unhindered row moment.1 moment.2) :
    InStep row (postsOf row.id newer) cfg ∧
      ∀ job, cfg.world.queue.get row.jobId = some job → job.attemptsMade = executionsOf row.jobId newer := by
  induction newer generalizing cfg with
  | nil =>
    refine ⟨unattempted.inStep, fun job found => ?_⟩
    obtain ⟨first, belongs, -, made⟩ := unattempted.queued
    cases found.symm.trans belongs.queued
    exact made
  | cons last newer ih =>
    cases chronicle with
    | @step _ past _ made earlier permitted moved =>
      have allowed := unhindered (past, made) List.mem_cons_self
      obtain ⟨before, counted⟩ := ih earlier unattempted fun moment member =>
        unhindered moment (List.mem_cons_of_mem _ member)
      have after := before.advance earlier.run allowed moved
      refine ⟨by simpa [postsOf, List.countP_cons] using after, fun job' left => ?_⟩
      obtain ⟨now, job, belongs, -⟩ := before.phased
      rw [made_advance belongs.queued allowed moved left, counted job belongs.queued]
      simp [executionsOf, List.countP_cons]

/-- The bookkeeping of one job: the attempt of an execution has its number, what is observed of it
is what is written, the queue waits as long as the row says, no execution ends before it has reported,
each that has reported is counted once, and the job ends with its delivery, after so many of them at
most. -/
structure Lockstep (row : WebhookDeliveryEntity) (posts executions : ℕ)
    (cfg : Interleaving.Config (webhooks config)) : Prop where
  numbered : ∀ thread ∈ cfg.threads, ∀ x read, stageOf thread = .busy x → x.jobId = row.jobId →
    x.row = some (some read) → read.attemptCount + 1 = x.job.attemptsMade + 1 ∧
      x.job.attemptsMade + 1 ≤ WEBHOOK_MAX_ATTEMPTS
  observed : ∀ thread ∈ cfg.threads, ∀ x patch, stageOf thread = .busy x → x.jobId = row.jobId →
    x.written = some patch → ∃ input, x.observed = some input ∧ input.status = patch.status ∧
      input.attempt = x.job.attemptsMade + 1
  delayed : ∀ move thread event rest token, cfg.acts move = some (thread, event, rest) →
    event.query = .moveToFailed row.jobId token → ∃ x patch job, stageOf thread = .busy x ∧
      x.written = some patch ∧ cfg.world.queue.held row.jobId token = some job ∧
      patch.nextAttemptAt =
        some (some (x.clock + webhookBackoffStrategy (job.attemptsMade + 1) job.data))
  capped : posts ≤ WEBHOOK_MAX_ATTEMPTS
  reports : ∀ thread ∈ cfg.threads, ∀ x, stageOf thread = .busy x → x.jobId = row.jobId →
    ∃ query next, thread.rest = .call query next
  ends : ∃ job now, cfg.world.queue.get row.jobId = some job ∧
    cfg.world.deliveries.get row.id = some now ∧ job.attemptsMade = executions ∧
    executions ≤ WEBHOOK_MAX_ATTEMPTS ∧ (executions = WEBHOOK_MAX_ATTEMPTS → job.finished = true) ∧
    (job.finished = true → now.status ∈ [.SUCCEEDED, .FAILED, .DEAD] ∧ now.attemptCount = posts)

theorem InStep.matches (inStep : InStep row posts cfg) (member : thread ∈ cfg.threads)
    (busy : stageOf thread = .busy x) (same : x.jobId = row.jobId) :
    ∃ now job, Belongs row now job cfg.world ∧ job.state = .active x.token ∧
      job.attemptsMade < WEBHOOK_MAX_ATTEMPTS ∧ x.Matches row now job posts := by
  obtain ⟨now, job, belongs, phased⟩ := inStep.phased
  have executes : executing row.jobId thread = true := executing_eq_true.mpr ⟨x, busy, same⟩
  obtain ⟨state, -, -, below, matched⟩ := phased.active (List.mem_filter.mpr ⟨member, executes⟩) busy
  exact ⟨now, job, belongs, state, below, matched⟩

theorem InStep.delayed (inStep : InStep row posts cfg) (run : Run (webhooks config) allowed cfg)
    {token : ℕ} (acts : cfg.acts move = some (thread, event, rest))
    (reports : event.query = .moveToFailed row.jobId token) :
    ∃ x patch job, stageOf thread = .busy x ∧ x.written = some patch ∧
      cfg.world.queue.held row.jobId token = some job ∧ patch.nextAttemptAt =
        some (some (x.clock + webhookBackoffStrategy (job.attemptsMade + 1) job.data)) := by
  have permitted := stage_permits run acts
  rw [reports] at permitted
  cases stage : stageOf thread with
  | apart =>
    rw [stage] at permitted
    rcases permitted with elsewhere | ⟨id, same⟩
    · exact elsewhere.elim
    · cases same
  | idle jobId =>
    rw [stage] at permitted
    cases permitted
  | finished =>
    rw [stage] at permitted
    exact permitted.elim
  | busy x =>
    rw [stage] at permitted
    obtain ⟨same, rfl, throws⟩ := permitted
    obtain ⟨now, job, belongs, state, -, matched⟩ := inStep.matches (acts_cases acts).1 stage same.symm
    obtain ⟨patch, written, retrying, stashed⟩ := throws.resolve_left (by simp [matched.unfailed])
    obtain ⟨-, -, read, result, found, asked, settles⟩ := matched.written patch written
    obtain ⟨answer, told, kept⟩ := matched.stashed stashed
    cases asked.symm.trans told
    refine ⟨x, patch, job, rfl, written, belongs.held state, ?_⟩
    rw [settles.due retrying, webhookBackoffStrategy, kept, matched.counts found]

/-- An execution that is under way makes one more call. -/
theorem InStep.reports (inStep : InStep row posts cfg) (run : Run (webhooks config) allowed cfg)
    (member : thread ∈ cfg.threads) (busy : stageOf thread = .busy x) (same : x.jobId = row.jobId) :
    ∃ query next, thread.rest = .call query next := by
  obtain ⟨now, job, -, -, -, matched⟩ := inStep.matches member busy same
  have follows : Books Reported (stageOf thread) thread.rest := run.follows handler_books thread member
  cases shape : thread.rest with
  | call query next => exact ⟨query, next, rfl⟩
  | ret reply =>
    rw [shape] at follows
    cases (follows x busy).symm.trans matched.unfailed
  | throw error =>
    rw [shape] at follows
    cases (follows x busy).symm.trans matched.unfailed

theorem mem_of_terminal {status : WebhookDeliveryStatus} (terminal : status.terminal = true) :
    status ∈ [WebhookDeliveryStatus.SUCCEEDED, .FAILED, .DEAD] := by
  cases status <;> first | decide | cases terminal

/-- **The attempts of a delivery and the executions of its job are counted alike, in every run of the
job in which nothing but the endpoint fails.**  Each execution that is completed is one more that both
count, and with the last that there can be, if not before, the delivery has succeeded, failed or died. -/
theorem lockstep (chronicle : Chronicle (webhooks config) (fun _ _ => True) (newer ++ older) cfg)
    (unattempted : Unattempted row (ledTo newer cfg))
    (unhindered : ∀ moment ∈ newer, Unhindered row moment.1 moment.2) :
    Lockstep row (postsOf row.id newer) (executionsOf row.jobId newer) cfg := by
  obtain ⟨inStep, counted⟩ := inStep_of_chronicle chronicle unattempted unhindered
  refine ⟨fun thread member x read busy same found => ?_,
    fun thread member x patch busy same written => ?_, fun move thread event rest token acts reports =>
      inStep.delayed chronicle.run acts reports, ?_, fun thread member x busy same =>
      inStep.reports chronicle.run member busy same, ?_⟩
  · obtain ⟨now, job, -, -, below, matched⟩ := inStep.matches member busy same
    rw [matched.counts found, matched.made]
    exact ⟨rfl, below⟩
  · obtain ⟨now, job, -, -, -, matched⟩ := inStep.matches member busy same
    obtain ⟨-, -, read, result, found, -, settles⟩ := matched.written patch written
    obtain ⟨input, observed, attempt, status⟩ := settles.observed
    refine ⟨input, observed, status, ?_⟩
    rw [attempt, matched.counts found, matched.made]
  · obtain ⟨now, job, -, phased⟩ := inStep.phased
    cases state : job.state with
    | active token =>
      rw [state] at phased
      obtain ⟨thread, x, -, -, -, -, below, matched⟩ := phased
      rw [matched.posts]
      split <;> omega
    | waiting | delayed =>
      rw [state] at phased
      obtain ⟨-, -, -, below, made⟩ := phased
      omega
    | completed =>
      rw [state] at phased
      obtain ⟨-, -, -, below, made⟩ := phased
      omega
    | failed =>
      rw [state] at phased
      exact phased.elim
  · obtain ⟨now, job, belongs, phased⟩ := inStep.phased
    have executed := counted job belongs.queued
    refine ⟨job, now, belongs.queued, belongs.there, executed, ?_⟩
    rw [← executed, Job.finished]
    cases state : job.state with
    | active token =>
      rw [state] at phased
      obtain ⟨thread, x, -, -, -, -, below, matched⟩ := phased
      exact ⟨below.le, fun last => absurd last below.ne,
        fun finished => absurd finished Bool.false_ne_true⟩
    | waiting | delayed =>
      rw [state] at phased
      have below := phased.2.2.2.1
      exact ⟨below.le, fun last => absurd last below.ne,
        fun finished => absurd finished Bool.false_ne_true⟩
    | completed =>
      rw [state] at phased
      obtain ⟨-, terminal, count, below, made⟩ := phased
      exact ⟨below, fun _ => rfl, fun _ => ⟨mem_of_terminal terminal, count.trans made.symm⟩⟩
    | failed =>
      rw [state] at phased
      exact phased.elim

/-- The first execution gets a 503, and the second one succeeds. -/
def retriedOnce : List (Move (webhooks defaults)) :=
  [.arrive (.work "e1--s1" "w1")] ++ turns 1 17 ++
    [.nudge (.surroundings (answering 200)), .arrive (.work "e1--s1" "w2")] ++ turns 2 16

def idles (thread : Thread (webhooks defaults)) : Bool :=
  match stageOf thread with
  | .busy _ => false
  | _ => true

/-- A delivery whose job begins there. -/
def begins (row : WebhookDeliveryEntity) (cfg : Interleaving.Config (webhooks defaults)) : Bool :=
  row.status = .PENDING && row.attemptCount = 0 && cfg.threads.all idles &&
    (cfg.world.queue.get row.jobId).any fun job => job.state = .waiting && job.attemptsMade = 0 &&
      !job.data.test && job.data.eventId = row.eventId && job.data.subscriptionId = row.subscriptionId &&
      job.attempts = some WEBHOOK_MAX_ATTEMPTS

theorem unattempted_of_begins {cfg : Interleaving.Config (webhooks defaults)}
    (member : row ∈ cfg.world.deliveries.rows) (begun : begins row cfg = true) :
    Unattempted row cfg := by
  simp only [begins, Bool.and_eq_true, decide_eq_true_eq] at begun
  obtain ⟨⟨⟨pending, count⟩, idle⟩, queued⟩ := begun
  obtain ⟨job, there, shown⟩ := (Option.any_eq_true _ _).mp queued
  simp only [Bool.and_eq_true, decide_eq_true_eq, Bool.not_eq_true'] at shown
  obtain ⟨⟨⟨⟨⟨waiting, made⟩, delivers⟩, event⟩, subscription⟩, limit⟩ := shown
  have belongs : Belongs row row job cfg.world :=
    ⟨Table.get_of_mem member, ⟨rfl, rfl⟩, there, delivers, ⟨event, subscription⟩, limit⟩
  refine ⟨pending, count, ⟨job, belongs, waiting, made⟩, fun thread among x busy => ?_⟩
  have idles_ := List.all_eq_true.mp idle thread among
  rw [idles, busy] at idles_
  cases idles_

/-- A delivery that is retried once has succeeded with its second request. -/
theorem lockstep_retried : ∃ (newer older : List (Moment (webhooks defaults)))
    (cfg : Interleaving.Config (webhooks defaults)) (row now : WebhookDeliveryEntity),
    Chronicle (webhooks defaults) (fun _ _ => True) (newer ++ older) cfg ∧
      Unattempted row (ledTo newer cfg) ∧ (∀ moment ∈ newer, Unhindered row moment.1 moment.2) ∧
      Lockstep row 2 2 cfg ∧ cfg.world.queue.finished row.jobId = true ∧
      cfg.world.deliveries.get row.id = some now ∧ now.status = .SUCCEEDED ∧ now.attemptCount = 2 := by
  obtain ⟨moments, cfg, chronicle, shown⟩ := exists_followed (fun _ _ => True)
    (fannedOut 503 ++ turns 0 1 ++ retriedOnce) (fun moments cfg =>
      let newer := moments.take 36
      let first := ledTo newer cfg
      first.world.deliveries.rows.any fun row => begins row first &&
        newer.all (fun moment => decide (Unhindered row moment.1 moment.2)) &&
        cfg.world.queue.finished row.jobId && decide (postsOf row.id newer = 2) &&
        decide (executionsOf row.jobId newer = 2) &&
        (cfg.world.deliveries.get row.id).any (·.status = .SUCCEEDED))
    (by decide +kernel)
  obtain ⟨row, member, shown⟩ := List.any_eq_true.mp shown
  simp only [Bool.and_eq_true, decide_eq_true_eq] at shown
  obtain ⟨⟨⟨⟨⟨begun, unhindered⟩, finished⟩, posts⟩, executions⟩, succeeded⟩ := shown
  rw [← List.take_append_drop 36 moments] at chronicle
  have first := unattempted_of_begins member begun
  have smooth : ∀ moment ∈ moments.take 36, Unhindered row moment.1 moment.2 := fun moment there =>
    of_decide_eq_true (List.all_eq_true.mp unhindered moment there)
  have bookkept := lockstep chronicle first smooth
  rw [posts, executions] at bookkept
  obtain ⟨job, now, queued, found, -, -, -, ended⟩ := bookkept.ends
  rw [found, Option.any_some, decide_eq_true_eq] at succeeded
  have done : job.finished = true := by
    rw [JobQueue.finished, queued, Option.any_some] at finished
    exact finished
  exact ⟨_, _, cfg, row, now, chronicle, first, smooth, bookkept, finished, found, succeeded, (ended done).2⟩

end ParentalCoord.Webhooks

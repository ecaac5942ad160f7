import ParentalCoord.Webhooks.Executions
import ParentalCoord.Webhooks.Ledger
import ParentalCoord.Webhooks.Replay

/-!
The row of a delivery and its job, in step.

A run of one job goes from a delivery that has not been attempted to one that is finished.
In it nothing but the endpoint fails (`Unhindered`).  What the row counts and what the queue
counts are then kept in step by each move: of the execution, and of everybody else.
-/

namespace ParentalCoord.Webhooks

open Interleaving Store

variable {config : Config} {cfg cfg' : Interleaving.Config (webhooks config)}
  {move : Move (webhooks config)} {thread : Thread (webhooks config)}
  {event : Event (webhooks config)} {rest : Request Reply} {id jobId : String} {x : Execution}
  {world : World} {query : Call} {row now : WebhookDeliveryEntity} {job : DeliveryJob} {posts : ℕ}

/-! ## The run of one job -/

/-- The thread executes the job. -/
def executing (jobId : String) (thread : Thread (webhooks config)) : Bool :=
  match stageOf thread with
  | .busy x => x.jobId = jobId
  | _ => false

/-- Something has gone wrong in an execution that is not the answer of the endpoint. -/
def Stage.fails : Stage → Bool
  | .busy x => x.failed
  | _ => false

/-- The row is of the delivery and the job is its job. -/
structure Belongs (row now : WebhookDeliveryEntity) (job : DeliveryJob) (world : World) : Prop where
  there : world.deliveries.get row.id = some now
  pair : now.eventId = row.eventId ∧ now.subscriptionId = row.subscriptionId
  queued : world.queue.get row.jobId = some job
  delivers : job.data.test = false
  data : job.data.eventId = row.eventId ∧ job.data.subscriptionId = row.subscriptionId
  limit : job.attempts = some WEBHOOK_MAX_ATTEMPTS

/-- The delivery has not been attempted, its job is waiting, and nobody executes it. -/
structure Unattempted (row : WebhookDeliveryEntity) (cfg : Interleaving.Config (webhooks config)) :
    Prop where
  pending : row.status = .PENDING
  count : row.attemptCount = 0
  queued : ∃ job, Belongs row row job cfg.world ∧ job.state = .waiting ∧ job.attemptsMade = 0
  idle : ∀ thread ∈ cfg.threads, ∀ x, stageOf thread = .busy x →
    x.jobId ≠ row.jobId ∧ ∀ read, x.row = some (some read) → read.id ≠ row.id

/-- Redis neither loses the job nor takes it for stalled, and has not forgotten it. -/
def keepsJob (jobId : String) : Nudge → Bool
  | .flush => false
  | .stall other => other ≠ jobId
  | .expire other => other ≠ jobId
  | _ => true

/-- The call of a replay of the delivery. -/
def replaysRow (row : WebhookDeliveryEntity) (entry : Entry) : Call → Bool
  | .removeJob jobId => jobId = row.jobId
  | .updateStatus id _ => id = row.id && !entry.works
  | _ => false

/-- The delivery is not replayed, and its executions find what they make their requests
with and fail at nothing else. -/
def Smooth (row : WebhookDeliveryEntity) (thread : Thread (webhooks config))
    (event : Event (webhooks config)) (rest : Request Reply) : Prop :=
  (event.after.deliveries.get row.id).isSome ∧ replaysRow row thread.entry event.query = false ∧
    (executing row.jobId (thread.after event rest) →
      (stageOf (thread.after event rest)).fails = false ∧
        ¬(errandOf (thread.after event rest)).bars row.id)

def Unhindered (row : WebhookDeliveryEntity) (cfg : Interleaving.Config (webhooks config)) :
    Move (webhooks config) → Prop
  | .nudge how => keepsJob row.jobId how ∧ ((nudge how cfg.world).deliveries.get row.id).isSome
  | .arrive _ => True
  | .crash index => ∀ thread ∈ cfg.threads[index]?, executing row.jobId thread = false
  | move => ∀ act ∈ cfg.acts move, Smooth row act.1 act.2.1 act.2.2

instance (thread : Thread (webhooks config)) (event : Event (webhooks config)) (rest : Request Reply) :
    Decidable (Smooth row thread event rest) := inferInstanceAs (Decidable (_ ∧ _ ∧ _))

instance (cfg : Interleaving.Config (webhooks config)) (move : Move (webhooks config)) :
    Decidable (Unhindered row cfg move) := by
  unfold Unhindered
  rcases move with ⟨⟩ <;> infer_instance

/-! ## The invariant -/

/-- What an execution knows and has done, and how far the row and the job are. -/
structure Execution.Matches (x : Execution) (row now : WebhookDeliveryEntity) (job : DeliveryJob)
    (posts : ℕ) : Prop where
  made : x.job.attemptsMade = job.attemptsMade
  limit : x.job.attempts = some WEBHOOK_MAX_ATTEMPTS
  delivers : x.job.data.test = false
  pair : x.job.data.eventId = row.eventId ∧ x.job.data.subscriptionId = row.subscriptionId
  read : x.row = none ∨ ∃ read, x.row = some (some read) ∧ read.id = row.id ∧
    read.attemptCount = job.attemptsMade
  unfailed : x.failed = false
  unwritten : x.written = none → now.unfinished ∧ now.attemptCount = job.attemptsMade
  written : ∀ patch, x.written = some patch → now.status = patch.status ∧
    now.attemptCount = job.attemptsMade + 1 ∧ ∃ read result, x.row = some (some read) ∧
      x.result = some result ∧ x.Settles read result patch
  stashed : x.stashed = true → ∃ result, x.result = some result ∧
    job.data.retryAfterMs = result.retryAfterMs
  posts : posts = job.attemptsMade + if x.result.isSome then 1 else 0

/-- How far the row is with the job in each state of it. -/
def Phased (row now : WebhookDeliveryEntity) (job : DeliveryJob) (posts : ℕ)
    (executions : List (Thread (webhooks config))) : JobState → Prop
  | .active token => ∃ thread x, executions = [thread] ∧ stageOf thread = .busy x ∧ x.token = token ∧
      ¬(errandOf thread).bars row.id ∧ job.attemptsMade < WEBHOOK_MAX_ATTEMPTS ∧
      x.Matches row now job posts
  | .completed _ => executions = [] ∧ now.status.terminal ∧ now.attemptCount = job.attemptsMade ∧
      job.attemptsMade ≤ WEBHOOK_MAX_ATTEMPTS ∧ posts = job.attemptsMade
  | .failed => False
  | _ => executions = [] ∧ now.unfinished ∧ now.attemptCount = job.attemptsMade ∧
      job.attemptsMade < WEBHOOK_MAX_ATTEMPTS ∧ posts = job.attemptsMade

structure InStep (row : WebhookDeliveryEntity) (posts : ℕ)
    (cfg : Interleaving.Config (webhooks config)) : Prop where
  phased : ∃ now job, Belongs row now job cfg.world ∧
    Phased row now job posts (cfg.threads.filter (executing row.jobId)) job.state
  /-- Executions of other jobs are of other deliveries. -/
  others : ∀ thread ∈ cfg.threads, ∀ x, stageOf thread = .busy x → x.jobId ≠ row.jobId →
    ∀ read, x.row = some (some read) → read.id ≠ row.id

/-! ## What others leave as it is -/

/-- The call is of another job and of another delivery. -/
def Call.spares (row : WebhookDeliveryEntity) : Call → Prop
  | .removeJob jobId | .updateData jobId _ | .takeJob jobId | .moveToCompleted jobId _
  | .moveToFailed jobId _ => jobId ≠ row.jobId
  | .updateStatus id _ | .post (some id) _ _ _ => id ≠ row.id
  | _ => True

/-- The delivery that a call makes the request of. -/
def Call.requested : Call → Option Uuid
  | .post delivery _ _ _ => delivery
  | _ => none

theorem not_requested {query : Call} (spares : query.spares row) : query.requested ≠ some row.id := by
  cases query with
  | post delivery url rawBody headers =>
    rintro rfl
    exact spares rfl
  | _ => rintro ⟨⟩

theorem get_set_other {queue : JobQueue String WebhookDeliveryJobData} {written old : DeliveryJob}
    {k : String} (there : queue.get jobId = some old) (same : written.id = old.id) (apart : k ≠ jobId) :
    (queue.set written).get k = queue.get k := by
  have key : written.id = jobId := same.trans (JobQueue.id_of_get there)
  rw [JobQueue.get_set (by simp [key, there]), if_neg (by rwa [key])]

/-- A job is as it was after a call for another one. -/
theorem job_spared (found : world.queue.get row.jobId = some job) (spares : query.spares row) :
    (serve query world).2.queue.get row.jobId = some job := by
  by_cases still : query.sparesQueue
  · rw [queue_spared still world]
    exact found
  cases query with
  | addJob added => exact JobQueue.get_add_of_get found added
  | removeJob named =>
    simp only [serve, World.queued, JobQueue.remove]
    split
    · exact found
    · rename_i removed
      split at removed
      · cases removed
      · cases removed
        change (Table.filter _ _).get row.jobId = some job
        rw [Table.get_filter, show world.queue.jobs.get row.jobId = some job from found]
        have key := JobQueue.id_of_get found
        simp [key, Ne.symm spares]
  | updateData named data =>
    simp only [serve, World.queued, JobQueue.updateData]
    cases there : world.queue.get named with
    | none => exact found
    | some old =>
      simp only [Option.map_some]
      refine (get_set_other there ?_ spares.symm).trans found
      rfl
  | takeJob named =>
    simp only [serve, JobQueue.take]
    cases waiting : (world.queue.get named).filter (·.state = .waiting) with
    | none => exact found
    | some old =>
      have there := (Option.filter_eq_some_iff.mp waiting).1
      refine Eq.trans ?_ found
      change (world.queue.set { old with state := .active world.queue.nextToken }).get row.jobId = _
      refine get_set_other there ?_ spares.symm
      rfl
  | moveToCompleted named token =>
    simp only [serve, World.queued, JobQueue.complete]
    cases held : world.queue.held named token with
    | none => exact found
    | some old =>
      simp only [Option.map_some]
      refine (get_set_other (JobQueue.held_cases held).1 ?_ spares.symm).trans found
      rfl
  | moveToFailed named token =>
    simp only [serve, World.queued, JobQueue.fail]
    cases held : world.queue.held named token with
    | none => exact found
    | some old =>
      simp only [Option.map_some]
      refine (get_set_other (JobQueue.held_cases held).1 ?_ spares.symm).trans found
      rfl
  | _ => exact (still trivial).elim

/-- A row is as it was after a call that does not write its status, if it is still there. -/
theorem row_untouched (found : world.deliveries.get id = some now)
    (present : ((serve query world).2.deliveries.get id).isSome)
    (unwritten : ∀ patch, query ≠ .updateStatus id patch) :
    (serve query world).2.deliveries.get id = some now := by
  obtain ⟨after, there⟩ := Option.isSome_iff_exists.mp present
  rcases deliveries_served there with same | ⟨absent, -⟩ | ⟨patch, old, written, -⟩
  · rw [there, ← same, found]
  · rw [absent] at found
    cases found
  · exact absurd written (unwritten patch)

/-- A job that Redis keeps is as it was, or its delay is over. -/
theorem job_kept {how : Nudge} (found : world.queue.get jobId = some job)
    (keeps : keepsJob jobId how = true) : (nudge how world).queue.get jobId = some job ∨
      (∃ until_, job.state = .delayed until_) ∧
        (nudge how world).queue.get jobId = some { job with state := .waiting } := by
  cases how with
  | flush => cases keeps
  | stall other =>
    have apart : jobId ≠ other := fun same => of_decide_eq_true keeps same.symm
    simp only [nudge, JobQueue.stall]
    split
    · rename_i there
      refine .inl ((get_set_other there ?_ apart).trans found)
      rfl
    · exact .inl found
  | expire other =>
    have apart : jobId ≠ other := fun same => of_decide_eq_true keeps same.symm
    simp only [nudge, JobQueue.expire]
    split
    · split
      · left
        change (Table.filter _ _).get jobId = some job
        rw [Table.get_filter, show world.queue.jobs.get jobId = some job from found]
        have key := JobQueue.id_of_get found
        simp [key, apart]
      · exact .inl found
    · exact .inl found
  | promote other =>
    simp only [nudge, JobQueue.promote]
    split
    · rename_i there
      split
      · by_cases same : jobId = other
        · subst same
          rw [found, Option.some.injEq] at there
          subst there
          obtain rfl := JobQueue.id_of_get found
          refine .inr ⟨⟨_, rfl⟩, ?_⟩
          rw [JobQueue.get_set (by simp [found]), if_pos rfl]
        · refine .inl ((get_set_other there ?_ same).trans found)
          rfl
      · exact .inl found
    · exact .inl found
  | _ => exact .inl found

/-! ## The threads that execute a job -/

section Filter

variable {τ : Type} {threads : List τ} {index : ℕ} {old new one : τ} {holds : τ → Bool}

private theorem split_at (at_ : threads[index]? = some old) (new : τ) :
    ∃ before after, threads = before ++ old :: after ∧ threads.set index new = before ++ new :: after ∧
      threads.eraseIdx index = before ++ after := by
  obtain ⟨bound, rfl⟩ := List.getElem?_eq_some_iff.mp at_
  refine ⟨threads.take index, threads.drop (index + 1), ?_, ?_, List.eraseIdx_eq_take_drop_succ ..⟩
  · rw [← List.drop_eq_getElem_cons bound, List.take_append_drop]
  · rw [List.set_eq_take_append_cons_drop, if_pos bound]

private theorem filter_erase (at_ : threads[index]? = some old) (apart : holds old = false) :
    (threads.eraseIdx index).filter holds = threads.filter holds := by
  obtain ⟨before, after, shape, -, erased⟩ := split_at at_ old
  rw [erased, shape]
  simp [apart]

private theorem filter_set_apart (at_ : threads[index]? = some old) (apart : holds old = false)
    (new : τ) : (threads.filter holds = [] → (threads.set index new).filter holds = [new].filter holds) ∧
      (holds new = false → (threads.set index new).filter holds = threads.filter holds) := by
  obtain ⟨before, after, shape, written, -⟩ := split_at at_ new
  rw [written, shape]
  constructor
  · intro none_
    rw [List.filter_append, List.filter_cons_of_neg (by simp [apart])] at none_
    obtain ⟨first, last⟩ := List.append_eq_nil_iff.mp none_
    rw [List.filter_append, List.filter_cons, first, last]
    simp [List.filter_cons]
  · intro still
    simp [apart, still]

private theorem filter_set_only (at_ : threads[index]? = some old) (held : holds old = true)
    (only : threads.filter holds = [one]) (new : τ) :
    one = old ∧ (threads.set index new).filter holds = [new].filter holds := by
  obtain ⟨before, after, shape, written, -⟩ := split_at at_ new
  rw [shape, List.filter_append, List.filter_cons_of_pos held] at only
  rw [written, List.filter_append, List.filter_cons]
  cases first : before.filter holds with
  | nil =>
    rw [first, List.nil_append, List.cons.injEq] at only
    rw [only.2]
    exact ⟨only.1.symm, by simp [List.filter_cons]⟩
  | cons other others =>
    rw [first] at only
    simp at only

end Filter

/-! ## Stages and errands -/

theorem next_apart {stage : Stage} {answer : Except Exception (interface.Answer query)}
    (apart : stage.next query answer = .apart) : stage = .apart := by
  cases stage with
  | apart => rfl
  | idle | busy | finished =>
    cases query with
    | takeJob => rcases answer with _ | _ | ⟨job, token⟩ <;> cases apart
    | moveToCompleted => cases answer <;> cases apart
    | moveToFailed => cases answer <;> cases apart
    | _ => cases apart

/-- A request that executes no job is none of the worker. -/
theorem works_of_apart (apart : stageOf thread = .apart) : thread.entry.works = false := by
  have begun : thread.entry.stage = .apart := by
    unfold stageOf at apart
    generalize thread.past = past at apart
    induction past with
    | nil => exact apart
    | cons event past ih => exact ih (next_apart apart)
  cases entry : thread.entry <;> rw [entry] at begun <;> first | rfl | cases begun

theorem next_idle {stage : Stage} {answer : Except Exception (interface.Answer query)}
    (idle : stage.next query answer = .idle jobId) : stage = .idle jobId := by
  cases stage with
  | idle other =>
    cases query with
    | takeJob => rcases answer with _ | _ | ⟨job, token⟩ <;> first | exact idle | cases idle
    | moveToCompleted => cases answer <;> exact idle
    | moveToFailed => cases answer <;> exact idle
    | _ => exact idle
  | apart | busy | finished =>
    cases query with
    | takeJob => rcases answer with _ | _ | ⟨job, token⟩ <;> cases idle
    | moveToCompleted => cases answer <;> cases idle
    | moveToFailed => cases answer <;> cases idle
    | _ => cases idle

theorem Execution.result_next {answer : Except Exception (interface.Answer query)}
    (asked : x.result.isSome) : (x.next query answer).result.isSome := by
  cases query with
  | findSubscription => rcases answer with _ | _ | _ <;> exact asked
  | post delivery => cases delivery <;> cases answer <;> first | exact asked | rfl
  | _ => cases answer <;> exact asked

/-- An execution that has its request behind it knows what the endpoint has answered. -/
theorem asked_of_posted {allowed : Interleaving.Config (webhooks config) → Move (webhooks config) → Prop}
    (run : Run (webhooks config) allowed cfg) : ∀ thread ∈ cfg.threads,
      (∀ jobId, stageOf thread = .idle jobId → errandOf thread = .idle) ∧
      ∀ x id, stageOf thread = .busy x → errandOf thread = .posted id → x.result.isSome := by
  induction run with
  | start => simp
  | @step cfg cfg' move before _ moved ih =>
    intro thread member
    rcases thread_came moved member with old | ⟨entry, rfl⟩ | ⟨acting, event, rest, acts, -, rfl⟩
    · exact ih thread old
    · constructor
      · intro jobId idle
        cases entry <;> first | rfl | cases idle
      · intro x id busy
        cases entry <;> cases busy
    · obtain ⟨waits, asked⟩ := ih acting (acts_cases acts).1
      have permitted := stage_permits before acts
      have errs := errand_permits before acts
      constructor
      · intro jobId idle
        have still : stageOf acting = .idle jobId := next_idle idle
        rw [still] at permitted
        obtain ⟨-, query, next, answer, after, shape, rfl, rfl, answers⟩ := acts_cases acts
        obtain rfl : query = .takeJob jobId := permitted
        exact waits jobId still
      · intro x id busy posted
        have came := posted_next errs posted
        rcases busy_of_acts before acts busy with ⟨y, stage, -, rfl⟩ | ⟨jobId, job, idle, taken, -, -⟩
        · rcases came with earlier | ⟨url, rawBody, headers, same⟩
          · exact Execution.result_next (asked y id stage earlier)
          · obtain ⟨-, query, next, answer, after, shape, rfl, rfl, answers⟩ := acts_cases acts
            dsimp only at same
            subst same
            rcases answers.elim with ⟨rfl, -⟩ | ⟨error, may, -, -⟩
            · rfl
            · cases may
        · rcases came with earlier | ⟨url, rawBody, headers, same⟩
          · rw [waits jobId idle] at earlier
            cases earlier
          · rw [taken] at same
            cases same

/-! ## What other threads do -/

section Step

variable {allowed : Interleaving.Config (webhooks config) → Move (webhooks config) → Prop}

theorem executing_eq_true :
    executing jobId thread = true ↔ ∃ x, stageOf thread = .busy x ∧ x.jobId = jobId := by
  unfold executing
  split
  · rename_i x stage
    rw [stage, decide_eq_true_eq]
    exact ⟨fun same => ⟨x, rfl, same⟩, fun ⟨y, stage, same⟩ => by cases stage; exact same⟩
  · rename_i idle
    exact ⟨nofun, fun ⟨x, stage, _⟩ => absurd stage (idle x)⟩

theorem apart_of_executing (apart : executing jobId thread = false) (busy : stageOf thread = .busy x) :
    x.jobId ≠ jobId := by
  intro same
  rw [executing_eq_true.mpr ⟨x, busy, same⟩] at apart
  cases apart

/-- The delivery that the execution of another job reads is another one. -/
theorem InStep.apart_next (inStep : InStep row posts cfg) (run : Run (webhooks config) allowed cfg)
    (acts : cfg.acts move = some (thread, event, rest)) (busy : stageOf thread = .busy x)
    (apart : x.jobId ≠ row.jobId) {read : WebhookDeliveryEntity}
    (found : (x.next event.query event.answer).row = some (some read)) : read.id ≠ row.id := by
  have registered := registered run
  have permitted := stage_permits run acts
  rw [busy] at permitted
  obtain ⟨member, query, next, answer, after, shape, rfl, rfl, answers⟩ := acts_cases acts
  have earlier := inStep.others thread member x busy apart
  cases query with
  | findByEventSub eventId subscriptionId =>
    rcases answers.elim with ⟨rfl, -⟩ | ⟨error, -, rfl, -⟩
    · obtain ⟨-, delivers, rfl, rfl⟩ := permitted
      have there : cfg.world.deliveries.rows.find? (fun row =>
        row.eventId = x.job.data.eventId ∧ row.subscriptionId = x.job.data.subscriptionId) = some read :=
          Option.some.inj found
      have pair := List.find?_some there
      rw [decide_eq_true_eq] at pair
      obtain ⟨now, job, belongs, -⟩ := inStep.phased
      intro same
      have own := Table.get_of_mem (List.mem_of_find?_eq_some there)
      rw [same, belongs.there, Option.some.injEq] at own
      have kept := registered.kept thread member x busy
      apply apart
      rw [← kept.id, kept.named.resolve_left (by simp [delivers]), ← pair.1, ← pair.2, ← own,
        belongs.pair.1, belongs.pair.2]
      rfl
    · exact earlier read found
  | findSubscription => rcases answer with _ | _ | _ <;> exact earlier read found
  | post delivery => cases delivery <;> cases answer <;> exact earlier read found
  | _ => cases answer <;> exact earlier read found

theorem InStep.others_advance (inStep : InStep row posts cfg) (run : Run (webhooks config) allowed cfg)
    (moved : advance move cfg = some cfg') : ∀ thread ∈ cfg'.threads, ∀ x, stageOf thread = .busy x →
      x.jobId ≠ row.jobId → ∀ read, x.row = some (some read) → read.id ≠ row.id := by
  intro thread member x busy apart read found
  rcases thread_came moved member with old | ⟨entry, rfl⟩ | ⟨acting, event, rest, acts, -, rfl⟩
  · exact inStep.others thread old x busy apart read found
  · cases entry <;> cases busy
  · rcases busy_of_acts run acts busy with ⟨y, stage, -, rfl⟩ | ⟨jobId, job, -, -, -, fresh⟩
    · have other : y.jobId ≠ row.jobId := by rwa [(y.next_fixed event.answer).1] at apart
      exact inStep.apart_next run acts stage other found
    · rw [fresh] at found
      cases found

/-- A thread that does not execute the job leaves it and its delivery alone. -/
theorem InStep.spares (inStep : InStep row posts cfg) (run : Run (webhooks config) allowed cfg)
    (acts : cfg.acts move = some (thread, event, rest)) (apart : executing row.jobId thread = false)
    (unreplayed : replaysRow row thread.entry event.query = false)
    (waits : stageOf thread ≠ .idle row.jobId) : event.query.spares row := by
  have permitted := stage_permits run acts
  have member := (acts_cases acts).1
  generalize event.query = query at *
  cases stage : stageOf thread with
  | apart =>
    rw [stage] at permitted
    rcases permitted with elsewhere | ⟨id, rfl⟩
    · cases query with
      | removeJob jobId => exact of_decide_eq_false unreplayed
      | post delivery => cases delivery <;> trivial
      | _ => trivial
    · have works := works_of_apart stage
      have other : id ≠ row.id := by simpa [replaysRow, works] using unreplayed
      exact other
  | idle jobId =>
    rw [stage] at permitted
    obtain rfl : query = .takeJob jobId := permitted
    rintro rfl
    exact waits stage
  | busy x =>
    rw [stage] at permitted
    have other : x.jobId ≠ row.jobId := apart_of_executing apart stage
    have unread := inStep.others thread member x stage other
    cases query with
    | updateStatus id patch =>
      obtain ⟨-, read, found, rfl, -⟩ := permitted
      exact unread read found
    | post delivery =>
      cases delivery with
      | none => trivial
      | some id =>
        obtain ⟨-, -, read, found, rfl⟩ := permitted
        exact unread read found
    | updateData jobId data =>
      obtain ⟨rfl, -⟩ := permitted
      rw [Call.spares, ((registered run).kept thread member x stage).id]
      exact other
    | moveToCompleted jobId token =>
      obtain ⟨rfl, -⟩ := permitted
      exact other
    | moveToFailed jobId token =>
      obtain ⟨rfl, -⟩ := permitted
      exact other
    | takeJob => exact permitted.elim
    | removeJob => exact permitted.elim
    | _ => trivial
  | finished =>
    rw [stage] at permitted
    exact permitted.elim

/-- A thread executes a job that it has executed before, or has just taken. -/
theorem executing_after (run : Run (webhooks config) allowed cfg)
    (acts : cfg.acts move = some (thread, event, rest)) (apart : executing jobId thread = false)
    (waits : stageOf thread ≠ .idle jobId) : executing jobId (thread.after event rest) = false := by
  refine Bool.eq_false_iff.mpr fun executes => ?_
  obtain ⟨x, busy, same⟩ := executing_eq_true.mp executes
  rcases busy_of_acts run acts busy with ⟨y, stage, -, rfl⟩ | ⟨jobId, job, idle, -, -, fresh⟩
  · rw [(y.next_fixed event.answer).1] at same
    exact apart_of_executing apart stage same
  · rw [fresh] at same
    exact waits (same ▸ idle)

theorem Belongs.spared (belongs : Belongs row now job world) (spares : query.spares row)
    (present : ((serve query world).2.deliveries.get row.id).isSome) :
    Belongs row now job (serve query world).2 := by
  refine ⟨?_, belongs.pair, job_spared belongs.queued spares, belongs.delivers, belongs.data,
    belongs.limit⟩
  apply row_untouched belongs.there present
  rintro patch rfl
  exact spares rfl

/-- A worker takes the job, when it is waiting. -/
theorem InStep.taken (inStep : InStep row posts cfg) (run : Run (webhooks config) allowed cfg)
    {index : ℕ} (at_ : cfg.threads[index]? = some thread) (acts : cfg.acts move = some (thread, event, rest))
    (smooth : Smooth row thread event rest) (waits : stageOf thread = .idle row.jobId) :
    ∃ now job, Belongs row now job event.after ∧ Phased row now job posts
      ((cfg.threads.set index (thread.after event rest)).filter (executing row.jobId)) job.state := by
  obtain ⟨now, job, belongs, phased⟩ := inStep.phased
  have permitted := stage_permits run acts
  rw [waits] at permitted
  have apart : executing row.jobId thread = false := by
    unfold executing
    rw [waits]
  have filters := filter_set_apart at_ apart (thread.after event rest)
  have unbarred := smooth.2.2
  obtain ⟨-, query, next, answer, after, shape, rfl, rfl, answers⟩ := acts_cases acts
  obtain rfl : query = .takeJob row.jobId := permitted
  have stage : stageOf (thread.after ⟨cfg.world, .takeJob row.jobId, answer, after⟩ (next answer)) =
      (stageOf thread).next (.takeJob row.jobId) answer := rfl
  rw [waits] at stage
  have passed (same : (stageOf thread).next (.takeJob row.jobId) answer = .idle row.jobId) :
      executing row.jobId
        (thread.after ⟨cfg.world, .takeJob row.jobId, answer, after⟩ (next answer)) = false := by
    unfold executing
    rw [stage, ← waits, same]
  rcases answers.elim with ⟨rfl, rfl⟩ | ⟨error, -, rfl, rfl⟩
  · by_cases waiting : job.state = .waiting
    · have found : (cfg.world.queue.get row.jobId).filter (·.state = .waiting) = some job := by
        rw [belongs.queued]
        simp [Option.filter, waiting]
      have key := JobQueue.id_of_get belongs.queued
      rw [waiting] at phased
      obtain ⟨none_, unfinished, count, below, made⟩ := phased
      simp only [serve, JobQueue.take, found] at stage unbarred filters ⊢
      have executes : executing row.jobId (thread.after _ _) = true :=
        executing_eq_true.mpr ⟨_, stage, rfl⟩
      refine ⟨now, { job with state := .active cfg.world.queue.nextToken }, ?_, ?_⟩
      · refine ⟨belongs.there, belongs.pair, ?_, belongs.delivers, belongs.data, belongs.limit⟩
        change (cfg.world.queue.set { job with state := .active cfg.world.queue.nextToken }).get
          row.jobId = _
        rw [JobQueue.get_set (by simp [key, belongs.queued]), if_pos key.symm]
      · rw [filters.1 none_]
        refine ⟨_, _, List.filter_cons_of_pos executes, stage, rfl, (unbarred executes).2, below, ?_⟩
        exact ⟨rfl, belongs.limit, belongs.delivers, belongs.data, .inl rfl, rfl,
          fun _ => ⟨unfinished, count⟩, by rintro patch ⟨⟩, by rintro ⟨⟩, made⟩
    · have missing : (cfg.world.queue.get row.jobId).filter (·.state = .waiting) = none := by
        rw [belongs.queued]
        simp [Option.filter, waiting]
      have none_ : cfg.world.queue.take row.jobId = (none, cfg.world.queue) := by
        unfold JobQueue.take
        rw [missing]
      refine ⟨now, job, ?_, ?_⟩
      · simp only [serve, none_]
        exact belongs
      · rw [filters.2 (passed (by simp only [serve, none_, waits]; rfl))]
        exact phased
  · refine ⟨now, job, belongs, ?_⟩
    rw [filters.2 (passed (by rw [waits]; rfl))]
    exact phased

/-- A thread that does not execute the job leaves it in step. -/
theorem InStep.aside (inStep : InStep row posts cfg) (run : Run (webhooks config) allowed cfg)
    {index : ℕ} (at_ : cfg.threads[index]? = some thread) (acts : cfg.acts move = some (thread, event, rest))
    (smooth : Smooth row thread event rest) (apart : executing row.jobId thread = false) :
    ∃ now job, Belongs row now job event.after ∧ Phased row now job posts
      ((cfg.threads.set index (thread.after event rest)).filter (executing row.jobId)) job.state := by
  by_cases waits : stageOf thread = .idle row.jobId
  · exact inStep.taken run at_ acts smooth waits
  · have spares := inStep.spares run acts apart smooth.2.1 waits
    have still := executing_after run acts apart waits
    obtain ⟨now, job, belongs, phased⟩ := inStep.phased
    refine ⟨now, job, ?_, ?_⟩
    · have present := smooth.1
      obtain ⟨-, query, next, answer, after, shape, rfl, rfl, answers⟩ := acts_cases acts
      rcases answers.elim with ⟨rfl, rfl⟩ | ⟨error, -, rfl, rfl⟩
      · exact belongs.spared spares present
      · exact belongs
    · rw [(filter_set_apart at_ apart _).2 still]
      exact phased

/-! ## What an execution does -/

/-- What an execution has read counts the executions before it. -/
theorem Execution.Matches.counts {read : WebhookDeliveryEntity} (matched : x.Matches row now job posts)
    (found : x.row = some (some read)) : read.attemptCount = job.attemptsMade := by
  rcases matched.read with unread | ⟨known, same, -, count⟩
  · cases unread.symm.trans found
  · cases same.symm.trans found
    exact count

/-- An execution that has not written the status may be told anything. -/
theorem Execution.Matches.told (matched : x.Matches row now job posts) (unwritten : x.written = none)
    (clock : Instant) (observed : Option DeliveryLogInput) :
    Execution.Matches { x with clock := clock, observed := observed } row now job posts :=
  ⟨matched.made, matched.limit, matched.delivers, matched.pair, matched.read, matched.unfailed,
    matched.unwritten, fun _ written => absurd (unwritten.symm.trans written) nofun, matched.stashed,
    matched.posts⟩

/-- The delivery of the pair is read as it is. -/
theorem Execution.Matches.reads (matched : x.Matches row now job posts) (unread : x.row = none)
    (key : now.id = row.id) : Execution.Matches { x with row := some (some now) } row now job posts := by
  have unwritten : x.written = none := by
    cases written : x.written with
    | none => rfl
    | some patch =>
      obtain ⟨-, -, read, result, found, -⟩ := matched.written patch written
      cases unread.symm.trans found
  exact ⟨matched.made, matched.limit, matched.delivers, matched.pair,
    .inr ⟨now, rfl, key, (matched.unwritten unwritten).2⟩, matched.unfailed, matched.unwritten,
    fun _ written => absurd (unwritten.symm.trans written) nofun, matched.stashed, matched.posts⟩

/-- The request is made. -/
theorem Execution.Matches.asks (matched : x.Matches row now job posts) (unasked : x.result = none)
    (unwritten : x.written = none) (result : SsrfHttpResult) :
    Execution.Matches { x with result := some result } row now job (posts + 1) := by
  have count := matched.posts
  rw [unasked] at count
  refine ⟨matched.made, matched.limit, matched.delivers, matched.pair, matched.read, matched.unfailed,
    matched.unwritten, fun _ written => absurd (unwritten.symm.trans written) nofun,
    fun stashed => ?_, ?_⟩
  · obtain ⟨found, same, -⟩ := matched.stashed stashed
    cases unasked.symm.trans same
  · simpa using count

/-- The status is written over the row. -/
theorem Execution.Matches.writes {patch : DeliveryStatusPatch} (matched : x.Matches row now job posts)
    (judges : x.Judges id patch) (asked : x.result.isSome) :
    Execution.Matches { x with written := some patch } row (patch.onto now) job posts := by
  obtain ⟨unwritten, read, found, key, number, judged⟩ := judges
  have count := matched.counts found
  refine ⟨matched.made, matched.limit, matched.delivers, matched.pair, matched.read, matched.unfailed,
    nofun, ?_, matched.stashed, matched.posts⟩
  intro written same
  cases same
  rcases judged with ⟨unasked, -⟩ | ⟨result, answer, settles⟩
  · rw [unasked] at asked
    cases asked
  · refine ⟨rfl, ?_, read, result, found, answer, settles.observed, settles.status, settles.due⟩
    simp [DeliveryStatusPatch.onto, number, count]

/-- What the endpoint has said of a retry is put into the job. -/
theorem Execution.Matches.stashes {result : SsrfHttpResult} (matched : x.Matches row now job posts)
    (asked : x.result = some result) : Execution.Matches { x with stashed := true } row now
      { job with data := { x.job.data with retryAfterMs := result.retryAfterMs } } posts :=
  ⟨matched.made, matched.limit, matched.delivers, matched.pair, matched.read, matched.unfailed,
    matched.unwritten, fun patch written => by
      obtain ⟨status, count, read, found, same, answer, settles⟩ := matched.written patch written
      exact ⟨status, count, read, found, same, answer, settles.observed, settles.status, settles.due⟩,
    fun _ => ⟨result, asked, rfl⟩, matched.posts⟩

/-- A status that an execution has written counts its request. -/
theorem Execution.Matches.counted {patch : DeliveryStatusPatch} (matched : x.Matches row now job posts)
    (written : x.written = some patch) : now.status = patch.status ∧
      now.attemptCount = job.attemptsMade + 1 ∧ posts = job.attemptsMade + 1 := by
  obtain ⟨status, count, read, result, -, asked, -⟩ := matched.written patch written
  have made := matched.posts
  rw [asked] at made
  exact ⟨status, count, made⟩

/-- A retry is not the last execution. -/
theorem Execution.Matches.more {patch : DeliveryStatusPatch} (matched : x.Matches row now job posts)
    (written : x.written = some patch) (retrying : patch.status = .RETRYING) :
    job.attemptsMade + 1 < WEBHOOK_MAX_ATTEMPTS := by
  obtain ⟨-, -, read, result, found, -, settles⟩ := matched.written patch written
  have status := settles.status
  rw [retrying, matched.limit, Option.getD_some, matched.counts found] at status
  unfold statusForAttempt at status
  split at status
  · cases status
  · cases status
  · cases status
  · split at status
    · cases status
    · omega

/-- A failed call marks the execution. -/
theorem next_error (error : Exception) :
    (Stage.busy x).next query (.error error) = .busy { x with failed := true } := by
  cases query with
  | post delivery => cases delivery <;> rfl
  | _ => rfl

/-- The one execution of an active job. -/
theorem Phased.active {executions : List (Thread (webhooks config))} {state : JobState}
    (phased : Phased row now job posts executions state) (member : thread ∈ executions)
    (busy : stageOf thread = .busy x) : state = .active x.token ∧ executions = [thread] ∧
      ¬(errandOf thread).bars row.id ∧ job.attemptsMade < WEBHOOK_MAX_ATTEMPTS ∧
      x.Matches row now job posts := by
  cases state with
  | active token =>
    obtain ⟨one, y, rfl, stage, same, unbarred, below, matched⟩ := phased
    rw [List.mem_singleton] at member
    subst member
    rw [busy] at stage
    cases stage
    exact ⟨by rw [same], rfl, unbarred, below, matched⟩
  | waiting | delayed | completed =>
    rw [phased.1] at member
    cases member
  | failed => exact phased.elim

/-- An execution that goes on keeps the job active. -/
theorem Phased.onward (state : job.state = .active x.token) (stage : stageOf thread = .busy x)
    (same : x.jobId = row.jobId) (unbarred : ¬(errandOf thread).bars row.id)
    (below : job.attemptsMade < WEBHOOK_MAX_ATTEMPTS) (matched : x.Matches row now job posts) :
    Phased row now job posts ([thread].filter (executing row.jobId)) job.state := by
  have executes : executing row.jobId thread = true := executing_eq_true.mpr ⟨x, stage, same⟩
  rw [state, List.filter_cons_of_pos executes]
  exact ⟨thread, x, rfl, stage, rfl, unbarred, below, matched⟩

/-- The job is written over. -/
theorem Belongs.set (belongs : Belongs row now job world) {written : DeliveryJob}
    (id : written.id = job.id) (limit : written.attempts = job.attempts) (delivers : written.data.test = false)
    (data : written.data.eventId = row.eventId ∧ written.data.subscriptionId = row.subscriptionId) :
    Belongs row now written { world with queue := world.queue.set written } := by
  have key : written.id = row.jobId := id.trans (JobQueue.id_of_get belongs.queued)
  refine ⟨belongs.there, belongs.pair, ?_, delivers, data, limit.trans belongs.limit⟩
  change (world.queue.set written).get row.jobId = _
  rw [JobQueue.get_set (by simp [key, belongs.queued]), if_pos key.symm]

theorem Belongs.held (belongs : Belongs row now job world) {token : ℕ}
    (state : job.state = .active token) : world.queue.held row.jobId token = some job := by
  unfold JobQueue.held
  rw [belongs.queued]
  simp [Option.filter, state]

theorem Belongs.written (belongs : Belongs row now job world) {patch : DeliveryStatusPatch}
    (ok : (serve (.updateStatus row.id patch) world).1 = .ok ()) :
    Belongs row (patch.onto now) job (serve (.updateStatus row.id patch) world).2 := by
  have key : now.id = row.id := Table.key_of_get belongs.there
  simp only [serve, World.updateStatus] at ok ⊢
  split
  · rename_i invalid
    rw [if_pos invalid] at ok
    cases ok
  · rw [belongs.there]
    refine ⟨?_, belongs.pair, belongs.queued, belongs.delivers, belongs.data, belongs.limit⟩
    have own : (patch.onto now).id = row.id := key
    rw [Table.get_put, own, if_pos rfl, belongs.there]
    rfl

theorem unposted_of_query (acts : cfg.acts move = some (thread, event, rest))
    (silent : event.query.requested ≠ some id) : ¬Posts id cfg move := by
  obtain ⟨before, query, answer, after⟩ := event
  simp only [Posts, acts]
  cases query with
  | post delivery url rawBody headers =>
    cases delivery with
    | none => exact not_false
    | some other =>
      rintro rfl
      exact silent rfl
  | _ => exact not_false

/-- The one delivery of a pair is found by it. -/
theorem find_of_pair {deliveries : Table WebhookDeliveryEntity.id} (paired : Paired deliveries)
    (member : now ∈ deliveries.rows) {eventId subscriptionId : Uuid} (event : now.eventId = eventId)
    (subscription : now.subscriptionId = subscriptionId) :
    deliveries.rows.find? (fun row => row.eventId = eventId ∧ row.subscriptionId = subscriptionId) =
      some now := by
  cases found : deliveries.rows.find? fun row =>
      row.eventId = eventId ∧ row.subscriptionId = subscriptionId with
  | none =>
    have never := List.find?_eq_none.mp found now member
    simp [event, subscription] at never
  | some other =>
    have pair := List.find?_some found
    rw [decide_eq_true_eq] at pair
    have among := List.mem_of_find?_eq_some found
    have key : other.id = now.id :=
      paired other among now member (pair.1.trans event.symm) (pair.2.trans subscription.symm)
    have own := Table.get_of_mem among
    rw [key, Table.get_of_mem member] at own
    exact own.symm

/-- The delivery that an execution has read is its own. -/
theorem Execution.Matches.own {read : WebhookDeliveryEntity} (matched : x.Matches row now job posts)
    (found : x.row = some (some read)) : read.id = row.id := by
  rcases matched.read with unread | ⟨known, same, key, -⟩
  · cases unread.symm.trans found
  · cases same.symm.trans found
    exact key

/-- An execution is carried out when it has finished its delivery. -/
theorem Execution.Matches.completes (matched : x.Matches row now job posts) (completes : x.Completes) :
    ∃ patch, x.written = some patch ∧ patch.status.terminal = true := by
  rcases completes with test | missing | written
  · rw [matched.delivers] at test
    cases test
  · rcases matched.read with unread | ⟨read, found, -⟩
    · cases unread.symm.trans missing
    · cases found.symm.trans missing
  · exact written

theorem filter_finished {jobId : String} (finished : stageOf thread = .finished) :
    [thread].filter (executing jobId) = [] := by
  have apart : executing jobId thread = false := by
    unfold executing
    rw [finished]
  exact List.filter_cons_of_neg (by simp [apart])

/-- The report of a status that is final completes the job. -/
theorem Belongs.completed (belongs : Belongs row now job world) (matched : x.Matches row now job posts)
    (state : job.state = .active x.token) (same : x.jobId = row.jobId)
    (below : job.attemptsMade < WEBHOOK_MAX_ATTEMPTS) (completes : x.Completes) :
    ∃ now job, Belongs row now job (serve (.moveToCompleted x.jobId x.token) world).2 ∧
      Phased row now job posts ([] : List (Thread (webhooks config))) job.state := by
  obtain ⟨patch, written, terminal⟩ := matched.completes completes
  obtain ⟨status, count, made⟩ := matched.counted written
  simp only [serve, World.queued, JobQueue.complete, same, belongs.held state, Option.map_some]
  refine ⟨now, { job with attemptsMade := job.attemptsMade + 1, state := .completed world.clock },
    belongs.set rfl rfl belongs.delivers belongs.data, rfl, ?_, count, below, made⟩
  rw [status]
  exact terminal

/-- The report of a retry leaves the job for its next attempt. -/
theorem Belongs.failed {patch : DeliveryStatusPatch} (belongs : Belongs row now job world)
    (matched : x.Matches row now job posts) (state : job.state = .active x.token)
    (same : x.jobId = row.jobId) (written : x.written = some patch) (retrying : patch.status = .RETRYING) :
    ∃ now job, Belongs row now job (serve (.moveToFailed x.jobId x.token) world).2 ∧
      Phased row now job posts ([] : List (Thread (webhooks config))) job.state := by
  obtain ⟨status, count, made⟩ := matched.counted written
  have more := matched.more written retrying
  have unfinished : now.unfinished := by
    rw [WebhookDeliveryEntity.unfinished, status, retrying]
    rfl
  have again : job.exhausted = false := by
    simp only [Job.exhausted, belongs.limit, Option.getD_some, decide_eq_false_iff_not]
    omega
  simp only [serve, World.queued, JobQueue.fail, same, belongs.held state, Option.map_some, again,
    Bool.false_eq_true, if_false]
  refine ⟨now, _, belongs.set rfl rfl belongs.delivers belongs.data, ?_⟩
  dsimp only
  split <;> exact ⟨rfl, unfinished, count, more, made⟩

/-- The execution of the job keeps it in step with its row. -/
theorem InStep.executes (inStep : InStep row posts cfg) (run : Run (webhooks config) allowed cfg)
    {index : ℕ} (at_ : cfg.threads[index]? = some thread) (acts : cfg.acts move = some (thread, event, rest))
    (smooth : Smooth row thread event rest) (busy : stageOf thread = .busy x)
    (same : x.jobId = row.jobId) : ∃ now job, Belongs row now job event.after ∧
      Phased row now job (posts + if Posts row.id cfg move then 1 else 0)
        ((cfg.threads.set index (thread.after event rest)).filter (executing row.jobId)) job.state := by
  obtain ⟨now, job, belongs, phased⟩ := inStep.phased
  have executes : executing row.jobId thread = true := executing_eq_true.mpr ⟨x, busy, same⟩
  have member := (acts_cases acts).1
  obtain ⟨state, only, unbarred, below, matched⟩ :=
    phased.active (List.mem_filter.mpr ⟨member, executes⟩) busy
  have permitted := stage_permits run acts
  have errs := errand_permits run acts
  have asked := (asked_of_posted run thread member).2 x row.id busy
  have kept := (registered run).kept thread member x busy
  rw [(filter_set_only at_ executes only (thread.after event rest)).2]
  obtain ⟨present, -, smoothly⟩ := smooth
  obtain ⟨-, query, next, answer, after, shape, rfl, rfl, answers⟩ := acts_cases acts
  have stage : stageOf (thread.after ⟨cfg.world, query, answer, after⟩ (next answer)) =
      (Stage.busy x).next query answer := by
    rw [← busy]
    rfl
  rw [busy] at permitted
  generalize thread.after ⟨cfg.world, query, answer, after⟩ (next answer) = later at stage smoothly ⊢
  have goes {y : Execution} (going : stageOf later = .busy y) (jobId : y.jobId = row.jobId) :
      y.failed = false ∧ ¬(errandOf later).bars row.id := by
    have smoothed := smoothly (executing_eq_true.mpr ⟨y, going, jobId⟩)
    rw [going] at smoothed
    exact smoothed
  rcases answer with error | value
  · have failed := (goes (stage.trans (next_error error)) same).1
    cases failed
  rcases answers.elim with ⟨served, rfl⟩ | ⟨error, -, failed, -⟩
  rotate_left
  · cases failed
  have silent (other : query.requested = none) :
      (posts + if Posts row.id cfg move then 1 else 0) = posts := by
    rw [if_neg (unposted_of_query acts (by simp [other])), Nat.add_zero]
  have stays (other : query.requested = none) (spares : query.spares row) {y : Execution}
      (going : stageOf later = .busy y)
      (jobId : y.jobId = x.jobId) (token : y.token = x.token)
      (matched : y.failed = false → y.Matches row now job posts) :
      ∃ now job, Belongs row now job (serve query cfg.world).2 ∧
        Phased row now job (posts + if Posts row.id cfg move then 1 else 0)
          ([later].filter (executing row.jobId)) job.state := by
    obtain ⟨unfailed, unbarred⟩ := goes going (jobId.trans same)
    rw [silent other]
    refine ⟨now, job, belongs.spared spares present, ?_⟩
    exact Phased.onward (by rw [state, token]) going (jobId.trans same) unbarred below (matched unfailed)
  cases query with
  | now =>
    exact stays rfl trivial stage rfl rfl fun _ => matched.told permitted value x.observed
  | recordAttempt input =>
    exact stays rfl trivial stage rfl rfl fun _ => matched.told permitted x.clock (some input)
  | findByEventSub eventId subscriptionId =>
    obtain ⟨unread, -, rfl, rfl⟩ := permitted
    have event : now.eventId = x.job.data.eventId := belongs.pair.1.trans matched.pair.1.symm
    have subscription : now.subscriptionId = x.job.data.subscriptionId :=
      belongs.pair.2.trans matched.pair.2.symm
    have found := find_of_pair (registered run).paired (Table.mem_of_get belongs.there) event subscription
    have read : value = some now := by
      simp only [serve, found] at served
      exact Except.ok.inj served
    subst read
    have key := Table.key_of_get belongs.there
    exact stays rfl trivial stage rfl rfl fun _ => matched.reads unread key
  | findSubscription asked =>
    cases value with
    | none =>
      have failed := (goes stage same).1
      cases failed
    | some found => exact stays rfl trivial stage rfl rfl fun _ => matched
  | post delivery url rawBody headers =>
    cases delivery with
    | none => exact stays rfl trivial stage rfl rfl fun _ => matched
    | some delivery =>
      obtain ⟨unasked, unwritten, read, found, rfl⟩ := permitted
      have mine := matched.own found
      have posts_ : Posts row.id cfg move := by
        simp only [Posts, acts]
        exact mine
      rw [if_pos posts_]
      exact ⟨now, job, belongs, Phased.onward (x := { x with result := some value }) state stage same
        (goes stage same).2 below (matched.asks unasked unwritten value)⟩
  | updateStatus written patch =>
    have mine : written = row.id := by
      obtain ⟨-, read, found, rfl, -⟩ := permitted
      exact matched.own found
    subst mine
    have judged : x.result.isSome := by
      rcases errs with ⟨-, rfl⟩ | barred | posted
      · obtain ⟨-, read, -, -, number, -⟩ := permitted
        cases number
      · apply absurd _ unbarred
        rw [barred]
        exact decide_eq_true rfl
      · exact asked posted
    rw [silent rfl]
    exact ⟨_, job, belongs.written served.symm,
      Phased.onward (x := { x with written := some patch }) state stage same (goes stage same).2 below
        (matched.writes permitted judged)⟩
  | updateData jobId data =>
    obtain ⟨rfl, -, result, answer, rfl⟩ := permitted
    have key : x.job.id = row.jobId := kept.id.trans same
    rw [silent rfl]
    simp only [serve, World.queued, JobQueue.updateData, key, belongs.queued, Option.map_some]
    refine ⟨now, { job with data := { x.job.data with retryAfterMs := result.retryAfterMs } },
      belongs.set rfl rfl matched.delivers matched.pair, ?_⟩
    exact Phased.onward (x := { x with stashed := true }) state stage same (goes stage same).2 below
      (matched.stashes answer)
  | moveToCompleted jobId token =>
    obtain ⟨rfl, rfl, completes⟩ := permitted
    rw [silent rfl, filter_finished stage]
    exact belongs.completed matched state same below completes
  | moveToFailed jobId token =>
    obtain ⟨rfl, rfl, throws⟩ := permitted
    obtain ⟨patch, written, retrying, -⟩ := throws.resolve_left (by simp [matched.unfailed])
    rw [silent rfl, filter_finished stage]
    exact belongs.failed matched state same written retrying
  | insertAttempt | saveSubscription | findOutboxEvent | findByIdIncludingDeleted | createNotification =>
    exact stays rfl trivial stage rfl rfl fun _ => matched
  | _ => exact permitted.elim

theorem unposted_of_move (quiet : cfg.acts move = none) : ¬Posts id cfg move := by
  simp only [Posts, quiet]
  exact not_false

/-- One move keeps the row and the job in step. -/
theorem InStep.advance (inStep : InStep row posts cfg) (run : Run (webhooks config) allowed cfg)
    (unhindered : Unhindered row cfg move) (moved : advance move cfg = some cfg') :
    InStep row (posts + if Posts row.id cfg move then 1 else 0) cfg' := by
  refine ⟨?_, inStep.others_advance run moved⟩
  obtain ⟨now, job, belongs, phased⟩ := inStep.phased
  rcases advance_cases moved with ⟨how, rfl, rfl⟩ | ⟨entry, rfl, rfl⟩ | ⟨index, rfl, rfl⟩ |
    ⟨index, thread, event, rest, at_, acts, rfl⟩
  · obtain ⟨keeps, present⟩ := unhindered
    rw [if_neg (unposted_of_move rfl), Nat.add_zero]
    obtain ⟨after, there⟩ := Option.isSome_iff_exists.mp present
    have same : after = now := by
      have earlier := deliveries_nudged there
      rw [belongs.there, Option.some.injEq] at earlier
      exact earlier.symm
    subst same
    rcases job_kept belongs.queued keeps with kept | ⟨⟨until_, delayed⟩, woken⟩
    · exact ⟨after, job,
        ⟨there, belongs.pair, kept, belongs.delivers, belongs.data, belongs.limit⟩, phased⟩
    · rw [delayed] at phased
      exact ⟨after, { job with state := .waiting },
        ⟨there, belongs.pair, woken, belongs.delivers, belongs.data, belongs.limit⟩, phased⟩
  · rw [if_neg (unposted_of_move rfl), Nat.add_zero]
    have begun : executing row.jobId (Thread.begin (webhooks config) entry) = false := by
      cases entry <;> rfl
    refine ⟨now, job, belongs, ?_⟩
    rw [List.filter_append, List.filter_cons_of_neg (by simp [begun]), List.filter_nil, List.append_nil]
    exact phased
  · rw [if_neg (unposted_of_move rfl), Nat.add_zero]
    refine ⟨now, job, belongs, ?_⟩
    cases at_ : cfg.threads[index]? with
    | none =>
      rw [List.eraseIdx_of_length_le (List.getElem?_eq_none_iff.mp at_)]
      exact phased
    | some thread =>
      rw [filter_erase at_ (unhindered thread at_)]
      exact phased
  · have smooth : Smooth row thread event rest := by
      cases move with
      | nudge | arrive | crash => cases acts
      | turn | fault => exact unhindered _ acts
    by_cases executes : executing row.jobId thread = true
    · obtain ⟨x, busy, same⟩ := executing_eq_true.mp executes
      exact inStep.executes run at_ acts smooth busy same
    · have apart : executing row.jobId thread = false := Bool.eq_false_iff.mpr executes
      have silent : ¬Posts row.id cfg move := by
        apply unposted_of_query acts
        intro posted
        by_cases waits : stageOf thread = .idle row.jobId
        · have permitted := stage_permits run acts
          rw [waits] at permitted
          have taken : event.query = .takeJob row.jobId := permitted
          rw [taken] at posted
          cases posted
        · exact not_requested (inStep.spares run acts apart smooth.2.1 waits) posted
      rw [if_neg silent, Nat.add_zero]
      exact inStep.aside run at_ acts smooth apart

/-- A delivery that has not been attempted is in step with its job. -/
theorem Unattempted.inStep (unattempted : Unattempted row cfg) : InStep row 0 cfg := by
  have none_ : cfg.threads.filter (executing row.jobId) = [] := by
    refine List.filter_eq_nil_iff.mpr fun thread member executes => ?_
    obtain ⟨x, busy, same⟩ := executing_eq_true.mp executes
    exact (unattempted.idle thread member x busy).1 same
  obtain ⟨job, belongs, waiting, made⟩ := unattempted.queued
  refine ⟨⟨row, job, belongs, ?_⟩, fun thread member x busy _ =>
    (unattempted.idle thread member x busy).2⟩
  have unfinished : row.unfinished := by
    rw [WebhookDeliveryEntity.unfinished, unattempted.pending]
    rfl
  have below : job.attemptsMade < WEBHOOK_MAX_ATTEMPTS := by
    rw [made]
    decide
  rw [waiting]
  exact ⟨none_, unfinished, unattempted.count.trans made.symm, below, made.symm⟩

end Step

end ParentalCoord.Webhooks

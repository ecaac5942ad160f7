import ParentalCoord.Webhooks.Bookkeeping
import ParentalCoord.Webhooks.Recovery

/-!
Which job an execution is of, and which delivery.

A job is named after the pair that it is for, no two deliveries have one pair, and an
execution attempts the delivery of the pair of the job that it has taken.
-/

namespace ParentalCoord.Webhooks

open Interleaving Store

variable {config : Config} {cfg cfg' : Interleaving.Config (webhooks config)}
  {move : Move (webhooks config)} {thread : Thread (webhooks config)}
  {event : Event (webhooks config)} {rest : Request Reply} {id : Uuid} {x : Execution}
  {world : World} {query : Call}

/-! ## Jobs and pairs -/

/-- How far a thread is with the job that it takes. -/
def stageOf (thread : Thread (webhooks config)) : Stage :=
  bookkeeping.reached thread.entry.stage thread.past

theorem stage_permits {allowed : Interleaving.Config (webhooks config) → Move (webhooks config) → Prop}
    (run : Run (webhooks config) allowed cfg) (acts : cfg.acts move = some (thread, event, rest)) :
    (stageOf thread).permits event.query :=
  ((run.follows handler_books thread (acts_cases acts).1).act acts).1

/-- A job that is written with the data that it has. -/
theorem get_set_data {queue : JobQueue String WebhookDeliveryJobData} {job old now : DeliveryJob}
    {jobId k : String} (found : (queue.set job).get k = some now) (there : queue.get jobId = some old)
    (same : job.id = old.id) (data : old.data = job.data) :
    ∃ before, queue.get k = some before ∧ before.data = now.data := by
  have key : job.id = jobId := same.trans (JobQueue.id_of_get there)
  rw [JobQueue.get_set (by simp [key, there])] at found
  split at found
  · rename_i same
    cases found
    exact ⟨old, (same.trans key) ▸ there, data⟩
  · exact ⟨now, found, rfl⟩

theorem get_filter_jobs {queue : JobQueue String WebhookDeliveryJobData} {keep : DeliveryJob → Bool}
    {now : DeliveryJob} {k : String}
    (found : JobQueue.get { queue with jobs := queue.jobs.filter keep } k = some now) :
    queue.get k = some now := by
  unfold JobQueue.get at found ⊢
  rw [Table.get_filter] at found
  exact (Option.filter_eq_some_iff.mp found).1

/-- A job that is there after a call was there with its data, or is added, or is given its
data by the call. -/
theorem job_served {now : DeliveryJob} {k : String}
    (found : (serve query world).2.queue.get k = some now) :
    (∃ old, world.queue.get k = some old ∧ old.data = now.data) ∨ query = .addJob now ∨
      query = .updateData k now.data := by
  by_cases spares : query.sparesQueue
  · rw [queue_spared spares world] at found
    exact .inl ⟨now, found, rfl⟩
  cases query with
  | addJob job =>
    simp only [serve, JobQueue.add, JobQueue.get] at found ⊢
    cases accepted : world.queue.jobs.insert job with
    | none =>
      rw [accepted] at found
      exact .inl ⟨now, found, rfl⟩
    | some jobs =>
      rw [accepted, Option.getD_some, (Table.get_insert accepted).2] at found
      split at found
      · cases found
        exact .inr (.inl rfl)
      · exact .inl ⟨now, found, rfl⟩
  | removeJob jobId =>
    simp only [serve, World.queued, JobQueue.remove] at found
    split at found
    · exact .inl ⟨now, found, rfl⟩
    · rename_i removed
      split at removed
      · cases removed
      · cases removed
        exact .inl ⟨now, get_filter_jobs found, rfl⟩
  | updateData jobId data =>
    simp only [serve, World.queued, JobQueue.updateData] at found
    cases there : world.queue.get jobId with
    | none =>
      rw [there] at found
      exact .inl ⟨now, found, rfl⟩
    | some job =>
      have key := JobQueue.id_of_get there
      rw [there] at found
      simp only [Option.map_some] at found
      rw [JobQueue.get_set (by simp [key, there])] at found
      split at found
      · rename_i same
        cases found
        have named : k = jobId := same.trans key
        subst named
        exact .inr (.inr rfl)
      · exact .inl ⟨now, found, rfl⟩
  | takeJob jobId =>
    simp only [serve, JobQueue.take] at found
    cases waiting : (world.queue.get jobId).filter (·.state = .waiting) with
    | none =>
      rw [waiting] at found
      exact .inl ⟨now, found, rfl⟩
    | some job =>
      rw [waiting] at found
      have there := (Option.filter_eq_some_iff.mp waiting).1
      change (world.queue.set { job with state := .active world.queue.nextToken }).get k =
        some now at found
      exact .inl (get_set_data found there rfl rfl)
  | moveToCompleted jobId token =>
    simp only [serve, World.queued, JobQueue.complete] at found
    cases held : world.queue.held jobId token with
    | none =>
      rw [held] at found
      exact .inl ⟨now, found, rfl⟩
    | some job =>
      have there := (JobQueue.held_cases held).1
      rw [held] at found
      simp only [Option.map_some] at found
      exact .inl (get_set_data found there rfl rfl)
  | moveToFailed jobId token =>
    simp only [serve, World.queued, JobQueue.fail] at found
    cases held : world.queue.held jobId token with
    | none =>
      rw [held] at found
      exact .inl ⟨now, found, rfl⟩
    | some job =>
      have there := (JobQueue.held_cases held).1
      rw [held] at found
      simp only [Option.map_some] at found
      exact .inl (get_set_data found there rfl rfl)
  | _ => exact (spares trivial).elim

theorem job_nudged {how : Nudge} {now : DeliveryJob} {k : String}
    (found : (nudge how world).queue.get k = some now) :
    ∃ old, world.queue.get k = some old ∧ old.data = now.data := by
  cases how with
  | stall jobId =>
    simp only [nudge, JobQueue.stall] at found
    split at found
    · rename_i there
      exact get_set_data found there rfl rfl
    · exact ⟨now, found, rfl⟩
  | promote jobId =>
    simp only [nudge, JobQueue.promote] at found
    split at found
    · rename_i there
      split at found
      · exact get_set_data found there rfl rfl
      · exact ⟨now, found, rfl⟩
    · exact ⟨now, found, rfl⟩
  | expire jobId =>
    simp only [nudge, JobQueue.expire] at found
    split at found
    · split at found
      · exact ⟨now, get_filter_jobs found, rfl⟩
      · exact ⟨now, found, rfl⟩
    · exact ⟨now, found, rfl⟩
  | flush => cases found
  | _ => exact ⟨now, found, rfl⟩

/-- No two deliveries have one pair. -/
def Paired (deliveries : Table WebhookDeliveryEntity.id) : Prop :=
  ∀ first ∈ deliveries.rows, ∀ second ∈ deliveries.rows, first.eventId = second.eventId →
    first.subscriptionId = second.subscriptionId → first.id = second.id

/-- Rows that come from those there were keep their pairs apart. -/
theorem Paired.of_rows {before after : Table WebhookDeliveryEntity.id} (paired : Paired before)
    (come : ∀ row ∈ after.rows, ∃ old ∈ before.rows, row.id = old.id ∧ row.eventId = old.eventId ∧
      row.subscriptionId = old.subscriptionId) : Paired after := by
  intro first member second among event subscription
  obtain ⟨old, there, key, oldEvent, oldSubscription⟩ := come first member
  obtain ⟨other, known, otherKey, otherEvent, otherSubscription⟩ := come second among
  rw [key, otherKey]
  apply paired old there other known
  · rw [← oldEvent, ← otherEvent, event]
  · rw [← oldSubscription, ← otherSubscription, subscription]

theorem Paired.insert {deliveries added : Table WebhookDeliveryEntity.id} {row : WebhookDeliveryEntity}
    (paired : Paired deliveries) (accepted : insertOnConflictDoNothing row deliveries = some added) :
    Paired added := by
  obtain ⟨rows, free⟩ := insertOnConflictDoNothing_cases accepted
  have fresh : ∀ old ∈ deliveries.rows, old.eventId = row.eventId →
      old.subscriptionId = row.subscriptionId → False := by
    intro old member event subscription
    have taken := List.any_eq_false.mp free old member
    exact taken (decide_eq_true ⟨event, subscription⟩)
  intro first member second among event subscription
  rw [rows, List.mem_append, List.mem_singleton] at member among
  rcases member with old | rfl
  · rcases among with other | rfl
    · exact paired first old second other event subscription
    · exact (fresh first old event subscription).elim
  · rcases among with other | rfl
    · exact (fresh second other event.symm subscription.symm).elim
    · rfl

theorem Paired.insertDeliveries {deliveries : Table WebhookDeliveryEntity.id}
    (paired : Paired deliveries) (eventId : Uuid) (now : Instant) (uuids : ℕ → Uuid) (index : ℕ)
    (subscriptionIds : List Uuid) :
    Paired (insertDeliveries eventId now uuids index subscriptionIds deliveries).2 := by
  induction subscriptionIds generalizing index deliveries with
  | nil => exact paired
  | cons subscriptionId rest ih =>
    unfold Webhooks.insertDeliveries
    simp only []
    split
    · exact ih paired (index + 1)
    · rename_i added accepted
      exact ih (paired.insert accepted) (index + 1)

theorem Paired.filter {deliveries : Table WebhookDeliveryEntity.id} (paired : Paired deliveries)
    (keep : WebhookDeliveryEntity → Bool) : Paired (deliveries.filter keep) :=
  paired.of_rows fun row member => ⟨row, List.mem_of_mem_filter member, rfl, rfl, rfl⟩

theorem Paired.served (paired : Paired world.deliveries) (query : Call) :
    Paired (serve query world).2.deliveries := by
  by_cases spares : query.sparesTables
  · rw [(tables_spared spares world).deliveries]
    exact paired
  cases query with
  | updateStatus id patch =>
    simp only [serve, World.updateStatus]
    split
    · exact paired
    · split
      · exact paired
      · rename_i row there
        refine paired.of_rows fun other member => ?_
        rcases Table.mem_put member with old | rfl
        · exact ⟨other, old, rfl, rfl, rfl⟩
        · exact ⟨row, Table.mem_of_get there, rfl, rfl, rfl⟩
  | dispatch event subscriptionIds =>
    simp only [serve, World.dispatch]
    split
    · exact paired
    · exact paired.insertDeliveries _ _ _ _ _
  | createSubscription entity =>
    simp only [serve, World.createSubscription]
    split <;> exact paired
  | removeSubscription other => exact paired.filter _
  | purgeDispatchedBefore cutoff => exact paired.filter _
  | saveSubscription entity => exact paired
  | _ => exact (spares trivial).elim

theorem Paired.nudged (paired : Paired world.deliveries) (how : Nudge) :
    Paired (nudge how world).deliveries := by
  cases how with
  | unsubscribe other => exact paired.filter _
  | _ => exact paired

/-! ## What an execution knows of its job -/

/-- The job of an execution is the one that it has taken, and its delivery has the pair of
the job. -/
structure Execution.MatchesJob (x : Execution) : Prop where
  id : x.job.id = x.jobId
  named : NamedByPair x.job
  row : ∀ row, x.row = some (some row) → x.job.data.test = false ∧
    row.eventId = x.job.data.eventId ∧ row.subscriptionId = x.job.data.subscriptionId

theorem Execution.next_fixed (x : Execution) (answer : Except Exception (interface.Answer query)) :
    (x.next query answer).jobId = x.jobId ∧ (x.next query answer).job = x.job ∧
      (x.next query answer).token = x.token := by
  cases query with
  | findSubscription => rcases answer with _ | _ | _ <;> exact ⟨rfl, rfl, rfl⟩
  | post delivery => cases delivery <;> cases answer <;> exact ⟨rfl, rfl, rfl⟩
  | _ => cases answer <;> exact ⟨rfl, rfl, rfl⟩

/-- An execution goes on, or has just taken its job. -/
theorem busy_of_acts {allowed : Interleaving.Config (webhooks config) → Move (webhooks config) → Prop}
    (run : Run (webhooks config) allowed cfg) (acts : cfg.acts move = some (thread, event, rest))
    (busy : stageOf (thread.after event rest) = .busy x) :
    (∃ before, stageOf thread = .busy before ∧ before.permits event.query ∧
      x = before.next event.query event.answer) ∨
    ∃ jobId job, stageOf thread = .idle jobId ∧ event.query = .takeJob jobId ∧
      (cfg.world.queue.take jobId).1 = some (job, x.token) ∧
      x = { jobId := jobId, job := job, token := x.token } := by
  have permitted := stage_permits run acts
  obtain ⟨-, query, next, answer, after, shape, rfl, rfl, answers⟩ := acts_cases acts
  change (stageOf thread).next query answer = .busy x at busy
  cases stage : stageOf thread with
  | apart =>
    rw [stage] at busy
    cases query with
    | takeJob => rcases answer with _ | _ | ⟨job, token⟩ <;> cases busy
    | moveToCompleted => cases answer <;> cases busy
    | moveToFailed => cases answer <;> cases busy
    | _ => cases busy
  | idle jobId =>
    rw [stage] at busy permitted
    obtain rfl : query = .takeJob jobId := permitted
    rcases answers.elim with ⟨served, -⟩ | ⟨error, -, failed, -⟩
    · subst served
      simp only [serve] at busy
      cases taken : (cfg.world.queue.take jobId).1 with
      | none =>
        rw [taken] at busy
        cases busy
      | some pair =>
        rw [taken] at busy
        cases busy
        exact .inr ⟨jobId, pair.1, rfl, rfl, taken, rfl⟩
    · subst failed
      cases busy
  | busy before =>
    rw [stage] at busy permitted
    refine .inl ⟨before, rfl, permitted, ?_⟩
    cases query with
    | takeJob => exact permitted.elim
    | moveToCompleted =>
      cases answer with
      | ok value => cases busy
      | error error => exact (Stage.busy.inj busy).symm
    | moveToFailed =>
      cases answer with
      | ok value => cases busy
      | error error => exact (Stage.busy.inj busy).symm
    | _ => exact (Stage.busy.inj busy).symm
  | finished =>
    rw [stage] at permitted
    exact permitted.elim

/-- The row that is read for the pair of a job. -/
theorem Execution.MatchesJob.next (kept : x.MatchesJob) (permitted : x.permits query) {before after : World}
    {answer : Except Exception (interface.Answer query)}
    (answers : Answers (webhooks config) query before answer after) : (x.next query answer).MatchesJob := by
  obtain ⟨jobId, job, token⟩ := x.next_fixed answer
  refine ⟨by rw [job, jobId]; exact kept.id, by rw [job]; exact kept.named, ?_⟩
  rw [job]
  cases query with
  | findByEventSub eventId subscriptionId =>
    obtain ⟨-, delivers, rfl, rfl⟩ := permitted
    rcases answers.elim with ⟨rfl, -⟩ | ⟨error, -, rfl, -⟩
    · intro row found
      have there : before.deliveries.rows.find? (fun row =>
        row.eventId = x.job.data.eventId ∧ row.subscriptionId = x.job.data.subscriptionId) = some row :=
          Option.some.inj found
      have pair := List.find?_some there
      rw [decide_eq_true_eq] at pair
      exact ⟨delivers, pair⟩
    · exact kept.row
  | findSubscription => rcases answer with _ | _ | _ <;> exact kept.row
  | post delivery => cases delivery <;> cases answer <;> exact kept.row
  | _ => cases answer <;> exact kept.row

/-- What holds of every job, every delivery and every execution. -/
structure Registered (cfg : Interleaving.Config (webhooks config)) : Prop where
  jobs : ∀ k job, cfg.world.queue.get k = some job → NamedByPair job
  paired : Paired cfg.world.deliveries
  kept : ∀ thread ∈ cfg.threads, ∀ x, stageOf thread = .busy x → x.MatchesJob

theorem NamedByPair.of_data {job now : DeliveryJob} (named : NamedByPair job) (id : job.id = now.id)
    (pair : job.data.test = now.data.test ∧ job.data.eventId = now.data.eventId ∧
      job.data.subscriptionId = now.data.subscriptionId) : NamedByPair now := by
  unfold NamedByPair at named ⊢
  rw [← id, ← pair.1, ← pair.2.1, ← pair.2.2]
  exact named

/-- What is added or given new data is named as it was. -/
theorem named_served {allowed : Interleaving.Config (webhooks config) → Move (webhooks config) → Prop}
    (run : Run (webhooks config) allowed cfg) (registered : Registered cfg)
    (acts : cfg.acts move = some (thread, event, rest)) {k : String} {now : DeliveryJob}
    (found : event.after.queue.get k = some now) : NamedByPair now := by
  have permitted := stage_permits run acts
  have member := (acts_cases acts).1
  obtain ⟨-, query, next, answer, after, shape, rfl, rfl, answers⟩ := acts_cases acts
  have key : now.id = k := JobQueue.id_of_get found
  rcases answers.elim with ⟨rfl, rfl⟩ | ⟨error, -, -, rfl⟩
  · rcases job_served found with ⟨old, there, data⟩ | rfl | rfl
    · refine (registered.jobs k old there).of_data ?_ (by rw [data]; exact ⟨rfl, rfl, rfl⟩)
      rw [JobQueue.id_of_get there, key]
    · cases stage : stageOf thread with
      | apart =>
        rw [stage] at permitted
        rcases permitted with elsewhere | ⟨id, same⟩
        · exact elsewhere.2
        · cases same
      | idle jobId =>
        rw [stage] at permitted
        cases permitted
      | busy x =>
        rw [stage] at permitted
        exact permitted.elim
      | finished =>
        rw [stage] at permitted
        exact permitted.elim
    · cases stage : stageOf thread with
      | apart =>
        rw [stage] at permitted
        rcases permitted with elsewhere | ⟨id, same⟩
        · exact elsewhere.elim
        · cases same
      | idle jobId =>
        rw [stage] at permitted
        cases permitted
      | busy x =>
        rw [stage] at permitted
        obtain ⟨same, -, result, -, data⟩ := permitted
        have named := (registered.kept thread member x stage).named
        refine named.of_data ?_ (by rw [data]; exact ⟨rfl, rfl, rfl⟩)
        rw [key, same]
      | finished =>
        rw [stage] at permitted
        exact permitted.elim
  · exact registered.jobs k now found

theorem registered {allowed : Interleaving.Config (webhooks config) → Move (webhooks config) → Prop}
    (run : Run (webhooks config) allowed cfg) : Registered cfg := by
  induction run with
  | start =>
    refine ⟨?_, ?_, by simp⟩
    · rintro k job ⟨⟩
    · rintro row ⟨⟩
  | @step cfg cfg' move before permitted moved ih =>
    have kept : ∀ thread ∈ cfg'.threads, ∀ x, stageOf thread = .busy x → x.MatchesJob := by
      intro thread member x busy
      rcases thread_came moved member with old | ⟨entry, rfl⟩ | ⟨acting, event, rest, acts, -, rfl⟩
      · exact ih.kept thread old x busy
      · cases entry <;> cases busy
      · have among := (acts_cases acts).1
        rcases busy_of_acts before acts busy with ⟨y, stage, permits, rfl⟩ |
          ⟨jobId, job, -, -, taken, fresh⟩
        · have earlier := ih.kept acting among y stage
          obtain ⟨-, query, next, answer, after, shape, rfl, rfl, answers⟩ := acts_cases acts
          exact earlier.next permits answers
        · unfold JobQueue.take at taken
          split at taken
          · cases taken
          · rename_i waiting
            obtain ⟨rfl, -⟩ := Prod.mk.inj (Option.some.inj taken)
            have there := (Option.filter_eq_some_iff.mp waiting).1
            rw [fresh]
            exact ⟨JobQueue.id_of_get there, ih.jobs jobId _ there, nofun⟩
    rcases advance_cases moved with ⟨how, rfl, rfl⟩ | ⟨entry, rfl, rfl⟩ | ⟨index, rfl, rfl⟩ |
      ⟨index, thread, event, rest, at_, acts, rfl⟩
    · refine ⟨fun k job found => ?_, ih.paired.nudged how, kept⟩
      obtain ⟨old, there, data⟩ := job_nudged found
      refine (ih.jobs k old there).of_data ?_ (by rw [data]; exact ⟨rfl, rfl, rfl⟩)
      rw [JobQueue.id_of_get there, JobQueue.id_of_get found]
    · exact ⟨ih.jobs, ih.paired, kept⟩
    · exact ⟨ih.jobs, ih.paired, kept⟩
    · refine ⟨fun k job found => named_served before ih acts found, ?_, kept⟩
      obtain ⟨-, query, next, answer, after, shape, rfl, rfl, answers⟩ := acts_cases acts
      rcases answers.elim with ⟨rfl, rfl⟩ | ⟨error, -, -, rfl⟩
      · exact ih.paired.served query
      · exact ih.paired

end ParentalCoord.Webhooks

import Mathlib.Data.Int.Notation
import ParentalCoord.Store.Table

/-!
A queue of jobs, each of them executed at least once.

A job waits, is delayed, is active under the token of the worker that has taken it,
or is finished: completed, or failed for good.  A worker reports with its token, so
that the report of one that has lost its job in the meantime is refused.  A finished
job is kept under its id, and a job of that id is not added while it is.
-/

namespace Store

inductive JobState where
  | waiting
  | delayed (until_ : ℤ)
  | active (token : ℕ)
  | completed (at_ : ℤ)
  | failed
  deriving DecidableEq

structure Job (κ δ : Type) where
  id : κ
  data : δ
  /-- How many executions may fail before the job does. -/
  attempts : Option ℕ
  attemptsMade : ℕ := 0
  state : JobState := .waiting

variable {κ δ : Type}

def Job.finished (job : Job κ δ) : Bool :=
  match job.state with
  | .completed _ => true
  | .failed => true
  | _ => false

/-- The execution under way is the last one. -/
def Job.exhausted (job : Job κ δ) : Bool := job.attempts.getD 0 ≤ job.attemptsMade + 1

structure JobQueue (κ δ : Type) [DecidableEq κ] where
  jobs : Table (Job.id : Job κ δ → κ) := .empty
  nextToken : ℕ := 0

namespace JobQueue

variable [DecidableEq κ] {queue queue' : JobQueue κ δ} {job : Job κ δ} {id other : κ} {token : ℕ}

/-- The job of an id, in whatever state. -/
def get (queue : JobQueue κ δ) (id : κ) : Option (Job κ δ) := queue.jobs.get id

def finished (queue : JobQueue κ δ) (id : κ) : Bool := (queue.get id).any (·.finished)

/-- A job that is waiting, delayed or active. -/
def runnable (queue : JobQueue κ δ) (id : κ) : Bool := (queue.get id).any (!·.finished)

/-- The job that a worker has taken and not lost. -/
def held (queue : JobQueue κ δ) (id : κ) (token : ℕ) : Option (Job κ δ) :=
  (queue.get id).filter (·.state = .active token)

/-- Writes a job over the one of its id. -/
def set (queue : JobQueue κ δ) (job : Job κ δ) : JobQueue κ δ :=
  { queue with jobs := queue.jobs.put job }

/-- Nothing happens when there is a job of that id. -/
def add (queue : JobQueue κ δ) (job : Job κ δ) : JobQueue κ δ :=
  { queue with jobs := (queue.jobs.insert job).getD queue.jobs }

/-- A worker takes a waiting job, under a token of its own. -/
def take (queue : JobQueue κ δ) (id : κ) : Option (Job κ δ × ℕ) × JobQueue κ δ :=
  match (queue.get id).filter (·.state = .waiting) with
  | none => (none, queue)
  | some job =>
      (some (job, queue.nextToken),
        { queue.set { job with state := .active queue.nextToken } with
          nextToken := queue.nextToken + 1 })

/-- The report of an execution that succeeded; `none` when it is refused. -/
def complete (queue : JobQueue κ δ) (id : κ) (token : ℕ) (now : ℤ) : Option (JobQueue κ δ) :=
  (queue.held id token).map fun job =>
    queue.set { job with attemptsMade := job.attemptsMade + 1, state := .completed now }

/-- The report of an execution that failed: the job is tried again after a delay, or
has failed. -/
def fail (queue : JobQueue κ δ) (backoff : ℕ → δ → ℤ) (id : κ) (token : ℕ) (now : ℤ) :
    Option (JobQueue κ δ) :=
  (queue.held id token).map fun job =>
    let delay := backoff (job.attemptsMade + 1) job.data
    queue.set
      { job with
        attemptsMade := job.attemptsMade + 1
        state :=
          if job.exhausted then .failed
          else if delay ≤ 0 then .waiting
          else .delayed (now + delay) }

/-- An active job cannot be removed. -/
def remove (queue : JobQueue κ δ) (id : κ) : Option (JobQueue κ δ) :=
  match queue.get id with
  | some ⟨_, _, _, _, .active _⟩ => none
  | _ => some { queue with jobs := queue.jobs.filter (·.id ≠ id) }

def updateData (queue : JobQueue κ δ) (id : κ) (data : δ) : Option (JobQueue κ δ) :=
  (queue.get id).map fun job => queue.set { job with data := data }

/-- A worker that does not renew its lock loses the job, which is executed again. -/
def stall (queue : JobQueue κ δ) (id : κ) : JobQueue κ δ :=
  match queue.get id with
  | some job@⟨_, _, _, _, .active _⟩ => queue.set { job with state := .waiting }
  | _ => queue

/-- A delay that is over. -/
def promote (queue : JobQueue κ δ) (id : κ) (now : ℤ) : JobQueue κ δ :=
  match queue.get id with
  | some job@⟨_, _, _, _, .delayed until_⟩ =>
      if until_ ≤ now then queue.set { job with state := .waiting } else queue
  | _ => queue

/-- A job that was completed long enough ago is forgotten. -/
def expire (queue : JobQueue κ δ) (age : ℤ) (id : κ) (now : ℤ) : JobQueue κ δ :=
  match queue.get id with
  | some ⟨_, _, _, _, .completed at_⟩ =>
      if at_ + age ≤ now then { queue with jobs := queue.jobs.filter (·.id ≠ id) } else queue
  | _ => queue

/-- Every job is lost. -/
def flush (queue : JobQueue κ δ) : JobQueue κ δ := { queue with jobs := .empty }

/-! ## What a job becomes -/

theorem get_set (found : queue.get job.id ≠ none) :
    (queue.set job).get other = if other = job.id then some job else queue.get other := by
  obtain ⟨old, there⟩ := Option.ne_none_iff_exists'.mp found
  have put : (queue.jobs.put job).get other =
      if other = job.id then (queue.jobs.get other).map fun _ => job else queue.jobs.get other :=
    Table.get_put
  by_cases same : other = job.id
  · subst same
    rw [if_pos rfl]
    exact Table.get_put_self there
  · rw [if_neg same]
    exact Table.get_put_other same

theorem finished_set (found : queue.get job.id ≠ none) :
    (queue.set job).finished other = if other = job.id then job.finished else queue.finished other := by
  unfold finished
  rw [get_set found]
  split <;> rfl

theorem id_of_get (found : queue.get id = some job) : job.id = id := Table.key_of_get found

/-- A job is finished, can run, or is not there. -/
theorem runnable_of_get (found : queue.get id = some job) (going : queue.finished id = false) :
    queue.runnable id := by
  simp_all [runnable, finished]

/-- Once added, a job of that id is there: the one added, or the one in its way. -/
theorem get_add : (queue.add job).get job.id ≠ none := by
  unfold add get
  cases accepted : queue.jobs.insert job with
  | none =>
    obtain ⟨old, there⟩ := Table.get_of_refused accepted
    simp [there]
  | some jobs => simp [(Table.get_insert accepted).2]

theorem get_add_of_get (found : queue.get id = some job) (added : Job κ δ) :
    (queue.add added).get id = some job := by
  unfold add get
  cases accepted : queue.jobs.insert added with
  | none => exact found
  | some jobs =>
    obtain ⟨free, grown⟩ := Table.get_insert accepted
    have apart : id ≠ added.id := by
      rintro rfl
      cases free.symm.trans found
    simp only [Option.getD_some, grown, if_neg apart]
    exact found

theorem finished_add (fresh : job.finished = false) :
    (queue.add job).finished other = queue.finished other := by
  unfold add finished get
  cases accepted : queue.jobs.insert job with
  | none => rfl
  | some jobs =>
    obtain ⟨free, grown⟩ := Table.get_insert accepted
    rw [Option.getD_some, grown]
    by_cases same : other = job.id
    · subst same
      rw [if_pos rfl, free]
      simpa using fresh
    · rw [if_neg same]

theorem finished_take : (queue.take id).2.finished other = queue.finished other := by
  unfold take
  cases found : (queue.get id).filter (·.state = .waiting) with
  | none => rfl
  | some job =>
    obtain ⟨there, waiting⟩ := Option.filter_eq_some_iff.mp found
    have key : job.id = id := id_of_get there
    change (queue.set { job with state := .active queue.nextToken }).finished other = _
    rw [finished_set (by simp [key, there])]
    split
    · rename_i same
      subst same
      simp only [decide_eq_true_eq] at waiting
      simp [finished, key, there, Job.finished, waiting]
    · rfl

theorem held_cases (holds : queue.held id token = some job) :
    queue.get id = some job ∧ job.id = id ∧ job.state = .active token := by
  obtain ⟨there, active⟩ := Option.filter_eq_some_iff.mp holds
  exact ⟨there, id_of_get there, by simpa using active⟩

/-- Only the job that is reported on can become finished. -/
theorem finished_complete {now : ℤ} (reported : queue.complete id token now = some queue')
    (apart : other ≠ id) : queue'.finished other = queue.finished other := by
  obtain ⟨job, holds, rfl⟩ := Option.map_eq_some_iff.mp reported
  obtain ⟨there, rfl, -⟩ := held_cases holds
  rw [finished_set (by simp [there]), if_neg apart]

/-- A failed report finishes the job that is reported on, on its last execution, and
no other. -/
theorem finished_fail {backoff : ℕ → δ → ℤ} {now : ℤ}
    (reported : queue.fail backoff id token now = some queue') (done : queue'.finished other) :
    queue.finished other ∨ other = id ∧ (queue.held id token).any (·.exhausted) := by
  obtain ⟨job, holds, rfl⟩ := Option.map_eq_some_iff.mp reported
  obtain ⟨there, rfl, -⟩ := held_cases holds
  rw [finished_set (by simp [there])] at done
  by_cases same : other = job.id
  · rw [if_pos same] at done
    refine .inr ⟨same, ?_⟩
    cases last : job.exhausted with
    | true => simp [holds, last]
    | false =>
      by_cases due : backoff (job.attemptsMade + 1) job.data ≤ 0 <;>
        simp [Job.finished, last, due] at done
  · rw [if_neg same] at done
    exact .inl done

theorem finished_filter (keep : Job κ δ → Bool)
    (done : ({ queue with jobs := queue.jobs.filter keep } : JobQueue κ δ).finished other) :
    queue.finished other := by
  unfold finished get at done ⊢
  obtain ⟨job, found, ended⟩ := (Option.any_eq_true _ _).mp done
  rw [Table.get_filter] at found
  exact (Option.any_eq_true _ _).mpr ⟨job, (Option.filter_eq_some_iff.mp found).1, ended⟩

theorem finished_remove (removed : queue.remove id = some queue') (done : queue'.finished other) :
    queue.finished other := by
  unfold remove at removed
  split at removed
  · cases removed
  · cases removed
    exact finished_filter _ done

theorem finished_updateData {data : δ} (updated : queue.updateData id data = some queue') :
    queue'.finished other = queue.finished other := by
  obtain ⟨job, there, rfl⟩ := Option.map_eq_some_iff.mp updated
  have key : job.id = id := id_of_get there
  rw [finished_set (by simp [key, there])]
  split
  · rename_i same
    subst same
    simp [finished, key, there, Job.finished]
  · rfl

/-- A job that becomes a waiting one is not finished by it. -/
theorem finished_waiting (found : queue.get id = some job)
    (done : (queue.set { job with state := .waiting }).finished other) : queue.finished other := by
  have key : job.id = id := id_of_get found
  rw [finished_set (by simp [key, found])] at done
  split at done
  · cases done
  · exact done

theorem finished_stall (done : (queue.stall id).finished other) : queue.finished other := by
  unfold stall at done
  split at done
  · rename_i found
    exact finished_waiting found done
  · exact done

theorem finished_promote {now : ℤ} (done : (queue.promote id now).finished other) :
    queue.finished other := by
  unfold promote at done
  split at done
  · rename_i found
    split at done
    · exact finished_waiting found done
    · exact done
  · exact done

theorem finished_expire {age now : ℤ} (done : (queue.expire age id now).finished other) :
    queue.finished other := by
  unfold expire at done
  split at done
  · split at done
    · exact finished_filter _ done
    · exact done
  · exact done

end JobQueue

end Store

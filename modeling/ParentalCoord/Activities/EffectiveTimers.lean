import ParentalCoord.Activities.Guarantees
import ParentalCoord.Activities.Wiring
import ParentalCoord.Interleaving.Chronicle

/-!
Which of the queued timers of an activity count.

Mutations of the timer queue are carried out late, and in any order.  That does no
harm, because they are named by versions: a job is asked for at the version the row
was just written at, and removed at one the row has left.  So what is removed was
void before, and what is added late is void by then.
-/

namespace ParentalCoord.Activities

open Interleaving Store

variable {config : Config} {cfg cfg' : Interleaving.Config (activities config)}
  {move : Move (activities config)} {moments newer : List (Moment (activities config))}
  {world world' : World} {entity row : ActivityEntity} {data : ActivityTimerJobData}
  {mutation : QueueMutation} {phase : Wiring} {query : Call}
  {answer : Except Exception (interface.Answer query)} {now : Instant}
  {previousVersion : Option ℕ}

abbrev ActivityTimerJobData.jobId (data : ActivityTimerJobData) : String :=
  buildTimerJobId data.kind data.activityId data.version

theorem ActivityTimerJobData.jobId_injective {data data' : ActivityTimerJobData}
    (same : data.jobId = data'.jobId) : data = data' := by
  obtain ⟨kinds, ids, versions⟩ := buildTimerJobId_injective same
  cases data
  cases data'
  simp_all

/-! ## What happened to a job -/

/-- A worker takes the job of an id. -/
def Takes (jobId : String) : Event (activities config) → Prop
  | ⟨_, .takeTimer taken, .ok (some _), _⟩ => taken = jobId
  | _ => False

instance (jobId : String) (event : Event (activities config)) : Decidable (Takes jobId event) := by
  obtain ⟨_, query, answer, _⟩ := event
  unfold Takes
  rcases query with ⟨⟩
  case takeTimer => rcases answer with _ | _ | taken <;> infer_instance
  all_goals infer_instance

/-- Redis accepts every mutation, and a job that it was not told to remove leaves the
queue only when a worker has taken it. -/
def Accepting (cfg : Interleaving.Config (activities config)) : Move (activities config) → Prop
  | .nudge (.lose _) => False
  | .nudge (.drop jobId) => ∃ thread ∈ cfg.threads, ∃ event ∈ thread.past, Takes jobId event
  | _ => True

instance (cfg : Interleaving.Config (activities config)) (move : Move (activities config)) :
    Decidable (Accepting cfg move) := by
  unfold Accepting
  rcases move with ⟨⟨⟩⟩ | _ | _ | _ | _ <;> infer_instance

/-- The job of an id was taken by a worker, at some time. -/
def TakenAt (moments : List (Moment (activities config))) (jobId : String) (time : Instant) : Prop :=
  ∃ moment ∈ moments, ∃ thread event rest, moment.1.acts moment.2 = some (thread, event, rest) ∧
    Takes jobId event ∧ event.before.clock = time

/-- The request that wrote the row has fired the last of its timer mutations, having
read the clock as `now`. -/
def Wired (moments : List (Moment (activities config))) (row : ActivityEntity)
    (previousVersion : Option ℕ) (now : Instant) : Prop :=
  ∃ moment ∈ moments, ∃ thread event rest, moment.1.acts moment.2 = some (thread, event, rest) ∧
    wiringOf (event :: thread.past) = .firing row previousVersion now []

/-! ## What mutations are about -/

/-- The row was written: it is the present one or an earlier version of it. -/
def Written (world : World) (entity : ActivityEntity) : Prop :=
  ∃ row, world.activities.get entity.id = some row ∧ (row = entity ∨ entity.version < row.version)

/-- A mutation that adds a job for the version a row was written at, or removes the job
of a version that a row has left. -/
def Founded (world : World) : QueueMutation → Prop
  | .add data delay => ∃ entity kind asked target, Written world entity ∧
      data = ⟨entity.id, entity.version, kind⟩ ∧ timerTarget kind entity = some target ∧
      asked ≤ world.clock ∧ delay = computeDelayMs target asked
  | .remove jobId => ∃ kind id version row, jobId = buildTimerJobId kind id version ∧
      world.activities.get id = some row ∧ version < row.version

structure AllFounded (world : World) : Prop where
  firing : ∀ mutation ∈ world.firing, Founded world mutation
  jobs : ∀ job ∈ world.timers.rows, job.jobId = job.data.jobId ∧
    ∃ entity kind target, Written world entity ∧ job.data = ⟨entity.id, entity.version, kind⟩ ∧
      timerTarget kind entity = some target ∧ target ≤ job.runAt

theorem Written.later (written : Written world entity) (later : Later world world') :
    Written world' entity := by
  obtain ⟨row, found, order⟩ := written
  obtain ⟨row', there, moved⟩ := later.rows _ row found
  refine ⟨row', there, ?_⟩
  rcases order with rfl | newer
  · exact moved
  · rcases moved with rfl | newest
    · exact .inr newer
    · exact .inr (newer.trans newest)

theorem Founded.later (founded : Founded world mutation) (later : Later world world') :
    Founded world' mutation := by
  cases mutation with
  | add data delay =>
    obtain ⟨entity, kind, asked, target, written, same, aim, before, delayed⟩ := founded
    exact ⟨entity, kind, asked, target, written.later later, same, aim, before.trans later.clock,
      delayed⟩
  | remove jobId =>
    obtain ⟨kind, id, version, row, named, found, left⟩ := founded
    obtain ⟨row', there, moved⟩ := later.rows _ row found
    refine ⟨kind, id, version, row', named, there, ?_⟩
    rcases moved with rfl | newer
    · exact left
    · exact left.trans newer

/-- The mutations of a row are founded as long as they are fired after it was written. -/
theorem timerMutations_founded (written : Written world entity)
    (left : ∀ version ∈ previousVersion, version < entity.version) (clock : now ≤ world.clock)
    (member : mutation ∈ timerMutations entity previousVersion now) : Founded world mutation := by
  obtain ⟨op, -, made⟩ := List.mem_filterMap.mp member
  cases action : op.action with
  | cancel =>
    simp only [action] at made
    obtain ⟨version, previous, rfl⟩ := Option.map_eq_some_iff.mp made
    obtain ⟨row, found, order⟩ := written
    refine ⟨op.kind, entity.id, version, row, rfl, found, ?_⟩
    rcases order with rfl | newer
    · exact left version previous
    · exact (left version previous).trans newer
  | enqueue =>
    simp only [action] at made
    cases aim : timerTarget op.kind entity with
    | none => simp [aim] at made
    | some target =>
      simp only [aim] at made
      split at made
      · cases made
      · cases made
        exact ⟨entity, op.kind, now, target, written, rfl, aim, clock, rfl⟩

theorem AllFounded.later (allFounded : AllFounded world) (later : Later world world')
    (timers : world'.timers.rows ⊆ world.timers.rows) (firing : world'.firing ⊆ world.firing) :
    AllFounded world' where
  firing mutation member := (allFounded.firing mutation (firing member)).later later
  jobs job member := by
    obtain ⟨named, entity, kind, target, written, rest⟩ := allFounded.jobs job (timers member)
    exact ⟨named, entity, kind, target, written.later later, rest⟩

theorem AllFounded.fire (allFounded : AllFounded world) (founded : Founded world mutation) :
    AllFounded { world with firing := world.firing ++ [mutation] } where
  firing other member := by
    rcases List.mem_append.mp member with old | new
    · exact allFounded.firing other old
    · rw [List.mem_singleton] at new
      subst new
      exact founded
  jobs := allFounded.jobs

theorem AllFounded.settle (allFounded : AllFounded world) (founded : Founded world mutation) :
    AllFounded (mutation.settle world) := by
  cases mutation with
  | remove jobId =>
    exact allFounded.later (.of_unwritten le_rfl ⟨rfl, rfl⟩) List.filter_sublist.subset
      (List.Subset.refl _)
  | add data delay =>
    simp only [QueueMutation.settle]
    split
    · rename_i timers accepted
      refine ⟨allFounded.firing, fun job member => ?_⟩
      rw [Table.rows_insert accepted] at member
      rcases List.mem_append.mp member with old | new
      · exact allFounded.jobs job old
      · rw [List.mem_singleton] at new
        subst new
        obtain ⟨entity, kind, asked, target, written, same, aim, before, rfl⟩ := founded
        exact ⟨rfl, entity, kind, target, written, same, aim, le_add_computeDelayMs before⟩
    · exact allFounded

/-! ## What becomes of a job that was asked for -/

/-- A job that was asked for is on its way or queued, or a worker has taken it, or the
row has left the version it is for. -/
inductive Placed (moments : List (Moment (activities config))) (world : World)
    (data : ActivityTimerJobData) : Prop where
  | flying {delay : ℤ} (there : .add data delay ∈ world.firing)
  | queued (there : (world.timers.get data.jobId).isSome)
  | taken {time : Instant} (took : TakenAt moments data.jobId time)
  | superseded {row : ActivityEntity} (found : world.activities.get data.activityId = some row)
      (newer : data.version < row.version)

theorem TakenAt.onward {jobId : String} {time : Instant} (took : TakenAt moments jobId time)
    (newer : List (Moment (activities config))) : TakenAt (newer ++ moments) jobId time := by
  obtain ⟨moment, member, rest⟩ := took
  exact ⟨moment, List.mem_append_right _ member, rest⟩

/-- What does not touch the queue leaves every job placed. -/
theorem Placed.later (placed : Placed moments world data) (later : Later world world')
    (firing : world.firing ⊆ world'.firing) (timers : world'.timers = world.timers)
    (newer : List (Moment (activities config))) : Placed (newer ++ moments) world' data := by
  cases placed with
  | flying there => exact .flying (firing there)
  | queued there => exact .queued (timers ▸ there)
  | taken took => exact .taken (took.onward newer)
  | superseded found newest =>
    obtain ⟨row', there, moved⟩ := later.rows _ _ found
    refine .superseded there ?_
    rcases moved with rfl | more
    · exact newest
    · exact newest.trans more

/-- A job that was asked for and is removed was void. -/
theorem superseded_of_remove (founded : Founded world (.remove data.jobId)) :
    ∃ row, world.activities.get data.activityId = some row ∧ data.version < row.version := by
  obtain ⟨kind, id, version, row, named, found, left⟩ := founded
  obtain ⟨-, rfl, rfl⟩ := buildTimerJobId_injective named
  exact ⟨row, found, left⟩

theorem settle_firing (mutation : QueueMutation) (world : World) :
    (mutation.settle world).firing = world.firing := by
  cases mutation with
  | add data delay =>
    simp only [QueueMutation.settle]
    split <;> rfl
  | remove jobId => rfl

/-- A queue after a mutation holds what it held, or what the mutation adds. -/
theorem mem_settle {job : TimerJob} (member : job ∈ (mutation.settle world).timers.rows) :
    job ∈ world.timers.rows ∨ ∃ delay, mutation = .add job.data delay ∧ job.runAt = world.clock + delay := by
  cases mutation with
  | add other delay =>
    simp only [QueueMutation.settle] at member
    split at member
    · rename_i timers accepted
      rw [Table.rows_insert accepted] at member
      rcases List.mem_append.mp member with old | new
      · exact .inl old
      · rw [List.mem_singleton] at new
        subst new
        exact .inr ⟨delay, rfl, rfl⟩
    · exact .inl member
  | remove jobId => exact .inl (List.mem_of_mem_filter member)

theorem Placed.settle (placed : Placed moments world data) (founded : Founded world mutation) :
    Placed moments (mutation.settle world) data := by
  obtain ⟨⟨rows, -⟩, clock⟩ := settle_unwritten mutation world
  cases placed with
  | flying there =>
    rw [← settle_firing mutation world] at there
    exact .flying there
  | queued there =>
    cases mutation with
    | add other delay =>
      refine .queued ?_
      simp only [QueueMutation.settle]
      split
      · rename_i timers accepted
        exact Table.isSome_get_insert accepted there
      · exact there
    | remove jobId =>
      by_cases same : jobId = data.jobId
      · subst same
        obtain ⟨row, found, newer⟩ := superseded_of_remove founded
        exact .superseded found newer
      · refine .queued ?_
        obtain ⟨job, queued⟩ := Option.isSome_iff_exists.mp there
        have other : job.jobId ≠ jobId := by
          rw [Table.key_of_get queued]
          exact Ne.symm same
        simp [QueueMutation.settle, Table.get_filter, queued, Option.filter, other]
  | taken took => exact .taken took
  | superseded found newer => exact .superseded (rows ▸ found) newer

/-- The mutation that has arrived is the job that was asked for, or leaves it to come. -/
theorem Placed.arrive (placed : Placed moments world data) {index : ℕ}
    (at_ : world.firing[index]? = some mutation) (founded : Founded world mutation) :
    Placed moments (mutation.settle { world with firing := world.firing.eraseIdx index }) data := by
  cases placed with
  | @flying delay there =>
    by_cases same : mutation = .add data delay
    · subst same
      refine .queued ?_
      simp only [QueueMutation.settle]
      split
      · rename_i timers accepted
        rw [(Table.get_insert accepted).2, if_pos rfl]
        rfl
      · rename_i refused
        obtain ⟨old, there⟩ := Table.get_of_refused refused
        simp [there]
    · have waiting : .add data delay ∈ world.firing.eraseIdx index := by
        obtain ⟨place, here⟩ := List.mem_iff_getElem?.mp there
        refine List.mem_eraseIdx_iff_getElem?.mpr ⟨place, ?_, here⟩
        rintro rfl
        exact same (Option.some.inj (at_.symm.trans here))
      exact Placed.settle (.flying waiting) (founded.later (.of_unwritten le_rfl ⟨rfl, rfl⟩))
  | queued there =>
    exact Placed.settle (.queued there) (founded.later (.of_unwritten le_rfl ⟨rfl, rfl⟩))
  | taken took => exact .taken took
  | superseded found newer =>
    exact Placed.settle (.superseded found newer) (founded.later (.of_unwritten le_rfl ⟨rfl, rfl⟩))

/-- Whatever the world does by itself, as long as Redis accepts it. -/
theorem Placed.nudge (chronicle : Chronicle (activities config) Accepting moments cfg)
    (allFounded : AllFounded cfg.world) {how : Nudge} (accepted : Accepting cfg (.nudge how))
    (later : Later cfg.world (Activities.nudge how cfg.world)) (placed : Placed moments cfg.world data) :
    Placed ((cfg, .nudge how) :: moments) (Activities.nudge how cfg.world) data := by
  have moved : Placed ((cfg, .nudge how) :: moments) cfg.world data :=
    placed.later (.refl _) (List.Subset.refl _) rfl [(cfg, .nudge how)]
  cases how with
  | tick ms => exact placed.later later (List.Subset.refl _) rfl [(cfg, .nudge (.tick ms))]
  | directory directory =>
    exact placed.later later (List.Subset.refl _) rfl [(cfg, .nudge (.directory directory))]
  | generate id => exact placed.later later (List.Subset.refl _) rfl [(cfg, .nudge (.generate id))]
  | scan order => exact placed.later later (List.Subset.refl _) rfl [(cfg, .nudge (.scan order))]
  | settle index =>
    simp only [Activities.nudge]
    cases at_ : cfg.world.firing[index]? with
    | none => exact moved
    | some mutation => exact moved.arrive at_ (allFounded.firing mutation (List.mem_of_getElem? at_))
  | lose index => exact accepted.elim
  | drop jobId =>
    by_cases same : jobId = data.jobId
    · subst same
      -- The worker that took it did so at a moment of this run.
      obtain ⟨thread, member, event, there, takes⟩ := accepted
      obtain ⟨moment, known, acting, rest, acts⟩ := chronicle.happened thread member event there
      exact .taken ⟨moment, List.mem_cons_of_mem _ known, acting, event, rest, acts, takes, rfl⟩
    · cases moved with
      | flying there => exact .flying there
      | queued there =>
        refine .queued ?_
        obtain ⟨job, queued⟩ := Option.isSome_iff_exists.mp there
        have other : job.jobId ≠ jobId := by
          rw [Table.key_of_get queued]
          exact Ne.symm same
        simp [Activities.nudge, Table.get_filter, queued, Option.filter, other]
      | taken took => exact .taken took
      | superseded found newer => exact .superseded found newer

/-! ## What threads have fired -/

/-- The jobs that a row asks for when it is wired, and not by any of `rest`, are placed. -/
def Fired (moments : List (Moment (activities config))) (world : World) (entity : ActivityEntity)
    (previousVersion : Option ℕ) (now : Instant) (rest : List QueueMutation) : Prop :=
  ∀ data delay, .add data delay ∈ timerMutations entity previousVersion now →
    .add data delay ∈ rest ∨ Placed moments world data

def Underway (moments : List (Moment (activities config))) (world : World) : Wiring → Prop
  | .idle => True
  | .committed entity previousVersion =>
      Written world entity ∧ ∀ version ∈ previousVersion, version < entity.version
  | .firing entity previousVersion now rest =>
      Written world entity ∧ (∀ version ∈ previousVersion, version < entity.version) ∧
        now ≤ world.clock ∧ rest ⊆ timerMutations entity previousVersion now ∧
        Fired moments world entity previousVersion now rest

theorem Fired.onward {older : List (Moment (activities config))} {rest : List QueueMutation}
    (fired : Fired older world entity previousVersion now rest)
    (onward : ∀ data, Placed older world data → Placed moments world' data) :
    Fired moments world' entity previousVersion now rest := by
  intro data delay member
  exact (fired data delay member).imp_right (onward data)

theorem Underway.later {older : List (Moment (activities config))} (underway : Underway older world phase)
    (later : Later world world') (onward : ∀ data, Placed older world data → Placed moments world' data) :
    Underway moments world' phase := by
  cases phase with
  | idle => trivial
  | committed entity previousVersion => exact ⟨underway.1.later later, underway.2⟩
  | firing entity previousVersion now rest =>
    obtain ⟨written, left, clock, part, fired⟩ := underway
    exact ⟨written.later later, left, clock.trans later.clock, part, fired.onward onward⟩

/-- Only a mutation that is fired touches the queue, and only by being on its way. -/
theorem queue_of_answers (answers : Answers (activities config) query world answer world') :
    world'.timers = world.timers ∧
      (world'.firing = world.firing ∨
        ∃ mutation, query = .fire mutation ∧ world' = { world with firing := world.firing ++ [mutation] }) := by
  rcases answers.elim with ⟨-, rfl⟩ | ⟨error, -, -, rfl⟩
  · cases query with
    | fire mutation => exact ⟨rfl, .inr ⟨mutation, rfl, rfl⟩⟩
    | applyTransition input =>
      rcases applyTransition_cases input world with missed | ⟨row, -, -, -, -, written⟩
      · simp [serve, missed]
      · simp [serve, written]
    | insertActivity input childrenIds =>
      simp only [serve, insertActivity]
      split <;> exact ⟨rfl, .inl rfl⟩
    | _ => exact ⟨rfl, .inl rfl⟩
  · exact ⟨rfl, .inl rfl⟩

theorem Placed.act (placed : Placed moments world data) (later : Later world world')
    (answers : Answers (activities config) query world answer world')
    (newer : List (Moment (activities config))) : Placed (newer ++ moments) world' data := by
  obtain ⟨timers, firing⟩ := queue_of_answers answers
  refine placed.later later ?_ timers newer
  rcases firing with same | ⟨mutation, -, rfl⟩
  · rw [same]
    exact List.Subset.refl _
  · exact List.subset_append_left _ _

/-- What a write leaves to be wired. -/
theorem underway_of_write (answers : Answers (activities config) query world answer world')
    (open_ : phase.Open) : Underway moments world' (phase.next query answer) := by
  rcases answers.elim with ⟨rfl, rfl⟩ | ⟨error, -, rfl, rfl⟩
  · cases query with
    | applyTransition input =>
      rcases applyTransition_cases input world with missed | ⟨row, found, -, -, version, written⟩
      · simp only [serve, missed]
        trivial
      · simp only [serve, written]
        have own : row.id = input.id := Table.key_of_get found
        have there : world.activities.get (input.saved row).id = some row := by
          simpa [ApplyTransitionInput.saved, own] using found
        refine ⟨⟨input.saved row, Table.get_put_self there, .inl rfl⟩, ?_⟩
        rintro previous ⟨⟩
        simp [ApplyTransitionInput.saved, version]
    | insertActivity input childrenIds =>
      simp only [serve, insertActivity]
      cases accepted : world.activities.insert (input.saved world.freshId) with
      | none => trivial
      | some table =>
        constructor
        · refine ⟨_, ?_, .inl rfl⟩
          simp [(Table.get_insert accepted).2]
        · rintro previous ⟨⟩
    | fire mutation =>
      cases phase with
      | idle => trivial
      | committed entity previousVersion => exact open_.elim
      | firing entity previousVersion now rest =>
        obtain rfl : rest = [] := open_
        trivial
    | now =>
      cases phase with
      | idle => trivial
      | committed entity previousVersion => exact open_.elim
      | firing entity previousVersion now rest => trivial
    | _ => trivial
  · cases query <;> trivial

/-- The clock cannot fail, and a mutation nobody waits for cannot either. -/
theorem served_of_answers (answers : Answers (activities config) query world answer world')
    (sure : failure query = none) : answer = (serve query world).1 ∧ world' = (serve query world).2 := by
  rcases answers.elim with same | ⟨error, fails, -, -⟩
  · exact same
  · cases sure.symm.trans fails

/-- What is fired is a mutation of the row that is being wired. -/
theorem Underway.founded (underway : Underway moments world phase)
    (permitted : phase.permits (.fire mutation)) : Founded world mutation := by
  cases phase with
  | idle => exact absurd rfl (permitted mutation)
  | committed entity previousVersion => cases permitted
  | firing entity previousVersion now rest =>
    obtain ⟨written, left, clock, part, -⟩ := underway
    cases rest with
    | nil => exact absurd rfl (permitted mutation)
    | cons first rest =>
      cases permitted
      exact timerMutations_founded written left clock (part List.mem_cons_self)

/-- A thread goes on with its wiring. -/
theorem Underway.act {older : List (Moment (activities config))}
    (underway : Underway older world phase) (permitted : phase.permits query)
    (answers : Answers (activities config) query world answer world') (later : Later world world')
    (onward : ∀ data, Placed older world data → Placed moments world' data) :
    Underway moments world' (phase.next query answer) := by
  cases phase with
  | idle => exact underway_of_write answers trivial
  | committed entity previousVersion =>
    cases permitted
    obtain ⟨rfl, rfl⟩ := served_of_answers answers rfl
    exact ⟨underway.1, underway.2, le_rfl, List.Subset.refl _, fun data delay member => .inl member⟩
  | firing entity previousVersion now rest =>
    cases rest with
    | nil => exact underway_of_write answers rfl
    | cons mutation rest =>
      cases permitted
      obtain ⟨rfl, rfl⟩ := served_of_answers answers rfl
      obtain ⟨written, left, clock, part, fired⟩ := underway
      refine ⟨written.later later, left, clock.trans later.clock,
        fun other member => part (List.mem_cons_of_mem _ member), fun data delay member => ?_⟩
      rcases fired data delay member with waiting | placed
      · rcases List.mem_cons.mp waiting with rfl | waiting
        · exact .inr (.flying (List.mem_append_right _ List.mem_cons_self))
        · exact .inl waiting
      · exact .inr (onward data placed)

theorem AllFounded.act (allFounded : AllFounded world)
    (answers : Answers (activities config) query world answer world') (later : Later world world')
    (founded : ∀ mutation, query = .fire mutation → Founded world mutation) : AllFounded world' := by
  obtain ⟨timers, firing⟩ := queue_of_answers answers
  rcases firing with same | ⟨mutation, fires, rfl⟩
  · refine allFounded.later later ?_ ?_
    · rw [timers]
      exact List.Subset.refl _
    · rw [same]
      exact List.Subset.refl _
  · exact allFounded.fire (founded mutation fires)

theorem AllFounded.nudge (allFounded : AllFounded world) (how : Nudge)
    (later : Later world (Activities.nudge how world)) : AllFounded (Activities.nudge how world) := by
  cases how with
  | settle index =>
    have fewer : AllFounded { world with firing := world.firing.eraseIdx index } :=
      allFounded.later (.of_unwritten le_rfl ⟨rfl, rfl⟩) (List.Subset.refl _) List.eraseIdx_subset
    simp only [Activities.nudge]
    cases at_ : world.firing[index]? with
    | none => exact allFounded
    | some mutation =>
      exact fewer.settle ((allFounded.firing mutation (List.mem_of_getElem? at_)).later
        (.of_unwritten le_rfl ⟨rfl, rfl⟩))
  | lose index => exact allFounded.later later (List.Subset.refl _) List.eraseIdx_subset
  | drop jobId => exact allFounded.later later List.filter_sublist.subset (List.Subset.refl _)
  | _ => exact allFounded.later later (List.Subset.refl _) (List.Subset.refl _)

/-! ## Every run -/

structure WiringsHold (moments : List (Moment (activities config)))
    (cfg : Interleaving.Config (activities config)) : Prop where
  allFounded : AllFounded cfg.world
  threads : ∀ thread ∈ cfg.threads, Underway moments cfg.world (wiringOf thread.past)
  wired : ∀ entity previousVersion now, Wired moments entity previousVersion now →
    Fired moments cfg.world entity previousVersion now []

theorem later_of_step {allowed : Interleaving.Config (activities config) → Move (activities config) → Prop}
    (run : Run (activities config) allowed cfg) (permitted : allowed cfg move)
    (moved : advance move cfg = some cfg') : Later cfg.world cfg'.world :=
  run.relied (discipline_sound config False)
    (Discipline.supplies_of_assumes fun _ _ _ => False.elim) (.step .here permitted moved)

theorem placed_onward (chronicle : Chronicle (activities config) Accepting moments cfg)
    (allFounded : AllFounded cfg.world) (accepted : Accepting cfg move)
    (moved : advance move cfg = some cfg') (placed : Placed moments cfg.world data) :
    Placed ((cfg, move) :: moments) cfg'.world data := by
  have later := later_of_step chronicle.run accepted moved
  rcases advance_cases moved with ⟨how, rfl, rfl⟩ | ⟨entry, rfl, rfl⟩ | ⟨index, rfl, rfl⟩ |
    ⟨index, thread, event, rest, at_, acts, rfl⟩
  · exact placed.nudge chronicle allFounded accepted later
  · exact placed.later later (List.Subset.refl _) rfl [(cfg, .arrive entry)]
  · exact placed.later later (List.Subset.refl _) rfl [(cfg, .crash index)]
  · obtain ⟨-, query, next, answer, after, -, rfl, -, answers⟩ := acts_cases acts
    exact placed.act later answers [(cfg, move)]

/-- A wiring that is complete has just been completed, or was before. -/
theorem wired_cases (wired : Wired ((cfg, move) :: moments) entity previousVersion now) :
    Wired moments entity previousVersion now ∨
      ∃ thread event rest, cfg.acts move = some (thread, event, rest) ∧
        wiringOf (event :: thread.past) = .firing entity previousVersion now [] := by
  obtain ⟨moment, member, thread, event, rest, acts, ended⟩ := wired
  rcases List.mem_cons.mp member with rfl | earlier
  · exact .inr ⟨thread, event, rest, acts, ended⟩
  · exact .inl ⟨moment, earlier, thread, event, rest, acts, ended⟩

theorem wirings_hold (chronicle : Chronicle (activities config) Accepting moments cfg) :
    WiringsHold moments cfg := by
  induction chronicle with
  | start =>
    refine ⟨⟨List.forall_mem_nil _, List.forall_mem_nil _⟩, List.forall_mem_nil _, ?_⟩
    rintro entity previousVersion now ⟨moment, member, -⟩
    cases member
  | @step moments cfg cfg' move before accepted moved ih =>
    obtain ⟨allFounded, threads, wired⟩ := ih
    have later := later_of_step before.run accepted moved
    have onward (data : ActivityTimerJobData) (placed : Placed moments cfg.world data) :
        Placed ((cfg, move) :: moments) cfg'.world data :=
      placed_onward before allFounded accepted moved placed
    have acting : ∀ thread event rest, cfg.acts move = some (thread, event, rest) →
        AllFounded cfg'.world ∧ Underway ((cfg, move) :: moments) cfg'.world (wiringOf (event :: thread.past)) := by
      intro thread event rest acts
      have permitted := wiring_permits before.run acts
      obtain ⟨same, -⟩ := advance_of_acts moved acts
      obtain ⟨member, query, next, answer, after, -, rfl, -, answers⟩ := acts_cases acts
      rw [same] at later onward ⊢
      have underway := threads thread member
      exact ⟨allFounded.act answers later fun mutation fires => underway.founded (fires ▸ permitted),
        underway.act permitted answers later onward⟩
    refine ⟨?_, fun thread member => ?_, fun entity previousVersion now complete => ?_⟩
    · rcases advance_cases moved with ⟨how, rfl, rfl⟩ | ⟨entry, rfl, rfl⟩ | ⟨index, rfl, rfl⟩ |
        ⟨index, thread, event, rest, at_, acts, rfl⟩
      · exact allFounded.nudge how later
      · exact allFounded
      · exact allFounded
      · exact (acting thread event rest acts).1
    · rcases thread_came moved member with old | ⟨entry, rfl⟩ | ⟨acted, event, rest, acts, -, rfl⟩
      · exact (threads thread old).later later onward
      · trivial
      · exact (acting acted event rest acts).2
    · rcases wired_cases complete with earlier | ⟨thread, event, rest, acts, ended⟩
      · exact (wired entity previousVersion now earlier).onward onward
      · have underway := (acting thread event rest acts).2
        rw [ended] at underway
        exact underway.2.2.2.2

/-! ## The job of a row -/

/-- The checks that `handleTimer` makes before it asks for a transition. -/
def Passes (world : World) (data : ActivityTimerJobData) : Prop :=
  ∃ activity, world.activities.get data.activityId = some activity ∧ activity.deletedAt = none ∧
    activity.version = data.version ∧ ¬(expectedSourceFor data.kind).any (activity.status ∉ ·)

/-- A timer that does not pass is a no-op. -/
theorem handleTimer_of_not_passes (void : ¬Passes world data) :
    (handleTimer config data).run serve world = (.ok (), world) := by
  unfold handleTimer
  cases found : (world.activities.get data.activityId).filter (·.deletedAt = none) with
  | none => simp [findById, perform, Handler.perform, Handler.run, serve, found]
  | some activity =>
    obtain ⟨there, live⟩ := Option.filter_eq_some_iff.mp found
    have refused : activity.version ≠ data.version ∨
        (expectedSourceFor data.kind).any (activity.status ∉ ·) := by
      by_contra passes
      simp only [not_or, not_not] at passes
      exact void ⟨activity, there, by simpa using live, passes.1, passes.2⟩
    simp only [findById, perform, Handler.perform, Handler.bind_eq, Handler.call_bind, Handler.run,
      serve, found, Handler.ret_bind]
    rcases refused with version | source
    · rw [if_pos version]
      rfl
    · by_cases version : activity.version = data.version
      · rw [if_neg (not_not.mpr version), if_pos source]
        rfl
      · rw [if_pos version]
        rfl

theorem AllFounded.one_passes (allFounded : AllFounded world) {job job' : TimerJob}
    (queued : job ∈ world.timers.rows) (queued' : job' ∈ world.timers.rows)
    (activity : job.data.activityId = job'.data.activityId) (passes : Passes world job.data)
    (passes' : Passes world job'.data) : job = job' := by
  obtain ⟨named, entity, kind, target, -, made, aim, -⟩ := allFounded.jobs job queued
  obtain ⟨named', entity', kind', target', -, made', aim', -⟩ := allFounded.jobs job' queued'
  obtain ⟨row, found, -, version, source⟩ := passes
  obtain ⟨row', found', -, version', source'⟩ := passes'
  obtain rfl : row = row' := Option.some.inj (found.symm.trans (activity ▸ found'))
  obtain ⟨sources, expected⟩ := expectedSource_of_target aim
  obtain ⟨sources', expected'⟩ := expectedSource_of_target aim'
  have kinds : job.data.kind = job'.data.kind := by
    rw [made] at source ⊢
    rw [made'] at source' ⊢
    have valid : row.status ∈ sources := by simpa [expected] using source
    have valid' : row.status ∈ sources' := by simpa [expected'] using source'
    exact kind_of_source expected valid expected' valid'
  have same : job.jobId = job'.jobId := by
    rw [named, named', ActivityTimerJobData.jobId, ActivityTimerJobData.jobId, kinds, activity,
      ← version, ← version']
  exact Option.some.inj ((Table.get_of_mem queued).symm.trans (same ▸ Table.get_of_mem queued'))

theorem Written.eq (written : Written world entity) (found : world.activities.get entity.id = some row)
    (version : entity.version = row.version) : row = entity := by
  obtain ⟨present, there, same | newer⟩ := written
  · exact (Option.some.inj (found.symm.trans there)).trans same
  · cases found.symm.trans there
    omega

theorem Opens.scheduled {event : InsertOutboxEventInput} (opens : Opens config event row) :
    row.scheduledStart.isSome := by
  cases opens
  rfl

theorem Moves.scheduled {event : InsertOutboxEventInput} {row' : ActivityEntity}
    (scheduled : row.scheduledStart.isSome) (moves : Moves config event row row') :
    row'.scheduledStart.isSome := by
  cases moves
  exact scheduled

theorem History.scheduled {events : List InsertOutboxEventInput}
    (history : History config events row) : row.scheduledStart.isSome :=
  history.invariant (fun _ _ opens => opens.scheduled)
    fun _ _ _ scheduled moves => moves.scheduled scheduled

/-- The states in which the system waits for the time of a row, `assisting` only as
long as the start is ahead. -/
def Awaits (row : ActivityEntity) (now : Instant) : Prop :=
  row.status ∈ [.created, .assigned, .verify, .inProgress] ∨
    row.status = .assisting ∧ ∃ start, row.scheduledStart = some start ∧ now < start

/-- A row that waits has an anchor, and asks for the job that waits for it. -/
theorem awaited (columns : ColumnInvariant row) (scheduled : row.scheduledStart.isSome)
    (awaits : Awaits row now) : ∃ kind sources target, expectedSourceFor kind = some sources ∧
      row.status ∈ sources ∧ anchor row = some target ∧
      .add ⟨row.id, row.version, kind⟩ (computeDelayMs target now) ∈
        timerMutations row previousVersion now := by
  suffices asked : ∃ kind sources target, expectedSourceFor kind = some sources ∧ row.status ∈ sources ∧
      anchor row = some target ∧ ⟨.enqueue, kind⟩ ∈ timerOpsForTransition row.status ∧
      ¬(kind = .start ∧ target ≤ now) by
    obtain ⟨kind, sources, target, expected, valid, timed, asks, ahead⟩ := asked
    refine ⟨kind, sources, target, expected, valid, timed, List.mem_filterMap.mpr ⟨_, asks, ?_⟩⟩
    simp only [← anchor_of_expectedSource expected valid, timed, if_neg ahead]
  rcases awaits with waits | ⟨status, start, begins, ahead⟩
  · simp only [List.mem_cons, List.not_mem_nil, or_false] at waits
    rcases waits with status | status | status | status
    · obtain ⟨target, timed⟩ := Option.isSome_iff_exists.mp (columns.deadline (by simp [status]))
      exact ⟨.responseTimeout, _, target, rfl, by simp [status], by simp [anchor, status, timed],
        by simp [status, timerOpsForTransition], nofun⟩
    · obtain ⟨target, timed⟩ := Option.isSome_iff_exists.mp (columns.deadline (by simp [status]))
      exact ⟨.responseTimeout, _, target, rfl, by simp [status], by simp [anchor, status, timed],
        by simp [status, timerOpsForTransition], nofun⟩
    · obtain ⟨target, timed⟩ := Option.isSome_iff_exists.mp (columns.deadline (by simp [status]))
      exact ⟨.verifyTimeout, _, target, rfl, by simp [status], by simp [anchor, status, timed],
        by simp [status, timerOpsForTransition], nofun⟩
    · obtain ⟨begins, start⟩ := Option.isSome_iff_exists.mp scheduled
      refine ⟨.end_, _, row.scheduledEnd.getD begins, rfl, by simp [status], ?_,
        by simp [status, timerOpsForTransition], nofun⟩
      cases ends : row.scheduledEnd <;> simp [anchor, status, start, ends]
  · exact ⟨.start, _, start, rfl, by simp [status], by simp [anchor, status, begins],
      by simp [status, timerOpsForTransition], fun late => absurd ahead (not_lt.mpr late.2)⟩

/-- The world of an earlier moment has only moved on. -/
theorem later_of_moment (chronicle : Chronicle (activities config) Accepting moments cfg) :
    ∀ moment ∈ moments, AllFounded moment.1.world ∧ Later moment.1.world cfg.world := by
  induction chronicle with
  | start => simp
  | @step moments cfg cfg' move before accepted moved ih =>
    have later := later_of_step before.run accepted moved
    intro moment member
    rcases List.mem_cons.mp member with rfl | earlier
    · exact ⟨(wirings_hold before).allFounded, later⟩
    · obtain ⟨allFounded, onward⟩ := ih moment earlier
      exact ⟨allFounded, onward.trans later⟩

/-- A job that is there, of the present version of a row, is for the row and does not run before
the anchor of the row. -/
theorem AllFounded.waits {kind : TimerKind} {sources : List ActivityStatus} {target : Instant}
    (allFounded : AllFounded world) {job : TimerJob} (queued : job ∈ world.timers.rows)
    (named : job.jobId = buildTimerJobId kind row.id row.version) (later : Later world world')
    (found : world'.activities.get row.id = some row) (expected : expectedSourceFor kind = some sources)
    (valid : row.status ∈ sources) (timed : anchor row = some target) :
    job.data = ⟨row.id, row.version, kind⟩ ∧ target ≤ job.runAt := by
  obtain ⟨own, entity, kind', target', written, made, aim, ahead⟩ := allFounded.jobs job queued
  have same : job.data = ⟨row.id, row.version, kind⟩ :=
    ActivityTimerJobData.jobId_injective (own.symm.trans named)
  refine ⟨same, ?_⟩
  obtain ⟨ids, versions, kinds⟩ := ActivityTimerJobData.mk.inj (made.symm.trans same)
  obtain rfl : row = entity := (written.later later).eq (ids ▸ found) versions
  subst kinds
  rw [anchor_of_expectedSource expected valid, aim] at timed
  cases timed
  exact ahead

/-- A job that was taken at the present version of a row was taken when the anchor of the
row had come. -/
theorem TakenAt.due {kind : TimerKind} {sources : List ActivityStatus} {target time : Instant}
    (chronicle : Chronicle (activities config) Accepting moments cfg)
    (took : TakenAt moments (buildTimerJobId kind row.id row.version) time)
    (found : cfg.world.activities.get row.id = some row) (expected : expectedSourceFor kind = some sources)
    (valid : row.status ∈ sources) (timed : anchor row = some target) : target ≤ time := by
  obtain ⟨moment, member, thread, event, rest, acts, takes, rfl⟩ := took
  obtain ⟨allFounded, later⟩ := later_of_moment chronicle moment member
  obtain ⟨-, query, next, answer, after, -, rfl, -, answers⟩ := acts_cases acts
  cases query <;> try cases takes
  rename_i jobId
  cases answer with
  | error error => cases takes
  | ok taken =>
    cases taken with
    | none => cases takes
    | some data =>
      obtain rfl : jobId = buildTimerJobId kind row.id row.version := takes
      rcases answers.elim with ⟨answered, -⟩ | ⟨error, -, refused, -⟩
      · obtain ⟨job, elapsed, -⟩ := Option.map_eq_some_iff.mp (Except.ok.inj answered).symm
        obtain ⟨there, come⟩ := Option.filter_eq_some_iff.mp elapsed
        have ahead := (allFounded.waits (Table.mem_of_get there) (Table.key_of_get there) later found
          expected valid timed).2
        exact ahead.trans (by simpa using come)
      · cases refused

end ParentalCoord.Activities

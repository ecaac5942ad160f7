import ParentalCoord.Activities.EffectiveTimers

/-!
What is left of the timers of an activity that has landed where it waits for nothing.

Landing there removes the jobs of the version that the row has left, of every kind.  Jobs
that were asked for at an older version are not removed: what is left is nothing when there
are none of these, and when nobody asks for one after the landing.
-/

namespace ParentalCoord.Activities

open Interleaving Store

variable {config : Config} {cfg cfg' : Interleaving.Config (activities config)}
  {move : Move (activities config)} {moments : List (Moment (activities config))}
  {world world' : World} {entity row : ActivityEntity} {data : ActivityTimerJobData}
  {mutation : QueueMutation} {phase : Wiring} {query : Call}
  {answer : Except Exception (interface.Answer query)} {now : Instant}
  {previousVersion : Option ℕ} {id : Uuid} {version : ℕ}

/-- The states in which no timer is waited for. -/
def Landed (status : ActivityStatus) : Prop :=
  status ∈ [ActivityStatus.done, .cancelled, .notAssisting]

instance (status : ActivityStatus) : Decidable (Landed status) := by
  unfold Landed
  infer_instance

/-- Redis accepts every mutation, and carries them out in the order they were fired. -/
def InOrder (cfg : Interleaving.Config (activities config)) (move : Move (activities config)) : Prop :=
  Accepting cfg move ∧
    match move with
    | .nudge (.settle index) => index = 0
    | _ => True

instance (cfg : Interleaving.Config (activities config)) (move : Move (activities config)) :
    Decidable (InOrder cfg move) := by
  unfold InOrder
  rcases move with ⟨⟨⟩⟩ | _ | _ | _ | _ <;> infer_instance

/-- Once an activity has landed and all that its landing fired is carried out, none of its
timers is queued. -/
def LeavesNoTimer (moments : List (Moment (activities config)))
    (cfg : Interleaving.Config (activities config)) : Prop :=
  ∀ row previousVersion now, cfg.world.activities.get row.id = some row → Landed row.status →
    Wired moments row previousVersion now →
    (∀ mutation ∈ timerMutations row previousVersion now, mutation ∉ cfg.world.firing) →
    ∀ job ∈ cfg.world.timers.rows, job.data.activityId ≠ row.id

/-! ## A job that is left over -/

/-- An activity is created, assigned and cancelled, and each time all mutations are
carried out before anything else happens. -/
def abandoned : List (Move (activities defaults)) :=
  creation ++ [.arrive (.assign "a1" "u1" (some (some "u2")))] ++ turns 1 12 ++
    List.replicate 3 (.nudge (.settle 0)) ++
    [.arrive (.cancel "a1" "u1" (some (.str "Cambio de planes")))] ++ turns 2 13 ++
    List.replicate 4 (.nudge (.settle 0))

/-- Whether the wiring of a row over its previous version, begun at some time, is complete. -/
def finishes (row : ActivityEntity) (previousVersion : Option ℕ) (now : Instant)
    (moment : Moment (activities config)) : Bool :=
  match moment.1.acts moment.2 with
  | some (thread, event, _) =>
      match wiringOf (event :: thread.past) with
      | .firing entity previous at_ [] => entity = row ∧ previous = previousVersion ∧ at_ = now
      | _ => false
  | none => false

theorem wired_of_finishes (finished : moments.any (finishes row previousVersion now) = true) :
    Wired moments row previousVersion now := by
  obtain ⟨moment, member, complete⟩ := List.any_eq_true.mp finished
  unfold finishes at complete
  split at complete
  · rename_i thread event rest acts
    split at complete
    · rename_i entity previous at_ ended
      obtain ⟨rfl, rfl, rfl⟩ := of_decide_eq_true complete
      exact ⟨moment, member, thread, event, rest, acts, ended⟩
    · cases complete
  · cases complete

/-- The timer that the activity was created with outlives it. -/
theorem timer_left_over : ¬∀ (config : Config) (moments : List (Moment (activities config)))
    (cfg : Interleaving.Config (activities config)), Chronicle (activities config) InOrder moments cfg →
      LeavesNoTimer moments cfg := by
  intro claimed
  obtain ⟨moments, cfg, chronicle, shown⟩ := exists_followed InOrder abandoned
    (fun moments cfg => cfg.world.firing.isEmpty &&
      (cfg.world.activities.get "a1").any fun row : ActivityEntity =>
        decide (row.status = ActivityStatus.cancelled) && moments.any (finishes row (some 2) 0) &&
          cfg.world.timers.rows.any (fun job => job.data.activityId = row.id)) (by decide +kernel)
  obtain ⟨idle, shown⟩ := Bool.and_eq_true_iff.mp shown
  obtain ⟨row, found, shown⟩ := (Option.any_eq_true _ _).mp shown
  obtain ⟨shown, queued⟩ := Bool.and_eq_true_iff.mp shown
  obtain ⟨status, finished⟩ := Bool.and_eq_true_iff.mp shown
  obtain ⟨job, there, own⟩ := List.any_eq_true.mp queued
  rw [← (Table.key_of_get found : row.id = "a1")] at found
  have landed : Landed row.status := by
    rw [of_decide_eq_true status]
    decide
  have still : cfg.world.firing = [] := List.isEmpty_iff.mp idle
  exact claimed _ moments cfg chronicle row (some 2) 0 found landed (wired_of_finishes finished)
    (by simp [still]) job there (of_decide_eq_true own)

/-! ## Landings that leave nothing -/

/-- The mutation adds no job for another version of the activity. -/
def QueueMutation.KeepsTo (id : Uuid) (version : ℕ) : QueueMutation → Prop
  | .add data _ => data.activityId = id → data.version = version
  | .remove _ => True

instance (mutation : QueueMutation) : Decidable (mutation.KeepsTo id version) := by
  unfold QueueMutation.KeepsTo
  rcases mutation with _ | _ <;> infer_instance

/-- The jobs of an activity, queued or on their way, are for one version. -/
structure OnlyOf (id : Uuid) (version : ℕ) (world : World) : Prop where
  jobs : ∀ job ∈ world.timers.rows, job.data.activityId = id → job.data.version = version
  firing : ∀ mutation ∈ world.firing, mutation.KeepsTo id version

instance (world : World) : Decidable (OnlyOf id version world) :=
  decidable_of_iff (_ ∧ _) ⟨fun both => ⟨both.1, both.2⟩, fun only => ⟨only.jobs, only.firing⟩⟩

/-- A landing finds no job of an older version than the one it leaves, and no job is asked
for once the activity has landed. -/
def CleanLanding : Event (activities config) → Prop
  | ⟨world, .applyTransition input, .ok (some _), _⟩ =>
      Landed input.nextStatus → OnlyOf input.id input.expectedVersion world
  | ⟨world, .fire (.add data _), _, _⟩ => ∀ row ∈ world.activities.get data.activityId, ¬Landed row.status
  | _ => True

instance (event : Event (activities config)) : Decidable (CleanLanding event) := by
  obtain ⟨world, query, answer, _⟩ := event
  unfold CleanLanding
  rcases query with ⟨⟩
  case applyTransition => rcases answer with _ | _ | row <;> infer_instance
  case fire mutation => rcases mutation with _ | _ <;> infer_instance
  all_goals infer_instance

def LandsCleanly (cfg : Interleaving.Config (activities config)) (move : Move (activities config)) : Prop :=
  InOrder cfg move ∧ ∀ act ∈ cfg.acts move, CleanLanding act.2.1

instance (cfg : Interleaving.Config (activities config)) (move : Move (activities config)) :
    Decidable (LandsCleanly cfg move) := by
  unfold LandsCleanly
  infer_instance

/-- A job is not there and not on its way, or its removal comes after all that adds it. -/
def Covered (world : World) (data : ActivityTimerJobData) : Prop :=
  ((∀ job ∈ world.timers.rows, job.data ≠ data) ∧ ∀ delay, .add data delay ∉ world.firing) ∨
    ∃ before after, world.firing = before ++ .remove data.jobId :: after ∧ ∀ delay, .add data delay ∉ after

/-- The removal has been asked for, of each job that the row has in its mutations and not
in `rest`. -/
def Cleared (world : World) (entity : ActivityEntity) (previousVersion : Option ℕ) (now : Instant)
    (rest : List QueueMutation) : Prop :=
  world.activities.get entity.id = some entity → Landed entity.status →
    ∀ data : ActivityTimerJobData, data.activityId = entity.id →
      .remove data.jobId ∈ timerMutations entity previousVersion now →
      .remove data.jobId ∈ rest ∨ Covered world data

/-- The version that a row was wired over is the one before its own. -/
def Numbered (entity : ActivityEntity) : Option ℕ → Prop
  | some version => entity.version = version + 1
  | none => entity.version = 1

def Clearing (world : World) : Wiring → Prop
  | .idle => True
  | .committed entity previousVersion => Written world entity ∧ Numbered entity previousVersion
  | .firing entity previousVersion now rest =>
      Written world entity ∧ Numbered entity previousVersion ∧ Cleared world entity previousVersion now rest

structure Tidied (moments : List (Moment (activities config)))
    (cfg : Interleaving.Config (activities config)) : Prop where
  only : ∀ row, cfg.world.activities.get row.id = some row → Landed row.status →
    ∃ version, row.version = version + 1 ∧ OnlyOf row.id version cfg.world
  threads : ∀ thread ∈ cfg.threads, Clearing cfg.world (wiringOf thread.past)
  wired : ∀ entity previousVersion now, Wired moments entity previousVersion now →
    Clearing cfg.world (.firing entity previousVersion now [])

/-! ## What the queue does -/

theorem Covered.mono (covered : Covered world data) (timers : world'.timers.rows ⊆ world.timers.rows)
    (firing : world'.firing = world.firing) : Covered world' data := by
  unfold Covered
  rw [firing]
  exact covered.imp_left fun absent => ⟨fun job member => absent.1 job (timers member), absent.2⟩

theorem Covered.fire (covered : Covered world data) (other : ∀ delay, mutation ≠ .add data delay) :
    Covered { world with firing := world.firing ++ [mutation] } data := by
  rcases covered with ⟨queue, flying⟩ | ⟨before, after, shape, free⟩
  · refine .inl ⟨queue, fun delay member => ?_⟩
    rcases List.mem_append.mp member with old | new
    · exact flying delay old
    · exact other delay (List.mem_singleton.mp new).symm
  · refine .inr ⟨before, after ++ [mutation], by simp [shape], fun delay member => ?_⟩
    rcases List.mem_append.mp member with old | new
    · exact free delay old
    · exact other delay (List.mem_singleton.mp new).symm

/-- What removes a job is behind all that adds it, when it is fired. -/
theorem covered_of_fire (world : World) (data : ActivityTimerJobData) :
    Covered { world with firing := world.firing ++ [.remove data.jobId] } data :=
  .inr ⟨world.firing, [], rfl, fun _ => List.not_mem_nil⟩

/-- A mutation that is carried out in its turn. -/
theorem Covered.settle {rest : List QueueMutation} (covered : Covered world data)
    (allFounded : AllFounded world) (first : world.firing = mutation :: rest) :
    Covered (mutation.settle { world with firing := rest }) data := by
  unfold Covered
  rw [settle_firing]
  rcases covered with ⟨queue, flying⟩ | ⟨before, after, shape, free⟩
  · refine .inl ⟨fun job member same => ?_, fun delay member => flying delay ?_⟩
    · rcases mem_settle member with old | ⟨delay, rfl, -⟩
      · exact queue job old same
      · rw [same] at first
        exact flying delay (first ▸ List.mem_cons_self)
    · rw [first]
      exact List.mem_cons_of_mem _ member
  · cases before with
    | nil =>
      obtain ⟨rfl, rfl⟩ := List.cons.inj (first.symm.trans shape)
      refine .inl ⟨fun job member same => ?_, free⟩
      obtain ⟨there, kept⟩ := List.mem_filter.mp member
      have named := (allFounded.jobs job there).1
      rw [same] at named
      exact of_decide_eq_true kept named
    | cons head before =>
      obtain ⟨-, rest_⟩ := List.cons.inj (first.symm.trans shape)
      exact .inr ⟨before, after, rest_, free⟩

theorem OnlyOf.mono (only : OnlyOf id version world) (timers : world'.timers.rows ⊆ world.timers.rows)
    (firing : world'.firing ⊆ world.firing) : OnlyOf id version world' where
  jobs job member := only.jobs job (timers member)
  firing mutation member := only.firing mutation (firing member)

theorem OnlyOf.fire (only : OnlyOf id version world) (keeps : mutation.KeepsTo id version) :
    OnlyOf id version { world with firing := world.firing ++ [mutation] } where
  jobs := only.jobs
  firing other member := by
    rcases List.mem_append.mp member with old | new
    · exact only.firing other old
    · rw [List.mem_singleton] at new
      subst new
      exact keeps

theorem OnlyOf.settle (only : OnlyOf id version world) (keeps : mutation.KeepsTo id version) :
    OnlyOf id version (mutation.settle world) where
  jobs job member own := by
    rcases mem_settle member with old | ⟨delay, rfl, -⟩
    · exact only.jobs job old own
    · exact keeps own
  firing other member := by
    rw [settle_firing] at member
    exact only.firing other member

/-! ## What a move does -/

theorem Covered.nudge {how : Nudge} (covered : Covered cfg.world data) (allFounded : AllFounded cfg.world)
    (accepted : InOrder cfg (.nudge how)) : Covered (Activities.nudge how cfg.world) data := by
  cases how with
  | settle index =>
    obtain rfl : index = 0 := accepted.2
    simp only [Activities.nudge]
    cases flying : cfg.world.firing with
    | nil => exact covered
    | cons mutation rest => exact covered.settle allFounded flying
  | lose index => exact accepted.1.elim
  | drop jobId => exact covered.mono List.filter_sublist.subset rfl
  | _ => exact covered.mono (List.Subset.refl _) rfl

theorem OnlyOf.nudge (only : OnlyOf id version world) (how : Nudge) :
    OnlyOf id version (Activities.nudge how world) := by
  cases how with
  | settle index =>
    have fewer : OnlyOf id version { world with firing := world.firing.eraseIdx index } :=
      only.mono (List.Subset.refl _) List.eraseIdx_subset
    simp only [Activities.nudge]
    cases at_ : world.firing[index]? with
    | none => exact only
    | some mutation => exact fewer.settle (only.firing mutation (List.mem_of_getElem? at_))
  | lose index => exact only.mono (List.Subset.refl _) List.eraseIdx_subset
  | drop jobId => exact only.mono List.filter_sublist.subset (List.Subset.refl _)
  | _ => exact only.mono (List.Subset.refl _) (List.Subset.refl _)

/-- A request that lands cleanly asks for no job of an activity that has landed. -/
theorem keepsTo_of_landsCleanly {answer : Except Exception (interface.Answer (.fire mutation))}
    (found : world.activities.get id = some row) (landed : Landed row.status)
    (lands : CleanLanding (⟨world, .fire mutation, answer, world'⟩ : Event (activities config))) :
    ∀ data delay, data.activityId = id → mutation ≠ .add data delay := by
  rintro data delay rfl rfl
  exact lands row found landed

/-- The queue of an activity that has landed, over one call of a request. -/
theorem Covered.act (covered : Covered world data)
    (answers : Answers (activities config) query world answer world')
    (lands : CleanLanding (⟨world, query, answer, world'⟩ : Event (activities config)))
    (found : world.activities.get data.activityId = some row) (landed : Landed row.status) :
    Covered world' data := by
  obtain ⟨timers, same | ⟨mutation, rfl, rfl⟩⟩ := queue_of_answers answers
  · exact covered.mono (by rw [timers]; exact List.Subset.refl _) same
  · exact covered.fire fun delay => keepsTo_of_landsCleanly found landed lands data delay rfl

theorem OnlyOf.act (only : OnlyOf id version world)
    (answers : Answers (activities config) query world answer world')
    (lands : CleanLanding (⟨world, query, answer, world'⟩ : Event (activities config)))
    (found : world.activities.get id = some row) (landed : Landed row.status) :
    OnlyOf id version world' := by
  obtain ⟨timers, same | ⟨mutation, rfl, rfl⟩⟩ := queue_of_answers answers
  · exact only.mono (by rw [timers]; exact List.Subset.refl _) (by rw [same]; exact List.Subset.refl _)
  · apply only.fire
    cases mutation with
    | remove jobId => trivial
    | add data delay => exact fun own => absurd rfl (keepsTo_of_landsCleanly found landed lands data delay own)

/-- A row that has landed was there before the call, or it has just landed. -/
theorem only_of_answers (answers : Answers (activities config) query world answer world')
    (lands : CleanLanding (⟨world, query, answer, world'⟩ : Event (activities config)))
    (there : world'.activities.get row.id = some row) (landed : Landed row.status)
    (moved : row.version ≠ 1)
    (before : world.activities.get row.id = some row →
      ∃ version, row.version = version + 1 ∧ OnlyOf row.id version world) :
    ∃ version, row.version = version + 1 ∧ OnlyOf row.id version world' := by
  have stays (found : world.activities.get row.id = some row) :
      ∃ version, row.version = version + 1 ∧ OnlyOf row.id version world' := by
    obtain ⟨version, numbered, only⟩ := before found
    exact ⟨version, numbered, only.act answers lands found landed⟩
  rcases answers.elim with ⟨rfl, rfl⟩ | ⟨error, -, -, rfl⟩
  · cases query with
    | applyTransition input =>
      rcases applyTransition_cases input world with missed | ⟨old, found, -, -, version, written⟩
      · simp only [serve, missed] at there
        exact stays there
      · simp only [serve, written] at there lands
        by_cases own : row.id = (input.saved old).id
        · rw [own] at there
          have here : world.activities.get (input.saved old).id = some old := by
            rw [← (Table.key_of_get found : old.id = input.id)] at found
            exact found
          obtain rfl : input.saved old = row :=
            Option.some.inj ((Table.get_put_self here).symm.trans there)
          refine ⟨input.expectedVersion, by rw [← version]; rfl, ?_⟩
          simp only [serve, written]
          have only := lands landed
          rw [← (Table.key_of_get found : old.id = input.id)] at only
          exact only.mono (List.Subset.refl _) (List.Subset.refl _)
        · rw [Table.get_put_other own] at there
          exact stays there
    | insertActivity input childrenIds =>
      simp only [serve, insertActivity] at there
      cases accepted : world.activities.insert (input.saved world.freshId) with
      | none =>
        simp only [accepted] at there
        exact stays there
      | some table =>
        simp only [accepted, (Table.get_insert accepted).2] at there
        split at there
        · cases there
          exact absurd rfl moved
        · exact stays there
    | _ => exact stays there
  · exact stays there

/-- A write leaves a row to be wired over the version before its own. -/
theorem numbered_of_write (answers : Answers (activities config) query world answer world')
    (open_ : phase.Open) :
    phase.next query answer = .idle ∨ ∃ entity previousVersion,
      phase.next query answer = .committed entity previousVersion ∧ Numbered entity previousVersion := by
  rcases answers.elim with ⟨rfl, rfl⟩ | ⟨error, -, rfl, rfl⟩
  · cases query with
    | applyTransition input =>
      rcases applyTransition_cases input world with missed | ⟨old, -, -, -, version, written⟩
      · simp only [serve, missed]
        exact .inl rfl
      · simp only [serve, written]
        refine .inr ⟨_, _, rfl, ?_⟩
        rw [← version]
        rfl
    | insertActivity input childrenIds =>
      simp only [serve, insertActivity]
      cases world.activities.insert (input.saved world.freshId) with
      | none => exact .inl rfl
      | some table => exact .inr ⟨_, _, rfl, rfl⟩
    | fire mutation =>
      cases phase with
      | idle => exact .inl rfl
      | committed entity previousVersion => exact open_.elim
      | firing entity previousVersion now rest =>
        obtain rfl : rest = [] := open_
        exact .inl rfl
    | now =>
      cases phase with
      | idle => exact .inl rfl
      | committed entity previousVersion => exact open_.elim
      | firing entity previousVersion now rest => exact .inl rfl
    | _ => exact .inl rfl
  · cases query <;> exact .inl rfl

theorem History.version_pos {events : List InsertOutboxEventInput} (history : History config events row) :
    1 ≤ row.version := by
  cases history with
  | opened opens =>
    cases opens
    exact le_rfl
  | moved _ moves =>
    rw [moves.version_eq]
    omega

/-- No activity begins where it has landed. -/
theorem History.moved_of_landed {events : List InsertOutboxEventInput}
    (history : History config events row) (landed : Landed row.status) : row.version ≠ 1 := by
  cases history with
  | opened opens =>
    obtain ⟨bondId, dto, userId, criticality, now, id⟩ := opens
    cases assignee : dto.assignedTo <;>
      simp [InsertWithInitialTransitionInput.saved, createInput, resolveInitial, assignee, Landed] at landed
  | moved earlier moves =>
    have started := History.version_pos earlier
    rw [moves.version_eq]
    omega

/-! ## Every run -/

theorem Written.current (written : Written world entity) (later : Later world world')
    (there : world'.activities.get entity.id = some entity) :
    world.activities.get entity.id = some entity := by
  obtain ⟨row, found, order⟩ := written
  obtain ⟨row', here, moved⟩ := later.rows _ row found
  cases there.symm.trans here
  rcases order with rfl | newer
  · exact found
  · rcases moved with rfl | newest
    · exact absurd newer (lt_irrefl _)
    · exact absurd (newer.trans newest) (lt_irrefl _)

theorem Clearing.later (clearing : Clearing world phase) (later : Later world world')
    (onward : ∀ data row, world.activities.get data.activityId = some row → Landed row.status →
      Covered world data → Covered world' data) : Clearing world' phase := by
  cases phase with
  | idle => trivial
  | committed entity previousVersion => exact ⟨clearing.1.later later, clearing.2⟩
  | firing entity previousVersion now rest =>
    obtain ⟨written, numbered, cleared⟩ := clearing
    refine ⟨written.later later, numbered, fun there landed data own removes => ?_⟩
    have found := written.current later there
    exact (cleared found landed data own removes).imp_right (onward data entity (own ▸ found) landed)

/-- A thread goes on with its wiring. -/
theorem Clearing.act (clearing : Clearing world phase) (permitted : phase.permits query)
    (answers : Answers (activities config) query world answer world') (later : Later world world')
    (written : ∀ entity previousVersion, phase.next query answer = .committed entity previousVersion →
      Written world' entity)
    (onward : ∀ data row, world.activities.get data.activityId = some row → Landed row.status →
      Covered world data → Covered world' data) : Clearing world' (phase.next query answer) := by
  have opened (open_ : phase.Open) : Clearing world' (phase.next query answer) := by
    rcases numbered_of_write answers open_ with idle | ⟨entity, previousVersion, committed, numbered⟩
    · rw [idle]
      trivial
    · rw [committed]
      exact ⟨written entity previousVersion committed, numbered⟩
  cases phase with
  | idle => exact opened trivial
  | committed entity previousVersion =>
    cases permitted
    obtain ⟨rfl, rfl⟩ := served_of_answers answers rfl
    exact ⟨clearing.1, clearing.2, fun _ _ data _ removes => .inl removes⟩
  | firing entity previousVersion now rest =>
    cases rest with
    | nil => exact opened rfl
    | cons mutation rest =>
      cases permitted
      obtain ⟨rfl, rfl⟩ := served_of_answers answers rfl
      obtain ⟨there, numbered, cleared⟩ := clearing
      refine ⟨there.later later, numbered, fun found landed data own removes => ?_⟩
      rcases cleared found landed data own removes with waiting | covered
      · rcases List.mem_cons.mp waiting with rfl | waiting
        · exact .inr (covered_of_fire world data)
        · exact .inl waiting
      · exact .inr (onward data entity (own ▸ found) landed covered)

theorem accepting_of_landsCleanly (chronicle : Chronicle (activities config) LandsCleanly moments cfg) :
    Chronicle (activities config) Accepting moments cfg :=
  chronicle.weaken fun _ _ lands => lands.1.1

/-- The queue of an activity that has landed, over any move. -/
theorem covered_onward (allFounded : AllFounded cfg.world) (lands : LandsCleanly cfg move)
    (moved : advance move cfg = some cfg') (found : cfg.world.activities.get data.activityId = some row)
    (landed : Landed row.status) (covered : Covered cfg.world data) : Covered cfg'.world data := by
  rcases advance_cases moved with ⟨how, rfl, rfl⟩ | ⟨entry, rfl, rfl⟩ | ⟨index, rfl, rfl⟩ |
    ⟨index, thread, event, rest, at_, acts, rfl⟩
  · exact covered.nudge allFounded lands.1
  · exact covered
  · exact covered
  · have clean := lands.2 _ acts
    obtain ⟨-, query, next, answer, after, -, rfl, -, answers⟩ := acts_cases acts
    exact covered.act answers clean found landed

theorem tidied (chronicle : Chronicle (activities config) LandsCleanly moments cfg) : Tidied moments cfg := by
  induction chronicle with
  | start =>
    refine ⟨fun row found => ?_, by simp, fun _ _ _ ⟨_, member, _⟩ => by cases member⟩
    cases Table.get_empty.symm.trans found
  | @step moments cfg cfg' move before lands moved ih =>
    have chronicle := before.step lands moved
    have allFounded := (wirings_hold (accepting_of_landsCleanly before)).allFounded
    have later := later_of_step before.run lands moved
    have onward (data : ActivityTimerJobData) (row : ActivityEntity)
        (found : cfg.world.activities.get data.activityId = some row) (landed : Landed row.status)
        (covered : Covered cfg.world data) : Covered cfg'.world data :=
      covered_onward allFounded lands moved found landed covered
    have acting : ∀ thread event rest, cfg.acts move = some (thread, event, rest) →
        Clearing cfg'.world (wiringOf (event :: thread.past)) := by
      intro thread event rest acts
      have permitted := wiring_permits before.run acts
      obtain ⟨same, there⟩ := advance_of_acts moved acts
      have underway := (wirings_hold (accepting_of_landsCleanly chronicle)).threads _ there
      obtain ⟨member, query, next, answer, after, -, rfl, -, answers⟩ := acts_cases acts
      rw [same] at later onward underway ⊢
      refine (ih.threads thread member).act permitted answers later
        (fun entity previousVersion committed => ?_) onward
      have at_ : wiringOf (⟨cfg.world, query, answer, after⟩ :: thread.past) =
        .committed entity previousVersion := committed
      change Underway _ _ (wiringOf (_ :: thread.past)) at underway
      rw [at_] at underway
      exact underway.1
    refine ⟨fun row found landed => ?_, fun thread member => ?_, fun entity previousVersion now complete => ?_⟩
    · have history := row_history chronicle.run.reachable found
      have moved_ := history.moved_of_landed landed
      rcases advance_cases moved with ⟨how, rfl, rfl⟩ | ⟨entry, rfl, rfl⟩ | ⟨index, rfl, rfl⟩ |
        ⟨index, thread, event, rest, at_, acts, rfl⟩
      · have same := (nudge_unwritten how cfg.world).1.1
        obtain ⟨version, numbered, only⟩ := ih.only row (same ▸ found) landed
        exact ⟨version, numbered, only.nudge how⟩
      · exact ih.only row found landed
      · exact ih.only row found landed
      · have clean := lands.2 _ acts
        obtain ⟨-, query, next, answer, after, -, rfl, -, answers⟩ := acts_cases acts
        exact only_of_answers answers clean found landed moved_ fun there => ih.only row there landed
    · rcases thread_came moved member with old | ⟨entry, rfl⟩ | ⟨acted, event, rest, acts, -, rfl⟩
      · exact (ih.threads thread old).later later onward
      · trivial
      · exact acting acted event rest acts
    · rcases wired_cases complete with earlier | ⟨thread, event, rest, acts, ended⟩
      · exact (ih.wired entity previousVersion now earlier).later later onward
      · have clearing := acting thread event rest acts
        rw [ended] at clearing
        exact clearing

/-- A job that is queued is of one of the kinds that a landing cancels. -/
theorem removes_of_queued (allFounded : AllFounded world) {job : TimerJob} (queued : job ∈ world.timers.rows)
    (landed : Landed row.status) (own : job.data.activityId = row.id) (now : Instant) :
    .remove job.data.jobId ∈ timerMutations row (some job.data.version) now := by
  obtain ⟨-, entity, kind, target, -, same, aim, -⟩ := allFounded.jobs job queued
  have known : (⟨.cancel, kind⟩ : TimerOp) ∈ timerOpsForTransition row.status := by
    obtain ⟨sources, expected⟩ := expectedSource_of_target aim
    have all : timerOpsForTransition row.status = cancelAll := by
      rcases List.mem_cons.mp landed with done | landed
      · rw [done]; rfl
      · rcases List.mem_pair.mp landed with status | status <;> rw [status] <;> rfl
    rw [all]
    cases kind <;> first | (cases expected; done) | decide
  refine List.mem_filterMap.mpr ⟨_, known, ?_⟩
  rw [ActivityTimerJobData.jobId, own, same]
  rfl

/-- **In every run in which each landing finds no older job, no timer outlives a landing.** -/
theorem no_timer_left (chronicle : Chronicle (activities config) LandsCleanly moments cfg) :
    LeavesNoTimer moments cfg := by
  intro row previousVersion now found landed complete executed job queued own
  obtain ⟨only, -, wired⟩ := tidied chronicle
  have allFounded := (wirings_hold (accepting_of_landsCleanly chronicle)).allFounded
  have moved := (row_history chronicle.run.reachable found).moved_of_landed landed
  obtain ⟨version, numbered, jobs, -⟩ := only row found landed
  obtain ⟨-, before, cleared⟩ := wired row previousVersion now complete
  have at_ : job.data.version = version := jobs job queued own
  cases previousVersion with
  | none => exact moved before
  | some previous =>
    have same : previous = job.data.version := by
      have left : row.version = previous + 1 := before
      omega
    subst same
    have removes := removes_of_queued allFounded queued landed own now
    rcases cleared found landed job.data own removes with waiting | ⟨absent, -⟩ | ⟨before, after, shape, -⟩
    · cases waiting
    · exact absent job queued rfl
    · apply executed _ removes
      rw [shape]
      exact List.mem_append_right _ List.mem_cons_self

/-- An activity is created and cancelled while nobody has been assigned. -/
def withdrawn : List (Move (activities defaults)) :=
  creation ++ [.arrive (.cancel "a1" "u1" (some (.str "Cambio de planes")))] ++ turns 1 13 ++
    List.replicate 4 (.nudge (.settle 0))

theorem no_timer_left_withdrawn :
    ∃ (moments : List (Moment (activities defaults))) (cfg : Interleaving.Config (activities defaults))
      (row : ActivityEntity), Chronicle (activities defaults) LandsCleanly moments cfg ∧
      cfg.world.activities.get "a1" = some row ∧ row.status = .cancelled ∧
      Wired moments row (some 1) 0 ∧ ∀ job ∈ cfg.world.timers.rows, job.data.activityId ≠ "a1" := by
  obtain ⟨moments, cfg, chronicle, shown⟩ := exists_followed LandsCleanly withdrawn
    (fun moments cfg => cfg.world.firing.isEmpty &&
      (cfg.world.activities.get "a1").any fun row : ActivityEntity =>
        decide (row.status = ActivityStatus.cancelled) && moments.any (finishes row (some 1) 0))
    (by decide +kernel)
  obtain ⟨idle, shown⟩ := Bool.and_eq_true_iff.mp shown
  obtain ⟨row, found, shown⟩ := (Option.any_eq_true _ _).mp shown
  obtain ⟨status, finished⟩ := Bool.and_eq_true_iff.mp shown
  have cancelled : row.status = .cancelled := of_decide_eq_true status
  have own : row.id = "a1" := Table.key_of_get found
  have landed : Landed row.status := by
    rw [cancelled]
    decide
  have still : cfg.world.firing = [] := List.isEmpty_iff.mp idle
  have complete := wired_of_finishes finished
  exact ⟨moments, cfg, row, chronicle, found, cancelled, complete, own ▸ no_timer_left chronicle row (some 1) 0
    (own ▸ found) landed complete (by simp [still])⟩

end ParentalCoord.Activities

import ParentalCoord.Activities.History

/-!
What holds of the shared world between any two calls, and what one call or one
move of the world does to it.

`Consistent` ties the three stores: the events of every activity replay to its
row, and a timer is for a row whose anchor it does not precede, unless the row
has moved on from the version the timer carries.
-/

namespace ParentalCoord.Activities

open Interleaving Store

/-- The world has moved on: time has not gone back, and a row is the one it was
or a later version. -/
structure Later (first second : World) : Prop where
  clock : first.clock ≤ second.clock
  rows : ∀ id row, first.activities.get id = some row →
    ∃ row', second.activities.get id = some row' ∧ (row' = row ∨ row.version < row'.version)

/-- No activity and no outbox row is written. -/
def Unwritten (first second : World) : Prop :=
  second.activities = first.activities ∧ second.outbox = first.outbox

/-- A timer for `time`: its row exists, and if it is still at the version of the
timer then the target of the timer is not after `time`. -/
def Due (world : World) (data : ActivityTimerJobData) (time : Instant) : Prop :=
  ∃ row, world.activities.get data.activityId = some row ∧ data.version ≤ row.version ∧
    (row.version = data.version → ∃ target, timerTarget data.kind row = some target ∧ target ≤ time)

/-- The events of every activity replay to its row. -/
def Journaled (config : Config) (world : World) : Prop :=
  ∀ id, (world.activities.get id = none → eventsOf .activity id world.outbox = []) ∧
    ∀ row, world.activities.get id = some row →
      History config (eventsOf .activity id world.outbox) row

structure Consistent (config : Config) (world : World) : Prop where
  journaled : Journaled config world
  timers : ∀ job ∈ world.timers.rows, Due world job.data job.runAt
  firing : ∀ data delay, .add data delay ∈ world.firing → Due world data (world.clock + delay)

variable {config : Config} {first second third world world' : World} {id : Uuid}
  {row row' : ActivityEntity} {event : InsertOutboxEventInput} {data : ActivityTimerJobData}
  {time time' : Instant}

theorem Later.refl (world : World) : Later world world :=
  ⟨le_rfl, fun _ row found => ⟨row, found, .inl rfl⟩⟩

theorem Later.trans (earlier : Later first second) (later : Later second third) :
    Later first third := by
  refine ⟨earlier.clock.trans later.clock, fun id row found => ?_⟩
  obtain ⟨between, there, moved⟩ := earlier.rows id row found
  obtain ⟨last, here, more⟩ := later.rows id between there
  refine ⟨last, here, ?_⟩
  rcases moved with rfl | moved
  · exact more
  · rcases more with rfl | more
    · exact .inr moved
    · exact .inr (moved.trans more)

theorem Later.of_unwritten (clock : first.clock ≤ second.clock)
    (unwritten : Unwritten first second) : Later first second :=
  ⟨clock, fun _ row found => ⟨row, by rw [unwritten.1]; exact found, .inl rfl⟩⟩

/-- The row of an id at two times: if the versions agree, nothing has happened. -/
theorem Later.same (later : Later first second) (before : first.activities.get id = some row)
    (after : second.activities.get id = some row') (version : row'.version = row.version) :
    row' = row := by
  obtain ⟨found, there, same | newer⟩ := later.rows id row before
  · exact Option.some.inj (after.symm.trans there) |>.trans same
  · cases after.symm.trans there
    omega

theorem Due.later (due : Due first data time) (later : Later first second)
    (onward : time ≤ time') : Due second data time' := by
  obtain ⟨row, found, atMost, target⟩ := due
  obtain ⟨row', there, moved⟩ := later.rows _ row found
  refine ⟨row', there, ?_, fun still => ?_⟩
  · rcases moved with rfl | newer <;> omega
  · rcases moved with rfl | newer
    · obtain ⟨instant, aim, notAfter⟩ := target still
      exact ⟨instant, aim, notAfter.trans onward⟩
    · omega

/-! ## Writes -/

/-- What the compare-and-swap does: nothing, or one write over the row expected. -/
theorem applyTransition_cases (input : ApplyTransitionInput) (world : World) :
    applyTransition input world = (none, world) ∨
    ∃ row, world.activities.get input.id = some row ∧ row.deletedAt = none ∧
      row.status = input.expectedFrom ∧ row.version = input.expectedVersion ∧
      applyTransition input world = (some (input.saved row),
        { world with
          activities := world.activities.put (input.saved row)
          outbox := world.outbox ++ [input.event row] }) := by
  unfold applyTransition
  cases found : world.activities.get input.id with
  | none => exact .inl rfl
  | some row =>
    by_cases missed : row.deletedAt ≠ none ∨ row.status ≠ input.expectedFrom ∨
        row.version ≠ input.expectedVersion
    · exact .inl (by simp only [if_pos missed])
    · refine .inr ⟨row, rfl, ?_⟩
      simp only [if_neg missed]
      simp only [not_or, not_not] at missed
      exact ⟨missed.1, missed.2.1, missed.2.2, trivial⟩

theorem Later.move (found : world.activities.get row.id = some row)
    (moves : Moves config event row row') :
    Later world { world with
      activities := world.activities.put row', outbox := world.outbox ++ [event] } := by
  refine ⟨le_rfl, fun id old there => ?_⟩
  rw [Table.get_put, moves.id_eq]
  by_cases own : id = row.id
  · subst own
    cases there.symm.trans found
    exact ⟨row', by simp [found], .inr (by rw [moves.version_eq]; omega)⟩
  · exact ⟨old, by simp [own, there], .inl rfl⟩

theorem Journaled.move (journaled : Journaled config world)
    (found : world.activities.get row.id = some row) (moves : Moves config event row row') :
    Journaled config { world with
      activities := world.activities.put row', outbox := world.outbox ++ [event] } := by
  intro id
  obtain ⟨kind, own⟩ := moves.event_id
  rw [Table.get_put, moves.id_eq]
  by_cases same : id = row.id
  · subst same
    simp only [found, if_pos, Option.map_some, reduceCtorEq, false_implies, true_and,
      Option.some.injEq, forall_eq', eventsOf_append_self kind own]
    exact .moved ((journaled _).2 row found) moves
  · rw [if_neg same, eventsOf_append_other (own ▸ Ne.symm same)]
    exact journaled id

theorem Later.open {table : Table ActivityEntity.id}
    (accepted : world.activities.insert row = some table)
    (activityChildren : List (Uuid × Uuid)) :
    Later world { world with
      activities := table
      outbox := world.outbox ++ [event]
      activityChildren := activityChildren } := by
  obtain ⟨free, added⟩ := Table.get_insert accepted
  refine ⟨le_rfl, fun id old there => ⟨old, ?_, .inl rfl⟩⟩
  rw [added, if_neg]
  · exact there
  · rintro rfl
    cases free.symm.trans there

theorem Journaled.open (journaled : Journaled config world) {table : Table ActivityEntity.id}
    (accepted : world.activities.insert row = some table) (opens : Opens config event row)
    (activityChildren : List (Uuid × Uuid)) :
    Journaled config { world with
      activities := table
      outbox := world.outbox ++ [event]
      activityChildren := activityChildren } := by
  intro id
  obtain ⟨free, added⟩ := Table.get_insert accepted
  have own : event.aggregateType = .activity ∧ event.aggregateId = row.id := by
    cases opens
    exact ⟨rfl, rfl⟩
  rw [added]
  by_cases same : id = row.id
  · subst same
    rw [if_pos rfl, eventsOf_append_self own.1 own.2, (journaled row.id).1 free]
    refine ⟨nofun, fun found there => ?_⟩
    cases there
    exact .opened opens
  · rw [if_neg same, eventsOf_append_other (own.2 ▸ Ne.symm same)]
    exact journaled id

/-- Timers stay due when the world moves on and none is added. -/
theorem Consistent.later (consistent : Consistent config world) (later : Later world world')
    (journaled : Journaled config world') (timers : world'.timers.rows ⊆ world.timers.rows)
    (firing : world'.firing ⊆ world.firing) : Consistent config world' where
  journaled := journaled
  timers job member := (consistent.timers job (timers member)).later later le_rfl
  firing data delay member :=
    (consistent.firing data delay (firing member)).later later (Int.add_le_add_right later.clock _)

theorem Consistent.unwritten (consistent : Consistent config world)
    (clock : world.clock ≤ world'.clock) (unwritten : Unwritten world world')
    (timers : world'.timers.rows ⊆ world.timers.rows) (firing : world'.firing ⊆ world.firing) :
    Consistent config world' := by
  refine consistent.later (.of_unwritten clock unwritten) (fun id => ?_) timers firing
  rw [unwritten.1, unwritten.2]
  exact consistent.journaled id

/-- A mutation in flight adds a timer that is due. -/
def FiresDue (world : World) : QueueMutation → Prop
  | .add data delay => Due world data (world.clock + delay)
  | .remove _ => True

theorem Consistent.fire (consistent : Consistent config world) {mutation : QueueMutation}
    (due : FiresDue world mutation) :
    Consistent config { world with firing := world.firing ++ [mutation] } where
  journaled := consistent.journaled
  timers := consistent.timers
  firing data delay member := by
    rcases List.mem_append.mp member with old | new
    · exact consistent.firing data delay old
    · rw [List.mem_singleton] at new
      subst new
      exact due

theorem Consistent.settle (consistent : Consistent config world) {mutation : QueueMutation}
    (due : FiresDue world mutation) : Consistent config (mutation.settle world) := by
  cases mutation with
  | remove jobId =>
    exact consistent.unwritten le_rfl ⟨rfl, rfl⟩ (List.filter_sublist.subset) (List.Subset.refl _)
  | add data delay =>
    simp only [QueueMutation.settle]
    split
    · rename_i timers accepted
      refine ⟨consistent.journaled, fun job member => ?_, consistent.firing⟩
      obtain ⟨free, added⟩ := Table.get_insert accepted
      have there := (added job.jobId).symm.trans (Table.get_of_mem member)
      split at there
      · cases there
        exact due
      · exact consistent.timers job (Table.mem_of_get there)
    · exact consistent

theorem settle_unwritten (mutation : QueueMutation) (world : World) :
    Unwritten world (mutation.settle world) ∧ (mutation.settle world).clock = world.clock := by
  unfold QueueMutation.settle
  split
  · split <;> exact ⟨⟨rfl, rfl⟩, rfl⟩
  · exact ⟨⟨rfl, rfl⟩, rfl⟩

/-- The world moving by itself writes nothing, and its clock does not go back. -/
theorem nudge_unwritten (how : Nudge) (world : World) :
    Unwritten world (nudge how world) ∧ world.clock ≤ (nudge how world).clock := by
  cases how with
  | tick ms => exact ⟨⟨rfl, rfl⟩, Int.le_add_of_nonneg_right (Int.natCast_nonneg ms)⟩
  | settle index =>
    simp only [Activities.nudge]
    split
    · rename_i mutation at_
      obtain ⟨unwritten, clock⟩ :=
        settle_unwritten mutation { world with firing := world.firing.eraseIdx index }
      exact ⟨unwritten, clock.ge⟩
    · exact ⟨⟨rfl, rfl⟩, le_rfl⟩
  | _ => exact ⟨⟨rfl, rfl⟩, le_rfl⟩

/-- The world moving by itself keeps all of it and writes nothing. -/
theorem Consistent.nudge (consistent : Consistent config world) (how : Nudge) :
    Consistent config (nudge how world) ∧ Later world (nudge how world) := by
  have subset : world.firing ⊆ world.firing := List.Subset.refl _
  have rows : world.timers.rows ⊆ world.timers.rows := List.Subset.refl _
  cases how with
  | tick ms =>
    have onward : world.clock ≤ world.clock + ms := Int.le_add_of_nonneg_right (Int.natCast_nonneg ms)
    exact ⟨consistent.unwritten onward ⟨rfl, rfl⟩ rows subset, .of_unwritten onward ⟨rfl, rfl⟩⟩
  | directory directory =>
    exact ⟨consistent.unwritten le_rfl ⟨rfl, rfl⟩ rows subset, .of_unwritten le_rfl ⟨rfl, rfl⟩⟩
  | generate id =>
    exact ⟨consistent.unwritten le_rfl ⟨rfl, rfl⟩ rows subset, .of_unwritten le_rfl ⟨rfl, rfl⟩⟩
  | settle index =>
    have fewer : Consistent config { world with firing := world.firing.eraseIdx index } :=
      consistent.unwritten le_rfl ⟨rfl, rfl⟩ rows (List.eraseIdx_subset)
    simp only [Activities.nudge]
    cases at_ : world.firing[index]? with
    | none => exact ⟨consistent, .refl _⟩
    | some mutation =>
      have due : FiresDue { world with firing := world.firing.eraseIdx index } mutation := by
        cases mutation with
        | add data delay => exact consistent.firing data delay (List.mem_of_getElem? at_)
        | remove jobId => trivial
      obtain ⟨unwritten, clock⟩ :=
        settle_unwritten mutation { world with firing := world.firing.eraseIdx index }
      exact ⟨fewer.settle due, .of_unwritten (by rw [clock]) unwritten⟩
  | lose index =>
    exact ⟨consistent.unwritten le_rfl ⟨rfl, rfl⟩ rows (List.eraseIdx_subset),
      .of_unwritten le_rfl ⟨rfl, rfl⟩⟩
  | drop jobId =>
    exact ⟨consistent.unwritten le_rfl ⟨rfl, rfl⟩ (List.filter_sublist.subset) subset,
      .of_unwritten le_rfl ⟨rfl, rfl⟩⟩
  | scan order =>
    exact ⟨consistent.unwritten le_rfl ⟨rfl, rfl⟩ rows subset, .of_unwritten le_rfl ⟨rfl, rfl⟩⟩

theorem consistent_start : Consistent config start where
  journaled id := by simp [start, eventsOf]
  timers job member := by cases member
  firing data delay member := by cases member

end ParentalCoord.Activities

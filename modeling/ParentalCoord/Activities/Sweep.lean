import Mathlib.Algebra.Order.BigOperators.Group.List
import Mathlib.Algebra.Order.Floor.Div
import ParentalCoord.Activities.Alone
import ParentalCoord.Activities.Due
import ParentalCoord.Interleaving.Unhurried

/-!
The sweep, pass after pass at one instant, with no other request at work.

A pass moves every row that it lists, each once.  A row that has been moved is at most once
due again, when it goes from `assisting` to `in_progress` and is past its end as well.  So
the passes run out of rows.
-/

namespace ParentalCoord.Activities

open Interleaving Store

variable {config : Config} {world between after : World} {row : ActivityEntity} {id : Uuid}
  {rule : TransitionRule} {now : Instant} {to_ : ActivityStatus}

/-- Nothing is written, and time does not go back. -/
structure Idles (world after : World) : Prop where
  activities : after.activities = world.activities
  outbox : after.outbox = world.outbox
  clock : world.clock ≤ after.clock

/-- What may come of a call, when the world has moved by itself before it. -/
def Elapsing (query : Call) (world : World) (answer : Except Exception (interface.Answer query))
    (after : World) : Prop :=
  ∃ moved, Idles world moved ∧ (answer, after) = serve query moved

/-- `runSweep` with its instant given. -/
def runSweepAt (config : Config) (now : Instant) : Request Unit := do
  let due ← findDueForTransition now SWEEP_LIMIT
  sweepAll config now due

theorem runSweep_eq (config : Config) : runSweep config = clockNow.bind (runSweepAt config) := rfl

theorem Idles.refl (world : World) : Idles world world := ⟨rfl, rfl, le_rfl⟩

theorem Idles.trans {first second third : World} (earlier : Idles first second)
    (later : Idles second third) : Idles first third :=
  ⟨later.activities.trans earlier.activities, later.outbox.trans earlier.outbox,
    earlier.clock.trans later.clock⟩

theorem elapsing_serve (query : Call) (world : World) :
    Elapsing query world (serve query world).1 (serve query world).2 :=
  ⟨world, .refl world, rfl⟩

/-! ## One transition of the system -/

/-- A query that writes nothing answers as the world has it, some time later. -/
theorem reads_elapse {query : Call} {result : Except Exception (interface.Answer query)}
    (same : ∀ world, (serve query world).2 = world)
    (runs : Handler.Runs Elapsing (perform query) world result after) :
    Idles world after ∧ result = (serve query after).1 := by
  obtain ⟨moved, idles, stepped⟩ := runs.perform_cases
  have unwritten : after = moved := (congrArg Prod.snd stepped).trans (same moved)
  subst unwritten
  exact ⟨idles, congrArg Prod.fst stepped⟩

theorem fire_elapses {mutation : QueueMutation} {result : Except Exception Unit}
    (runs : Handler.Runs Elapsing (fire mutation) world result after) :
    result = .ok () ∧ Idles world after := by
  obtain ⟨moved, idles, stepped⟩ := runs.perform_cases
  cases stepped
  exact ⟨rfl, idles.trans ⟨rfl, rfl, le_rfl⟩⟩

theorem fireAll_elapses {mutations : List QueueMutation} {result : Except Exception Unit}
    (runs : Handler.Runs Elapsing (fireAll mutations) world result after) :
    result = .ok () ∧ Idles world after := by
  induction mutations generalizing world with
  | nil =>
    obtain ⟨rfl, rfl⟩ := runs.ret_cases
    exact ⟨rfl, .refl _⟩
  | cons mutation rest ih =>
    rcases runs.bind_cases with ⟨_, between, fired, later⟩ | ⟨error, -, fired⟩
    · obtain ⟨ended, idles⟩ := ih later
      exact ⟨ended, (fire_elapses fired).2.trans idles⟩
    · cases (fire_elapses fired).1

theorem clockNow_elapses {result : Except Exception Instant}
    (runs : Handler.Runs Elapsing clockNow world result after) :
    result = .ok after.clock ∧ Idles world after := by
  obtain ⟨idles, answered⟩ := reads_elapse (fun _ => rfl) runs
  exact ⟨answered, idles⟩

theorem wireTimers_elapses {entity : ActivityEntity} {previousVersion : Option ℕ}
    {result : Except Exception Unit}
    (runs : Handler.Runs Elapsing (wireTimers entity previousVersion) world result after) :
    result = .ok () ∧ Idles world after := by
  rcases runs.bind_cases with ⟨now, between, timed, later⟩ | ⟨error, -, timed⟩
  · obtain ⟨ended, idles⟩ := fireAll_elapses later
    exact ⟨ended, (clockNow_elapses timed).2.trans idles⟩
  · cases (clockNow_elapses timed).1

/-- What a request of the sweep asks for. -/
def systemRequest (id : Uuid) (to_ : ActivityStatus) : TransitionRequest where
  activityId := id
  to_ := to_
  actor := .system

/-- The row is written as the rule has it at some instant, and the outbox tells of it. -/
structure Moved (config : Config) (to_ : ActivityStatus) (row : ActivityEntity) (rule : TransitionRule)
    (world after : World) : Prop where
  clock : world.clock ≤ after.clock
  written : ∃ now, world.clock ≤ now ∧
    let input := transitionInput config (systemRequest row.id to_) row rule now none
    after.activities = world.activities.put (input.saved row) ∧
      after.outbox = world.outbox ++ [input.event row]

theorem commitTransition_elapses (found : world.activities.get row.id = some row)
    (alive : row.deletedAt = none) {input : ApplyTransitionInput} (own : input.id = row.id)
    (status : input.expectedFrom = row.status) (version : input.expectedVersion = row.version)
    {result : Except Exception (Option ActivityEntity)}
    (runs : Handler.Runs Elapsing (commitTransition input) world result after) :
    result = .ok (some (input.saved row)) ∧ world.clock ≤ after.clock ∧
      after.activities = world.activities.put (input.saved row) ∧
      after.outbox = world.outbox ++ [input.event row] := by
  obtain ⟨moved, idles, stepped⟩ := runs.perform_cases
  have here : moved.activities.get row.id = some row := by rw [idles.activities]; exact found
  have applied := applyTransition_hit here alive own status version
  simp only [serve, applied, Prod.mk.injEq] at stepped
  obtain ⟨rfl, rfl⟩ := stepped
  exact ⟨rfl, idles.clock, by rw [idles.activities], by rw [idles.outbox]⟩

/-- A transition of the system that its rule lets through. -/
theorem transition_elapses (found : world.activities.get row.id = some row) (alive : row.deletedAt = none)
    (admitted : Admitted (systemRequest row.id to_) row rule)
    {result : Except Exception (Option ActivityEntity)}
    (runs : Handler.Runs Elapsing (transition config (systemRequest row.id to_)) world result after) :
    (∃ updated, result = .ok updated) ∧ Moved config to_ row rule world after := by
  rcases runs.bind_cases with ⟨read, seen, reading, runs⟩ | ⟨error, -, reading⟩
  · obtain ⟨idles, answered⟩ := reads_elapse (fun _ => rfl) reading
    have here : seen.activities.get row.id = some row := by rw [idles.activities]; exact found
    obtain rfl : read = some row := by simpa [serve, systemRequest, here, Option.filter, alive] using answered
    have ruled : ruleFor (systemRequest row.id to_) row = .ok (some rule) := admitted_iff.mpr admitted
    -- The system is asked for no membership, and later for no role.
    change Handler.Runs Elapsing (clockNow.bind _) seen result after at runs
    rcases runs.bind_cases with ⟨now, told, timing, runs⟩ | ⟨error, -, timing⟩
    · obtain ⟨clock, passed⟩ := clockNow_elapses timing
      cases clock
      rw [ruled] at runs
      have there : told.activities.get row.id = some row := by rw [passed.activities]; exact here
      change Handler.Runs Elapsing
        ((commitTransition (transitionInput config (systemRequest row.id to_) row rule told.clock none)).bind _)
        told result after at runs
      rcases runs.bind_cases with ⟨committed, written, writing, runs⟩ | ⟨error, -, writing⟩
      · obtain ⟨done, clock, activities, outbox⟩ := commitTransition_elapses there alive rfl rfl rfl writing
        cases done
        rcases runs.bind_cases with ⟨_, wired, wiring, runs⟩ | ⟨error, -, wiring⟩
        · obtain ⟨-, later⟩ := wireTimers_elapses wiring
          obtain ⟨ended, rfl⟩ := runs.ret_cases
          have begun := idles.trans passed
          refine ⟨⟨_, ended⟩, (begun.clock.trans clock).trans later.clock, told.clock, begun.clock, ?_, ?_⟩
          · rw [later.activities, activities, begun.activities]
          · rw [later.outbox, outbox, begun.outbox]
        · cases (wireTimers_elapses wiring).1
      · cases (commitTransition_elapses there alive rfl rfl rfl writing).1
    · cases (clockNow_elapses timing).1
  · cases (reads_elapse (fun _ => rfl) reading).2

/-! ## How often a row is still to be moved -/

/-- The transitions that the sweep has left for a row: a second one where the row is due as
well in the status that the first one takes it to. -/
def movesLeft (now : Instant) (row : ActivityEntity) : ℕ :=
  if dueForTransition now row then
    if row.status = .assisting ∧ reached (row.scheduledEnd.or row.scheduledStart) now then 2 else 1
  else 0

theorem movesLeft_le_two (now : Instant) (row : ActivityEntity) : movesLeft now row ≤ 2 := by
  unfold movesLeft
  split <;> (try split) <;> omega

theorem movesLeft_eq_zero : movesLeft now row = 0 ↔ dueForTransition now row = false := by
  unfold movesLeft
  split <;> (try split) <;> simp_all

/-- A new deadline is not yet reached, so that the sweep leaves the row alone for now. -/
def Fresh (config : Config) (now : Instant) (world : World) : Prop :=
  now < computeResponseDeadline config world.clock

theorem Fresh.later (fresh : Fresh config now world) (later : world.clock ≤ after.clock) :
    Fresh config now after :=
  lt_of_lt_of_le fresh (Int.add_le_add_right later _)

/-- A transition of the sweep takes one from what is left for the row. -/
theorem movesLeft_saved {clock : Instant} (alive : row.deletedAt = none)
    (due : dueTargetFor row now = some to_)
    (admitted : Admitted (systemRequest row.id to_) row rule)
    (fresh : now < computeResponseDeadline config clock) :
    movesLeft now ((transitionInput config (systemRequest row.id to_) row rule clock none).saved row) + 1 =
      movesLeft now row := by
  have resolved : resolveTransition row.status to_ = some rule := admitted.resolved
  unfold dueTargetFor at due
  cases status : row.status <;> simp [status] at due <;> obtain ⟨come, rfl⟩ := due <;>
    rw [status] at resolved <;> cases resolved
  case assisting =>
    simp [movesLeft, dueForTransition, transitionInput, systemRequest, ApplyTransitionInput.saved,
      ApplyTransitionFields.onto, buildTransitionFields, ApplyTransitionFields.assign, stamp, alive,
      status, come]
    split <;> rfl
  case inProgress =>
    have ahead : reached (some (computeResponseDeadline config clock)) now = false := by
      simpa [reached] using fresh
    simp [movesLeft, dueForTransition, transitionInput, systemRequest, ApplyTransitionInput.saved,
      ApplyTransitionFields.onto, buildTransitionFields, ApplyTransitionFields.assign, stamp, alive,
      status, come, ahead]
  all_goals
    simp [movesLeft, dueForTransition, transitionInput, systemRequest, ApplyTransitionInput.saved,
      ApplyTransitionFields.onto, buildTransitionFields, ApplyTransitionFields.assign, stamp, alive,
      status, come]

/-! ## A pass -/

/-- The transitions that the sweep has left for all rows. -/
def World.movesLeft (world : World) (now : Instant) : ℕ :=
  (world.activities.rows.map (Activities.movesLeft now)).sum

/-- The outbox tells of the transitions of a sweep, each of which is one less that is left. -/
structure Swept (now : Instant) (events : List InsertOutboxEventInput) (world after : World) : Prop where
  clock : world.clock ≤ after.clock
  outbox : after.outbox = world.outbox ++ events
  total : after.movesLeft now + events.length = world.movesLeft now
  rows : ∀ id row', after.activities.get id = some row' → ∃ row, world.activities.get id = some row ∧
    movesLeft now row' + (eventsOf .activity id events).length = movesLeft now row ∧
    row'.version = row.version + (eventsOf .activity id events).length

variable {events events' : List InsertOutboxEventInput}

theorem eventsOf_append (type : OutboxAggregateType) (id : Uuid) (first second : List InsertOutboxEventInput) :
    eventsOf type id (first ++ second) = eventsOf type id first ++ eventsOf type id second :=
  List.filter_append ..

theorem eventsOf_self {event : InsertOutboxEventInput} (kind : event.aggregateType = .activity)
    (own : event.aggregateId = id) : eventsOf .activity id [event] = [event] := by
  simp [eventsOf, kind, own]

theorem eventsOf_other {event : InsertOutboxEventInput} (other : event.aggregateId ≠ id) :
    eventsOf .activity id [event] = [] := by
  simp [eventsOf, other]

theorem Idles.swept (idles : Idles world after) : Swept now [] world after where
  clock := idles.clock
  outbox := by rw [idles.outbox, List.append_nil]
  total := by rw [World.movesLeft, World.movesLeft, idles.activities, List.length_nil, Nat.add_zero]
  rows id row' found := ⟨row', idles.activities ▸ found, rfl, rfl⟩

theorem Swept.trans (earlier : Swept now events world between) (later : Swept now events' between after) :
    Swept now (events ++ events') world after where
  clock := earlier.clock.trans later.clock
  outbox := by rw [later.outbox, earlier.outbox, List.append_assoc]
  total := by
    have first := earlier.total
    have second := later.total
    rw [List.length_append]
    omega
  rows id row' found := by
    obtain ⟨middle, there, left, version⟩ := later.rows id row' found
    obtain ⟨row, start, left', version'⟩ := earlier.rows id middle there
    refine ⟨row, start, ?_, ?_⟩ <;> rw [eventsOf_append, List.length_append] <;> omega

theorem Moved.swept (moved : Moved config to_ row rule world after)
    (found : world.activities.get row.id = some row) (alive : row.deletedAt = none)
    (due : dueTargetFor row now = some to_) (admitted : Admitted (systemRequest row.id to_) row rule)
    (fresh : Fresh config now world) :
    ∃ event, event.aggregateType = .activity ∧ event.aggregateId = row.id ∧
      Swept now [event] world after ∧
      ∀ id, id ≠ row.id → after.activities.get id = world.activities.get id := by
  obtain ⟨clock, begun, activities, outbox⟩ := moved.written
  have onTime : now < computeResponseDeadline config clock :=
    lt_of_lt_of_le fresh (Int.add_le_add_right begun _)
  have one := movesLeft_saved alive due admitted onTime
  generalize same : transitionInput config (systemRequest row.id to_) row rule clock none = input
    at activities outbox one
  have own : (input.saved row).id = row.id := by rw [← same]; rfl
  have there : world.activities.get (input.saved row).id = some row := by rw [own]; exact found
  refine ⟨input.event row, rfl, by rw [← same]; rfl, ⟨moved.clock, outbox, ?_, fun id row' here => ?_⟩,
    fun id other => ?_⟩
  · have sum := Table.sum_put (movesLeft now) there
    rw [World.movesLeft, World.movesLeft, activities, List.length_singleton]
    omega
  · rw [activities, Table.get_put] at here
    have named : (input.event row).aggregateId = row.id := by rw [← same]; rfl
    by_cases self : id = row.id
    · subst self
      rw [if_pos own.symm, found] at here
      cases here
      have told : eventsOf .activity row.id [input.event row] = [input.event row] :=
        eventsOf_self rfl named
      exact ⟨row, found, by rw [told]; exact one, by rw [told]; rfl⟩
    · rw [own, if_neg self] at here
      have told : eventsOf .activity id [input.event row] = [] :=
        eventsOf_other (named ▸ Ne.symm self)
      exact ⟨row', here, by rw [told]; rfl, by rw [told]; rfl⟩
  · rw [activities]
    exact Table.get_put_other (own ▸ other)

/-- Nothing comes of a transition of the system but what it has done to the world. -/
theorem applySystemTransition_elapses (found : world.activities.get row.id = some row)
    (alive : row.deletedAt = none) (admitted : Admitted (systemRequest row.id to_) row rule)
    {result : Except Exception Unit}
    (runs : Handler.Runs Elapsing (applySystemTransition config row.id to_) world result after) :
    result = .ok () ∧ Moved config to_ row rule world after := by
  rcases runs.tryCatch_cases with ⟨_, ended, runs⟩ | ⟨error, between, runs, -⟩
  · rcases runs.bind_cases with ⟨updated, between, runs, later⟩ | ⟨error, failed, -⟩
    · obtain ⟨-, rfl⟩ := later.ret_cases
      exact ⟨ended, (transition_elapses found alive admitted runs).2⟩
    · cases failed
  · rcases runs.bind_cases with ⟨updated, between, -, later⟩ | ⟨error, -, runs⟩
    · cases later.ret_cases.1
    · obtain ⟨⟨updated, ended⟩, -⟩ := transition_elapses found alive admitted runs
      cases ended

/-- A rule of the system lets the system through on any row. -/
theorem admitted_of_system (resolved : resolveTransition row.status to_ = some rule)
    (system : .system ∈ rule.actors) : Admitted (systemRequest row.id to_) row rule where
  resolved := resolved
  system _ := system
  user := nofun
  origin late := by
    have apart : ∀ rule ∈ RULES, TransitionActor.system ∈ rule.actors → rule.id ≠ .T8 := by decide
    exact absurd late (apart rule (resolveTransition_mem resolved) system)

/-- The events that tell of one transition for each of the rows. -/
def TellOf (rows : List ActivityEntity) (events : List InsertOutboxEventInput) : Prop :=
  events.map (fun event => (event.aggregateType, event.aggregateId)) =
    rows.map fun row => (OutboxAggregateType.activity, row.id)

theorem sweepAll_elapses {rows : List ActivityEntity} (distinct : (rows.map (·.id)).Nodup)
    (found : ∀ row ∈ rows, world.activities.get row.id = some row)
    (due : ∀ row ∈ rows, dueForTransition now row = true) (fresh : Fresh config now world)
    {result : Except Exception Unit}
    (runs : Handler.Runs Elapsing (sweepAll config now rows) world result after) :
    result = .ok () ∧ ∃ events, TellOf rows events ∧ Swept now events world after := by
  induction rows generalizing world with
  | nil =>
    obtain ⟨ended, rfl⟩ := runs.ret_cases
    exact ⟨ended, [], rfl, (Idles.refl _).swept⟩
  | cons row rest ih =>
    obtain ⟨apart, distinct⟩ := List.nodup_cons.mp distinct
    obtain ⟨alive, some_⟩ := dueForTransition_iff.mp (due row List.mem_cons_self)
    obtain ⟨to_, aim⟩ := Option.ne_none_iff_exists'.mp some_
    obtain ⟨rule, resolved, system⟩ := (due_agrees row now).system to_ aim
    have admitted := admitted_of_system (resolved : resolveTransition row.status to_ = some rule) system
    have here := found row List.mem_cons_self
    simp only [sweepAll, aim] at runs
    rcases runs.bind_cases with ⟨_, between, moving, later⟩ | ⟨error, -, moving⟩
    · obtain ⟨-, moved⟩ := applySystemTransition_elapses here alive admitted moving
      obtain ⟨event, kind, own, swept, frame⟩ := moved.swept here alive aim admitted fresh
      obtain ⟨ended, events, tell, more⟩ := ih distinct
        (fun other member => by
          rw [frame other.id fun same => apart (List.mem_map.mpr ⟨other, member, same⟩)]
          exact found other (List.mem_cons_of_mem _ member))
        (fun other member => due other (List.mem_cons_of_mem _ member)) (fresh.later swept.clock) later
      refine ⟨ended, event :: events, ?_, swept.trans more⟩
      simp only [TellOf, List.map_cons, kind, own] at tell ⊢
      rw [tell]
    · cases (applySystemTransition_elapses here alive admitted moving).1

/-! ## The rows that a pass lists -/

/-- The rows that `findDueForTransition` returns to the sweep. -/
def World.listed (world : World) (now : Instant) : List ActivityEntity := (world.due now).take SWEEP_LIMIT

/-- What the statement of the sweep may return: the rows that are due, the soonest first, and those
that `ORDER BY` leaves equal in any order. -/
def Lists (now : Instant) (limit : ℕ) (activities : Table ActivityEntity.id) (rows : List ActivityEntity) : Prop :=
  ∃ sorted : List ActivityEntity, sorted.Perm (activities.rows.filter (dueForTransition now)) ∧
    sorted.Pairwise soonestFirst ∧ rows = sorted.take limit

instance : Std.TransCmp nullsLast where
  eq_swap {first second} := by
    cases first <;> cases second <;> first | rfl | exact Std.OrientedOrd.eq_swap
  isLE_trans {first second third} earlier later := by
    cases first <;> cases second <;> cases third <;>
      first | rfl | exact Std.TransOrd.isLE_trans earlier later | contradiction

/-- What `ORDER BY` makes of two rows. -/
def orderBy : ActivityEntity → ActivityEntity → Ordering :=
  compareLex (compareLex (fun first second => nullsLast first.deadline second.deadline)
    fun first second => nullsLast first.scheduledStart second.scheduledStart)
    fun first second => nullsLast first.scheduledEnd second.scheduledEnd

theorem transCmp_comap {α β : Type} (cmp : β → β → Ordering) [Std.TransCmp cmp] (key : α → β) :
    Std.TransCmp fun first second => cmp (key first) (key second) where
  eq_swap := Std.OrientedCmp.eq_swap
  isLE_trans := Std.TransCmp.isLE_trans

instance : Std.TransCmp orderBy :=
  have := transCmp_comap nullsLast ActivityEntity.deadline
  have := transCmp_comap nullsLast ActivityEntity.scheduledStart
  have := transCmp_comap nullsLast ActivityEntity.scheduledEnd
  inferInstanceAs (Std.TransCmp (compareLex (compareLex _ _) _))

theorem soonestFirst_iff {first second : ActivityEntity} :
    soonestFirst first second ↔ (orderBy first second).isLE :=
  Ordering.ne_gt_iff_isLE

instance : Std.Total soonestFirst where
  total _ _ := by
    rw [soonestFirst_iff, soonestFirst_iff, ← Std.OrientedCmp.isGE_iff_isLE]
    cases orderBy _ _ <;> simp

instance : IsTrans ActivityEntity soonestFirst where
  trans _ _ _ earlier later :=
    soonestFirst_iff.mpr (Std.TransCmp.isLE_trans (soonestFirst_iff.mp earlier) (soonestFirst_iff.mp later))

/-- What is sorted by its place in a list is that list. -/
theorem insertionSort_idxOf {α β : Type} [DecidableEq β] (key : α → β) {sorted rows : List α} (perm : sorted.Perm rows)
    (distinct : (sorted.map key).Nodup) : rows.insertionSort (fun first second =>
      (sorted.map key).idxOf (key first) ≤ (sorted.map key).idxOf (key second)) = sorted := by
  let come (first second : α) : Prop := (sorted.map key).idxOf (key first) ≤ (sorted.map key).idxOf (key second)
  have total : Std.Total come := ⟨fun _ _ => le_total _ _⟩
  have trans : IsTrans α come := ⟨fun _ _ _ earlier later => le_trans earlier later⟩
  have place (index : ℕ) (bound : index < sorted.length) : (sorted.map key).idxOf (key sorted[index]) = index := by
    have there := distinct.idxOf_getElem index (by simpa using bound)
    rwa [List.getElem_map] at there
  have come_sorted : sorted.Pairwise come := by
    refine List.pairwise_iff_getElem.mpr fun i j first second before => ?_
    change _ ≤ _
    rw [place i first, place j second]
    exact before.le
  refine List.Perm.eq_of_pairwise (fun first second member member' before after => ?_)
    (List.pairwise_insertionSort come _) come_sorted ((List.perm_insertionSort come _).trans perm.symm)
  obtain ⟨i, bound, rfl⟩ :=
    List.mem_iff_getElem.mp (perm.mem_iff.mpr ((List.perm_insertionSort come _).mem_iff.mp member))
  obtain ⟨j, bound', rfl⟩ := List.mem_iff_getElem.mp member'
  have both := le_antisymm before after
  rw [place i bound, place j bound'] at both
  subst both
  rfl

/-- Rows that are come upon in an order are in it. -/
theorem due_of_scanned {sorted : List ActivityEntity}
    (perm : sorted.Perm (world.activities.rows.filter (dueForTransition now)))
    (ordered : sorted.Pairwise soonestFirst) :
    ({ world with scanned := sorted.map (·.id) } : World).due now = sorted := by
  have distinct : (sorted.map (·.id)).Nodup :=
    (perm.map _).nodup_iff.mpr ((List.filter_sublist.map _).nodup world.activities.unique)
  change List.insertionSort soonestFirst (List.insertionSort _ _) = sorted
  rw [insertionSort_idxOf (·.id) perm distinct, ordered.insertionSort_eq]

/-- What the database returns is what the statement may return, and it may return all of that. -/
theorem lists_iff {limit : ℕ} {rows : List ActivityEntity} : Lists now limit world.activities rows ↔
    ∃ scanned, (({ world with scanned := scanned } : World).due now).take limit = rows := by
  constructor
  · rintro ⟨sorted, perm, ordered, rfl⟩
    exact ⟨sorted.map (·.id), by rw [due_of_scanned perm ordered]⟩
  · rintro ⟨scanned, rfl⟩
    refine ⟨_, ?_, List.pairwise_insertionSort soonestFirst _, rfl⟩
    exact (List.perm_insertionSort _ _).trans (List.perm_insertionSort _ _)

theorem mem_listed (member : row ∈ world.listed now) :
    row ∈ world.activities.rows ∧ dueForTransition now row = true :=
  mem_due.mp (List.mem_of_mem_take member)

section Lists

variable {limit : ℕ} {activities : Table ActivityEntity.id} {rows : List ActivityEntity}

theorem Lists.mem (lists : Lists now limit activities rows) (member : row ∈ rows) :
    row ∈ activities.rows ∧ dueForTransition now row = true := by
  obtain ⟨sorted, perm, -, rfl⟩ := lists
  exact List.mem_filter.mp (perm.mem_iff.mp (List.mem_of_mem_take member))

theorem Lists.distinct (lists : Lists now limit activities rows) : (rows.map (·.id)).Nodup := by
  obtain ⟨sorted, perm, -, rfl⟩ := lists
  refine ((List.take_sublist _ _).map _).nodup ?_
  exact (perm.map _).nodup_iff.mpr ((List.filter_sublist.map _).nodup activities.unique)

theorem Lists.length (lists : Lists now limit activities rows) :
    rows.length = min limit (activities.rows.filter (dueForTransition now)).length := by
  obtain ⟨sorted, perm, -, rfl⟩ := lists
  rw [List.length_take, perm.length_eq]

/-- Fewer rows than the limit are returned all. -/
theorem Lists.all (lists : Lists now limit activities rows)
    (few : (activities.rows.filter (dueForTransition now)).length < limit) (member : row ∈ activities.rows)
    (due : dueForTransition now row = true) : row ∈ rows := by
  obtain ⟨sorted, perm, -, rfl⟩ := lists
  rw [List.take_of_length_le (perm.length_eq.trans_le few.le)]
  exact perm.mem_iff.mpr (List.mem_filter.mpr ⟨member, due⟩)

end Lists

/-- `runSweep` at an instant, however long it takes. -/
def SweepPass (config : Config) (now : Instant) (world after : World) : Prop :=
  ∃ result, Handler.Runs Elapsing (runSweepAt config now) world result after

/-- A pass moves each row that it lists. -/
theorem SweepPass.swept (pass : SweepPass config now world after) (fresh : Fresh config now world) :
    ∃ rows events, Lists now SWEEP_LIMIT world.activities rows ∧ TellOf rows events ∧
      Swept now events world after := by
  obtain ⟨result, runs⟩ := pass
  rcases runs.bind_cases with ⟨due, found, finding, runs⟩ | ⟨error, -, finding⟩
  · obtain ⟨idles, answered⟩ := reads_elapse (fun _ => rfl) finding
    have lists : Lists now SWEEP_LIMIT world.activities due := by
      rw [← idles.activities]
      exact lists_iff.mpr ⟨found.scanned, (Except.ok.inj answered).symm⟩
    obtain ⟨-, events, tell, swept⟩ := sweepAll_elapses lists.distinct
      (fun row member => by
        rw [idles.activities]
        exact Table.get_of_mem (lists.mem member).1)
      (fun row member => (lists.mem member).2) (fresh.later idles.clock) runs
    exact ⟨due, events, lists, tell, idles.swept.trans swept⟩
  · cases (reads_elapse (fun _ => rfl) finding).2

theorem exists_pass (config : Config) (now : Instant) (world : World) :
    ∃ after, SweepPass config now world after :=
  ⟨_, _, Handler.runs_run serve elapsing_serve _ world⟩

/-! ## Passes on end -/

/-- Passes at one instant, one after the other. -/
inductive SweepPasses (config : Config) (now : Instant) : ℕ → World → World → Prop where
  | none (world : World) : SweepPasses config now 0 world world
  | more {count : ℕ} {world between after : World} :
      SweepPass config now world between → SweepPasses config now count between after →
      SweepPasses config now (count + 1) world after

variable {count : ℕ}

theorem SweepPasses.swept (passes : SweepPasses config now count world after) (fresh : Fresh config now world) :
    ∃ events, Swept now events world after := by
  induction passes with
  | none world => exact ⟨[], (Idles.refl world).swept⟩
  | more pass _ ih =>
    obtain ⟨-, events, -, -, swept⟩ := pass.swept fresh
    obtain ⟨events', later⟩ := ih (fresh.later swept.clock)
    exact ⟨events ++ events', swept.trans later⟩

theorem exists_passes (config : Config) (now : Instant) (count : ℕ) (world : World) :
    ∃ after, SweepPasses config now count world after := by
  induction count generalizing world with
  | zero => exact ⟨world, .none world⟩
  | succ count ih =>
    obtain ⟨between, pass⟩ := exists_pass config now world
    obtain ⟨after, passes⟩ := ih between
    exact ⟨after, .more pass passes⟩

theorem movesLeft_of_mem (member : row ∈ world.activities.rows) : movesLeft now row ≤ world.movesLeft now :=
  List.single_le_sum (fun _ _ => Nat.zero_le _) _ (List.mem_map_of_mem member)

/-- Nothing is listed where nothing is left. -/
theorem Lists.eq_nil {limit : ℕ} {rows : List ActivityEntity} (lists : Lists now limit world.activities rows)
    (none_ : world.movesLeft now = 0) : rows = [] := by
  rw [List.eq_nil_iff_forall_not_mem]
  intro row member
  obtain ⟨there, due⟩ := lists.mem member
  have left : movesLeft now row = 0 := Nat.le_zero.mp (none_ ▸ movesLeft_of_mem there)
  rw [movesLeft_eq_zero, due] at left
  cases left

theorem TellOf.length {rows : List ActivityEntity} (tell : TellOf rows events) :
    events.length = rows.length := by
  simpa using congrArg List.length tell

/-- A row that a pass has told of is one of those it listed, and the other way round. -/
theorem TellOf.eventsOf_ne_nil {rows : List ActivityEntity} (tell : TellOf rows events)
    (member : row ∈ rows) : eventsOf .activity row.id events ≠ [] := by
  have told : (OutboxAggregateType.activity, row.id) ∈
      events.map fun event => (event.aggregateType, event.aggregateId) := by
    rw [tell]
    exact List.mem_map.mpr ⟨row, member, rfl⟩
  obtain ⟨event, there, same⟩ := List.mem_map.mp told
  obtain ⟨kind, own⟩ := Prod.mk.inj same
  exact List.ne_nil_of_mem (mem_eventsOf.mpr ⟨there, kind, own⟩)

/-- How many rows are due. -/
def World.dueCount (world : World) (now : Instant) : ℕ :=
  (world.activities.rows.filter (dueForTransition now)).length

theorem dueCount_le_movesLeft (world : World) (now : Instant) : world.dueCount now ≤ world.movesLeft now := by
  unfold World.dueCount World.movesLeft
  induction world.activities.rows with
  | nil => exact le_rfl
  | cons row rest ih =>
    by_cases due : dueForTransition now row = true
    · have some_ : movesLeft now row ≠ 0 := fun none_ => by
        rw [movesLeft_eq_zero, due] at none_
        cases none_
      rw [List.filter_cons_of_pos due, List.map_cons, List.sum_cons, List.length_cons]
      omega
    · rw [List.filter_cons_of_neg due, List.map_cons, List.sum_cons]
      omega

/-- What is left is for rows that are due. -/
theorem movesLeft_le {most : ℕ} (each : ∀ row ∈ world.activities.rows, movesLeft now row ≤ most) :
    world.movesLeft now ≤ most * world.dueCount now := by
  unfold World.dueCount World.movesLeft
  generalize world.activities.rows = rows at each
  induction rows with
  | nil => exact Nat.zero_le _
  | cons row rest ih =>
    have tail := ih fun other member => each other (List.mem_cons_of_mem _ member)
    have here := each row List.mem_cons_self
    by_cases due : dueForTransition now row = true
    · rw [List.filter_cons_of_pos due, List.map_cons, List.sum_cons, List.length_cons, Nat.mul_succ]
      omega
    · have none_ := movesLeft_eq_zero.mpr (Bool.eq_false_iff.mpr due)
      rw [List.filter_cons_of_neg due, List.map_cons, List.sum_cons]
      omega

/-- A pass that finds fewer rows than it may take leaves at most one transition for each. -/
theorem SweepPass.rest (pass : SweepPass config now world after) (fresh : Fresh config now world)
    (few : world.dueCount now < SWEEP_LIMIT) :
    after.movesLeft now ≤ world.dueCount now ∧
      ∀ row ∈ after.activities.rows, movesLeft now row ≤ 1 := by
  obtain ⟨rows, events, lists, tell, swept⟩ := pass.swept fresh
  constructor
  · have twice : world.movesLeft now ≤ 2 * world.dueCount now :=
      movesLeft_le fun row _ => movesLeft_le_two now row
    have length : events.length = world.dueCount now :=
      tell.length.trans (lists.length.trans (min_eq_right few.le))
    have total := swept.total
    omega
  · intro row' member
    obtain ⟨row, found, left, -⟩ := swept.rows row'.id row' (Table.get_of_mem member)
    have atMost := movesLeft_le_two now row
    by_cases due : dueForTransition now row = true
    · have all := lists.all few (Table.mem_of_get found) due
      have told := List.length_pos_iff.mpr (tell.eventsOf_ne_nil all)
      rw [Table.key_of_get found] at told
      omega
    · have none_ := movesLeft_eq_zero.mpr (Bool.eq_false_iff.mpr due)
      omega

theorem SweepPasses.none_left (passes : SweepPasses config now count world after) (fresh : Fresh config now world)
    (none_ : world.movesLeft now = 0) : after.movesLeft now = 0 := by
  obtain ⟨events, swept⟩ := passes.swept fresh
  have total := swept.total
  omega

/-- A full pass takes its limit from what is left, and one that is not full is followed by
one that takes all of it. -/
theorem SweepPasses.drain {most : ℕ} (passes : SweepPasses config now (most + 1) world after)
    (fresh : Fresh config now world) (bound : world.movesLeft now ≤ SWEEP_LIMIT * most) :
    after.movesLeft now = 0 := by
  induction most generalizing world with
  | zero => exact passes.none_left fresh (Nat.le_zero.mp bound)
  | succ most ih =>
    cases passes with
    | @more _ _ between _ pass later =>
      obtain ⟨rows, events, lists, tell, swept⟩ := pass.swept fresh
      have fresh' := fresh.later swept.clock
      have total := swept.total
      by_cases full : SWEEP_LIMIT ≤ world.dueCount now
      · have length : events.length = SWEEP_LIMIT :=
          tell.length.trans (lists.length.trans (min_eq_left full))
        rw [Nat.mul_succ] at bound
        exact ih later fresh' (by omega)
      · obtain ⟨few, single⟩ := pass.rest fresh (Nat.lt_of_not_le full)
        cases later with
        | more pass' rest =>
          obtain ⟨rows', events', lists', tell', swept'⟩ := pass'.swept fresh'
          have atMost := movesLeft_le single
          have atLeast := dueCount_le_movesLeft between now
          have length := tell'.length.trans lists'.length
          have total' := swept'.total
          refine rest.none_left (fresh'.later swept'.clock) ?_
          unfold World.dueCount at *
          omega

/-- The sweep drains: with no other request at work, its passes run out of rows. -/
structure Drains (config : Config) (now : Instant) (world : World) : Prop where
  passes : ∀ count, ∃ after, SweepPasses config now count world after
  progress : ∀ count between after, SweepPasses config now count world between →
    SweepPass config now between after → between.listed now ≠ [] →
    ∃ rows events, Lists now SWEEP_LIMIT between.activities rows ∧
      after.outbox = between.outbox ++ events ∧ TellOf rows events ∧
      1 ≤ events.length ∧ events.length ≤ SWEEP_LIMIT
  twice : ∀ count after, SweepPasses config now count world after →
    ∃ events, after.outbox = world.outbox ++ events ∧
      ∀ id row, after.activities.get id = some row → ∃ before, world.activities.get id = some before ∧
        row.version = before.version + (eventsOf .activity id events).length ∧
        (eventsOf .activity id events).length ≤ 2
  drained : ∀ count after, SweepPasses config now count world after →
    (2 * world.activities.rows.length) ⌈/⌉ SWEEP_LIMIT + 1 ≤ count →
    ∀ limit rows, Lists now limit after.activities rows → rows = []

theorem fresh_of_hours (onTime : now ≤ world.clock) (hours : 0 < config.RESPONSE_TIMEOUT_HOURS.getD 36) :
    Fresh config now world := by
  have later : (0 : ℤ) < config.RESPONSE_TIMEOUT_HOURS.getD 36 * 60 * 60 * 1000 := by omega
  exact lt_of_le_of_lt onTime (lt_add_of_pos_right _ later)

/-- **The sweep drains**, whatever rows there are. -/
theorem sweep_drains (config : Config) (now : Instant) (world : World) (fresh : Fresh config now world) :
    Drains config now world where
  passes count := exists_passes config now count world
  progress count between after passes pass some_ := by
    obtain ⟨_, earlier⟩ := passes.swept fresh
    obtain ⟨rows, events, lists, tell, swept⟩ := pass.swept (fresh.later earlier.clock)
    have length := tell.length.trans lists.length
    have length_ := (lists_iff.mpr ⟨between.scanned, rfl⟩ : Lists now SWEEP_LIMIT between.activities
      (between.listed now)).length
    have present := List.length_pos_iff.mpr some_
    exact ⟨rows, events, lists, swept.outbox, tell, by omega, by omega⟩
  twice count after passes := by
    obtain ⟨events, swept⟩ := passes.swept fresh
    refine ⟨events, swept.outbox, fun id row found => ?_⟩
    obtain ⟨before, there, left, version⟩ := swept.rows id row found
    have atMost := movesLeft_le_two now before
    exact ⟨before, there, version, by omega⟩
  drained count after passes enough := by
    have each : world.movesLeft now ≤ 2 * world.dueCount now := movesLeft_le fun row _ => movesLeft_le_two now row
    have rows : world.dueCount now ≤ world.activities.rows.length := List.length_filter_le ..
    have limit : 0 < SWEEP_LIMIT := by decide
    obtain ⟨most, rfl⟩ : ∃ most, count = most + 1 := ⟨count - 1, by omega⟩
    refine fun _ rows lists => lists.eq_nil (passes.drain fresh ?_)
    calc world.movesLeft now ≤ 2 * world.activities.rows.length := by omega
      _ ≤ SWEEP_LIMIT * ((2 * world.activities.rows.length) ⌈/⌉ SWEEP_LIMIT) := le_smul_ceilDiv limit
      _ ≤ SWEEP_LIMIT * most := Nat.mul_le_mul_left _ (by omega)

/-- A confirmed visit that has begun and ended while nobody looked. -/
def overslept : World :=
  { start with
    clock := 9
    activities :=
      ⟨[{ id := "visit"
          bondId := "bond"
          categoryId := "category"
          type := .event
          status := .assisting
          version := 2
          criticality := .low
          title := "Visit"
          description := ""
          createdBy := "mother"
          assignedTo := some "father"
          scheduledStart := some 5
          scheduledEnd := some 8
          deadline := none
          notifBefore := none
          notifAfter := none }], by decide⟩ }

/-- Two passes move the visit, and a third one finds nothing. -/
theorem sweep_drains_overslept :
    Drains ⟨none, none⟩ 9 overslept ∧ overslept.movesLeft 9 = 2 ∧
      (overslept.listed 9).map (·.id) = ["visit"] :=
  ⟨sweep_drains ⟨none, none⟩ 9 overslept (fresh_of_hours le_rfl (by decide)), by decide, by decide⟩

end ParentalCoord.Activities

import ParentalCoord.Activities.Consistency

/-!
What the requests on activities do with nobody else present.

Each of them comes down to one transition, and a transition that finds its row does one of
three things: it refuses, it leaves the row as it is, or it commits what `ruleFor` admits
and fires the timers of the row that has landed.
-/

namespace ParentalCoord.Activities

open Interleaving Store

variable {config : Config} {world : World} {req : TransitionRequest} {row : ActivityEntity}
  {rule : TransitionRule} {id userId : Uuid}

/-- Who asks for a transition of the row may see it. -/
def Admits (world : World) (row : ActivityEntity) : TransitionRequest.Actor → Prop
  | .user userId => world.directory.isActiveBondForMember row.bondId userId = true
  | .system => True

/-- The role that is recorded with a transition. -/
def World.roleOf (world : World) (bondId : Uuid) : TransitionRequest.Actor → Option String
  | .user userId => if truthy userId then world.directory.role bondId userId else none
  | .system => none

/-- What the transition asks the repository to write. -/
def inputAt (config : Config) (world : World) (req : TransitionRequest) (row : ActivityEntity)
    (rule : TransitionRule) : ApplyTransitionInput :=
  transitionInput config req row rule world.clock (world.roleOf row.bondId req.actor)

/-- The row that it lands on. -/
def landing (config : Config) (world : World) (req : TransitionRequest) (row : ActivityEntity)
    (rule : TransitionRule) : ActivityEntity :=
  (inputAt config world req row rule).saved row

/-- The world after a transition by the rule. -/
def World.landed (world : World) (config : Config) (req : TransitionRequest) (row : ActivityEntity)
    (rule : TransitionRule) : World :=
  { world with
    activities := world.activities.put (landing config world req row rule)
    outbox := world.outbox ++ [(inputAt config world req row rule).event row]
    firing := world.firing ++
      timerMutations (landing config world req row rule) (some row.version) world.clock }

theorem fireAll_alone (mutations : List QueueMutation) (world : World) :
    (fireAll mutations).run serve world =
      (.ok (), { world with firing := world.firing ++ mutations }) := by
  induction mutations generalizing world with
  | nil =>
    simp only [fireAll, List.append_nil]
    rfl
  | cons mutation rest ih =>
    change (fireAll rest).run serve { world with firing := world.firing ++ [mutation] } = _
    rw [ih]
    simp

theorem wireTimers_alone (entity : ActivityEntity) (previousVersion : Option ℕ) (world : World) :
    (wireTimers entity previousVersion).run serve world = (.ok (),
      { world with firing := world.firing ++ timerMutations entity previousVersion world.clock }) :=
  fireAll_alone _ world

theorem assertActivityMember_alone
    (member : world.directory.isActiveBondForMember row.bondId userId = true) :
    (assertActivityMember row userId).run serve world = (.ok (), world) := by
  simp [assertActivityMember, isActiveBondForMember, perform, Handler.perform, Handler.run, serve,
    member]

theorem assertActor_alone {actor : TransitionRequest.Actor} (admits : Admits world row actor) :
    (assertActor row actor).run serve world = (.ok (), world) := by
  cases actor with
  | system => rfl
  | user userId =>
    change (if truthy userId then assertActivityMember row userId else return ()).run serve world = _
    split
    · exact assertActivityMember_alone admits
    · rfl

theorem resolveActorRole_alone (world : World) (bondId : Uuid) (actor : TransitionRequest.Actor) :
    (resolveActorRole bondId actor).run serve world = (.ok (world.roleOf bondId actor), world) := by
  cases actor with
  | system => rfl
  | user userId =>
    change (if truthy userId then findOneByBondAndUser bondId userId else return none).run serve world =
      (.ok (if truthy userId then world.directory.role bondId userId else none), world)
    split <;> rfl

/-- The compare-and-swap takes a live row that is as it was read. -/
theorem applyTransition_hit (found : world.activities.get row.id = some row)
    (alive : row.deletedAt = none) {input : ApplyTransitionInput} (own : input.id = row.id)
    (status : input.expectedFrom = row.status) (version : input.expectedVersion = row.version) :
    applyTransition input world = (some (input.saved row),
      { world with
        activities := world.activities.put (input.saved row)
        outbox := world.outbox ++ [input.event row] }) := by
  unfold applyTransition
  rw [own, found]
  simp [alive, status, version]

theorem commitTransition_alone (found : world.activities.get row.id = some row)
    (alive : row.deletedAt = none) {input : ApplyTransitionInput} (own : input.id = row.id)
    (status : input.expectedFrom = row.status) (version : input.expectedVersion = row.version) :
    (commitTransition input).run serve world = (.ok (some (input.saved row)),
      { world with
        activities := world.activities.put (input.saved row)
        outbox := world.outbox ++ [input.event row] }) := by
  have applied := applyTransition_hit found alive own status version
  simp [commitTransition, perform, Handler.perform, Handler.run, serve, applied]

theorem findById_alone (found : world.activities.get id = some row) (alive : row.deletedAt = none) :
    (findById id).run serve world = (.ok (some row), world) := by
  simp [findById, perform, Handler.perform, Handler.run, serve, found, alive]

/-- A transition of a live row that the actor may see. -/
theorem transition_alone (found : world.activities.get req.activityId = some row)
    (alive : row.deletedAt = none) (admits : Admits world row req.actor) :
    (transition config req).run serve world =
      match ruleFor req row with
      | .error refusal => (.error refusal, world)
      | .ok none => (.ok (some row), world)
      | .ok (some rule) =>
          (.ok (some (landing config world req row rule)), world.landed config req row rule) := by
  have own : row.id = req.activityId := Table.key_of_get found
  have read := findById_alone found alive
  have asserted := assertActor_alone admits
  have clock : clockNow.run serve world = (.ok world.clock, world) := rfl
  unfold transition
  simp only [Handler.bind_eq, Handler.run_bind, read, asserted, clock]
  cases ruled : ruleFor req row with
  | error refusal => rfl
  | ok admitted =>
    cases admitted with
    | none => rfl
    | some rule =>
      have role := resolveActorRole_alone world row.bondId req.actor
      have here : world.activities.get row.id = some row := own ▸ found
      have committed := commitTransition_alone here alive
        (rfl : (transitionInput config req row rule world.clock
          (world.roleOf row.bondId req.actor)).id = row.id) rfl rfl
      simp only [Handler.run_bind, role, committed, wireTimers_alone]
      rfl

end ParentalCoord.Activities

import ParentalCoord.Activities.Policy
import ParentalCoord.Activities.Repository

/-!
The activities service, its timer processor and its sweep.

`transition` is the single chokepoint of every status change: it reads the row,
decides, and leaves the write to the compare-and-swap of the repository.  What
it decides between the two, without looking at anything else, is `ruleFor`.
-/

namespace ParentalCoord.Activities

open Interleaving

structure Config where
  RESPONSE_TIMEOUT_HOURS : Option ℤ
  MIN_LEAD_TIME_HOURS : Option ℤ

/-- `TransitionActor` of the service: who triggers a transition. -/
inductive TransitionRequest.Actor where
  | user (userId : Uuid)
  | system
  deriving DecidableEq

structure TransitionRequest where
  activityId : Uuid
  to_ : ActivityStatus
  actor : TransitionRequest.Actor
  reason : Option String := none
  /-- Extra column effects on top of the rule's. -/
  fields : ApplyTransitionFields := {}
  /-- Extra keys merged into the outbox payload. -/
  payloadExtra : Record := []

structure CreateActivityDto where
  title : String
  description : Option String
  type : Option ActivityType
  categoryId : Uuid
  assignedTo : Option Uuid
  scheduledStart : Instant
  scheduledEnd : Option Instant
  childrenIds : List Uuid

/-- What a request answers with. -/
inductive Reply where
  | activity (row : Option ActivityEntity)
  | body (json : Record)
  | nothing

abbrev Request := Handler interface Exception

/-! ## The calls, under the names of the source -/

def perform (query : Call) : Request (interface.Answer query) :=
  @Handler.perform interface Exception query

def findById (id : Uuid) : Request (Option ActivityEntity) := perform (.findById id)

def isActiveBondForMember (bondId userId : Uuid) : Request Bool :=
  perform (.isActiveBondForMember bondId userId)

def findOneByBondAndUser (bondId userId : Uuid) : Request (Option String) :=
  perform (.findOneByBondAndUser bondId userId)

def findActiveCategory (id : Uuid) : Request (Option Criticality) :=
  perform (.findActiveCategory id)

def findByIdsAndBond (ids : List Uuid) (bondId : Uuid) : Request (List Uuid) :=
  perform (.findByIdsAndBond ids bondId)

def findDueForTransition (now : Instant) (limit : ℕ) : Request (List ActivityEntity) :=
  perform (.findDueForTransition now limit)

def clockNow : Request Instant := perform .now

def takeTimer (jobId : String) : Request (Option ActivityTimerJobData) :=
  perform (.takeTimer jobId)

def fire (mutation : QueueMutation) : Request Unit := perform (.fire mutation)

def commitTransition (input : ApplyTransitionInput) : Request (Option ActivityEntity) :=
  perform (.applyTransition input)

def commitInsert (input : InsertWithInitialTransitionInput) (childrenIds : List Uuid) :
    Request ActivityEntity :=
  perform (.insertActivity input childrenIds)

/-! ## Guards -/

def assertActivityMember (activity : ActivityEntity) (userId : Uuid) : Request Unit := do
  let isMember ← isActiveBondForMember activity.bondId userId
  if !isMember then throw activityNotFound

def assertBondMember (bondId userId : Uuid) : Request Unit := do
  let isMember ← isActiveBondForMember bondId userId
  if !isMember then throw (notFoundException "Bond not found or you are not a member")

def verifyCategoryActive (categoryId : Uuid) : Request Criticality := do
  match ← findActiveCategory categoryId with
  | some criticality => return criticality
  | none => throw (badRequestException "Category is unknown or inactive")

def verifyChildrenBelongToBond (bondId : Uuid) (childrenIds : List Uuid) : Request Unit := do
  let children ← findByIdsAndBond childrenIds bondId
  if children.length ≠ childrenIds.length then
    throw (badRequestException "One or more children do not belong to this bond")

/-- `activities.service.ts::validateSchedules`: the start is yet to come, and the end comes
after it. -/
def validateSchedules (scheduledStart : Instant) (scheduledEnd : Option Instant) :
    Request Unit := do
  let now ← clockNow
  if scheduledStart ≤ now then
    throw (badRequestException "scheduledStart must be in the future")
  else match scheduledEnd with
  | some scheduledEnd =>
    if scheduledEnd ≤ scheduledStart then
      throw (badRequestException "scheduledEnd must be strictly after scheduledStart")
  | none => return ()

def assertMinimumLeadTime (config : Config) (scheduledStart : Instant) : Request Unit := do
  let now ← clockNow
  if scheduledStart < now + config.MIN_LEAD_TIME_HOURS.getD 48 * 60 * 60 * 1000 then
    throw (badRequestException
      "La actividad debe programarse con al menos 48 horas de anticipación")

def loadForMember (id userId : Uuid) : Request ActivityEntity := do
  match ← findById id with
  | none => throw activityNotFound
  | some activity =>
    assertActivityMember activity userId
    return activity

/-- `activities.service.ts::findById`: throws where the repository answers `null`. -/
def getById (id : Uuid) : Request ActivityEntity := do
  match ← findById id with
  | none => throw (notFoundException "Activity not found")
  | some activity => return activity

def ACTIVITY_REASON_MIN := 3

def ACTIVITY_REASON_MAX := 200

def parseActivityReason (raw : Option Json) : Except Exception String :=
  let value := ((asString raw).map jsTrim).getD ""
  if jsLength value < ACTIVITY_REASON_MIN ∨ ACTIVITY_REASON_MAX < jsLength value then
    .error (validationFailed "reason must be a string of 3-200 characters")
  else .ok value

/-! ## The transition -/

/-- `activities.service.ts::computeResponseDeadline`: `deadline = now + RESPONSE_TIMEOUT_HOURS`. -/
def computeResponseDeadline (config : Config) (now : Instant) : Instant :=
  now + config.RESPONSE_TIMEOUT_HOURS.getD 36 * 60 * 60 * 1000

/-- A timestamp flag: set to now, cleared, or left alone. -/
def stamp (now : Instant) : Option Bool → Option (Option Instant)
  | some true => some (some now)
  | some false => some none
  | none => none

/-- `activities.service.ts::buildTransitionFields`: the columns that the side effects of a
rule write. -/
def buildTransitionFields (config : Config) (effects : TransitionSideEffects) (now : Instant)
    (userId : Option Uuid) (reason : Option String) : ApplyTransitionFields where
  deadline := match effects.deadline with
    | some .clear => some none
    | some .set => some (some (computeResponseDeadline config now))
    | none => none
  confirmedAt := stamp now effects.confirmedAt
  completedAt := if effects.completedAt = some true then some (some now) else none
  cancelledAt := if effects.cancelledAt = some true then some (some now) else none
  cancelledBy :=
    if effects.cancelledAt = some true then (userId.filter truthy).map some else none
  declinedAt := stamp now effects.declinedAt
  declinedReason := match effects.declinedAt with
    | some true => reason.map some
    | some false => some none
    | none => none
  verifyAt := stamp now effects.verifyAt

/-- The late response is for rows that expired while assigned. -/
def originGuard (req : TransitionRequest) (activity : ActivityEntity) (rule : TransitionRule) :
    Except Exception (Option TransitionRule) :=
  if rule.id = .T8 ∧ overdueOrigin activity ≠ .assigned then
    .error (activityInvalidTransition activity.status.value req.to_.value
      (some "Late response is only allowed when overdue originated from assigned"))
  else .ok (some rule)

/-- The rule a request goes by, on the row it read; `none` where the request of
a system is a no-op. -/
def ruleFor (req : TransitionRequest) (activity : ActivityEntity) :
    Except Exception (Option TransitionRule) :=
  match resolveTransition activity.status req.to_, req.actor with
  | none, .system => .ok none
  | none, .user _ => .error (activityInvalidTransition activity.status.value req.to_.value)
  | some rule, .system =>
    if .system ∉ rule.actors then .ok none else originGuard req activity rule
  | some rule, .user userId =>
    if .bondMember ∉ rule.actors ∧ .assignee ∉ rule.actors then
      .error (activityForbidden "This transition is system-only")
    else if rule.requireAssignee ∧ activity.assignedTo ≠ some userId then
      .error (activityForbidden "Only the assignee can perform this action")
    else originGuard req activity rule

/-- The actor as the outbox payload records it. -/
def actorJson (actor : TransitionRequest.Actor) (actorRole : Option String) : Json :=
  match actor with
  | .system => .obj [("type", .str "system")]
  | .user userId =>
      .obj [("type", .str "user"), ("id", .str userId), ("role", Json.ofOption actorRole)]

def TransitionRequest.Actor.userId : TransitionRequest.Actor → Option Uuid
  | .user userId => some userId
  | .system => none

/-- What a request asks the repository to write, once its rule is known. -/
def transitionInput (config : Config) (req : TransitionRequest) (activity : ActivityEntity)
    (rule : TransitionRule) (now : Instant) (actorRole : Option String) :
    ApplyTransitionInput where
  id := activity.id
  expectedFrom := activity.status
  expectedVersion := activity.version
  nextStatus := req.to_
  fields :=
    (buildTransitionFields config rule.sideEffects now req.actor.userId req.reason).assign req.fields
  outbox :=
    { bondId := activity.bondId
      eventType := rule.event
      payload := Record.spread
        [("activityId", .str activity.id),
         ("from", .str activity.status.value),
         ("to", .str req.to_.value),
         ("actor", actorJson req.actor actorRole),
         ("reason", Json.ofOption req.reason),
         ("occurredAt", .str (toISOString now))]
        req.payloadExtra }

/-- The timer mutations of a row that landed on its status. -/
def timerMutations (entity : ActivityEntity) (previousVersion : Option ℕ) (now : Instant) :
    List QueueMutation :=
  (timerOpsForTransition entity.status).filterMap fun op =>
    match op.action with
    | .cancel =>
        previousVersion.map fun version => .remove (buildTimerJobId op.kind entity.id version)
    | .enqueue =>
        match timerTarget op.kind entity with
        | none => none
        | some target =>
            if op.kind = .start ∧ target ≤ now then none
            else some (.add ⟨entity.id, entity.version, op.kind⟩ (computeDelayMs target now))

def fireAll : List QueueMutation → Request Unit
  | [] => return ()
  | mutation :: rest => do
    fire mutation
    fireAll rest

def wireTimers (entity : ActivityEntity) (previousVersion : Option ℕ) : Request Unit := do
  let now ← clockNow
  fireAll (timerMutations entity previousVersion now)

/-- The membership check of a transition, which a system request skips. -/
def assertActor (activity : ActivityEntity) : TransitionRequest.Actor → Request Unit
  | .user userId => if truthy userId then assertActivityMember activity userId else return ()
  | .system => return ()

def resolveActorRole (bondId : Uuid) : TransitionRequest.Actor → Request (Option String)
  | .user userId => if truthy userId then findOneByBondAndUser bondId userId else return none
  | .system => return none

/-- `activities.service.ts::transition`: the single chokepoint of every status change.  A miss of the
compare-and-swap is a conflict for a user and a no-op, `none`, for the system. -/
def transition (config : Config) (req : TransitionRequest) : Request (Option ActivityEntity) := do
  match ← findById req.activityId with
  | none => if req.actor = .system then return none else throw activityNotFound
  | some activity =>
    assertActor activity req.actor
    let now ← clockNow
    match ruleFor req activity with
    | .error refusal => throw refusal
    | .ok none => return some activity
    | .ok (some rule) =>
      let actorRole ← resolveActorRole activity.bondId req.actor
      match ← commitTransition (transitionInput config req activity rule now actorRole) with
      | none =>
        if req.actor = .system then return none
        else throw (activityInvalidTransition activity.status.value req.to_.value)
      | some updated =>
        wireTimers updated (some activity.version)
        return some updated

/-- A transition for a user who has read the row before. -/
def userTransition (config : Config) (activity : ActivityEntity) (req : TransitionRequest) :
    Request ActivityEntity := do
  match ← transition config req with
  | none => throw (activityInvalidTransition activity.status.value req.to_.value)
  | some updated => return updated

def markOverdue (config : Config) (activityId : Uuid) : Request (Option ActivityEntity) := do
  let _ ← getById activityId
  transition config { activityId := activityId, to_ := .overdue, actor := .system }

/-- `activities.service.ts::applySystemTransition`: never throws: what the transition throws is
logged. -/
def applySystemTransition (config : Config) (activityId : Uuid) (to_ : ActivityStatus) :
    Request Unit :=
  tryCatch
    (do let _ ← transition config { activityId := activityId, to_ := to_, actor := .system })
    fun _ => return ()

/-! ## Requests of users -/

def NOTIF_BEFORE := "-3 days"

def NOTIF_AFTER := "1 day"

/-- The row, the first status and the payload that `create` inserts. -/
def createInput (config : Config) (bondId : Uuid) (dto : CreateActivityDto) (userId : Uuid)
    (criticality : Criticality) (now : Instant) : InsertWithInitialTransitionInput :=
  let initial := resolveInitial dto.assignedTo.isSome
  { row :=
      { bondId := bondId
        categoryId := dto.categoryId
        type := dto.type.getD .event
        criticality := criticality
        title := dto.title
        description := dto.description.getD ""
        createdBy := userId
        assignedTo := dto.assignedTo
        scheduledStart := dto.scheduledStart
        scheduledEnd := dto.scheduledEnd
        deadline := computeResponseDeadline config now
        notifBefore := NOTIF_BEFORE
        notifAfter := NOTIF_AFTER }
    initial := initial
    payload :=
      [("from", .str "new"),
       ("to", .str initial.status.value),
       ("actor", .obj [("type", .str "user"), ("id", .str userId)]),
       ("occurredAt", .str (toISOString now))] }

/-- Whether all of these are members; every one is asked for. -/
def allMembers (bondId : Uuid) : List Uuid → Request Bool
  | [] => return true
  | userId :: rest => do
    let isMember ← isActiveBondForMember bondId userId
    let others ← allMembers bondId rest
    return isMember && others

/-- `activities.service.ts::create`: the checks of a new activity, and its first transition. -/
def create (config : Config) (bondId : Uuid) (dto : CreateActivityDto) (userId : Uuid) :
    Request ActivityEntity := do
  validateSchedules dto.scheduledStart dto.scheduledEnd
  assertMinimumLeadTime config dto.scheduledStart
  assertBondMember bondId userId
  let memberIds := match dto.assignedTo with
    | some assignedTo =>
        if truthy assignedTo && assignedTo ≠ userId then [userId, assignedTo] else [userId]
    | none => [userId]
  let memberships ← allMembers bondId memberIds
  if !memberships then
    throw (badRequestException "One or more members do not belong to this bond")
  else
    let criticality ← verifyCategoryActive dto.categoryId
    verifyChildrenBelongToBond bondId dto.childrenIds
    let now ← clockNow
    let activity ←
      commitInsert (createInput config bondId dto userId criticality now) dto.childrenIds
    wireTimers activity none
    return activity

def isoOrNull (instant : Option Instant) : Json := Json.ofOption (instant.map toISOString)

def complete (config : Config) (id userId : Uuid) : Request Record := do
  let activity ← getById id
  assertActivityMember activity userId
  let updated ← userTransition config activity
    { activityId := id, to_ := .done, actor := .user userId }
  return [("id", .str updated.id), ("status", .str updated.status.value),
    ("completedAt", isoOrNull updated.completedAt)]

/-- `activities.service.ts::confirmAssignment`: the assignee accepts, in time or late. -/
def confirmAssignment (config : Config) (id userId : Uuid) : Request Record := do
  let activity ← getById id
  assertActivityMember activity userId
  if activity.assignedTo ≠ some userId then
    throw (forbiddenException "Only the assignee can confirm this activity")
  else if activity.status = .assisting then
    return [("id", .str id), ("assignedConfirmed", .bool activity.confirmedAt.isSome),
      ("confirmedAt", isoOrNull activity.confirmedAt)]
  else
    let updated ← userTransition config activity
      { activityId := id, to_ := .assisting, actor := .user userId }
    return [("id", .str id),
      ("assignedConfirmed", .bool (updated.status = .assisting && updated.confirmedAt.isSome)),
      ("confirmedAt", isoOrNull updated.confirmedAt)]

/-- `activities.service.ts::delete`: a cancellation without a reason that hides the row, too. -/
def delete (config : Config) (id userId : Uuid) : Request Record := do
  let activity ← loadForMember id userId
  let now ← clockNow
  if !(evaluate activity userId now).canDelete then
    throw (activityForbidden "You are not allowed to delete this activity")
  else
    let updated ← userTransition config activity
      { activityId := id, to_ := .cancelled, actor := .user userId
        fields := { deletedAt := some (some now) }, payloadExtra := [("deleted", .bool true)] }
    return [("id", .str id), ("deletedAt", .str (toISOString (updated.deletedAt.getD now)))]

/-- `activities.service.ts::cancel`: a cancellation, with its reason. -/
def cancel (config : Config) (id userId : Uuid) (rawReason : Option Json) : Request Record := do
  let activity ← loadForMember id userId
  let now ← clockNow
  if !(evaluate activity userId now).canCancel then
    throw (activityForbidden "You are not allowed to cancel this activity")
  else match parseActivityReason rawReason with
  | .error invalid => throw invalid
  | .ok reason =>
    let updated ← userTransition config activity
      { activityId := id, to_ := .cancelled, actor := .user userId, reason := some reason }
    return [("id", .str id), ("status", .str ActivityStatus.cancelled.value),
      ("cancelledAt", .str (toISOString (updated.cancelledAt.getD now)))]

/-- `activities.service.ts::declineAssignment`: the assignee refuses, with a reason. -/
def declineAssignment (config : Config) (id userId : Uuid) (rawReason : Option Json) :
    Request Record := do
  let activity ← loadForMember id userId
  let now ← clockNow
  if !(evaluate activity userId now).canDecline then
    throw (activityForbidden "You are not allowed to decline this activity")
  else match parseActivityReason rawReason with
  | .error invalid => throw invalid
  | .ok reason =>
    let updated ← userTransition config activity
      { activityId := id, to_ := .notAssisting, actor := .user userId, reason := some reason }
    return [("id", .str id), ("status", .str ActivityStatus.notAssisting.value),
      ("declinedAt", .str (toISOString (updated.declinedAt.getD now)))]

/-- A target that is given has to be a member, and is not said to exist if not. -/
def assertTarget (activity : ActivityEntity) (assignedTo : Option (Option Uuid))
    (targetId : Uuid) : Request Unit :=
  if assignedTo.isSome then assertActivityMember activity targetId else return ()

/-- `activities.service.ts::reassignInternal`: `assignedTo` may be left out, or be null. -/
def reassignInternal (config : Config) (id userId : Uuid) (assignedTo : Option (Option Uuid)) :
    Request Record := do
  let activity ← loadForMember id userId
  let targetId := assignedTo.join.getD userId
  assertTarget activity assignedTo targetId
  let updated ← userTransition config activity
    { activityId := id, to_ := .assigned, actor := .user userId
      fields := { assignedTo := some (some targetId) } }
  return [("id", .str updated.id), ("status", .str updated.status.value),
    ("assignedTo", Json.ofOption updated.assignedTo)]

def assign := reassignInternal

def reassign := reassignInternal

/-! ## Timers -/

/-- `activity-timers.processor.ts::handleTimer`: a timer of another version, or of a status that is
past, is discarded. -/
def handleTimer (config : Config) (data : ActivityTimerJobData) : Request Unit := do
  match ← findById data.activityId with
  | none => return ()
  | some activity =>
    if activity.version ≠ data.version then return ()
    else if (expectedSourceFor data.kind).any (activity.status ∉ ·) then return ()
    else match targetStatusFor data.kind with
      | none => return ()
      | some to_ => applySystemTransition config data.activityId to_

def SWEEP_LIMIT := 100

def sweepAll (config : Config) (now : Instant) : List ActivityEntity → Request Unit
  | [] => return ()
  | activity :: rest => do
    match dueTargetFor activity now with
    | some to_ => applySystemTransition config activity.id to_
    | none => pure ()
    sweepAll config now rest

def runSweep (config : Config) : Request Unit := do
  let now ← clockNow
  let due ← findDueForTransition now SWEEP_LIMIT
  sweepAll config now due

/-- `activity-timers.processor.ts::process`: a worker takes a job whose delay has elapsed.  Nothing is
rethrown. -/
def processTimer (config : Config) (jobId : String) : Request Unit := do
  match ← takeTimer jobId with
  | none => return ()
  | some data => tryCatch (handleTimer config data) fun _ => return ()

def processSweep (config : Config) : Request Unit :=
  tryCatch (runSweep config) fun _ => return ()

/-! ## The system -/

inductive Entry where
  | create (bondId : Uuid) (dto : CreateActivityDto) (userId : Uuid)
  | assign (id userId : Uuid) (assignedTo : Option (Option Uuid))
  | reassign (id userId : Uuid) (assignedTo : Option (Option Uuid))
  | confirmAssignment (id userId : Uuid)
  | declineAssignment (id userId : Uuid) (rawReason : Option Json)
  | complete (id userId : Uuid)
  | cancel (id userId : Uuid) (rawReason : Option Json)
  | delete (id userId : Uuid)
  | markOverdue (id : Uuid)
  | processTimer (jobId : String)
  | processSweep

def handler (config : Config) : Entry → Request Reply
  | .create bondId dto userId => return .activity (some (← create config bondId dto userId))
  | .assign id userId assignedTo => return .body (← assign config id userId assignedTo)
  | .reassign id userId assignedTo => return .body (← reassign config id userId assignedTo)
  | .confirmAssignment id userId => return .body (← confirmAssignment config id userId)
  | .declineAssignment id userId rawReason =>
      return .body (← declineAssignment config id userId rawReason)
  | .complete id userId => return .body (← complete config id userId)
  | .cancel id userId rawReason => return .body (← cancel config id userId rawReason)
  | .delete id userId => return .body (← delete config id userId)
  | .markOverdue id => return .activity (← markOverdue config id)
  | .processTimer jobId => do processTimer config jobId; return .nothing
  | .processSweep => do processSweep config; return .nothing

@[reducible] def activities (config : Config) : System interface Exception Reply where
  World := World
  Entry := Entry
  Nudge := Nudge
  start := start
  handler := handler config
  serve := serve
  failure := failure
  nudge := nudge

end ParentalCoord.Activities

import ParentalCoord.Activities.TransitionMap

/-!
The activity policy: what a viewer may do with a row, from the row and the time.
-/

namespace ParentalCoord.Activities

inductive OverdueOrigin where
  | created
  | assigned
  | verify
  deriving DecidableEq

/-- The status an origin stands for. -/
def OverdueOrigin.status : OverdueOrigin → ActivityStatus
  | .created => .created
  | .assigned => .assigned
  | .verify => .verify

/-- `activity-policy.service.ts::overdueOrigin`: where a row that is overdue came from, read off two
columns. -/
def overdueOrigin (subject : ActivityEntity) : OverdueOrigin :=
  if subject.assignedTo = none then .created
  else if subject.verifyAt ≠ none then .verify
  else .assigned

theorem overdueOrigin_assigned {subject : ActivityEntity} :
    overdueOrigin subject = .assigned ↔ subject.assignedTo ≠ none ∧ subject.verifyAt = none := by
  unfold overdueOrigin
  split
  · simp_all
  · split <;> simp_all

structure ActivityPolicyDecision where
  canDelete : Bool
  canCancel : Bool
  canAssign : Bool
  canReassign : Bool
  canConfirm : Bool
  canDecline : Bool
  canComplete : Bool
  isPast : Bool
  deriving DecidableEq

def isPast (activity : ActivityEntity) (now : Instant) : Bool :=
  match activity.scheduledEnd.or activity.scheduledStart with
  | some anchor => anchor ≤ now
  | none => false

/-- `activity-policy.service.ts::evaluate`: what a viewer may do with an activity at an instant. -/
def evaluate (activity : ActivityEntity) (viewerId : Uuid) (now : Instant) :
    ActivityPolicyDecision :=
  let isPast := isPast activity now
  let isCreator : Bool := activity.createdBy = viewerId
  let isAssignee : Bool := activity.assignedTo = some viewerId
  let origin := overdueOrigin activity
  { canDelete := isCreator && !isPast
    canCancel := isCreator && !isPast
    canAssign := activity.status = .created
    canReassign := activity.status = .notAssisting
    canConfirm := isAssignee && activity.status = .assigned
    canDecline := isAssignee &&
      (activity.status = .assigned || (activity.status = .overdue && origin = .assigned)) && !isPast
    canComplete := activity.status = .inProgress || activity.status = .verify
    isPast := isPast }

end ParentalCoord.Activities

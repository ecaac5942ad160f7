import Mathlib.Data.List.Nodup
import ParentalCoord.Js

/-!
The activity row and the closed map of its transitions.

`RULES` has one rule for each pair of states that may follow each other.  A new
row is not an update, so the first state is `resolveInitial`, not a rule.
-/

namespace ParentalCoord.Activities

inductive ActivityStatus where
  | created
  | assigned
  | assisting
  | inProgress
  | verify
  | done
  | overdue
  | notAssisting
  | cancelled
  deriving DecidableEq, Inhabited

def ActivityStatus.all : List ActivityStatus :=
  [.created, .assigned, .assisting, .inProgress, .verify, .done, .overdue, .notAssisting,
    .cancelled]

theorem ActivityStatus.mem_all (status : ActivityStatus) : status ∈ all := by
  cases status <;> decide

/-- The text of a status in the database and in payloads. -/
def ActivityStatus.value : ActivityStatus → String
  | .created => "created"
  | .assigned => "assigned"
  | .assisting => "assisting"
  | .inProgress => "in_progress"
  | .verify => "verify"
  | .done => "done"
  | .overdue => "overdue"
  | .notAssisting => "not_assisting"
  | .cancelled => "cancelled"

theorem ActivityStatus.value_injective {first second : ActivityStatus}
    (same : first.value = second.value) : first = second := by
  revert same
  cases first <;> cases second <;> decide

inductive ActivityType where
  | event
  | obligation
  deriving DecidableEq, Inhabited

inductive Criticality where
  | critical
  | high
  | medium
  | low
  deriving DecidableEq, Inhabited

structure ActivityEntity where
  id : Uuid
  bondId : Uuid
  categoryId : Uuid
  type : ActivityType
  status : ActivityStatus
  /-- Optimistic lock: one more at every transition. -/
  version : ℕ
  criticality : Criticality
  title : String
  description : String
  createdBy : Uuid
  assignedTo : Option Uuid
  scheduledStart : Option Instant
  scheduledEnd : Option Instant
  deadline : Option Instant
  notifBefore : Option String
  notifAfter : Option String
  confirmedAt : Option Instant := none
  cancelledAt : Option Instant := none
  cancelledBy : Option Uuid := none
  deletedAt : Option Instant := none
  declinedAt : Option Instant := none
  declinedReason : Option String := none
  completedAt : Option Instant := none
  verifyAt : Option Instant := none
  deriving DecidableEq, Inhabited

/-- Who may execute a rule. -/
inductive TransitionActor where
  | assignee
  | bondMember
  | system
  deriving DecidableEq

inductive TransitionId where
  | T1 | T2 | T3 | T5 | T6 | T7 | T8 | T9 | T10 | T11 | T12 | T13 | T14 | T15 | T16
  deriving DecidableEq

inductive DeadlineEffect where
  | set
  | clear
  deriving DecidableEq

/-- Column effects of a rule.  Of a timestamp, `true` sets it to now, `false`
clears it, and `none` leaves it alone. -/
structure TransitionSideEffects where
  deadline : Option DeadlineEffect := none
  confirmedAt : Option Bool := none
  cancelledAt : Option Bool := none
  declinedAt : Option Bool := none
  completedAt : Option Bool := none
  verifyAt : Option Bool := none
  deriving DecidableEq

structure TransitionRule where
  id : TransitionId
  from_ : ActivityStatus
  to_ : ActivityStatus
  actors : List TransitionActor
  requireAssignee : Bool := false
  sideEffects : TransitionSideEffects
  event : String
  deriving DecidableEq

structure InitialTransition where
  status : ActivityStatus
  event : String

namespace ACTIVITY_EVENT

def CREATED := "activity.created"
def ASSIGNED := "activity.assigned"
def UNASSIGNED := "activity.unassigned"
def ASSISTING := "activity.assisting"
def IN_PROGRESS := "activity.in_progress"
def VERIFY := "activity.verify"
def VERIFY_EXPIRED := "activity.verify_expired"
def CREATED_OVERDUE := "activity.created_overdue"
def OVERDUE := "activity.overdue"
def NOT_ASSISTING := "activity.not_assisting"
def DONE := "activity.done"
def CANCELLED := "activity.cancelled"

end ACTIVITY_EVENT

def CANCEL_EFFECTS : TransitionSideEffects where
  deadline := some .clear
  cancelledAt := some true
  verifyAt := some false

def CANCEL_SOURCES : List ActivityStatus :=
  [.created, .assigned, .assisting, .notAssisting, .overdue, .inProgress, .verify]

def RULES : List TransitionRule :=
  [{ id := .T3
     from_ := .created
     to_ := .assigned
     actors := [.bondMember]
     sideEffects := { deadline := some .set }
     event := ACTIVITY_EVENT.ASSIGNED },
   { id := .T5
     from_ := .assigned
     to_ := .assisting
     actors := [.assignee]
     requireAssignee := true
     sideEffects := { deadline := some .clear, confirmedAt := some true }
     event := ACTIVITY_EVENT.ASSISTING },
   { id := .T6
     from_ := .assigned
     to_ := .notAssisting
     actors := [.assignee]
     requireAssignee := true
     sideEffects := { deadline := some .clear, declinedAt := some true }
     event := ACTIVITY_EVENT.NOT_ASSISTING },
   { id := .T7
     from_ := .assigned
     to_ := .overdue
     actors := [.system]
     sideEffects := {}
     event := ACTIVITY_EVENT.OVERDUE },
   -- The late acceptance is out; of a late answer only the decline is left.
   { id := .T8
     from_ := .overdue
     to_ := .notAssisting
     actors := [.assignee]
     requireAssignee := true
     sideEffects := { declinedAt := some true }
     event := ACTIVITY_EVENT.NOT_ASSISTING },
   { id := .T9
     from_ := .notAssisting
     to_ := .assigned
     actors := [.bondMember]
     sideEffects := { deadline := some .set, declinedAt := some false, confirmedAt := some false }
     event := ACTIVITY_EVENT.ASSIGNED },
   { id := .T10
     from_ := .assisting
     to_ := .inProgress
     actors := [.system]
     sideEffects := {}
     event := ACTIVITY_EVENT.IN_PROGRESS },
   { id := .T11
     from_ := .inProgress
     to_ := .done
     actors := [.bondMember]
     sideEffects := { completedAt := some true }
     event := ACTIVITY_EVENT.DONE },
   { id := .T12
     from_ := .inProgress
     to_ := .verify
     actors := [.system]
     sideEffects := { deadline := some .set, verifyAt := some true }
     event := ACTIVITY_EVENT.VERIFY },
   { id := .T13
     from_ := .verify
     to_ := .done
     actors := [.bondMember]
     sideEffects := { deadline := some .clear, completedAt := some true, verifyAt := some false }
     event := ACTIVITY_EVENT.DONE },
   { id := .T14
     from_ := .verify
     to_ := .overdue
     actors := [.system]
     sideEffects := { deadline := some .clear }
     event := ACTIVITY_EVENT.VERIFY_EXPIRED },
   { id := .T16
     from_ := .created
     to_ := .overdue
     actors := [.system]
     sideEffects := { deadline := some .clear }
     event := ACTIVITY_EVENT.CREATED_OVERDUE }] ++
  CANCEL_SOURCES.map fun from_ =>
    { id := .T15
      from_ := from_
      to_ := .cancelled
      actors := [.bondMember]
      sideEffects := CANCEL_EFFECTS
      event := ACTIVITY_EVENT.CANCELLED }

/-- No two rules share a pair, so that the keys of the source's map are distinct. -/
example : (RULES.map fun rule => (rule.from_, rule.to_)).Nodup := by decide

/-- `activity-transition.map.ts::resolveTransition`: looks up the rule for `from -> to`. -/
def resolveTransition (from_ to_ : ActivityStatus) : Option TransitionRule :=
  RULES.find? fun rule => rule.from_ = from_ ∧ rule.to_ = to_

/-- `activity-transition.map.ts::resolveInitial`: the first state of a new row: T1 without an
assignee, T2 with one. -/
def resolveInitial (hasAssignee : Bool) : InitialTransition :=
  if hasAssignee then ⟨.assigned, ACTIVITY_EVENT.ASSIGNED⟩ else ⟨.created, ACTIVITY_EVENT.CREATED⟩

theorem resolveTransition_ends {from_ to_ : ActivityStatus} {rule : TransitionRule}
    (resolved : resolveTransition from_ to_ = some rule) : rule.from_ = from_ ∧ rule.to_ = to_ := by
  simpa using List.find?_some resolved

theorem resolveTransition_mem {from_ to_ : ActivityStatus} {rule : TransitionRule}
    (resolved : resolveTransition from_ to_ = some rule) : rule ∈ RULES :=
  List.mem_of_find?_eq_some resolved

/-- A rule of the system leads from a state that waits to the state its timer
is for. -/
theorem system_rule_cases {from_ to_ : ActivityStatus} {rule : TransitionRule}
    (resolved : resolveTransition from_ to_ = some rule) (system : .system ∈ rule.actors) :
    (from_ = .created ∧ to_ = .overdue) ∨ (from_ = .assigned ∧ to_ = .overdue) ∨
      (from_ = .verify ∧ to_ = .overdue) ∨ (from_ = .assisting ∧ to_ = .inProgress) ∨
      (from_ = .inProgress ∧ to_ = .verify) := by
  obtain ⟨rfl, rfl⟩ := resolveTransition_ends resolved
  have listed : ∀ rule ∈ RULES, TransitionActor.system ∈ rule.actors →
      (rule.from_ = .created ∧ rule.to_ = .overdue) ∨
      (rule.from_ = .assigned ∧ rule.to_ = .overdue) ∨
      (rule.from_ = .verify ∧ rule.to_ = .overdue) ∨
      (rule.from_ = .assisting ∧ rule.to_ = .inProgress) ∨
      (rule.from_ = .inProgress ∧ rule.to_ = .verify) := by
    decide
  exact listed rule (resolveTransition_mem resolved) system

end ParentalCoord.Activities

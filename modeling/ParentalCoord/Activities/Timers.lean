import ParentalCoord.Activities.TransitionMap

/-!
Timers of an activity: which ones a state asks for, when each is due, and what
a due one leads to.  Jobs are named by kind, activity and version, so that
enqueuing one twice collapses into one job.
-/

namespace ParentalCoord.Activities

inductive TimerKind where
  | responseTimeout
  | start
  | end_
  | verifyTimeout
  | sweep
  deriving DecidableEq

def TimerKind.value : TimerKind → String
  | .responseTimeout => "response-timeout"
  | .start => "start"
  | .end_ => "end"
  | .verifyTimeout => "verify-timeout"
  | .sweep => "sweep"

structure ActivityTimerJobData where
  activityId : Uuid
  version : ℕ
  kind : TimerKind
  deriving DecidableEq

/-- `activity-timers.job.ts::buildTimerJobId`: `${kind}--${activityId}--v${version}`. -/
def buildTimerJobId (kind : TimerKind) (activityId : Uuid) (version : ℕ) : String :=
  kind.value ++ "--" ++ activityId ++ "--v" ++ Nat.repr version

/-- `activity-timers.job.ts::computeDelayMs`: milliseconds until `target`, never negative. -/
def computeDelayMs (target now : Instant) : ℤ := max 0 (target - now)

/-- A delay computed in the past does not run out before its target. -/
theorem le_add_computeDelayMs {target now clock : ℤ} (passed : now ≤ clock) :
    target ≤ clock + computeDelayMs target now := by
  unfold computeDelayMs
  omega

inductive TimerAction where
  | enqueue
  | cancel
  deriving DecidableEq

/-- A single timer mutation after a commit. -/
structure TimerOp where
  action : TimerAction
  kind : TimerKind
  deriving DecidableEq

def ALL_KINDS : List TimerKind := [.responseTimeout, .start, .end_, .verifyTimeout]

def cancelAll : List TimerOp := ALL_KINDS.map fun kind => ⟨.cancel, kind⟩

/-- `activity-timers.ops.ts::timerOpsForTransition`: the timer mutations that landing on a state
triggers. -/
def timerOpsForTransition : ActivityStatus → List TimerOp
  | .assigned => [⟨.enqueue, .responseTimeout⟩, ⟨.enqueue, .start⟩, ⟨.enqueue, .end_⟩]
  | .created => [⟨.enqueue, .responseTimeout⟩]
  | .assisting => [⟨.cancel, .responseTimeout⟩, ⟨.enqueue, .start⟩, ⟨.enqueue, .end_⟩]
  | .inProgress => [⟨.enqueue, .end_⟩]
  | .verify => [⟨.cancel, .end_⟩, ⟨.enqueue, .verifyTimeout⟩]
  | .overdue => [⟨.enqueue, .start⟩, ⟨.enqueue, .end_⟩]
  | .done => cancelAll
  | .cancelled => cancelAll
  | .notAssisting => cancelAll

/-- `activities.service.ts::timerTarget`: the instant a timer of a row is for. -/
def timerTarget (kind : TimerKind) (entity : ActivityEntity) : Option Instant :=
  match kind with
  | .responseTimeout => entity.deadline
  | .start => entity.scheduledStart
  | .end_ => entity.scheduledEnd.or entity.scheduledStart
  | .verifyTimeout => entity.deadline
  | .sweep => none

/-- `activity-timers.processor.ts::expectedSourceFor`: the states a timer of a kind is valid in. -/
def expectedSourceFor : TimerKind → Option (List ActivityStatus)
  | .responseTimeout => some [.created, .assigned]
  | .start => some [.assisting]
  | .end_ => some [.inProgress]
  | .verifyTimeout => some [.verify]
  | .sweep => none

/-- `activity-timers.processor.ts::targetStatusFor`: the state the system moves a row to when a timer
of a kind is due. -/
def targetStatusFor : TimerKind → Option ActivityStatus
  | .responseTimeout => some .overdue
  | .start => some .inProgress
  | .end_ => some .verify
  | .verifyTimeout => some .overdue
  | .sweep => none

/-- An anchor that the time has come to. -/
def reached (anchor : Option Instant) (now : Instant) : Bool :=
  match anchor with
  | some instant => instant ≤ now
  | none => false

theorem reached_iff {anchor : Option Instant} {now : Instant} :
    reached anchor now = true ↔ ∃ instant, anchor = some instant ∧ instant ≤ now := by
  cases anchor <;> simp [reached]

/-- `activity-timers.sweep.ts::dueTargetFor`: the system transition a due row needs. -/
def dueTargetFor (activity : ActivityEntity) (now : Instant) : Option ActivityStatus :=
  if (activity.status = .created ∨ activity.status = .assigned) ∧ reached activity.deadline now then
    some .overdue
  else if activity.status = .assisting ∧ reached activity.scheduledStart now then
    some .inProgress
  else if activity.status = .inProgress ∧
      reached (activity.scheduledEnd.or activity.scheduledStart) now then
    some .verify
  else if activity.status = .verify ∧ reached activity.deadline now then
    some .overdue
  else none

/-- The instant a state waits for before the system may move it on. -/
def anchor (activity : ActivityEntity) : Option Instant :=
  match activity.status with
  | .created | .assigned | .verify => activity.deadline
  | .assisting => activity.scheduledStart
  | .inProgress => activity.scheduledEnd.or activity.scheduledStart
  | .done | .overdue | .notAssisting | .cancelled => none

/-- What a due row is moved to, its anchor has come to. -/
theorem anchor_of_dueTargetFor {activity : ActivityEntity} {now : Instant} {to_ : ActivityStatus}
    (due : dueTargetFor activity now = some to_) :
    ∃ instant, anchor activity = some instant ∧ instant ≤ now := by
  unfold dueTargetFor at due
  unfold anchor
  cases status : activity.status <;> simp [status] at due <;> exact reached_iff.mp due.1

/-- In the states a timer is valid in, its target is the anchor of the row. -/
theorem anchor_of_expectedSource {kind : TimerKind} {sources : List ActivityStatus}
    {activity : ActivityEntity} (expected : expectedSourceFor kind = some sources)
    (valid : activity.status ∈ sources) : anchor activity = timerTarget kind activity := by
  unfold anchor timerTarget
  cases kind <;> cases expected
  · rcases List.mem_pair.mp valid with status | status <;> simp [status]
  all_goals simp [List.mem_singleton.mp valid]

/-- No state is waited for by timers of two kinds. -/
theorem kind_of_source {kind kind' : TimerKind} {sources sources' : List ActivityStatus}
    {status : ActivityStatus} (expected : expectedSourceFor kind = some sources) (valid : status ∈ sources)
    (expected' : expectedSourceFor kind' = some sources') (valid' : status ∈ sources') : kind = kind' := by
  cases kind <;> cases expected <;> cases kind' <;> cases expected' <;>
    first | rfl | (cases status <;> simp at valid valid')

/-- A job that was asked for is of a kind that waits for some state. -/
theorem expectedSource_of_target {kind : TimerKind} {target : Instant} {entity : ActivityEntity}
    (aim : timerTarget kind entity = some target) : ∃ sources, expectedSourceFor kind = some sources := by
  cases kind <;> first | exact ⟨_, rfl⟩ | cases aim

/-! ## Ids of jobs -/

/-- The first two characters tell the kinds apart. -/
theorem kind_eq {kind kind' : TimerKind}
    (same : kind.value.toList.take 2 = kind'.value.toList.take 2) : kind = kind' := by
  cases kind <;> cases kind' <;> first | rfl | exact absurd same (by decide)

theorem kind_length (kind : TimerKind) : 2 ≤ kind.value.toList.length := by
  cases kind <;> decide

theorem timer_id (kind : TimerKind) (activityId : Uuid) (version : ℕ) :
    (buildTimerJobId kind activityId version).toList =
      kind.value.toList ++ ("--".toList ++ (activityId.toList ++ ("--v".toList ++
        (Nat.repr version).toList))) := by
  simp [buildTimerJobId]

/-- The digits at the end of a text, behind something that is none. -/
theorem digits_at_end {start start' digits digits' : List Char} {mark : Char}
    (marked : mark.isDigit = false) (all : ∀ c ∈ digits, c.isDigit) (all' : ∀ c ∈ digits', c.isDigit)
    (same : start ++ mark :: digits = start' ++ mark :: digits') : start = start' ∧ digits = digits' := by
  have backwards := congrArg (fun text => text.reverse.takeWhile Char.isDigit) same
  simp only [List.reverse_append, List.reverse_cons, List.append_assoc, List.singleton_append] at backwards
  rw [List.takeWhile_append_of_pos (by simpa using all), List.takeWhile_append_of_pos (by simpa using all'),
    List.takeWhile_cons_of_neg (by simp [marked]), List.takeWhile_cons_of_neg (by simp [marked]),
    List.append_nil, List.append_nil] at backwards
  have ends : digits = digits' := List.reverse_injective backwards
  subst ends
  exact ⟨List.append_cancel_right same, rfl⟩

/-- The id of a timer names its kind, its activity and its version. -/
theorem buildTimerJobId_injective {kind kind' : TimerKind} {activityId activityId' : Uuid}
    {version version' : ℕ}
    (same : buildTimerJobId kind activityId version = buildTimerJobId kind' activityId' version') :
    kind = kind' ∧ activityId = activityId' ∧ version = version' := by
  have texts := congrArg String.toList same
  rw [timer_id, timer_id, Nat.toList_repr, Nat.toList_repr] at texts
  have kinds : kind = kind' := by
    have heads := congrArg (List.take 2) texts
    rw [List.take_append_of_le_length (kind_length kind),
      List.take_append_of_le_length (kind_length kind')] at heads
    exact kind_eq heads
  subst kinds
  rw [List.append_cancel_left_eq, List.append_cancel_left_eq] at texts
  have digits (number : ℕ) : ∀ c ∈ Nat.toDigits 10 number, c.isDigit :=
    fun c member => Nat.isDigit_of_mem_toDigits (by decide) (by decide) member
  obtain ⟨ids, versions⟩ := @digits_at_end (activityId.toList ++ "--".toList)
    (activityId'.toList ++ "--".toList) _ _ 'v' rfl (digits version) (digits version') (by simpa using texts)
  have numbers := congrArg (fun digits => Nat.ofDigitChars 10 digits 0) versions
  simp only [Nat.ofDigitChars_toDigits (by decide : 1 < 10) (by decide : 10 ≤ 10)] at numbers
  exact ⟨rfl, String.toList_injective (List.append_cancel_right ids), numbers⟩

end ParentalCoord.Activities

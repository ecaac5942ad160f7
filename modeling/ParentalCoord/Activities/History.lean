import ParentalCoord.Activities.Service
import ParentalCoord.Store.Journal

/-!
What one write does to one activity, with nobody else present.

`Opens` is what `create` inserts and `Moves` what a transition writes: the row
before, the row after, and the outbox event between them.  A row has a history
when its events replay to it (`Replays`).  Every column fact of a row follows
from that by induction on the history: no interleaving is left in it.
-/

namespace ParentalCoord.Activities

open Store

/-- The requests the service makes to `transition`. -/
inductive Made : TransitionRequest → Prop where
  | complete (id userId : Uuid) : Made { activityId := id, to_ := .done, actor := .user userId }
  | confirm (id userId : Uuid) :
      Made { activityId := id, to_ := .assisting, actor := .user userId }
  | delete (id userId : Uuid) (now : Instant) :
      Made { activityId := id, to_ := .cancelled, actor := .user userId
             fields := { deletedAt := some (some now) }, payloadExtra := [("deleted", .bool true)] }
  | cancel (id userId : Uuid) (reason : String) :
      Made { activityId := id, to_ := .cancelled, actor := .user userId, reason := some reason }
  | decline (id userId : Uuid) (reason : String) :
      Made { activityId := id, to_ := .notAssisting, actor := .user userId, reason := some reason }
  | assign (id userId targetId : Uuid) :
      Made { activityId := id, to_ := .assigned, actor := .user userId
             fields := { assignedTo := some (some targetId) } }
  | system (id : Uuid) (to_ : ActivityStatus) :
      Made { activityId := id, to_ := to_, actor := .system }

/-- What `create` inserts. -/
inductive Opens (config : Config) : InsertOutboxEventInput → ActivityEntity → Prop where
  | create (bondId : Uuid) (dto : CreateActivityDto) (userId : Uuid) (criticality : Criticality)
      (now : Instant) (id : Uuid) :
      Opens config ((createInput config bondId dto userId criticality now).event id)
        ((createInput config bondId dto userId criticality now).saved id)

/-- What a transition writes over the row it was decided on. -/
inductive Moves (config : Config) :
    InsertOutboxEventInput → ActivityEntity → ActivityEntity → Prop where
  | transition {req : TransitionRequest} {row : ActivityEntity} {rule : TransitionRule}
      (now : Instant) (actorRole : Option String) (made : Made req) (live : row.deletedAt = none)
      (admitted : ruleFor req row = .ok (some rule)) :
      Moves config ((transitionInput config req row rule now actorRole).event row) row
        ((transitionInput config req row rule now actorRole).saved row)

/-- The events of a row replay to it. -/
abbrev History (config : Config) : List InsertOutboxEventInput → ActivityEntity → Prop :=
  Replays (Opens config) (Moves config)

variable {config : Config} {req : TransitionRequest} {row row' : ActivityEntity}
  {rule rule' : TransitionRule} {event : InsertOutboxEventInput} {events : List InsertOutboxEventInput}

/-! ## Admission -/

theorem originGuard_ok (passed : originGuard req row rule = .ok (some rule')) :
    rule' = rule ∧ (rule.id = .T8 → overdueOrigin row = .assigned) := by
  unfold originGuard at passed
  split at passed
  · cases passed
  · rename_i open_
    cases passed
    exact ⟨rfl, fun late => Classical.byContradiction fun other => open_ ⟨late, other⟩⟩

/-- A request goes by the rule of its pair, and only where its actor may. -/
structure Admitted (req : TransitionRequest) (row : ActivityEntity) (rule : TransitionRule) :
    Prop where
  resolved : resolveTransition row.status req.to_ = some rule
  system : req.actor = .system → .system ∈ rule.actors
  user : ∀ userId, req.actor = .user userId →
    (.bondMember ∈ rule.actors ∨ .assignee ∈ rule.actors) ∧
      (rule.requireAssignee → row.assignedTo = some userId)
  origin : rule.id = .T8 → overdueOrigin row = .assigned

theorem admitted_iff : ruleFor req row = .ok (some rule) ↔ Admitted req row rule := by
  constructor
  · intro admitted
    unfold ruleFor at admitted
    split at admitted
    · cases admitted
    · cases admitted
    · rename_i found resolved actor
      split at admitted
      · cases admitted
      · rename_i may
        obtain ⟨rfl, origin⟩ := originGuard_ok admitted
        exact ⟨resolved, fun _ => by simpa using may, by simp [actor], origin⟩
    · rename_i found userId resolved actor
      split at admitted
      · cases admitted
      · rename_i may
        split at admitted
        · cases admitted
        · rename_i own
          obtain ⟨rfl, origin⟩ := originGuard_ok admitted
          refine ⟨resolved, by simp [actor], fun other same => ?_, origin⟩
          cases actor.symm.trans same
          refine ⟨?_, fun needed => ?_⟩
          · by_cases member : TransitionActor.bondMember ∈ rule.actors
            · exact .inl member
            · exact .inr (Classical.byContradiction fun apart => may ⟨member, apart⟩)
          · exact Classical.byContradiction fun other => own ⟨needed, other⟩
  · rintro ⟨resolved, system, user, origin⟩
    have guard : originGuard req row rule = .ok (some rule) := by
      simp only [originGuard]
      rw [if_neg fun late => late.2 (origin late.1)]
    unfold ruleFor
    cases actor : req.actor with
    | system => simp [resolved, system actor, guard]
    | user userId =>
      obtain ⟨may, own⟩ := user userId actor
      have open_ : ¬(TransitionActor.bondMember ∉ rule.actors ∧
          TransitionActor.assignee ∉ rule.actors) := fun none => may.elim none.1 none.2
      have held : ¬(rule.requireAssignee = true ∧ row.assignedTo ≠ some userId) :=
        fun needed => needed.2 (own needed.1)
      simp only [resolved]
      rw [if_neg open_, if_neg held, guard]

/-- A request of a system is never refused on a row, only left without effect. -/
theorem ruleFor_noop (noop : ruleFor req row = .ok none) : req.actor = .system := by
  unfold ruleFor at noop
  split at noop
  · rename_i actor
    exact actor
  · cases noop
  · rename_i actor
    exact actor
  · split at noop
    · cases noop
    · split at noop
      · cases noop
      · unfold originGuard at noop
        split at noop <;> cases noop

/-! ## What a write leaves of the row and says in its event -/

@[simp] theorem onto_id (fields : ApplyTransitionFields) : (fields.onto row).id = row.id := rfl

@[simp] theorem onto_status (fields : ApplyTransitionFields) :
    (fields.onto row).status = row.status := rfl

@[simp] theorem onto_version (fields : ApplyTransitionFields) :
    (fields.onto row).version = row.version := rfl

namespace Moves

theorem id_eq (moves : Moves config event row row') : row'.id = row.id := by
  cases moves
  rfl

theorem version_eq (moves : Moves config event row row') : row'.version = row.version + 1 := by
  cases moves
  rfl

theorem event_version (moves : Moves config event row row') :
    event.aggregateVersion = row.version + 1 := by
  cases moves
  rfl

theorem event_id (moves : Moves config event row row') :
    event.aggregateType = .activity ∧ event.aggregateId = row.id := by
  cases moves
  exact ⟨rfl, rfl⟩

/-- A move goes by the rule of its two statuses, and its event is the rule's. -/
theorem resolved (moves : Moves config event row row') :
    ∃ rule, resolveTransition row.status row'.status = some rule ∧ event.eventType = rule.event := by
  cases moves with
  | transition now actorRole made live admitted =>
    exact ⟨_, (admitted_iff.mp admitted).resolved, rfl⟩

end Moves

/-- The keys the service merges into a payload are not those of the transition. -/
theorem Made.payloadExtra_lookup (made : Made req) {base : Record} {key : String}
    (other : key ≠ "deleted") : (Record.spread base req.payloadExtra).lookup key = base.lookup key := by
  cases made
  case delete => simp [Record.spread, Record.lookup_set, other]
  all_goals rfl

/-- What the payload of a transition records. -/
theorem transitionInput_payload (config : Config) (row : ActivityEntity) (rule : TransitionRule)
    (made : Made req) (now : Instant) (actorRole : Option String) :
    let payload := (transitionInput config req row rule now actorRole).outbox.payload
    payload.lookup "from" = some (.str row.status.value) ∧
      payload.lookup "to" = some (.str req.to_.value) ∧
      payload.lookup "actor" = some (actorJson req.actor actorRole) ∧
      payload.lookup "reason" = some (Json.ofOption req.reason) ∧
      payload.lookup "occurredAt" = some (.str (toISOString now)) := by
  intro payload
  refine ⟨?_, ?_, ?_, ?_, ?_⟩ <;> exact (made.payloadExtra_lookup (by decide)).trans rfl

/-- The statuses an event records are those of the rows around it. -/
theorem Moves.payload (moves : Moves config event row row') :
    event.payload.lookup "from" = some (.str row.status.value) ∧
      event.payload.lookup "to" = some (.str row'.status.value) := by
  cases moves with
  | @transition _ _ rule now actorRole made live admitted =>
    obtain ⟨source, target, _⟩ := transitionInput_payload config row rule made now actorRole
    exact ⟨source, target⟩

/-! ## The columns of a row that has a history -/

/-- What the columns are in each status. -/
def Shape (row : ActivityEntity) : Prop :=
  1 ≤ row.version ∧ (row.deletedAt.isSome → row.status = .cancelled) ∧
  (row.completedAt.isSome ↔ row.status = .done) ∧
  (row.cancelledAt.isSome ↔ row.status = .cancelled) ∧
  match row.status with
  | .created => row.assignedTo = none ∧ row.deadline.isSome ∧ row.confirmedAt = none ∧
      row.declinedAt = none ∧ row.verifyAt = none
  | .assigned => row.assignedTo.isSome ∧ row.deadline.isSome ∧ row.confirmedAt = none ∧
      row.declinedAt = none ∧ row.verifyAt = none
  | .assisting | .inProgress | .done => row.assignedTo.isSome ∧ row.deadline = none ∧
      row.confirmedAt.isSome ∧ row.declinedAt = none ∧ row.verifyAt = none
  | .verify => row.assignedTo.isSome ∧ row.deadline.isSome ∧ row.confirmedAt.isSome ∧
      row.declinedAt = none ∧ row.verifyAt.isSome
  -- A row that expired while assigned is the only one to leave by the late decline.
  | .overdue => row.declinedAt = none ∧ (overdueOrigin row = .assigned → row.confirmedAt = none)
  | .notAssisting => row.assignedTo.isSome ∧ row.confirmedAt = none ∧ row.declinedAt.isSome ∧
      row.declinedReason.isSome ∧ row.verifyAt = none
  | .cancelled => row.deadline = none ∧ row.verifyAt = none

theorem Opens.shape (opens : Opens config event row) : Shape row := by
  obtain ⟨bondId, dto, userId, criticality, now, id⟩ := opens
  cases assignee : dto.assignedTo <;>
    simp [Shape, InsertWithInitialTransitionInput.saved, createInput, resolveInitial, assignee]

theorem Moves.shape (shape : Shape row) (moves : Moves config event row row') : Shape row' := by
  cases moves with
  | transition now actorRole made live admitted =>
    obtain ⟨resolved, system, user, origin⟩ := admitted_iff.mp admitted
    cases made
    case system id to_ =>
      rcases system_rule_cases resolved (system rfl) with ⟨status, rfl⟩ | ⟨status, rfl⟩ |
        ⟨status, rfl⟩ | ⟨status, rfl⟩ | ⟨status, rfl⟩
      all_goals
        rw [status] at resolved
        cases resolved
        simp_all [Shape, ApplyTransitionInput.saved, transitionInput, ApplyTransitionFields.onto,
          ApplyTransitionFields.assign, buildTransitionFields, stamp, overdueOrigin_assigned]
      -- Only the row from `verify` is left, and it carries the mark of that window.
      intro _ unmarked
      simp [unmarked] at shape
    all_goals
      cases status : row.status <;> rw [status] at resolved <;> cases resolved <;>
        simp_all [Shape, ApplyTransitionInput.saved, transitionInput, ApplyTransitionFields.onto,
          ApplyTransitionFields.assign, buildTransitionFields, stamp, overdueOrigin_assigned,
          CANCEL_EFFECTS]

theorem History.shape (history : History config events row) : Shape row :=
  history.invariant (fun _ _ opens => opens.shape) fun _ _ _ shape moves => moves.shape shape

/-- What a reader of the table may count on, column by column. -/
structure ColumnInvariant (row : ActivityEntity) : Prop where
  unassigned : row.status = .created → row.assignedTo = none
  assigned : row.status ∈ [.assigned, .assisting, .inProgress, .verify, .done, .notAssisting] →
    row.assignedTo.isSome
  deadline : row.status ∈ [.created, .assigned, .verify] → row.deadline.isSome
  noDeadline : row.status ∈ [.assisting, .inProgress, .done, .cancelled] → row.deadline = none
  confirmed : row.status ∈ [.assisting, .inProgress, .verify, .done] → row.confirmedAt.isSome
  unconfirmed : row.status ∈ [.created, .assigned, .notAssisting] → row.confirmedAt = none
  completed : row.completedAt.isSome ↔ row.status = .done
  cancelled : row.cancelledAt.isSome ↔ row.status = .cancelled
  deleted : row.deletedAt.isSome → row.status = .cancelled
  declined : row.status = .notAssisting → row.declinedAt.isSome ∧ row.declinedReason.isSome
  declinedOnly : row.declinedAt.isSome → row.status = .notAssisting ∨ row.status = .cancelled
  verifiedOnly : row.verifyAt.isSome → row.status = .verify ∨ row.status = .overdue
  verified : row.status = .verify → row.verifyAt.isSome
  version : 1 ≤ row.version

theorem Shape.columns (shape : Shape row) : ColumnInvariant row := by
  obtain ⟨version, deleted, completed, cancelled, columns⟩ := shape
  constructor
  case version => exact version
  case deleted => exact deleted
  case completed => exact completed
  case cancelled => exact cancelled
  all_goals cases status : row.status <;> simp_all

theorem Made.system_of_overdue (made : Made req) (late : req.to_ = .overdue) :
    req.actor = .system := by
  cases made <;> first | rfl | cases late

/-- Only from the three states that expire do rules lead into `overdue`. -/
theorem Made.expires (made : Made req) (late : req.to_ = .overdue)
    (admitted : ruleFor req row = .ok (some rule)) :
    resolveTransition row.status .overdue = some rule ∧
      (row.status = .created ∨ row.status = .assigned ∨ row.status = .verify) := by
  obtain ⟨resolved, system, -, -⟩ := admitted_iff.mp admitted
  have rules := system_rule_cases resolved (system (made.system_of_overdue late))
  rw [late] at resolved rules
  refine ⟨resolved, ?_⟩
  simpa using rules

/-- In the states that expire, the two columns the origin is read off tell the
state apart. -/
theorem Shape.origin (shape : Shape row)
    (waits : row.status = .created ∨ row.status = .assigned ∨ row.status = .verify) :
    row.status = (overdueOrigin row).status := by
  obtain ⟨-, -, -, -, columns⟩ := shape
  rcases waits with status | status | status <;> simp only [status] at columns ⊢
  · obtain ⟨unassigned, -⟩ := columns
    simp [overdueOrigin, unassigned, OverdueOrigin.status]
  · obtain ⟨held, -, -, -, unmarked⟩ := columns
    rw [overdueOrigin_assigned.mpr ⟨Option.isSome_iff_ne_none.mp held, unmarked⟩]
    rfl
  · obtain ⟨held, -, -, -, marked⟩ := columns
    simp [overdueOrigin, Option.isSome_iff_ne_none.mp held, Option.isSome_iff_ne_none.mp marked,
      OverdueOrigin.status]

/-- Only the system moves a row into `overdue`, from one of the three states that
expire, and its rules leave the columns of the origin alone. -/
theorem Moves.origin (shape : Shape row) (moves : Moves config event row row')
    (late : row'.status = .overdue) : row.status = (overdueOrigin row').status := by
  cases moves with
  | @transition req _ rule now actorRole made live admitted =>
    have overdue : req.to_ = .overdue := late
    have actor := made.system_of_overdue overdue
    obtain ⟨resolved, waits⟩ := made.expires overdue admitted
    have untouched : overdueOrigin ((transitionInput config req row rule now actorRole).saved row) =
        overdueOrigin row := by
      rcases waits with status | status | status <;> rw [status] at resolved <;> cases resolved <;>
        cases made <;> cases actor <;> rfl
    rw [untouched]
    exact shape.origin waits

end ParentalCoord.Activities

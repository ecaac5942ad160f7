import ParentalCoord.Activities.Alone
import ParentalCoord.Activities.Guarantees

/-!
The flags of the policy, and what the requests they stand for do.

The policy reads the row and the time.  A request is decided by what it checks itself, by
the map of transitions, by who may execute the rule and by the origin of a row that is
overdue.  The two come to the same.
-/

namespace ParentalCoord.Activities

open Interleaving Store

variable {config : Config} {world : World} {row : ActivityEntity} {id userId : Uuid} {now : Instant}

/-- The requests that the policy has a flag for. -/
inductive Operation where
  | complete
  | confirmAssignment
  | declineAssignment (rawReason : Option Json)
  | assign (assignedTo : Option (Option Uuid))
  | reassign (assignedTo : Option (Option Uuid))
  | cancel (rawReason : Option Json)
  | delete

namespace Operation

def entry (id userId : Uuid) : Operation → Entry
  | .complete => .complete id userId
  | .confirmAssignment => .confirmAssignment id userId
  | .declineAssignment rawReason => .declineAssignment id userId rawReason
  | .assign assignedTo => .assign id userId assignedTo
  | .reassign assignedTo => .reassign id userId assignedTo
  | .cancel rawReason => .cancel id userId rawReason
  | .delete => .delete id userId

def target : Operation → ActivityStatus
  | .complete => .done
  | .confirmAssignment => .assisting
  | .declineAssignment _ => .notAssisting
  | .assign _ | .reassign _ => .assigned
  | .cancel _ | .delete => .cancelled

/-- A reason of the right length, and a target that is a member. -/
def Valid (world : World) (bondId : Uuid) : Operation → Prop
  | .declineAssignment rawReason | .cancel rawReason => ∃ reason, parseActivityReason rawReason = .ok reason
  | .assign assignedTo | .reassign assignedTo => ∀ targetId, assignedTo = some (some targetId) →
      world.directory.isActiveBondForMember bondId targetId = true
  | _ => True

/-- What the flags say.  Those of `cancel` and `delete` leave the status out. -/
def allowed (decision : ActivityPolicyDecision) (status : ActivityStatus) : Operation → Bool
  | .complete => decision.canComplete
  | .confirmAssignment => decision.canConfirm
  | .declineAssignment _ => decision.canDecline
  | .assign _ | .reassign _ => decision.canAssign || decision.canReassign
  | .cancel _ => decision.canCancel && status ∉ [.done, .cancelled]
  | .delete => decision.canDelete && status ∉ [.done, .cancelled]

/-- What the request checks before it asks for the transition. -/
def asks (row : ActivityEntity) (userId : Uuid) (now : Instant) : Operation → Bool
  | .confirmAssignment => row.assignedTo = some userId ∧ row.status ≠ .assisting
  | .declineAssignment _ => (evaluate row userId now).canDecline
  | .cancel _ => (evaluate row userId now).canCancel
  | .delete => (evaluate row userId now).canDelete
  | _ => true

/-- The transition that it asks for. -/
def request (id userId : Uuid) (now : Instant) : Operation → TransitionRequest
  | .complete => { activityId := id, to_ := .done, actor := .user userId }
  | .confirmAssignment => { activityId := id, to_ := .assisting, actor := .user userId }
  | .declineAssignment rawReason =>
      { activityId := id, to_ := .notAssisting, actor := .user userId
        reason := (parseActivityReason rawReason).toOption }
  | .assign assignedTo | .reassign assignedTo =>
      { activityId := id, to_ := .assigned, actor := .user userId
        fields := { assignedTo := some (some (assignedTo.join.getD userId)) } }
  | .cancel rawReason =>
      { activityId := id, to_ := .cancelled, actor := .user userId
        reason := (parseActivityReason rawReason).toOption }
  | .delete =>
      { activityId := id, to_ := .cancelled, actor := .user userId
        fields := { deletedAt := some (some now) }, payloadExtra := [("deleted", .bool true)] }

end Operation

/-- The row has gone to the status, and the outbox tells of it. -/
structure Committed (row : ActivityEntity) (to_ : ActivityStatus) (before after : World) : Prop where
  moved : ∃ row', after.activities.get row.id = some row' ∧ row'.status = to_ ∧
    row'.version = row.version + 1
  told : ∃ event, after.outbox = before.outbox ++ [event] ∧ event.aggregateId = row.id ∧
    event.aggregateVersion = row.version + 1

/-! ## Down to the transition -/

theorem getById_alone (found : world.activities.get id = some row) (alive : row.deletedAt = none) :
    (getById id).run serve world = (.ok row, world) := by
  unfold getById
  simp only [Handler.bind_eq, Handler.run_bind, findById_alone found alive]
  rfl

theorem loadForMember_alone (found : world.activities.get id = some row) (alive : row.deletedAt = none)
    (member : world.directory.isActiveBondForMember row.bondId userId = true) :
    (loadForMember id userId).run serve world = (.ok row, world) := by
  unfold loadForMember
  simp only [Handler.bind_eq, Handler.run_bind, findById_alone found alive,
    assertActivityMember_alone member]
  rfl

/-- What a request of a user does to the world, its transition does. -/
theorem userTransition_alone (config : Config) (activity : ActivityEntity) (req : TransitionRequest)
    (world : World) : ((userTransition config activity req).run serve world).2 =
      ((transition config req).run serve world).2 := by
  unfold userTransition
  rw [Handler.bind_eq, Handler.run_bind]
  split
  · rename_i value after same
    rw [same]
    cases value <;> rfl
  · rename_i error after same
    rw [same]

/-- A target that is given is a member, and one that is not is the user. -/
theorem assertTarget_alone {assignedTo : Option (Option Uuid)}
    (valid : (Operation.assign assignedTo).Valid world row.bondId)
    (member : world.directory.isActiveBondForMember row.bondId userId = true) :
    (assertTarget row assignedTo (assignedTo.join.getD userId)).run serve world = (.ok (), world) := by
  unfold assertTarget
  rcases assignedTo with _ | (_ | targetId)
  · rfl
  · exact assertActivityMember_alone member
  · exact assertActivityMember_alone (valid targetId rfl)

/-- A request behind a flag of the policy goes on when the flag is set, and else does nothing. -/
theorem flagged_alone {α : Type} {after : World} (flag : ActivityPolicyDecision → Bool)
    {denied : Exception} {rest : ActivityEntity → Instant → Request α}
    (found : world.activities.get id = some row) (alive : row.deletedAt = none)
    (member : world.directory.isActiveBondForMember row.bondId userId = true)
    (goes : ((rest row world.clock).run serve world).2 = after) :
    (((loadForMember id userId).bind fun activity => clockNow.bind fun now =>
      if !flag (evaluate activity userId now) then throw denied else rest activity now).run
        serve world).2 =
      if flag (evaluate row userId world.clock) then after else world := by
  have clock : clockNow.run serve world = (.ok world.clock, world) := rfl
  rw [Handler.run_bind_eq (loadForMember_alone found alive member), Handler.run_bind_eq clock]
  cases flag (evaluate row userId world.clock) with
  | true => exact goes
  | false => rfl

/-- A request does what its transition does, when it asks for it, and else nothing. -/
theorem operation_alone (config : Config) (found : world.activities.get id = some row)
    (alive : row.deletedAt = none)
    (member : world.directory.isActiveBondForMember row.bondId userId = true) {operation : Operation}
    (valid : operation.Valid world row.bondId) :
    ((handler config (operation.entry id userId)).run serve world).2 =
      if operation.asks row userId world.clock then
        ((transition config (operation.request id userId world.clock)).run serve world).2
      else world := by
  have own : row.id = id := Table.key_of_get found
  have read := getById_alone found alive
  have loaded := loadForMember_alone found alive member
  have asserted := assertActivityMember_alone member
  have ends {α : Type} (activity : ActivityEntity) (req : TransitionRequest) (f : ActivityEntity → α) :
      (((userTransition config activity req).bind fun updated => .ret (f updated)).run serve world).2 =
        ((transition config req).run serve world).2 := by
    rw [Handler.run_map_world, userTransition_alone]
  have body (asked : Request Record) :
      ((asked.bind fun value => .ret (Reply.body value)).run serve world).2 = (asked.run serve world).2 :=
    by rw [Handler.run_map_world]
  cases operation with
  | complete =>
    apply (body _).trans
    unfold complete
    rw [Handler.bind_eq, Handler.run_bind_eq read, Handler.bind_eq, Handler.run_bind_eq asserted]
    exact ends row _ _
  | confirmAssignment =>
    apply (body _).trans
    unfold confirmAssignment
    rw [Handler.bind_eq, Handler.run_bind_eq read, Handler.bind_eq, Handler.run_bind_eq asserted]
    by_cases assignee : row.assignedTo = some userId
    · rw [if_neg (not_not.mpr assignee)]
      by_cases confirmed : row.status = .assisting
      · rw [if_pos confirmed, if_neg (by simp [Operation.asks, confirmed])]
        rfl
      · rw [if_neg confirmed, if_pos (by simp [Operation.asks, assignee, confirmed])]
        exact ends row _ _
    · rw [if_pos assignee, if_neg (by simp [Operation.asks, assignee])]
      rfl
  | declineAssignment rawReason =>
    obtain ⟨reason, parsed⟩ := valid
    apply (body _).trans
    apply flagged_alone (·.canDecline) found alive member
    simp only [Operation.request, parsed]
    exact ends row _ _
  | assign assignedTo =>
    apply (body _).trans
    unfold assign reassignInternal
    rw [Handler.bind_eq, Handler.run_bind_eq loaded, Handler.bind_eq,
      Handler.run_bind_eq (assertTarget_alone valid member)]
    exact ends row _ _
  | reassign assignedTo =>
    apply (body _).trans
    unfold reassign reassignInternal
    rw [Handler.bind_eq, Handler.run_bind_eq loaded, Handler.bind_eq,
      Handler.run_bind_eq (assertTarget_alone valid member)]
    exact ends row _ _
  | cancel rawReason =>
    obtain ⟨reason, parsed⟩ := valid
    apply (body _).trans
    apply flagged_alone (·.canCancel) found alive member
    simp only [Operation.request, parsed]
    exact ends row _ _
  | delete =>
    apply (body _).trans
    exact flagged_alone (·.canDelete) found alive member (ends row _ _)

/-- On a row that is deleted no request does anything. -/
theorem operation_deleted (config : Config) (found : world.activities.get id = some row)
    (deleted : row.deletedAt ≠ none) (operation : Operation) :
    ((handler config (operation.entry id userId)).run serve world).2 = world := by
  have read : (findById id).run serve world = (.ok none, world) := by
    simp [findById, perform, Handler.perform, Handler.run, serve, found, deleted]
  have absent : ∃ error, (getById id).run serve world = (.error error, world) := by
    unfold getById
    rw [Handler.bind_eq, Handler.run_bind_eq read]
    exact ⟨_, rfl⟩
  have unseen : ∃ error, (loadForMember id userId).run serve world = (.error error, world) := by
    unfold loadForMember
    rw [Handler.bind_eq, Handler.run_bind_eq read]
    exact ⟨_, rfl⟩
  obtain ⟨missing, absent⟩ := absent
  obtain ⟨hidden, unseen⟩ := unseen
  have stops {α : Type} {first : Request α} {rest : α → Request Record} {error : Exception}
      (stopped : first.run serve world = (.error error, world)) :
      (((first.bind rest).bind fun value => .ret (Reply.body value)).run serve world).2 = world := by
    rw [Handler.run_map_world, Handler.run_bind, stopped]
  cases operation with
  | complete => exact stops absent
  | confirmAssignment => exact stops absent
  | declineAssignment rawReason => exact stops unseen
  | assign assignedTo => exact stops unseen
  | reassign assignedTo => exact stops unseen
  | cancel rawReason => exact stops unseen
  | delete => exact stops unseen

/-! ## What the map admits -/

/-- What a user needs for a rule: to be the assignee, and that the row expired while it was
assigned. -/
def userRule (from_ to_ : ActivityStatus) : Option (Bool × Bool) :=
  (resolveTransition from_ to_).bind fun rule =>
    if .bondMember ∈ rule.actors ∨ .assignee ∈ rule.actors then
      some (rule.requireAssignee, decide (rule.id = .T8))
    else none

theorem exists_admitted {req : TransitionRequest} (user : req.actor = .user userId) :
    (∃ rule, Admitted req row rule) ↔ ∃ own late, userRule row.status req.to_ = some (own, late) ∧
      (own = true → row.assignedTo = some userId) ∧ (late = true → overdueOrigin row = .assigned) := by
  constructor
  · rintro ⟨rule, resolved, -, may, origin⟩
    obtain ⟨may, own⟩ := may userId user
    refine ⟨rule.requireAssignee, decide (rule.id = .T8), ?_, own, fun late => origin (by simpa using late)⟩
    simp [userRule, resolved, may]
  · rintro ⟨own, late, needs, assignee, origin⟩
    obtain ⟨rule, resolved, needs⟩ := Option.bind_eq_some_iff.mp needs
    split at needs
    · rename_i may
      cases needs
      refine ⟨rule, resolved, fun system => ?_, fun other same => ?_, fun late => origin (by simpa using late)⟩
      · rw [user] at system
        cases system
      · rw [user, TransitionRequest.Actor.user.injEq] at same
        exact ⟨may, fun needed => same ▸ assignee needed⟩
    · cases needs

/-- The rules that users go by. -/
theorem userRule_eq (from_ to_ : ActivityStatus) : userRule from_ to_ =
    match to_, from_ with
    | .assigned, .created | .assigned, .notAssisting => some (false, false)
    | .assisting, .assigned | .notAssisting, .assigned => some (true, false)
    | .notAssisting, .overdue => some (true, true)
    | .done, .inProgress | .done, .verify => some (false, false)
    | .cancelled, .done | .cancelled, .cancelled => none
    | .cancelled, _ => some (false, false)
    | _, _ => none := by
  cases from_ <;> cases to_ <;> rfl

/-- The flags of the policy are what the request and the map admit. -/
theorem allowed_iff (operation : Operation) :
    operation.allowed (evaluate row userId now) row.status = true ↔
      operation.asks row userId now = true ∧
        ∃ rule, Admitted (operation.request id userId now) row rule := by
  have user : (operation.request id userId now).actor = .user userId := by cases operation <;> rfl
  rw [exists_admitted user, userRule_eq]
  cases operation <;> cases status : row.status <;>
    simp [Operation.allowed, Operation.asks, Operation.request, evaluate, status]
  · exact fun assignee _ => assignee
  · exact fun assignee origin _ => ⟨assignee, origin⟩

/-! ## The flags and the requests -/

theorem Unwritten.refl (world : World) : Unwritten world world := ⟨rfl, rfl⟩

/-- A transition commits when the map admits it, and else nothing is written. -/
theorem transition_cases (config : Config) {req : TransitionRequest}
    (found : world.activities.get req.activityId = some row) (alive : row.deletedAt = none)
    (admits : Admits world row req.actor) :
    (∃ rule, Admitted req row rule) ∧
        Committed row req.to_ world ((transition config req).run serve world).2 ∨
      (¬∃ rule, Admitted req row rule) ∧ ((transition config req).run serve world).2 = world := by
  rw [transition_alone found alive admits]
  have own : row.id = req.activityId := Table.key_of_get found
  by_cases admitted : ∃ rule, Admitted req row rule
  · obtain ⟨rule, admits⟩ := admitted
    rw [admitted_iff.mpr admits]
    refine .inl ⟨⟨rule, admits⟩, ⟨landing config world req row rule, ?_, rfl, rfl⟩,
      ⟨_, rfl, rfl, rfl⟩⟩
    exact Table.get_put_self (own ▸ found)
  · refine .inr ⟨admitted, ?_⟩
    cases ruled : ruleFor req row with
    | error refusal => rfl
    | ok admitted_ =>
      cases admitted_ with
      | none => rfl
      | some rule => exact absurd ⟨rule, admitted_iff.mp ruled⟩ admitted

theorem Committed.not_same {to_ : ActivityStatus} (committed : Committed row to_ world world) : False := by
  obtain ⟨event, told, -⟩ := committed.told
  simp at told

/-- **Each request commits a transition of the row exactly when its flag says so, and else
writes nothing.** -/
theorem flags_agree {cfg : Interleaving.Config (activities config)}
    (reachable : Reachable (activities config) cfg) (found : cfg.world.activities.get id = some row)
    (member : cfg.world.directory.isActiveBondForMember row.bondId userId = true)
    (operation : Operation) (valid : operation.Valid cfg.world row.bondId) :
    let after := ((handler config (operation.entry id userId)).run serve cfg.world).2
    (Committed row operation.target cfg.world after ↔
      operation.allowed (evaluate row userId cfg.world.clock) row.status = true) ∧
    (operation.allowed (evaluate row userId cfg.world.clock) row.status = false →
      Unwritten cfg.world after) := by
  intro after
  have same : Committed row operation.target cfg.world after ∧
      operation.allowed (evaluate row userId cfg.world.clock) row.status = true ∨
      operation.allowed (evaluate row userId cfg.world.clock) row.status = false ∧ after = cfg.world := by
    by_cases alive : row.deletedAt = none
    · have target : (operation.request id userId cfg.world.clock).to_ = operation.target := by
        cases operation <;> rfl
      have admits : Admits cfg.world row (operation.request id userId cfg.world.clock).actor := by
        cases operation <;> exact member
      have here : cfg.world.activities.get (operation.request id userId cfg.world.clock).activityId =
          some row := by cases operation <;> exact found
      have agrees : operation.allowed (evaluate row userId cfg.world.clock) row.status = true ↔
          operation.asks row userId cfg.world.clock = true ∧
            ∃ rule, Admitted (operation.request id userId cfg.world.clock) row rule :=
        allowed_iff operation
      have does := operation_alone config found alive member valid
      rw [target.symm]
      by_cases asks : operation.asks row userId cfg.world.clock = true
      · rw [if_pos asks] at does
        rcases transition_cases config here alive admits with ⟨may, committed⟩ | ⟨never, same⟩
        · refine .inl ⟨?_, agrees.mpr ⟨asks, may⟩⟩
          exact cast (congrArg (Committed row _ cfg.world) does.symm) committed
        · refine .inr ⟨Bool.eq_false_iff.mpr fun may => never (agrees.mp may).2, does.trans same⟩
      · rw [if_neg asks] at does
        exact .inr ⟨Bool.eq_false_iff.mpr fun may => asks (agrees.mp may).1, does⟩
    · have cancelled := (columns_hold reachable found).deleted (Option.isSome_iff_ne_none.mpr alive)
      refine .inr ⟨?_, operation_deleted config found alive operation⟩
      rw [cancelled]
      cases operation <;> simp [Operation.allowed, evaluate, cancelled]
  rcases same with ⟨committed, may⟩ | ⟨may, same⟩
  · exact ⟨⟨fun _ => may, fun _ => committed⟩, fun denied => by rw [may] at denied; cases denied⟩
  · rw [same, may]
    exact ⟨⟨fun committed => committed.not_same.elim, fun may => absurd may Bool.false_ne_true⟩,
      fun _ => .refl _⟩

/-- The creator of an activity assigns it to a member. -/
theorem flags_agree_created : ∃ cfg : Interleaving.Config (activities defaults),
    Reachable (activities defaults) cfg ∧ ∃ row : ActivityEntity,
      cfg.world.activities.get "a1" = some row ∧ Committed row .assigned cfg.world
      ((handler defaults (.assign "a1" "u1" (some (some "u2")))).run serve cfg.world).2 := by
  obtain ⟨cfg, run, shown⟩ := exists_played (fun _ _ => True) creation
    (fun cfg => (cfg.world.activities.get "a1").any fun row => row.status = .created &&
      cfg.world.directory.isActiveBondForMember row.bondId "u1" &&
      cfg.world.directory.isActiveBondForMember row.bondId "u2") (by decide +kernel)
  obtain ⟨row, found, facts⟩ := (Option.any_eq_true _ _).mp shown
  simp only [Bool.and_eq_true, decide_eq_true_eq] at facts
  obtain ⟨⟨created, member⟩, target⟩ := facts
  have valid : (Operation.assign (some (some "u2"))).Valid cfg.world row.bondId := by
    rintro targetId same
    cases same
    exact target
  refine ⟨cfg, run, row, found, (flags_agree run found member (.assign (some (some "u2"))) valid).1.mpr ?_⟩
  simp [Operation.allowed, evaluate, created]

end ParentalCoord.Activities

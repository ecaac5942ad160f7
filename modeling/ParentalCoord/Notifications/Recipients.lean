import Mathlib.Data.Set.Basic
import ParentalCoord.Activities.Guarantees
import ParentalCoord.Expenses.Service
import ParentalCoord.Notifications.FanOut

/-!
Who is told of an event.

The recipients are resolved from what the fan-out reads when it handles the event: the
row of the activity or of the expense, and the members of the bond.  An event carries its
actor and nothing else of these, so a row that has moved on since the event is the one
that counts.
-/

namespace ParentalCoord.Notifications

open Interleaving Activities Expenses

variable {config : Config} {event : OutboxEventEntity} {world : World} {tx : Transaction}

/-- The users who have a notification of the event among these rows. -/
def told (eventId : Uuid) (rows : List NotificationEntity) : Set Uuid :=
  {userId | ∃ row ∈ rows, row.source = some (userId, eventId)}

/-! ## What a handler adds -/

theorem told_insertNotification {input : CreateNotificationInput} {eventId : Uuid}
    (source : input.sourceEventId = some eventId) :
    told eventId (world.notifications.rows ++ (world.insertNotification tx input).2.notifications) =
      told eventId (world.notifications.rows ++ tx.notifications) ∪ {input.userId} := by
  unfold World.insertNotification
  ext userId
  dsimp only
  split
  · rename_i taken
    simp only [Bool.and_eq_true, List.any_eq_true, decide_eq_true_eq] at taken
    obtain ⟨-, row, member, same⟩ := taken
    have known : input.userId ∈ told eventId (world.notifications.rows ++ tx.notifications) :=
      ⟨row, member, same.trans (by simp [NotificationEntity.source, source])⟩
    constructor
    · exact fun there => .inl there
    · rintro (there | rfl)
      · exact there
      · exact known
  · simp only [told, Set.mem_ofPred_eq, Set.mem_union, Set.mem_singleton_iff, List.mem_append,
      List.mem_singleton]
    constructor
    · rintro ⟨row, (old | old | rfl), same⟩
      · exact .inl ⟨row, .inl old, same⟩
      · exact .inl ⟨row, .inr old, same⟩
      · simp only [NotificationEntity.source, source, Option.map_some, Option.some.injEq,
          Prod.mk.injEq] at same
        exact .inr same.1.symm
    · rintro (⟨row, (old | old), same⟩ | rfl)
      · exact ⟨row, .inl old, same⟩
      · exact ⟨row, .inr (.inl old), same⟩
      · exact ⟨_, .inr (.inr rfl), by simp [NotificationEntity.source, source]⟩

/-- The recipients are told, whether or not somebody was before. -/
theorem persist_run {input : Uuid → CreateNotificationInput} {eventId : Uuid}
    (aims : ∀ userId, (input userId).userId = userId ∧ (input userId).sourceEventId = some eventId)
    (userIds : List Uuid) (tx : Transaction) (world : World) :
    ∃ created tx' generated, (persist input userIds tx).run serve world =
        (.ok (created, tx'), { world with generated := generated }) ∧
      told eventId (world.notifications.rows ++ tx'.notifications) =
        told eventId (world.notifications.rows ++ tx.notifications) ∪ {userId | userId ∈ userIds} := by
  induction userIds generalizing tx world with
  | nil => exact ⟨[], tx, world.generated, rfl, by simp⟩
  | cons userId rest ih =>
    obtain ⟨created, tx', generated, ran, more⟩ :=
      ih (world.insertNotification tx (input userId)).2 world.generate
    refine ⟨((world.insertNotification tx (input userId)).1.map (·.ref)).toList ++ created, tx',
      generated, ?_, ?_⟩
    · change ((persist input rest (world.insertNotification tx (input userId)).2).bind _).run serve
        world.generate = _
      rw [Handler.run_bind, ran]
      rfl
    · have first : told eventId (world.notifications.rows ++
          (world.insertNotification tx (input userId)).2.notifications) = _ :=
        told_insertNotification (aims userId).2
      rw [(aims userId).1] at first
      refine more.trans ?_
      rw [show world.generate.notifications = world.notifications from rfl, first, Set.union_assoc]
      congr 1
      ext other
      simp

/-- What the surroundings answer about an activity event. -/
def recipientContext (surroundings : Surroundings) (event : OutboxEventEntity)
    (activity : ActivityEntity) : RecipientContext where
  assignedTo := activity.assignedTo
  createdBy := some activity.createdBy
  actorId := actorIdOf event
  coordinatorId := surroundings.coordinators event.bondId
  memberIds := some (surroundings.members event.bondId)

/-- The fan-out tells whom the rule names, by the row of the activity as it is read. -/
theorem handleActivityEvent_run (config : Config) (tx : Transaction)
    {rule : NotificationFanOutRule} {activity : ActivityEntity}
    (resolved : resolveNotificationRule event.eventType = some rule)
    (found : world.surroundings.activities event.aggregateId = some activity)
    (alive : activity.deletedAt = none) :
    ∃ created tx' generated, (handleActivityEvent config event tx).run serve world =
        (.ok (created, tx'), { world with generated := generated }) ∧
      told event.id (world.notifications.rows ++ tx'.notifications) =
        told event.id (world.notifications.rows ++ tx.notifications) ∪
          {userId | userId ∈
            buildRecipientIds rule (recipientContext world.surroundings event activity)} := by
  have aims : ∀ userId, (activityNotification config event activity rule userId).userId = userId ∧
      (activityNotification config event activity rule userId).sourceEventId = some event.id :=
    fun _ => ⟨rfl, rfl⟩
  obtain ⟨created, tx', generated, ran, told⟩ := persist_run aims
    (buildRecipientIds rule (recipientContext world.surroundings event activity)) tx world
  refine ⟨created, tx', generated, ?_, told⟩
  have loaded : (loadActivity event.aggregateId).run serve world = (.ok (some activity), world) := by
    simp [loadActivity, perform, Handler.perform, Handler.run, serve, found, alive, Option.filter]
  rw [handleActivityEvent, resolved]
  change ((loadActivity event.aggregateId).bind _).run serve world = _
  rw [Handler.run_bind, loaded]
  simp only [alive, Option.isSome_none, Bool.false_eq_true, if_false]
  exact ran

/-- The fan-out of an expense event goes by the expense and the member list that it reads. -/
theorem handleExpenseEvent_run (tx : Transaction) {rule : ExpenseNotificationRule}
    {expense : ExpenseEntity}
    (resolved : resolveExpenseNotificationRule event.eventType = some rule)
    (found : world.surroundings.expenses event.aggregateId = some expense)
    (alive : expense.deletedAt = none) :
    ∃ created tx' generated, (handleExpenseEvent event tx).run serve world =
        (.ok (created, tx'), { world with generated := generated }) ∧
      told event.id (world.notifications.rows ++ tx'.notifications) =
        told event.id (world.notifications.rows ++ tx.notifications) ∪
          {userId | userId ∈ expenseRecipients rule expense
            (world.surroundings.members event.bondId) (actorIdOf event)} := by
  have aims : ∀ userId, (expenseNotification event expense rule userId).userId = userId ∧
      (expenseNotification event expense rule userId).sourceEventId = some event.id :=
    fun _ => ⟨rfl, rfl⟩
  obtain ⟨created, tx', generated, ran, told⟩ := persist_run aims
    (expenseRecipients rule expense (world.surroundings.members event.bondId) (actorIdOf event))
    tx world
  refine ⟨created, tx', generated, ?_, told⟩
  have read : serve (.findAliveById event.aggregateId) world = (.ok (some expense), world) := by
    simp [serve, found, alive, Option.filter]
  rw [handleExpenseEvent, resolved]
  dsimp only
  rw [Handler.bind_eq, perform, Handler.run_perform_bind_of_ok read]
  exact ran

/-- Each of those who are left of the assignee and the creator. -/
theorem mem_buildRecipientIds_assigned {rule : NotificationFanOutRule} {context : RecipientContext}
    {userId : Uuid} (slots : rule.recipients = [.assignee, .creator])
    (excludes : rule.excludeCoordinator = true) : userId ∈ buildRecipientIds rule context ↔
      (context.assignedTo = some userId ∨ context.createdBy = some userId) ∧
        context.coordinatorId ≠ some userId ∧ context.actorId ≠ some userId ∧ truthy userId := by
  rw [buildRecipientIds, mem_resolveRecipients, slots, RecipientContext.excluded, excludes]
  have candidates : some userId ∈ [RecipientSlot.assignee, .creator].flatMap context.candidates ↔
      context.assignedTo = some userId ∨ context.createdBy = some userId := by
    simp [RecipientContext.candidates, eq_comm]
  rw [candidates]
  refine and_congr_right fun _ => ⟨?_, ?_⟩
  · rintro ⟨named, kept⟩
    refine ⟨fun same => kept ?_, fun same => kept ?_, named⟩ <;> simp [same, named, Option.filter]
  · rintro ⟨coordinator, actor, named⟩
    refine ⟨named, ?_⟩
    simp [coordinator, actor]

/-! ## The notice of an assignment -/

/-- The activities of the first world are still there, each with its creator. -/
def SameCreators (first second : Activities.World) : Prop :=
  ∀ id row, first.activities.get id = some row →
    ∃ now, second.activities.get id = some now ∧ now.createdBy = row.createdBy

theorem SameCreators.refl (world : Activities.World) : SameCreators world world :=
  fun _ row found => ⟨row, found, rfl⟩

theorem SameCreators.trans {first second third : Activities.World}
    (earlier : SameCreators first second) (later : SameCreators second third) :
    SameCreators first third := by
  intro id row found
  obtain ⟨between, there, same⟩ := earlier id row found
  obtain ⟨now, here, kept⟩ := later id between there
  exact ⟨now, here, kept.trans same⟩

theorem sameCreators_serve (query : Activities.Call) (world : Activities.World) :
    SameCreators world (Activities.serve query world).2 := by
  cases query with
  | applyTransition input =>
    rcases applyTransition_cases input world with missed | ⟨row, found, -, -, -, applied⟩
    · simp only [Activities.serve, missed]
      exact .refl world
    · simp only [Activities.serve, applied]
      intro id old there
      have own : (input.saved row).id = row.id := rfl
      rw [Store.Table.get_put, own, Store.Table.key_of_get found]
      by_cases same : id = input.id
      · subst same
        cases there.symm.trans found
        exact ⟨input.saved row, by simp [found], rfl⟩
      · exact ⟨old, by simp [same, there], rfl⟩
  | insertActivity input childrenIds =>
    simp only [Activities.serve, insertActivity]
    split
    · exact .refl world
    · rename_i activities accepted
      intro id old there
      obtain ⟨free, added⟩ := Store.Table.get_insert accepted
      refine ⟨old, ?_, rfl⟩
      rw [added, if_neg]
      · exact there
      · rintro rfl
        cases free.symm.trans there
  | _ => exact .refl world

theorem sameCreators_nudge (how : Activities.Nudge) (world : Activities.World) :
    SameCreators world (Activities.nudge how world) := by
  have unwritten : (Activities.nudge how world).activities = world.activities := by
    cases how with
    | settle index =>
      unfold Activities.nudge
      dsimp only
      split
      · exact (settle_unwritten _ _).1.1
      · rfl
    | _ => rfl
  intro id row found
  exact ⟨row, by rw [unwritten, found], rfl⟩

/-- The fan-out over the activities as they are. -/
def facing (world : World) (activities : Activities.World) : World :=
  { world with surroundings :=
      { world.surroundings with activities := activities.activities.get } }

/-- The assignee and the creator, without the coordinator and without the actor. -/
def entitled (assignedTo : Option Uuid) (createdBy : Uuid) (coordinatorId actorId : Option Uuid) :
    Set Uuid :=
  {userId | (assignedTo = some userId ∨ createdBy = userId) ∧ coordinatorId ≠ some userId ∧
    actorId ≠ some userId ∧ truthy userId}

/-- What the transaction of the fan-out adds to those who are told of the event. -/
def Tells (config : Config) (event : OutboxEventEntity) (world : World) (users : Set Uuid) : Prop :=
  ∃ created tx after, (handleOutboxEvent config event {}).run serve world =
      (.ok (created, tx), after) ∧
    told event.id (world.notifications.rows ++ tx.notifications) =
      told event.id world.notifications.rows ∪ users

section Assignment

variable {rules : Activities.Config} {cfg cfg' : Interleaving.Config (activities rules)} {id : Uuid}
  {row now : ActivityEntity}

theorem tells_assigned (kind : event.eventType = ACTIVITY_EVENT.ASSIGNED)
    (type : event.aggregateType = .activity) (enabled : isFanOutEnabled config = true)
    (found : world.surroundings.activities event.aggregateId = some now)
    (alive : now.deletedAt = none) :
    Tells config event world (entitled now.assignedTo now.createdBy
      (world.surroundings.coordinators event.bondId) (actorIdOf event)) := by
  obtain ⟨rule, resolved, slots, excludes⟩ : ∃ rule, resolveNotificationRule event.eventType =
      some rule ∧ rule.recipients = [.assignee, .creator] ∧ rule.excludeCoordinator = true := by
    rw [kind]
    exact ⟨_, rfl, rfl, rfl⟩
  obtain ⟨created, tx, generated, ran, more⟩ :=
    handleActivityEvent_run config {} resolved found alive
  refine ⟨created, tx, { world with generated := generated }, ?_, ?_⟩
  · rw [handleOutboxEvent, enabled, type]
    exact ran
  · rw [more, List.append_nil]
    congr 1
    ext userId
    refine (mem_buildRecipientIds_assigned slots excludes).trans ?_
    simp [entitled, recipientContext]

/-- In every run, whenever the event of an assignment is dispatched, the notice goes to
the assignee of the row as it is read, which is that of the event or of a later version,
and to the creator, without the coordinator and the actor.  So as long as the assignee is
the one of the event, it is the one who is told. -/
theorem assigned_notice (reachable : Reachable (activities rules) cfg)
    (found : cfg.world.activities.get id = some row)
    (member : event.toInsertOutboxEventInput ∈ eventsOf .activity id cfg.world.outbox)
    (kind : event.eventType = ACTIVITY_EVENT.ASSIGNED)
    (onward : Onward (activities rules) (fun _ _ => True) cfg cfg')
    (enabled : isFanOutEnabled config = true) :
    ∃ now, cfg'.world.activities.get id = some now ∧ row.version ≤ now.version ∧
      (now.version = row.version → now = row) ∧
      (now.deletedAt = none → Tells config event (facing world cfg'.world)
        (entitled now.assignedTo row.createdBy (world.surroundings.coordinators event.bondId)
          (actorIdOf event))) := by
  have supplied : (discipline rules False).Supplies fun _ _ => True :=
    Discipline.supplies_of_assumes fun _ _ _ => False.elim
  have later : Activities.Later cfg.world cfg'.world :=
    reachable.relied (discipline_sound rules False) supplied onward
  have creators : SameCreators cfg.world cfg'.world :=
    onward.related .refl (fun _ _ _ => .trans) sameCreators_nudge sameCreators_serve
  obtain ⟨now, there, moved⟩ := later.rows id row found
  obtain ⟨found', here, creator⟩ := creators id row found
  obtain rfl : now = found' := Option.some.inj (there.symm.trans here)
  refine ⟨now, there, ?_, later.same found there, fun alive => ?_⟩
  · rcases moved with rfl | newer
    · exact le_rfl
    · exact newer.le
  · obtain ⟨-, type, own⟩ := mem_eventsOf.mp member
    rw [← creator]
    refine tells_assigned kind type enabled ?_ alive
    rw [own]
    exact there

end Assignment

/-- `u1` creates an activity and assigns it to `u2`. -/
def assignment : List (Move (activities Activities.defaults)) :=
  Activities.creation ++ [.arrive (.assign "a1" "u1" (some (some "u2")))] ++ Activities.turns 1 8

/-- `u2` declines, and `u1` reassigns the activity to `u3`. -/
def reassignment : List (Move (activities Activities.defaults)) :=
  [.arrive (.declineAssignment "a1" "u2" (some (.str "No puedo")))] ++ Activities.turns 2 8 ++
    [.arrive (.reassign "a1" "u1" (some (some "u3")))] ++ Activities.turns 3 8

def defaults : Config := { formatActivityDateTime := toISOString }

/-- The users that the transaction of the fan-out inserts a notification for. -/
def notified (event : OutboxEventEntity) (activities : Activities.World) : List Uuid :=
  match ((handleOutboxEvent defaults event {}).run serve (facing start activities)).1 with
  | .ok (_, tx) => tx.notifications.map (·.userId)
  | .error _ => []

/-- The row of an event as the outbox holds it. -/
def queued (event : InsertOutboxEventInput) : OutboxEventEntity := ⟨event, "e1", 0, none⟩

/-- The assignment is dispatched before anything else happens. -/
theorem assigned_notice_at_once : ∃ cfg : Interleaving.Config (activities Activities.defaults),
    Reachable (activities Activities.defaults) cfg ∧ ∃ event : OutboxEventEntity,
      event.toInsertOutboxEventInput ∈ eventsOf .activity "a1" cfg.world.outbox ∧
      Tells defaults event (facing start cfg.world) (entitled (some "u2") "u1" none (actorIdOf event)) := by
  obtain ⟨cfg, run, shown⟩ := exists_played (fun _ _ => True) assignment
    (fun cfg => (cfg.world.activities.get "a1").any fun row =>
      (row.assignedTo = some "u2" ∧ row.createdBy = "u1" ∧ row.deletedAt = none) &&
      (eventsOf .activity "a1" cfg.world.outbox).any fun event =>
        event.eventType = ACTIVITY_EVENT.ASSIGNED) (by decide +kernel)
  obtain ⟨row, found, shown⟩ := (Option.any_eq_true _ _).mp shown
  obtain ⟨columns, shown⟩ := Bool.and_eq_true_iff.mp shown
  obtain ⟨event, member, kind⟩ := List.any_eq_true.mp shown
  rw [decide_eq_true_eq] at columns kind
  obtain ⟨now, there, -, -, tells⟩ := @assigned_notice defaults (queued event) start _ cfg cfg "a1"
    row run found member kind .here rfl
  obtain rfl : row = now := Option.some.inj (found.symm.trans there)
  have told := tells columns.2.2
  rw [columns.1, columns.2.1] at told
  exact ⟨cfg, run, queued event, member, told⟩

/-- By the time the assignment to `u2` is dispatched the activity is assigned to `u3`,
who is told instead. -/
theorem notice_to_later_assignee :
    ¬∀ (cfg cfg' : Interleaving.Config (activities Activities.defaults)) (id : Uuid)
      (row : ActivityEntity) (event : OutboxEventEntity),
      Reachable (activities Activities.defaults) cfg → cfg.world.activities.get id = some row →
      event.toInsertOutboxEventInput ∈ eventsOf .activity id cfg.world.outbox →
      event.aggregateVersion = row.version → event.eventType = ACTIVITY_EVENT.ASSIGNED →
      Onward (activities Activities.defaults) (fun _ _ => True) cfg cfg' →
      (∀ now, cfg'.world.activities.get id = some now → now.deletedAt = none) →
      Tells defaults event (facing start cfg'.world)
        (entitled row.assignedTo row.createdBy none (actorIdOf event)) := by
  intro always
  obtain ⟨cfg, run, shown⟩ := exists_played (fun _ _ => True) assignment
    (fun cfg => (cfg.world.activities.get "a1").any fun row =>
      (row.version = 2 ∧ row.assignedTo = some "u2") &&
      (eventsOf .activity "a1" cfg.world.outbox).any fun event =>
        (event.aggregateVersion = 2 ∧ event.eventType = ACTIVITY_EVENT.ASSIGNED ∧
          actorIdOf (queued event) = some "u1") &&
        (play (fun _ _ => True) reassignment cfg).any fun last =>
          ((last.world.activities.get "a1").all fun now => now.deletedAt = none) &&
          notified (queued event) last.world = ["u3"]) (by decide +kernel)
  obtain ⟨row, found, shown⟩ := (Option.any_eq_true _ _).mp shown
  obtain ⟨fresh, shown⟩ := Bool.and_eq_true_iff.mp shown
  obtain ⟨event, member, shown⟩ := List.any_eq_true.mp shown
  obtain ⟨facts, shown⟩ := Bool.and_eq_true_iff.mp shown
  obtain ⟨last, ends, shown⟩ := (Option.any_eq_true _ _).mp shown
  obtain ⟨alive, instead⟩ := Bool.and_eq_true_iff.mp shown
  rw [decide_eq_true_eq] at fresh facts instead
  obtain ⟨created, tx, after, ran, told⟩ := always cfg last "a1" row (queued event) run found member
    (facts.1.trans fresh.1.symm) facts.2.1 (Onward.here.play ends) fun now there => by
      simpa [there] using alive
  unfold notified at instead
  rw [ran] at instead
  change tx.notifications.map (·.userId) = ["u3"] at instead
  have owed : "u2" ∈ entitled row.assignedTo row.createdBy none (actorIdOf (queued event)) := by
    refine ⟨.inl fresh.2, by simp, ?_, by decide⟩
    rw [facts.2.2]
    simp
  have among : "u2" ∈ Notifications.told (queued event).id
      ((facing start last.world).notifications.rows ++ tx.notifications) := told ▸ .inr owed
  obtain ⟨notice, inserted, source⟩ := among
  simp only [NotificationEntity.source, Option.map_eq_some_iff, Prod.mk.injEq] at source
  obtain ⟨-, -, user, -⟩ := source
  have listed : notice.userId ∈ tx.notifications.map (·.userId) := List.mem_map_of_mem inserted
  rw [instead, user] at listed
  simp at listed

end ParentalCoord.Notifications

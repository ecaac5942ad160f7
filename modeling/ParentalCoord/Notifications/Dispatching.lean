import ParentalCoord.Interleaving.Chronicle
import ParentalCoord.Interleaving.Discipline
import ParentalCoord.Notifications.Recipients

/-!
What any number of passes of the relay leave of an event.

Two passes may read the same pending event, and each of them runs a transaction of its
own.  The constraints of the database let one of them create a row, and whoever has
created it publishes it; the mark on the event comes with the rows of the same
transaction.
-/

namespace ParentalCoord.Notifications

open Interleaving Store Activities Expenses Webhooks

variable {config : Config} {world after : World} {tx : Transaction}

/-! ## What a dispatch has read -/

/-- The call was answered so, the last time it was made. -/
def Read (past : List (Event (relaying config))) (query : Call) (answer : interface.Answer query) :
    Prop := ∃ newer before after older, past = newer ++ ⟨before, query, .ok answer, after⟩ :: older ∧
  ∀ event ∈ newer, event.query ≠ query

/-- The activity was read, deleted ones included. -/
def Loaded (past : List (Event (relaying config))) (activityId : Uuid)
    (found : Option ActivityEntity) : Prop :=
  (found.isSome ∧ Read past (.findById activityId) found) ∨
    Read past (.findById activityId) none ∧ Read past (.findByIdIncludingDeleted activityId) found

/-- The subscriptions that an event goes to, by what was read. -/
inductive Matched (event : OutboxEventEntity) (past : List (Event (relaying config))) :
    List Uuid → Prop where
  | activity {subscriptions : List WebhookSubscriptionEntity} :
      event.aggregateType = .activity → Read past (.findActiveByBond event.bondId) subscriptions →
      Matched event past ((selectMatchedSubscriptions subscriptions event.eventType).map (·.id))
  | expense : event.aggregateType ≠ .activity → Matched event past []

/-- The recipients of an event, by what was read. -/
inductive Resolved (config : Config) (event : OutboxEventEntity)
    (past : List (Event (relaying config))) : List Uuid → Prop where
  | disabled : isFanOutEnabled config = false → Resolved config event past []
  | unruledActivity : event.aggregateType = .activity →
      resolveNotificationRule event.eventType = none → Resolved config event past []
  | noActivity {found : Option ActivityEntity} : event.aggregateType = .activity →
      Loaded past event.aggregateId found → (∀ activity, found = some activity →
        activity.deletedAt.isSome) → Resolved config event past []
  | activity {rule : NotificationFanOutRule} {activity : ActivityEntity} {coordinator : Option Uuid}
      {memberIds : List Uuid} : event.aggregateType = .activity →
      resolveNotificationRule event.eventType = some rule →
      Loaded past event.aggregateId (some activity) → activity.deletedAt = none →
      Read past (.findCoordinator event.bondId) coordinator →
      Read past (.findActiveMemberIds event.bondId) memberIds →
      Resolved config event past (buildRecipientIds rule
        { assignedTo := activity.assignedTo
          createdBy := some activity.createdBy
          actorId := actorIdOf event
          coordinatorId := coordinator
          memberIds := some memberIds })
  | unruledExpense : event.aggregateType = .expense →
      resolveExpenseNotificationRule event.eventType = none → Resolved config event past []
  | noExpense : event.aggregateType = .expense →
      Read past (.findAliveById event.aggregateId) none → Resolved config event past []
  | expense {rule : ExpenseNotificationRule} {expense : ExpenseEntity} {memberIds : List Uuid} :
      event.aggregateType = .expense →
      resolveExpenseNotificationRule event.eventType = some rule →
      Read past (.findAliveById event.aggregateId) (some expense) →
      Read past (.findActiveMemberIds event.bondId) memberIds →
      Resolved config event past (expenseRecipients rule expense memberIds (actorIdOf event))

/-- The row of an event, whatever its mark. -/
def Holds (world : World) (event : OutboxEventEntity) : Prop :=
  ∃ row, world.outbox.get event.id = some row ∧ { row with dispatchedAt := event.dispatchedAt } = event

/-- A commit has left a delivery for each subscription that the event goes to, and told each
of its recipients. -/
def Dispatched (config : Config) (past : List (Event (relaying config))) (before after : World)
    (id : Uuid) : Prop :=
  ∃ event subscriptionIds recipients, event.id = id ∧ Holds before event ∧
    Matched event past subscriptionIds ∧ Resolved config event past recipients ∧
    (∀ subscriptionId ∈ subscriptionIds, (after.deliveries.get (id, subscriptionId)).isSome) ∧
    ∀ userId ∈ recipients, userId ∈ told id after.notifications.rows

/-! ## What a commit writes -/

theorem rows_insert_notification {table added : NotificationTable} {row : NotificationEntity}
    (accepted : table.insert row = some added) : added.rows = table.rows ++ [row] := by
  unfold NotificationTable.insert at accepted
  obtain ⟨plain, fits, kept⟩ := Option.bind_eq_some_iff.mp accepted
  split at kept
  · cases kept
    exact Table.rows_insert fits
  · cases kept

theorem rows_of_notified {rows : List NotificationEntity} {table added : NotificationTable}
    (inserted : rows.foldlM NotificationTable.insert table = some added) :
    added.rows = table.rows ++ rows := by
  induction rows generalizing table with
  | nil =>
    cases inserted
    exact (List.append_nil _).symm
  | cons row rest ih =>
    obtain ⟨next, accepted, more⟩ := Option.bind_eq_some_iff.mp inserted
    rw [ih more, rows_insert_notification accepted, List.append_assoc]
    rfl

theorem get_markRow {outbox : Table OutboxEventEntity.id} {mark : Uuid × Instant} {id : Uuid} :
    (markRow outbox mark).get id = if id = mark.1 then
      (outbox.get id).map fun row => { row with dispatchedAt := some mark.2 } else outbox.get id := by
  unfold markRow
  cases found : outbox.get mark.1 with
  | none =>
    dsimp only
    split
    · rename_i same
      rw [same, found, Option.map_none]
    · rfl
  | some row =>
    dsimp only
    have own : row.id = mark.1 := Table.key_of_get found
    rw [Table.get_put]
    dsimp only
    rw [own]
    split
    · rename_i same
      rw [same, found, Option.map_some, Option.map_some, own]
    · rfl

/-- A row is as it was, but for its mark, and the mark is as it was or one of the new ones. -/
theorem get_marked {marks : List (Uuid × Instant)} {outbox : Table OutboxEventEntity.id} {id : Uuid} :
    (∀ row, outbox.get id = some row → ∃ now, (marks.foldl markRow outbox).get id = some now ∧
      { now with dispatchedAt := row.dispatchedAt } = row) ∧
    ∀ now, (marks.foldl markRow outbox).get id = some now → ∀ at_, now.dispatchedAt = some at_ →
      (∃ row, outbox.get id = some row ∧ row.dispatchedAt = some at_) ∨ (id, at_) ∈ marks := by
  induction marks generalizing outbox with
  | nil => exact ⟨fun row found => ⟨row, found, rfl⟩, fun now found at_ set => .inl ⟨now, found, set⟩⟩
  | cons mark rest ih =>
    obtain ⟨kept, marked⟩ := @ih (markRow outbox mark)
    constructor
    · intro row found
      obtain ⟨next, there, same⟩ : ∃ next, (markRow outbox mark).get id = some next ∧
          { next with dispatchedAt := row.dispatchedAt } = row := by
        rw [get_markRow, found]
        split
        · exact ⟨_, rfl, rfl⟩
        · exact ⟨row, rfl, rfl⟩
      obtain ⟨now, here, again⟩ := kept next there
      refine ⟨now, here, ?_⟩
      rw [← same, ← again]
    · intro now found at_ set
      rcases marked now found at_ set with ⟨row, there, earlier⟩ | new
      · rw [get_markRow] at there
        split at there
        · rename_i same
          obtain ⟨old, -, rfl⟩ := Option.map_eq_some_iff.mp there
          cases earlier
          rw [same]
          exact .inr List.mem_cons_self
        · exact .inl ⟨row, there, earlier⟩
      · exact .inr (List.mem_cons_of_mem _ new)

/-- A commit adds the rows of its transaction and marks its events. -/
theorem commit_eq (committed : world.commit tx = some after) :
    after.deliveries.rows = world.deliveries.rows ++ tx.deliveries ∧
    after.notifications.rows = world.notifications.rows ++ tx.notifications ∧
    after.outbox = tx.dispatched.foldl markRow world.outbox ∧ after.frames = world.frames := by
  obtain ⟨deliveries, inserted, committed⟩ := Option.bind_eq_some_iff.mp committed
  obtain ⟨notifications, notified, same⟩ := Option.bind_eq_some_iff.mp committed
  cases same
  exact ⟨Table.rows_of_inserted inserted, rows_of_notified notified, rfl, rfl⟩

/-- What one world has, a later one has. -/
structure Grown (before after : World) : Prop where
  events : ∀ event, Holds before event → Holds after event
  deliveries : ∀ row ∈ before.deliveries.rows, row ∈ after.deliveries.rows
  notifications : ∀ row ∈ before.notifications.rows, row ∈ after.notifications.rows

theorem Grown.refl (world : World) : Grown world world :=
  ⟨fun _ holds => holds, fun _ member => member, fun _ member => member⟩

theorem Grown.trans {first second third : World} (earlier : Grown first second)
    (later : Grown second third) : Grown first third :=
  ⟨fun event holds => later.events event (earlier.events event holds),
    fun row member => later.deliveries row (earlier.deliveries row member),
    fun row member => later.notifications row (earlier.notifications row member)⟩

theorem grown_commit (committed : world.commit tx = some after) : Grown world after := by
  obtain ⟨deliveries, notifications, outbox, -⟩ := commit_eq committed
  refine ⟨fun event holds => ?_, fun row member => ?_, fun row member => ?_⟩
  · obtain ⟨row, found, same⟩ := holds
    obtain ⟨now, there, again⟩ := (@get_marked tx.dispatched world.outbox event.id).1 row found
    refine ⟨now, outbox ▸ there, ?_⟩
    rw [← same, ← again]
  · exact deliveries ▸ List.mem_append_left _ member
  · exact notifications ▸ List.mem_append_left _ member

theorem grown_serve (query : Call) (world : World) : Grown world (serve query world).2 := by
  cases query with
  | commit tx =>
    simp only [serve]
    split
    · exact .refl world
    · rename_i committed
      exact grown_commit committed
  | _ => exact ⟨fun _ holds => holds, fun _ member => member, fun _ member => member⟩

theorem grown_nudge (how : Nudge) (world : World) : Grown world (nudge how world) := by
  cases how with
  | produce id input =>
    refine ⟨fun event holds => ?_, fun _ member => member, fun _ member => member⟩
    obtain ⟨row, found, same⟩ := holds
    refine ⟨row, ?_, same⟩
    simp only [nudge]
    generalize inserted : world.outbox.insert _ = added
    cases added with
    | none => exact found
    | some added =>
      obtain ⟨free, rows⟩ := Table.get_insert inserted
      rw [Option.getD_some, rows, if_neg]
      · exact found
      · intro taken
        rw [taken, free] at found
        cases found
  | notify row =>
    refine ⟨fun _ holds => holds, fun _ member => member, fun old member => ?_⟩
    simp only [nudge]
    generalize inserted : world.notifications.insert _ = added
    cases added with
    | none => exact member
    | some added =>
      rw [Option.getD_some, rows_insert_notification inserted]
      exact List.mem_append_left _ member
  | _ => exact ⟨fun _ holds => holds, fun _ member => member, fun _ member => member⟩

/-! ## What a pass owes -/

/-- The notifications that a pass has created, and has not tried to publish yet. -/
def leftOf : List (Event (relaying config)) → List CreatedNotificationRef
  | [] => []
  | ⟨_, .commit tx, .ok _, _⟩ :: _ => tx.notifications.map (·.ref)
  | ⟨_, .publishNotificationCreated notification, _, _⟩ :: past => (leftOf past).erase notification
  | _ :: past => leftOf past

/-- A commit has seen to the events that it marks, and what is published was created. -/
def Owed (config : Config) (past : List (Event (relaying config))) :
    Event (relaying config) → Prop
  | ⟨before, .commit tx, _, after⟩ => before.commit tx = some after →
      ∀ id at_, (id, at_) ∈ tx.dispatched → Dispatched config past before after id
  | ⟨_, .publishNotificationCreated notification, _, _⟩ => notification ∈ leftOf past
  | _ => True

/-- Deliveries are of activity events. -/
def Owned (world : World) : Prop :=
  ∀ row ∈ world.deliveries.rows, ∃ event, Holds world event ∧ event.id = row.eventId ∧
    event.aggregateType = .activity

def dispatching (config : Config) : Discipline (relaying config) where
  inv := Owned
  rely := Grown
  guar _ past event := Grown event.before event.after ∧ Owed config past event

/-- The calls that neither commit nor publish a notification. -/
def Call.plain : Call → Prop
  | .commit _ | .publishNotificationCreated _ => False
  | _ => True

theorem Owned.grown (owned : Owned world) (grown : Grown world after)
    (same : after.deliveries = world.deliveries) : Owned after := by
  intro row member
  rw [same] at member
  obtain ⟨event, holds, own, kind⟩ := owned row member
  exact ⟨event, grown.events event holds, own, kind⟩

section Keeping

variable {entry : ℕ} {past : List (Event (relaying config))} {α β : Type} {query : Call}
  {before : World} {answer : Except Exception (interface.Answer query)} {event : OutboxEventEntity}
  {post : Discipline.Post (relaying config) α}

theorem grown_answered (answers : Answers (relaying config) query before answer after) :
    Grown before after := by
  rcases answers.elim with ⟨-, rfl⟩ | ⟨error, -, -, rfl⟩
  · exact grown_serve query before
  · exact .refl _

theorem plain_guar (plain : query.plain) (owned : Owned before)
    (answers : Answers (relaying config) query before answer after) :
    (dispatching config).guar entry past ⟨before, query, answer, after⟩ ∧
      (dispatching config).inv after := by
  have grown := grown_answered answers
  have same : after.deliveries = before.deliveries := by
    rcases answers.elim with ⟨-, rfl⟩ | ⟨error, -, -, rfl⟩
    · cases query <;> first | exact plain.elim | rfl
    · rfl
  refine ⟨⟨grown, ?_⟩, owned.grown grown same⟩
  cases query <;> first | exact plain.elim | trivial

theorem plain_left (plain : query.plain) :
    leftOf (⟨before, query, answer, after⟩ :: past : List (Event (relaying config))) = leftOf past := by
  cases query <;> first | exact plain.elim | rfl

theorem keeps_plain {handler : Request α} (calls : handler.Calls Call.plain)
    (ends : ∀ result past, post result past) :
    (dispatching config).Keeps entry post handler past :=
  .of_calls calls (fun _ plain _ _ _ _ owned answers _ => plain_guar plain owned answers)
    fun _ _ _ => ends _ _

/-! ## What a transaction arranges -/

/-- What holds of the value a handler returns, if it returns one. -/
def Returns (holds : α → List (Event (relaying config)) → Prop) : Discipline.Post (relaying config) α
  | .ok value, later => holds value later
  | .error _, _ => True

/-- There is a delivery of the pair, or there will be with the transaction. -/
def Arranged (past : List (Event (relaying config))) (tx : Transaction) (pair : Uuid × Uuid) : Prop :=
  (∃ row ∈ tx.deliveries, pairOf row = pair) ∨
    ∃ seen ∈ past, ∃ row ∈ seen.after.deliveries.rows, pairOf row = pair

/-- The user has a notification of the event, or will have with the transaction. -/
def Informed (past : List (Event (relaying config))) (tx : Transaction) (source : Uuid × Uuid) : Prop :=
  (∃ row ∈ tx.notifications, row.source = some source) ∨
    ∃ seen ∈ past, ∃ row ∈ seen.after.notifications.rows, row.source = some source

variable {later added : List (Event (relaying config))} {tx' : Transaction}

/-- The calls of a dispatch, in the order in which it makes them. -/
def Call.stage : Call → ℕ
  | .findPending _ => 0
  | .findActiveByBond _ => 1
  | .insertOnConflictDoNothing _ _ _ => 2
  | .findById _ => 3
  | .findByIdIncludingDeleted _ => 4
  | .findAliveById _ => 5
  | .findCoordinator _ => 6
  | .findActiveMemberIds _ => 7
  | .createFromEvent _ _ => 8
  | .markDispatched _ _ => 9
  | .commit _ => 10
  | .publishNotificationCreated _ => 11
  | .addJob _ => 12
  | .publishActivityChanged _ => 13
  | .publishExpenseChanged _ => 13

/-- All of the calls are of a later stage. -/
def Beyond (stage : ℕ) (added : List (Event (relaying config))) : Prop :=
  ∀ event ∈ added, stage < event.query.stage

theorem Beyond.weaken {stage earlier : ℕ} (beyond : Beyond stage added) (order : earlier ≤ stage) :
    Beyond earlier added := fun event member => order.trans_lt (beyond event member)

theorem beyond_one {stage : ℕ} {event : Event (relaying config)} (beyond : stage < event.query.stage) :
    Beyond stage [event] := by
  intro other member
  rw [List.mem_singleton] at member
  exact member ▸ beyond

theorem Read.head {answer : interface.Answer query} :
    Read (⟨before, query, .ok answer, after⟩ :: past : List (Event (relaying config))) query answer :=
  ⟨[], before, after, past, rfl, by simp⟩

theorem Read.mono {answer : interface.Answer query} {stage : ℕ} (read : Read past query answer)
    (onward : Beyond stage added) (order : query.stage ≤ stage) : Read (added ++ past) query answer := by
  obtain ⟨newer, before, after, older, rfl, others⟩ := read
  refine ⟨added ++ newer, before, after, older, (List.append_assoc _ _ _).symm, fun event member => ?_⟩
  rcases List.mem_append.mp member with new | old
  · rintro rfl
    exact absurd (onward event new) (not_lt.mpr order)
  · exact others event old

theorem Loaded.mono {activityId : Uuid} {found : Option ActivityEntity}
    (loaded : Loaded past activityId found) (onward : Beyond 4 added) :
    Loaded (added ++ past) activityId found :=
  loaded.imp (fun read => ⟨read.1, read.2.mono onward (by decide : 3 ≤ 4)⟩)
    fun reads => ⟨reads.1.mono onward (by decide : 3 ≤ 4), reads.2.mono onward le_rfl⟩

theorem Matched.mono {subscriptionIds : List Uuid} (matched : Matched event past subscriptionIds)
    (onward : Beyond 1 added) : Matched event (added ++ past) subscriptionIds := by
  cases matched with
  | activity kind read => exact .activity kind (read.mono onward le_rfl)
  | expense kind => exact .expense kind

theorem Resolved.mono {recipients : List Uuid} (resolved : Resolved config event past recipients)
    (onward : Beyond 7 added) : Resolved config event (added ++ past) recipients := by
  have since : Beyond 4 added := onward.weaken (by decide)
  cases resolved with
  | disabled off => exact .disabled off
  | unruledActivity kind unruled => exact .unruledActivity kind unruled
  | noActivity kind loaded gone => exact .noActivity kind (loaded.mono since) gone
  | activity kind ruled loaded alive coordinator members =>
    exact .activity kind ruled (loaded.mono since) alive
      (coordinator.mono onward (by decide : 6 ≤ 7)) (members.mono onward le_rfl)
  | unruledExpense kind unruled => exact .unruledExpense kind unruled
  | noExpense kind read => exact .noExpense kind (read.mono onward (by decide : 5 ≤ 7))
  | expense kind ruled read members =>
    exact .expense kind ruled (read.mono onward (by decide : 5 ≤ 7)) (members.mono onward le_rfl)

theorem Arranged.mono {pair : Uuid × Uuid} (arranged : Arranged past tx pair) (more : past <:+ later)
    (kept : tx.deliveries ⊆ tx'.deliveries) : Arranged later tx' pair := by
  rcases arranged with ⟨row, member, same⟩ | ⟨seen, there, row⟩
  · exact .inl ⟨row, kept member, same⟩
  · exact .inr ⟨seen, more.subset there, row⟩

theorem Informed.mono {source : Uuid × Uuid} (informed : Informed past tx source)
    (more : past <:+ later) (kept : tx.notifications ⊆ tx'.notifications) : Informed later tx' source := by
  rcases informed with ⟨row, member, same⟩ | ⟨seen, there, row⟩
  · exact .inl ⟨row, kept member, same⟩
  · exact .inr ⟨seen, more.subset there, row⟩

/-- A call that neither commits nor publishes, and what comes after its answer. -/
theorem keeps_call {rest : interface.Answer query → Request β}
    {holds : β → List (Event (relaying config)) → Prop} (plain : query.plain)
    (more : ∀ before value after, Answers (relaying config) query before (.ok value) after →
      (dispatching config).Keeps entry (Returns holds) (rest value)
        (⟨before, query, .ok value, after⟩ :: past)) :
    (dispatching config).Keeps entry (Returns holds) ((perform query).bind rest) past := by
  refine Discipline.Keeps.perform_bind fun before answer after behind owned answers _ => ?_
  obtain ⟨met, holds⟩ := plain_guar plain owned answers
  refine ⟨met, holds, ?_⟩
  cases answer with
  | error error => trivial
  | ok value => exact more before value after answers

theorem keeps_last {holds : interface.Answer query → List (Event (relaying config)) → Prop}
    (plain : query.plain)
    (shows : ∀ before value after, holds value (⟨before, query, .ok value, after⟩ :: past)) :
    (dispatching config).Keeps entry (Returns holds) (perform query) past := by
  refine Discipline.Keeps.perform fun before answer after behind owned answers _ => ?_
  obtain ⟨met, holds⟩ := plain_guar plain owned answers
  refine ⟨met, holds, ?_⟩
  cases answer with
  | error error => trivial
  | ok value => exact shows before value after

/-- A part of a handler, and what comes after what it returns. -/
theorem Returns.bind {first : Request β} {rest : β → Request α}
    {holds : β → List (Event (relaying config)) → Prop}
    {finally_ : α → List (Event (relaying config)) → Prop}
    (kept : (dispatching config).Keeps entry (Returns holds) first past)
    (more : ∀ value later, past <:+ later → holds value later →
      (dispatching config).Keeps entry (Returns finally_) (rest value) later) :
    (dispatching config).Keeps entry (Returns finally_) (first.bind rest) past := by
  refine .bind (kept.suffix.mono fun result later shown => ?_)
  cases result with
  | error error => trivial
  | ok value => exact more value later shown.1 shown.2

/-- So too where the first part makes calls of later stages only. -/
theorem Returns.bind_beyond {stage : ℕ} {first : Request β} {rest : β → Request α}
    {holds : β → List (Event (relaying config)) → Prop}
    {finally_ : α → List (Event (relaying config)) → Prop}
    (kept : (dispatching config).Keeps entry (Returns holds) first past)
    (calls : first.Calls fun query : Call => stage < query.stage)
    (more : ∀ value added, Beyond stage added → holds value (added ++ past) →
      (dispatching config).Keeps entry (Returns finally_) (rest value) (added ++ past)) :
    (dispatching config).Keeps entry (Returns finally_) (first.bind rest) past := by
  refine .bind ((kept.added calls).mono fun result later shown => ?_)
  obtain ⟨added, rfl, beyond, holds⟩ := shown
  cases result with
  | error error => trivial
  | ok value => exact more value added beyond holds

/-- What the deliveries of some subscriptions have become part of. -/
structure Inserted (eventId : Uuid) (subscriptionIds : List Uuid) (tx tx' : Transaction)
    (later : List (Event (relaying config))) : Prop where
  notifications : tx'.notifications = tx.notifications
  dispatched : tx'.dispatched = tx.dispatched
  kept : tx.deliveries ⊆ tx'.deliveries
  own : ∀ row ∈ tx'.deliveries, row ∈ tx.deliveries ∨ subscriptionIds ≠ [] ∧ row.eventId = eventId
  arranged : ∀ subscriptionId ∈ subscriptionIds, Arranged later tx' (eventId, subscriptionId)

theorem inserted_of_answer {eventId subscriptionId : Uuid} {created : Bool}
    (answers : Answers (relaying config) (.insertOnConflictDoNothing tx eventId subscriptionId) before
      (.ok (created, tx')) after) :
    Inserted eventId [subscriptionId] tx tx' (⟨before, .insertOnConflictDoNothing tx eventId subscriptionId,
      .ok (created, tx'), after⟩ :: past : List (Event (relaying config))) := by
  rcases answers.elim with ⟨answered, rfl⟩ | ⟨error, -, refused, -⟩
  · have inserted : before.insertDelivery tx eventId subscriptionId = (created, tx') :=
      (Except.ok.inj answered).symm
    unfold World.insertDelivery at inserted
    split at inserted
    · rename_i taken
      cases inserted
      refine ⟨rfl, rfl, List.Subset.refl _, fun row member => .inl member, ?_⟩
      obtain ⟨row, there, same⟩ := List.any_eq_true.mp taken
      have pair : pairOf row = (eventId, subscriptionId) := of_decide_eq_true same
      simp only [List.mem_singleton, forall_eq]
      rcases List.mem_append.mp there with committed | own
      · exact .inr ⟨_, List.mem_cons_self, row, committed, pair⟩
      · exact .inl ⟨row, own, pair⟩
    · cases inserted
      refine ⟨rfl, rfl, List.subset_append_left _ _, fun row member => ?_, ?_⟩
      · rcases List.mem_append.mp member with old | new
        · exact .inl old
        · rw [List.mem_singleton] at new
          subst new
          exact .inr ⟨by simp, rfl⟩
      · simp only [List.mem_singleton, forall_eq]
        exact .inl ⟨_, List.mem_append_right _ (List.mem_singleton_self _), rfl⟩
  · cases refused

theorem insertDeliveries_calls (eventId : Uuid) (subscriptionIds : List Uuid) (tx : Transaction) :
    (insertDeliveries eventId subscriptionIds tx).Calls fun query : Call => 1 < query.stage := by
  induction subscriptionIds generalizing tx with
  | nil => trivial
  | cons subscriptionId rest ih =>
    refine .bind (Handler.calls_perform.mpr (by decide : 1 < 2)) fun ⟨created, tx⟩ => ?_
    exact .bind (ih tx) fun _ => trivial

theorem insertDeliveries_keeps {eventId : Uuid} {subscriptionIds : List Uuid} :
    (dispatching config).Keeps entry
      (Returns fun value later => Inserted eventId subscriptionIds tx value.2 later)
      (insertDeliveries eventId subscriptionIds tx) past := by
  induction subscriptionIds generalizing tx past with
  | nil => exact ⟨rfl, rfl, List.Subset.refl _, fun row member => .inl member, by simp⟩
  | cons subscriptionId rest ih =>
    refine keeps_call trivial fun before ⟨created, tx₁⟩ after answers => ?_
    refine Returns.bind ih fun ⟨enqueued, tx₂⟩ later more others => ?_
    have first := @inserted_of_answer config after tx past before tx₁ eventId subscriptionId created answers
    refine ⟨others.notifications.trans first.notifications, others.dispatched.trans first.dispatched,
      fun row member => others.kept (first.kept member), fun row member => ?_, fun other member => ?_⟩
    · rcases others.own row member with earlier | ⟨-, own⟩
      · exact (first.own row earlier).imp_right fun own => ⟨by simp, own.2⟩
      · exact .inr ⟨by simp, own⟩
    · rcases List.mem_cons.mp member with rfl | member
      · exact (first.arranged other (List.mem_singleton_self _)).mono more others.kept
      · exact others.arranged other member

/-- What the notifications of some users have become part of, and which were created. -/
structure Noticed (eventId : Uuid) (userIds : List Uuid) (tx : Transaction)
    (created : List CreatedNotificationRef) (tx' : Transaction)
    (later : List (Event (relaying config))) : Prop where
  deliveries : tx'.deliveries = tx.deliveries
  dispatched : tx'.dispatched = tx.dispatched
  kept : tx.notifications ⊆ tx'.notifications
  created : tx'.notifications.map (·.ref) = tx.notifications.map (·.ref) ++ created
  informed : ∀ userId ∈ userIds, Informed later tx' (userId, eventId)

theorem Noticed.none_ (eventId : Uuid) (tx : Transaction) (later : List (Event (relaying config))) :
    Noticed eventId [] tx [] tx later :=
  ⟨rfl, rfl, List.Subset.refl _, (List.append_nil _).symm, by simp⟩

theorem noticed_of_answer {eventId : Uuid} {input : CreateNotificationInput}
    {row : Option NotificationEntity} (source : input.sourceEventId = some eventId)
    (answers : Answers (relaying config) (.createFromEvent tx input) before (.ok (row, tx')) after) :
    Noticed eventId [input.userId] tx (row.map (·.ref)).toList tx' (⟨before, .createFromEvent tx input,
      .ok (row, tx'), after⟩ :: past : List (Event (relaying config))) := by
  rcases answers.elim with ⟨answered, rfl⟩ | ⟨error, -, refused, -⟩
  · have inserted : before.insertNotification tx input = (row, tx') := (Except.ok.inj answered).symm
    unfold World.insertNotification at inserted
    dsimp only at inserted
    split at inserted
    · rename_i taken
      cases inserted
      refine ⟨rfl, rfl, List.Subset.refl _, (List.append_nil _).symm, ?_⟩
      simp only [Bool.and_eq_true, List.any_eq_true, decide_eq_true_eq] at taken
      obtain ⟨-, other, there, same⟩ := taken
      have key : other.source = some (input.userId, eventId) :=
        same.trans (by simp [NotificationEntity.source, source])
      simp only [List.mem_singleton, forall_eq]
      rcases List.mem_append.mp there with committed | own
      · exact .inr ⟨_, List.mem_cons_self, other, committed, key⟩
      · exact .inl ⟨other, own, key⟩
    · cases inserted
      refine ⟨rfl, rfl, List.subset_append_left _ _, by simp, ?_⟩
      simp only [List.mem_singleton, forall_eq]
      exact .inl ⟨_, List.mem_append_right _ (List.mem_singleton_self _),
        by simp [NotificationEntity.source, source]⟩
  · cases refused

theorem persist_calls (input : Uuid → CreateNotificationInput) (userIds : List Uuid) (tx : Transaction) :
    (persist input userIds tx).Calls fun query : Call => 7 < query.stage := by
  induction userIds generalizing tx with
  | nil => trivial
  | cons userId rest ih =>
    refine .bind (Handler.calls_perform.mpr (by decide : 7 < 8)) fun ⟨row, tx⟩ => ?_
    exact .bind (ih tx) fun _ => trivial

theorem persist_keeps {eventId : Uuid} {input : Uuid → CreateNotificationInput} {userIds : List Uuid}
    (aims : ∀ userId, (input userId).userId = userId ∧ (input userId).sourceEventId = some eventId) :
    (dispatching config).Keeps entry
      (Returns fun value later => Noticed eventId userIds tx value.1 value.2 later)
      (persist input userIds tx) past := by
  induction userIds generalizing tx past with
  | nil => exact .none_ eventId tx past
  | cons userId rest ih =>
    refine keeps_call trivial fun before ⟨row, tx₁⟩ after answers => ?_
    refine Returns.bind ih fun ⟨created, tx₂⟩ later more others => ?_
    have first : Noticed eventId [(input userId).userId] tx (row.map (·.ref)).toList tx₁
        (⟨before, .createFromEvent tx (input userId), .ok (row, tx₁), after⟩ :: past) :=
      noticed_of_answer (aims userId).2 answers
    refine ⟨others.deliveries.trans first.deliveries, others.dispatched.trans first.dispatched,
      fun row member => others.kept (first.kept member), ?_, fun other member => ?_⟩
    · rw [others.created, first.created, List.append_assoc]
    · rcases List.mem_cons.mp member with rfl | member
      · have informed := first.informed _ (List.mem_singleton_self _)
        rw [(aims other).1] at informed
        exact informed.mono more others.kept
      · exact others.informed other member

/-- What the fan-out of an event has made of its transaction: all whom it resolved are told. -/
def Handled (config : Config) (event : OutboxEventEntity) (tx : Transaction)
    (value : List CreatedNotificationRef × Transaction) (later : List (Event (relaying config))) : Prop :=
  ∃ recipients, Resolved config event later recipients ∧
    Noticed event.id recipients tx value.1 value.2 later

/-- Nobody is to be told. -/
theorem handled_nobody (resolved : Resolved config event past []) :
    (dispatching config).Keeps entry (Returns (Handled config event tx)) (.ret ([], tx)) past :=
  ⟨[], resolved, .none_ event.id tx past⟩

theorem handled_persist {input : Uuid → CreateNotificationInput} {recipients : List Uuid}
    (resolved : Resolved config event past recipients)
    (aims : ∀ userId, (input userId).userId = userId ∧ (input userId).sourceEventId = some event.id) :
    (dispatching config).Keeps entry (Returns (Handled config event tx)) (persist input recipients tx)
      past := by
  refine ((persist_keeps aims).added (persist_calls _ _ _)).mono fun result later shown => ?_
  obtain ⟨added, rfl, beyond, noticed⟩ := shown
  cases result with
  | error error => trivial
  | ok value => exact ⟨recipients, resolved.mono beyond, noticed⟩

theorem loadActivity_keeps (activityId : Uuid) :
    (dispatching config).Keeps entry (Returns fun found later => Loaded later activityId found)
      (loadActivity activityId) past := by
  refine keeps_call trivial fun before found after answers => ?_
  cases found with
  | some activity => exact .inl ⟨rfl, .head⟩
  | none =>
    refine keeps_last trivial fun before' found after' => .inr ⟨?_, .head⟩
    exact Read.head.mono (beyond_one (by decide : 3 < 4)) le_rfl

theorem buildRecipientContext_calls (bondId : Uuid) (activity : ActivityEntity) (actorId : Option Uuid) :
    (buildRecipientContext bondId activity actorId).Calls fun query : Call => 4 < query.stage :=
  .bind (Handler.calls_perform.mpr (by decide : 4 < 6)) fun _ =>
    .bind (Handler.calls_perform.mpr (by decide : 4 < 7)) fun _ => trivial

theorem buildRecipientContext_keeps (bondId : Uuid) (activity : ActivityEntity) (actorId : Option Uuid) :
    (dispatching config).Keeps entry (Returns fun context later => ∃ coordinator memberIds,
      Read later (.findCoordinator bondId) coordinator ∧
      Read later (.findActiveMemberIds bondId) memberIds ∧
      context =
        { assignedTo := activity.assignedTo
          createdBy := some activity.createdBy
          actorId := actorId
          coordinatorId := coordinator
          memberIds := some memberIds }) (buildRecipientContext bondId activity actorId) past := by
  refine keeps_call trivial fun before coordinator after _ => ?_
  refine keeps_call trivial fun before' memberIds after' _ => ?_
  exact ⟨coordinator, memberIds, Read.head.mono (beyond_one (by decide : 6 < 7)) le_rfl, .head, rfl⟩

theorem handleActivityEvent_keeps (kind : event.aggregateType = .activity) :
    (dispatching config).Keeps entry (Returns (Handled config event tx))
      (handleActivityEvent config event tx) past := by
  unfold handleActivityEvent
  cases ruled : resolveNotificationRule event.eventType with
  | none => exact handled_nobody (.unruledActivity kind ruled)
  | some rule =>
    refine Returns.bind (loadActivity_keeps event.aggregateId) fun found later more loaded => ?_
    cases found with
    | none => exact handled_nobody (.noActivity kind loaded fun _ same => by cases same)
    | some activity =>
      dsimp only
      split
      · rename_i deleted
        refine handled_nobody (.noActivity kind loaded fun other same => ?_)
        cases same
        exact deleted
      · rename_i alive
        refine Returns.bind_beyond (buildRecipientContext_keeps event.bondId activity (actorIdOf event))
          (buildRecipientContext_calls _ _ _) fun context added beyond reads => ?_
        obtain ⟨coordinator, memberIds, coordinated, listed, rfl⟩ := reads
        have live : activity.deletedAt = none := by simpa using alive
        have aims : ∀ userId, (activityNotification config event activity rule userId).userId = userId ∧
            (activityNotification config event activity rule userId).sourceEventId = some event.id :=
          fun _ => ⟨rfl, rfl⟩
        exact handled_persist (.activity kind ruled (loaded.mono beyond) live coordinated listed) aims

theorem handleExpenseEvent_keeps (kind : event.aggregateType = .expense) :
    (dispatching config).Keeps entry (Returns (Handled config event tx)) (handleExpenseEvent event tx)
      past := by
  unfold handleExpenseEvent
  cases ruled : resolveExpenseNotificationRule event.eventType with
  | none => exact handled_nobody (.unruledExpense kind ruled)
  | some rule =>
    refine keeps_call trivial fun before found after _ => ?_
    cases found with
    | none => exact handled_nobody (.noExpense kind .head)
    | some expense =>
      refine keeps_call trivial fun before' memberIds after' _ => ?_
      exact handled_persist (.expense kind ruled (Read.head.mono (beyond_one (by decide : 5 < 7)) le_rfl)
        .head) fun _ => ⟨rfl, rfl⟩

theorem handleOutboxEvent_calls (config : Config) (event : OutboxEventEntity) (tx : Transaction) :
    (handleOutboxEvent config event tx).Calls fun query : Call => 1 < query.stage := by
  have persists (input : Uuid → CreateNotificationInput) (userIds : List Uuid) :
      (persist input userIds tx).Calls fun query : Call => 1 < query.stage :=
    (persist_calls input userIds tx).mono fun _ beyond => (by decide : 1 < 7).trans beyond
  unfold handleOutboxEvent
  split
  · trivial
  · split
    · unfold handleActivityEvent
      cases resolveNotificationRule event.eventType with
      | none => trivial
      | some rule =>
        have loads : (loadActivity event.aggregateId).Calls fun query : Call => 1 < query.stage := by
          refine .bind (Handler.calls_perform.mpr (by decide : 1 < 3)) fun found => ?_
          cases found with
          | some activity => trivial
          | none => exact Handler.calls_perform.mpr (by decide : 1 < 4)
        refine .bind loads fun found => ?_
        cases found with
        | none => trivial
        | some activity =>
          dsimp only
          split
          · trivial
          · exact .bind ((buildRecipientContext_calls _ _ _).mono fun _ beyond =>
              (by decide : 1 < 4).trans beyond) fun _ => persists _ _
    · unfold handleExpenseEvent
      cases resolveExpenseNotificationRule event.eventType with
      | none => trivial
      | some rule =>
        refine .bind (Handler.calls_perform.mpr (by decide : 1 < 5)) fun found => ?_
        cases found with
        | none => trivial
        | some expense =>
          exact .bind (Handler.calls_perform.mpr (by decide : 1 < 7)) fun _ => persists _ _

theorem handleOutboxEvent_keeps :
    (dispatching config).Keeps entry (Returns (Handled config event tx))
      (handleOutboxEvent config event tx) past := by
  unfold handleOutboxEvent
  cases enabled : isFanOutEnabled config with
  | false => exact handled_nobody (.disabled enabled)
  | true =>
    cases kind : event.aggregateType with
    | activity => exact handleActivityEvent_keeps kind
    | expense => exact handleExpenseEvent_keeps kind

/-! ## A dispatch -/

theorem matchedSubscriptions_keeps :
    (dispatching config).Keeps entry
      (Returns fun matched later => Matched event later (matched.map (·.id)))
      (matchedSubscriptions event) past := by
  unfold matchedSubscriptions
  by_cases kind : event.aggregateType = .activity
  · rw [if_pos kind]
    refine keeps_call trivial fun before subscriptions after _ => ?_
    exact .activity kind .head
  · rw [if_neg kind]
    exact .expense kind

theorem Matched.activity_of_mem {subscriptionIds : List Uuid} {subscriptionId : Uuid}
    (matched : Matched event past subscriptionIds) (member : subscriptionId ∈ subscriptionIds) :
    event.aggregateType = .activity := by
  cases matched with
  | activity kind read => exact kind
  | expense kind => cases member

/-- A transaction that has seen to all of an event. -/
structure Complete (config : Config) (event : OutboxEventEntity)
    (past : List (Event (relaying config))) (tx : Transaction) : Prop where
  known : ∃ seen ∈ past, Holds seen.after event
  own : ∀ row ∈ tx.deliveries, row.eventId = event.id ∧ event.aggregateType = .activity
  arranged : ∃ subscriptionIds, Matched event past subscriptionIds ∧
    ∀ subscriptionId ∈ subscriptionIds, Arranged past tx (event.id, subscriptionId)
  informed : ∃ recipients, Resolved config event past recipients ∧
    ∀ userId ∈ recipients, Informed past tx (userId, event.id)
  marks : ∀ mark ∈ tx.dispatched, mark.1 = event.id

theorem Complete.holds (complete : Complete config event past tx)
    (behind : (dispatching config).Behind past before) : Holds before event := by
  obtain ⟨seen, there, holds⟩ := complete.known
  exact (behind seen there).2.events event holds

theorem Complete.dispatched (complete : Complete config event past tx)
    (behind : (dispatching config).Behind past before) (committed : before.commit tx = some after) :
    ∀ id at_, (id, at_) ∈ tx.dispatched → Dispatched config past before after id := by
  intro id at_ marks
  obtain rfl : id = event.id := complete.marks _ marks
  obtain ⟨deliveries, notifications, -, -⟩ := commit_eq committed
  obtain ⟨subscriptionIds, matched, arranged⟩ := complete.arranged
  obtain ⟨recipients, resolved, informed⟩ := complete.informed
  refine ⟨event, subscriptionIds, recipients, rfl, complete.holds behind, matched, resolved,
    fun subscriptionId member => ?_, fun userId member => ?_⟩
  · have there : ∃ row ∈ after.deliveries.rows, pairOf row = (event.id, subscriptionId) := by
      rw [deliveries]
      rcases arranged subscriptionId member with ⟨row, own, same⟩ | ⟨seen, there, row, old, same⟩
      · exact ⟨row, List.mem_append_right _ own, same⟩
      · exact ⟨row, List.mem_append_left _ ((behind seen there).2.deliveries row old), same⟩
    obtain ⟨row, member, same⟩ := there
    rw [← same, Table.get_of_mem member]
    rfl
  · change ∃ row ∈ after.notifications.rows, row.source = some (userId, event.id)
    rw [notifications]
    rcases informed userId member with ⟨row, own, same⟩ | ⟨seen, there, row, old, same⟩
    · exact ⟨row, List.mem_append_right _ own, same⟩
    · exact ⟨row, List.mem_append_left _ ((behind seen there).2.notifications row old), same⟩

theorem Complete.owned (complete : Complete config event past tx)
    (behind : (dispatching config).Behind past before) (owned : Owned before)
    (committed : before.commit tx = some after) : Owned after := by
  have grown := grown_commit committed
  intro row member
  rw [(commit_eq committed).1] at member
  rcases List.mem_append.mp member with old | new
  · obtain ⟨event, holds, own, kind⟩ := owned row old
    exact ⟨event, grown.events event holds, own, kind⟩
  · obtain ⟨own, kind⟩ := complete.own row new
    exact ⟨event, grown.events event (complete.holds behind), own.symm, kind⟩

theorem commit_keeps (complete : Complete config event past tx) :
    (dispatching config).Keeps entry
      (Returns fun _ later => leftOf later = tx.notifications.map (·.ref)) (perform (.commit tx)) past := by
  refine Discipline.Keeps.perform fun before answer after behind owned answers _ => ?_
  have met : (dispatching config).guar entry past ⟨before, .commit tx, answer, after⟩ :=
    ⟨grown_answered answers, fun committed => complete.dispatched behind committed⟩
  refine ⟨met, ?_, ?_⟩
  · rcases answers.elim with ⟨-, rfl⟩ | ⟨error, -, -, rfl⟩
    · simp only [serve]
      cases committed : before.commit tx with
      | none => exact owned
      | some after => exact complete.owned behind owned committed
    · exact owned
  · cases answer with
    | error error => trivial
    | ok _ => rfl

/-- The transaction leaves to be published what it has created. -/
theorem dispatchTransaction_keeps {matched : List WebhookSubscriptionEntity}
    (known : ∃ seen ∈ past, Holds seen.after event) (matches_ : Matched event past (matched.map (·.id))) :
    (dispatching config).Keeps entry (Returns fun value later => leftOf later = value.2)
      (dispatchTransaction config event matched) past := by
  obtain ⟨seen, there, holds⟩ := known
  refine Returns.bind_beyond insertDeliveries_keeps (insertDeliveries_calls _ _ _)
    fun ⟨enqueued, tx₁⟩ first beyond inserted => ?_
  refine Returns.bind_beyond handleOutboxEvent_keeps (handleOutboxEvent_calls _ _ _)
    fun ⟨created, tx₂⟩ second further handled => ?_
  refine keeps_call trivial fun before tx₃ after answers => ?_
  obtain ⟨recipients, resolved, noticed⟩ := handled
  have marked : tx₃ = { tx₂ with dispatched := tx₂.dispatched ++ [(event.id, before.clock)] } := by
    rcases answers.elim with ⟨answered, -⟩ | ⟨error, -, refused, -⟩
    · exact Except.ok.inj answered
    · cases refused
  have unmarked : tx₂.dispatched = [] := noticed.dispatched.trans inserted.dispatched
  have onward : first ++ past <:+ second ++ (first ++ past) := List.suffix_append _ _
  have last : Beyond 8 [(⟨before, .markDispatched tx₂ event.id, .ok tx₃, after⟩ :
      Event (relaying config))] := beyond_one (by decide : 8 < 9)
  have complete : Complete config event
      (⟨before, .markDispatched tx₂ event.id, .ok tx₃, after⟩ :: (second ++ (first ++ past))) tx₃ := by
    subst marked
    refine ⟨⟨seen, ?_, holds⟩, fun row member => ?_, ⟨_,
      ((matches_.mono beyond).mono further).mono (last.weaken (by decide)),
      fun subscriptionId member => ?_⟩, ⟨recipients, resolved.mono (last.weaken (by decide)),
      fun userId member => ?_⟩, fun mark member => ?_⟩
    · exact List.mem_cons_of_mem _ (onward.subset (List.mem_append_right _ there))
    · rcases inserted.own row (noticed.deliveries ▸ member) with old | ⟨some_, own⟩
      · cases old
      · obtain ⟨subscriptionId, listed⟩ := List.exists_mem_of_ne_nil _ some_
        exact ⟨own, matches_.activity_of_mem listed⟩
    · refine (inserted.arranged subscriptionId member).mono (onward.trans (List.suffix_cons _ _)) ?_
      rw [noticed.deliveries]
      exact List.Subset.refl _
    · exact (noticed.informed userId member).mono (List.suffix_cons _ _) (List.Subset.refl _)
    · rw [unmarked, List.nil_append, List.mem_singleton] at member
      rw [member]
  refine Returns.bind (commit_keeps complete) fun _ _ _ left => ?_
  have created_ : tx₃.notifications.map (·.ref) = created := by
    rw [marked, noticed.created, inserted.notifications]
    rfl
  exact left.trans created_

/-! ## A pass -/

theorem send_plain {publish : Request Unit} (calls : publish.Calls Call.plain) :
    (send config publish).Calls Call.plain := by
  unfold send
  split
  · trivial
  · exact calls.tryCatch fun _ => trivial

theorem enqueueAll_plain (eventId : Uuid) (subscriptionIds : List Uuid) :
    (enqueueAll eventId subscriptionIds).Calls Call.plain := by
  induction subscriptionIds with
  | nil => trivial
  | cons subscriptionId rest ih =>
    exact .bind (.tryCatch (Handler.calls_perform.mpr trivial) fun _ => trivial) fun _ => ih

theorem publishChanged_plain (event : OutboxEventEntity) :
    (publishChanged config event).Calls Call.plain := by
  unfold publishChanged
  split <;> exact send_plain (Handler.calls_perform.mpr trivial)

/-- What is left to publish is published, once, whether or not Redis takes it. -/
theorem publishAll_keeps {created : List CreatedNotificationRef} (left : leftOf past = created) :
    (dispatching config).Keeps entry (fun _ _ => True) (publishAll config created) past := by
  induction created generalizing past with
  | nil => trivial
  | cons notification rest ih =>
    by_cases disabled : config.REALTIME_PUBLISH_ENABLED.getD "true" = "false"
    · have silent : ∀ created, (publishAll config created).Calls Call.plain := by
        intro created
        induction created with
        | nil => trivial
        | cons notification rest more =>
          refine .bind ?_ fun _ => more
          unfold send
          rw [if_pos disabled]
          trivial
      exact keeps_plain (silent _) fun _ _ => trivial
    · have sends : send config (perform (.publishNotificationCreated notification)) =
          (perform (.publishNotificationCreated notification)).tryCatch fun _ => .ret () := by
        unfold send
        rw [if_neg disabled]
        rfl
      refine .bind ?_
      rw [sends]
      refine .tryCatch (.perform fun before answer after behind owned answers _ => ?_)
      have same : after.deliveries = before.deliveries := by
        rcases answers.elim with ⟨-, rfl⟩ | ⟨error, -, -, rfl⟩ <;> rfl
      have mine : notification ∈ leftOf past := left ▸ List.mem_cons_self
      have further : leftOf (⟨before, .publishNotificationCreated notification, answer, after⟩ :: past :
          List (Event (relaying config))) = rest := by
        simp [leftOf, left]
      refine ⟨⟨grown_answered answers, mine⟩, owned.grown (grown_answered answers) same, ?_⟩
      cases answer <;> exact ih further

theorem dispatch_keeps (known : ∃ seen ∈ past, Holds seen.after event) :
    (dispatching config).Keeps entry (Returns fun _ _ => True) (dispatch config event) past := by
  obtain ⟨seen, there, holds⟩ := known
  refine Returns.bind matchedSubscriptions_keeps fun matched first more matches_ => ?_
  refine Returns.bind (dispatchTransaction_keeps ⟨seen, more.subset there, holds⟩ matches_)
    fun ⟨enqueued, created⟩ second further left => ?_
  refine .bind ((publishAll_keeps left).mono fun result later _ => ?_)
  cases result with
  | error error => trivial
  | ok _ =>
    refine keeps_plain (.bind (enqueueAll_plain _ _) fun _ => trivial) fun result later => ?_
    cases result <;> trivial

theorem dispatchAll_keeps {events : List OutboxEventEntity}
    (known : ∀ event ∈ events, ∃ seen ∈ past, Holds seen.after event) :
    (dispatching config).Keeps entry (fun _ _ => True) (dispatchAll config events) past := by
  induction events generalizing past with
  | nil => trivial
  | cons event rest ih =>
    have others : ∀ later, past <:+ later → (dispatching config).Keeps entry (fun _ _ => True)
        (dispatchAll config rest) later := by
      intro later more
      refine ih fun other member => ?_
      obtain ⟨seen, there, holds⟩ := known other (List.mem_cons_of_mem _ member)
      exact ⟨seen, more.subset there, holds⟩
    have counted : ∀ (dispatched : ℕ) later, past <:+ later → (dispatching config).Keeps entry
        (fun _ _ => True) ((dispatchAll config rest).bind fun others => .ret (dispatched + others)) later := by
      intro dispatched later more
      refine .bind ((others later more).mono fun result last _ => ?_)
      cases result <;> trivial
    refine .bind (.tryCatch ?_)
    refine (Discipline.Keeps.bind ?_ : (dispatching config).Keeps entry _
      ((dispatch config event).bind fun created => (publishChanged config event).bind fun _ => .ret created)
      past)
    refine (dispatch_keeps (known event List.mem_cons_self)).suffix.mono fun result later shown => ?_
    cases result with
    | error error => exact counted 0 later shown.1
    | ok created =>
      have plain : ((publishChanged config event).bind fun _ => .ret created : Request ℕ).Calls Call.plain :=
        (publishChanged_plain event).bind fun _ => trivial
      refine (keeps_plain plain fun _ _ => trivial : (dispatching config).Keeps entry (fun _ _ => True) _
        later).suffix.mono fun result last onward => ?_
      cases result with
      | error error => exact counted 0 last (shown.1.trans onward.1)
      | ok created => exact counted created last (shown.1.trans onward.1)

theorem run_keeps (limit : ℕ) :
    (dispatching config).Keeps entry (fun _ _ => True) (run config limit) past := by
  refine Discipline.Keeps.perform_bind fun before answer after behind owned answers _ => ?_
  have plain : Call.plain (.findPending limit) := trivial
  obtain ⟨met, holds⟩ := plain_guar plain owned answers
  refine ⟨met, holds, ?_⟩
  cases answer with
  | error error => trivial
  | ok pending =>
    refine dispatchAll_keeps fun event member => ⟨_, List.mem_cons_self, ?_⟩
    rcases answers.elim with ⟨answered, -⟩ | ⟨error, -, refused, -⟩
    · rw [Except.ok.inj answered] at member
      have listed : event ∈ before.outbox.rows := List.mem_of_mem_filter (List.mem_of_mem_take member)
      exact (grown_answered answers).events event ⟨event, Table.get_of_mem listed, rfl⟩
    · cases refused

end Keeping

theorem owned_nudge (owned : Owned world) (how : Nudge) : Owned (nudge how world) := by
  refine owned.grown (grown_nudge how world) ?_
  cases how <;> rfl

theorem dispatching_sound (config : Config) : (dispatching config).Sound where
  refl := .refl
  trans := .trans
  start := nofun
  nudge how world owned := ⟨owned_nudge owned how, grown_nudge how world⟩
  guar_rely _ met := met.1
  handlers limit := run_keeps limit

end ParentalCoord.Notifications

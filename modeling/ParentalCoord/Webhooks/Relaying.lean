import ParentalCoord.Store.Backlog
import ParentalCoord.Webhooks.Service

/-!
How far the relay gets while some events fail every time.

The pending events are a backlog that each pass takes the oldest of, and an event that
fails is pending as before.  The failing events that are no newer than another one share
every batch with it; when they fill a batch, it is never dispatched.
-/

namespace ParentalCoord.Webhooks

open Interleaving Store

/-- `Relay.run(limit)`. -/
def relayUpTo (limit : ℕ) : Request ℕ := do
  let pending ← perform (.findPending limit)
  dispatchAll pending

theorem relay_eq : relay = relayUpTo RELAY_BATCH_LIMIT := rfl

/-- The rows that have not been dispatched. -/
def pendingRows (outbox : Table OutboxEventEntity.id) : List OutboxEventEntity :=
  outbox.rows.filter fun event => event.dispatchedAt = none

/-- `ORDER BY created_at ASC LIMIT limit`: rows of the same time come in any order. -/
def Batch (limit : ℕ) (outbox : Table OutboxEventEntity.id) (batch : List OutboxEventEntity) : Prop :=
  ∃ order : List OutboxEventEntity, order.Perm (pendingRows outbox) ∧
    order.Pairwise (·.createdAt ≤ ·.createdAt) ∧ batch = order.take limit

/-- The calls of a pass over a batch, of whose events some fail every time. -/
def serveFailing (failing : Uuid → Bool) (batch : List OutboxEventEntity) (query : Call)
    (world : World) : Except Exception (interface.Answer query) × World :=
  match query with
  | .findPending _ => (.ok batch, world)
  | .dispatch event subscriptionIds =>
      if failing event.id then (.error .fault, world) else world.dispatch event subscriptionIds
  | query => serve query world

/-- Passes of the relay, one after the other; nothing new arrives between them, and whatever
else happens. -/
inductive Relays (limit : ℕ) (failing : Uuid → Bool) (world : World) : ℕ → World → Prop where
  | none : Relays limit failing world 0 world
  | more {count : ℕ} {between now : World} {batch : List OutboxEventEntity} :
      Relays limit failing world count between → now.outbox = between.outbox →
      Batch limit now.outbox batch →
      Relays limit failing world (count + 1) ((relayUpTo limit).run (serveFailing failing batch) now).2

variable {limit : ℕ} {failing : Uuid → Bool} {world world' : World} {event : OutboxEventEntity}
  {batch : List OutboxEventEntity}

/-! ## One event -/

theorem mem_pick {eventType : String} {taken : List Uuid × List WebhookSubscriptionEntity}
    {first subscription : WebhookSubscriptionEntity}
    (member : subscription ∈ (pick eventType taken first).2) :
    subscription ∈ taken.2 ∨ subscription = first := by
  unfold pick at member
  split at member
  · exact .inl member
  · split at member
    · exact .inl member
    · exact (List.mem_append.mp member).imp_right List.mem_singleton.mp

theorem mem_selectMatchedSubscriptions {subscriptions : List WebhookSubscriptionEntity}
    {eventType : String} {subscription : WebhookSubscriptionEntity}
    (member : subscription ∈ selectMatchedSubscriptions subscriptions eventType) :
    subscription ∈ subscriptions := by
  suffices picked : ∀ taken, subscription ∈ (subscriptions.foldl (pick eventType) taken).2 →
      subscription ∈ taken.2 ∨ subscription ∈ subscriptions from
    (picked ([], []) member).resolve_left List.not_mem_nil
  clear member
  induction subscriptions with
  | nil => exact fun taken => .inl
  | cons first rest ih =>
    intro taken member
    rcases ih _ member with before | later
    · rcases mem_pick before with old | rfl
      · exact .inl old
      · exact .inr (List.mem_cons_self ..)
    · exact .inr (List.mem_cons_of_mem _ later)

/-- The subscriptions that match are there. -/
theorem matchedSubscriptions_run (failing : Uuid → Bool) (batch : List OutboxEventEntity)
    (event : OutboxEventEntity) (world : World) :
    ∃ matched, (matchedSubscriptions event).run (serveFailing failing batch) world =
        (.ok matched, world) ∧
      ∀ subscription ∈ matched, (world.subscriptions.get subscription.id).isSome := by
  unfold matchedSubscriptions
  split
  · refine ⟨_, rfl, fun subscription member => ?_⟩
    have there := List.mem_of_mem_filter (mem_selectMatchedSubscriptions member)
    rw [Table.get_of_mem there]
    rfl
  · exact ⟨[], rfl, List.forall_mem_nil _⟩

/-- What is enqueued leaves all but the queue as it is. -/
theorem enqueueAll_run (failing : Uuid → Bool) (batch : List OutboxEventEntity) (eventId : Uuid)
    (subscriptionIds : List Uuid) (world : World) :
    ∃ queue, (enqueueAll eventId subscriptionIds).run (serveFailing failing batch) world =
      (.ok (), { world with queue := queue }) := by
  induction subscriptionIds generalizing world with
  | nil => exact ⟨world.queue, rfl⟩
  | cons subscriptionId rest ih =>
    obtain ⟨queue, ran⟩ := ih { world with
      queue := world.queue.add (deliveryJob eventId subscriptionId) }
    exact ⟨queue, ran⟩

/-- The mark that the fan-out leaves on an event. -/
def markDispatched (now : Instant) (id : Uuid) (outbox : Table OutboxEventEntity.id) :
    Table OutboxEventEntity.id :=
  match outbox.get id with
  | none => outbox
  | some row => outbox.put { row with dispatchedAt := some now }

theorem dispatch_answer {subscriptionIds : List Uuid} (event : OutboxEventEntity)
    (orphans : world.orphans event.id subscriptionIds = false) :
    ∃ (created : List Uuid) (deliveries : Table WebhookDeliveryEntity.id),
      world.dispatch event subscriptionIds = (.ok created, { world with
        deliveries := deliveries
        outbox := markDispatched world.clock event.id world.outbox }) := by
  unfold World.dispatch
  rw [if_neg (by simp [orphans])]
  exact ⟨_, _, rfl⟩

/-- An event that does not fail is marked; one that fails leaves nothing behind. -/
theorem dispatch_run (failing : Uuid → Bool) (batch : List OutboxEventEntity)
    (present : (world.outbox.get event.id).isSome) :
    if failing event.id then
      (dispatch event).run (serveFailing failing batch) world = (.error .fault, world)
    else ∃ count deliveries queue, (dispatch event).run (serveFailing failing batch) world =
      (.ok count, { world with
        deliveries := deliveries
        queue := queue
        outbox := markDispatched world.clock event.id world.outbox }) := by
  obtain ⟨matched, ran, there⟩ :=
    matchedSubscriptions_run failing batch event world
  have orphans : world.orphans event.id (matched.map WebhookSubscriptionEntity.id) = false := by
    refine List.any_eq_false.mpr fun subscriptionId member => ?_
    obtain ⟨subscription, among, rfl⟩ := List.mem_map.mp member
    simp [Option.isNone_eq_false_iff.mpr present, Option.isNone_eq_false_iff.mpr (there _ among)]
  have continued : (dispatch event).run (serveFailing failing batch) world =
      (do
        let enqueued ← perform (.dispatch event (matched.map WebhookSubscriptionEntity.id))
        enqueueAll event.id enqueued
        return enqueued.length).run (serveFailing failing batch) world := by
    rw [dispatch, Handler.bind_eq, Handler.run_bind, ran]
  rw [continued]
  split
  · rename_i fails
    apply Handler.run_perform_bind_of_error
    simp [serveFailing, fails]
  · rename_i healthy
    obtain ⟨created, deliveries, answered⟩ := dispatch_answer event orphans
    have served : serveFailing failing batch
        (.dispatch event (matched.map WebhookSubscriptionEntity.id)) world = _ :=
      (if_neg healthy).trans answered
    obtain ⟨queue, enqueued⟩ := enqueueAll_run failing batch event.id created { world with
      deliveries := deliveries
      outbox := markDispatched world.clock event.id world.outbox }
    refine ⟨created.length, deliveries, queue, ?_⟩
    rw [Handler.bind_eq, perform, Handler.run_perform_bind_of_ok served, Handler.bind_eq,
      Handler.run_bind, enqueued]
    rfl

/-! ## A pass -/

/-- The marks that a batch leaves. -/
def markAll (failing : Uuid → Bool) (now : Instant) (batch : List OutboxEventEntity)
    (outbox : Table OutboxEventEntity.id) : Table OutboxEventEntity.id :=
  batch.foldl (fun outbox event =>
    if failing event.id then outbox else markDispatched now event.id outbox) outbox

theorem get_markDispatched (now : Instant) (id other : Uuid) (outbox : Table OutboxEventEntity.id) :
    ((markDispatched now id outbox).get other).isSome = (outbox.get other).isSome := by
  unfold markDispatched
  split
  · rfl
  · rw [Table.get_put]
    split <;> simp

theorem dispatchAll_run (failing : Uuid → Bool) (batch events : List OutboxEventEntity)
    (world : World) (present : ∀ event ∈ events, (world.outbox.get event.id).isSome) :
    ((dispatchAll events).run (serveFailing failing batch) world).2.outbox =
      markAll failing world.clock events world.outbox := by
  induction events generalizing world with
  | nil => rfl
  | cons event rest ih =>
    have ran := dispatch_run failing batch (present event (List.mem_cons_self ..))
    have later : ∀ event ∈ rest, (world.outbox.get event.id).isSome := fun event member =>
      present event (List.mem_cons_of_mem _ member)
    rw [markAll, List.foldl_cons, ← markAll]
    rw [dispatchAll, Handler.bind_eq, Handler.tryCatch_eq, Handler.run_bind, Handler.run_tryCatch]
    split at ran
    · rename_i fails
      rw [ran, if_pos fails]
      exact (congrArg World.outbox (Handler.run_map_world ..)).trans (ih world later)
    · rename_i healthy
      obtain ⟨count, deliveries, queue, ran⟩ := ran
      rw [ran, if_neg healthy]
      refine (congrArg World.outbox (Handler.run_map_world ..)).trans (ih _ fun event member => ?_)
      exact (get_markDispatched ..).trans (later event member)

/-- An event that is marked is no longer pending, and nothing else changes. -/
theorem pendingRows_markDispatched (now : Instant) (id : Uuid) (outbox : Table OutboxEventEntity.id) :
    pendingRows (markDispatched now id outbox) =
      (pendingRows outbox).filter fun event => id ≠ event.id := by
  unfold markDispatched
  split
  · rename_i absent
    refine (List.filter_eq_self.mpr fun event pending => ?_).symm
    have member : event ∈ outbox.rows := List.mem_of_mem_filter pending
    rw [decide_eq_true_eq]
    rintro rfl
    rw [Table.get_of_mem member] at absent
    cases absent
  · rename_i row found
    obtain rfl : row.id = id := Table.key_of_get found
    simp only [pendingRows, Table.put, List.filter_filter]
    induction outbox.rows with
    | nil => rfl
    | cons first rest ih =>
      by_cases marked : first.id = row.id
      · simpa [marked, List.filter_cons] using ih
      · by_cases pending : first.dispatchedAt = none <;>
          simpa [marked, Ne.symm marked, pending, List.filter_cons] using ih

theorem pendingRows_markAll (now : Instant) (batch : List OutboxEventEntity)
    (outbox : Table OutboxEventEntity.id) :
    pendingRows (markAll failing now batch outbox) =
      (pendingRows outbox).filter fun event =>
        batch.all fun served => failing served.id || served.id ≠ event.id := by
  induction batch generalizing outbox with
  | nil => exact (List.filter_true _).symm
  | cons first rest ih =>
    rw [markAll, List.foldl_cons, ← markAll, ih]
    split
    · rename_i fails
      simp [fails]
    · rename_i healthy
      rw [pendingRows_markDispatched, List.filter_filter]
      refine List.filter_congr fun event _ => ?_
      simp [healthy, Bool.and_comm]

/-- A row is found by its id, and there is one of each. -/
theorem pendingRows_unique (outbox : Table OutboxEventEntity.id) :
    ((pendingRows outbox).map OutboxEventEntity.id).Nodup :=
  (List.filter_sublist.map _).nodup outbox.unique

/-- A pass marks the events of its batch that do not fail. -/
theorem relay_outbox (chosen : Batch limit world.outbox batch) :
    ((relayUpTo limit).run (serveFailing failing batch) world).2.outbox =
      markAll failing world.clock batch world.outbox := by
  obtain ⟨order, perm, -, rfl⟩ := chosen
  have ran : (relayUpTo limit).run (serveFailing failing (order.take limit)) world =
      (dispatchAll (order.take limit)).run (serveFailing failing (order.take limit)) world :=
    Handler.run_perform_bind_of_ok rfl
  rw [ran]
  apply dispatchAll_run
  intro event taken
  have pending : event ∈ pendingRows world.outbox := perm.mem_iff.mp (List.mem_of_mem_take taken)
  rw [Table.get_of_mem (List.mem_of_mem_filter pending)]
  rfl

/-- A pass serves the backlog of the pending events. -/
theorem relay_serves (chosen : Batch limit world.outbox batch) :
    Serves (·.createdAt) limit (failing ·.id) (pendingRows world.outbox)
      (pendingRows ((relayUpTo limit).run (serveFailing failing batch) world).2.outbox) := by
  rw [relay_outbox chosen, pendingRows_markAll]
  obtain ⟨order, perm, sorted, rfl⟩ := chosen
  refine ⟨order, perm, sorted, (perm.symm.filter _).trans ?_⟩
  have unique : (order.map OutboxEventEntity.id).Nodup :=
    (perm.map _).nodup_iff.mpr (pendingRows_unique _)
  rw [← List.take_append_drop limit order, List.map_append, List.nodup_append] at unique
  have parts : ∀ keep : OutboxEventEntity → Bool,
      order.filter keep = (order.take limit).filter keep ++ (order.drop limit).filter keep :=
    fun keep => by rw [← List.filter_append, List.take_append_drop]
  rw [parts]
  refine (List.Perm.of_eq ?_).append (List.Perm.of_eq ?_)
  · refine List.filter_congr fun event taken => ?_
    cases fails : failing event.id
    · refine List.all_eq_false.mpr ⟨event, taken, ?_⟩
      simp [fails]
    · refine List.all_eq_true.mpr fun served _ => ?_
      by_cases same : served.id = event.id
      · simp [same, fails]
      · simp [same]
  · refine List.filter_eq_self.mpr fun event dropped => List.all_eq_true.mpr fun served taken => ?_
    have apart : served.id ≠ event.id :=
      unique.2.2 _ (List.mem_map_of_mem taken) _ (List.mem_map_of_mem dropped)
    simp [apart]

/-- The passes serve the backlog one after the other. -/
theorem Relays.passes {count : ℕ} (relays : Relays limit failing world count world') :
    Passes (·.createdAt) limit (failing ·.id) (pendingRows world.outbox) count
      (pendingRows world'.outbox) := by
  induction relays with
  | none => exact .none
  | more _ same chosen ih => exact ih.more (same ▸ relay_serves chosen)

theorem get_markAll (failing : Uuid → Bool) (now : Instant) (batch : List OutboxEventEntity)
    (outbox : Table OutboxEventEntity.id) (id : Uuid) :
    ((markAll failing now batch outbox).get id).isSome = (outbox.get id).isSome := by
  induction batch generalizing outbox with
  | nil => rfl
  | cons event rest ih =>
    rw [markAll, List.foldl_cons, ← markAll, ih]
    split
    · rfl
    · exact get_markDispatched ..

/-- The relay removes no row. -/
theorem Relays.present {count : ℕ} (relays : Relays limit failing world count world') (id : Uuid) :
    (world'.outbox.get id).isSome = (world.outbox.get id).isSome := by
  induction relays with
  | none => rfl
  | more _ same chosen ih => rw [relay_outbox chosen, get_markAll, same, ih]

/-- There is always a batch to take. -/
theorem exists_batch (limit : ℕ) (outbox : Table OutboxEventEntity.id) :
    ∃ batch, Batch limit outbox batch := by
  let older (first second : OutboxEventEntity) : Bool := first.createdAt ≤ second.createdAt
  have sorted : ((pendingRows outbox).mergeSort older).Pairwise (older · ·) :=
    List.pairwise_mergeSort
      (fun _ _ _ => by simpa [older] using le_trans) (fun _ _ => by simpa [older] using le_total ..) _
  exact ⟨_, _, List.mergeSort_perm .., by simpa [older] using sorted, rfl⟩

/-- So the passes go on. -/
theorem exists_relays (limit : ℕ) (failing : Uuid → Bool) (world : World) (count : ℕ) :
    ∃ world', Relays limit failing world count world' := by
  induction count with
  | zero => exact ⟨world, .none⟩
  | succ count ih =>
    obtain ⟨between, relays⟩ := ih
    obtain ⟨batch, chosen⟩ := exists_batch limit between.outbox
    exact ⟨_, relays.more rfl chosen⟩

/-- An event that does not fail is dispatched as soon as the passes had room for all that
do not fail and are no newer, beside the failing ones that are no newer; and it never is when
a batch is full of failing ones that are older. -/
theorem relay_progress (limit : ℕ) (failing : Uuid → Bool) (world : World) :
    (∀ count, ∃ world', Relays limit failing world count world') ∧
      ∀ event ∈ pendingRows world.outbox, failing event.id = false →
      ∀ count world', Relays limit failing world count world' →
        (turn (·.createdAt) (failing ·.id) event (pendingRows world.outbox) ≤
            count * (limit - ahead (·.createdAt) (failing ·.id) event (pendingRows world.outbox)) →
          (world'.outbox.get event.id).any (·.dispatchedAt.isSome)) ∧
        (limit ≤ blocking (·.createdAt) (failing ·.id) event (pendingRows world.outbox) →
          event ∈ pendingRows world'.outbox) := by
  refine ⟨exists_relays limit failing world, fun event pending healthy count world' relays => ⟨?_, ?_⟩⟩
  · intro enough
    have gone := relays.passes.served healthy enough
    have there := relays.present event.id
    rw [Table.get_of_mem (List.mem_of_mem_filter pending)] at there
    obtain ⟨row, found⟩ := Option.isSome_iff_exists.mp there
    rw [found, Option.any_some, Option.isSome_iff_ne_none]
    intro open_
    have still : row ∈ pendingRows world'.outbox :=
      List.mem_filter.mpr ⟨Table.mem_of_get found, by simpa using open_⟩
    have before : row ∈ pendingRows world.outbox := relays.passes.subset still
    have same : row = event :=
      List.inj_on_of_nodup_map (pendingRows_unique _) before pending (Table.key_of_get found)
    exact gone (same ▸ still)
  · intro full
    exact (relays.passes.starved pending full).1

/-- The n-th of the events of a bond. -/
def nthEvent (index : ℕ) : OutboxEventEntity where
  aggregateType := .activity
  aggregateId := "a1"
  bondId := "b1"
  eventType := "activity.changed"
  aggregateVersion := index
  payload := []
  id := Nat.repr index
  createdAt := index
  dispatchedAt := none

/-- Two events, the first of which fails. -/
def pair : World := { start with outbox := ⟨(List.range 2).map nthEvent, by decide +kernel⟩ }

/-- A batch of events that fail, and one after them. -/
def crowded : World :=
  { start with outbox := ⟨(List.range (RELAY_BATCH_LIMIT + 1)).map nthEvent, by decide +kernel⟩ }

/-- One failing event leaves room in the batch. -/
theorem relay_progress_pair : ∃ world', Relays RELAY_BATCH_LIMIT (· ≠ "1") pair 1 world' ∧
    (world'.outbox.get "1").any (·.dispatchedAt.isSome) := by
  obtain ⟨passes, progress⟩ := relay_progress RELAY_BATCH_LIMIT (· ≠ "1") pair
  obtain ⟨world', relays⟩ := passes 1
  have pending : nthEvent 1 ∈ pendingRows pair.outbox :=
    List.mem_filter.mpr ⟨List.mem_map_of_mem (by decide), rfl⟩
  have dispatched := progress _ pending rfl 1 world' relays
  exact ⟨world', relays, dispatched.1 (by decide +kernel)⟩

/-- A batch of failing events holds up the one that is newer. -/
theorem relay_starves : ¬∀ (limit : ℕ) (failing : Uuid → Bool) (world : World),
    ∀ event ∈ pendingRows world.outbox, failing event.id = false →
      ∀ count world', Relays limit failing world count world' →
        (pendingRows world.outbox).length ≤ count * limit →
        (world'.outbox.get event.id).any (·.dispatchedAt.isSome) := by
  intro always
  obtain ⟨world', relays⟩ := exists_relays RELAY_BATCH_LIMIT (· ≠ "100") crowded 2
  have pending : nthEvent 100 ∈ pendingRows crowded.outbox :=
    List.mem_filter.mpr ⟨List.mem_map_of_mem (by decide), rfl⟩
  have dispatched := always RELAY_BATCH_LIMIT (· ≠ "100") crowded _ pending rfl 2 world' relays
    (by decide +kernel)
  have still := (relays.passes.starved pending (by decide +kernel)).1
  have there := Table.get_of_mem (List.mem_of_mem_filter still)
  rw [there] at dispatched
  cases dispatched

end ParentalCoord.Webhooks

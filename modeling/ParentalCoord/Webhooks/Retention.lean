import ParentalCoord.Webhooks.Ledger
import ParentalCoord.Webhooks.Recovery

/-!
What retention takes away.

A delivery goes with its subscription or with its event, and the events that retention
purges were dispatched so many days before the clock that it has read.  Whether their
deliveries have come to an end is not asked.
-/

namespace ParentalCoord.Webhooks

open Interleaving Store

variable {config : Config} {cfg cfg' : Interleaving.Config (webhooks config)}
  {move : Move (webhooks config)} {world : World} {id : Uuid} {row : WebhookDeliveryEntity}

/-- The foreign keys of the deliveries. -/
def Referenced (world : World) : Prop := ∀ row ∈ world.deliveries.rows,
  (world.outbox.get row.eventId).isSome ∧ (world.subscriptions.get row.subscriptionId).isSome

/-! ## The foreign keys -/

/-- The rows of the deliveries are the same, and no row that they refer to is lost. -/
theorem Referenced.of_rows {after : World} (referenced : Referenced world)
    (rows : ∀ row ∈ after.deliveries.rows, ∃ old ∈ world.deliveries.rows,
      row.eventId = old.eventId ∧ row.subscriptionId = old.subscriptionId)
    (outbox : ∀ id, (world.outbox.get id).isSome → (after.outbox.get id).isSome)
    (subscriptions : ∀ id, (world.subscriptions.get id).isSome → (after.subscriptions.get id).isSome) :
    Referenced after := by
  intro row member
  obtain ⟨old, there, event, subscription⟩ := rows row member
  obtain ⟨first, second⟩ := referenced old there
  rw [event, subscription]
  exact ⟨outbox _ first, subscriptions _ second⟩

/-- A cascade leaves no row behind that refers to nothing. -/
theorem referenced_cascade (world : World) : Referenced world.cascade := by
  intro row member
  have kept := (List.mem_filter.mp member).2
  simpa [World.cascade] using kept

theorem isSome_saveSubscription (entity : WebhookSubscriptionEntity)
    (there : (world.subscriptions.get id).isSome) :
    ((world.saveSubscription entity).subscriptions.get id).isSome := by
  unfold World.saveSubscription
  cases inserted : world.subscriptions.insert entity with
  | none => rwa [Option.getD_none, Table.isSome_get_put]
  | some added => exact Table.isSome_get_insert inserted there

theorem Referenced.of_same {after : World} (referenced : Referenced world) (same : SameTables world after) :
    Referenced after := by
  unfold Referenced
  rw [same.deliveries, same.outbox, same.subscriptions]
  exact referenced

theorem isSome_get_dispatch (event : OutboxEventEntity) (subscriptionIds : List Uuid)
    (there : (world.outbox.get id).isSome) :
    ((world.dispatch event subscriptionIds).2.outbox.get id).isSome := by
  unfold World.dispatch
  split
  · exact there
  · dsimp only
    split
    · exact there
    · rwa [Table.isSome_get_put]

theorem Referenced.dispatch (referenced : Referenced world) (event : OutboxEventEntity)
    (subscriptionIds : List Uuid) : Referenced (world.dispatch event subscriptionIds).2 := by
  have marked (id : Uuid) (there : (world.outbox.get id).isSome) :=
    isSome_get_dispatch event subscriptionIds there
  unfold World.dispatch at marked ⊢
  split
  · exact referenced
  · rename_i known
    rw [if_neg known] at marked
    intro row member
    rcases mem_insertDeliveries member with old | ⟨-, own, among, -⟩
    · obtain ⟨first, second⟩ := referenced row old
      exact ⟨marked _ first, second⟩
    · have both : ∀ id ∈ subscriptionIds, (world.outbox.get event.id).isSome ∧
          (world.subscriptions.get id).isSome := by
        simpa [World.orphans, Option.isSome_iff_ne_none] using known
      obtain ⟨first, second⟩ := both _ among
      rw [own]
      exact ⟨marked _ first, second⟩

theorem Referenced.served (referenced : Referenced world) (query : Call) :
    Referenced (serve query world).2 := by
  by_cases spares : query.sparesTables
  · exact referenced.of_same (tables_spared spares world)
  cases query with
  | updateStatus written patch =>
    simp only [serve, World.updateStatus]
    split
    · exact referenced
    · split
      · exact referenced
      · rename_i old found
        refine referenced.of_rows (fun row member => ?_) (fun _ => id) fun _ => id
        rcases Table.mem_put member with before | rfl
        · exact ⟨row, before, rfl, rfl⟩
        · exact ⟨old, Table.mem_of_get found, rfl, rfl⟩
  | saveSubscription entity =>
    exact referenced.of_rows (fun row member => ⟨row, member, rfl, rfl⟩) (fun _ => id)
      fun _ there => isSome_saveSubscription entity there
  | createSubscription entity =>
    simp only [serve, World.createSubscription]
    split
    · exact referenced
    · rename_i added inserted
      exact referenced.of_rows (fun row member => ⟨row, member, rfl, rfl⟩) (fun _ => id)
        fun _ there => Table.isSome_get_insert inserted there
  | removeSubscription removed => exact referenced_cascade _
  | dispatch event subscriptionIds => exact referenced.dispatch event subscriptionIds
  | purgeDispatchedBefore before => exact referenced_cascade _
  | _ => exact (spares trivial).elim

theorem Referenced.nudged (referenced : Referenced world) (how : Nudge) :
    Referenced (nudge how world) := by
  cases how with
  | produce eventId input =>
    refine referenced.of_rows (fun row member => ⟨row, member, rfl, rfl⟩) (fun id there => ?_) fun _ => id
    simp only [nudge]
    generalize inserted : world.outbox.insert _ = added
    cases added with
    | none => exact there
    | some added => exact Table.isSome_get_insert inserted there
  | subscribe entity =>
    exact referenced.of_rows (fun row member => ⟨row, member, rfl, rfl⟩) (fun _ => id)
      fun _ there => isSome_saveSubscription entity there
  | unsubscribe removed => exact referenced_cascade _
  | _ => exact referenced

theorem referenced (reachable : Reachable (webhooks config) cfg) : Referenced cfg.world :=
  reachable.invariant Referenced (List.forall_mem_nil _) (fun how _ held => held.nudged how)
    fun query _ held => held.served query

/-! ## What is taken away -/

/-- The move purges the events that were dispatched before an instant. -/
def Purges (cfg : Interleaving.Config (webhooks config)) (move : Move (webhooks config))
    (before : Instant) : Prop :=
  ∃ thread event rest, cfg.acts move = some (thread, event, rest) ∧
    event.query = .purgeDispatchedBefore before

/-- The move removes a subscription. -/
def Removes (cfg : Interleaving.Config (webhooks config)) (move : Move (webhooks config))
    (subscriptionId : Uuid) : Prop :=
  move = .nudge (.unsubscribe subscriptionId) ∨
    ∃ thread event rest, cfg.acts move = some (thread, event, rest) ∧
      event.query = .removeSubscription subscriptionId

/-- A purge is one of retention, by the clock that it has read. -/
theorem purges_cutoff (reachable : Reachable (webhooks config) cfg) {before : Instant}
    (purges : Purges cfg move before) :
    ∃ now, now ≤ cfg.world.clock ∧ before = cutoffOf config now := by
  obtain ⟨thread, event, rest, acts, query⟩ := purges
  have permitted := permitted_of_acts reachable acts
  rw [query] at permitted
  obtain ⟨-, now, read, same⟩ := permitted
  exact ⟨now, ledgerOf_clock reachable thread (acts_cases acts).1 now read, same⟩

theorem gone_of_cascade (gone : world.cascade.deliveries.get id = none)
    (found : world.deliveries.get id = some row) :
    world.outbox.get row.eventId = none ∨ world.subscriptions.get row.subscriptionId = none := by
  simp only [World.cascade, Table.get_filter, found, Option.filter_some] at gone
  split at gone
  · cases gone
  · rename_i lacks
    rw [Bool.and_eq_true, not_and_or] at lacks
    exact lacks.imp (by simp) (by simp)

theorem gone_of_removal (referenced : Referenced world) {removed : Uuid}
    (found : world.deliveries.get id = some row)
    (gone : (world.removeSubscription removed).deliveries.get id = none) :
    removed = row.subscriptionId := by
  obtain ⟨event, subscription⟩ := referenced row (Table.mem_of_get found)
  obtain ⟨known, there⟩ := Option.isSome_iff_exists.mp subscription
  unfold World.removeSubscription at gone
  rcases gone_of_cascade gone found with absent | absent
  · rw [absent] at event
    cases event
  · simp only [Table.get_filter, there, Option.filter_some] at absent
    have same : known.id = removed := by simpa using absent
    rw [← same, Table.key_of_get there]

theorem gone_of_purge (referenced : Referenced world) {before : Instant}
    (found : world.deliveries.get id = some row)
    (gone : (serve (.purgeDispatchedBefore before) world).2.deliveries.get id = none) :
    ∃ event, world.outbox.get row.eventId = some event ∧ purged before event = true := by
  obtain ⟨event, subscription⟩ := referenced row (Table.mem_of_get found)
  obtain ⟨known, there⟩ := Option.isSome_iff_exists.mp event
  rcases gone_of_cascade gone found with absent | absent
  · simp only [Table.get_filter, there, Option.filter_some] at absent
    exact ⟨known, there, by simpa using absent⟩
  · rw [absent] at subscription
    cases subscription

/-- A call that takes a delivery away purges its event or removes its subscription. -/
theorem gone_served (referenced : Referenced world) {query : Call}
    (found : world.deliveries.get id = some row)
    (gone : (serve query world).2.deliveries.get id = none) :
    query = .removeSubscription row.subscriptionId ∨ ∃ before event,
      query = .purgeDispatchedBefore before ∧ world.outbox.get row.eventId = some event ∧
        purged before event = true := by
  have kept {after : World} (same : after.deliveries = world.deliveries)
      (gone : after.deliveries.get id = none) : False := by
    rw [same, found] at gone
    cases gone
  by_cases spares : query.sparesTables
  · exact (kept (tables_spared spares world).deliveries gone).elim
  cases query with
  | updateStatus written patch =>
    simp only [serve, World.updateStatus] at gone
    split at gone
    · exact (kept rfl gone).elim
    · split at gone
      · exact (kept rfl gone).elim
      · have still := congrArg Option.isSome gone
        rw [Table.isSome_get_put, found] at still
        cases still
  | dispatch event subscriptionIds =>
    simp only [serve, World.dispatch] at gone
    split at gone
    · exact (kept rfl gone).elim
    · have still := Table.get_of_mem (subset_insertDeliveries event.id world.clock
        world.surroundings.uuids 0 subscriptionIds (Table.mem_of_get found))
      rw [Table.key_of_get found, gone] at still
      cases still
  | removeSubscription removed => exact .inl (congrArg _ (gone_of_removal referenced found gone))
  | purgeDispatchedBefore before =>
    obtain ⟨event, known, old⟩ := gone_of_purge referenced found gone
    exact .inr ⟨before, event, rfl, known, old⟩
  | createSubscription entity =>
    simp only [serve, World.createSubscription] at gone
    split at gone <;> exact (kept rfl gone).elim
  | saveSubscription entity => exact (kept rfl gone).elim
  | _ => exact (spares trivial).elim

/-- A call that takes an event away purges it. -/
theorem event_gone_served {query : Call} {eventId : Uuid} {event : OutboxEventEntity}
    (found : world.outbox.get eventId = some event)
    (gone : (serve query world).2.outbox.get eventId = none) :
    ∃ before, query = .purgeDispatchedBefore before ∧ purged before event = true := by
  have kept {after : World} (same : after.outbox = world.outbox)
      (gone : after.outbox.get eventId = none) : False := by
    rw [same, found] at gone
    cases gone
  by_cases spares : query.sparesTables
  · exact (kept (tables_spared spares world).outbox gone).elim
  cases query with
  | updateStatus written patch =>
    simp only [serve, World.updateStatus] at gone
    split at gone
    · exact (kept rfl gone).elim
    · split at gone <;> exact (kept rfl gone).elim
  | dispatch event subscriptionIds =>
    simp only [serve, World.dispatch] at gone
    split at gone
    · exact (kept rfl gone).elim
    · dsimp only at gone
      split at gone
      · exact (kept rfl gone).elim
      · have still := congrArg Option.isSome gone
        rw [Table.isSome_get_put, found] at still
        cases still
  | purgeDispatchedBefore before =>
    simp only [serve, World.cascade, Table.get_filter, found, Option.filter_some] at gone
    exact ⟨before, rfl, by simpa using gone⟩
  | createSubscription entity =>
    simp only [serve, World.createSubscription] at gone
    split at gone <;> exact (kept rfl gone).elim
  | saveSubscription entity => exact (kept rfl gone).elim
  | removeSubscription removed => exact (kept rfl gone).elim
  | _ => exact (spares trivial).elim

theorem isSome_nudged (how : Nudge) {eventId : Uuid} (there : (world.outbox.get eventId).isSome) :
    ((nudge how world).outbox.get eventId).isSome := by
  cases how with
  | produce id input =>
    simp only [nudge]
    generalize inserted : world.outbox.insert _ = added
    cases added with
    | none => exact there
    | some added => exact Table.isSome_get_insert inserted there
  | _ => exact there

theorem gone_nudged (referenced : Referenced world) (how : Nudge)
    (found : world.deliveries.get id = some row)
    (gone : (nudge how world).deliveries.get id = none) : how = .unsubscribe row.subscriptionId := by
  cases how with
  | unsubscribe removed => exact congrArg _ (gone_of_removal referenced found gone)
  | _ => exact nomatch found.symm.trans gone

/-! ## The period of retention -/

/-- The move purges the event, which was dispatched so many days before a clock that has
been read. -/
def Expires (cfg : Interleaving.Config (webhooks config)) (move : Move (webhooks config))
    (event : OutboxEventEntity) : Prop :=
  ∃ now, now ≤ cfg.world.clock ∧ Purges cfg move (cutoffOf config now) ∧
    ∃ dispatchedAt, event.dispatchedAt = some dispatchedAt ∧ dispatchedAt < cutoffOf config now

theorem expires_of_purged (reachable : Reachable (webhooks config) cfg) {before : Instant}
    {event : OutboxEventEntity} (purges : Purges cfg move before) (old : purged before event = true) :
    Expires cfg move event := by
  obtain ⟨now, past, rfl⟩ := purges_cutoff reachable purges
  obtain ⟨dispatchedAt, marked, earlier⟩ := (Option.any_eq_true _ _).mp old
  exact ⟨now, past, purges, dispatchedAt, marked, of_decide_eq_true earlier⟩

/-- An event disappears only by a purge, once it has been dispatched for the days of
retention, and a delivery only by such a purge of its event or with its subscription. -/
structure Retains (cfg : Interleaving.Config (webhooks config)) (move : Move (webhooks config))
    (cfg' : Interleaving.Config (webhooks config)) : Prop where
  events : ∀ eventId event, cfg.world.outbox.get eventId = some event →
    cfg'.world.outbox.get eventId = none → Expires cfg move event
  deliveries : ∀ id row, cfg.world.deliveries.get id = some row →
    cfg'.world.deliveries.get id = none → Removes cfg move row.subscriptionId ∨
      ∃ event, cfg.world.outbox.get row.eventId = some event ∧ Expires cfg move event

theorem retains_of_world (same : cfg'.world = cfg.world) : Retains cfg move cfg' := by
  constructor
  · intro eventId event found gone
    rw [same, found] at gone
    cases gone
  · intro id row found gone
    rw [same, found] at gone
    cases gone

/-- Every move of every run retains what is not old enough. -/
theorem run_retains (reachable : Reachable (webhooks config) cfg)
    (moved : advance move cfg = some cfg') : Retains cfg move cfg' := by
  have held := referenced reachable
  rcases advance_cases moved with ⟨how, rfl, rfl⟩ | ⟨entry, rfl, rfl⟩ | ⟨index, rfl, rfl⟩ |
    ⟨index, thread, event, rest, at_, acts, rfl⟩
  · constructor
    · intro eventId event found gone
      have still := isSome_nudged how (Option.isSome_of_eq_some found)
      rw [gone] at still
      cases still
    · exact fun id row found gone => .inl (.inl (congrArg _ (gone_nudged held how found gone)))
  · exact retains_of_world rfl
  · exact retains_of_world rfl
  · obtain ⟨-, query, next, answer, after, shape, rfl, rfl, answers⟩ := acts_cases acts
    rcases answers.elim with ⟨rfl, rfl⟩ | ⟨error, -, rfl, rfl⟩
    · constructor
      · intro eventId event found gone
        obtain ⟨before, rfl, old⟩ := event_gone_served found gone
        exact expires_of_purged reachable ⟨_, _, _, acts, rfl⟩ old
      · intro id row found gone
        rcases gone_served held found gone with rfl | ⟨before, event, rfl, known, old⟩
        · exact .inl (.inr ⟨_, _, _, acts, rfl⟩)
        · exact .inr ⟨event, known, expires_of_purged reachable ⟨_, _, _, acts, rfl⟩ old⟩
    · exact retains_of_world rfl

/-- No worker runs for a month, and then retention does. -/
def outage : List (Move (webhooks defaults)) :=
  fannedOut 200 ++ [.nudge (.tick 2678400000), .arrive .retention] ++ turns 1 2

/-- The purge of retention after the outage takes a delivery away. -/
theorem run_retains_outage : ∃ cfg after : Interleaving.Config (webhooks defaults),
    Reachable (webhooks defaults) cfg ∧ advance (.turn 1) cfg = some after ∧
    ∃ row ∈ cfg.world.deliveries.rows, ∃ event, cfg.world.outbox.get row.eventId = some event ∧
      after.world.outbox.get row.eventId = none ∧ Expires cfg (.turn 1) event := by
  obtain ⟨cfg, run, shown⟩ := exists_played (fun _ _ => True) outage
    (fun cfg => cfg.world.deliveries.rows.any fun row =>
      (advance (.turn 1) cfg).any fun after =>
        (cfg.world.outbox.get row.eventId).isSome && (after.world.outbox.get row.eventId).isNone)
    (by decide +kernel)
  obtain ⟨row, member, shown⟩ := List.any_eq_true.mp shown
  obtain ⟨after, moved, shown⟩ := (Option.any_eq_true _ _).mp shown
  rw [Bool.and_eq_true, Option.isSome_iff_exists, Option.isNone_iff_eq_none] at shown
  obtain ⟨⟨event, found⟩, gone⟩ := shown
  exact ⟨cfg, after, run, moved, row, member, event, found, gone,
    (run_retains run moved).events _ _ found gone⟩

/-- The delivery that the outage kept from being attempted is purged. -/
theorem pending_purged : ¬∀ (cfg cfg' : Interleaving.Config (webhooks defaults))
    (move : Move (webhooks defaults)) (row : WebhookDeliveryEntity),
    Reachable (webhooks defaults) cfg → advance move cfg = some cfg' →
    row ∈ cfg.world.deliveries.rows → (cfg.world.outbox.get row.eventId).isSome →
    cfg'.world.outbox.get row.eventId = none → row.status.terminal := by
  intro always
  obtain ⟨cfg, run, shown⟩ := exists_played (fun _ _ => True) outage
    (fun cfg => cfg.world.deliveries.rows.any fun row => row.unfinished &&
      (advance (.turn 1) cfg).any fun after =>
        (cfg.world.outbox.get row.eventId).isSome && (after.world.outbox.get row.eventId).isNone)
    (by decide +kernel)
  obtain ⟨row, member, shown⟩ := List.any_eq_true.mp shown
  obtain ⟨unfinished, shown⟩ := Bool.and_eq_true_iff.mp shown
  obtain ⟨after, moved, shown⟩ := (Option.any_eq_true _ _).mp shown
  obtain ⟨there, gone⟩ := Bool.and_eq_true_iff.mp shown
  have ended := always cfg after (.turn 1) row run moved member there (Option.isNone_iff_eq_none.mp gone)
  simp [WebhookDeliveryEntity.unfinished, ended] at unfinished

end ParentalCoord.Webhooks

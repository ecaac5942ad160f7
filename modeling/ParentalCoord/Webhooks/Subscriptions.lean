import ParentalCoord.Webhooks.Ledger

/-!
How the rows of the subscriptions change.

Only a save, a creation and a removal change a row, and a save writes all of its
columns: those that the request assigns, and the others as the request has read them.
-/

namespace ParentalCoord.Webhooks

open Interleaving Store

variable {config : Config} {cfg cfg' : Interleaving.Config (webhooks config)}
  {move : Move (webhooks config)} {world : World} {id : Uuid} {row now : WebhookSubscriptionEntity}

/-- Subscriptions are written by the requests of the service only. -/
def Serviced (move : Move (webhooks config)) : Bool :=
  match move with
  | .nudge (.subscribe _) => false
  | _ => true

/-- A call that is served saves the row. -/
def Writes (query : Call) (world : World) (id : Uuid) (row : WebhookSubscriptionEntity) : Prop :=
  (∃ entity, query = .saveSubscription entity ∧ entity.id = id ∧ row = entity) ∨
    ∃ entity, query = .createSubscription entity ∧ world.subscriptions.get id = none ∧
      (world.createSubscription entity).1 = .ok row ∧ row.id = id

theorem get_saveSubscription (entity : WebhookSubscriptionEntity) :
    (world.saveSubscription entity).subscriptions.get id =
      if id = entity.id then some entity else world.subscriptions.get id := by
  unfold World.saveSubscription
  cases inserted : world.subscriptions.insert entity with
  | none =>
    obtain ⟨old, there⟩ := Table.get_of_refused inserted
    rw [Option.getD_none, Table.get_put]
    split
    · rename_i same
      rw [same, there, Option.map_some]
    · rfl
  | some added => exact (Table.get_insert inserted).2 id

theorem subscription_removed {removed : Uuid}
    (found : (world.removeSubscription removed).subscriptions.get id = some now) :
    world.subscriptions.get id = some now := by
  simp only [World.removeSubscription, World.cascade, Table.get_filter,
    Option.filter_eq_some_iff] at found
  exact found.1

/-- A row that is there after a call was there before, or is what the call writes. -/
theorem subscription_served {query : Call}
    (found : (serve query world).2.subscriptions.get id = some now) :
    world.subscriptions.get id = some now ∨ Writes query world id now := by
  by_cases spares : query.sparesTables
  · rw [(tables_spared spares world).subscriptions] at found
    exact .inl found
  cases query with
  | purgeDispatchedBefore cutoff => exact .inl found
  | saveSubscription entity =>
    simp only [serve, get_saveSubscription] at found
    split at found
    · rename_i same
      exact .inr (.inl ⟨entity, rfl, same.symm, (Option.some.inj found).symm⟩)
    · exact .inl found
  | createSubscription entity =>
    simp only [serve, World.createSubscription] at found
    split at found
    · exact .inl found
    · rename_i added inserted
      obtain ⟨free, rows⟩ := Table.get_insert inserted
      simp only [rows] at found
      split at found
      · rename_i same
        subst same
        cases found
        refine .inr (.inr ⟨entity, rfl, free, ?_, rfl⟩)
        simp [World.createSubscription, inserted]
      · exact .inl found
  | removeSubscription removed => exact .inl (subscription_removed found)
  | updateStatus written patch =>
    simp only [serve, World.updateStatus] at found
    split at found
    · exact .inl found
    · split at found <;> exact .inl found
  | dispatch event subscriptionIds =>
    simp only [serve, World.dispatch] at found
    split at found <;> exact .inl found
  | _ => exact (spares trivial).elim

theorem subscription_nudged {how : Nudge} (serviced : Serviced (.nudge how : Move (webhooks config)))
    (found : (nudge how world).subscriptions.get id = some now) :
    world.subscriptions.get id = some now := by
  cases how with
  | subscribe entity => cases serviced
  | unsubscribe removed => exact subscription_removed found
  | _ => exact found

/-- A move saves the row. -/
def SavedBy (cfg : Interleaving.Config (webhooks config)) (move : Move (webhooks config))
    (thread : Thread (webhooks config)) (entity : WebhookSubscriptionEntity) : Prop :=
  ∃ before after rest,
    cfg.acts move = some (thread, ⟨before, .saveSubscription entity, .ok (), after⟩, rest)

/-- A move creates the row. -/
def CreatedBy (cfg : Interleaving.Config (webhooks config)) (move : Move (webhooks config))
    (thread : Thread (webhooks config)) (entity : WebhookSubscriptionEntity) : Prop :=
  ∃ before asked after rest,
    cfg.acts move = some (thread, ⟨before, .createSubscription asked, .ok entity, after⟩, rest)

theorem get_created {asked entity : WebhookSubscriptionEntity}
    (created : .ok entity = (world.createSubscription asked).1) :
    (world.createSubscription asked).2.subscriptions.get entity.id = some entity := by
  unfold World.createSubscription at created ⊢
  dsimp only at created ⊢
  split at created
  · cases created
  · rename_i inserted
    cases created
    rw [(Table.get_insert inserted).2, if_pos rfl]

theorem SavedBy.get {thread : Thread (webhooks config)} {entity : WebhookSubscriptionEntity}
    (saved : SavedBy cfg move thread entity) (moved : advance move cfg = some cfg') :
    cfg'.world.subscriptions.get entity.id = some entity := by
  obtain ⟨before, after, rest, acts⟩ := saved
  rw [(advance_of_acts moved acts).1]
  obtain ⟨-, query, next, answer, after, -, same, -, answers⟩ := acts_cases acts
  cases same
  rcases answers.elim with ⟨-, rfl⟩ | ⟨error, -, failed, -⟩
  · simp only [serve, get_saveSubscription, if_true]
  · cases failed

theorem CreatedBy.get {thread : Thread (webhooks config)} {entity : WebhookSubscriptionEntity}
    (created : CreatedBy cfg move thread entity) (moved : advance move cfg = some cfg') :
    cfg'.world.subscriptions.get entity.id = some entity := by
  obtain ⟨before, asked, after, rest, acts⟩ := created
  rw [(advance_of_acts moved acts).1]
  obtain ⟨-, query, next, answer, after, -, same, -, answers⟩ := acts_cases acts
  cases same
  rcases answers.elim with ⟨made, rfl⟩ | ⟨error, -, failed, -⟩
  · exact get_created made
  · cases failed

/-- A row that is there after a move was there before, or was saved, or created where there
was none. -/
theorem subscription_moved (serviced : cfg.acts move = none → Serviced move)
    (moved : advance move cfg = some cfg') (found : cfg'.world.subscriptions.get id = some now) :
    cfg.world.subscriptions.get id = some now ∨
      (∃ thread, SavedBy cfg move thread now ∧ now.id = id) ∨
      ∃ thread, CreatedBy cfg move thread now ∧ now.id = id ∧
        cfg.world.subscriptions.get id = none := by
  rcases advance_cases moved with ⟨how, rfl, rfl⟩ | ⟨entry, rfl, rfl⟩ | ⟨index, rfl, rfl⟩ |
    ⟨index, thread, event, rest, at_, acts, rfl⟩
  · exact .inl (subscription_nudged (serviced rfl) found)
  · exact .inl found
  · exact .inl found
  · obtain ⟨-, query, next, answer, after, shape, rfl, rfl, answers⟩ := acts_cases acts
    rcases answers.elim with ⟨rfl, rfl⟩ | ⟨error, -, rfl, rfl⟩
    · rcases subscription_served found with same | ⟨entity, rfl, rfl, rfl⟩ |
        ⟨entity, rfl, free, created, rfl⟩
      · exact .inl same
      · exact .inr (.inl ⟨thread, ⟨_, _, _, acts⟩, rfl⟩)
      · have answered : (serve (.createSubscription entity) cfg.world).1 = .ok now := created
        rw [answered] at acts
        exact .inr (.inr ⟨thread, ⟨_, _, _, _, acts⟩, rfl, free⟩)
    · exact .inl found

/-- A save is of the subscription that was read last. -/
theorem Saves.id_eq {ledger : Ledger} {base entity : WebhookSubscriptionEntity}
    (saves : Saves config ledger base entity) : entity.id = base.id := by
  cases saves <;> rfl

end ParentalCoord.Webhooks

import ParentalCoord.Webhooks.Service

/-!
What the snapshot of an activity in a body says, and when.

The state and the version are those of the event, whatever has become of the row by
the time that the body is built.  The assignee, the response deadline and the mark of
the deletion are read from the row as it is then.
-/

namespace ParentalCoord.Webhooks

open Interleaving Activities

variable {rules : Activities.Config} {cfg cfg' : Interleaving.Config (activities rules)}
  {id : Uuid} {row now : ActivityEntity} {event : OutboxEventEntity}

/-- The world of the deliveries over the activities as they are. -/
def beside (world : World) (activities : Activities.World) : World :=
  { world with surroundings :=
      { world.surroundings with activities := activities.activities.get } }

/-- The body that is built for the event has the snapshot. -/
def Sends (config : Config) (world : World) (event : OutboxEventEntity)
    (snapshot : WebhookActivitySnapshot) : Prop :=
  ∃ payload : WebhookPayload, payload.data.activity = snapshot ∧
    buildWebhookPayload (payloadInput config.WEBHOOK_API_VERSION event
      (world.surroundings.activities event.aggregateId)) = .ok payload ∧
    ((buildBody config event).run serve world).1 = .ok (.ok (jsonStringify payload.toJson))

/-- The snapshot is of the row. -/
structure Depicts (snapshot : WebhookActivitySnapshot) (row : ActivityEntity) : Prop where
  state : snapshot.state = row.status.value
  version : snapshot.version = row.version
  assigneeId : snapshot.assigneeId = row.assignedTo
  responseDeadlineAt : snapshot.responseDeadlineAt = row.deadline.map toISOString
  deleted : snapshot.deleted = row.deletedAt.isSome

/-- The snapshot has the state and the version of one row, and what may change without
an event of its own from another. -/
structure Blends (snapshot : WebhookActivitySnapshot) (row now : ActivityEntity) : Prop where
  state : snapshot.state = row.status.value
  version : snapshot.version = row.version
  assigneeId : snapshot.assigneeId = now.assignedTo
  responseDeadlineAt : snapshot.responseDeadlineAt = now.deadline.map toISOString
  deleted : snapshot.deleted = (row.deletedAt.isSome || now.deletedAt.isSome)

theorem Blends.depicts {snapshot : WebhookActivitySnapshot} (blends : Blends snapshot row row) :
    Depicts snapshot row where
  state := blends.state
  version := blends.version
  assigneeId := blends.assigneeId
  responseDeadlineAt := blends.responseDeadlineAt
  deleted := by rw [blends.deleted, Bool.or_self]

/-! ## What an event says of the row it leaves -/

/-- What an event records of the row it has left behind. -/
structure Leads (event : InsertOutboxEventInput) (row : ActivityEntity) : Prop where
  version : event.aggregateVersion = row.version
  state : event.payload.lookup "to" = some (.str row.status.value)
  deleted : isTrue (event.payload.lookup "deleted") = row.deletedAt.isSome

theorem leads_of_opens {event : InsertOutboxEventInput} (opens : Opens rules event row) :
    Leads event row := by
  obtain ⟨bondId, dto, userId, criticality, now, id⟩ := opens
  exact ⟨rfl, rfl, rfl⟩

/-- Only a live row is moved, and only a deletion marks it. -/
theorem leads_of_moves {event : InsertOutboxEventInput} {earlier : ActivityEntity}
    (moves : Moves rules event earlier row) : Leads event row := by
  refine ⟨moves.event_version.trans moves.version_eq.symm, moves.payload.2, ?_⟩
  cases moves with
  | @transition req _ rule now actorRole made live admitted =>
    cases made with
    | delete => rfl
    | _ =>
      -- The payload has no such key, and the column is left as it was.
      exact (congrArg Option.isSome live).symm

theorem leads_of_last {events : List InsertOutboxEventInput} {event : InsertOutboxEventInput}
    (history : History rules events row) (member : event ∈ events)
    (version : event.aggregateVersion = row.version) : Leads event row := by
  have numbered := (History.replaysTo history).versions
  obtain ⟨last, ends, leaves⟩ := history.last
  have led : Leads last row := by
    rcases leaves with opens | ⟨earlier, moves⟩
    · exact leads_of_opens opens
    · exact leads_of_moves moves
  have same : event = last := by
    obtain ⟨k, bound, at_⟩ := List.getElem_of_mem member
    have number : (events.map (·.aggregateVersion))[k]? = some row.version := by
      rw [List.getElem?_map, List.getElem?_eq_getElem bound, Option.map_some, at_, version]
    have size : events.length = row.version := by
      have length := congrArg List.length numbered
      simpa using length
    rw [numbered, List.getElem?_range' (by omega), Option.some.injEq] at number
    rw [List.getLast?_eq_getElem?, List.getElem?_eq_some_iff] at ends
    obtain ⟨within, ends⟩ := ends
    have index : k = events.length - 1 := by omega
    subst index
    rw [← at_, ends]
  exact same ▸ led

theorem buildWebhookPayload_activity {input : BuildWebhookPayloadInput} {payload : WebhookPayload}
    (built : buildWebhookPayload input = .ok payload) :
    payload.data.activity = buildSnapshot input := by
  unfold buildWebhookPayload at built
  simp only [] at built
  split at built
  · cases built
  · cases built
    rfl

/-- What is built is sent. -/
theorem sends_of_built {config : Config} {world : World} {payload : WebhookPayload}
    (built : buildWebhookPayload (payloadInput config.WEBHOOK_API_VERSION event
      (world.surroundings.activities event.aggregateId)) = .ok payload) :
    Sends config world event payload.data.activity := by
  refine ⟨payload, rfl, built, ?_⟩
  unfold buildBody
  simp only [Handler.tryCatch_eq, Handler.bind_eq, perform, Handler.perform, Handler.bind,
    Handler.tryCatch, Handler.run, serve, built, Handler.pure_eq]

/-- A snapshot blends the row that the event left behind and the row that is read. -/
theorem blends_of_leads {config : Config} {world : World} {snapshot : WebhookActivitySnapshot}
    (leads : Leads event.toInsertOutboxEventInput row)
    (read : world.surroundings.activities event.aggregateId = some now)
    (sends : Sends config world event snapshot) : Blends snapshot row now := by
  obtain ⟨payload, rfl, built, -⟩ := sends
  rw [read] at built
  rw [buildWebhookPayload_activity built]
  constructor
  · simp [buildSnapshot, payloadInput, leads.state, asString]
  · exact leads.version
  · rfl
  · rfl
  · simp only [buildSnapshot, payloadInput, leads.deleted, Option.bind_some]

/-- In every run, whenever an attempt of the event of a version builds a body, its
snapshot has the state and the version of the row right after that event, and the other
columns of the row as it is read: that of the event or a later version.  So as long as
no later transition has been committed it depicts the row right after the event. -/
theorem snapshot_blends (reachable : Reachable (activities rules) cfg)
    (found : cfg.world.activities.get id = some row)
    (member : event.toInsertOutboxEventInput ∈ eventsOf .activity id cfg.world.outbox)
    (version : event.aggregateVersion = row.version)
    (onward : Onward (activities rules) (fun _ _ => True) cfg cfg')
    {config : Config} {world : World} {snapshot : WebhookActivitySnapshot}
    (sends : Sends config (beside world cfg'.world) event snapshot) :
    ∃ now, cfg'.world.activities.get id = some now ∧ row.version ≤ now.version ∧
      Blends snapshot row now ∧ (now.version = row.version → Depicts snapshot row) := by
  have supplied : (discipline rules False).Supplies fun _ _ => True :=
    Discipline.supplies_of_assumes fun _ _ _ => False.elim
  have later : Activities.Later cfg.world cfg'.world :=
    reachable.relied (discipline_sound rules False) supplied onward
  obtain ⟨now, there, moved⟩ := later.rows id row found
  have own : event.aggregateId = id := (mem_eventsOf.mp member).2.2
  have leads := leads_of_last (row_history reachable found) member version
  have blends : Blends snapshot row now := by
    refine blends_of_leads leads ?_ sends
    rw [own]
    exact there
  refine ⟨now, there, ?_, blends, fun same => ?_⟩
  · rcases moved with rfl | newer
    · exact le_rfl
    · exact newer.le
  · rw [later.same found there same] at blends
    exact blends.depicts

/-- Somebody assigns the activity that was created without an assignee. -/
def assigned : List (Move (activities Activities.defaults)) :=
  [.arrive (.assign "a1" "u1" (some (some "u2")))] ++ Activities.turns 1 8

/-- The body of the first event of the activity, over the row as it is. -/
def bodyOfCreation (event : InsertOutboxEventInput) (world : Activities.World) :
    Option WebhookPayload :=
  (buildWebhookPayload (payloadInput none (stored event) (world.activities.get "a1"))).toOption

theorem sends_of_bodyOfCreation {event : InsertOutboxEventInput} {world : Activities.World}
    {payload : WebhookPayload} (own : event.aggregateId = "a1")
    (built : bodyOfCreation event world = some payload) :
    Sends defaults (beside start world) (stored event) payload.data.activity := by
  apply sends_of_built
  have input : (beside start world).surroundings.activities (stored event).aggregateId =
      world.activities.get "a1" := congrArg world.activities.get own
  rw [input]
  unfold bodyOfCreation at built
  cases made : buildWebhookPayload
      (payloadInput none (stored event) (world.activities.get "a1")) with
  | error error => simp [made, Except.toOption] at built
  | ok body =>
    rw [made] at built
    cases built
    exact made

/-- The creation is attempted before anything else happens. -/
theorem snapshot_blends_created : ∃ cfg : Interleaving.Config (activities Activities.defaults),
    Reachable (activities Activities.defaults) cfg ∧ ∃ row, cfg.world.activities.get "a1" = some row ∧
      row.version = 1 ∧ ∃ (config : Config) (world : World) (event : OutboxEventEntity)
        (snapshot : WebhookActivitySnapshot), Sends config (beside world cfg.world) event snapshot ∧
          Depicts snapshot row := by
  obtain ⟨cfg, run, shown⟩ := exists_played (fun _ _ => True) creation
    (fun cfg => (cfg.world.activities.get "a1").any fun row => row.version = 1 &&
      (eventsOf .activity "a1" cfg.world.outbox).any fun event => event.aggregateVersion = 1 &&
        (bodyOfCreation event cfg.world).isSome) (by decide +kernel)
  obtain ⟨row, found, shown⟩ := (Option.any_eq_true _ _).mp shown
  obtain ⟨version, shown⟩ := Bool.and_eq_true_iff.mp shown
  obtain ⟨event, member, shown⟩ := List.any_eq_true.mp shown
  obtain ⟨first, shown⟩ := Bool.and_eq_true_iff.mp shown
  obtain ⟨payload, built⟩ := Option.isSome_iff_exists.mp shown
  rw [decide_eq_true_eq] at version first
  have sends := sends_of_bodyOfCreation (mem_eventsOf.mp member).2.2 built
  obtain ⟨now, there, -, -, depicts⟩ :=
    @snapshot_blends _ _ cfg "a1" row (stored event) run found member (first.trans version.symm)
      .here _ _ _ sends
  rw [found, Option.some.injEq] at there
  exact ⟨cfg, run, row, found, version, _, _, _, _, sends, depicts (by rw [there])⟩

/-- The creation is attempted once more after the assignment: the snapshot of version 1
has the assignee of version 2. -/
theorem snapshot_of_later_row :
    ¬∀ (cfg cfg' : Interleaving.Config (activities Activities.defaults)) (id : Uuid)
      (row : ActivityEntity) (event : OutboxEventEntity) (snapshot : WebhookActivitySnapshot),
      Reachable (activities Activities.defaults) cfg → cfg.world.activities.get id = some row →
      event.toInsertOutboxEventInput ∈ eventsOf .activity id cfg.world.outbox →
      event.aggregateVersion = row.version →
      Onward (activities Activities.defaults) (fun _ _ => True) cfg cfg' →
      Sends defaults (beside start cfg'.world) event snapshot → Depicts snapshot row := by
  intro always
  obtain ⟨cfg, run, shown⟩ := exists_played (fun _ _ => True) creation
    (fun cfg => (cfg.world.activities.get "a1").any fun row =>
      (row.version = 1 ∧ row.assignedTo = none) &&
      (eventsOf .activity "a1" cfg.world.outbox).any fun event => event.aggregateVersion = 1 &&
        (play (fun _ _ => True) assigned cfg).any fun last =>
          (bodyOfCreation event last.world).any (·.data.activity.assigneeId = some "u2"))
    (by decide +kernel)
  obtain ⟨row, found, shown⟩ := (Option.any_eq_true _ _).mp shown
  obtain ⟨fresh, shown⟩ := Bool.and_eq_true_iff.mp shown
  obtain ⟨event, member, shown⟩ := List.any_eq_true.mp shown
  obtain ⟨first, shown⟩ := Bool.and_eq_true_iff.mp shown
  obtain ⟨last, ends, shown⟩ := (Option.any_eq_true _ _).mp shown
  obtain ⟨payload, built, assignee⟩ := (Option.any_eq_true _ _).mp shown
  rw [decide_eq_true_eq] at fresh first assignee
  have sends := sends_of_bodyOfCreation (mem_eventsOf.mp member).2.2 built
  have depicts := always cfg last "a1" row (stored event) _ run found member
    (first.trans fresh.1.symm) (Onward.here.play ends) sends
  rw [depicts.assigneeId, fresh.2] at assignee
  cases assignee

end ParentalCoord.Webhooks

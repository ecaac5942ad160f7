import ParentalCoord.Activities.Discipline

/-!
What holds of the activities in every run: any requests, timers and sweeps, in
any order, with crashes, lost jobs and failing statements among them.

`Unmarked` runs are those in which nobody marks an activity overdue by hand;
`Undisturbed` ones are also free of the race between the two reads of a timer or
a sweep.
-/

namespace ParentalCoord.Activities

open Interleaving Store

variable {config : Config} {cfg : Interleaving.Config (activities config)}
  {move : Move (activities config)} {row : ActivityEntity} {id : Uuid}

/-! ## The outbox replays to the row -/

/-- The events of a row number its versions, open with a new row, go from status
to status by the map, and end in the status of the row. -/
structure ReplaysTo (events : List InsertOutboxEventInput) (row : ActivityEntity) : Prop where
  versions : events.map (·.aggregateVersion) = List.range' 1 row.version
  opening : ∃ first hasAssignee, events.head? = some first ∧
    first.payload.lookup "from" = some (.str "new") ∧
    first.payload.lookup "to" = some (.str (resolveInitial hasAssignee).status.value) ∧
    first.eventType = (resolveInitial hasAssignee).event
  chain : ∀ k event next, events[k]? = some event → events[k + 1]? = some next →
    ∃ from_ to_ rule, resolveTransition from_ to_ = some rule ∧
      event.payload.lookup "to" = some (.str from_.value) ∧
      next.payload.lookup "from" = some (.str from_.value) ∧
      next.payload.lookup "to" = some (.str to_.value) ∧ next.eventType = rule.event
  closing : ∃ last, events.getLast? = some last ∧
    last.payload.lookup "to" = some (.str row.status.value)

theorem Leaves.recorded {event : InsertOutboxEventInput}
    (leaves : Leaves (Opens config) (Moves config) event row) :
    event.payload.lookup "to" = some (.str row.status.value) := by
  rcases leaves with ⟨bondId, dto, userId, criticality, now, id⟩ | ⟨earlier, moves⟩
  · rfl
  · exact moves.payload.2

theorem History.replaysTo {events : List InsertOutboxEventInput}
    (history : History config events row) : ReplaysTo events row where
  versions :=
    history.numbered (fun _ _ opens => by cases opens; exact ⟨rfl, rfl⟩)
      fun _ _ _ moves => ⟨moves.event_version, moves.version_eq⟩
  opening := by
    obtain ⟨first, opened, first_, opens⟩ := history.head
    obtain ⟨bondId, dto, userId, criticality, now, id⟩ := opens
    exact ⟨_, dto.assignedTo.isSome, first_, rfl, rfl, rfl⟩
  chain k event next here there := by
    obtain ⟨between, later, leaves, moves⟩ := history.adjacent here there
    obtain ⟨rule, resolved, kind⟩ := moves.resolved
    exact ⟨between.status, later.status, rule, resolved, Leaves.recorded leaves, moves.payload.1,
      moves.payload.2, kind⟩
  closing := by
    obtain ⟨last, ends, leaves⟩ := history.last
    exact ⟨last, ends, Leaves.recorded leaves⟩

/-- The result a thread has ended with. -/
def Thread.result (thread : Thread (activities config)) : Option (Except Exception Reply) :=
  match thread.rest with
  | .ret reply => some (.ok reply)
  | .throw error => some (.error error)
  | .call _ _ => none

/-- In every run the outbox replays to the rows, every write there is is one that
was answered as made, and a request that fails, answers `null` or answers with a
row it had read has written nothing. -/
theorem outbox_replays (reachable : Reachable (activities config) cfg) :
    (∀ id row, cfg.world.activities.get id = some row →
      ReplaysTo (eventsOf .activity id cfg.world.outbox) row) ∧
    (∀ id, cfg.world.activities.get id = none → eventsOf .activity id cfg.world.outbox = []) ∧
    ∀ thread ∈ cfg.threads,
      (∀ event ∈ thread.past, ¬Effective event → Unwritten event.before event.after) ∧
      ∀ result, Thread.result thread = some result → Fruitless result thread.past →
        ∀ event ∈ thread.past, Unwritten event.before event.after := by
  have supplied : (discipline config False).Supplies fun _ _ => True :=
    Discipline.supplies_of_assumes fun _ _ _ => False.elim
  obtain ⟨held, threads⟩ := reachable.disciplined (discipline_sound config False) supplied
  refine ⟨fun id row found => ((held.journaled id).2 row found).replaysTo,
    fun id absent => (held.journaled id).1 absent, fun thread member => ?_⟩
  have unwritten : ∀ event ∈ thread.past, ¬Effective event → Unwritten event.before event.after :=
    fun event there idle =>
      unwritten_of_not_effective ((threads thread member).behind event there).1 idle
  refine ⟨unwritten, fun result ended fruitless event there => unwritten event there ?_⟩
  obtain ⟨returned, thrown⟩ := reachable.ended (discipline_sound config False) supplied member
  unfold Thread.result at ended
  split at ended
  · rename_i reply rest
    cases ended
    exact returned reply rest fruitless event there
  · rename_i error rest
    cases ended
    exact thrown error rest fruitless event there
  · cases ended

/-! ## A run -/

/-- A directory in which everybody is a member and every category is active. -/
def openDirectory : Directory :=
  ⟨fun _ _ => true, fun _ _ => some "parent", fun _ => some .medium, fun _ _ => true⟩

def defaults : Config := ⟨none, none⟩

def visit : CreateActivityDto where
  title := "Pediatra"
  description := none
  type := none
  categoryId := "c1"
  assignedTo := none
  scheduledStart := 864000000
  scheduledEnd := none
  childrenIds := ["k1"]

def turns (index count : ℕ) : List (Move (activities defaults)) := List.replicate count (.turn index)

/-- An activity is created without an assignee, and its response timer is added. -/
def creation : List (Move (activities defaults)) :=
  [.nudge (.directory openDirectory), .nudge (.generate "a1"), .arrive (.create "b1" visit "u1")] ++
    turns 0 10 ++ [.nudge (.settle 0)]

/-- After the response window the timer is taken, and reads the row as created.
Before it reads it again, somebody assigns the activity, which opens a new window. -/
def overtaken : List (Move (activities defaults)) :=
  creation ++ [.nudge (.tick 129600000), .arrive (.processTimer "response-timeout--a1--v1")] ++
    turns 1 2 ++ [.arrive (.assign "a1" "u1" (some (some "u2")))] ++ turns 2 8 ++ turns 1 2

/-- The run goes on to the commit of the timer. -/
def expired : List (Move (activities defaults)) := overtaken ++ turns 1 1

theorem outbox_replays_expired : ∃ cfg : Interleaving.Config (activities defaults),
    Reachable (activities defaults) cfg ∧
    ∃ row, cfg.world.activities.get "a1" = some row ∧ row.version = 3 ∧
      ReplaysTo (eventsOf .activity "a1" cfg.world.outbox) row := by
  obtain ⟨cfg, run, shown⟩ := exists_played (fun _ _ => True) expired
    (fun cfg => (cfg.world.activities.get "a1").any (·.version = 3)) (by decide +kernel)
  obtain ⟨row, found, version⟩ := (Option.any_eq_true _ _).mp shown
  exact ⟨cfg, run, row, found, by simpa using version, (outbox_replays run).1 "a1" row found⟩

/-! ## The columns of every row -/

theorem row_history (reachable : Reachable (activities config) cfg)
    (found : cfg.world.activities.get id = some row) :
    History config (eventsOf .activity id cfg.world.outbox) row :=
  ((consistent_of_reachable reachable).journaled id).2 row found

/-- Every row of every run has the columns its status asks for. -/
theorem columns_hold (reachable : Reachable (activities config) cfg)
    (found : cfg.world.activities.get id = some row) : ColumnInvariant row :=
  (row_history reachable found).shape.columns

theorem columns_hold_expired : ∃ cfg : Interleaving.Config (activities defaults),
    Reachable (activities defaults) cfg ∧ ∃ row, cfg.world.activities.get "a1" = some row ∧
      row.version = 3 ∧ ColumnInvariant row := by
  obtain ⟨cfg, run, shown⟩ := exists_played (fun _ _ => True) expired
    (fun cfg => (cfg.world.activities.get "a1").any (·.version = 3)) (by decide +kernel)
  obtain ⟨row, found, version⟩ := (Option.any_eq_true _ _).mp shown
  exact ⟨cfg, run, row, found, by simpa using version, columns_hold run found⟩

/-! ## Where an overdue row came from -/

/-- The status a row was in before the last of its events. -/
def cameFrom (events : List InsertOutboxEventInput) : Option Json :=
  events.getLast?.bind fun event => event.payload.lookup "from"

theorem History.overdue_cases {events : List InsertOutboxEventInput}
    (history : History config events row) (late : row.status = .overdue) :
    ∃ event before, events.getLast? = some event ∧ Moves config event before row ∧
      before.status = (overdueOrigin row).status := by
  cases history with
  | opened opens =>
    obtain ⟨bondId, dto, userId, criticality, now, id⟩ := opens
    cases assignee : dto.assignedTo <;>
      simp [InsertWithInitialTransitionInput.saved, createInput, resolveInitial, assignee] at late
  | moved earlier moves =>
    exact ⟨_, _, by simp, moves, moves.origin (History.shape earlier) late⟩

theorem cameFrom_overdue {events : List InsertOutboxEventInput}
    (history : History config events row) (late : row.status = .overdue) :
    cameFrom events = some (.str (overdueOrigin row).status.value) := by
  obtain ⟨event, before, last, moves, origin⟩ := history.overdue_cases late
  simp only [cameFrom, last, Option.bind_some, moves.payload.1, origin]

theorem cameFrom_assigned {events : List InsertOutboxEventInput}
    (history : History config events row) (late : row.status = .overdue) :
    cameFrom events = some (.str ActivityStatus.assigned.value) ↔ overdueOrigin row = .assigned := by
  rw [cameFrom_overdue history late, Option.some.injEq, Json.str.injEq]
  cases overdueOrigin row <;> decide

/-- In every run, `overdueOrigin` of an overdue row is the status the row was in
before it became overdue.  So the late decline is admitted, and reported by the
policy before the end of the activity, for the assignee of a row that expired
while it waited to be accepted, and for nobody else. -/
theorem overdueOrigin_is_history (reachable : Reachable (activities config) cfg)
    (found : cfg.world.activities.get id = some row) (late : row.status = .overdue) :
    (∃ event before, (eventsOf .activity id cfg.world.outbox).getLast? = some event ∧
      Moves config event before row ∧ before.status = (overdueOrigin row).status) ∧
    cameFrom (eventsOf .activity id cfg.world.outbox) =
      some (.str (overdueOrigin row).status.value) ∧
    (∀ userId reason,
      (∃ rule, rule.id = .T8 ∧ ruleFor { activityId := id, to_ := .notAssisting
                                         actor := .user userId, reason := reason } row =
          .ok (some rule)) ↔
        row.assignedTo = some userId ∧
          cameFrom (eventsOf .activity id cfg.world.outbox) =
            some (.str ActivityStatus.assigned.value)) ∧
    ∀ viewerId now, (evaluate row viewerId now).canDecline ↔
      row.assignedTo = some viewerId ∧
        cameFrom (eventsOf .activity id cfg.world.outbox) =
          some (.str ActivityStatus.assigned.value) ∧ isPast row now = false := by
  have history := row_history reachable found
  refine ⟨history.overdue_cases late, cameFrom_overdue history late, fun userId reason => ?_,
    fun viewerId now => ?_⟩
  · rw [cameFrom_assigned history late]
    constructor
    · rintro ⟨rule, name, admitted⟩
      obtain ⟨resolved, -, user, origin⟩ := admitted_iff.mp admitted
      rw [late] at resolved
      cases resolved
      exact ⟨(user userId rfl).2 rfl, origin name⟩
    · rintro ⟨assignee, origin⟩
      have resolved : ∃ rule, resolveTransition .overdue .notAssisting = some rule ∧
          rule.id = .T8 ∧ .assignee ∈ rule.actors := ⟨_, rfl, rfl, by decide⟩
      obtain ⟨rule, resolved, name, actors⟩ := resolved
      refine ⟨rule, name, admitted_iff.mpr ⟨by rw [late]; exact resolved, nofun, ?_, fun _ => origin⟩⟩
      intro other same
      cases same
      exact ⟨.inr actors, fun _ => assignee⟩
  · rw [cameFrom_assigned history late]
    simp [evaluate, late, and_assoc]

theorem overdueOrigin_is_history_expired : ∃ cfg : Interleaving.Config (activities defaults),
    Reachable (activities defaults) cfg ∧ ∃ row, cfg.world.activities.get "a1" = some row ∧ row.status = .overdue ∧
      cameFrom (eventsOf .activity "a1" cfg.world.outbox) =
        some (.str (overdueOrigin row).status.value) := by
  obtain ⟨cfg, run, shown⟩ := exists_played (fun _ _ => True) expired
    (fun cfg => (cfg.world.activities.get "a1").any (·.status = .overdue)) (by decide +kernel)
  obtain ⟨row, found, status⟩ := (Option.any_eq_true _ _).mp shown
  have late : row.status = .overdue := by simpa using status
  exact ⟨cfg, run, row, found, late, (overdueOrigin_is_history run found late).2.1⟩

/-! ## System transitions are not early -/

/-- A run in which nobody marks an activity overdue by hand. -/
def Unmarked (_ : Interleaving.Config (activities config)) : Move (activities config) → Prop
  | .arrive (.markOverdue _) => False
  | _ => True

/-- A run in which, besides, no timer and no sweep is overtaken between its two
reads of a row by a change that leaves the row where the system may move it. -/
def Undisturbed (cfg : Interleaving.Config (activities config)) (move : Move (activities config)) :
    Prop :=
  Unmarked cfg move ∧ match cfg.acts move with
    | some (thread, event, _) => Resighted thread.entry thread.past event
    | none => True

instance (cfg : Interleaving.Config (activities config)) (move : Move (activities config)) :
    Decidable (Unmarked cfg move) := by
  unfold Unmarked
  rcases move with _ | ⟨⟨⟩⟩ | _ | _ | _ <;> infer_instance

instance (cfg : Interleaving.Config (activities config)) (move : Move (activities config)) :
    Decidable (Undisturbed cfg move) := by
  unfold Undisturbed
  rcases cfg.acts move with _ | ⟨thread, event, _⟩ <;> infer_instance

theorem undisturbed_supplies (undisturbed : Prop) :
    (discipline config undisturbed).Supplies Undisturbed := by
  intro cfg move thread event rest run permitted acts _
  refine ⟨fun id marks => ?_, ?_⟩
  · refine run.arrived (fun entry : Entry => ∀ id, entry ≠ .markOverdue id)
      (fun cfg entry arrives id same => ?_) thread (acts_cases acts).1 id marks
    have arrival := arrives.1
    rw [same] at arrival
    exact arrival
  · have resighted := permitted.2
    rw [acts] at resighted
    exact resighted

/-- In an undisturbed run, whenever a transition with a system actor commits, the
anchor of the row it replaces has come. -/
theorem system_transition_never_early (run : Run (activities config) Undisturbed cfg)
    (permitted : Undisturbed cfg move) {thread : Thread (activities config)}
    {event : Event (activities config)} {rest : Request Reply}
    (acts : cfg.acts move = some (thread, event, rest)) : Punctual event :=
  (run.guaranteed (discipline_sound config True) (undisturbed_supplies True) permitted acts).2 trivial

/-- The timer is taken when the response window has run out, and nobody interferes. -/
def undisturbed : List (Move (activities defaults)) :=
  creation ++ [.nudge (.tick 129600000), .arrive (.processTimer "response-timeout--a1--v1")] ++
    turns 1 4

theorem system_transition_never_early_undisturbed :
    ∃ (cfg : Interleaving.Config (activities defaults)) (move : Move (activities defaults))
      (thread : Thread (activities defaults)) (event : Event (activities defaults)) (rest : Request Reply),
      Run (activities defaults) Undisturbed cfg ∧ Undisturbed cfg move ∧
        cfg.acts move = some (thread, event, rest) ∧ systemCommit event ≠ none ∧ Punctual event := by
  obtain ⟨cfg, run, shown⟩ := exists_played Undisturbed undisturbed
    (fun cfg => decide (Undisturbed cfg (.turn 1)) &&
      (cfg.acts (.turn 1)).any fun step => (systemCommit step.2.1).isSome) (by decide +kernel)
  rw [Bool.and_eq_true, decide_eq_true_eq, Option.any_eq_true] at shown
  obtain ⟨permitted, ⟨thread, event, rest⟩, acts, commits⟩ := shown
  exact ⟨cfg, .turn 1, thread, event, rest, run, permitted, acts, Option.isSome_iff_ne_none.mp commits,
    system_transition_never_early run permitted acts⟩

/-- Between the two reads of the timer the activity is assigned, with a response
window of its own that ends a day and a half later; the timer commits `overdue`
over that row at once. -/
theorem system_transition_early :
    ¬∀ (cfg : Interleaving.Config (activities defaults)) (move : Move (activities defaults))
      (thread : Thread (activities defaults)) (event : Event (activities defaults))
      (rest : Request Reply), Run (activities defaults) Unmarked cfg → Unmarked cfg move →
        cfg.acts move = some (thread, event, rest) → Punctual event := by
  intro never
  obtain ⟨cfg, run, shown⟩ := exists_played Unmarked overtaken
    (fun cfg => (cfg.acts (.turn 1)).any fun step => (systemCommit step.2.1).any fun row =>
      anchor row = some 259200000 ∧ step.2.1.before.clock = 129600000) (by decide +kernel)
  obtain ⟨⟨thread, event, rest⟩, acts, shown⟩ := (Option.any_eq_true _ _).mp shown
  obtain ⟨row, commits, shown⟩ := (Option.any_eq_true _ _).mp shown
  obtain ⟨later, now⟩ := of_decide_eq_true shown
  obtain ⟨instant, at_, come⟩ := never cfg (.turn 1) thread event rest run trivial acts row commits
  rw [later, Option.some.injEq] at at_
  rw [← at_, now] at come
  exact absurd come (by decide)

end ParentalCoord.Activities

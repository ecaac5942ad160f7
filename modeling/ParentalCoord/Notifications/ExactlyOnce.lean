import Mathlib.Data.List.Flatten
import ParentalCoord.Interleaving.Chronicle
import ParentalCoord.Notifications.Dispatching

/-!
What any number of passes of the relay leave, whatever happens to them.

A frame is published by the pass whose commit has created the row, which tries each of
its rows once.  So the frames that are out and those that passes still owe are of
different rows, all of them committed.
-/

namespace ParentalCoord.Notifications

open Interleaving Store Activities Webhooks

variable {config : Config} {allowed : Interleaving.Config (relaying config) → Move (relaying config) → Prop}
  {cfg cfg' : Interleaving.Config (relaying config)} {move : Move (relaying config)}
  {moments : List (Moment (relaying config))} {world after : World} {tx : Transaction}

/-- The move commits a transaction that marks the event, and that has seen to all of it. -/
def Dispatches (config : Config) (moment : Moment (relaying config)) (id : Uuid) (at_ : Instant) :
    Prop :=
  ∃ thread tx answer after rest,
    moment.1.acts moment.2 = some (thread, ⟨moment.1.world, .commit tx, answer, after⟩, rest) ∧
    moment.1.world.commit tx = some after ∧ (id, at_) ∈ tx.dispatched ∧
    Dispatched config thread.past moment.1.world after id

/-- The notifications that frames were published for. -/
def announced (frames : List Frame) : List CreatedNotificationRef :=
  frames.filterMap fun
    | .notificationCreated notification _ => some notification
    | _ => none

/-- One delivery for each event and subscription, and one notification for each user and event;
a mark on an event only by a commit that has seen to all of it; a frame at most once for a row,
which is committed; and no delivery of an expense event. -/
structure DispatchedOnce (config : Config) (moments : List (Moment (relaying config)))
    (world : World) : Prop where
  deliveries : (world.deliveries.rows.map pairOf).Nodup
  notifications : (world.notifications.rows.filterMap NotificationEntity.source).Nodup
  marks : ∀ id row at_, world.outbox.get id = some row → row.dispatchedAt = some at_ →
    ∃ moment ∈ moments, Dispatches config moment id at_
  once : ((announced world.frames).map (·.id)).Nodup
  committed : ∀ notification ∈ announced world.frames,
    ∃ row ∈ world.notifications.rows, row.ref = notification
  expenses : ∀ row ∈ world.deliveries.rows,
    ∃ event, world.outbox.get row.eventId = some event ∧ event.aggregateType = .activity

/-! ## Marks -/

theorem marked_of_nudge {how : Nudge} {id : Uuid} {row : OutboxEventEntity} {at_ : Instant}
    (found : (nudge how world).outbox.get id = some row) (marked : row.dispatchedAt = some at_) :
    world.outbox.get id = some row := by
  cases how with
  | produce fresh input =>
    simp only [nudge] at found
    generalize inserted : world.outbox.insert _ = added at found
    cases added with
    | none => exact found
    | some added =>
      rw [Option.getD_some, (Table.get_insert inserted).2] at found
      split at found
      · cases found
        cases marked
      · exact found
  | _ => exact found

theorem guaranteed (chronicle : Chronicle (relaying config) allowed moments cfg)
    (permitted : allowed cfg move) {thread : Thread (relaying config)} {event : Event (relaying config)}
    {rest : Request ℕ} (acts : cfg.acts move = some (thread, event, rest)) :
    Owed config thread.past event :=
  (chronicle.run.guaranteed (dispatching_sound config)
    (Discipline.supplies_of_assumes fun _ _ _ => trivial) permitted acts).2

/-- A mark is one that was there, or comes with a commit. -/
theorem marked_of_answers {query : Call} {answer : Except Exception (interface.Answer query)}
    {id : Uuid} {row : OutboxEventEntity} {at_ : Instant}
    (answers : Answers (relaying config) query world answer after)
    (found : after.outbox.get id = some row) (marked : row.dispatchedAt = some at_) :
    (∃ old, world.outbox.get id = some old ∧ old.dispatchedAt = some at_) ∨
      ∃ tx, query = .commit tx ∧ world.commit tx = some after ∧ (id, at_) ∈ tx.dispatched := by
  rcases answers.elim with ⟨-, rfl⟩ | ⟨error, -, -, rfl⟩
  · cases query with
    | commit tx =>
      simp only [serve] at found ⊢
      cases committed : world.commit tx with
      | none =>
        rw [committed] at found
        exact .inl ⟨row, found, marked⟩
      | some after =>
        rw [committed] at found
        simp only [(commit_eq committed).2.2.1] at found
        rcases get_marked.2 row found at_ marked with old | new
        · exact .inl old
        · exact .inr ⟨tx, rfl, committed, new⟩
    | _ => exact .inl ⟨row, found, marked⟩
  · exact .inl ⟨row, found, marked⟩

theorem marks_of_chronicle (chronicle : Chronicle (relaying config) allowed moments cfg) :
    ∀ id row at_, cfg.world.outbox.get id = some row → row.dispatchedAt = some at_ →
      ∃ moment ∈ moments, Dispatches config moment id at_ := by
  induction chronicle with
  | start => exact nofun
  | @step moments cfg cfg' move before permitted moved ih =>
    have earlier : ∀ id row at_, cfg.world.outbox.get id = some row → row.dispatchedAt = some at_ →
        ∃ moment ∈ (cfg, move) :: moments, Dispatches config moment id at_ := by
      intro id row at_ found marked
      obtain ⟨moment, member, dispatches⟩ := ih id row at_ found marked
      exact ⟨moment, List.mem_cons_of_mem _ member, dispatches⟩
    intro id row at_ found marked
    rcases advance_cases moved with ⟨how, rfl, rfl⟩ | ⟨entry, rfl, rfl⟩ | ⟨index, rfl, rfl⟩ |
      ⟨index, thread, event, rest, at', acts, rfl⟩
    · exact earlier id row at_ (marked_of_nudge found marked) marked
    · exact earlier id row at_ found marked
    · exact earlier id row at_ found marked
    · have owed := guaranteed before permitted acts
      obtain ⟨-, query, next, answer, after, -, rfl, -, answers⟩ := acts_cases acts
      rcases marked_of_answers answers found marked with ⟨old, there, same⟩ | ⟨tx, rfl, committed, new⟩
      · exact earlier id old at_ there same
      · exact ⟨(cfg, move), List.mem_cons_self, thread, tx, answer, after, rest, acts, committed, new,
          owed committed id at_ new⟩

/-! ## Frames -/

/-- The notifications that frames are out for, and those that passes have yet to publish. -/
def outstanding (cfg : Interleaving.Config (relaying config)) : List CreatedNotificationRef :=
  announced cfg.world.frames ++ cfg.threads.flatMap fun thread => leftOf thread.past

/-- These are of different rows, and committed. -/
structure Accounted (world : World) (refs : List CreatedNotificationRef) : Prop where
  once : (refs.map (·.id)).Nodup
  committed : ∀ notification ∈ refs, ∃ row ∈ world.notifications.rows, row.ref = notification

variable {refs refs' : List CreatedNotificationRef}

theorem Accounted.part (accounted : Accounted world refs) (part : refs'.Subperm refs)
    (grown : Grown world after) : Accounted after refs' where
  once := by
    obtain ⟨sub, same, within⟩ := part
    exact (same.map _).nodup_iff.mp ((within.map _).nodup accounted.once)
  committed notification member := by
    obtain ⟨row, there, same⟩ := accounted.committed notification (part.subset member)
    exact ⟨row, grown.notifications row there, same⟩

/-- What a commit has created is of rows that were not there. -/
theorem Accounted.commit (accounted : Accounted world refs) (committed : world.commit tx = some after) :
    Accounted after (tx.notifications.map (·.ref) ++ refs) := by
  have rows := (commit_eq committed).2.1
  have grown := grown_commit committed
  have distinct : (world.notifications.rows.map (·.id) ++ tx.notifications.map (·.id)).Nodup := by
    rw [← List.map_append, ← rows]
    exact after.notifications.unique
  obtain ⟨-, fresh, apart⟩ := List.nodup_append.mp distinct
  have ids : (tx.notifications.map (·.ref)).map (·.id) = tx.notifications.map (·.id) := by
    rw [List.map_map]
    rfl
  constructor
  · rw [List.map_append, ids]
    refine List.nodup_append.mpr ⟨fresh, accounted.once, fun id new other old same => ?_⟩
    subst same
    obtain ⟨notification, member, rfl⟩ := List.mem_map.mp old
    obtain ⟨row, there, rfl⟩ := accounted.committed notification member
    exact apart row.id (List.mem_map_of_mem there) row.id new rfl
  · intro notification member
    rcases List.mem_append.mp member with new | old
    · obtain ⟨row, there, rfl⟩ := List.mem_map.mp new
      exact ⟨row, rows ▸ List.mem_append_right _ there, rfl⟩
    · obtain ⟨row, there, same⟩ := accounted.committed notification old
      exact ⟨row, grown.notifications row there, same⟩

/-- The place of an element, and the list with another one in its place. -/
theorem exists_place {α : Type} {list : List α} {index : ℕ} {element : α}
    (at_ : list[index]? = some element) : ∃ before after, list = before ++ element :: after ∧
      ∀ other, list.set index other = before ++ other :: after := by
  obtain ⟨inside, rfl⟩ := List.getElem?_eq_some_iff.mp at_
  have placed (other : α) : list.set index other = list.take index ++ other :: list.drop (index + 1) := by
    rw [List.set_eq_take_append_cons_drop, if_pos inside]
  refine ⟨list.take index, list.drop (index + 1), ?_, placed⟩
  rw [← placed, List.set_getElem_self]

theorem announced_append (frames : List Frame) (frame : Frame) :
    announced (frames ++ [frame]) = announced frames ++ announced [frame] := by
  simp [announced]

theorem announced_of_nudge (how : Nudge) (world : World) :
    (nudge how world).frames = world.frames := by
  cases how <;> rfl

/-- A call that neither commits nor publishes a notification leaves all of it as it was. -/
theorem announced_of_plain {query : Call} {answer : Except Exception (interface.Answer query)}
    (plain : query.plain) (answers : Answers (relaying config) query world answer after) :
    announced after.frames = announced world.frames := by
  rcases answers.elim with ⟨-, rfl⟩ | ⟨error, -, -, rfl⟩
  · cases query with
    | commit tx => exact plain.elim
    | publishNotificationCreated notification => exact plain.elim
    | publishActivityChanged event => exact (announced_append _ _).trans (List.append_nil _)
    | publishExpenseChanged event => exact (announced_append _ _).trans (List.append_nil _)
    | _ => rfl
  · rfl

/-- What one event of a pass makes of the frames that are out and of what the pass has left. -/
theorem accounted_act {query : Call} {answer : Except Exception (interface.Answer query)}
    {past : List (Event (relaying config))} {before behind : List CreatedNotificationRef}
    (accounted : Accounted world (announced world.frames ++ (before ++ (leftOf past ++ behind))))
    (answers : Answers (relaying config) query world answer after)
    (owed : Owed config past ⟨world, query, answer, after⟩) :
    Accounted after (announced after.frames ++
      (before ++ (leftOf (⟨world, query, answer, after⟩ :: past) ++ behind))) := by
  have grown := grown_answered answers
  by_cases plain : query.plain
  · rw [announced_of_plain plain answers, plain_left plain]
    exact accounted.part (List.Subperm.refl _) grown
  cases query with
  | publishNotificationCreated notification =>
    have mine : notification ∈ leftOf past := owed
    have taken : (notification :: (leftOf past).erase notification).Perm (leftOf past) :=
      (List.perm_cons_erase mine).symm
    rcases answers.elim with ⟨-, rfl⟩ | ⟨error, -, -, rfl⟩
    · refine accounted.part (List.Perm.subperm ?_) grown
      change (announced (world.frames ++ [_]) ++ _).Perm _
      rw [announced_append, List.append_assoc]
      have moved : (notification :: (before ++ ((leftOf past).erase notification ++ behind))).Perm
          (before ++ (leftOf past ++ behind)) :=
        List.perm_middle.symm.trans ((taken.append_right behind).append_left before)
      exact moved.append_left _
    · refine accounted.part ?_ grown
      refine (List.Sublist.append_left (List.Sublist.append_left ?_ _) _).subperm
      exact List.Sublist.append_right List.erase_sublist _
  | commit tx =>
    have unchanged : Accounted after (announced world.frames ++ (before ++ (leftOf past ++ behind))) :=
      accounted.part (List.Subperm.refl _) grown
    rcases answers.elim with ⟨rfl, rfl⟩ | ⟨error, -, rfl, rfl⟩
    · simp only [serve] at unchanged ⊢
      cases committed : world.commit tx with
      | none =>
        rw [committed] at unchanged
        exact unchanged
      | some after =>
        have frames : after.frames = world.frames := (commit_eq committed).2.2.2
        simp only [committed] at unchanged ⊢
        cases acknowledged : world.surroundings.acknowledges with
        | false =>
          simp only [frames]
          exact unchanged
        | true =>
          simp only [frames]
          have rest : Accounted world (announced world.frames ++ (before ++ behind)) := by
            refine accounted.part ?_ (.refl world)
            refine (List.Sublist.append_left (List.Sublist.append_left ?_ _) _).subperm
            exact List.sublist_append_right _ _
          refine (rest.commit committed).part (List.Perm.subperm ?_) (.refl after)
          change (announced world.frames ++ (before ++ (tx.notifications.map (·.ref) ++ behind))).Perm _
          rw [← List.append_assoc, ← List.append_assoc (announced world.frames)]
          exact List.perm_append_comm_assoc _ _ _
    · exact unchanged
  | _ => exact absurd trivial plain

theorem accounted_of_chronicle (chronicle : Chronicle (relaying config) allowed moments cfg) :
    Accounted cfg.world (outstanding cfg) := by
  induction chronicle with
  | start => exact ⟨List.nodup_nil, by simp [outstanding, announced, start]⟩
  | @step moments cfg cfg' move before permitted moved ih =>
    rcases advance_cases moved with ⟨how, rfl, rfl⟩ | ⟨entry, rfl, rfl⟩ | ⟨index, rfl, rfl⟩ |
      ⟨index, thread, event, rest, at_, acts, rfl⟩
    · have same : outstanding ⟨nudge how cfg.world, cfg.threads⟩ = outstanding cfg := by
        unfold outstanding
        rw [announced_of_nudge]
      rw [same]
      exact ih.part (List.Subperm.refl _) (grown_nudge how cfg.world)
    · have same : outstanding ⟨cfg.world, cfg.threads ++ [Thread.begin (relaying config) entry]⟩ =
          outstanding cfg := by
        simp [outstanding, Thread.begin, leftOf]
      rw [same]
      exact ih
    · refine ih.part (List.Sublist.subperm ?_) (.refl _)
      exact List.Sublist.append_left ((List.eraseIdx_sublist _ _).flatMap _) _
    · have owed := guaranteed before permitted acts
      obtain ⟨others, later, threads, placed⟩ := exists_place at_
      obtain ⟨-, query, next, answer, after, -, rfl, -, answers⟩ := acts_cases acts
      have shape (thread : Thread (relaying config)) :
          (others ++ thread :: later).flatMap (fun thread => leftOf thread.past) =
            others.flatMap (fun thread => leftOf thread.past) ++
              (leftOf thread.past ++ later.flatMap fun thread => leftOf thread.past) := by
        rw [List.flatMap_append, List.flatMap_cons]
      unfold outstanding at ih ⊢
      rw [threads, shape] at ih
      rw [placed, shape]
      exact accounted_act ih answers owed

/-! ## Every run -/

theorem announced_part (cfg : Interleaving.Config (relaying config)) :
    (announced cfg.world.frames).Subperm (outstanding cfg) :=
  (List.sublist_append_left _ _).subperm

/-- Whatever passes of the relay are under way and wherever they crash, fail or roll back, the
fan-out of an event takes effect once. -/
theorem dispatched_once (chronicle : Chronicle (relaying config) allowed moments cfg) :
    DispatchedOnce config moments cfg.world where
  deliveries := cfg.world.deliveries.unique
  notifications := cfg.world.notifications.once
  marks := marks_of_chronicle chronicle
  once := ((accounted_of_chronicle chronicle).part (announced_part cfg) (.refl _)).once
  committed := ((accounted_of_chronicle chronicle).part (announced_part cfg) (.refl _)).committed
  expenses row member := by
    have owned := (chronicle.run.disciplined (dispatching_sound config)
      (Discipline.supplies_of_assumes fun _ _ _ => trivial)).1
    obtain ⟨event, ⟨found, there, same⟩, own, kind⟩ := owned row member
    refine ⟨found, own ▸ there, ?_⟩
    rw [← same] at kind
    exact kind

/-- `u2` is assigned an activity of `u1`. -/
def attended : Surroundings where
  activities _ :=
    some { (default : ActivityEntity) with id := "a1", assignedTo := some "u2", createdBy := "u1" }
  members _ := ["u1", "u2"]
  uuids number := if number = 0 then "d1" else if number = 1 then "n1" else "n2"

/-- Two passes read the same pending event, and the second dispatches it after the first. -/
def twice : List (Move (relaying defaults)) :=
  [.nudge (.surroundings attended),
   .nudge (.subscribe
     { id := "s1", bondId := "b1", createdBy := "u1", url := "https://example.org", eventTypes := ["*"]
       secretEncrypted := "" }),
   .nudge (.produce "e1"
     { aggregateType := .activity, aggregateId := "a1", bondId := "b1"
       eventType := ACTIVITY_EVENT.ASSIGNED, aggregateVersion := 2, payload := [] }),
   .arrive 5, .arrive 5, .turn 0, .turn 1] ++ List.replicate 11 (.turn 0) ++ List.replicate 9 (.turn 1)

theorem dispatched_once_twice :
    ∃ (moments : List (Moment (relaying defaults))) (cfg : Interleaving.Config (relaying defaults)),
      Chronicle (relaying defaults) (fun _ _ => True) moments cfg ∧
        DispatchedOnce defaults moments cfg.world ∧ cfg.world.deliveries.rows.length = 1 ∧
        (announced cfg.world.frames).length = 2 := by
  obtain ⟨moments, cfg, chronicle, shown⟩ := exists_followed (fun _ _ => True) twice
    (fun _ cfg => decide (cfg.world.deliveries.rows.length = 1) &&
      decide ((announced cfg.world.frames).length = 2)) (by decide +kernel)
  obtain ⟨delivered, frames⟩ := Bool.and_eq_true_iff.mp shown
  exact ⟨moments, cfg, chronicle, dispatched_once chronicle, of_decide_eq_true delivered, of_decide_eq_true frames⟩

end ParentalCoord.Notifications

import ParentalCoord.Distinct
import ParentalCoord.Interleaving.Discipline
import ParentalCoord.Realtime.DeadSockets
import ParentalCoord.Realtime.Frames

/-!
Who a frame reaches.

A frame of a bond is written to the sockets of those that were found to be members when it
was delivered, and a frame of a notification to the sockets of the one user it names.  A
socket has one user, so nothing that is for others comes to it.
-/

namespace ParentalCoord.Realtime

open Interleaving Store

/-! ## What a socket is sent -/

/-- The texts that were written to a socket, in order. -/
def World.received (world : World) (socket : WebSocket) : List String :=
  (world.sent.filter (·.1 = socket)).map Prod.snd

variable {world : World} {userIds : List Uuid} {userId : Uuid} {socket : WebSocket} {text : String}
  {sockets : List WebSocket}

theorem mem_targets : socket ∈ world.targets userIds ↔
    ∃ userId ∈ userIds, world.registry.Holds userId socket := by
  unfold World.targets
  rw [List.mem_eraseDups, List.mem_flatMap]
  refine exists_congr fun userId => and_congr_right fun _ => ?_
  unfold Registry.Holds
  cases world.registry.get userId with
  | none => simp
  | some row => simp

/-- Where a socket is once among those that are written to, it gets one text. -/
theorem received_append (apart : sockets.Nodup) :
    ((sockets.map (·, text)).filter (·.1 = socket)).map Prod.snd =
      if socket ∈ sockets then [text] else [] := by
  induction sockets with
  | nil => rfl
  | cons first rest ih =>
    obtain ⟨new, apart⟩ := List.nodup_cons.mp apart
    rw [List.map_cons, List.filter_cons]
    by_cases same : first = socket
    · subst same
      rw [if_pos (decide_eq_true rfl), List.map_cons, ih apart, if_neg new, if_pos List.mem_cons_self]
    · rw [if_neg (by simp [same]), ih apart]
      simp only [List.mem_cons, Ne.symm same, false_or]

/-- A write of a text to the sockets of some users: each of them that is open gets it once,
and no other socket gets anything. -/
structure Writes (world after : World) (userIds : List Uuid) (text : String) : Prop where
  /-- What the socket of a user gets depends on whether that user is among them. -/
  held : ∀ userId socket, world.registry.Holds userId socket → after.received socket =
    world.received socket ++ if world.isOpen socket ∧ userId ∈ userIds then [text] else []
  free : ∀ socket, (∀ userId, ¬world.registry.Holds userId socket) →
    after.received socket = world.received socket

theorem writes_send (single : world.registry.Single) :
    Writes world (serve (.send userIds text) world).2 userIds text := by
  have sent (socket : WebSocket) : (serve (.send userIds text) world).2.received socket =
      world.received socket ++
        if socket ∈ (world.targets userIds).filter world.isOpen then [text] else [] := by
    have apart : ((world.targets userIds).filter world.isOpen).Nodup :=
      List.Nodup.filter _ (nodup_eraseDups _)
    unfold World.received
    rw [← received_append apart, ← List.map_append, ← List.filter_append]
    rfl
  refine ⟨fun userId socket holds => ?_, fun socket nobody => ?_⟩
  · have named : (∃ other ∈ userIds, world.registry.Holds other socket) ↔ userId ∈ userIds := by
      refine ⟨fun ⟨other, member, holds'⟩ => ?_, fun member => ⟨userId, member, holds⟩⟩
      rw [single userId other socket holds holds']
      exact member
    rw [sent]
    simp only [List.mem_filter, mem_targets, named, and_comm]
  · rw [sent, if_neg, List.append_nil]
    rw [List.mem_filter, mem_targets]
    rintro ⟨⟨userId, -, holds⟩, -⟩
    exact nobody userId holds

/-! ## One delivery -/

/-- How far the delivery of a message is. -/
inductive Stage where
  /-- It has yet to find out who is a member. -/
  | asking (bondId : Uuid) (text : String)
  | writing (userIds : List Uuid) (text : String)
  | finished
  /-- A handshake, which writes nothing. -/
  | apart

def Entry.stage : Entry → Stage
  | .connection _ _ => .apart
  | .message (.notificationCreated userId frame) => .writing [userId] (jsonStringify (.obj frame))
  | .message (.activityChanged bondId frame) => .asking bondId (jsonStringify (.obj frame))
  | .message (.expenseChanged bondId frame) => .asking bondId (jsonStringify (.obj frame))

def delivering : Protocol interface Exception where
  Phase := Stage
  permits
    | .asking bondId _, .findActiveMemberIds asked => asked = bondId
    | .writing userIds text, .send others raw => others = userIds ∧ raw = text
    | .apart, .send _ _ => False
    | .apart, _ => True
    | _, _ => False
  next
    | .asking _ text, .findActiveMemberIds _, .ok memberIds => .writing memberIds text
    | .apart, _, _ => .apart
    | _, _, _ => .finished

/-- A delivery ends with what it had to write. -/
def Ended (_ : Except Exception Unit) (stage : Stage) : Prop := stage = .finished ∨ stage = .apart

theorem send_delivers (userIds : List Uuid) (text : String) :
    delivering.Follows Ended (.writing userIds text) (perform (.send userIds text)) := by
  refine ⟨⟨rfl, rfl⟩, fun answer => ?_⟩
  cases answer <;> exact .inl rfl

theorem deliverToBond_delivers (bondId : Uuid) (frame : Record) :
    delivering.Follows Ended (.asking bondId (jsonStringify (.obj frame))) (deliverToBond bondId frame) := by
  refine ⟨rfl, fun answer => ?_⟩
  cases answer with
  | error _ => exact .inl rfl
  | ok memberIds =>
    refine ⟨⟨rfl, rfl⟩, fun answer => ?_⟩
    cases answer <;> exact .inl rfl

theorem close_apart (client : WebSocket) (code : ℕ) :
    delivering.Follows Ended .apart (perform (.close client code)) := by
  refine ⟨trivial, fun answer => ?_⟩
  cases answer <;> exact .inr rfl

theorem handleConnection_apart (client : WebSocket) (request : IncomingMessage) :
    delivering.Follows Ended .apart (handleConnection client request) := by
  have recovers := close_apart client WS_CLOSE_INTERNAL_ERROR
  refine Protocol.Follows.tryCatch ?_
  refine Protocol.Follows.perform_bind trivial (fun user => ?_) fun _ => recovers
  cases user with
  | none => exact ⟨trivial, fun answer => by cases answer <;> first | exact .inr rfl | exact recovers⟩
  | some userId =>
    refine Protocol.Follows.perform_bind trivial (fun bonds => ?_) fun _ => recovers
    dsimp only
    split
    · exact ⟨trivial, fun answer => by cases answer <;> first | exact .inr rfl | exact recovers⟩
    · exact ⟨trivial, fun answer => by cases answer <;> first | exact .inr rfl | exact recovers⟩

theorem handler_delivers (entry : Entry) : delivering.Follows Ended entry.stage (handler entry) := by
  cases entry with
  | connection client request => exact handleConnection_apart client request
  | message message =>
    cases message with
    | notificationCreated userId frame => exact send_delivers _ _
    | activityChanged bondId frame => exact deliverToBond_delivers bondId frame
    | expenseChanged bondId frame => exact deliverToBond_delivers bondId frame

variable {past : List (Event gateway)} {bondId : Uuid} {event : Event gateway}

theorem not_permitted_finished {query : Call} : ¬delivering.permits .finished query := by
  cases query <;> exact id

/-- A delivery to a user writes once. -/
theorem past_of_writing (permitted : delivering.Permitted (.writing userIds text) past) :
    past = [] ∨ ∃ before answer after, past = [⟨before, .send userIds text, answer, after⟩] := by
  induction past with
  | nil => exact .inl rfl
  | cons event older ih =>
    obtain ⟨before, query, answer, after⟩ := event
    obtain ⟨permits, earlier⟩ := permitted
    rcases ih earlier with rfl | ⟨before, answer, after, rfl⟩
    · cases query with
      | send others raw =>
        obtain ⟨rfl, rfl⟩ := permits
        exact .inr ⟨_, _, _, rfl⟩
      | _ => exact permits.elim
    · exact absurd permits not_permitted_finished

/-- A delivery to a bond asks once, and writes once when it was answered. -/
theorem past_of_asking (permitted : delivering.Permitted (.asking bondId text) past) :
    past = [] ∨ ∃ before answer after, past = [⟨before, .findActiveMemberIds bondId, answer, after⟩] ∨
      ∃ memberIds, answer = .ok memberIds ∧ ∃ later sent done,
        past = [⟨later, .send memberIds text, sent, done⟩,
          ⟨before, .findActiveMemberIds bondId, answer, after⟩] := by
  induction past with
  | nil => exact .inl rfl
  | cons event older ih =>
    obtain ⟨before, query, answer, after⟩ := event
    obtain ⟨permits, earlier⟩ := permitted
    rcases ih earlier with rfl | ⟨first, asked, found, rfl | ⟨memberIds, rfl, later, sent, done, rfl⟩⟩
    · cases query with
      | findActiveMemberIds other =>
        obtain rfl : other = bondId := permits
        exact .inr ⟨_, _, _, .inl rfl⟩
      | _ => exact permits.elim
    · cases asked with
      | error error => exact absurd permits not_permitted_finished
      | ok memberIds =>
        cases query with
        | send others raw =>
          obtain ⟨rfl, rfl⟩ := permits
          exact .inr ⟨_, _, _, .inr ⟨_, rfl, _, _, _, rfl⟩⟩
        | _ => exact permits.elim
    · exact absurd permits not_permitted_finished

/-! ## Every run -/

variable {cfg : Config gateway} {allowed : Config gateway → Move gateway → Prop}

/-- What was answered before went on as it was answered, in a registry where every socket
has one user. -/
theorem past_genuine (connectsOnce : ∀ cfg move, allowed cfg move → ConnectsOnce cfg move)
    (run : Run gateway allowed cfg) : ∀ thread ∈ cfg.threads, ∀ event ∈ thread.past,
      event.Genuine ∧ event.before.registry.Single := by
  induction run with
  | start => simp
  | step before _ moved ih =>
    intro thread member event there
    rcases thread_came moved member with old | ⟨entry, rfl⟩ | ⟨acting, last, rest, acts, -, rfl⟩
    · exact ih thread old event there
    · cases there
    · obtain ⟨mine, query, next, answer, after, -, rfl, -, answers⟩ := acts_cases acts
      rcases List.mem_cons.mp there with rfl | earlier
      · exact ⟨answers, (run_socketsApart connectsOnce before).single⟩
      · exact ih acting mine event earlier

/-- A write is never refused. -/
theorem writes_of_answers {before after : World} {answer : Except Exception Unit}
    (answers : Answers gateway (.send userIds text) before answer after)
    (single : before.registry.Single) : answer = .ok () ∧ Writes before after userIds text := by
  rcases answers.elim with ⟨rfl, rfl⟩ | ⟨error, may, -, -⟩
  · exact ⟨rfl, writes_send single⟩
  · cases may

/-- Those that are found to be members are so when they are asked for. -/
theorem members_of_answers {before after : World} {memberIds : List Uuid}
    (answers : Answers gateway (.findActiveMemberIds bondId) before (.ok memberIds) after) :
    memberIds = before.surroundings.findActiveMemberIds bondId ∧ after = before := by
  rcases answers.elim with ⟨same, rfl⟩ | ⟨error, -, same, -⟩
  · cases same
    exact ⟨rfl, rfl⟩
  · cases same

/-- Asking for the members writes nothing. -/
theorem sent_of_asking {before after : World} {answer : Except Exception (List Uuid)}
    (answers : Answers gateway (.findActiveMemberIds bondId) before answer after) :
    after.sent = before.sent := by
  rcases answers.elim with ⟨-, rfl⟩ | ⟨-, -, -, rfl⟩ <;> rfl

/-! ## No delivery fails -/

/-- What a message is delivered with ends with no error. -/
def delivers : Discipline gateway where
  inv _ := True
  rely _ _ := True
  guar _ _ _ := True
  post entry result _ := ∀ message error, entry = .message message → result ≠ .error error

theorem keeps_send {entry : Entry} (userIds : List Uuid) (text : String) :
    delivers.Keeps entry (delivers.post entry) (perform (.send userIds text)) past := by
  refine Discipline.Keeps.perform fun before answer after _ _ answers _ => ⟨trivial, trivial, ?_⟩
  rcases answers.elim with ⟨same, -⟩ | ⟨error, may, -, -⟩
  · rintro message error - thrown
    cases same.symm.trans thrown
  · cases may

theorem keeps_deliverToBond {entry : Entry} (bondId : Uuid) (frame : Record) :
    delivers.Keeps entry (delivers.post entry) (deliverToBond bondId frame) past := by
  refine Discipline.Keeps.tryCatch (Discipline.Keeps.perform_bind fun before answer after _ _ _ _ =>
    ⟨trivial, trivial, ?_⟩)
  cases answer with
  | error error => exact fun _ _ _ => nofun
  | ok memberIds =>
    refine (keeps_send memberIds _).mono fun result past post => ?_
    cases result with
    | ok _ => exact post
    | error error => exact fun _ _ _ => nofun

theorem delivers_sound : delivers.Sound where
  refl _ := trivial
  trans _ _ := trivial
  start := trivial
  nudge _ _ _ := ⟨trivial, trivial⟩
  guar_rely _ _ := trivial
  handlers entry := by
    cases entry with
    | connection client request =>
      refine Discipline.Keeps.of_calls ((handler_delivers (.connection client request)).calls
        fun _ _ _ => trivial) (fun _ _ _ _ _ _ _ _ _ => ⟨trivial, trivial⟩) ?_
      rintro result added - message error same
      cases same
    | message message =>
      cases message with
      | notificationCreated userId frame => exact keeps_send _ _
      | activityChanged bondId frame => exact keeps_deliverToBond bondId frame
      | expenseChanged bondId frame => exact keeps_deliverToBond bondId frame

/-! ## Frames -/

/-- Whom a frame is for and what they are sent: the user that it names gets it without the
name, and those that were members of its bond when they were asked for get it whole. -/
inductive Addressed (frame : Record) (past : List (Event gateway)) : List Uuid → Record → Prop where
  | user {userId : Uuid} : frame.lookup "type" = some (.str "notification.created") →
      frame.lookup "userId" = some (.str userId) →
      Addressed frame past [userId] (frame.filter (·.1 ≠ "userId"))
  | bond {type : String} {bondId : Uuid} {world : World} :
      type = "activity.changed" ∨ type = "expense.changed" → frame.lookup "type" = some (.str type) →
      frame.lookup "bondId" = some (.str bondId) →
      ⟨world, .findActiveMemberIds bondId, .ok (world.surroundings.findActiveMemberIds bondId), world⟩ ∈
        past →
      Addressed frame past (world.surroundings.findActiveMemberIds bondId) frame

def Call.writes : Call → Bool
  | .send _ _ => true
  | _ => false

/-- What a delivery of a frame has done so far. -/
structure Delivered (frame : Record) (past : List (Event gateway)) : Prop where
  writes : ∀ event ∈ past, ∀ userIds text, event.query = .send userIds text →
    ∃ written, Addressed frame past userIds written ∧ text = jsonStringify (.obj written) ∧
      Writes event.before event.after userIds text
  spares : ∀ event ∈ past, event.query.writes = false → event.after.sent = event.before.sent
  once : past.countP (·.query.writes) ≤ 1
  /-- What is written of a notification does not say whose it is. -/
  unnamed : frame.lookup "type" = some (.str "notification.created") → ∀ userIds written,
    Addressed frame past userIds written → "userId" ∉ written.map Prod.fst

theorem Delivered.nil {frame : Record}
    (unnamed : frame.lookup "type" = some (.str "notification.created") → ∀ userIds written,
      Addressed frame [] userIds written → "userId" ∉ written.map Prod.fst) : Delivered frame [] where
  writes := List.forall_mem_nil _
  spares := List.forall_mem_nil _
  once := Nat.zero_le 1
  unnamed := unnamed

theorem Addressed.unnamed {frame written : Record} (type : frame.lookup "type" = some (.str "notification.created"))
    (addressed : Addressed frame past userIds written) : "userId" ∉ written.map Prod.fst := by
  cases addressed with
  | user _ _ =>
    intro there
    obtain ⟨member, kept, key⟩ := List.mem_map.mp there
    exact of_decide_eq_true (List.mem_filter.mp kept).2 key
  | bond kind named _ _ =>
    rw [type, Option.some.injEq, Json.str.injEq] at named
    rcases kind with rfl | rfl
    · exact absurd named (by decide)
    · exact absurd named (by decide)

theorem exists_of_isString {value : Option Json} (found : isString value = true) :
    ∃ string, value = some (.str string) := by
  unfold isString at found
  split at found
  · exact ⟨_, rfl⟩
  · cases found

theorem asString_eq {value : Option Json} {string : String} (read : asString value = some string) :
    value = some (.str string) := by
  unfold asString at read
  split at read
  · cases read
    rfl
  · cases read

theorem stringAt_eq {frame : Record} {key string : String}
    (found : frame.lookup key = some (.str string)) : stringAt frame key = string := by
  rw [stringAt, found]
  rfl

/-- A text that parses is routed by the strings that were found in it. -/
theorem message_of_accepted {raw : String} {frame : Record}
    (accepted : parseRealtimeFrame raw = .ok (some frame)) :
    (∃ userId, frame.lookup "type" = some (.str "notification.created") ∧
      frame.lookup "userId" = some (.str userId) ∧
      messageOf frame = .notificationCreated userId (frame.filter (·.1 ≠ "userId"))) ∨
    ∃ type bondId, (type = "activity.changed" ∨ type = "expense.changed") ∧
      frame.lookup "type" = some (.str type) ∧ frame.lookup "bondId" = some (.str bondId) ∧
      (messageOf frame = .activityChanged bondId frame ∨ messageOf frame = .expenseChanged bondId frame) := by
  unfold parseRealtimeFrame at accepted
  split at accepted
  · cases accepted
  · rename_i parsed _
    have read : realtimeFrame parsed = some frame := Except.ok.inj accepted
    unfold realtimeFrame at read
    split at read
    · rename_i members
      split at read
      · cases read
      · split at read <;> rename_i type
        · split at read <;> cases read
          rename_i checked
          obtain ⟨bondId, bond⟩ := exists_of_isString (Bool.and_eq_true_iff.mp checked).1
          refine .inr ⟨_, bondId, .inl rfl, asString_eq type, bond, .inl ?_⟩
          simp only [messageOf, type, stringAt_eq bond]
          rfl
        · split at read <;> cases read
          rename_i checked
          obtain ⟨bondId, bond⟩ := exists_of_isString
            (Bool.and_eq_true_iff.mp (Bool.and_eq_true_iff.mp checked).1).1
          refine .inr ⟨_, bondId, .inr rfl, asString_eq type, bond, .inr ?_⟩
          simp only [messageOf, type, stringAt_eq bond]
        · split at read <;> cases read
          rename_i checked
          simp only [isNotificationCreated, Bool.and_eq_true] at checked
          obtain ⟨userId, user⟩ := exists_of_isString checked.1.1.1.1.2
          refine .inl ⟨userId, asString_eq type, user, ?_⟩
          simp only [messageOf, type, stringAt_eq user]
        · cases read
    · cases read

/-- Where every call was answered, a delivery that is over has written. -/
theorem delivered_of_permitted {frame : Record} {raw : String} {entry : Entry}
    (accepted : parseRealtimeFrame raw = .ok (some frame)) (own : entry = .message (messageOf frame))
    (permitted : delivering.Permitted entry.stage past)
    (genuine : ∀ event ∈ past, event.Genuine ∧ event.before.registry.Single) :
    Delivered frame past ∧ ((∀ event ∈ past, ∃ value, event.answer = .ok value) →
      Ended (.ok ()) (delivering.reached entry.stage past) → past.countP (·.query.writes) = 1) := by
  subst own
  have unnamed (type : frame.lookup "type" = some (.str "notification.created")) (userIds : List Uuid)
      (written : Record) (addressed : Addressed frame past userIds written) :
      "userId" ∉ written.map Prod.fst := addressed.unnamed type
  rcases message_of_accepted accepted with
    ⟨userId, type, user, routed⟩ | ⟨type, bondId, kind, named, bond, routed⟩
  · rw [routed] at permitted ⊢
    rcases past_of_writing permitted with rfl | ⟨before, answer, after, rfl⟩
    · exact ⟨.nil unnamed, fun _ ended => ended.elim nofun nofun⟩
    · obtain ⟨answers, single⟩ := genuine _ List.mem_cons_self
      obtain ⟨-, written⟩ := writes_of_answers answers single
      refine ⟨⟨fun event there userIds text same => ?_, fun event there silent => ?_, Nat.le_refl 1, unnamed⟩,
        fun _ _ => rfl⟩
      · rw [List.mem_singleton.mp there] at same ⊢
        cases same
        exact ⟨_, .user type user, rfl, written⟩
      · rw [List.mem_singleton.mp there] at silent
        cases silent
  · have asked : Entry.stage (.message (messageOf frame)) = .asking bondId (jsonStringify (.obj frame)) := by
      rcases routed with same | same <;> rw [same] <;> rfl
    rw [asked] at permitted ⊢
    rcases past_of_asking permitted with rfl | ⟨before, answer, after, rfl |
      ⟨memberIds, rfl, later, sent, done, rfl⟩⟩
    · exact ⟨.nil unnamed, fun _ ended => ended.elim nofun nofun⟩
    · obtain ⟨answers, -⟩ := genuine _ List.mem_cons_self
      refine ⟨⟨fun event there userIds text same => ?_, fun event there _ => ?_, Nat.zero_le 1, unnamed⟩,
        fun answered ended => ?_⟩
      · rw [List.mem_singleton.mp there] at same
        cases same
      · rw [List.mem_singleton.mp there]
        exact sent_of_asking answers
      · obtain ⟨memberIds, same⟩ := answered _ List.mem_cons_self
        have found : answer = .ok memberIds := same
        rw [found] at ended
        exact ended.elim nofun nofun
    · obtain ⟨answers, -⟩ := genuine _ (List.mem_cons_of_mem _ List.mem_cons_self)
      obtain ⟨rfl, rfl⟩ : memberIds = before.surroundings.findActiveMemberIds bondId ∧ after = before :=
        members_of_answers answers
      obtain ⟨writing, single⟩ := genuine _ List.mem_cons_self
      obtain ⟨-, written⟩ := writes_of_answers writing single
      refine ⟨⟨fun event there userIds text same => ?_, fun event there silent => ?_, Nat.le_refl 1, unnamed⟩,
        fun _ _ => rfl⟩
      · rcases List.mem_cons.mp there with rfl | first
        · cases same
          refine ⟨_, .bond kind named bond ?_, rfl, written⟩
          exact List.mem_cons_of_mem _ List.mem_cons_self
        · rw [List.mem_singleton.mp first] at same
          cases same
      · rcases List.mem_cons.mp there with rfl | first
        · cases silent
        · rw [List.mem_singleton.mp first]

theorem reached_apart (past : List (Event gateway)) : delivering.reached .apart past = .apart := by
  induction past with
  | nil => rfl
  | cons event past ih =>
    change delivering.next (delivering.reached .apart past) event.query event.answer = .apart
    rw [ih]
    rfl

/-- Only deliveries write. -/
theorem message_of_permits {entry : Entry}
    (permits : delivering.permits (delivering.reached entry.stage past) (.send userIds text)) :
    ∃ message, entry = .message message := by
  cases entry with
  | message message => exact ⟨message, rfl⟩
  | connection client request =>
    have apart : delivering.reached (Entry.connection client request).stage past = .apart :=
      reached_apart past
    rw [apart] at permits
    exact permits.elim

/-- What a socket did not have before a call, the call has written to its user. -/
theorem written_of_answers {query : Call} {before after : World}
    {answer : Except Exception (interface.Answer query)} (answers : Answers gateway query before answer after)
    (single : before.registry.Single) (new : text ∈ after.received socket)
    (unknown : text ∉ before.received socket) :
    ∃ userIds userId, query = .send userIds text ∧ userId ∈ userIds ∧
      before.registry.Holds userId socket := by
  rcases answers.elim with ⟨-, rfl⟩ | ⟨-, -, -, rfl⟩
  · cases query with
    | send userIds raw =>
      have writes : Writes before (serve (.send userIds raw) before).2 userIds raw := writes_send single
      by_cases held : ∃ userId, before.registry.Holds userId socket
      · obtain ⟨userId, holds⟩ := held
        have received : text ∈ (serve (.send userIds raw) before).2.received socket := new
        rw [writes.held userId socket holds, List.mem_append] at received
        rcases received with old | added
        · exact absurd old unknown
        · split at added
          · rename_i reached
            rw [List.mem_singleton.mp added]
            exact ⟨userIds, userId, rfl, reached.2, holds⟩
          · cases added
      · have received : text ∈ (serve (.send userIds raw) before).2.received socket := new
        rw [writes.free socket fun userId holds => held ⟨userId, holds⟩] at received
        exact absurd received unknown
    | _ => exact absurd new unknown
  · exact absurd new unknown

/-- What a socket was sent, a delivery to its user has written. -/
def Accounted (cfg : Config gateway) : Prop :=
  ∀ socket text, text ∈ cfg.world.received socket → ∃ thread ∈ cfg.threads, ∃ event ∈ thread.past,
    ∃ userIds userId, (∃ message, thread.entry = .message message) ∧
      event.query = .send userIds text ∧ userId ∈ userIds ∧ event.before.registry.Holds userId socket

theorem accounted_of_run (run : Run gateway (fun cfg move => ConnectsOnce cfg move = true) cfg) :
    Accounted cfg := by
  induction run with
  | start => nofun
  | @step cfg cfg' move before connectsOnce moved ih =>
    intro socket text there
    by_cases known : text ∈ cfg.world.received socket
    · obtain ⟨thread, member, event, happened, found⟩ := ih socket text known
      rcases thread_goes_on moved member with still | ⟨index, crash, -⟩ | ⟨last, rest, -, onward⟩
      · exact ⟨thread, still, event, happened, found⟩
      · rw [crash] at connectsOnce
        cases connectsOnce
      · exact ⟨_, onward, event, List.mem_cons_of_mem last happened, found⟩
    · rcases advance_cases moved with ⟨how, rfl, rfl⟩ | ⟨entry, rfl, rfl⟩ | ⟨index, rfl, rfl⟩ |
        ⟨index, thread, event, rest, at_, acts, rfl⟩
      · cases how <;> exact absurd there known
      · exact absurd there known
      · exact absurd there known
      · obtain ⟨mine, query, next, answer, after, shape, rfl, rfl, answers⟩ := acts_cases acts
        have single := (run_socketsApart (fun _ _ connectsOnce => connectsOnce) before).single
        obtain ⟨userIds, userId, rfl, named, holds⟩ := written_of_answers answers single there known
        have permits : delivering.permits (delivering.reached thread.entry.stage thread.past)
            (.send userIds text) := ((before.follows handler_delivers thread mine).act acts).1
        exact ⟨_, List.mem_set (List.getElem?_eq_some_iff.mp at_).1 _, _, List.mem_cons_self, userIds,
          userId, message_of_permits permits, rfl, named, holds⟩

/-- **Frames reach their audience and nobody else.** -/
theorem frames_reach_audience (run : Run gateway (fun cfg move => ConnectsOnce cfg move = true) cfg) :
    (∀ thread ∈ cfg.threads, ∀ raw frame, parseRealtimeFrame raw = .ok (some frame) →
      thread.entry = .message (messageOf frame) → Delivered frame thread.past ∧
        (∀ error, thread.rest ≠ .throw error) ∧
        (thread.rest = .ret () → (∀ event ∈ thread.past, ∃ value, event.answer = .ok value) →
          thread.past.countP (·.query.writes) = 1)) ∧
    Accounted cfg := by
  refine ⟨fun thread member raw frame accepted own => ?_, accounted_of_run run⟩
  have permitted := run.permitted handler_delivers thread member
  have follows := run.follows handler_delivers thread member
  obtain ⟨delivered, complete⟩ := delivered_of_permitted accepted own permitted
    (past_genuine (fun _ _ connectsOnce => connectsOnce) run thread member)
  have returns := (run.ended delivers_sound (Discipline.supplies_of_assumes fun _ _ _ => trivial) member).2
  refine ⟨delivered, fun error thrown => returns error thrown _ error own rfl, fun finished answered =>
    complete answered ?_⟩
  rw [finished] at follows
  exact follows

/-! ## A run -/

/-- Two users are in one bond, and the query returns the first of them twice. -/
def acquainted : Surroundings where
  authenticate request := request.authorization
  findByUserId _ := ["b1"]
  findActiveMemberIds _ := ["u1", "u1"]

def activityFrame : Record :=
  [("v", .num (.ofInt 1)), ("type", .str "activity.changed"), ("eventId", .str "e1"), ("bondId", .str "b1")]

def notificationFrame : Record :=
  [("v", .num (.ofInt 1)), ("type", .str "notification.created"), ("notificationId", .str "n1"),
   ("userId", .str "u2"), ("notificationType", .str "activity_assigned"),
   ("refEntityType", .str "activity"), ("refEntityId", .null),
   ("occurredAt", .str "2026-10-26T10:00:00.000Z")]

/-- Two users connect, the first of them with a socket more, which its side closes; and a frame of a
bond and one of a notification are delivered. -/
def deliveries : List (Move gateway) :=
  [.nudge (.surroundings acquainted), .arrive (.connection 1 ⟨some "u1"⟩), .turn 0, .turn 0, .turn 0,
    .arrive (.connection 2 ⟨some "u2"⟩), .turn 1, .turn 1, .turn 1,
    .arrive (.connection 3 ⟨some "u1"⟩), .turn 2, .turn 2, .turn 2, .nudge (.leave 3),
    .arrive (.message (messageOf activityFrame)), .turn 3, .turn 3,
    .arrive (.message (messageOf notificationFrame)), .turn 4]

theorem frames_reach_audience_two : ∃ cfg thread,
    Run gateway (fun cfg move => ConnectsOnce cfg move = true) cfg ∧ thread ∈ cfg.threads ∧
    Delivered activityFrame thread.past ∧ Accounted cfg ∧
      cfg.world.received 1 = [jsonStringify (.obj activityFrame)] ∧
        cfg.world.received 2 = [jsonStringify (.obj (notificationFrame.filter (·.1 ≠ "userId")))] ∧
          cfg.world.received 3 = [] := by
  obtain ⟨cfg, thread, ends, at_, own, first, second, third⟩ : ∃ cfg thread,
      play (fun cfg move => ConnectsOnce cfg move = true) deliveries ⟨gateway.start, []⟩ = some cfg ∧
        cfg.threads[3]? = some thread ∧ thread.entry = .message (messageOf activityFrame) ∧
          cfg.world.received 1 = [jsonStringify (.obj activityFrame)] ∧
            cfg.world.received 2 = [jsonStringify (.obj (notificationFrame.filter (·.1 ≠ "userId")))] ∧
              cfg.world.received 3 = [] :=
    ⟨_, _, rfl, rfl, rfl, rfl, rfl, rfl⟩
  have run : Run gateway (fun cfg move => ConnectsOnce cfg move = true) cfg :=
    Run.start.onward (Onward.here.play ends) fun _ _ connectsOnce => connectsOnce
  obtain ⟨reaches, accounted⟩ := frames_reach_audience run
  have accepted := @parseRealtimeFrame_stringify activityFrame (by decide)
  exact ⟨cfg, thread, run, List.mem_of_getElem? at_,
    (reaches thread (List.mem_of_getElem? at_) _ _ accepted own).1, accounted, first, second, third⟩

end ParentalCoord.Realtime

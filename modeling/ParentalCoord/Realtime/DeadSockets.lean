import ParentalCoord.Interleaving.Protocol
import ParentalCoord.Realtime.Gateway

/-!
What the registry holds, whatever comes between the pauses of a handshake.

A socket is registered once, by its own handshake, and so under one user at most.  When it
is closed before its handshake gets to register it, it is registered all the same, and
nothing takes it out again.
-/

namespace ParentalCoord.Realtime

open Interleaving Store

/-- The socket of a handshake. -/
def Entry.client : Entry → Option WebSocket
  | .connection client _ => some client
  | .message _ => none

variable {cfg cfg' : Config gateway} {move : Move gateway} {client : WebSocket}
  {thread : Thread gateway} {allowed : Config gateway → Move gateway → Prop}

/-- A socket connects once, and is closed once it has connected; and the process goes on. -/
def ConnectsOnce (cfg : Config gateway) (move : Move gateway) : Bool :=
  match move with
  | .arrive (.connection client _) => cfg.threads.all fun thread => thread.entry.client ≠ some client
  | .nudge (.disconnect client) => cfg.threads.any fun thread => thread.entry.client = some client
  | .crash _ => false
  | _ => true

/-- No socket is registered that is closed already. -/
def Punctual (cfg : Config gateway) (move : Move gateway) : Bool :=
  match cfg.acts move with
  | some (_, ⟨_, .register _ client, _, _⟩, _) => client ∉ cfg.world.closed
  | _ => true

/-- A handler that waits for a lookup, or has yet to go on after one. -/
def Suspended (thread : Thread gateway) : Prop := ∃ query next, thread.rest = .call query next

/-- The socket was closed, and its handshake is over. -/
def Gone (cfg : Config gateway) (client : WebSocket) : Prop :=
  client ∈ cfg.world.closed ∧
    ∀ thread ∈ cfg.threads, thread.entry.client = some client → ¬ Suspended thread

/-- No socket that is gone is in a set. -/
def NoDead (cfg : Config gateway) : Prop :=
  ∀ client, Gone cfg client → ∀ userId, ¬ cfg.world.registry.Holds userId client

/-! ## One handshake -/

/-- How far a handler is. -/
inductive Phase where
  /-- It may still register the socket. -/
  | waiting (client : WebSocket)
  /-- It does not register any. -/
  | mute
  /-- It has registered its socket, and makes no further call. -/
  | ended

def Entry.phase : Entry → Phase
  | .connection client _ => .waiting client
  | .message _ => .mute

def registering : Protocol interface Exception where
  Phase := Phase
  permits
    | .ended, _ => False
    | phase, .register _ client => phase = .waiting client
    | _, _ => True
  next
    | _, .register _ _, .ok _ => .ended
    | _, .register _ _, .error _ => .mute
    | phase, _, _ => phase

abbrev Registers (phase : Phase) (handler : Request Unit) : Prop :=
  registering.Follows (fun _ _ => True) phase handler

theorem closes {phase : Phase} (under_way : phase ≠ .ended) (client : WebSocket) (code : ℕ) :
    Registers phase (perform (.close client code)) := by
  cases phase with
  | ended => exact absurd rfl under_way
  | _ => exact ⟨trivial, fun answer => by cases answer <;> trivial⟩

theorem sends (userIds : List Uuid) (raw : String) : Registers .mute (perform (.send userIds raw)) :=
  ⟨trivial, fun answer => by cases answer <;> trivial⟩

theorem handleConnection_registers (client : WebSocket) (request : IncomingMessage) :
    Registers (.waiting client) (handleConnection client request) := by
  have recovers : Registers (.waiting client) (perform (.close client WS_CLOSE_INTERNAL_ERROR)) :=
    @closes (.waiting client) nofun _ _
  refine Protocol.Follows.tryCatch ?_
  refine Protocol.Follows.perform_bind trivial (fun user => ?_) fun _ => recovers
  cases user with
  | none => exact ⟨trivial, fun answer => by cases answer <;> trivial⟩
  | some userId =>
    refine Protocol.Follows.perform_bind trivial (fun bonds => ?_) fun _ => recovers
    dsimp only
    split
    · exact ⟨trivial, fun answer => by cases answer <;> trivial⟩
    · refine ⟨rfl, fun answer => ?_⟩
      cases answer with
      | ok _ => trivial
      | error _ => exact @closes .mute nofun _ _

theorem deliverToBond_registers (bondId : Uuid) (frame : Record) :
    Registers .mute (deliverToBond bondId frame) := by
  refine ⟨trivial, fun answer => ?_⟩
  cases answer with
  | error _ => trivial
  | ok memberIds => exact ⟨trivial, fun answer => by cases answer <;> trivial⟩

theorem handler_registers (entry : Entry) : Registers entry.phase (handler entry) := by
  cases entry with
  | connection client request => exact handleConnection_registers client request
  | message message =>
    cases message with
    | notificationCreated userId frame => exact sends _ _
    | activityChanged bondId frame => exact deliverToBond_registers bondId frame
    | expenseChanged bondId frame => exact deliverToBond_registers bondId frame

/-! ## Every run -/

/-- Two handlers of one socket stand in the same place. -/
theorem place_unique {α β : Type} {f : α → Option β} {values : List α} {b : β} {i j : ℕ} {a a' : α}
    (unique : (values.filterMap f).Nodup) (here : values[i]? = some a) (there : values[j]? = some a')
    (own : f a = some b) (own' : f a' = some b) : i = j := by
  rw [List.Nodup, List.pairwise_filterMap, List.pairwise_iff_getElem] at unique
  obtain ⟨first, rfl⟩ := List.getElem?_eq_some_iff.mp here
  obtain ⟨second, rfl⟩ := List.getElem?_eq_some_iff.mp there
  rcases Nat.lt_trichotomy i j with before | same | after
  · exact absurd rfl (unique i j first second before b own b own')
  · exact same
  · exact absurd rfl (unique j i second first after b own' b own)

abbrev reached (thread : Thread gateway) : Phase := registering.reached thread.entry.phase thread.past

theorem client_of_waiting {entry : Entry} {past : List (Event gateway)}
    (waiting : registering.reached entry.phase past = .waiting client) :
    entry.client = some client := by
  induction past with
  | nil =>
    cases entry with
    | connection _ _ => exact congrArg some (Phase.waiting.inj waiting)
    | message _ => cases waiting
  | cons event past ih =>
    apply ih
    obtain ⟨before, query, answer, after⟩ := event
    change registering.next (registering.reached entry.phase past) query answer = .waiting client at waiting
    cases query with
    | register _ _ => cases answer <;> cases waiting
    | _ => exact waiting

/-- What every such run keeps. -/
structure SocketsApart (cfg : Config gateway) : Prop where
  single : cfg.world.registry.Single
  inhabited : cfg.world.registry.Inhabited
  apart : (cfg.threads.filterMap (·.entry.client)).Nodup
  connected : ∀ userId client, cfg.world.registry.Holds userId client →
    client ∈ cfg.threads.filterMap (·.entry.client)
  waiting : ∀ thread ∈ cfg.threads, ∀ client, reached thread = .waiting client →
    ∀ userId, ¬ cfg.world.registry.Holds userId client

theorem clients_set {threads : List (Thread gateway)} {index : ℕ} {event : Event gateway}
    {rest : Request Unit} (at_ : threads[index]? = some thread) :
    (threads.set index (thread.after event rest)).filterMap (·.entry.client) =
      threads.filterMap (·.entry.client) := by
  have entries : (threads.set index (thread.after event rest)).map (·.entry) = threads.map (·.entry) := by
    refine List.ext_getElem? fun place => ?_
    rw [List.getElem?_map, List.getElem?_map]
    by_cases here : index = place
    · subst here
      rw [List.getElem?_set_self (List.getElem?_eq_some_iff.mp at_).1, at_]
      rfl
    · rw [List.getElem?_set_ne here]
  have mapped (values : List (Thread gateway)) : values.filterMap (·.entry.client) =
      (values.map (·.entry)).filterMap Entry.client := by
    rw [List.filterMap_map]
    rfl
  rw [mapped, mapped, entries]

theorem next_plain {phase : Phase} {query : Call} {answer : Except Exception (interface.Answer query)}
    (plain : ∀ userId client, query ≠ .register userId client) :
    registering.next phase query answer = phase := by
  cases query with
  | register userId client => exact absurd rfl (plain userId client)
  | _ => rfl

/-- What a call does to the registry: nothing, unless it registers the socket of its own
handshake, which ends with it. -/
theorem registry_act {event : Event gateway} {rest : Request Unit} (run : Run gateway allowed cfg)
    (acts : cfg.acts move = some (thread, event, rest)) :
    event.after.closed = cfg.world.closed ∧
      (event.after.registry = cfg.world.registry ∧ reached (thread.after event rest) = reached thread ∧
          (∀ userId client, event.query ≠ .register userId client) ∨
        ∃ userId client, event = ⟨cfg.world, .register userId client, .ok (), event.after⟩ ∧
          event.after.registry = cfg.world.registry.register userId client ∧
            reached thread = .waiting client ∧ reached (thread.after event rest) = .ended ∧
              ¬ Suspended (thread.after event rest)) := by
  obtain ⟨member, query, next, answer, after, shape, rfl, rfl, answers⟩ := acts_cases acts
  have follows : Registers (reached thread) thread.rest :=
    run.follows handler_registers thread member
  rw [shape] at follows
  obtain ⟨permitted, more⟩ := follows
  rcases answers.elim with ⟨rfl, rfl⟩ | ⟨error, may, rfl, rfl⟩
  · cases query with
    | register userId client =>
      refine ⟨rfl, .inr ⟨userId, client, rfl, rfl, ?_, rfl, ?_⟩⟩
      · generalize reached thread = phase at permitted
        cases phase with
        | ended => exact permitted.elim
        | _ => exact permitted
      · rintro ⟨query, after, again⟩
        have ended := more (.ok ())
        change next (.ok ()) = _ at again
        rw [again] at ended
        exact ended.1
    | _ => exact ⟨rfl, .inl ⟨rfl, next_plain nofun, nofun⟩⟩
  · have plain : ∀ userId client, query ≠ .register userId client := by
      rintro userId client rfl
      cases may
    exact ⟨rfl, .inl ⟨rfl, next_plain plain, plain⟩⟩

theorem SocketsApart.nudged (kept : SocketsApart cfg) (how : Nudge) :
    SocketsApart ⟨gateway.nudge how cfg.world, cfg.threads⟩ := by
  cases how with
  | surroundings surroundings => exact ⟨kept.single, kept.inhabited, kept.apart, kept.connected, kept.waiting⟩
  | leave client => exact ⟨kept.single, kept.inhabited, kept.apart, kept.connected, kept.waiting⟩
  | disconnect client =>
    refine ⟨fun userId other socket held held' => ?_, kept.inhabited.handleDisconnect, kept.apart,
      fun userId socket held => ?_, fun thread member socket waiting userId held => ?_⟩
    · exact kept.single _ _ _ (holds_of_handleDisconnect held) (holds_of_handleDisconnect held')
    · exact kept.connected _ _ (holds_of_handleDisconnect held)
    · exact kept.waiting thread member socket waiting userId (holds_of_handleDisconnect held)

/-- A socket that arrives is that of no handler, so no set has it yet. -/
theorem SocketsApart.arrived {entry : Entry} (kept : SocketsApart cfg)
    (connectsOnce : ConnectsOnce cfg (.arrive entry)) :
    SocketsApart ⟨cfg.world, cfg.threads ++ [Thread.begin gateway entry]⟩ := by
  have fresh (client : WebSocket) (own : entry.client = some client) (thread : Thread gateway)
      (member : thread ∈ cfg.threads) : thread.entry.client ≠ some client := by
    cases entry with
    | connection socket request =>
      cases own
      exact of_decide_eq_true (List.all_eq_true.mp connectsOnce thread member)
    | message message => cases own
  refine ⟨kept.single, kept.inhabited, ?_, fun userId client held => ?_, ?_⟩
  · rw [List.filterMap_append, List.nodup_append]
    refine ⟨kept.apart, ?_, fun client old other new same => ?_⟩
    · cases entry <;> simp [Thread.begin, Entry.client]
    · obtain ⟨thread, there, own⟩ := List.mem_filterMap.mp old
      obtain ⟨begun, here, own'⟩ := List.mem_filterMap.mp new
      rw [List.mem_singleton.mp here] at own'
      exact fresh other own' thread there (same ▸ own)
  · rw [List.filterMap_append]
    exact List.mem_append_left _ (kept.connected userId client held)
  · intro thread member client waiting userId held
    rcases List.mem_append.mp member with old | new
    · exact kept.waiting thread old client waiting userId held
    · rw [List.mem_singleton.mp new] at waiting
      obtain ⟨other, there, own⟩ := List.mem_filterMap.mp (kept.connected userId client held)
      exact fresh client (client_of_waiting waiting) other there own

/-- A call that registers nothing. -/
theorem SocketsApart.passed {index : ℕ} {event : Event gateway} {rest : Request Unit} (kept : SocketsApart cfg)
    (at_ : cfg.threads[index]? = some thread) (same : event.after.registry = cfg.world.registry)
    (still : reached (thread.after event rest) = reached thread) :
    SocketsApart ⟨event.after, cfg.threads.set index (thread.after event rest)⟩ := by
  have clients := @clients_set thread cfg.threads index event rest at_
  have here := List.mem_of_getElem? at_
  refine ⟨?_, ?_, clients ▸ kept.apart, fun userId client held => ?_, ?_⟩
  · rw [same]
    exact kept.single
  · rw [same]
    exact kept.inhabited
  · rw [same] at held
    exact clients ▸ kept.connected userId client held
  · rw [same]
    intro other member client waiting
    rcases List.mem_or_eq_of_mem_set member with old | rfl
    · exact kept.waiting other old client waiting
    · exact kept.waiting thread here client (still ▸ waiting)

/-- Whose socket a call registers, no other handler has. -/
theorem SocketsApart.registered {index : ℕ} {event : Event gateway} {rest : Request Unit} {userId : Uuid}
    (kept : SocketsApart cfg) (at_ : cfg.threads[index]? = some thread)
    (registered : event.after.registry = cfg.world.registry.register userId client)
    (waiting : reached thread = .waiting client)
    (over_ : reached (thread.after event rest) = .ended) :
    SocketsApart ⟨event.after, cfg.threads.set index (thread.after event rest)⟩ := by
  have clients := @clients_set thread cfg.threads index event rest at_
  have here := List.mem_of_getElem? at_
  have free := kept.waiting thread here client waiting
  have own := client_of_waiting waiting
  refine ⟨?_, ?_, clients ▸ kept.apart, fun other socket held => ?_, ?_⟩
  · rw [registered]
    intro first second socket held held'
    rcases holds_register.mp held with old | ⟨same, mine⟩ <;>
      rcases holds_register.mp held' with old' | ⟨same', mine'⟩
    · exact kept.single first second socket old old'
    · exact absurd (mine' ▸ old) (free first)
    · exact absurd (mine ▸ old') (free second)
    · exact same.trans same'.symm
  · rw [registered]
    exact kept.inhabited.register
  · rw [registered] at held
    refine clients ▸ ?_
    rcases holds_register.mp held with old | ⟨-, rfl⟩
    · exact kept.connected other socket old
    · exact List.mem_filterMap.mpr ⟨thread, here, own⟩
  · rw [registered]
    intro other member socket waiting' user held
    obtain ⟨place, there⟩ := List.mem_iff_getElem?.mp member
    by_cases acted : index = place
    · subst acted
      rw [List.getElem?_set_self (List.getElem?_eq_some_iff.mp at_).1, Option.some.injEq] at there
      rw [← there, over_] at waiting'
      cases waiting'
    · rw [List.getElem?_set_ne acted] at there
      rcases holds_register.mp held with old | ⟨-, rfl⟩
      · exact kept.waiting other (List.mem_of_getElem? there) socket waiting' user old
      · exact acted (place_unique kept.apart at_ there own (client_of_waiting waiting'))

theorem kept_step (run : Run gateway allowed cfg) (kept : SocketsApart cfg) (connectsOnce : ConnectsOnce cfg move)
    (moved : advance move cfg = some cfg') : SocketsApart cfg' := by
  rcases advance_cases moved with ⟨how, rfl, rfl⟩ | ⟨entry, rfl, rfl⟩ | ⟨index, rfl, rfl⟩ |
    ⟨index, thread, event, rest, at_, acts, rfl⟩
  · exact kept.nudged how
  · exact kept.arrived connectsOnce
  · cases connectsOnce
  · obtain ⟨-, ⟨same, still, -⟩ | ⟨userId, client, -, registered, waiting, over_, -⟩⟩ := registry_act run acts
    · exact kept.passed at_ same still
    · exact kept.registered at_ registered waiting over_

theorem run_socketsApart (connectsOnce : ∀ cfg move, allowed cfg move → ConnectsOnce cfg move)
    (run : Run gateway allowed cfg) : SocketsApart cfg := by
  induction run with
  | start =>
    refine ⟨?_, nofun, List.nodup_nil, ?_, nofun⟩
    · rintro userId other client ⟨row, found, -⟩
      cases found
    · rintro userId client ⟨row, found, -⟩
      cases found
  | step before permitted moved ih => exact kept_step before ih (connectsOnce _ _ permitted) moved

/-- Where no socket is registered that is closed, none that is closed is registered. -/
theorem punctual_step (run : Run gateway allowed cfg) (kept : SocketsApart cfg) (punctual : Punctual cfg move)
    (moved : advance move cfg = some cfg')
    (absent : ∀ client ∈ cfg.world.closed, ∀ userId, ¬ cfg.world.registry.Holds userId client) :
    ∀ client ∈ cfg'.world.closed, ∀ userId, ¬ cfg'.world.registry.Holds userId client := by
  rcases advance_cases moved with ⟨how, rfl, rfl⟩ | ⟨entry, rfl, rfl⟩ | ⟨index, rfl, rfl⟩ |
    ⟨index, thread, event, rest, at_, acts, rfl⟩
  · cases how with
    | surroundings surroundings => exact absent
    | leave client => exact absent
    | disconnect client =>
      intro socket closed userId held
      rcases List.mem_cons.mp closed with rfl | earlier
      · exact not_holds_handleDisconnect kept.single held
      · exact absent socket earlier userId (holds_of_handleDisconnect held)
  · exact absent
  · exact absent
  · obtain ⟨closed, ⟨same, -⟩ | ⟨userId, client, happened, registered, -⟩⟩ := registry_act run acts
    · rw [closed, same]
      exact absent
    · rw [closed, registered]
      intro socket gone other held
      rcases holds_register.mp held with old | ⟨-, rfl⟩
      · exact absent socket gone other old
      · unfold Punctual at punctual
        rw [acts, happened] at punctual
        exact of_decide_eq_true punctual gone

/-- A socket that is registered after it was closed stays registered with its handshake over. -/
theorem dead_of_unpunctual (run : Run gateway allowed cfg) (kept : SocketsApart cfg)
    (connectsOnce : ConnectsOnce cfg move)
    (moved : advance move cfg = some cfg') (late : Punctual cfg move = false) : ¬ NoDead cfg' := by
  rcases advance_cases moved with ⟨how, rfl, rfl⟩ | ⟨entry, rfl, rfl⟩ | ⟨index, rfl, rfl⟩ |
    ⟨index, thread, event, rest, at_, acts, rfl⟩
  · cases late
  · cases late
  · cases late
  · unfold Punctual at late
    rw [acts] at late
    obtain ⟨closed, ⟨-, -, plain⟩ | ⟨userId, client, happened, registered, waiting, -, ended⟩⟩ :=
      registry_act run acts
    · obtain ⟨before, query, answer, after⟩ := event
      cases query with
      | register userId client => exact absurd rfl (plain userId client)
      | _ => cases late
    · rw [happened] at late
      have gone : client ∈ cfg.world.closed := by simpa using late
      intro noDead
      refine noDead client ⟨closed ▸ gone, fun other member own => ?_⟩ userId ?_
      · obtain ⟨place, there⟩ := List.mem_iff_getElem?.mp member
        by_cases acted : index = place
        · subst acted
          rw [List.getElem?_set_self (List.getElem?_eq_some_iff.mp at_).1, Option.some.injEq] at there
          exact there ▸ ended
        · rw [List.getElem?_set_ne acted] at there
          exact absurd (place_unique kept.apart at_ there (client_of_waiting waiting) own) acted
      · change event.after.registry.Holds userId client
        rw [registered]
        exact holds_register.mpr (.inr ⟨rfl, rfl⟩)

/-- **The registry of the sockets.** A socket is under one user at most and no set is empty,
in every run.  No set has a socket that is gone either, in every run that registers none that
is closed already; and as soon as one is, a set has a socket that is gone. -/
theorem registry_clean {cfg : Config gateway}
    (run : Run gateway (fun cfg move => ConnectsOnce cfg move = true) cfg) :
    (cfg.world.registry.Single ∧ cfg.world.registry.Inhabited) ∧
    (Run gateway (fun cfg move => ConnectsOnce cfg move = true ∧ Punctual cfg move = true) cfg →
      NoDead cfg) ∧
    ∀ cfg' move, ConnectsOnce cfg move = true → advance move cfg = some cfg' →
      Punctual cfg move = false → ¬ NoDead cfg' := by
  refine ⟨?_, fun punctual client gone => ?_, fun cfg' move connectsOnce moved late => ?_⟩
  · have kept := run_socketsApart (fun _ _ connectsOnce => connectsOnce) run
    exact ⟨kept.single, kept.inhabited⟩
  · suffices absent : ∀ client ∈ cfg.world.closed, ∀ userId, ¬ cfg.world.registry.Holds userId client from
      absent client gone.1
    clear gone run
    induction punctual with
    | start => nofun
    | step before permitted moved ih =>
      exact punctual_step before (run_socketsApart (fun _ _ both => both.1) before) permitted.2 moved ih
  · exact dead_of_unpunctual run (run_socketsApart (fun _ _ connectsOnce => connectsOnce) run) connectsOnce moved late

/-- A token of one user, who has a bond. -/
def answering : Surroundings where
  authenticate := fun _ => some "u1"
  findByUserId := fun _ => ["b1"]
  findActiveMemberIds := fun _ => ["u1"]

/-- A socket is closed while its user's bonds are looked up. -/
def closedMeanwhile : List (Move gateway) :=
  [.nudge (.surroundings answering), .arrive (.connection 1 ⟨some "Bearer token"⟩), .turn 0,
    .nudge (.disconnect 1), .turn 0, .turn 0]

theorem registry_clean_handshake : ∃ cfg cfg',
    Run gateway (fun cfg move => ConnectsOnce cfg move = true ∧ Punctual cfg move = true) cfg ∧
    cfg.world.registry.Single ∧ cfg.world.registry.Inhabited ∧ NoDead cfg ∧
      advance (.turn 0) cfg = some cfg' ∧ ¬ NoDead cfg' := by
  obtain ⟨cfg, run, shown⟩ := exists_played
    (fun cfg move => ConnectsOnce cfg move = true ∧ Punctual cfg move = true) (closedMeanwhile.take 5)
    (fun cfg => (advance (.turn 0) cfg).isSome && ConnectsOnce cfg (.turn 0) && !Punctual cfg (.turn 0))
    (by decide +kernel)
  simp only [Bool.and_eq_true, Bool.not_eq_true'] at shown
  obtain ⟨⟨moves, connectsOnce⟩, late⟩ := shown
  obtain ⟨cfg', moved⟩ := Option.isSome_iff_exists.mp moves
  have connectsOnce_run := run.weaken fun _ _ both => both.1
  obtain ⟨⟨single, inhabited⟩, none_dead, dead⟩ := registry_clean connectsOnce_run
  exact ⟨cfg, cfg', run, single, inhabited, none_dead run, moved, dead cfg' (.turn 0) connectsOnce moved late⟩

def returned (thread : Thread gateway) : Bool :=
  match thread.rest with
  | .ret _ => true
  | _ => false

theorem dead_socket : ¬ ∀ cfg, Run gateway (fun cfg move => ConnectsOnce cfg move = true) cfg → NoDead cfg := by
  intro all
  have played : (play (fun cfg move => ConnectsOnce cfg move = true) closedMeanwhile
      ⟨gateway.start, []⟩).any (fun cfg => (cfg.world.registry.get "u1").any (1 ∈ ·.sockets) &&
        1 ∈ cfg.world.closed && cfg.threads.all returned) = true := by
    decide +kernel
  obtain ⟨cfg, ends, shown⟩ := (Option.any_eq_true _ _).mp played
  simp only [Bool.and_eq_true, decide_eq_true_eq, List.all_eq_true] at shown
  obtain ⟨⟨held, closed⟩, over_⟩ := shown
  obtain ⟨row, found, member⟩ := (Option.any_eq_true _ _).mp held
  have run : Run gateway (fun cfg move => ConnectsOnce cfg move = true) cfg :=
    Run.start.onward (Onward.here.play ends) fun _ _ connectsOnce => connectsOnce
  refine all cfg run 1 ⟨closed, fun thread there _ => ?_⟩ "u1" ⟨row, found, of_decide_eq_true member⟩
  rintro ⟨query, next, shape⟩
  have ended := over_ thread there
  rw [returned, shape] at ended
  cases ended

end ParentalCoord.Realtime

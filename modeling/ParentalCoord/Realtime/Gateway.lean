import ParentalCoord.Exceptions
import ParentalCoord.Interleaving.Pool
import ParentalCoord.Store.Table

/-!
The gateway of the sockets: who is registered, and who a frame is sent to.

The registry is a map from users to sets of sockets.  A handshake waits for the token to be
verified and for the bonds of the user to be found, and then registers its socket without
another pause; a socket that is closed is taken out at once.  In between anything else may
happen.
-/

namespace ParentalCoord.Realtime

open Interleaving Store

/-- The identity of a socket. -/
abbrev WebSocket := ℕ

/-! ## The registry -/

structure UserSockets where
  userId : Uuid
  sockets : List WebSocket

abbrev Registry := Table UserSockets.userId

/-- `sockets.add(client)`. -/
def addSocket (sockets : List WebSocket) (client : WebSocket) : List WebSocket :=
  if client ∈ sockets then sockets else sockets ++ [client]

/-- The end of `handleConnection`: the set of the user, made when there is none, and the
socket in it. -/
def Registry.register (registry : Registry) (userId : Uuid) (client : WebSocket) : Registry :=
  match registry.get userId with
  | none => (registry.insert ⟨userId, addSocket [] client⟩).getD registry
  | some row => registry.put { row with sockets := addSocket row.sockets client }

/-- `realtime.gateway.ts::handleDisconnect`: the first set that has the socket loses it, and is
dropped when that leaves it empty. -/
def Registry.handleDisconnect (registry : Registry) (client : WebSocket) : Registry :=
  match registry.rows.find? (client ∈ ·.sockets) with
  | none => registry
  | some row =>
    let left := row.sockets.filter (· ≠ client)
    if left = [] then registry.filter (·.userId ≠ row.userId)
    else registry.put { row with sockets := left }

/-! ## The world -/

def WS_CLOSE_UNAUTHORIZED := 4401

def WS_CLOSE_NO_MEMBERSHIP := 4403

/-- `1011`, of the protocol itself. -/
def WS_CLOSE_INTERNAL_ERROR := 1011

/-- The headers of the upgrade request. -/
structure IncomingMessage where
  authorization : Option String

/-- What the other services answer, which may change at any time. -/
structure Surroundings where
  /-- The user of a token that is valid. -/
  authenticate : IncomingMessage → Option Uuid
  /-- The ids of the bonds of a user. -/
  findByUserId : Uuid → List Uuid
  findActiveMemberIds : Uuid → List Uuid

structure World where
  registry : Registry := .empty
  /-- The sockets that the gateway has begun to close, with the code. -/
  closing : List (WebSocket × ℕ) := []
  /-- The sockets whose other side has begun to close them. -/
  leaving : List WebSocket := []
  /-- The sockets that are closed. -/
  closed : List WebSocket := []
  /-- What was written to the sockets. -/
  sent : List (WebSocket × String) := []
  surroundings : Surroundings

/-- `socket.readyState === WebSocket.OPEN`. -/
def World.isOpen (world : World) (socket : WebSocket) : Bool :=
  socket ∉ world.closed && socket ∉ world.closing.map Prod.fst && socket ∉ world.leaving

/-- The sockets of some users, each of them once. -/
def World.targets (world : World) (userIds : List Uuid) : List WebSocket :=
  (userIds.flatMap fun userId => (world.registry.get userId).elim [] (·.sockets)).eraseDups

inductive Call where
  | authenticate (request : IncomingMessage)
  | findByUserId (userId : Uuid)
  | register (userId : Uuid) (client : WebSocket)
  | close (client : WebSocket) (code : ℕ)
  | findActiveMemberIds (bondId : Uuid)
  | send (userIds : List Uuid) (raw : String)

@[reducible] def interface : Interface where
  Call := Call
  Answer
    | .authenticate _ => Option Uuid
    | .findByUserId _ => List Uuid
    | .register _ _ => Unit
    | .close _ _ => Unit
    | .findActiveMemberIds _ => List Uuid
    | .send _ _ => Unit

def serve (query : Call) (world : World) : Except Exception (interface.Answer query) × World :=
  match query with
  | .authenticate request => (.ok (world.surroundings.authenticate request), world)
  | .findByUserId userId => (.ok (world.surroundings.findByUserId userId), world)
  | .register userId client =>
      (.ok (), { world with registry := world.registry.register userId client })
  | .close client code => (.ok (), { world with closing := world.closing ++ [(client, code)] })
  | .findActiveMemberIds bondId => (.ok (world.surroundings.findActiveMemberIds bondId), world)
  | .send userIds raw =>
      let targets := (world.targets userIds).filter world.isOpen
      (.ok (), { world with sent := world.sent ++ targets.map (·, raw) })

/-- The lookups may throw. -/
def failure : Call → Option Exception
  | .authenticate _ => some .fault
  | .findByUserId _ => some .fault
  | .findActiveMemberIds _ => some .fault
  | _ => none

inductive Nudge where
  | surroundings (surroundings : Surroundings)
  /-- The other side begins to close a socket, which is no longer open then. -/
  | leave (client : WebSocket)
  /-- A socket is closed, and its callback runs. -/
  | disconnect (client : WebSocket)

def nudge (how : Nudge) (world : World) : World :=
  match how with
  | .surroundings surroundings => { world with surroundings := surroundings }
  | .leave client => { world with leaving := client :: world.leaving }
  | .disconnect client =>
      { world with
        registry := world.registry.handleDisconnect client
        closed := client :: world.closed }

def start : World where
  surroundings := ⟨fun _ => none, fun _ => [], fun _ => []⟩

/-! ## The handlers -/

abbrev Request := Handler interface Exception

def perform (query : Call) : Request (interface.Answer query) :=
  @Handler.perform interface Exception query

/-- `realtime.gateway.ts::handleConnection`: a socket is registered for its user, or closed. -/
def handleConnection (client : WebSocket) (request : IncomingMessage) : Request Unit :=
  tryCatch
    (do
      match ← perform (.authenticate request) with
      | none => perform (.close client WS_CLOSE_UNAUTHORIZED)
      | some userId =>
        let bonds ← perform (.findByUserId userId)
        if bonds.length = 0 then perform (.close client WS_CLOSE_NO_MEMBERSHIP)
        else perform (.register userId client))
    fun _ => perform (.close client WS_CLOSE_INTERNAL_ERROR)

/-- A message of the channel.  The frame of a notification leaves its user out; the frames of
a bond are the messages themselves. -/
inductive RealtimeMessage where
  | notificationCreated (userId : Uuid) (frame : Record)
  | activityChanged (bondId : Uuid) (frame : Record)
  | expenseChanged (bondId : Uuid) (frame : Record)

def deliverToUser (userId : Uuid) (frame : Record) : Request Unit :=
  perform (.send [userId] (jsonStringify (.obj frame)))

def deliverToBond (bondId : Uuid) (frame : Record) : Request Unit :=
  tryCatch
    (do
      let memberIds ← perform (.findActiveMemberIds bondId)
      perform (.send memberIds (jsonStringify (.obj frame))))
    fun _ => return ()

def deliver : RealtimeMessage → Request Unit
  | .notificationCreated userId frame => deliverToUser userId frame
  | .activityChanged bondId frame => deliverToBond bondId frame
  | .expenseChanged bondId frame => deliverToBond bondId frame

inductive Entry where
  | connection (client : WebSocket) (request : IncomingMessage)
  | message (message : RealtimeMessage)

def handler : Entry → Request Unit
  | .connection client request => handleConnection client request
  | .message message => deliver message

@[reducible] def gateway : System interface Exception Unit where
  World := World
  Entry := Entry
  Nudge := Nudge
  start := start
  handler := handler
  serve := serve
  failure := failure
  nudge := nudge

/-! ## What the registry holds -/

/-- The socket is registered under the user. -/
def Registry.Holds (registry : Registry) (userId : Uuid) (client : WebSocket) : Prop :=
  ∃ row, registry.get userId = some row ∧ client ∈ row.sockets

/-- Every socket has one user at most. -/
def Registry.Single (registry : Registry) : Prop :=
  ∀ userId other client, registry.Holds userId client → registry.Holds other client → userId = other

/-- Every user has a socket. -/
def Registry.Inhabited (registry : Registry) : Prop :=
  ∀ userId row, registry.get userId = some row → row.sockets ≠ []

variable {registry : Registry} {userId other : Uuid} {client socket : WebSocket} {row : UserSockets}

theorem mem_addSocket {sockets : List WebSocket} :
    socket ∈ addSocket sockets client ↔ socket ∈ sockets ∨ socket = client := by
  unfold addSocket
  split
  · rename_i there
    exact ⟨.inl, fun held => held.elim id fun same => same ▸ there⟩
  · simp

/-- What is under a user after a registration. -/
theorem get_register : (registry.register userId client).get other =
    if other = userId then
      some ⟨userId, addSocket ((registry.get userId).elim [] (·.sockets)) client⟩
    else registry.get other := by
  unfold Registry.register
  cases found : registry.get userId with
  | none =>
    dsimp only
    cases inserted : registry.insert ⟨userId, addSocket [] client⟩ with
    | none =>
      obtain ⟨old, taken⟩ := Table.get_of_refused inserted
      rw [found] at taken
      cases taken
    | some added =>
      rw [Option.getD_some, (Table.get_insert inserted).2]
      rfl
  | some row =>
    have own : row.userId = userId := Table.key_of_get found
    dsimp only [Option.elim_some]
    rw [Table.get_put]
    dsimp only
    rw [own]
    split
    · rename_i same
      rw [same, found, Option.map_some]
    · rfl

theorem holds_register : (registry.register userId client).Holds other socket ↔
    registry.Holds other socket ∨ (other = userId ∧ socket = client) := by
  unfold Registry.Holds
  rw [get_register]
  by_cases same : other = userId
  · subst same
    cases found : registry.get other with
    | none => simp [mem_addSocket]
    | some row => simp [mem_addSocket]
  · simp [same]

theorem Registry.Inhabited.register (inhabited : registry.Inhabited) :
    (registry.register userId client).Inhabited := by
  intro other row found
  rw [get_register] at found
  split at found
  · cases found
    exact List.ne_nil_of_mem (mem_addSocket.mpr (.inr rfl))
  · exact inhabited other row found

/-- What is under a user after a socket was closed. -/
theorem get_handleDisconnect (found : (registry.handleDisconnect client).get other = some row) :
    ∃ old, registry.get other = some old ∧
      (row = old ∨ (row.sockets = old.sockets.filter (· ≠ client) ∧ row.sockets ≠ [])) := by
  unfold Registry.handleDisconnect at found
  split at found
  · exact ⟨row, found, .inl rfl⟩
  · rename_i first holding
    dsimp only at found
    split at found
    · rw [Table.get_filter, Option.filter_eq_some_iff] at found
      exact ⟨row, found.1, .inl rfl⟩
    · rename_i some_
      rw [Table.get_put] at found
      dsimp only at found
      split at found
      · rename_i same
        obtain ⟨old, there, rfl⟩ := Option.map_eq_some_iff.mp found
        have member := List.mem_of_find?_eq_some holding
        rw [same, Table.get_of_mem member, Option.some.injEq] at there
        subst there
        exact ⟨first, same ▸ Table.get_of_mem member, .inr ⟨rfl, some_⟩⟩
      · exact ⟨row, found, .inl rfl⟩

theorem Registry.Inhabited.handleDisconnect (inhabited : registry.Inhabited) :
    (registry.handleDisconnect client).Inhabited := by
  intro other row found
  obtain ⟨old, there, rfl | ⟨-, some_⟩⟩ := get_handleDisconnect found
  · exact inhabited other row there
  · exact some_

theorem holds_of_handleDisconnect (held : (registry.handleDisconnect client).Holds other socket) :
    registry.Holds other socket := by
  obtain ⟨row, found, member⟩ := held
  obtain ⟨old, there, rfl | ⟨same, -⟩⟩ := get_handleDisconnect found
  · exact ⟨row, there, member⟩
  · rw [same] at member
    exact ⟨old, there, List.mem_of_mem_filter member⟩

/-- A socket that has one user at most is gone once it is closed. -/
theorem not_holds_handleDisconnect (single : registry.Single) :
    ¬ (registry.handleDisconnect client).Holds other client := by
  intro held
  have before := holds_of_handleDisconnect held
  obtain ⟨old, there, member⟩ := before
  obtain ⟨row, found, left⟩ := held
  unfold Registry.handleDisconnect at found
  split at found
  · rename_i nobody
    have absent := List.find?_eq_none.mp nobody old (Table.mem_of_get there)
    exact absent (decide_eq_true member)
  · rename_i first holding
    have here := List.mem_of_find?_eq_some holding
    have kept : client ∈ first.sockets := by simpa using List.find?_some holding
    have same : first.userId = other :=
      single _ _ client ⟨first, Table.get_of_mem here, kept⟩ ⟨old, there, member⟩
    dsimp only at found
    split at found
    · rw [Table.get_filter, Option.filter_eq_some_iff] at found
      have elsewhere := of_decide_eq_true found.2
      exact elsewhere (same ▸ Table.key_of_get found.1)
    · rw [Table.get_put, if_pos same.symm] at found
      obtain ⟨_, -, rfl⟩ := Option.map_eq_some_iff.mp found
      simp at left

end ParentalCoord.Realtime

import Mathlib.Data.List.Basic
import Mathlib.Logic.Function.Basic
import Mathlib.Data.Int.Notation

/-!
How many requests go out to one host at once.

A call takes a slot of its host, or waits for one in line.  A call that ends hands its slot to
the first in line, and the count of the host stays as it is; only where nobody waits does the
slot go back.  A call that has a slot goes on in a promise job of its own, and these jobs are
done in the order in which they came up.
-/

namespace ParentalCoord.Webhooks.Limiter

/-- One call of `run`. -/
structure RunCall where
  id : ℕ
  host : String
  deriving DecidableEq

/-- What gives a slot back, once. -/
structure Releaser where
  host : String
  released : Bool := false
  deriving DecidableEq

def DEFAULT_ENDPOINT_CONCURRENCY : ℕ := 5

structure EndpointLimiter where
  cap : ℕ
  active : String → Option ℕ := fun _ => none
  waiters : String → Option (List RunCall) := fun _ => none

namespace EndpointLimiter

/-- `WEBHOOK_ENDPOINT_CONCURRENCY`, where it is positive. -/
def new (configured : Option ℤ) : EndpointLimiter where
  cap := match configured with
    | some cap => if 0 < cap then cap.toNat else DEFAULT_ENDPOINT_CONCURRENCY
    | none => DEFAULT_ENDPOINT_CONCURRENCY

def activeCount (limiter : EndpointLimiter) (host : String) : ℕ := (limiter.active host).getD 0

def waitersOf (limiter : EndpointLimiter) (host : String) : List RunCall :=
  (limiter.waiters host).getD []

def setActive (limiter : EndpointLimiter) (host : String) (count : ℕ) : EndpointLimiter :=
  { limiter with active := Function.update limiter.active host (some count) }

def setWaiters (limiter : EndpointLimiter) (host : String) (waiters : List RunCall) : EndpointLimiter :=
  { limiter with waiters := Function.update limiter.waiters host (some waiters) }

def makeReleaser (host : String) : Releaser := { host := host }

/-- `endpoint-limiter.ts::acquire`: the releaser of the slot that is taken; `none` for a call that
waits. -/
def acquire (limiter : EndpointLimiter) (call : RunCall) : Option Releaser × EndpointLimiter :=
  let current := limiter.activeCount call.host
  if current < limiter.cap then
    (some (makeReleaser call.host), limiter.setActive call.host (current + 1))
  else (none, limiter.setWaiters call.host (limiter.waitersOf call.host ++ [call]))

/-- The releaser after it was called, and the waiter that the slot is handed to. -/
def release (limiter : EndpointLimiter) (releaser : Releaser) :
    Releaser × Option (RunCall × Releaser) × EndpointLimiter :=
  if releaser.released then (releaser, none, limiter)
  else
    let released := { releaser with released := true }
    match limiter.waitersOf releaser.host with
    | next :: rest =>
        (released, some (next, makeReleaser releaser.host), limiter.setWaiters releaser.host rest)
    | [] =>
        -- `Math.max(current - 1, 0)`
        let current := (limiter.active releaser.host).getD 1
        (released, none, limiter.setActive releaser.host (current - 1))

end EndpointLimiter

/-! ## Calls under way -/

/-- A call with the releaser of its slot. -/
structure Held where
  call : RunCall
  release : Releaser
  deriving DecidableEq

inductive Outcome where
  | fulfilled
  | rejected
  deriving DecidableEq

structure State where
  limiter : EndpointLimiter
  /-- The calls that have a slot and have not gone on yet, in the order of their promise jobs. -/
  ready : List Held := []
  running : List Held := []
  finished : List (Held × Outcome) := []
  /-- All calls, in the order in which they came. -/
  arrived : List RunCall := []
  /-- The calls whose task was started, in that order. -/
  started : List RunCall := []

inductive Event where
  | run (call : RunCall)
  /-- The next call goes on, and its task is under way. -/
  | start (call : RunCall)
  /-- The next call goes on, and its task throws at once. -/
  | startThrows (call : RunCall)
  /-- A task is fulfilled or rejected, and its call goes on. -/
  | settle (call : RunCall) (outcome : Outcome)
  deriving DecidableEq

def Event.call : Event → RunCall
  | .run call => call
  | .start call => call
  | .startThrows call => call
  | .settle call _ => call

/-- A slot of the host is released. -/
def Event.releases (host : String) : Event → Bool
  | .startThrows call => call.host = host
  | .settle call _ => call.host = host
  | _ => false

/-- `finally`: the slot is released, and whoever it is handed to can go on. -/
def State.leave (state : State) (held : Held) (outcome : Outcome) : State :=
  let (releaser, next, limiter) := state.limiter.release held.release
  { state with
    limiter := limiter
    ready := state.ready ++ (next.map fun (call, release) => ⟨call, release⟩).toList
    finished := state.finished ++ [(⟨held.call, releaser⟩, outcome)] }

/-- The first of the calls that are ready, when it is this one. -/
def State.next (state : State) (call : RunCall) : Option (Held × State) :=
  match state.ready with
  | held :: rest =>
      if held.call = call then
        some (held, { state with ready := rest, started := state.started ++ [call] })
      else none
  | [] => none

def step (event : Event) (state : State) : Option State :=
  match event with
  | .run call =>
      if call ∈ state.arrived then none
      else
        let (release, limiter) := state.limiter.acquire call
        some { state with
          limiter := limiter
          ready := state.ready ++ (release.map fun release => ⟨call, release⟩).toList
          arrived := state.arrived ++ [call] }
  | .start call =>
      (state.next call).map fun (held, state) => { state with running := state.running ++ [held] }
  | .startThrows call => (state.next call).map fun (held, state) => state.leave held .rejected
  | .settle call outcome =>
      (state.running.find? (·.call = call)).map fun held =>
        { state with running := state.running.eraseP (·.call = call) }.leave held outcome

/-- What a list of events leads to. -/
inductive Steps (first : State) : List Event → State → Prop where
  | here : Steps first [] first
  | step {events : List Event} {state later : State} {event : Event} :
      Steps first events state → step event state = some later → Steps first (events ++ [event]) later

def start (configured : Option ℤ) : State where
  limiter := .new configured

/-- What concerns one host. -/
def EndpointLimiter.only (limiter : EndpointLimiter) (host : String) : EndpointLimiter where
  cap := limiter.cap
  active := fun other => if other = host then limiter.active other else none
  waiters := fun other => if other = host then limiter.waiters other else none

def State.only (state : State) (host : String) : State where
  limiter := state.limiter.only host
  ready := state.ready.filter (·.call.host = host)
  running := state.running.filter (·.call.host = host)
  finished := state.finished.filter (·.1.call.host = host)
  arrived := state.arrived.filter (·.host = host)
  started := state.started.filter (·.host = host)

end ParentalCoord.Webhooks.Limiter

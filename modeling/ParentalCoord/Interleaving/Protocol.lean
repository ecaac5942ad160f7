import ParentalCoord.Interleaving.Pool

/-!
Protocols of calls.

A `Protocol` says, phase by phase, which calls are permitted and which phase the
answer to a call leads to.  Whether a handler follows it is a property of the handler
alone, whatever the world answers, and so it holds of every thread of every run, from
the phase that the thread's past has led to.
-/

namespace Interleaving

variable {ι : Interface} {ε α β : Type} {sys : System ι ε α}

structure Protocol (ι : Interface) (ε : Type) where
  Phase : Type
  permits : Phase → ι.Call → Prop
  next : Phase → (query : ι.Call) → Except ε (ι.Answer query) → Phase

namespace Protocol

variable (P : Protocol ι ε)

/-- From a phase on, the handler makes permitted calls only, and ends in `post`. -/
def Follows (post : Except ε α → P.Phase → Prop) : P.Phase → Handler ι ε α → Prop
  | phase, .ret value => post (.ok value) phase
  | phase, .throw error => post (.error error) phase
  | phase, .call query next => P.permits phase query ∧
      ∀ answer, Follows post (P.next phase query answer) (next answer)

/-- The phase that a past, latest event first, leads to. -/
def reached (first : P.Phase) : List (Event sys) → P.Phase
  | [] => first
  | event :: past => P.next (reached first past) event.query event.answer

variable {P} {post post' : Except ε β → P.Phase → Prop} {phase : P.Phase}

theorem Follows.mono {handler : Handler ι ε β} (follows : P.Follows post phase handler)
    (weaker : ∀ result phase, post result phase → post' result phase) :
    P.Follows post' phase handler := by
  induction handler generalizing phase with
  | ret value => exact weaker _ _ follows
  | throw error => exact weaker _ _ follows
  | call query next ih => exact ⟨follows.1, fun answer => ih answer (follows.2 answer)⟩

theorem Follows.bind {first : Handler ι ε α} {rest : α → Handler ι ε β}
    (follows : P.Follows (fun result phase => match result with
      | .ok value => P.Follows post phase (rest value)
      | .error error => post (.error error) phase) phase first) :
    P.Follows post phase (first.bind rest) := by
  induction first generalizing phase with
  | ret value => exact follows
  | throw error => exact follows
  | call query next ih => exact ⟨follows.1, fun answer => ih answer (follows.2 answer)⟩

theorem Follows.tryCatch {first : Handler ι ε β} {recover : ε → Handler ι ε β}
    (follows : P.Follows (fun result phase => match result with
      | .ok value => post (.ok value) phase
      | .error error => P.Follows post phase (recover error)) phase first) :
    P.Follows post phase (first.tryCatch recover) := by
  induction first generalizing phase with
  | ret value => exact follows
  | throw error => exact follows
  | call query next ih => exact ⟨follows.1, fun answer => ih answer (follows.2 answer)⟩

/-- One call, and what comes after it. -/
theorem Follows.perform_bind {query : ι.Call} {rest : ι.Answer query → Handler ι ε β}
    (permitted : P.permits phase query)
    (more : ∀ value, P.Follows post (P.next phase query (.ok value)) (rest value))
    (fails : ∀ error, post (.error error) (P.next phase query (.error error))) :
    P.Follows post phase ((Handler.perform query).bind rest) := by
  refine ⟨permitted, fun answer => ?_⟩
  cases answer with
  | ok value => exact more value
  | error error => exact fails error

/-- Calls that are permitted in a phase and do not leave it. -/
theorem Follows.of_calls {only : ι.Call → Prop} {handler : Handler ι ε β}
    (calls : handler.Calls only)
    (stays : ∀ query, only query → P.permits phase query ∧ ∀ answer, P.next phase query answer = phase)
    (ends : ∀ result, post result phase) : P.Follows post phase handler := by
  induction handler with
  | ret value => exact ends _
  | throw error => exact ends _
  | call query next ih =>
    obtain ⟨permitted, still⟩ := stays query calls.1
    refine ⟨permitted, fun answer => ?_⟩
    rw [still answer]
    exact ih answer (calls.2 answer)

/-- What every permitted call is, every call is. -/
theorem Follows.calls {only : ι.Call → Prop} {handler : Handler ι ε β}
    (follows : P.Follows post phase handler)
    (all : ∀ phase query, P.permits phase query → only query) : handler.Calls only := by
  induction handler generalizing phase with
  | ret value => trivial
  | throw error => trivial
  | call query next ih => exact ⟨all _ _ follows.1, fun answer => ih answer (follows.2 answer)⟩

end Protocol

open Protocol

variable {P : Protocol ι ε} {allowed : Config sys → Move sys → Prop} {cfg : Config sys}

/-- A thread that goes through one more event keeps following. -/
theorem Protocol.Follows.act {post : Except ε α → P.Phase → Prop} {first : sys.Entry → P.Phase}
    {move : Move sys} {thread : Thread sys} {event : Event sys} {rest : Handler ι ε α}
    (follows : P.Follows post (P.reached (first thread.entry) thread.past) thread.rest)
    (acts : cfg.acts move = some (thread, event, rest)) :
    P.permits (P.reached (first thread.entry) thread.past) event.query ∧
      P.Follows post (P.reached (first thread.entry) (event :: thread.past)) rest := by
  obtain ⟨-, query, next, answer, after, shape, rfl, rfl, -⟩ := acts_cases acts
  rw [shape] at follows
  exact ⟨follows.1, follows.2 answer⟩

/-- **Every thread of every run follows the protocol that its handler follows.** -/
theorem Run.follows {post : Except ε α → P.Phase → Prop} {first : sys.Entry → P.Phase}
    (handlers : ∀ entry, P.Follows post (first entry) (sys.handler entry))
    (run : Run sys allowed cfg) : ∀ thread ∈ cfg.threads,
      P.Follows post (P.reached (first thread.entry) thread.past) thread.rest := by
  induction run with
  | start => simp
  | @step cfg cfg' move _ _ moved ih =>
    rcases advance_cases moved with ⟨how, rfl, rfl⟩ | ⟨entry, rfl, rfl⟩ | ⟨index, rfl, rfl⟩ |
      ⟨index, thread, event, rest, at_, acts, rfl⟩
    · exact ih
    · intro thread member
      rcases List.mem_append.mp member with old | new
      · exact ih thread old
      · rw [List.mem_singleton] at new
        subst new
        exact handlers entry
    · exact fun thread member => ih thread (List.mem_of_mem_eraseIdx member)
    · intro other member
      rcases List.mem_or_eq_of_mem_set member with old | rfl
      · exact ih other old
      · exact ((ih thread (List.mem_of_getElem? at_)).act acts).2

/-- Every call of a past was permitted in the phase that it was made in. -/
def Protocol.Permitted (P : Protocol ι ε) (first : P.Phase) : List (Event sys) → Prop
  | [] => True
  | event :: past => P.permits (P.reached first past) event.query ∧ Protocol.Permitted P first past

/-- The past of a thread is one that the protocol permits. -/
theorem Run.permitted {post : Except ε α → P.Phase → Prop} {first : sys.Entry → P.Phase}
    (handlers : ∀ entry, P.Follows post (first entry) (sys.handler entry))
    (run : Run sys allowed cfg) : ∀ thread ∈ cfg.threads,
      P.Permitted (first thread.entry) thread.past := by
  induction run with
  | start => simp
  | step before _ moved ih =>
    intro thread member
    rcases thread_came moved member with old | ⟨entry, rfl⟩ | ⟨acting, event, rest, acts, -, rfl⟩
    · exact ih thread old
    · trivial
    · have mine := (acts_cases acts).1
      exact ⟨((before.follows handlers acting mine).act acts).1, ih acting mine⟩

end Interleaving

import Mathlib.Logic.Basic

/-!
Request handlers, as the calls they make on what surrounds them.

A handler computes locally between calls, and each call is one atomic action of
the surroundings: a query, a transaction, a message to a queue.  Between two
calls anything may happen, which is why the continuation of a call takes the
answer and nothing else.  A call that fails answers with an error, so that a
handler can catch it (`tryCatch`) as it catches an error of its own.

The semantics of the calls is not part of a handler.  `Handler.run` gives the
sequential reading, with nobody else present; `Pool` gives the concurrent one.
-/

namespace Interleaving

/-- The calls a handler can make, and what each of them answers. -/
structure Interface where
  Call : Type
  Answer : Call → Type

/-- A handler that ends with an `α` or an error `ε`. -/
inductive Handler (ι : Interface) (ε α : Type) : Type where
  | ret (value : α)
  | throw (error : ε)
  | call (query : ι.Call) (next : Except ε (ι.Answer query) → Handler ι ε α)

namespace Handler

variable {ι : Interface} {ε α β γ W : Type}

def bind : Handler ι ε α → (α → Handler ι ε β) → Handler ι ε β
  | .ret value, rest => rest value
  | .throw error, _ => .throw error
  | .call query next, rest => .call query fun answer => (next answer).bind rest

/-- A `catch` sees the errors of the calls inside it and those thrown there. -/
def tryCatch : Handler ι ε α → (ε → Handler ι ε α) → Handler ι ε α
  | .ret value, _ => .ret value
  | .throw error, recover => recover error
  | .call query next, recover => .call query fun answer => (next answer).tryCatch recover

/-- One call, whose failure is thrown. -/
def perform (query : ι.Call) : Handler ι ε (ι.Answer query) :=
  .call query fun
    | .ok answer => .ret answer
    | .error error => .throw error

instance : Monad (Handler ι ε) where
  pure := .ret
  bind := .bind

instance : MonadExcept ε (Handler ι ε) where
  throw := .throw
  tryCatch := .tryCatch

@[simp] theorem pure_eq (value : α) : (pure value : Handler ι ε α) = .ret value := rfl

@[simp] theorem throw_eq (error : ε) :
    (MonadExcept.throw error : Handler ι ε α) = .throw error := rfl

@[simp] theorem tryCatch_eq (first : Handler ι ε α) (recover : ε → Handler ι ε α) :
    MonadExcept.tryCatch first recover = first.tryCatch recover := rfl

@[simp] theorem bind_eq (first : Handler ι ε α) (rest : α → Handler ι ε β) :
    (first >>= rest) = first.bind rest := rfl

@[simp] theorem map_eq (first : Handler ι ε α) (f : α → β) :
    f <$> first = first.bind fun value => .ret (f value) := rfl

@[simp] theorem ret_bind (value : α) (rest : α → Handler ι ε β) :
    (Handler.ret value).bind rest = rest value := rfl

@[simp] theorem throw_bind (error : ε) (rest : α → Handler ι ε β) :
    (Handler.throw error : Handler ι ε α).bind rest = .throw error := rfl

@[simp] theorem call_bind (query : ι.Call) (next : Except ε (ι.Answer query) → Handler ι ε α)
    (rest : α → Handler ι ε β) :
    (Handler.call query next).bind rest = .call query fun answer => (next answer).bind rest := rfl

theorem bind_assoc (first : Handler ι ε α) (second : α → Handler ι ε β)
    (third : β → Handler ι ε γ) :
    (first.bind second).bind third = first.bind fun value => (second value).bind third := by
  induction first with
  | ret value => rfl
  | throw error => rfl
  | call query next ih => simp only [call_bind, ih]

/-- Every call the handler can make is one of `only`. -/
def Calls (only : ι.Call → Prop) : Handler ι ε α → Prop
  | .ret _ => True
  | .throw _ => True
  | .call query next => only query ∧ ∀ answer, (next answer).Calls only

section Calls

variable {only : ι.Call → Prop}

@[simp] theorem calls_ret (value : α) : (Handler.ret value : Handler ι ε α).Calls only := trivial

@[simp] theorem calls_throw (error : ε) : (Handler.throw error : Handler ι ε α).Calls only :=
  trivial

@[simp] theorem calls_perform {query : ι.Call} :
    (perform query : Handler ι ε (ι.Answer query)).Calls only ↔ only query :=
  ⟨fun calls => calls.1, fun permitted => ⟨permitted, fun answer => by cases answer <;> trivial⟩⟩

theorem Calls.mono {wider : ι.Call → Prop} {handler : Handler ι ε α} (calls : handler.Calls only)
    (within : ∀ query, only query → wider query) : handler.Calls wider := by
  induction handler with
  | ret value => trivial
  | throw error => trivial
  | call query next ih => exact ⟨within _ calls.1, fun answer => ih answer (calls.2 answer)⟩

theorem Calls.bind {first : Handler ι ε α} {rest : α → Handler ι ε β} (calls : first.Calls only)
    (more : ∀ value, (rest value).Calls only) : (first.bind rest).Calls only := by
  induction first with
  | ret value => exact more value
  | throw error => trivial
  | call query next ih => exact ⟨calls.1, fun answer => ih answer (calls.2 answer)⟩

theorem Calls.tryCatch {first : Handler ι ε α} {recover : ε → Handler ι ε α}
    (calls : first.Calls only) (more : ∀ error, (recover error).Calls only) :
    (first.tryCatch recover).Calls only := by
  induction first with
  | ret value => trivial
  | throw error => exact more error
  | call query next ih => exact ⟨calls.1, fun answer => ih answer (calls.2 answer)⟩

end Calls

/-- A handler run alone: every call is served at once, by `serve`. -/
def run (serve : (query : ι.Call) → W → Except ε (ι.Answer query) × W) :
    Handler ι ε α → W → Except ε α × W
  | .ret value, world => (.ok value, world)
  | .throw error, world => (.error error, world)
  | .call query next, world =>
      (next (serve query world).1).run serve (serve query world).2

theorem run_bind (serve : (query : ι.Call) → W → Except ε (ι.Answer query) × W)
    (first : Handler ι ε α) (rest : α → Handler ι ε β) (world : W) :
    (first.bind rest).run serve world =
      match first.run serve world with
      | (.ok value, after) => (rest value).run serve after
      | (.error error, after) => (.error error, after) := by
  induction first generalizing world with
  | ret value => rfl
  | throw error => rfl
  | call query next ih => exact ih _ _

/-- What is computed from the end of a handler does not act on the world. -/
theorem run_map_world (serve : (query : ι.Call) → W → Except ε (ι.Answer query) × W)
    (first : Handler ι ε α) (f : α → β) (world : W) :
    ((first.bind fun value => .ret (f value)).run serve world).2 = (first.run serve world).2 := by
  rw [run_bind]
  split
  · rename_i same
    rw [same]
    rfl
  · rename_i same
    rw [same]

/-- A sequence goes on where its first part has ended. -/
theorem run_bind_of_ok {serve : (query : ι.Call) → W → Except ε (ι.Answer query) × W}
    {first : Handler ι ε α} {rest : α → Handler ι ε β} {world : W} {value : α}
    (ended : (first.run serve world).1 = .ok value) :
    (first.bind rest).run serve world = (rest value).run serve (first.run serve world).2 := by
  rw [run_bind]
  split
  · rename_i found after same
    rw [same] at ended
    cases ended
    rw [same]
  · rename_i error after same
    rw [same] at ended
    cases ended

/-- The same, where the world after the first part is known. -/
theorem run_bind_eq {serve : (query : ι.Call) → W → Except ε (ι.Answer query) × W}
    {first : Handler ι ε α} {rest : α → Handler ι ε β} {world after : W} {value : α}
    (ended : first.run serve world = (.ok value, after)) :
    (first.bind rest).run serve world = (rest value).run serve after := by
  rw [run_bind, ended]

/-- A call that is answered is followed by the rest. -/
theorem run_perform_bind_of_ok {serve : (query : ι.Call) → W → Except ε (ι.Answer query) × W}
    {query : ι.Call} {rest : ι.Answer query → Handler ι ε β} {world after : W}
    {answer : ι.Answer query} (answered : serve query world = (.ok answer, after)) :
    ((perform query).bind rest).run serve world = (rest answer).run serve after := by
  simp [perform, run, answered]

/-- A call that fails ends the sequence. -/
theorem run_perform_bind_of_error {serve : (query : ι.Call) → W → Except ε (ι.Answer query) × W}
    {query : ι.Call} {rest : ι.Answer query → Handler ι ε β} {world after : W} {error : ε}
    (failed : serve query world = (.error error, after)) :
    ((perform query).bind rest).run serve world = (.error error, after) := by
  simp [perform, run, failed]

theorem run_tryCatch (serve : (query : ι.Call) → W → Except ε (ι.Answer query) × W)
    (first : Handler ι ε α) (recover : ε → Handler ι ε α) (world : W) :
    (first.tryCatch recover).run serve world =
      match first.run serve world with
      | (.ok value, after) => (.ok value, after)
      | (.error error, after) => (recover error).run serve after := by
  induction first generalizing world with
  | ret value => rfl
  | throw error => rfl
  | call query next ih => exact ih _ _

/-- What each call of a handler does to the world, the handler does when run alone. -/
theorem Calls.run {only : ι.Call → Prop} {handler : Handler ι ε α} {related : W → W → Prop}
    {serve : (query : ι.Call) → W → Except ε (ι.Answer query) × W} (calls : handler.Calls only)
    (refl : ∀ world, related world world)
    (trans : ∀ first second third, related first second → related second third →
      related first third)
    (step : ∀ query world, only query → related world (serve query world).2) (world : W) :
    related world (handler.run serve world).2 := by
  induction handler generalizing world with
  | ret value => exact refl world
  | throw error => exact refl world
  | call query next ih =>
    exact trans _ _ _ (step query world calls.1) (ih _ (calls.2 _) _)

end Handler

end Interleaving

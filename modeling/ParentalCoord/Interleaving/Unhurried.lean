import ParentalCoord.Interleaving.Handler

/-!
A handler with nobody else present, in a world that still moves.

`Handler.run` serves every call at once.  Here `step` tells what may come of a call, and
leaves it open how long it takes: a run of the handler is any way through it.
-/

namespace Interleaving

variable {ι : Interface} {ε α β W : Type}

/-- A way through a handler, from a world to a result and the world after it. -/
inductive Handler.Runs (step : (query : ι.Call) → W → Except ε (ι.Answer query) → W → Prop) :
    Handler ι ε α → W → Except ε α → W → Prop where
  | ret (value : α) (world : W) : Runs step (.ret value) world (.ok value) world
  | throw (error : ε) (world : W) : Runs step (.throw error) world (.error error) world
  | call {query : ι.Call} {next : Except ε (ι.Answer query) → Handler ι ε α} {world between after : W}
      {answer : Except ε (ι.Answer query)} {result : Except ε α} :
      step query world answer between → Runs step (next answer) between result after →
      Runs step (.call query next) world result after

namespace Handler

variable {step : (query : ι.Call) → W → Except ε (ι.Answer query) → W → Prop}
  {first : Handler ι ε α} {rest : α → Handler ι ε β} {world after : W} {result : Except ε β}

theorem Runs.ret_cases {value : α} {result : Except ε α}
    (runs : Runs step (.ret value) world result after) : result = .ok value ∧ after = world := by
  cases runs
  exact ⟨rfl, rfl⟩

theorem Runs.throw_cases {error : ε} {result : Except ε α}
    (runs : Runs step (.throw error) world result after) : result = .error error ∧ after = world := by
  cases runs
  exact ⟨rfl, rfl⟩

/-- A sequence goes through its first part, and then through the rest unless that has failed. -/
theorem Runs.bind_cases (runs : Runs step (first.bind rest) world result after) :
    (∃ value between, Runs step first world (.ok value) between ∧
      Runs step (rest value) between result after) ∨
    ∃ error, result = .error error ∧ Runs step first world (.error error) after := by
  induction first generalizing world with
  | ret value => exact .inl ⟨value, world, .ret value world, runs⟩
  | throw error =>
    obtain ⟨rfl, rfl⟩ := runs.throw_cases
    exact .inr ⟨error, rfl, .throw error after⟩
  | call query next ih =>
    cases runs with
    | call stepped later =>
      rcases ih _ later with ⟨value, between, one, two⟩ | ⟨error, failed, one⟩
      · exact .inl ⟨value, between, .call stepped one, two⟩
      · exact .inr ⟨error, failed, .call stepped one⟩

theorem Runs.tryCatch_cases {first : Handler ι ε α} {recover : ε → Handler ι ε α} {result : Except ε α}
    (runs : Runs step (first.tryCatch recover) world result after) :
    (∃ value, result = .ok value ∧ Runs step first world (.ok value) after) ∨
    ∃ error between, Runs step first world (.error error) between ∧
      Runs step (recover error) between result after := by
  induction first generalizing world with
  | ret value =>
    obtain ⟨rfl, rfl⟩ := runs.ret_cases
    exact .inl ⟨value, rfl, .ret value after⟩
  | throw error => exact .inr ⟨error, world, .throw error world, runs⟩
  | call query next ih =>
    cases runs with
    | call stepped later =>
      rcases ih _ later with ⟨value, ended, one⟩ | ⟨error, between, one, two⟩
      · exact .inl ⟨value, ended, .call stepped one⟩
      · exact .inr ⟨error, between, .call stepped one, two⟩

/-- However a sequence ends, it has begun with its first part. -/
theorem Runs.begun (runs : Runs step (first.bind rest) world result after) :
    ∃ result between, Runs step first world result between := by
  rcases runs.bind_cases with ⟨value, between, runs, -⟩ | ⟨error, -, runs⟩
  · exact ⟨_, between, runs⟩
  · exact ⟨_, after, runs⟩

/-- One call comes to what may come of it. -/
theorem Runs.perform_cases {query : ι.Call} {result : Except ε (ι.Answer query)}
    (runs : Runs step (perform query) world result after) : step query world result after := by
  cases runs with
  | call stepped later =>
    rename_i answer
    cases answer with
    | ok value =>
      obtain ⟨rfl, rfl⟩ := later.ret_cases
      exact stepped
    | error error =>
      obtain ⟨rfl, rfl⟩ := later.throw_cases
      exact stepped

/-- Serving every call at once is one of the ways. -/
theorem runs_run (serve : (query : ι.Call) → W → Except ε (ι.Answer query) × W)
    (may : ∀ query world, step query world (serve query world).1 (serve query world).2)
    (handler : Handler ι ε α) (world : W) :
    Runs step handler world (handler.run serve world).1 (handler.run serve world).2 := by
  induction handler generalizing world with
  | ret value => exact .ret value world
  | throw error => exact .throw error world
  | call query next ih => exact .call (may query world) (ih _ _)

end Handler

end Interleaving

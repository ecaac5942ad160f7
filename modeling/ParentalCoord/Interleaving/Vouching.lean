import ParentalCoord.Interleaving.Discipline

/-!
Requests that are vouched for.

A request that has not been vouched for yet may only ask.  A `Vouching` says which calls are more
than asking, which errors give nothing away, and what in the past of a request vouches for it.
Once there it stays there, so that only what a handler does before it has to be looked at.
-/

namespace Interleaving

variable {ι : Interface} {ε α β γ : Type} {sys : System ι ε α}

structure Vouching (sys : System ι ε α) where
  sensitive : sys.Entry → ι.Call → Prop
  silent : sys.Entry → ε → Prop
  vouched : sys.Entry → List (Event sys) → Prop
  stays : ∀ {entry event past}, vouched entry past → vouched entry (event :: past)

namespace Vouching

variable (V : Vouching sys)

def shown (entry : sys.Entry) (result : Except ε β) (past : List (Event sys)) : Prop :=
  V.vouched entry past ∨ ∃ error, result = .error error ∧ V.silent entry error

/-- Nothing is asked of the others. -/
def discipline : Discipline sys where
  inv _ := True
  rely _ _ := True
  guar entry past event := V.sensitive entry event.query → V.vouched entry past
  post entry result past := V.shown entry result past

/-- The handler does nothing sensitive, and shows nothing, before it is vouched for. -/
abbrev Keeps (entry : sys.Entry) (handler : Handler ι ε β) (past : List (Event sys)) : Prop :=
  V.discipline.Keeps entry (V.shown entry) handler past

variable {V} {entry : sys.Entry} {past : List (Event sys)} {query : ι.Call}

/-- What is vouched for may do anything. -/
theorem keeps_of_vouched (vouched : V.vouched entry past) (handler : Handler ι ε β) :
    V.Keeps entry handler past := by
  induction handler generalizing past with
  | ret value => exact .inl vouched
  | throw error => exact .inl vouched
  | call query next ih =>
    intro before answer after _ _ _ _
    exact ⟨fun _ => vouched, trivial, ih answer (V.stays vouched)⟩

theorem keeps_throw {error : ε} (silent : V.silent entry error) :
    V.Keeps entry (.throw error : Handler ι ε β) past :=
  .inr ⟨error, rfl, silent⟩

/-- A call that only asks, and what comes after its answer. -/
theorem keeps_asking {rest : ι.Answer query → Handler ι ε β} (asks : ¬V.sensitive entry query)
    (more : ∀ before answer after, Answers sys query before (.ok answer) after →
      V.Keeps entry (rest answer) (⟨before, query, .ok answer, after⟩ :: past))
    (fails : ∀ before error after, Answers sys query before (.error error) after → V.silent entry error) :
    V.Keeps entry ((Handler.perform query).bind rest) past := by
  refine Discipline.Keeps.perform_bind fun before answer after _ _ answers _ => ?_
  refine ⟨fun sensitive => absurd sensitive asks, trivial, ?_⟩
  cases answer with
  | ok value => exact more before value after answers
  | error error => exact .inr ⟨error, rfl, fails before error after answers⟩

/-- What ends well has been vouched for, and so is what comes after it. -/
theorem keeps_bind {first : Handler ι ε γ} {rest : γ → Handler ι ε β} (kept : V.Keeps entry first past) :
    V.Keeps entry (first.bind rest) past := by
  refine .bind (kept.mono fun result later shown => ?_)
  cases result with
  | ok value =>
    rcases shown with vouched | ⟨error, same, -⟩
    · exact keeps_of_vouched vouched (rest value)
    · cases same
  | error error =>
    rcases shown with vouched | ⟨_, same, silent⟩
    · exact .inl vouched
    · cases same
      exact keeps_throw silent

theorem vouched_of_suffix {later : List (Event sys)} (vouched : V.vouched entry past) (within : past <:+ later) :
    V.vouched entry later := by
  obtain ⟨added, rfl⟩ := within
  induction added with
  | nil => exact vouched
  | cons event added ih => exact V.stays ih

theorem sound (keeps : ∀ entry, V.Keeps entry (sys.handler entry) []) : V.discipline.Sound where
  refl _ := trivial
  trans _ _ := trivial
  start := trivial
  nudge _ _ _ := ⟨trivial, trivial⟩
  guar_rely _ _ := trivial
  handlers := keeps

end Vouching

variable {V : Vouching sys} {allowed : Config sys → Move sys → Prop} {cfg : Config sys} {thread : Thread sys}

/-- **Whatever a request has done or shown in a run, it was vouched for,** unless it has only asked
and has ended with a silent error. -/
theorem Run.vouched (keeps : ∀ entry, V.Keeps entry (sys.handler entry) []) (run : Run sys allowed cfg)
    (member : thread ∈ cfg.threads)
    (told : (∃ event ∈ thread.past, V.sensitive thread.entry event.query) ∨
      (∃ value, thread.rest = .ret value) ∨
      ∃ error, thread.rest = .throw error ∧ ¬V.silent thread.entry error) :
    V.vouched thread.entry thread.past := by
  have supplied : V.discipline.Supplies allowed := Discipline.supplies_of_assumes fun _ _ _ => trivial
  obtain ⟨returns, throws⟩ := run.ended (Vouching.sound keeps) supplied member
  rcases told with ⟨event, there, sensitive⟩ | ⟨value, ended⟩ | ⟨error, ended, loud⟩
  · have lawful := ((run.disciplined (Vouching.sound keeps) supplied).2 thread member).lawful
    obtain ⟨earlier, within, guarded⟩ := lawful.of_mem there
    exact Vouching.vouched_of_suffix (guarded sensitive) within
  · rcases returns value ended with vouched | ⟨_, same, -⟩
    · exact vouched
    · cases same
  · rcases throws error ended with vouched | ⟨_, same, silent⟩
    · exact vouched
    · cases same
      exact absurd silent loud

end Interleaving

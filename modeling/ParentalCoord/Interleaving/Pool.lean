import Mathlib.Data.List.Basic
import ParentalCoord.Interleaving.Handler

/-!
Many handlers at once over one shared world.

A `System` says what requests can arrive, which handler each of them starts,
how the world serves a call, with which error a call can fail instead, and how
the world moves by itself.  A `Config` is the world with the threads that are
running; every thread keeps the events it has been through, the latest first.
`advance` makes one move: the world is nudged, a request arrives, a process
crashes with its thread, or one thread has one call served or failed.

`Run` is every order of moves.  Its parameter `allowed` restricts the moves, so
that a statement about the runs whose steps meet a condition is a statement
about `Run` under that condition; `Reachable` allows every move.
-/

namespace Interleaving

/-- A shared world and the requests that act on it. -/
structure System (ι : Interface) (ε α : Type) where
  /-- What all handlers share. -/
  World : Type
  /-- The requests that may arrive. -/
  Entry : Type
  /-- The ways the world moves on its own. -/
  Nudge : Type
  start : World
  handler : Entry → Handler ι ε α
  serve : (query : ι.Call) → World → Except ε (ι.Answer query) × World
  /-- The error with which a call may fail, having done nothing. -/
  failure : ι.Call → Option ε
  nudge : Nudge → World → World

variable {ι : Interface} {ε α : Type} {sys : System ι ε α}

/-- One call as it happened. -/
structure Event (sys : System ι ε α) where
  before : sys.World
  query : ι.Call
  answer : Except ε (ι.Answer query)
  after : sys.World

/-- A request under way: what it has been through, latest first, and what is
left of its handler. -/
structure Thread (sys : System ι ε α) where
  entry : sys.Entry
  past : List (Event sys)
  rest : Handler ι ε α

structure Config (sys : System ι ε α) where
  world : sys.World
  threads : List (Thread sys)

inductive Move (sys : System ι ε α) where
  | nudge (how : sys.Nudge)
  | arrive (entry : sys.Entry)
  | crash (index : ℕ)
  | turn (index : ℕ)
  | fault (index : ℕ)

/-- The event of serving a call in a world. -/
def served (query : ι.Call) (world : sys.World) : Event sys :=
  ⟨world, query, (sys.serve query world).1, (sys.serve query world).2⟩

/-- The event of a call that fails without effect. -/
def failed (query : ι.Call) (error : ε) (world : sys.World) : Event sys :=
  ⟨world, query, .error error, world⟩

/-- A thread's next event when its call is served, and what is left after it. -/
def Thread.turn (thread : Thread sys) (world : sys.World) : Option (Event sys × Handler ι ε α) :=
  match thread.rest with
  | .call query next => some (served query world, next (sys.serve query world).1)
  | _ => none

/-- A thread's next event when its call fails. -/
def Thread.fault (thread : Thread sys) (world : sys.World) : Option (Event sys × Handler ι ε α) :=
  match thread.rest with
  | .call query next =>
      (sys.failure query).map fun error => (failed query error world, next (.error error))
  | _ => none

/-- The thread that a move takes a step of, with its event and what is left. -/
def Config.acts (cfg : Config sys) : Move sys → Option (Thread sys × Event sys × Handler ι ε α)
  | .turn index => cfg.threads[index]?.bind fun thread =>
      (thread.turn cfg.world).map fun step => (thread, step.1, step.2)
  | .fault index => cfg.threads[index]?.bind fun thread =>
      (thread.fault cfg.world).map fun step => (thread, step.1, step.2)
  | _ => none

def Thread.begin (sys : System ι ε α) (entry : sys.Entry) : Thread sys :=
  ⟨entry, [], sys.handler entry⟩

/-- The thread after one more event. -/
def Thread.after (thread : Thread sys) (event : Event sys) (rest : Handler ι ε α) : Thread sys :=
  ⟨thread.entry, event :: thread.past, rest⟩

/-- One move; `none` when nothing can move that way. -/
def advance (move : Move sys) (cfg : Config sys) : Option (Config sys) :=
  match move with
  | .nudge how => some ⟨sys.nudge how cfg.world, cfg.threads⟩
  | .arrive entry => some ⟨cfg.world, cfg.threads ++ [Thread.begin sys entry]⟩
  | .crash index => some ⟨cfg.world, cfg.threads.eraseIdx index⟩
  | .turn index => (cfg.acts (.turn index)).map fun (thread, event, rest) =>
      ⟨event.after, cfg.threads.set index (thread.after event rest)⟩
  | .fault index => (cfg.acts (.fault index)).map fun (thread, event, rest) =>
      ⟨event.after, cfg.threads.set index (thread.after event rest)⟩

/-- Every order of moves, each of them allowed where it is made. -/
inductive Run (sys : System ι ε α) (allowed : Config sys → Move sys → Prop) :
    Config sys → Prop where
  | start : Run sys allowed ⟨sys.start, []⟩
  | step {cfg cfg' : Config sys} {move : Move sys} :
      Run sys allowed cfg → allowed cfg move → advance move cfg = some cfg' →
      Run sys allowed cfg'

/-- What any moves at all lead to. -/
abbrev Reachable (sys : System ι ε α) : Config sys → Prop := Run sys fun _ _ => True

variable {allowed stricter : Config sys → Move sys → Prop} {cfg cfg' : Config sys} {move : Move sys}

/-- A run under a stricter condition is a run. -/
theorem Run.weaken (implied : ∀ cfg move, stricter cfg move → allowed cfg move)
    (run : Run sys stricter cfg) : Run sys allowed cfg := by
  induction run with
  | start => exact .start
  | step _ permitted moved ih => exact ih.step (implied _ _ permitted) moved

theorem Run.reachable (run : Run sys allowed cfg) : Reachable sys cfg :=
  run.weaken fun _ _ _ => trivial

/-- The configuration a list of moves leads to, when all of them are allowed and
possible. -/
def play (allowed : Config sys → Move sys → Prop) [∀ cfg move, Decidable (allowed cfg move)] :
    List (Move sys) → Config sys → Option (Config sys)
  | [], cfg => some cfg
  | move :: rest, cfg =>
      if allowed cfg move then (advance move cfg).bind (play allowed rest) else none

/-- What moves lead to from a configuration on. -/
inductive Onward (sys : System ι ε α) (allowed : Config sys → Move sys → Prop)
    (first : Config sys) : Config sys → Prop where
  | here : Onward sys allowed first first
  | step {cfg cfg' : Config sys} {move : Move sys} :
      Onward sys allowed first cfg → allowed cfg move → advance move cfg = some cfg' →
      Onward sys allowed first cfg'

/-- A run goes on. -/
theorem Run.onward (run : Run sys allowed cfg) (later : Onward sys stricter cfg cfg')
    (implied : ∀ cfg move, stricter cfg move → allowed cfg move) : Run sys allowed cfg' := by
  induction later with
  | here => exact run
  | step _ permitted moved ih => exact ih.step (implied _ _ permitted) moved

/-- A list of moves that can be played leads to where it ends. -/
theorem Onward.play [∀ cfg move, Decidable (allowed cfg move)] {first : Config sys}
    {moves : List (Move sys)} (from_ : Onward sys allowed first cfg)
    (played : Interleaving.play allowed moves cfg = some cfg') :
    Onward sys allowed first cfg' := by
  induction moves generalizing cfg with
  | nil => cases played; exact from_
  | cons move rest ih =>
    unfold Interleaving.play at played
    split at played
    · rename_i permitted
      obtain ⟨next, moved, later⟩ := Option.bind_eq_some_iff.mp played
      exact ih (from_.step permitted moved) later
    · cases played

/-- What the end of a played run shows, some run of the system shows. -/
theorem exists_played (allowed : Config sys → Move sys → Prop)
    [∀ cfg move, Decidable (allowed cfg move)] (moves : List (Move sys)) (shows : Config sys → Bool)
    (played : (play allowed moves ⟨sys.start, []⟩).any shows = true) :
    ∃ cfg, Run sys allowed cfg ∧ shows cfg = true := by
  obtain ⟨cfg, ends, shown⟩ := (Option.any_eq_true _ _).mp played
  exact ⟨cfg, Run.start.onward (Onward.here.play ends) fun _ _ permitted => permitted, shown⟩

/-- What a move can do: the world is nudged, a thread begins or is dropped, or
one thread goes through one event and the world with it. -/
theorem advance_cases (moved : advance move cfg = some cfg') :
    (∃ how, move = .nudge how ∧ cfg' = ⟨sys.nudge how cfg.world, cfg.threads⟩) ∨
    (∃ entry, move = .arrive entry ∧
      cfg' = ⟨cfg.world, cfg.threads ++ [Thread.begin sys entry]⟩) ∨
    (∃ index, move = .crash index ∧ cfg' = ⟨cfg.world, cfg.threads.eraseIdx index⟩) ∨
    (∃ index thread event rest, cfg.threads[index]? = some thread ∧
      cfg.acts move = some (thread, event, rest) ∧
      cfg' = ⟨event.after, cfg.threads.set index (thread.after event rest)⟩) := by
  cases move with
  | nudge how => exact .inl ⟨how, rfl, (Option.some.inj moved).symm⟩
  | arrive entry => exact .inr (.inl ⟨entry, rfl, (Option.some.inj moved).symm⟩)
  | crash index => exact .inr (.inr (.inl ⟨index, rfl, (Option.some.inj moved).symm⟩))
  | turn index =>
    obtain ⟨⟨thread, event, rest⟩, acts, same⟩ := Option.map_eq_some_iff.mp moved
    obtain ⟨found, at_, taken⟩ := Option.bind_eq_some_iff.mp acts
    obtain ⟨step, _, pair⟩ := Option.map_eq_some_iff.mp taken
    cases pair
    exact .inr (.inr (.inr ⟨index, _, _, _, at_, acts, same.symm⟩))
  | fault index =>
    obtain ⟨⟨thread, event, rest⟩, acts, same⟩ := Option.map_eq_some_iff.mp moved
    obtain ⟨found, at_, taken⟩ := Option.bind_eq_some_iff.mp acts
    obtain ⟨step, _, pair⟩ := Option.map_eq_some_iff.mp taken
    cases pair
    exact .inr (.inr (.inr ⟨index, _, _, _, at_, acts, same.symm⟩))

/-- How a call can be answered: it is served, or it fails and nothing changes. -/
inductive Answers (sys : System ι ε α) (query : ι.Call) :
    sys.World → Except ε (ι.Answer query) → sys.World → Prop where
  | served (world : sys.World) :
      Answers sys query world (sys.serve query world).1 (sys.serve query world).2
  | failed {error : ε} (world : sys.World) (may : sys.failure query = some error) :
      Answers sys query world (.error error) world

theorem Answers.elim {query : ι.Call} {before after : sys.World}
    {answer : Except ε (ι.Answer query)} (answers : Answers sys query before answer after) :
    (answer = (sys.serve query before).1 ∧ after = (sys.serve query before).2) ∨
      ∃ error, sys.failure query = some error ∧ answer = .error error ∧ after = before := by
  cases answers with
  | served => exact .inl ⟨rfl, rfl⟩
  | failed _ may => exact .inr ⟨_, may, rfl, rfl⟩

/-- An event that happened as the world answers its call. -/
def Event.Genuine (event : Event sys) : Prop :=
  Answers sys event.query event.before event.answer event.after

theorem Event.Genuine.elim {event : Event sys} (genuine : event.Genuine) :
    (∃ query world, event = served query world) ∨
      ∃ query error world, sys.failure query = some error ∧ event = failed query error world := by
  obtain ⟨before, query, answer, after⟩ := event
  change Answers sys query before answer after at genuine
  cases genuine with
  | served => exact .inl ⟨query, before, rfl⟩
  | failed _ may => exact .inr ⟨query, _, before, may, rfl⟩

/-- A thread that acts is at a call, and goes on with the answer to it. -/
theorem acts_cases {thread : Thread sys} {event : Event sys} {rest : Handler ι ε α}
    (acts : cfg.acts move = some (thread, event, rest)) :
    thread ∈ cfg.threads ∧ ∃ query next answer after, thread.rest = .call query next ∧
      event = ⟨cfg.world, query, answer, after⟩ ∧ rest = next answer ∧
      Answers sys query cfg.world answer after := by
  cases move with
  | nudge => cases acts
  | arrive => cases acts
  | crash => cases acts
  | turn index =>
    obtain ⟨found, at_, taken⟩ := Option.bind_eq_some_iff.mp acts
    obtain ⟨step, turned, pair⟩ := Option.map_eq_some_iff.mp taken
    cases pair
    refine ⟨List.mem_of_getElem? at_, ?_⟩
    unfold Thread.turn at turned
    split at turned
    · rename_i query next shape
      cases turned
      exact ⟨query, next, _, _, shape, rfl, rfl, .served _⟩
    · cases turned
  | fault index =>
    obtain ⟨found, at_, taken⟩ := Option.bind_eq_some_iff.mp acts
    obtain ⟨step, failing, pair⟩ := Option.map_eq_some_iff.mp taken
    cases pair
    refine ⟨List.mem_of_getElem? at_, ?_⟩
    unfold Thread.fault at failing
    split at failing
    · rename_i query next shape
      obtain ⟨error, may, same⟩ := Option.map_eq_some_iff.mp failing
      cases same
      exact ⟨query, next, _, _, shape, rfl, rfl, .failed _ may⟩
    · cases failing

/-- A thread that takes its turn has its call served. -/
theorem served_of_turn {index : ℕ} {thread : Thread sys} {event : Event sys} {rest : Handler ι ε α}
    (acts : cfg.acts (.turn index) = some (thread, event, rest)) :
    event = served event.query cfg.world := by
  obtain ⟨found, at_, taken⟩ := Option.bind_eq_some_iff.mp acts
  obtain ⟨step, turned, pair⟩ := Option.map_eq_some_iff.mp taken
  cases pair
  unfold Thread.turn at turned
  split at turned
  · cases turned
    rfl
  · cases turned

/-- A thread whose call fails finds the world as it was. -/
theorem failed_of_fault {index : ℕ} {thread : Thread sys} {event : Event sys} {rest : Handler ι ε α}
    (acts : cfg.acts (.fault index) = some (thread, event, rest)) :
    ∃ error, event = failed event.query error cfg.world := by
  obtain ⟨found, at_, taken⟩ := Option.bind_eq_some_iff.mp acts
  obtain ⟨step, failing, pair⟩ := Option.map_eq_some_iff.mp taken
  cases pair
  unfold Thread.fault at failing
  split at failing
  · obtain ⟨error, -, same⟩ := Option.map_eq_some_iff.mp failing
    cases same
    exact ⟨error, rfl⟩
  · cases failing

/-- A thread goes on as it is, or crashes, or acts. -/
theorem thread_goes_on {thread : Thread sys} (moved : advance move cfg = some cfg')
    (member : thread ∈ cfg.threads) : thread ∈ cfg'.threads ∨
      (∃ index, move = .crash index ∧ cfg.threads[index]? = some thread) ∨
      ∃ event rest, cfg.acts move = some (thread, event, rest) ∧
        thread.after event rest ∈ cfg'.threads := by
  obtain ⟨place, here⟩ := List.mem_iff_getElem?.mp member
  rcases advance_cases moved with ⟨how, rfl, rfl⟩ | ⟨entry, rfl, rfl⟩ | ⟨index, rfl, rfl⟩ |
    ⟨index, acting, event, rest, at_, acts, rfl⟩
  · exact .inl member
  · exact .inl (List.mem_append_left _ member)
  · by_cases same : place = index
    · exact .inr (.inl ⟨index, rfl, same ▸ here⟩)
    · exact .inl (List.mem_eraseIdx_iff_getElem?.mpr ⟨place, same, here⟩)
  · by_cases same : place = index
    · subst same
      rw [here, Option.some.injEq] at at_
      subst at_
      refine .inr (.inr ⟨event, rest, acts, List.mem_set ?_ _⟩)
      exact (List.getElem?_eq_some_iff.mp here).1
    · refine .inl (List.mem_iff_getElem?.mpr ⟨place, ?_⟩)
      rw [List.getElem?_set_ne (Ne.symm same), here]

/-- A thread was there, or has just begun, or has just acted. -/
theorem thread_came {thread : Thread sys} (moved : advance move cfg = some cfg')
    (member : thread ∈ cfg'.threads) : thread ∈ cfg.threads ∨
      (∃ entry, thread = Thread.begin sys entry) ∨
      ∃ acting event rest, cfg.acts move = some (acting, event, rest) ∧
        cfg'.world = event.after ∧ thread = acting.after event rest := by
  rcases advance_cases moved with ⟨how, rfl, rfl⟩ | ⟨entry, rfl, rfl⟩ | ⟨index, rfl, rfl⟩ |
    ⟨index, acting, event, rest, at_, acts, rfl⟩
  · exact .inl member
  · rcases List.mem_append.mp member with old | new
    · exact .inl old
    · exact .inr (.inl ⟨entry, List.mem_singleton.mp new⟩)
  · exact .inl (List.mem_of_mem_eraseIdx member)
  · rcases List.mem_or_eq_of_mem_set member with old | rfl
    · exact .inl old
    · exact .inr (.inr ⟨acting, event, rest, acts, rfl, rfl⟩)

/-- What an acting thread does to the world, its event says, and the thread goes on. -/
theorem advance_of_acts {thread : Thread sys} {event : Event sys} {rest : Handler ι ε α}
    (moved : advance move cfg = some cfg') (acts : cfg.acts move = some (thread, event, rest)) :
    cfg'.world = event.after ∧ thread.after event rest ∈ cfg'.threads := by
  rcases advance_cases moved with ⟨how, rfl, rfl⟩ | ⟨entry, rfl, rfl⟩ | ⟨index, rfl, rfl⟩ |
    ⟨index, acting, happened, more, at_, same, rfl⟩
  · cases acts
  · cases acts
  · cases acts
  · rw [acts] at same
    cases same
    exact ⟨rfl, List.mem_set (List.getElem?_eq_some_iff.mp at_).1 _⟩

/-- What every nudge and every served call does to the world, moves do. -/
theorem Onward.related {related : sys.World → sys.World → Prop}
    (refl : ∀ world, related world world)
    (trans : ∀ first second third, related first second → related second third → related first third)
    (nudged : ∀ how world, related world (sys.nudge how world))
    (served : ∀ query world, related world (sys.serve query world).2) {first : Config sys}
    (later : Onward sys allowed first cfg) : related first.world cfg.world := by
  induction later with
  | here => exact refl _
  | @step cfg cfg' move _ _ moved ih =>
    refine trans _ _ _ ih ?_
    rcases advance_cases moved with ⟨how, rfl, rfl⟩ | ⟨entry, rfl, rfl⟩ | ⟨index, rfl, rfl⟩ |
      ⟨index, thread, event, rest, at_, acts, rfl⟩
    · exact nudged how _
    · exact refl _
    · exact refl _
    · obtain ⟨-, query, next, answer, after, -, rfl, -, answers⟩ := acts_cases acts
      cases answers with
      | served => exact served query _
      | failed => exact refl _

/-- What holds at the start and what every nudge and every served call keeps, holds of the
world in every run. -/
theorem Run.invariant (inv : sys.World → Prop) (start : inv sys.start)
    (nudged : ∀ how world, inv world → inv (sys.nudge how world))
    (served : ∀ query world, inv world → inv (sys.serve query world).2)
    (run : Run sys allowed cfg) : inv cfg.world := by
  induction run with
  | start => exact start
  | step _ _ moved ih =>
    rcases advance_cases moved with ⟨how, rfl, rfl⟩ | ⟨entry, rfl, rfl⟩ | ⟨index, rfl, rfl⟩ |
      ⟨index, thread, event, rest, at_, acts, rfl⟩
    · exact nudged how _ ih
    · exact ih
    · exact ih
    · obtain ⟨-, query, next, answer, after, -, rfl, -, answers⟩ := acts_cases acts
      cases answers with
      | served => exact served query _ ih
      | failed => exact ih

/-- What holds of a thread as it begins, what its own events keep and what no move of the
world disturbs, holds of every thread in every run. -/
theorem Run.threads (holds : sys.World → Thread sys → Prop)
    (begins : ∀ world entry, holds world (Thread.begin sys entry))
    (nudged : ∀ how world thread, holds world thread → holds (sys.nudge how world) thread)
    (served : ∀ query world thread, holds world thread → holds (sys.serve query world).2 thread)
    (acted : ∀ thread query answer after rest world, holds world thread →
      Answers sys query world answer after →
      holds after (thread.after ⟨world, query, answer, after⟩ rest))
    (run : Run sys allowed cfg) : ∀ thread ∈ cfg.threads, holds cfg.world thread := by
  induction run with
  | start => simp
  | @step cfg cfg' move _ _ moved ih =>
    rcases advance_cases moved with ⟨how, rfl, rfl⟩ | ⟨entry, rfl, rfl⟩ | ⟨index, rfl, rfl⟩ |
      ⟨index, thread, event, rest, at_, acts, rfl⟩
    · exact fun thread member => nudged how _ thread (ih thread member)
    · intro thread member
      rcases List.mem_append.mp member with old | new
      · exact ih thread old
      · rw [List.mem_singleton] at new
        subst new
        exact begins _ _
    · exact fun thread member => ih thread (List.mem_of_mem_eraseIdx member)
    · obtain ⟨mine, query, next, answer, after, -, rfl, rfl, answers⟩ := acts_cases acts
      intro other member
      rcases List.mem_or_eq_of_mem_set member with old | rfl
      · cases answers with
        | served => exact served query _ other (ih other old)
        | failed => exact ih other old
      · exact acted thread query answer after _ _ (ih thread mine) answers

/-- What holds of every request that is let in holds of every thread's. -/
theorem Run.arrived (known : sys.Entry → Prop)
    (arrivals : ∀ cfg entry, allowed cfg (.arrive entry) → known entry)
    (run : Run sys allowed cfg) : ∀ thread ∈ cfg.threads, known thread.entry := by
  induction run with
  | start => simp
  | @step cfg cfg' move _ permitted moved ih =>
    rcases advance_cases moved with ⟨how, rfl, rfl⟩ | ⟨entry, rfl, rfl⟩ | ⟨index, rfl, rfl⟩ |
      ⟨index, thread, event, rest, at_, acts, rfl⟩
    · exact ih
    · intro thread member
      rcases List.mem_append.mp member with old | new
      · exact ih thread old
      · rw [List.mem_singleton] at new
        subst new
        exact arrivals _ _ permitted
    · exact fun thread member => ih thread (List.mem_of_mem_eraseIdx member)
    · intro other member
      rcases List.mem_or_eq_of_mem_set member with old | rfl
      · exact ih other old
      · exact ih thread (List.mem_of_getElem? at_)

/-- What holds at the start and what every nudge and every call of a kind keeps, holds of
the world in every run whose requests make calls of that kind only. -/
theorem Run.invariant_of_calls {only : ι.Call → Prop} (inv : sys.World → Prop)
    (start : inv sys.start) (nudged : ∀ how world, inv world → inv (sys.nudge how world))
    (served : ∀ query world, only query → inv world → inv (sys.serve query world).2)
    (arrivals : ∀ cfg entry, allowed cfg (.arrive entry) → (sys.handler entry).Calls only)
    (run : Run sys allowed cfg) :
    inv cfg.world ∧ ∀ thread ∈ cfg.threads, thread.rest.Calls only := by
  induction run with
  | start => exact ⟨start, by simp⟩
  | @step cfg cfg' move _ permitted moved ih =>
    obtain ⟨held, calls⟩ := ih
    rcases advance_cases moved with ⟨how, rfl, rfl⟩ | ⟨entry, rfl, rfl⟩ | ⟨index, rfl, rfl⟩ |
      ⟨index, thread, event, rest, at_, acts, rfl⟩
    · exact ⟨nudged how _ held, calls⟩
    · refine ⟨held, fun thread member => ?_⟩
      rcases List.mem_append.mp member with old | new
      · exact calls thread old
      · rw [List.mem_singleton] at new
        subst new
        exact arrivals _ _ permitted
    · exact ⟨held, fun thread member => calls thread (List.mem_of_mem_eraseIdx member)⟩
    · obtain ⟨mine, query, next, answer, after, shape, rfl, rfl, answers⟩ := acts_cases acts
      have own := calls thread mine
      rw [shape] at own
      refine ⟨?_, fun other member => ?_⟩
      · cases answers with
        | served => exact served query _ own.1 held
        | failed => exact held
      · rcases List.mem_or_eq_of_mem_set member with old | rfl
        · exact calls other old
        · exact own.2 answer

end Interleaving

import ParentalCoord.Interleaving.Pool

/-!
Rely and guarantee for a pool of handlers.

A `Discipline` names what every thread may count on: an invariant of the world,
and a `rely` that relates the world a thread has seen to the world it finds
later, whatever the others do meanwhile.  In return each of its own events keeps
the invariant and meets `guar`, which entails the rely for everybody else.

`Keeps` is that obligation for one handler, by recursion on it.  What a thread
knows is its past: at a call, the world is any that every event of the past can
rely on to have moved on from it, and the answer is any the call can have.

`Run.disciplined` is the one induction over runs: once the obligation is shown
for each handler on its own, every configuration of every run keeps the
invariant and every thread has met its guarantee at each event it went through.
`assumes` weakens the obligation to runs whose events meet a condition, which
the run has to supply (`Discipline.Supplies`).
-/

namespace Interleaving

variable {ι : Interface} {ε α β γ : Type} {sys : System ι ε α}

structure Discipline (sys : System ι ε α) where
  inv : sys.World → Prop
  rely : sys.World → sys.World → Prop
  /-- A condition on the next event of a thread, given its past. -/
  assumes : sys.Entry → List (Event sys) → Event sys → Prop := fun _ _ _ => True
  guar : sys.Entry → List (Event sys) → Event sys → Prop
  /-- What a thread that has ended shows for it. -/
  post : sys.Entry → Except ε α → List (Event sys) → Prop := fun _ _ _ => True

namespace Discipline

/-- What holds at the end of a handler, of its result and its past. -/
abbrev Post (sys : System ι ε α) (β : Type) := Except ε β → List (Event sys) → Prop

variable (D : Discipline sys)

/-- A thread's past: its calls were answered as the world answers them, and the
world has only moved on since. -/
def Behind (past : List (Event sys)) (world : sys.World) : Prop :=
  ∀ event ∈ past, event.Genuine ∧ D.rely event.after world

/-- The handler meets its guarantee at every call and ends in `post`. -/
def Keeps (entry : sys.Entry) (post : Post sys β) :
    Handler ι ε β → List (Event sys) → Prop
  | .ret value, past => post (.ok value) past
  | .throw error, past => post (.error error) past
  | .call query next, past => ∀ before answer after,
      D.Behind past before → D.inv before → Answers sys query before answer after →
      D.assumes entry past ⟨before, query, answer, after⟩ →
      D.guar entry past ⟨before, query, answer, after⟩ ∧ D.inv after ∧
        Keeps entry post (next answer) (⟨before, query, answer, after⟩ :: past)

/-- Every event of a past met its guarantee where it happened. -/
def Lawful (entry : sys.Entry) : List (Event sys) → Prop
  | [] => True
  | event :: past => D.guar entry past event ∧ Lawful entry past

/-- A discipline that the world and every handler keep. -/
structure Sound : Prop where
  refl : ∀ world, D.rely world world
  trans : ∀ {first second third}, D.rely first second → D.rely second third → D.rely first third
  start : D.inv sys.start
  nudge : ∀ how world, D.inv world →
    D.inv (sys.nudge how world) ∧ D.rely world (sys.nudge how world)
  guar_rely : ∀ {entry past event}, D.inv event.before → D.guar entry past event →
    D.rely event.before event.after
  handlers : ∀ entry, D.Keeps entry (D.post entry) (sys.handler entry) []

/-- The condition on moves entails what the discipline assumes of events. -/
def Supplies (allowed : Config sys → Move sys → Prop) : Prop :=
  ∀ cfg move thread event rest, Run sys allowed cfg → allowed cfg move →
    cfg.acts move = some (thread, event, rest) → D.assumes thread.entry thread.past event

/-- A thread that keeps the discipline from here on, and has so far. -/
structure Holds (world : sys.World) (thread : Thread sys) : Prop where
  lawful : D.Lawful thread.entry thread.past
  behind : D.Behind thread.past world
  keeps : D.Keeps thread.entry (D.post thread.entry) thread.rest thread.past

variable {D} {entry : sys.Entry} {post post' : Post sys β} {past : List (Event sys)}
  {world later : sys.World} {handler : Handler ι ε β}

theorem Behind.head {event : Event sys} (behind : D.Behind (event :: past) world) :
    event.Genuine ∧ D.rely event.after world := behind event (by simp)

theorem Behind.tail {event : Event sys} (behind : D.Behind (event :: past) world) :
    D.Behind past world := fun seen member => behind seen (List.mem_cons_of_mem _ member)

theorem Keeps.mono (kept : D.Keeps entry post handler past)
    (weaker : ∀ result past, post result past → post' result past) :
    D.Keeps entry post' handler past := by
  induction handler generalizing past with
  | ret value => exact weaker _ _ kept
  | throw error => exact weaker _ _ kept
  | call query next ih =>
    intro before answer after behind held answers assumed
    obtain ⟨met, holds, rest⟩ := kept before answer after behind held answers assumed
    exact ⟨met, holds, ih answer rest⟩

/-- Each event of a lawful past met its guarantee after those before it. -/
theorem Lawful.of_mem (lawful : D.Lawful entry past) {event : Event sys} (member : event ∈ past) :
    ∃ earlier, earlier <:+ past ∧ D.guar entry earlier event := by
  induction past with
  | nil => cases member
  | cons last past ih =>
    rcases List.mem_cons.mp member with rfl | before
    · exact ⟨past, List.suffix_cons _ _, lawful.1⟩
    · obtain ⟨earlier, within, met⟩ := ih lawful.2 before
      exact ⟨earlier, within.trans (List.suffix_cons _ _), met⟩

/-- The obligation of a sequence: the first part ends where the second begins. -/
theorem Keeps.bind {first : Handler ι ε γ} {rest : γ → Handler ι ε β}
    (kept : D.Keeps entry (fun result past => match result with
      | .ok value => D.Keeps entry post (rest value) past
      | .error error => post (.error error) past) first past) :
    D.Keeps entry post (first.bind rest) past := by
  induction first generalizing past with
  | ret value => exact kept
  | throw error => exact kept
  | call query next ih =>
    intro before answer after behind held answers assumed
    obtain ⟨met, holds, more⟩ := kept before answer after behind held answers assumed
    exact ⟨met, holds, ih answer more⟩

/-- What is caught goes on with the recovery. -/
theorem Keeps.tryCatch {first : Handler ι ε β} {recover : ε → Handler ι ε β}
    (kept : D.Keeps entry (fun result past => match result with
      | .ok value => post (.ok value) past
      | .error error => D.Keeps entry post (recover error) past) first past) :
    D.Keeps entry post (first.tryCatch recover) past := by
  induction first generalizing past with
  | ret value => exact kept
  | throw error => exact kept
  | call query next ih =>
    intro before answer after behind held answers assumed
    obtain ⟨met, holds, more⟩ := kept before answer after behind held answers assumed
    exact ⟨met, holds, ih answer more⟩

/-- The obligation of one call whose failure is thrown: served or failed, the
guarantee is met, and the answer or the error is what the rest is owed. -/
theorem Keeps.perform {query : ι.Call} {post : Post sys (ι.Answer query)}
    (step : ∀ before answer after, D.Behind past before → D.inv before →
      Answers sys query before answer after →
      D.assumes entry past ⟨before, query, answer, after⟩ →
      D.guar entry past ⟨before, query, answer, after⟩ ∧ D.inv after ∧
        post answer (⟨before, query, answer, after⟩ :: past)) :
    D.Keeps entry post (Handler.perform query) past := by
  intro before answer after behind held answers assumed
  obtain ⟨met, holds, shown⟩ := step before answer after behind held answers assumed
  refine ⟨met, holds, ?_⟩
  cases answer with
  | ok value => exact shown
  | error error => exact shown

/-- The obligation of a call and what comes after it. -/
theorem Keeps.perform_bind {query : ι.Call} {rest : ι.Answer query → Handler ι ε β}
    (step : ∀ before answer after, D.Behind past before → D.inv before →
      Answers sys query before answer after →
      D.assumes entry past ⟨before, query, answer, after⟩ →
      D.guar entry past ⟨before, query, answer, after⟩ ∧ D.inv after ∧ match answer with
        | .ok value => D.Keeps entry post (rest value) (⟨before, query, answer, after⟩ :: past)
        | .error error => post (.error error) (⟨before, query, answer, after⟩ :: past)) :
    D.Keeps entry post ((Handler.perform query).bind rest) past := by
  refine Keeps.bind (Keeps.perform fun before answer after behind held answers assumed => ?_)
  obtain ⟨met, holds, more⟩ := step before answer after behind held answers assumed
  refine ⟨met, holds, ?_⟩
  cases answer with
  | ok value => exact more
  | error error => exact more

/-- A handler only adds to its past. -/
theorem Keeps.suffix (kept : D.Keeps entry post handler past) :
    D.Keeps entry (fun result later => past <:+ later ∧ post result later) handler past := by
  suffices extends_ : ∀ base, base <:+ past →
      D.Keeps entry (fun result later => base <:+ later ∧ post result later) handler past from
    extends_ past List.suffix_rfl
  induction handler generalizing past with
  | ret value => exact fun base below => ⟨below, kept⟩
  | throw error => exact fun base below => ⟨below, kept⟩
  | call query next ih =>
    intro base below before answer after behind held answers assumed
    obtain ⟨met, holds, more⟩ := kept before answer after behind held answers assumed
    exact ⟨met, holds, ih answer more base (below.trans (List.suffix_cons _ _))⟩

/-- A handler adds only calls of its own to its past. -/
theorem Keeps.added {only : ι.Call → Prop} (kept : D.Keeps entry post handler past)
    (calls : handler.Calls only) :
    D.Keeps entry (fun result later => ∃ added, later = added ++ past ∧
      (∀ event ∈ added, only event.query) ∧ post result later) handler past := by
  suffices extends_ : ∀ base added, past = added ++ base → (∀ event ∈ added, only event.query) →
      D.Keeps entry (fun result later => ∃ added, later = added ++ base ∧
        (∀ event ∈ added, only event.query) ∧ post result later) handler past from
    extends_ past [] rfl (by simp)
  induction handler generalizing past with
  | ret value => exact fun base added same known => ⟨added, same, known, kept⟩
  | throw error => exact fun base added same known => ⟨added, same, known, kept⟩
  | call query next ih =>
    intro base added same known before answer after behind held answers assumed
    obtain ⟨met, holds, more⟩ := kept before answer after behind held answers assumed
    refine ⟨met, holds, ih answer more (calls.2 answer) base (⟨before, query, answer, after⟩ :: added)
      (by rw [same]; rfl) fun event member => ?_⟩
    rcases List.mem_cons.mp member with rfl | earlier
    · exact calls.1
    · exact known event earlier

/-- A handler whose calls are all harmless, whatever the past, keeps the discipline
and only adds those calls to its past. -/
theorem Keeps.of_calls {only : ι.Call → Prop} (calls : handler.Calls only)
    (harmless : ∀ query, only query → ∀ past before answer after, D.inv before →
      Answers sys query before answer after →
      D.assumes entry past ⟨before, query, answer, after⟩ →
      D.guar entry past ⟨before, query, answer, after⟩ ∧ D.inv after)
    (ends : ∀ result added, (∀ event ∈ added, only event.query) → post result (added ++ past)) :
    D.Keeps entry post handler past := by
  suffices onward : ∀ added, (∀ event ∈ added, only event.query) →
      D.Keeps entry post handler (added ++ past) from onward [] (by simp)
  induction handler with
  | ret value => exact fun added known => ends _ added known
  | throw error => exact fun added known => ends _ added known
  | call query next ih =>
    intro added known before answer after behind held answers assumed
    obtain ⟨met, holds⟩ := harmless query calls.1 _ before answer after held answers assumed
    refine ⟨met, holds, ih answer (calls.2 answer) (⟨before, query, answer, after⟩ :: added) ?_⟩
    intro event member
    rcases List.mem_cons.mp member with rfl | earlier
    · exact calls.1
    · exact known event earlier

/-- A thread is not disturbed by what the others do meanwhile. -/
theorem Holds.stable (sound : D.Sound) {thread : Thread sys} (holds : D.Holds world thread)
    (relied : D.rely world later) : D.Holds later thread :=
  ⟨holds.lawful, fun event member =>
    ⟨(holds.behind event member).1, sound.trans (holds.behind event member).2 relied⟩, holds.keeps⟩

/-- One event of a thread that keeps the discipline. -/
theorem Holds.act {cfg : Config sys} {move : Move sys} {thread : Thread sys} {event : Event sys}
    {rest : Handler ι ε α} (sound : D.Sound) (held : D.inv cfg.world)
    (holds : D.Holds cfg.world thread) (acts : cfg.acts move = some (thread, event, rest))
    (assumed : D.assumes thread.entry thread.past event) :
    D.guar thread.entry thread.past event ∧ D.inv event.after ∧
      D.rely cfg.world event.after ∧ D.Holds event.after (thread.after event rest) := by
  obtain ⟨_, query, next, answer, after, shape, rfl, rfl, answers⟩ := acts_cases acts
  have kept := holds.keeps
  rw [shape] at kept
  obtain ⟨met, inv, more⟩ := kept _ _ _ holds.behind held answers assumed
  have onward := sound.guar_rely held met
  refine ⟨met, inv, onward, ⟨met, holds.lawful⟩, fun seen member => ?_, more⟩
  rcases List.mem_cons.mp member with rfl | earlier
  · exact ⟨answers, sound.refl _⟩
  · obtain ⟨genuine, relied⟩ := holds.behind seen earlier
    exact ⟨genuine, sound.trans relied onward⟩

end Discipline

open Discipline

variable {D : Discipline sys} {allowed : Config sys → Move sys → Prop} {cfg cfg' : Config sys}
  {move : Move sys}

/-- **Every run keeps the discipline.** -/
theorem Run.disciplined (sound : D.Sound) (supplies : D.Supplies allowed)
    (run : Run sys allowed cfg) :
    D.inv cfg.world ∧ ∀ thread ∈ cfg.threads, D.Holds cfg.world thread := by
  induction run with
  | start => exact ⟨sound.start, by simp⟩
  | @step cfg cfg' move before permitted moved ih =>
    obtain ⟨held, threads⟩ := ih
    rcases advance_cases moved with ⟨how, rfl, rfl⟩ | ⟨entry, rfl, rfl⟩ | ⟨index, rfl, rfl⟩ |
      ⟨index, thread, event, rest, at_, acts, rfl⟩
    · obtain ⟨inv, relied⟩ := sound.nudge how _ held
      exact ⟨inv, fun thread member => (threads thread member).stable sound relied⟩
    · refine ⟨held, fun thread member => ?_⟩
      rcases List.mem_append.mp member with old | new
      · exact threads thread old
      · rw [List.mem_singleton] at new
        subst new
        exact ⟨trivial, by simp [Behind, Thread.begin], sound.handlers entry⟩
    · exact ⟨held, fun thread member => threads thread (List.mem_of_mem_eraseIdx member)⟩
    · have assumed := supplies _ _ _ _ _ before permitted acts
      obtain ⟨met, inv, onward, own⟩ :=
        (threads thread (List.mem_of_getElem? at_)).act sound held acts assumed
      refine ⟨inv, fun other member => ?_⟩
      rcases List.mem_or_eq_of_mem_set member with old | rfl
      · exact (threads other old).stable sound onward
      · exact own

/-- Each event of a run meets the guarantee of the thread it belongs to. -/
theorem Run.guaranteed (sound : D.Sound) (supplies : D.Supplies allowed)
    (run : Run sys allowed cfg) (permitted : allowed cfg move) {thread : Thread sys}
    {event : Event sys} {rest : Handler ι ε α}
    (acts : cfg.acts move = some (thread, event, rest)) :
    D.guar thread.entry thread.past event := by
  obtain ⟨held, threads⟩ := run.disciplined sound supplies
  exact ((threads thread (acts_cases acts).1).act sound held acts
    (supplies _ _ _ _ _ run permitted acts)).1

/-- A thread that has ended shows its postcondition. -/
theorem Run.ended (sound : D.Sound) (supplies : D.Supplies allowed) (run : Run sys allowed cfg)
    {thread : Thread sys} (member : thread ∈ cfg.threads) :
    (∀ value, thread.rest = .ret value → D.post thread.entry (.ok value) thread.past) ∧
      ∀ error, thread.rest = .throw error → D.post thread.entry (.error error) thread.past := by
  have kept := ((run.disciplined sound supplies).2 thread member).keeps
  constructor
  · intro value shape
    rw [shape] at kept
    exact kept
  · intro error shape
    rw [shape] at kept
    exact kept

/-- Wherever a run goes on to, the world may be relied on to have moved on. -/
theorem Run.relied (sound : D.Sound) (supplies : D.Supplies allowed) (run : Run sys allowed cfg)
    (later : Onward sys allowed cfg cfg') : D.rely cfg.world cfg'.world := by
  induction later with
  | here => exact sound.refl _
  | @step mid last move later permitted moved ih =>
    have reached := run.onward later fun _ _ may => may
    obtain ⟨held, threads⟩ := reached.disciplined sound supplies
    refine sound.trans ih ?_
    rcases advance_cases moved with ⟨how, rfl, rfl⟩ | ⟨entry, rfl, rfl⟩ | ⟨index, rfl, rfl⟩ |
      ⟨index, thread, event, rest, at_, acts, rfl⟩
    · exact (sound.nudge how _ held).2
    · exact sound.refl _
    · exact sound.refl _
    · have assumed := supplies _ _ _ _ _ reached permitted acts
      exact ((threads thread (acts_cases acts).1).act sound held acts assumed).2.2.1

/-- Without a condition there is nothing to supply. -/
theorem Discipline.supplies_of_assumes (free : ∀ entry past event, D.assumes entry past event) :
    D.Supplies allowed := fun _ _ _ _ _ _ _ _ => free _ _ _

end Interleaving

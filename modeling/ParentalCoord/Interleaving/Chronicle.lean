import ParentalCoord.Interleaving.Pool

/-!
Runs with all that has happened in them.

A `Chronicle` is a run together with its moves, the latest first, each with the
configuration that it was made in.  Where `Run` says what can be reached,
`Chronicle` speaks of the way: what was done at some moment, and what has held
ever since.
-/

namespace Interleaving

variable {ι : Interface} {ε α : Type} {sys : System ι ε α}
  {allowed stricter : Config sys → Move sys → Prop} {cfg cfg' : Config sys} {move : Move sys}

/-- A move with the configuration that it is made in. -/
abbrev Moment (sys : System ι ε α) := Config sys × Move sys

variable {moments older newer : List (Moment sys)}

/-- The moves that have led to a configuration, the latest first. -/
inductive Chronicle (sys : System ι ε α) (allowed : Config sys → Move sys → Prop) :
    List (Moment sys) → Config sys → Prop where
  | start : Chronicle sys allowed [] ⟨sys.start, []⟩
  | step {moments : List (Moment sys)} {cfg cfg' : Config sys} {move : Move sys} :
      Chronicle sys allowed moments cfg → allowed cfg move → advance move cfg = some cfg' →
      Chronicle sys allowed ((cfg, move) :: moments) cfg'

theorem Chronicle.run (chronicle : Chronicle sys allowed moments cfg) : Run sys allowed cfg := by
  induction chronicle with
  | start => exact .start
  | step _ permitted moved ih => exact ih.step permitted moved

theorem Run.chronicle (run : Run sys allowed cfg) : ∃ moments, Chronicle sys allowed moments cfg := by
  induction run with
  | start => exact ⟨[], .start⟩
  | step _ permitted moved ih =>
    obtain ⟨moments, chronicle⟩ := ih
    exact ⟨_, chronicle.step permitted moved⟩

/-- Each moment is one of a run. -/
theorem Chronicle.run_at (chronicle : Chronicle sys allowed moments cfg) :
    ∀ moment ∈ moments, Run sys allowed moment.1 := by
  induction chronicle with
  | start => simp
  | step earlier _ _ ih =>
    intro moment member
    rcases List.mem_cons.mp member with rfl | before
    · exact earlier.run
    · exact ih moment before

/-- A chronicle under a stricter condition is one. -/
theorem Chronicle.weaken (implied : ∀ cfg move, stricter cfg move → allowed cfg move)
    (chronicle : Chronicle sys stricter moments cfg) : Chronicle sys allowed moments cfg := by
  induction chronicle with
  | start => exact .start
  | step _ permitted moved ih => exact ih.step (implied _ _ permitted) moved

/-- Where the moves were led to that came before the newer ones. -/
def ledTo : List (Moment sys) → Config sys → Config sys
  | [], cfg => cfg
  | last :: newer, _ => ledTo newer last.1

/-- The older part of a chronicle is one. -/
theorem Chronicle.part (chronicle : Chronicle sys allowed (newer ++ older) cfg) :
    Chronicle sys allowed older (ledTo newer cfg) := by
  induction newer generalizing cfg with
  | nil => exact chronicle
  | cons last newer ih =>
    cases chronicle with
    | step before => exact ih before

/-- The chronicle of a list of moves, and where it ends. -/
def follow (allowed : Config sys → Move sys → Prop) [∀ cfg move, Decidable (allowed cfg move)] :
    List (Move sys) → List (Moment sys) → Config sys → Option (List (Moment sys) × Config sys)
  | [], moments, cfg => some (moments, cfg)
  | move :: rest, moments, cfg =>
      if allowed cfg move then (advance move cfg).bind (follow allowed rest ((cfg, move) :: moments))
      else none

theorem Chronicle.follow [∀ cfg move, Decidable (allowed cfg move)] {moves : List (Move sys)}
    (chronicle : Chronicle sys allowed older cfg)
    (followed : Interleaving.follow allowed moves older cfg = some (moments, cfg')) :
    Chronicle sys allowed moments cfg' := by
  induction moves generalizing older cfg with
  | nil =>
    cases followed
    exact chronicle
  | cons move rest ih =>
    unfold Interleaving.follow at followed
    split at followed
    · rename_i permitted
      obtain ⟨next, moved, later⟩ := Option.bind_eq_some_iff.mp followed
      exact ih (chronicle.step permitted moved) later
    · cases followed

/-- What a played chronicle shows at its end, some chronicle of the system shows. -/
theorem exists_followed (allowed : Config sys → Move sys → Prop)
    [∀ cfg move, Decidable (allowed cfg move)] (moves : List (Move sys))
    (shows : List (Moment sys) → Config sys → Bool)
    (followed : (follow allowed moves [] ⟨sys.start, []⟩).any (fun ends => shows ends.1 ends.2) = true) :
    ∃ moments cfg, Chronicle sys allowed moments cfg ∧ shows moments cfg = true := by
  obtain ⟨⟨moments, cfg⟩, ends, shown⟩ := (Option.any_eq_true _ _).mp followed
  exact ⟨moments, cfg, Chronicle.start.follow ends, shown⟩

/-- What every move carries on holds of every earlier configuration and the present one. -/
theorem Chronicle.related (related : sys.World → sys.World → Prop)
    (refl : ∀ world, related world world)
    (trans : ∀ first second third, related first second → related second third → related first third)
    (nudged : ∀ how world, related world (sys.nudge how world))
    (served : ∀ query world, related world (sys.serve query world).2)
    (chronicle : Chronicle sys allowed moments cfg) : ∀ moment ∈ moments, related moment.1.world cfg.world := by
  induction chronicle with
  | start => simp
  | @step moments cfg cfg' move _ permitted moved ih =>
    have onward := (Onward.here.step permitted moved).related refl trans nudged served
    intro moment member
    rcases List.mem_cons.mp member with rfl | earlier
    · exact onward
    · exact trans _ _ _ (ih moment earlier) onward

/-- What a thread has been through, it went through at some moment. -/
theorem Chronicle.happened (chronicle : Chronicle sys allowed moments cfg) :
    ∀ thread ∈ cfg.threads, ∀ event ∈ thread.past,
      ∃ moment ∈ moments, ∃ acting rest, moment.1.acts moment.2 = some (acting, event, rest) := by
  induction chronicle with
  | start => simp
  | @step moments cfg cfg' move _ _ moved ih =>
    have earlier : ∀ thread ∈ cfg.threads, ∀ event ∈ thread.past, ∃ moment ∈ (cfg, move) :: moments,
        ∃ acting rest, moment.1.acts moment.2 = some (acting, event, rest) := by
      intro thread member event there
      obtain ⟨moment, known, happened⟩ := ih thread member event there
      exact ⟨moment, List.mem_cons_of_mem _ known, happened⟩
    intro thread member event there
    rcases thread_came moved member with old | ⟨entry, rfl⟩ | ⟨acting, last, rest, acts, -, rfl⟩
    · exact earlier thread old event there
    · cases there
    · rcases List.mem_cons.mp there with rfl | before
      · exact ⟨(cfg, move), List.mem_cons_self, acting, rest, acts⟩
      · exact earlier acting (acts_cases acts).1 event before

/-- Without a crash, what has happened is in the past of the thread that it happened to. -/
theorem Chronicle.remembered {before : Config sys} {thread : Thread sys} {event : Event sys}
    {rest : Handler ι ε α}
    (chronicle : Chronicle sys allowed (newer ++ (before, move) :: older) cfg)
    (acts : before.acts move = some (thread, event, rest))
    (uncrashed : ∀ moment ∈ newer, ∀ index, moment.2 ≠ .crash index) :
    ∃ done ∈ cfg.threads, done.entry = thread.entry ∧ event ∈ done.past := by
  induction newer generalizing cfg with
  | nil =>
    cases chronicle with
    | step _ _ moved => exact ⟨_, (advance_of_acts moved acts).2, rfl, List.mem_cons_self⟩
  | cons last newer ih =>
    cases chronicle with
    | step earlier _ moved =>
      obtain ⟨done, member, entry, known⟩ := ih earlier fun moment new =>
        uncrashed moment (List.mem_cons_of_mem _ new)
      rcases thread_goes_on moved member with still | ⟨index, crash, -⟩ | ⟨later, more, -, onward⟩
      · exact ⟨done, still, entry, known⟩
      · exact absurd crash (uncrashed _ List.mem_cons_self index)
      · exact ⟨_, onward, entry, List.mem_cons_of_mem _ known⟩

/-- What holds of the world and did not at the start, some event has brought about. -/
theorem Chronicle.origin (holds : sys.World → Prop) (fresh : ¬holds sys.start)
    (nudged : ∀ how world, holds (sys.nudge how world) → holds world)
    (chronicle : Chronicle sys allowed moments cfg) (now : holds cfg.world) :
    ∃ newer before move older thread event rest, moments = newer ++ (before, move) :: older ∧
      Chronicle sys allowed older before ∧ allowed before move ∧
      before.acts move = some (thread, event, rest) ∧ ¬holds before.world ∧ holds event.after := by
  induction chronicle with
  | start => exact absurd now fresh
  | @step moments cfg cfg' move earlier permitted moved ih =>
    by_cases already : holds cfg.world
    · obtain ⟨newer, before, move', older, thread, event, rest, rfl, known⟩ := ih already
      exact ⟨(cfg, move) :: newer, before, move', older, thread, event, rest, rfl, known⟩
    · rcases advance_cases moved with ⟨how, rfl, rfl⟩ | ⟨entry, rfl, rfl⟩ | ⟨index, rfl, rfl⟩ |
        ⟨index, thread, event, rest, at_, acts, rfl⟩
      · exact absurd (nudged how _ now) already
      · exact absurd now already
      · exact absurd now already
      · exact ⟨[], cfg, move, moments, thread, event, rest, rfl, earlier, permitted, acts, already, now⟩

end Interleaving

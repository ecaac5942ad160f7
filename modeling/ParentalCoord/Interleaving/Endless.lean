import Mathlib.Order.OrderIsoNat
import ParentalCoord.Interleaving.Pool
import ParentalCoord.Interleaving.Unhurried
import ParentalCoord.Interleaving.View

/-!
Runs that do not end.

`Run` and `Onward` speak of what finitely many moves lead to.  Here configurations follow one
another without end, any number of moves apart.  A measure that no move raises comes to rest, and
what has come to rest can be looked at through any request that has been carried out since: the
calls of its past are answered by the world at rest.
-/

namespace Interleaving

variable {ι : Interface} {ε α β : Type} {sys : System ι ε α} {allowed : Config sys → Move sys → Prop}
  {first cfg cfg' : Config sys}

/-- Configurations that follow one another without end. -/
def Endless (sys : System ι ε α) (allowed : Config sys → Move sys → Prop) (cfgs : ℕ → Config sys) : Prop :=
  ∀ moment, Onward sys allowed (cfgs moment) (cfgs (moment + 1))

variable {cfgs : ℕ → Config sys} {earlier later : ℕ}

theorem Endless.onward (endless : Endless sys allowed cfgs) (order : earlier ≤ later) :
    Onward sys allowed (cfgs earlier) (cfgs later) := by
  induction later, order using Nat.le_induction with
  | base => exact .here
  | succ later _ ih => exact ih.trans (endless later)

section Calls

variable {only : ι.Call → Prop}

/-- Every thread makes calls of the kind only. -/
def Config.Calls (only : ι.Call → Prop) (cfg : Config sys) : Prop :=
  ∀ thread ∈ cfg.threads, thread.rest.Calls only

theorem Onward.calls (arrivals : ∀ cfg entry, allowed cfg (.arrive entry) → (sys.handler entry).Calls only)
    (calls : first.Calls only) (onward : Onward sys allowed first cfg) : cfg.Calls only := by
  induction onward with
  | here => exact calls
  | @step cfg cfg' move _ permitted moved ih =>
    intro thread member
    rcases advance_cases moved with ⟨how, rfl, rfl⟩ | ⟨entry, rfl, rfl⟩ | ⟨index, rfl, rfl⟩ |
      ⟨index, acting, event, rest, at_, acts, rfl⟩
    · exact ih thread member
    · rcases List.mem_append.mp member with old | new
      · exact ih thread old
      · rw [List.mem_singleton] at new
        subst new
        exact arrivals _ _ permitted
    · exact ih thread (List.mem_of_mem_eraseIdx member)
    · rcases List.mem_or_eq_of_mem_set member with old | rfl
      · exact ih thread old
      · obtain ⟨mine, query, next, answer, after, shape, rfl, rfl, -⟩ := acts_cases acts
        have own := ih acting mine
        rw [shape] at own
        exact own.2 answer

/-- What happened on the way from one configuration to the other. -/
structure Between (related : sys.World → sys.World → Prop) (first cfg : Config sys) (event : Event sys) :
    Prop where
  genuine : event.Genuine
  before : related first.world event.before
  across : related event.before event.after
  after : related event.after cfg.world

variable {related : sys.World → sys.World → Prop}

/-- What every nudge and every call of the kind does to the world, all moves on the way do. -/
theorem Onward.between (refl : ∀ world, related world world)
    (trans : ∀ first second third, related first second → related second third → related first third)
    (nudged : ∀ how world, related world (sys.nudge how world))
    (served : ∀ query world, only query → related world (sys.serve query world).2)
    (arrivals : ∀ cfg entry, allowed cfg (.arrive entry) → (sys.handler entry).Calls only)
    (calls : first.Calls only) (onward : Onward sys allowed first cfg) :
    related first.world cfg.world ∧ ∀ thread ∈ cfg.threads, ∀ event ∈ thread.past,
      (∃ old ∈ first.threads, event ∈ old.past) ∨ Between related first cfg event := by
  induction onward with
  | here => exact ⟨refl _, fun thread member event there => .inl ⟨thread, member, there⟩⟩
  | @step cfg cfg' move before permitted moved ih =>
    obtain ⟨far, known⟩ := ih
    have kept (near : related cfg.world cfg'.world) : ∀ thread ∈ cfg.threads, ∀ event ∈ thread.past,
        (∃ old ∈ first.threads, event ∈ old.past) ∨ Between related first cfg' event := by
      intro thread member event there
      rcases known thread member event there with old | passed
      · exact .inl old
      · exact .inr ⟨passed.genuine, passed.before, passed.across, trans _ _ _ passed.after near⟩
    rcases advance_cases moved with ⟨how, rfl, rfl⟩ | ⟨entry, rfl, rfl⟩ | ⟨index, rfl, rfl⟩ |
      ⟨index, acting, event, rest, at_, acts, rfl⟩
    · have near := nudged how cfg.world
      exact ⟨trans _ _ _ far near, kept near⟩
    · refine ⟨far, fun thread member => ?_⟩
      rcases List.mem_append.mp member with old | new
      · exact kept (refl _) thread old
      · rw [List.mem_singleton] at new
        subst new
        exact fun event there => nomatch there
    · exact ⟨far, fun thread member => kept (refl _) thread (List.mem_of_mem_eraseIdx member)⟩
    · obtain ⟨mine, query, next, answer, after, shape, rfl, rfl, answers⟩ := acts_cases acts
      have own := before.calls arrivals calls acting mine
      rw [shape] at own
      have near : related cfg.world after := by
        cases answers with
        | served => exact served query _ own.1
        | failed => exact refl _
      refine ⟨trans _ _ _ far near, fun thread member event there => ?_⟩
      rcases List.mem_or_eq_of_mem_set member with old | rfl
      · exact kept near thread old event there
      · rcases List.mem_cons.mp there with rfl | past
        · exact .inr ⟨answers, far, near, refl _⟩
        · exact kept near acting mine event past

end Calls

/-! ## What a thread has been through -/

/-- The answers of a past lead a handler to what is left of it. -/
inductive Leads : List (Event sys) → Handler ι ε α → Handler ι ε α → Prop where
  | begun (handler : Handler ι ε α) : Leads [] handler handler
  | more {past : List (Event sys)} {handler : Handler ι ε α} {event : Event sys}
      {next : Except ε (ι.Answer event.query) → Handler ι ε α} :
      Leads past handler (.call event.query next) → Leads (event :: past) handler (next event.answer)

theorem Run.leads (run : Run sys allowed cfg) :
    ∀ thread ∈ cfg.threads, Leads thread.past (sys.handler thread.entry) thread.rest := by
  induction run with
  | start => simp
  | step _ _ moved ih =>
    intro thread member
    rcases thread_came moved member with old | ⟨entry, rfl⟩ | ⟨acting, event, rest, acts, -, rfl⟩
    · exact ih thread old
    · exact .begun _
    · obtain ⟨mine, query, next, answer, after, shape, rfl, rfl, -⟩ := acts_cases acts
      have led := ih acting mine
      rw [shape] at led
      exact led.more

theorem Leads.calls {only : ι.Call → Prop} {past : List (Event sys)} {handler rest : Handler ι ε α}
    (leads : Leads past handler rest) (calls : handler.Calls only) : rest.Calls only := by
  induction leads with
  | begun => exact calls
  | more _ ih => exact (ih calls).2 _

/-- What a past tells of a call. -/
def Heard (past : List (Event sys)) (query : ι.Call) (_ : Unit) (answer : Except ε (ι.Answer query))
    (_ : Unit) : Prop :=
  ∃ before after, (⟨before, query, answer, after⟩ : Event sys) ∈ past

/-- A thread that has ended has gone through its handler as its past tells. -/
theorem Leads.runs {past whole : List (Event sys)} {handler rest : Handler ι ε α} {result : Except ε α}
    (leads : Leads past handler rest) (part : past ⊆ whole)
    (runs : Handler.Runs (Heard whole) rest () result ()) : Handler.Runs (Heard whole) handler () result () := by
  induction leads with
  | begun => exact runs
  | more led ih =>
    refine ih (fun event there => part (List.mem_cons_of_mem _ there)) ?_
    exact .call ⟨_, _, part List.mem_cons_self⟩ runs

end Interleaving

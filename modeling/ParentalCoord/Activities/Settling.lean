import ParentalCoord.Activities.EffectiveTimers
import ParentalCoord.Activities.Sweep
import ParentalCoord.Interleaving.Endless

/-!
What becomes of the activities when no user does anything any more.

Timers may be lost, come late or twice, and race with the sweeps and with each other.  Each of
them takes a row on by one of at most three transitions, and a sweep that is begun late enough
finds every row that is still open due.  So all of these end up overdue, and no other row is
touched.
-/

namespace ParentalCoord.Activities

open Interleaving Store

variable {config : Config} {world first second third : World} {row row' : ActivityEntity} {id : Uuid}
  {rule : TransitionRule} {now late : Instant} {to_ : ActivityStatus}

/-- The requests that no user makes. -/
def Entry.OfSystem : Entry → Prop
  | .processTimer _ | .processSweep | .markOverdue _ => True
  | _ => False

/-- No request of a user comes in. -/
def Unattended (_ : Interleaving.Config (activities config)) : Move (activities config) → Prop
  | .arrive entry => entry.OfSystem
  | _ => True

/-- The transitions that the system has left for a status. -/
def ActivityStatus.stagesLeft : ActivityStatus → ℕ
  | .assisting => 3
  | .inProgress => 2
  | .created | .assigned | .verify => 1
  | .done | .overdue | .notAssisting | .cancelled => 0

def stagesLeft (row : ActivityEntity) : ℕ := if row.deletedAt = none then row.status.stagesLeft else 0

def World.stagesLeft (world : World) : ℕ := (world.activities.rows.map Activities.stagesLeft).sum

/-- The system has something left for the row. -/
def Open (row : ActivityEntity) : Prop := 0 < stagesLeft row

instance (row : ActivityEntity) : Decidable (Open row) := inferInstanceAs (Decidable (0 < stagesLeft row))

theorem Open.alive (opened : Open row) : row.deletedAt = none := by
  by_contra gone
  rw [Open, stagesLeft, if_neg gone] at opened
  exact absurd opened (lt_irrefl 0)

/-- The row at another stage, with all but what the system writes as it was. -/
def Staged (row row' : ActivityEntity) : Prop :=
  ∃ status version deadline verifyAt, row.version < version ∧
    row' = { row with status := status, version := version, deadline := deadline, verifyAt := verifyAt }

/-- What the system makes of a row: nothing, unless it is open. -/
def Ages (row row' : ActivityEntity) : Prop :=
  row' = row ∨ Open row ∧ Staged row row' ∧ (0 < row'.status.stagesLeft ∨ row'.status = .overdue)

theorem Staged.trans {between after : ActivityEntity} (earlier : Staged row between) (later : Staged between after) :
    Staged row after := by
  obtain ⟨_, _, _, _, newer, rfl⟩ := earlier
  obtain ⟨status, version, deadline, verifyAt, newest, rfl⟩ := later
  exact ⟨status, version, deadline, verifyAt, newer.trans newest, rfl⟩

theorem Ages.trans {between after : ActivityEntity} (earlier : Ages row between) (later : Ages between after) :
    Ages row after := by
  rcases earlier with rfl | ⟨opened, staged, kept⟩
  · exact later
  · rcases later with rfl | ⟨-, further, aged⟩
    · exact .inr ⟨opened, staged, kept⟩
    · exact .inr ⟨opened, staged.trans further, aged⟩

/-- What the system has made of all rows. -/
structure Advances (first second : World) : Prop where
  clock : first.clock ≤ second.clock
  rows : ∀ id row, first.activities.get id = some row →
    ∃ row', second.activities.get id = some row' ∧ Ages row row'
  fewer : second.stagesLeft ≤ first.stagesLeft
  still : second.stagesLeft = first.stagesLeft → second.activities = first.activities

theorem Advances.of_unwritten (clock : first.clock ≤ second.clock) (same : second.activities = first.activities) :
    Advances first second where
  clock := clock
  rows id row found := ⟨row, by rw [same, found], .inl rfl⟩
  fewer := by rw [World.stagesLeft, World.stagesLeft, same]
  still _ := same

theorem Advances.refl (world : World) : Advances world world := .of_unwritten le_rfl rfl

theorem Advances.trans (earlier : Advances first second) (later : Advances second third) : Advances first third where
  clock := earlier.clock.trans later.clock
  rows id row found := by
    obtain ⟨between, there, aged⟩ := earlier.rows id row found
    obtain ⟨after, here, further⟩ := later.rows id between there
    exact ⟨after, here, aged.trans further⟩
  fewer := later.fewer.trans earlier.fewer
  still same := by
    have fewer := earlier.fewer
    have fewest := later.fewer
    rw [later.still (by omega), earlier.still (by omega)]

/-! ## One transition -/

/-- What a request of the system asks the database to write, for a rule of the system. -/
def Systemic (config : Config) (input : ApplyTransitionInput) : Prop :=
  ∃ id to_ row rule now, input = transitionInput config (systemRequest id to_) row rule now none ∧
    resolveTransition row.status to_ = some rule ∧ .system ∈ rule.actors

def Call.Systemic (config : Config) : Call → Prop
  | .applyTransition input => Activities.Systemic config input
  | .insertActivity _ _ => False
  | _ => True

theorem systemic_of_reads {query : Call} (reads : query.reads) : query.Systemic config := by
  cases query <;> trivial

theorem fireAll_systemic (mutations : List QueueMutation) :
    (fireAll mutations).Calls (Call.Systemic config) := by
  induction mutations with
  | nil => exact Handler.calls_ret _
  | cons mutation rest ih =>
    refine Handler.Calls.bind ?_ fun _ => ih
    exact Handler.calls_perform.mpr trivial

theorem wireTimers_systemic (entity : ActivityEntity) (previousVersion : Option ℕ) :
    (wireTimers entity previousVersion).Calls (Call.Systemic config) :=
  (clockNow_reads.mono fun _ => systemic_of_reads).bind fun _ => fireAll_systemic _

theorem transition_systemic (id : Uuid) (to_ : ActivityStatus) :
    (transition config (systemRequest id to_)).Calls (Call.Systemic config) := by
  unfold transition
  refine Handler.Calls.bind (Handler.calls_perform.mpr trivial) fun found => ?_
  cases found with
  | none => exact Handler.calls_ret _
  | some seen =>
    refine Handler.Calls.bind (Handler.calls_ret _) fun _ => ?_
    refine (clockNow_reads.mono fun _ => systemic_of_reads).bind fun now => ?_
    cases ruled : ruleFor (systemRequest id to_) seen with
    | error refusal => exact Handler.calls_throw _
    | ok admitted =>
      cases admitted with
      | none => exact Handler.calls_ret _
      | some rule =>
        have admitted := admitted_iff.mp ruled
        refine Handler.Calls.bind (Handler.calls_ret none) fun _ => ?_
        refine Handler.Calls.bind (Handler.calls_perform.mpr ?_) fun committed => ?_
        · exact ⟨id, to_, seen, rule, now, rfl, admitted.resolved, admitted.system rfl⟩
        · cases committed with
          | none => exact Handler.calls_ret _
          | some updated => exact (wireTimers_systemic _ _).bind fun _ => Handler.calls_ret _

theorem applySystemTransition_systemic (id : Uuid) (to_ : ActivityStatus) :
    (applySystemTransition config id to_).Calls (Call.Systemic config) :=
  ((transition_systemic id to_).bind fun _ => Handler.calls_ret _).tryCatch fun _ => Handler.calls_ret _

theorem sweepAll_systemic (now : Instant) (rows : List ActivityEntity) :
    (sweepAll config now rows).Calls (Call.Systemic config) := by
  induction rows with
  | nil => exact Handler.calls_ret _
  | cons row rest ih =>
    unfold sweepAll
    cases dueTargetFor row now with
    | none => exact ih
    | some to_ => exact (applySystemTransition_systemic row.id to_).bind fun _ => ih

theorem handleTimer_systemic (data : ActivityTimerJobData) :
    (handleTimer config data).Calls (Call.Systemic config) := by
  unfold handleTimer
  refine Handler.Calls.bind (Handler.calls_perform.mpr trivial) fun found => ?_
  cases found with
  | none => exact Handler.calls_ret _
  | some row =>
    dsimp only
    split
    · exact Handler.calls_ret _
    · split
      · exact Handler.calls_ret _
      · split
        · exact Handler.calls_ret _
        · exact applySystemTransition_systemic _ _

/-- No request of the system writes but by a rule of the system. -/
theorem handler_systemic {entry : Entry} (system : entry.OfSystem) :
    (handler config entry).Calls (Call.Systemic config) := by
  cases entry with
  | processTimer jobId =>
    refine Handler.Calls.bind (Handler.Calls.bind (Handler.calls_perform.mpr trivial) fun taken => ?_)
      fun _ => Handler.calls_ret _
    cases taken with
    | none => exact Handler.calls_ret _
    | some data => exact (handleTimer_systemic data).tryCatch fun _ => Handler.calls_ret _
  | processSweep =>
    refine Handler.Calls.bind (Handler.Calls.tryCatch ?_ fun _ => Handler.calls_ret _) fun _ => Handler.calls_ret _
    refine (clockNow_reads.mono fun _ => systemic_of_reads).bind fun now => ?_
    exact Handler.Calls.bind (Handler.calls_perform.mpr trivial) fun due => sweepAll_systemic now due
  | markOverdue id =>
    refine Handler.Calls.bind ?_ fun _ => Handler.calls_ret _
    exact ((getById_reads id).mono fun _ => systemic_of_reads).bind fun _ => transition_systemic id .overdue
  | _ => exact system.elim

/-! ## A sweep while the table is at rest -/

/-- The calls of a past were served late, and found and left the table as it is. -/
def AtRest (table : Table ActivityEntity.id) (late : Instant) (past : List (Event (activities config))) : Prop :=
  ∀ event ∈ past, event = served event.query event.before ∧ late ≤ event.before.clock ∧
    event.before.activities = table ∧ event.after.activities = table

variable {table : Table ActivityEntity.id} {past : List (Event (activities config))}

/-- What a call was told, the table at rest has told it. -/
theorem AtRest.told {query : Call} {answer : Except Exception (interface.Answer query)} (rest : AtRest table late past)
    (told : Heard past query () answer ()) : ∃ world : World, late ≤ world.clock ∧ world.activities = table ∧
      answer = (serve query world).1 ∧ (serve query world).2.activities = table := by
  obtain ⟨before, after, there⟩ := told
  obtain ⟨answered, onTime, found, left⟩ := rest _ there
  simp only [served, Event.mk.injEq, heq_eq_eq, true_and] at answered
  obtain ⟨rfl, rfl⟩ := answered
  exact ⟨before, onTime, found, rfl, left⟩

section Endless

variable {cfg : Interleaving.Config (activities config)} {cfgs : ℕ → Interleaving.Config (activities config)}

/-- No request of a user is under way. -/
def Deserted (cfg : Interleaving.Config (activities config)) : Prop :=
  ∀ thread ∈ cfg.threads, thread.entry.OfSystem ∨ ∀ query next, thread.rest ≠ .call query next

theorem Deserted.calls (deserted : Deserted cfg) (run : Reachable (activities config) cfg) :
    cfg.Calls (Call.Systemic config) := by
  intro thread member
  rcases deserted thread member with system | ended
  · exact (run.leads thread member).calls (handler_systemic system)
  · cases rest : thread.rest with
    | ret reply => exact Handler.calls_ret _
    | throw error => exact Handler.calls_throw _
    | call query next => exact absurd rest (ended query next)

end Endless

/-! ## A house that everybody has left -/

instance (entry : Entry) : Decidable entry.OfSystem := by
  cases entry <;> unfold Entry.OfSystem <;> infer_instance

instance (cfg : Interleaving.Config (activities config)) (move : Move (activities config)) :
    Decidable (Unattended cfg move) := by
  cases move <;> unfold Unattended <;> infer_instance

/-- An activity is created, and its creator leaves. -/
def departed : Interleaving.Config (activities defaults) :=
  (play (fun _ _ => True) (creation ++ [.crash 0]) ⟨start, []⟩).get (by decide +kernel)

/-- After the response window a sweep comes by. -/
def expiring : List (Move (activities defaults)) :=
  [.nudge (.tick 129600000), .arrive .processSweep] ++ turns 0 8

def noticed : Interleaving.Config (activities defaults) :=
  (play Unattended expiring departed).get (by decide +kernel)

end ParentalCoord.Activities

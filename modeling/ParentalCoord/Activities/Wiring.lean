import ParentalCoord.Activities.Discipline
import ParentalCoord.Interleaving.Protocol

/-!
The wiring of the timers of a row, as a protocol of the requests.

A request that has written a row reads the clock, once, and fires the timer
mutations of that row before it does anything else.  A sweep writes one row after
the other, so that the wirings of a request follow each other; between two of
them, and where a request has written nothing, its wiring is open.
-/

namespace ParentalCoord.Activities

open Interleaving

/-- How far a request has come with the timers of the row it wrote last. -/
inductive Wiring where
  | idle
  | committed (entity : ActivityEntity) (previousVersion : Option ℕ)
  | firing (entity : ActivityEntity) (previousVersion : Option ℕ) (now : Instant)
      (rest : List QueueMutation)

namespace Wiring

/-- Nothing is left to fire. -/
def Open : Wiring → Prop
  | .idle => True
  | .committed _ _ => False
  | .firing _ _ _ rest => rest = []

def permits : Wiring → Call → Prop
  | .committed _ _, query => query = .now
  | .firing _ _ _ (mutation :: _), query => query = .fire mutation
  | _, query => ∀ mutation, query ≠ .fire mutation

/-- Only a write and what has to follow it lead anywhere. -/
def next (phase : Wiring) : (query : Call) → Except Exception (interface.Answer query) → Wiring
  | .now, .ok now =>
      match phase with
      | .committed entity previousVersion =>
          .firing entity previousVersion now (timerMutations entity previousVersion now)
      | _ => .idle
  | .fire _, .ok _ =>
      match phase with
      | .firing entity previousVersion now (_ :: rest) => .firing entity previousVersion now rest
      | _ => .idle
  | .applyTransition input, .ok (some updated) => .committed updated (some input.expectedVersion)
  | .insertActivity _ _, .ok activity => .committed activity none
  | _, _ => .idle

end Wiring

open Wiring

def wiring : Protocol interface Exception where
  Phase := Wiring
  permits := permits
  next := next

/-- From wherever its wiring is open, the request follows the protocol to where it is
open again. -/
def Wires {β : Type} (request : Request β) : Prop :=
  ∀ phase : Wiring, phase.Open → wiring.Follows (fun _ (after : Wiring) => after.Open) phase request

variable {config : Config} {β γ : Type} {phase : Wiring} {query : Call}

/-- Everything but a mutation is permitted where the wiring is open. -/
theorem permits_of_open (open_ : phase.Open) (unfired : ∀ mutation, query ≠ .fire mutation) :
    phase.permits query := by
  cases phase with
  | idle => exact unfired
  | committed entity previousVersion => cases open_
  | firing entity previousVersion now rest =>
    obtain rfl : rest = [] := open_
    exact unfired

/-- A read leaves an open wiring open. -/
theorem next_of_reads (open_ : phase.Open) (reads : query.reads)
    (answer : Except Exception (interface.Answer query)) : (phase.next query answer).Open := by
  have idle : phase.next query answer = .idle := by
    cases query with
    | now =>
      cases answer with
      | error error => rfl
      | ok now => cases phase <;> first | rfl | exact False.elim open_
    | fire | applyTransition | insertActivity => exact reads.elim
    | _ => cases answer <;> rfl
  rw [idle]
  trivial

theorem Wires.ret (value : β) : Wires (.ret value) := fun _ open_ => open_

theorem Wires.throw (error : Exception) : Wires (.throw error : Request β) := fun _ open_ => open_

theorem Wires.of_reads {request : Request β} (calls : request.Calls Call.reads) : Wires request := by
  induction request with
  | ret value => exact .ret value
  | throw error => exact .throw error
  | call query next ih =>
    intro phase open_
    have unfired : ∀ mutation, query ≠ .fire mutation := by
      rintro mutation rfl
      exact calls.1
    exact ⟨permits_of_open open_ unfired, fun answer =>
      ih answer (calls.2 answer) _ (next_of_reads open_ calls.1 answer)⟩

theorem Wires.bind {first : Request γ} {rest : γ → Request β} (wires : Wires first)
    (more : ∀ value, Wires (rest value)) : Wires (first.bind rest) := by
  intro phase open_
  refine .bind ((wires phase open_).mono fun result after ends => ?_)
  cases result with
  | ok value => exact more value after ends
  | error error => exact ends

theorem Wires.tryCatch {first : Request β} {recover : Exception → Request β} (wires : Wires first)
    (more : ∀ error, Wires (recover error)) : Wires (first.tryCatch recover) := by
  intro phase open_
  refine .tryCatch ((wires phase open_).mono fun result after ends => ?_)
  cases result with
  | ok value => exact ends
  | error error => exact more error after ends

/-! ## The wiring -/

theorem fireAll_follows (entity : ActivityEntity) (previousVersion : Option ℕ) (now : Instant)
    (mutations : List QueueMutation) :
    wiring.Follows (fun _ (after : Wiring) => after.Open)
      (Wiring.firing entity previousVersion now mutations) (fireAll mutations) := by
  induction mutations with
  | nil => rfl
  | cons mutation rest ih =>
    exact .perform_bind rfl (fun _ => ih) fun _ => trivial

theorem wireTimers_follows (entity : ActivityEntity) (previousVersion : Option ℕ) :
    wiring.Follows (fun _ (after : Wiring) => after.Open)
      (Wiring.committed entity previousVersion) (wireTimers entity previousVersion) :=
  .perform_bind rfl (fun now => fireAll_follows entity previousVersion now _) fun _ => trivial

theorem answered_follows {entity : ActivityEntity} {previousVersion : Option ℕ} (value : β) :
    wiring.Follows (fun _ (after : Wiring) => after.Open) (Wiring.committed entity previousVersion)
      ((wireTimers entity previousVersion).bind fun _ => .ret value) := by
  refine .bind ((wireTimers_follows entity previousVersion).mono fun result after ends => ?_)
  cases result <;> exact ends

theorem commit_wires (input : ApplyTransitionInput) {missed : Request (Option ActivityEntity)}
    (misses : Wires missed) :
    Wires ((commitTransition input).bind fun
      | none => missed
      | some updated =>
        (wireTimers updated (some input.expectedVersion)).bind fun _ => .ret (some updated)) := by
  intro phase open_
  refine .perform_bind (permits_of_open open_ nofun) (fun answer => ?_) fun error => trivial
  cases answer with
  | none => exact misses .idle trivial
  | some updated => exact answered_follows (some updated)

theorem transition_wires (req : TransitionRequest) : Wires (transition config req) := by
  refine .bind (.of_reads (Handler.calls_perform.mpr trivial)) fun found => ?_
  cases found with
  | none =>
    by_cases system : req.actor = .system
    · rw [if_pos system]
      exact .ret none
    · rw [if_neg system]
      exact .throw _
  | some activity =>
    refine .bind (.of_reads (assertActor_reads _ _)) fun _ => .bind (.of_reads clockNow_reads) fun now => ?_
    cases ruleFor req activity with
    | error refusal => exact .throw refusal
    | ok decision =>
      cases decision with
      | none => exact .ret _
      | some rule =>
        refine .bind (.of_reads (resolveActorRole_reads _ _)) fun actorRole => ?_
        refine commit_wires (transitionInput config req activity rule now actorRole) ?_
        by_cases system : req.actor = .system
        · rw [if_pos system]
          exact .ret none
        · rw [if_neg system]
          exact .throw _

/-! ## Every request -/

theorem userTransition_wires (activity : ActivityEntity) (req : TransitionRequest) :
    Wires (userTransition config activity req) := by
  refine .bind (transition_wires req) fun answer => ?_
  cases answer with
  | none => exact .throw _
  | some updated => exact .ret updated

theorem applySystemTransition_wires (id : Uuid) (to_ : ActivityStatus) :
    Wires (applySystemTransition config id to_) :=
  .tryCatch (.bind (transition_wires _) fun _ => .ret ()) fun _ => .ret ()

/-- What is answered does not matter. -/
theorem Wires.answering {request : Request γ} (wires : Wires request) (answer : γ → β) :
    Wires (request.bind fun value => .ret (answer value)) :=
  wires.bind fun value => .ret (answer value)

theorem complete_wires (id userId : Uuid) : Wires (complete config id userId) :=
  .bind (.of_reads (getById_reads id)) fun activity =>
    .bind (.of_reads (assertActivityMember_reads activity userId)) fun _ =>
      (userTransition_wires activity _).answering _

theorem confirmAssignment_wires (id userId : Uuid) : Wires (confirmAssignment config id userId) := by
  refine .bind (.of_reads (getById_reads id)) fun activity =>
    .bind (.of_reads (assertActivityMember_reads activity userId)) fun _ => ?_
  split
  · exact .throw _
  · split
    · exact .ret _
    · exact (userTransition_wires activity _).answering _

theorem delete_wires (id userId : Uuid) : Wires (delete config id userId) := by
  refine .bind (.of_reads (loadForMember_reads id userId)) fun activity =>
    .bind (.of_reads clockNow_reads) fun now => ?_
  split
  · exact .throw _
  · exact (userTransition_wires activity _).answering _

theorem cancel_wires (id userId : Uuid) (rawReason : Option Json) :
    Wires (cancel config id userId rawReason) := by
  refine .bind (.of_reads (loadForMember_reads id userId)) fun activity =>
    .bind (.of_reads clockNow_reads) fun now => ?_
  split
  · exact .throw _
  · cases parseActivityReason rawReason with
    | error invalid => exact .throw invalid
    | ok reason => exact (userTransition_wires activity _).answering _

theorem declineAssignment_wires (id userId : Uuid) (rawReason : Option Json) :
    Wires (declineAssignment config id userId rawReason) := by
  refine .bind (.of_reads (loadForMember_reads id userId)) fun activity =>
    .bind (.of_reads clockNow_reads) fun now => ?_
  split
  · exact .throw _
  · cases parseActivityReason rawReason with
    | error invalid => exact .throw invalid
    | ok reason => exact (userTransition_wires activity _).answering _

theorem reassignInternal_wires (id userId : Uuid) (assignedTo : Option (Option Uuid)) :
    Wires (reassignInternal config id userId assignedTo) :=
  .bind (.of_reads (loadForMember_reads id userId)) fun activity =>
    .bind (.of_reads (assertTarget_reads activity assignedTo _)) fun _ =>
      (userTransition_wires activity _).answering _

theorem markOverdue_wires (id : Uuid) : Wires (markOverdue config id) :=
  .bind (.of_reads (getById_reads id)) fun _ => transition_wires _

theorem insert_wires (input : InsertWithInitialTransitionInput) (childrenIds : List Uuid) :
    Wires ((commitInsert input childrenIds).bind fun activity =>
      (wireTimers activity none).bind fun _ => .ret activity) :=
  fun _ open_ => .perform_bind (permits_of_open open_ nofun)
    (fun activity => answered_follows activity) fun _ => trivial

theorem create_wires (bondId : Uuid) (dto : CreateActivityDto) (userId : Uuid) :
    Wires (create config bondId dto userId) := by
  refine .bind (.of_reads (validateSchedules_reads _ _)) fun _ =>
    .bind (.of_reads (assertMinimumLeadTime_reads config _)) fun _ =>
    .bind (.of_reads (assertBondMember_reads bondId userId)) fun _ =>
    .bind (.of_reads (allMembers_reads bondId _)) fun memberships => ?_
  split
  · exact .throw _
  · exact .bind (.of_reads (verifyCategoryActive_reads _)) fun criticality =>
      .bind (.of_reads (verifyChildrenBelongToBond_reads bondId _)) fun _ =>
      .bind (.of_reads clockNow_reads) fun now => insert_wires _ _

theorem processTimer_wires (jobId : String) : Wires (processTimer config jobId) := by
  refine .bind (.of_reads (Handler.calls_perform.mpr trivial)) fun taken => ?_
  cases taken with
  | none => exact .ret ()
  | some data =>
    refine .tryCatch (.bind (.of_reads (Handler.calls_perform.mpr trivial)) fun found => ?_)
      fun _ => .ret ()
    cases found with
    | none => exact .ret ()
    | some activity =>
      simp only []
      split
      · exact .ret ()
      · split
        · exact .ret ()
        · cases targetStatusFor data.kind with
          | none => exact .ret ()
          | some to_ => exact applySystemTransition_wires _ to_

theorem sweepAll_wires (now : Instant) (rows : List ActivityEntity) :
    Wires (sweepAll config now rows) := by
  induction rows with
  | nil => exact .ret ()
  | cons activity rest ih =>
    unfold sweepAll
    cases dueTargetFor activity now with
    | none => exact ih
    | some to_ => exact .bind (applySystemTransition_wires _ to_) fun _ => ih

theorem processSweep_wires : Wires (processSweep config) :=
  .tryCatch (.bind (.of_reads clockNow_reads) fun now =>
    .bind (.of_reads (Handler.calls_perform.mpr trivial)) fun rows => sweepAll_wires now rows)
    fun _ => .ret ()

/-- Every request follows the protocol. -/
theorem handler_wires (config : Config) (entry : Entry) : Wires (handler config entry) := by
  cases entry with
  | create bondId dto userId => exact (create_wires bondId dto userId).answering _
  | assign id userId assignedTo => exact (reassignInternal_wires id userId assignedTo).answering _
  | reassign id userId assignedTo => exact (reassignInternal_wires id userId assignedTo).answering _
  | confirmAssignment id userId => exact (confirmAssignment_wires id userId).answering _
  | declineAssignment id userId rawReason =>
    exact (declineAssignment_wires id userId rawReason).answering _
  | complete id userId => exact (complete_wires id userId).answering _
  | cancel id userId rawReason => exact (cancel_wires id userId rawReason).answering _
  | delete id userId => exact (delete_wires id userId).answering _
  | markOverdue id => exact (markOverdue_wires id).answering _
  | processTimer jobId => exact (processTimer_wires jobId).answering _
  | processSweep => exact processSweep_wires.answering _

/-- The wiring that a thread has come to. -/
def wiringOf (past : List (Event (activities config))) : Wiring := wiring.reached Wiring.idle past

/-- A thread at a call makes one that its wiring permits. -/
theorem wiring_permits {allowed : Interleaving.Config (activities config) → Move (activities config) → Prop}
    {cfg : Interleaving.Config (activities config)} {move : Move (activities config)}
    (run : Run (activities config) allowed cfg) {thread : Thread (activities config)}
    {event : Event (activities config)} {rest : Request Reply}
    (acts : cfg.acts move = some (thread, event, rest)) :
    (wiringOf thread.past).permits event.query :=
  ((run.follows (fun entry => handler_wires config entry .idle trivial) thread
    (acts_cases acts).1).act acts).1

end ParentalCoord.Activities

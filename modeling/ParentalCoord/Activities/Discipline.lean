import ParentalCoord.Activities.Consistency
import ParentalCoord.Interleaving.Discipline

/-!
The discipline that every request, timer and sweep of the activities keeps.

A request writes at most once, by a commit that is decided on the very row it
replaces; until then it is quiet, and if it ends without having written then it
is quiet throughout.  The commit of a system request is punctual in the runs
where the row it re-reads is the one it had sighted (`NotOvertaken`).
-/

namespace ParentalCoord.Activities

open Interleaving Store

section Events

variable {config : Config}

/-- A write that was made: a transition that did not miss, or an insertion. -/
def Effective : Event (activities config) → Prop
  | ⟨_, .applyTransition _, .ok (some _), _⟩ => True
  | ⟨_, .insertActivity _ _, .ok _, _⟩ => True
  | _ => False

def Quiet (past : List (Event (activities config))) : Prop := ∀ event ∈ past, ¬Effective event

/-- The id that an event reads the row of, and the row. -/
def readOf : Event (activities config) → Option (Uuid × ActivityEntity)
  | ⟨_, .findById id, .ok (some row), _⟩ => some (id, row)
  | _ => none

/-- The event reads a live row of an id. -/
def Reads (event : Event (activities config)) (id : Uuid) (row : ActivityEntity) : Prop :=
  readOf event = some (id, row)

/-- The due rows that an event lists. -/
def listed : Event (activities config) → List ActivityEntity
  | ⟨_, .findDueForTransition _ _, .ok rows, _⟩ => rows
  | _ => []

/-- The rows of an id on which a timer or a sweep has decided to ask for a
transition. -/
def sightings (entry : Entry) (past : List (Event (activities config))) (id : Uuid) :
    List ActivityEntity :=
  match entry with
  | .processTimer _ =>
      past.filterMap fun event => ((readOf event).filter (·.1 = id)).map (·.2)
  | .processSweep => (past.flatMap listed).filter (·.id = id)
  | _ => []

/-- The system may move a row from one status to the other. -/
def systemRule (from_ to_ : ActivityStatus) : Bool :=
  (resolveTransition from_ to_).any (.system ∈ ·.actors)

/-- A timer or a sweep that reads a row again finds it at the version it had
sighted, or in a status from which the system cannot move it where the sighted
row was to go. -/
def Resighted (entry : Entry) (past : List (Event (activities config)))
    (event : Event (activities config)) : Prop :=
  match readOf event with
  | none => True
  | some (id, row) => ∀ sighted ∈ sightings entry past id, ∀ to_ ∈ ActivityStatus.all,
      systemRule sighted.status to_ → systemRule row.status to_ → row.version = sighted.version

instance (entry : Entry) (past : List (Event (activities config)))
    (event : Event (activities config)) : Decidable (Resighted entry past event) := by
  unfold Resighted
  rcases readOf event with _ | ⟨id, row⟩ <;> infer_instance

/-- A row is marked overdue by timers and sweeps alone, and these are not
overtaken between their two reads. -/
def NotOvertaken (entry : Entry) (past : List (Event (activities config)))
    (event : Event (activities config)) : Prop :=
  (∀ id, entry ≠ .markOverdue id) ∧ Resighted entry past event

def recordsSystem (payload : Record) : Bool :=
  match payload.lookup "actor" with
  | some (.obj [("type", .str type)]) => type = "system"
  | _ => false

/-- The row over which the event commits a transition with a system actor. -/
def systemCommit : Event (activities config) → Option ActivityEntity
  | ⟨before, .applyTransition input, .ok (some _), _⟩ =>
      if recordsSystem input.outbox.payload then before.activities.get input.id else none
  | _ => none

/-- A transition of the system is committed when the anchor of the row has come. -/
def Punctual (event : Event (activities config)) : Prop :=
  ∀ row, systemCommit event = some row →
    ∃ instant, anchor row = some instant ∧ instant ≤ event.before.clock

/-- A request that failed, answered `null`, or answered with a row that it had
itself read. -/
def Fruitless (result : Except Exception Reply) (past : List (Event (activities config))) : Prop :=
  match result with
  | .error _ => True
  | .ok (.activity none) => True
  | .ok (.activity (some row)) => ∃ event ∈ past, ∃ id, Reads event id row
  | .ok _ => False

end Events

def discipline (config : Config) (undisturbed : Prop) : Discipline (activities config) where
  inv := Consistent config
  rely := Later
  assumes entry past event := undisturbed → NotOvertaken entry past event
  guar _ _ event := Later event.before event.after ∧ (undisturbed → Punctual event)
  post _ result past := Fruitless result past → Quiet past

variable {config : Config} {undisturbed : Prop} {entry : Entry} {β γ : Type}
  {past later : List (Event (activities config))} {before after world : World} {query : Call}
  {answer : Except Exception (interface.Answer query)} {event : Event (activities config)}
  {post : Discipline.Post (activities config) β} {id : Uuid} {row : ActivityEntity}
  {req : TransitionRequest}

/-! ## Calls that only read -/

def Call.reads : Call → Prop
  | .fire _ | .applyTransition _ | .insertActivity _ _ => False
  | _ => True

theorem after_of_reads (reads : query.reads)
    (answers : Answers (activities config) query before answer after) : after = before := by
  rcases answers.elim with ⟨-, rfl⟩ | ⟨_, -, -, rfl⟩
  · cases query <;> first | rfl | cases reads
  · rfl

theorem not_effective_of_reads (reads : event.query.reads) : ¬Effective event := by
  obtain ⟨before, query, answer, after⟩ := event
  cases query <;> first | exact id | cases reads

/-- Only effective events write rows and events. -/
theorem unwritten_of_not_effective (genuine : event.Genuine) (idle : ¬Effective event) :
    Unwritten event.before event.after := by
  rcases genuine.elim with ⟨query, world, rfl⟩ | ⟨query, error, world, -, rfl⟩
  · cases query with
    | applyTransition input =>
      rcases applyTransition_cases input world with missed | ⟨row, _, _, _, _, written⟩
      · simp only [served, serve, missed]
        exact ⟨rfl, rfl⟩
      · simp [Effective, served, serve, written] at idle
    | insertActivity input childrenIds =>
      simp only [served, serve, insertActivity] at idle ⊢
      split
      · exact ⟨rfl, rfl⟩
      · rename_i table accepted
        simp [Effective, accepted] at idle
    | _ => exact ⟨rfl, rfl⟩
  · exact ⟨rfl, rfl⟩

theorem quiet_nil : Quiet ([] : List (Event (activities config))) := fun _ member => by cases member

theorem Quiet.cons (quiet : Quiet past) (idle : ¬Effective event) : Quiet (event :: past) := by
  intro seen member
  rcases List.mem_cons.mp member with rfl | earlier
  · exact idle
  · exact quiet seen earlier

theorem not_punctual_needed (idle : ¬Effective event) : Punctual event := by
  intro row commit
  obtain ⟨before, query, answer, after⟩ := event
  unfold systemCommit at commit
  split at commit
  · rename_i shape
    cases shape
    exact absurd trivial idle
  · cases commit

/-- A read meets the guarantee and leaves the world as it is. -/
theorem idle_of_reads (undisturbed : Prop) (reads : query.reads) (held : Consistent config before)
    (answers : Answers (activities config) query before answer after) :
    (Later before after ∧ (undisturbed → Punctual (⟨before, query, answer, after⟩ :
      Event (activities config)))) ∧ Consistent config after := by
  have idle : ¬Effective (⟨before, query, answer, after⟩ : Event (activities config)) :=
    not_effective_of_reads reads
  rw [after_of_reads reads answers]
  rw [after_of_reads reads answers] at idle
  exact ⟨⟨.refl _, fun _ => not_punctual_needed idle⟩, held⟩

/-- A read, and what is owed after it on what it has read. -/
theorem keeps_read {rest : interface.Answer query → Request β} (reads : query.reads)
    (more : ∀ before value, Consistent config before →
      Event.Genuine (⟨before, query, .ok value, before⟩ : Event (activities config)) →
      (discipline config undisturbed).Behind past before →
      (undisturbed → NotOvertaken entry past ⟨before, query, .ok value, before⟩) →
      (discipline config undisturbed).Keeps entry post (rest value)
        (⟨before, query, .ok value, before⟩ :: past))
    (fails : ∀ before error, post (.error error) (⟨before, query, .error error, before⟩ :: past)) :
    (discipline config undisturbed).Keeps entry post ((perform query).bind rest) past := by
  refine Discipline.Keeps.perform_bind fun before answer after behind held answers assumed => ?_
  obtain ⟨met, holds⟩ := idle_of_reads undisturbed reads held answers
  refine ⟨met, holds, ?_⟩
  obtain rfl := after_of_reads reads answers
  cases answer with
  | error error => exact fails _ error
  | ok value => exact more _ value held answers behind assumed

/-- A handler that only reads adds only reads to its past. -/
theorem keeps_of_reads {handler : Request β} (calls : handler.Calls Call.reads)
    (ends : ∀ result later, past <:+ later → (∀ event ∈ later, event ∈ past ∨ event.query.reads) →
      post result later) :
    (discipline config undisturbed).Keeps entry post handler past := by
  refine .of_calls calls (fun _ reads _ _ _ _ held answers _ =>
      idle_of_reads undisturbed reads held answers)
    fun result added only => ends result _ (List.suffix_append _ _) fun event member => ?_
  rcases List.mem_append.mp member with new | earlier
  · exact .inr (only event new)
  · exact .inl earlier

theorem quiet_of_reads (only : ∀ event ∈ later, event ∈ past ∨ event.query.reads)
    (quiet : Quiet past) : Quiet later := by
  intro event member
  rcases only event member with earlier | reads
  · exact quiet event earlier
  · exact not_effective_of_reads reads

/-! ## Timers that are fired -/

/-- The mutations a row asks for are due as long as the row has been seen. -/
theorem timerMutations_due {entity : ActivityEntity} {previousVersion : Option ℕ} {now : Instant}
    {mutation : QueueMutation} (seen : event.after.activities.get entity.id = some entity)
    (onward : Later event.after world) (clock : now ≤ world.clock)
    (member : mutation ∈ timerMutations entity previousVersion now) : FiresDue world mutation := by
  obtain ⟨op, -, made⟩ := List.mem_filterMap.mp member
  cases action : op.action with
  | cancel =>
    simp only [action] at made
    obtain ⟨version, -, rfl⟩ := Option.map_eq_some_iff.mp made
    trivial
  | enqueue =>
    simp only [action] at made
    cases aim : timerTarget op.kind entity with
    | none => simp [aim] at made
    | some target =>
      simp only [aim] at made
      split at made
      · cases made
      · cases made
        have fresh : Due event.after ⟨entity.id, entity.version, op.kind⟩ target :=
          ⟨entity, seen, le_rfl, fun _ => ⟨target, aim, le_rfl⟩⟩
        exact fresh.later onward (le_add_computeDelayMs clock)

/-- Firing mutations that stay due keeps the discipline. -/
theorem fireAll_keeps {mutations : List QueueMutation} {post : Discipline.Post (activities config) Unit}
    (due : ∀ mutation ∈ mutations, ∀ world, (discipline config undisturbed).Behind past world →
      FiresDue world mutation)
    (ends : ∀ later, past <:+ later → (∀ event ∈ later, event ∈ past ∨ ∀ id row, ¬Reads event id row) →
      post (.ok ()) later) :
    (discipline config undisturbed).Keeps entry post (fireAll mutations) past := by
  induction mutations generalizing past with
  | nil => exact ends past List.suffix_rfl fun _ member => .inl member
  | cons mutation rest ih =>
    refine Discipline.Keeps.perform_bind fun before answer after behind held answers assumed => ?_
    rcases answers.elim with ⟨rfl, rfl⟩ | ⟨error, impossible, -, -⟩
    · refine ⟨⟨.of_unwritten le_rfl ⟨rfl, rfl⟩, fun _ => not_punctual_needed id⟩,
        held.fire (due mutation (by simp) before behind), ih (fun other member world later => ?_) ?_⟩
      · exact due other (List.mem_cons_of_mem _ member) world later.tail
      · intro later more only
        refine ends later ((List.suffix_cons _ _).trans more) fun event member => ?_
        rcases only event member with earlier | unread
        · rcases List.mem_cons.mp earlier with rfl | earlier
          · exact .inr fun _ _ reads => by cases reads
          · exact .inl earlier
        · exact .inr unread
    · cases impossible

/-- After a commit the timers of the row that was written are fired. -/
theorem wireTimers_keeps {entity : ActivityEntity} {previousVersion : Option ℕ}
    {post : Discipline.Post (activities config) Unit} (there : event ∈ past)
    (seen : event.after.activities.get entity.id = some entity)
    (ends : ∀ later, past <:+ later → (∀ event ∈ later, event ∈ past ∨ ∀ id row, ¬Reads event id row) →
      post (.ok ()) later) :
    (discipline config undisturbed).Keeps entry post (wireTimers entity previousVersion) past := by
  refine Discipline.Keeps.perform_bind fun before answer after behind held answers assumed => ?_
  rcases answers.elim with ⟨rfl, rfl⟩ | ⟨error, impossible, -, -⟩
  · refine ⟨⟨.refl _, fun _ => not_punctual_needed id⟩, held, fireAll_keeps ?_ ?_⟩
    · intro mutation member world behind
      refine timerMutations_due seen (behind event (List.mem_cons_of_mem _ there)).2 ?_ member
      exact behind.head.2.clock
    · intro later more only
      refine ends later ((List.suffix_cons _ _).trans more) fun event member => ?_
      rcases only event member with earlier | unread
      · rcases List.mem_cons.mp earlier with rfl | earlier
        · exact .inr fun _ _ reads => by cases reads
        · exact .inl earlier
      · exact .inr unread
  · cases impossible

/-! ## The transition -/

/-- A timer or a sweep that asks for a transition has sighted the row, due, in a
status from which the system may move it there. -/
def Ready (entry : Entry) (past : List (Event (activities config))) (req : TransitionRequest) :
    Prop :=
  ∃ sighted ∈ sightings entry past req.activityId, systemRule sighted.status req.to_ ∧
    ∃ instant, anchor sighted = some instant ∧ ∃ event ∈ past, instant ≤ event.after.clock

/-- What a transition shows for itself when it ends.  The row it answers with
without having written was read; the row it has written was not. -/
def Transitioned (req : TransitionRequest) (past : List (Event (activities config)))
    (result : Except Exception (Option ActivityEntity))
    (later : List (Event (activities config))) : Prop :=
  match result with
  | .error _ => Quiet past → Quiet later
  | .ok none => req.actor = .system ∧ (Quiet past → Quiet later)
  | .ok (some row) => (req.actor = .system ∧ (Quiet past → Quiet later)) ∨
      ∀ event ∈ later, ∀ id, ¬Reads event id row

theorem reads_seen (genuine : event.Genuine) (reads : Reads event id row) :
    event.after.activities.get id = some row ∧ row.deletedAt = none := by
  rcases genuine.elim with ⟨query, world, rfl⟩ | ⟨query, error, world, -, rfl⟩
  · cases query <;> try cases reads
    rename_i sought
    cases answered : (world.activities.get sought).filter (·.deletedAt = none) with
    | none => simp [served, serve, Reads, readOf, answered] at reads
    | some found =>
      simp only [served, serve, Reads, readOf, answered, Option.some.injEq, Prod.mk.injEq] at reads
      obtain ⟨rfl, rfl⟩ := reads
      have read : world.activities.get sought = some found ∧ found.deletedAt = none := by
        simpa [Option.filter_eq_some_iff] using answered
      exact read
  · cases query <;> cases reads

/-- A commit that records the system as its actor is one of the system. -/
theorem system_of_commit (config : Config) (row : ActivityEntity) (rule : TransitionRule)
    (made : Made req) (now : Instant) (actorRole : Option String)
    (records : recordsSystem (transitionInput config req row rule now actorRole).outbox.payload) :
    req.actor = .system := by
  obtain ⟨-, -, recorded, -⟩ := transitionInput_payload config row rule made now actorRole
  cases actor : req.actor with
  | system => rfl
  | user userId => simp [recordsSystem, recorded, actor, actorJson] at records

/-- The compare-and-swap of a transition that was decided on a row that was read:
it misses, or it writes over that very row. -/
theorem commit_keeps {base : List (Event (activities config))} {rule : TransitionRule}
    (now : Instant) (actorRole : Option String) (made : Made req)
    (admitted : ruleFor req row = .ok (some rule)) (calm : Quiet base → Quiet past)
    (there : event ∈ past) (seen : event.after.activities.get row.id = some row)
    (timely : undisturbed → req.actor = .system →
      ∃ instant, anchor row = some instant ∧ ∃ event ∈ past, instant ≤ event.after.clock) :
    (discipline config undisturbed).Keeps entry (Transitioned req base)
      ((commitTransition (transitionInput config req row rule now actorRole)).bind fun
        | none =>
          if req.actor = .system then .ret none
          else .throw (activityInvalidTransition row.status.value req.to_.value)
        | some updated => (wireTimers updated (some row.version)).bind fun _ => .ret (some updated))
      past := by
  refine Discipline.Keeps.perform_bind fun before answer after behind held answers assumed => ?_
  rcases answers.elim with ⟨rfl, rfl⟩ | ⟨error, -, rfl, rfl⟩
  · rcases applyTransition_cases (transitionInput config req row rule now actorRole) before with
      missed | ⟨current, found, live, status, version, written⟩
    · simp only [serve, missed]
      refine ⟨⟨.refl _, fun _ => not_punctual_needed id⟩, held, ?_⟩
      by_cases system : req.actor = .system
      · rw [if_pos system]
        exact ⟨system, fun quiet => (calm quiet).cons id⟩
      · rw [if_neg system]
        exact fun quiet => (calm quiet).cons id
    · -- Between the read and the lock the row can only have moved to a later version.
      obtain rfl : current = row := (behind event there).2.same seen found version
      have moves := @Moves.transition config _ _ _ now actorRole made live admitted
      simp only [serve, written]
      refine ⟨⟨.move found moves, fun assumed target commit => ?_⟩,
        held.later (.move found moves) (held.journaled.move found moves) (List.Subset.refl _)
          (List.Subset.refl _), .bind (wireTimers_keeps List.mem_cons_self
            (Table.get_put_self (by rw [moves.id_eq]; exact found)) fun later more only => ?_)⟩
      · simp only [systemCommit, Option.ite_none_right_eq_some] at commit
        obtain ⟨records, replaced⟩ := commit
        cases replaced.symm.trans found
        obtain ⟨instant, at_, earlier, member, come⟩ :=
          timely assumed (system_of_commit config current rule made now actorRole records)
        exact ⟨instant, at_, come.trans (behind earlier member).2.clock⟩
      · refine .inr fun event member id reads => ?_
        rcases only event member with earlier | unread
        · rcases List.mem_cons.mp earlier with rfl | earlier
          · cases reads
          · -- A row that was read before the commit is not newer than the one replaced.
            obtain ⟨genuine, onward⟩ := behind event earlier
            have read := (reads_seen genuine reads).1
            obtain rfl := Table.key_of_get read
            obtain ⟨newest, latest, order⟩ := onward.rows _ _ read
            rw [moves.id_eq] at latest
            cases latest.symm.trans found
            have newer := moves.version_eq
            rcases order with same | less
            · rw [← same] at newer
              omega
            · omega
        · exact unread id _ reads
  · exact ⟨⟨.refl _, fun _ => not_punctual_needed id⟩, held, fun quiet => (calm quiet).cons id⟩

theorem listed_seen (genuine : event.Genuine) (lists : row ∈ listed event) :
    event.after.activities.get row.id = some row := by
  rcases genuine.elim with ⟨query, world, rfl⟩ | ⟨query, error, world, -, rfl⟩
  · cases query <;> try cases lists
    rename_i now limit
    have member : row ∈ world.due now := List.mem_of_mem_take lists
    exact Table.get_of_mem (mem_due.mp member).1
  · cases query <;> cases lists

theorem sightings_seen (behind : (discipline config undisturbed).Behind past world)
    (sighting : row ∈ sightings entry past id) :
    ∃ event ∈ past, event.after.activities.get id = some row := by
  cases entry with
  | processTimer jobId =>
    obtain ⟨event, member, read⟩ := List.mem_filterMap.mp sighting
    obtain ⟨⟨sought, found⟩, kept, rfl⟩ := Option.map_eq_some_iff.mp read
    obtain ⟨reads, same⟩ := Option.filter_eq_some_iff.mp kept
    obtain rfl : sought = id := by simpa using same
    exact ⟨event, member, (reads_seen (behind event member).1 reads).1⟩
  | processSweep =>
    obtain ⟨gathered, same⟩ := List.mem_filter.mp sighting
    obtain ⟨event, member, lists⟩ := List.mem_flatMap.mp gathered
    obtain rfl : row.id = id := by simpa using same
    exact ⟨event, member, listed_seen (behind event member).1 lists⟩
  | _ => cases sighting

theorem assertActivityMember_reads (activity : ActivityEntity) (userId : Uuid) :
    (assertActivityMember activity userId).Calls Call.reads := by
  refine .bind (Handler.calls_perform.mpr trivial) fun isMember => ?_
  split <;> trivial

theorem assertActor_reads (activity : ActivityEntity) (actor : TransitionRequest.Actor) :
    (assertActor activity actor).Calls Call.reads := by
  cases actor with
  | system => trivial
  | user userId =>
    simp only [assertActor]
    split
    · exact assertActivityMember_reads activity userId
    · trivial

theorem resolveActorRole_reads (bondId : Uuid) (actor : TransitionRequest.Actor) :
    (resolveActorRole bondId actor).Calls Call.reads := by
  cases actor with
  | system => trivial
  | user userId =>
    simp only [resolveActorRole]
    split
    · exact Handler.calls_perform.mpr trivial
    · trivial

/-- The transition keeps the discipline, whoever asks for it. -/
theorem transition_keeps (made : Made req)
    (ready : undisturbed → req.actor = .system → Ready entry past req) :
    (discipline config undisturbed).Keeps entry (Transitioned req past) (transition config req) past := by
  unfold transition
  simp only [Handler.bind_eq, Handler.pure_eq, Handler.throw_eq]
  refine keeps_read trivial (fun before found _ genuine behind assumed => ?_)
    fun _ _ quiet => quiet.cons id
  cases found with
  | none =>
    by_cases system : req.actor = .system
    · rw [if_pos system]
      exact ⟨system, fun quiet => quiet.cons id⟩
    · rw [if_neg system]
      exact fun quiet => quiet.cons id
  | some row =>
    obtain ⟨seen, -⟩ := reads_seen genuine rfl
    obtain own := Table.key_of_get seen
    rw [← own] at seen
    refine .bind (keeps_of_reads (assertActor_reads _ _) fun result checked more only => ?_)
    cases result with
    | error error => exact fun quiet => quiet_of_reads only (quiet.cons id)
    | ok _ =>
      refine keeps_read trivial (fun clock now _ _ _ _ => ?_)
        fun _ _ quiet => (quiet_of_reads only (quiet.cons id)).cons id
      cases decided : ruleFor req row with
      | error refusal => exact fun quiet => (quiet_of_reads only (quiet.cons id)).cons id
      | ok decision =>
        cases decision with
        | none =>
          exact .inl ⟨ruleFor_noop decided, fun quiet => (quiet_of_reads only (quiet.cons id)).cons id⟩
        | some rule =>
          refine .bind (keeps_of_reads (resolveActorRole_reads _ _) fun result known further also => ?_)
          have calm : Quiet past → Quiet known := fun quiet =>
            quiet_of_reads also ((quiet_of_reads only (quiet.cons id)).cons id)
          cases result with
          | error error => exact calm
          | ok actorRole =>
            have earlier : past <:+ known :=
              ((List.suffix_cons _ _).trans more).trans ((List.suffix_cons _ _).trans further)
            have there : (⟨before, .findById req.activityId, .ok (some row), before⟩ :
                Event (activities config)) ∈ known :=
              further.subset (List.mem_cons_of_mem _ (more.subset List.mem_cons_self))
            refine commit_keeps now actorRole made decided calm there seen fun assumed' system => ?_
            obtain ⟨sighted, sighting, rule', instant, at_, past', member, come⟩ :=
              ready assumed' system
            obtain ⟨admitted, may, -, -⟩ := admitted_iff.mp decided
            -- The run is undisturbed, so the row that is re-read is the one that was due.
            have version := (assumed assumed').2 sighted sighting req.to_ (ActivityStatus.mem_all _) rule'
              (by simpa [systemRule, admitted] using may system)
            obtain ⟨sight, saw, view⟩ := sightings_seen behind sighting
            obtain rfl := (behind sight saw).2.same view (own ▸ seen) version
            exact ⟨instant, at_, past', earlier.subset member, come⟩

/-! ## Requests of users -/

/-- A request that fails is quiet. -/
def FailsQuiet (past : List (Event (activities config))) (result : Except Exception β)
    (later : List (Event (activities config))) : Prop :=
  match result with
  | .error _ => Quiet past → Quiet later
  | .ok _ => True

/-- A request that reads first and then goes on. -/
theorem guarded {first : Request γ} {rest : γ → Request β} (calls : first.Calls Call.reads)
    (more : ∀ value later, past <:+ later →
      (discipline config undisturbed).Keeps entry (FailsQuiet later) (rest value) later) :
    (discipline config undisturbed).Keeps entry (FailsQuiet past) (first.bind rest) past := by
  refine .bind (keeps_of_reads calls fun result later onward only => ?_)
  cases result with
  | error error => exact quiet_of_reads only
  | ok value =>
    refine (more value later onward).mono fun result last failsQuiet => ?_
    cases result with
    | error error => exact fun quiet => failsQuiet (quiet_of_reads only quiet)
    | ok _ => trivial

theorem userTransition_keeps {userId : Uuid} (activity : ActivityEntity) (made : Made req)
    (user : req.actor = .user userId) :
    (discipline config undisturbed).Keeps entry (FailsQuiet past) (userTransition config activity req)
      past := by
  refine .bind ((transition_keeps made fun _ system => ?_).mono fun result later shown => ?_)
  · cases user.symm.trans system
  · cases result with
    | error error => exact shown
    | ok answer =>
      cases answer with
      | none => exact shown.2
      | some updated => trivial

/-- What is answered does not matter once a request has gone through. -/
theorem answered {first : Request γ} {answer : γ → β}
    (kept : (discipline config undisturbed).Keeps entry (FailsQuiet past) first past) :
    (discipline config undisturbed).Keeps entry (FailsQuiet past)
      (first.bind fun value => .ret (answer value)) past := by
  refine .bind (kept.mono fun result later failsQuiet => ?_)
  cases result with
  | error error => exact failsQuiet
  | ok value => trivial

theorem getById_reads (id : Uuid) : (getById id).Calls Call.reads := by
  refine .bind (Handler.calls_perform.mpr trivial) fun found => ?_
  cases found <;> trivial

theorem loadForMember_reads (id userId : Uuid) : (loadForMember id userId).Calls Call.reads := by
  refine .bind (Handler.calls_perform.mpr trivial) fun found => ?_
  cases found with
  | none => trivial
  | some activity => exact .bind (assertActivityMember_reads activity userId) fun _ => trivial

theorem clockNow_reads : clockNow.Calls Call.reads := Handler.calls_perform.mpr trivial

theorem complete_keeps (id userId : Uuid) :
    (discipline config undisturbed).Keeps entry (FailsQuiet past) (complete config id userId) past :=
  guarded (getById_reads id) fun activity _ _ =>
    guarded (assertActivityMember_reads activity userId) fun _ _ _ =>
      answered (userTransition_keeps activity (.complete id userId) rfl)

theorem confirmAssignment_keeps (id userId : Uuid) :
    (discipline config undisturbed).Keeps entry (FailsQuiet past) (confirmAssignment config id userId)
      past := by
  refine guarded (getById_reads id) fun activity _ _ =>
    guarded (assertActivityMember_reads activity userId) fun _ _ _ => ?_
  split
  · exact fun quiet => quiet
  · split
    · trivial
    · exact answered (userTransition_keeps activity (.confirm id userId) rfl)

theorem delete_keeps (id userId : Uuid) :
    (discipline config undisturbed).Keeps entry (FailsQuiet past) (delete config id userId) past := by
  refine guarded (loadForMember_reads id userId) fun activity _ _ =>
    guarded clockNow_reads fun now _ _ => ?_
  split
  · exact fun quiet => quiet
  · exact answered (userTransition_keeps activity (.delete id userId now) rfl)

theorem cancel_keeps (id userId : Uuid) (rawReason : Option Json) :
    (discipline config undisturbed).Keeps entry (FailsQuiet past) (cancel config id userId rawReason)
      past := by
  refine guarded (loadForMember_reads id userId) fun activity _ _ =>
    guarded clockNow_reads fun now _ _ => ?_
  split
  · exact fun quiet => quiet
  · cases parseActivityReason rawReason with
    | error invalid => exact fun quiet => quiet
    | ok reason => exact answered (userTransition_keeps activity (.cancel id userId reason) rfl)

theorem declineAssignment_keeps (id userId : Uuid) (rawReason : Option Json) :
    (discipline config undisturbed).Keeps entry (FailsQuiet past)
      (declineAssignment config id userId rawReason) past := by
  refine guarded (loadForMember_reads id userId) fun activity _ _ =>
    guarded clockNow_reads fun now _ _ => ?_
  split
  · exact fun quiet => quiet
  · cases parseActivityReason rawReason with
    | error invalid => exact fun quiet => quiet
    | ok reason => exact answered (userTransition_keeps activity (.decline id userId reason) rfl)

theorem assertTarget_reads (activity : ActivityEntity) (assignedTo : Option (Option Uuid))
    (targetId : Uuid) : (assertTarget activity assignedTo targetId).Calls Call.reads := by
  unfold assertTarget
  split
  · exact assertActivityMember_reads activity targetId
  · trivial

theorem reassignInternal_keeps (id userId : Uuid) (assignedTo : Option (Option Uuid)) :
    (discipline config undisturbed).Keeps entry (FailsQuiet past)
      (reassignInternal config id userId assignedTo) past :=
  guarded (loadForMember_reads id userId) fun activity _ _ =>
    guarded (assertTarget_reads activity assignedTo _) fun _ _ _ =>
      answered (userTransition_keeps activity (.assign id userId _) rfl)

theorem assign_keeps (id userId : Uuid) (assignedTo : Option (Option Uuid)) :
    (discipline config undisturbed).Keeps entry (FailsQuiet past) (assign config id userId assignedTo)
      past :=
  reassignInternal_keeps id userId assignedTo

theorem reassign_keeps (id userId : Uuid) (assignedTo : Option (Option Uuid)) :
    (discipline config undisturbed).Keeps entry (FailsQuiet past) (reassign config id userId assignedTo)
      past :=
  reassignInternal_keeps id userId assignedTo

/-! ## Creation -/

theorem validateSchedules_reads (scheduledStart : Instant) (scheduledEnd : Option Instant) :
    (validateSchedules scheduledStart scheduledEnd).Calls Call.reads := by
  refine .bind clockNow_reads fun now => ?_
  split
  · trivial
  · cases scheduledEnd with
    | none => trivial
    | some scheduledEnd => simp only []; split <;> trivial

theorem assertMinimumLeadTime_reads (config : Config) (scheduledStart : Instant) :
    (assertMinimumLeadTime config scheduledStart).Calls Call.reads := by
  refine .bind clockNow_reads fun now => ?_
  split <;> trivial

theorem assertBondMember_reads (bondId userId : Uuid) :
    (assertBondMember bondId userId).Calls Call.reads := by
  refine .bind (Handler.calls_perform.mpr trivial) fun isMember => ?_
  split <;> trivial

theorem allMembers_reads (bondId : Uuid) (userIds : List Uuid) :
    (allMembers bondId userIds).Calls Call.reads := by
  induction userIds with
  | nil => trivial
  | cons userId rest ih =>
    exact .bind (Handler.calls_perform.mpr trivial) fun _ => .bind ih fun _ => trivial

theorem verifyCategoryActive_reads (categoryId : Uuid) :
    (verifyCategoryActive categoryId).Calls Call.reads := by
  refine .bind (Handler.calls_perform.mpr trivial) fun found => ?_
  cases found <;> trivial

theorem verifyChildrenBelongToBond_reads (bondId : Uuid) (childrenIds : List Uuid) :
    (verifyChildrenBelongToBond bondId childrenIds).Calls Call.reads := by
  refine .bind (Handler.calls_perform.mpr trivial) fun children => ?_
  split <;> trivial

/-- What `create` shows: it fails quietly, or answers with a row it has not read. -/
def Created (past : List (Event (activities config))) (result : Except Exception ActivityEntity)
    (later : List (Event (activities config))) : Prop :=
  match result with
  | .error _ => Quiet past → Quiet later
  | .ok row => ∀ event ∈ later, ∀ id, ¬Reads event id row

/-- Reads before a creation, as `guarded` for the other requests. -/
theorem prepared {first : Request γ} {rest : γ → Request ActivityEntity}
    (calls : first.Calls Call.reads)
    (more : ∀ value later, (discipline config undisturbed).Keeps entry (Created later) (rest value) later) :
    (discipline config undisturbed).Keeps entry (Created past) (first.bind rest) past := by
  refine .bind (keeps_of_reads calls fun result later _ only => ?_)
  cases result with
  | error error => exact quiet_of_reads only
  | ok value =>
    refine (more value later).mono fun result last created => ?_
    cases result with
    | error error => exact fun quiet => created (quiet_of_reads only quiet)
    | ok _ => exact created

theorem insert_keeps (bondId : Uuid) (dto : CreateActivityDto) (userId : Uuid)
    (criticality : Criticality) (now : Instant) :
    (discipline config undisturbed).Keeps entry (Created past)
      ((commitInsert (createInput config bondId dto userId criticality now) dto.childrenIds).bind
        fun activity => (wireTimers activity none).bind fun _ => .ret activity) past := by
  refine Discipline.Keeps.perform_bind fun before answer after behind held answers assumed => ?_
  rcases answers.elim with ⟨rfl, rfl⟩ | ⟨error, -, rfl, rfl⟩
  · have opens := @Opens.create config bondId dto userId criticality now before.freshId
    cases accepted : before.activities.insert
        ((createInput config bondId dto userId criticality now).saved before.freshId) with
    | none =>
      simp only [serve, insertActivity, accepted]
      exact ⟨⟨.refl _, fun _ => not_punctual_needed id⟩, held, fun quiet => quiet.cons id⟩
    | some table =>
      obtain ⟨free, added⟩ := Table.get_insert accepted
      simp only [serve, insertActivity, accepted]
      refine ⟨⟨.open accepted _, fun _ _ commit => by cases commit⟩,
        held.later (.open accepted _) (held.journaled.open accepted opens _) (List.Subset.refl _)
          (List.Subset.refl _), .bind (wireTimers_keeps List.mem_cons_self
            (by simp [added]) fun later more only => ?_)⟩
      intro event member id reads
      rcases only event member with earlier | unread
      · rcases List.mem_cons.mp earlier with rfl | earlier
        · cases reads
        · -- The id was free, so no row of it had been read.
          obtain ⟨genuine, onward⟩ := behind event earlier
          have read := (reads_seen genuine reads).1
          obtain rfl := Table.key_of_get read
          obtain ⟨newest, latest, -⟩ := onward.rows _ _ read
          cases free.symm.trans latest
      · exact unread id _ reads
  · exact ⟨⟨.refl _, fun _ => not_punctual_needed id⟩, held, fun quiet => quiet.cons id⟩

theorem create_keeps (bondId : Uuid) (dto : CreateActivityDto) (userId : Uuid) :
    (discipline config undisturbed).Keeps entry (Created past) (create config bondId dto userId) past := by
  refine prepared (validateSchedules_reads _ _) fun _ _ =>
    prepared (assertMinimumLeadTime_reads config _) fun _ _ =>
    prepared (assertBondMember_reads bondId userId) fun _ _ =>
    prepared (allMembers_reads bondId _) fun memberships _ => ?_
  split
  · exact fun quiet => quiet
  · exact prepared (verifyCategoryActive_reads _) fun criticality _ =>
      prepared (verifyChildrenBelongToBond_reads bondId _) fun _ _ =>
      prepared clockNow_reads fun now _ => insert_keeps bondId dto userId criticality now

/-! ## Requests of the system -/

/-- Marking overdue by hand sights nothing, and has no place in an undisturbed run. -/
theorem markOverdue_keeps (id : Uuid) :
    (discipline config undisturbed).Keeps (.markOverdue id)
      (fun result later => Fruitless (result.map .activity) later → Quiet later)
      (markOverdue config id) [] := by
  refine .bind (keeps_read trivial (fun before found _ _ _ assumed => ?_)
    fun _ _ _ => quiet_nil.cons fun effective => effective)
  have disturbed : ¬undisturbed := fun assumed' => (assumed assumed').1 id rfl
  have quiet : Quiet [(⟨before, .findById id, .ok found, before⟩ : Event (activities config))] :=
    quiet_nil.cons fun effective => effective
  cases found with
  | none => exact fun _ => quiet
  | some activity =>
    refine (transition_keeps (.system id .overdue) fun assumed' _ =>
      absurd assumed' disturbed).mono fun result later shown fruitless => ?_
    cases result with
    | error error => exact shown quiet
    | ok answer =>
      cases answer with
      | none => exact shown.2 quiet
      | some row =>
        rcases shown with ⟨-, calm⟩ | unread
        · exact calm quiet
        · obtain ⟨event, member, other, reads⟩ := fruitless
          exact absurd reads (unread event member other)

/-- What a timer or a sweep asks for, it asks for on a row it has sighted. -/
theorem applySystemTransition_keeps (id : Uuid) (to_ : ActivityStatus)
    (ready : undisturbed → Ready entry past { activityId := id, to_ := to_, actor := .system }) :
    (discipline config undisturbed).Keeps entry (fun result later => result = .ok () ∧ past <:+ later)
      (applySystemTransition config id to_) past := by
  refine .tryCatch (.bind ((transition_keeps (.system id to_) fun assumed _ =>
    ready assumed).suffix.mono fun result later shown => ?_))
  cases result with
  | error error => exact ⟨rfl, shown.1⟩
  | ok answer => exact ⟨rfl, shown.1⟩

theorem systemRule_of_timer {kind : TimerKind} {sources : List ActivityStatus}
    {status to_ : ActivityStatus} (expected : expectedSourceFor kind = some sources)
    (valid : status ∈ sources) (target : targetStatusFor kind = some to_) :
    systemRule status to_ := by
  cases kind <;> cases expected <;> cases target <;>
    simp only [List.mem_cons, List.not_mem_nil, or_false] at valid
  · rcases valid with rfl | rfl <;> rfl
  all_goals subst valid; rfl

theorem systemRule_of_dueTargetFor {now : Instant} {to_ : ActivityStatus}
    (due : dueTargetFor row now = some to_) : systemRule row.status to_ := by
  unfold dueTargetFor at due
  split at due
  · rename_i waits
    cases due
    rcases waits.1 with status | status <;> rw [status] <;> rfl
  split at due
  · rename_i _ waits
    cases due
    rw [waits.1]
    rfl
  split at due
  · rename_i _ _ waits
    cases due
    rw [waits.1]
    rfl
  split at due
  · rename_i _ _ _ waits
    cases due
    rw [waits.1]
    rfl
  · cases due

theorem taken_due {jobId : String} {data : ActivityTimerJobData} (held : Consistent config before)
    (genuine : Event.Genuine (⟨before, .takeTimer jobId, .ok (some data), before⟩ :
      Event (activities config))) : Due before data before.clock := by
  rcases genuine.elim with ⟨query, world, same⟩ | ⟨query, error, world, -, same⟩
  · injection same with here asked answers _
    subst here asked
    have taken : ((before.timers.get jobId).filter (·.runAt ≤ before.clock)).map (·.data) =
        some data := (Except.ok.inj (eq_of_heq answers)).symm
    obtain ⟨job, found, rfl⟩ := Option.map_eq_some_iff.mp taken
    obtain ⟨there, elapsed⟩ := Option.filter_eq_some_iff.mp found
    exact (held.timers job (Table.mem_of_get there)).later (.refl _) (by simpa using elapsed)
  · injection same with _ asked answers _
    subst asked
    cases eq_of_heq answers

theorem processTimer_keeps (jobId : String) :
    (discipline config undisturbed).Keeps (.processTimer jobId) (FailsQuiet [])
      (processTimer config jobId) [] := by
  refine keeps_read trivial (fun taking found held genuine _ _ => ?_)
    fun _ _ quiet => quiet.cons fun effective => effective
  cases found with
  | none => trivial
  | some data =>
    refine .tryCatch (keeps_read trivial (fun reading found _ read behind _ => ?_) fun _ _ => trivial)
    cases found with
    | none => trivial
    | some activity =>
      simp only []
      split
      · trivial
      · rename_i current
        split
        · trivial
        · rename_i valid
          cases target : targetStatusFor data.kind with
          | none => trivial
          | some to_ =>
            refine (applySystemTransition_keeps _ _ fun _ => ?_).mono fun result later shown => ?_
            · -- The anchor of the row is the target of the timer, which has run out.
              obtain ⟨seen, -⟩ := reads_seen read rfl
              obtain ⟨row, there, -, aim⟩ := (taken_due held genuine).later behind.head.2 le_rfl
              cases there.symm.trans seen
              obtain ⟨instant, timed, come⟩ := aim (Decidable.not_not.mp current)
              obtain ⟨sources, expected⟩ : ∃ sources, expectedSourceFor data.kind = some sources := by
                cases kind : data.kind <;> first | exact ⟨_, rfl⟩ | (rw [kind] at target; cases target)
              have source : activity.status ∈ sources := by
                simpa [expected] using valid
              refine ⟨activity, by simp [sightings, readOf],
                systemRule_of_timer expected source target, instant,
                (anchor_of_expectedSource expected source).trans timed, _,
                List.mem_cons_of_mem _ List.mem_cons_self, come⟩
            · rw [shown.1]
              trivial

theorem sweepAll_keeps {now : Instant} {rows : List ActivityEntity}
    (listing : Event (activities config)) (there : listing ∈ past) (lists : ∀ row ∈ rows, row ∈ listed listing)
    (passed : ∃ event ∈ past, now ≤ event.after.clock) :
    (discipline config undisturbed).Keeps .processSweep (fun _ _ => True) (sweepAll config now rows)
      past := by
  induction rows generalizing past with
  | nil => trivial
  | cons row rest ih =>
    have onward : ∀ later, past <:+ later → (discipline config undisturbed).Keeps .processSweep
        (fun _ _ => True) (sweepAll config now rest) later := fun later more => by
      obtain ⟨event, member, come⟩ := passed
      exact ih (more.subset there) (fun other listed => lists other (List.mem_cons_of_mem _ listed))
        ⟨event, more.subset member, come⟩
    unfold sweepAll
    cases due : dueTargetFor row now with
    | none => exact onward past List.suffix_rfl
    | some to_ =>
      refine .bind ((applySystemTransition_keeps _ _ fun _ => ?_).mono fun result later shown => ?_)
      · obtain ⟨event, member, come⟩ := passed
        obtain ⟨instant, timed, reached⟩ := anchor_of_dueTargetFor due
        have sighted : row ∈ sightings .processSweep past row.id :=
          List.mem_filter.mpr ⟨List.mem_flatMap.mpr ⟨listing, there, lists row List.mem_cons_self⟩,
            by simp⟩
        exact ⟨row, sighted,
          systemRule_of_dueTargetFor due, instant, timed, event, member, reached.trans come⟩
      · rw [shown.1]
        exact onward later shown.2

theorem clock_told {now : Instant}
    (genuine : Event.Genuine (⟨before, .now, .ok now, before⟩ : Event (activities config))) :
    now = before.clock := by
  rcases genuine.elim with ⟨query, world, same⟩ | ⟨query, error, world, impossible, same⟩
  · injection same with here asked answers _
    subst here asked
    exact Except.ok.inj (eq_of_heq answers)
  · injection same with _ asked _ _
    subst asked
    cases impossible

theorem processSweep_keeps :
    (discipline config undisturbed).Keeps .processSweep (fun result _ => ∃ value, result = .ok value)
      (processSweep config) [] := by
  refine .tryCatch (keeps_read trivial (fun timing now _ timed _ _ => ?_) fun _ _ => ⟨_, rfl⟩)
  refine keeps_read trivial (fun listing due _ _ behind _ => ?_) fun _ _ => ⟨_, rfl⟩
  refine (sweepAll_keeps ⟨listing, .findDueForTransition now SWEEP_LIMIT, .ok due, listing⟩
    List.mem_cons_self (fun row member => member)
    ⟨⟨timing, .now, .ok now, timing⟩, List.mem_cons_of_mem _ List.mem_cons_self,
      (clock_told timed).le⟩).mono fun result later _ => ?_
  cases result <;> exact ⟨_, rfl⟩

/-! ## Every request -/

/-- A request whose answer is not a row only has to fail quiet. -/
theorem keeps_of_failsQuiet {request : Request β} (reply : β → Reply)
    (other : ∀ value past, ¬Fruitless (.ok (reply value)) (past : List (Event (activities config))))
    (kept : (discipline config undisturbed).Keeps entry (FailsQuiet []) request []) :
    (discipline config undisturbed).Keeps entry (fun result past => Fruitless result past → Quiet past)
      (request.bind fun value => .ret (reply value)) [] := by
  refine .bind (kept.mono fun result later failsQuiet => ?_)
  cases result with
  | error error => exact fun _ => failsQuiet quiet_nil
  | ok value => exact fun fruitless => absurd fruitless (other value later)

theorem handler_keeps (entry : Entry) :
    (discipline config undisturbed).Keeps entry (fun result past => Fruitless result past → Quiet past)
      (handler config entry) [] := by
  have body : ∀ (json : Record) (past : List (Event (activities config))),
      ¬Fruitless (.ok (.body json)) past := fun _ _ fruitless => fruitless
  have nothing : ∀ (_ : Unit) (past : List (Event (activities config))),
      ¬Fruitless (.ok .nothing) past := fun _ _ fruitless => fruitless
  cases entry <;> simp only [handler, Handler.bind_eq, Handler.pure_eq]
  case create bondId dto userId =>
    refine .bind ((create_keeps bondId dto userId).mono fun result later created => ?_)
    cases result with
    | error error => exact fun _ => created quiet_nil
    | ok row =>
      rintro ⟨event, member, id, reads⟩
      exact absurd reads (created event member id)
  case assign id userId assignedTo =>
    exact keeps_of_failsQuiet .body body (assign_keeps id userId assignedTo)
  case reassign id userId assignedTo =>
    exact keeps_of_failsQuiet .body body (reassign_keeps id userId assignedTo)
  case confirmAssignment id userId =>
    exact keeps_of_failsQuiet .body body (confirmAssignment_keeps id userId)
  case declineAssignment id userId rawReason =>
    exact keeps_of_failsQuiet .body body (declineAssignment_keeps id userId rawReason)
  case complete id userId => exact keeps_of_failsQuiet .body body (complete_keeps id userId)
  case cancel id userId rawReason =>
    exact keeps_of_failsQuiet .body body (cancel_keeps id userId rawReason)
  case delete id userId => exact keeps_of_failsQuiet .body body (delete_keeps id userId)
  case markOverdue id =>
    refine .bind ((markOverdue_keeps id).mono fun result later shown => ?_)
    cases result with
    | error error => exact shown
    | ok row => exact shown
  case processTimer jobId =>
    exact keeps_of_failsQuiet (fun _ => .nothing) nothing (processTimer_keeps jobId)
  case processSweep =>
    refine keeps_of_failsQuiet (fun _ => .nothing) nothing
      (processSweep_keeps.mono fun result later ends => ?_)
    obtain ⟨value, rfl⟩ := ends
    trivial

/-- Every request keeps the discipline, so every run does. -/
theorem discipline_sound (config : Config) (undisturbed : Prop) : (discipline config undisturbed).Sound where
  refl := .refl
  trans := .trans
  start := consistent_start
  nudge how _ held := held.nudge how
  guar_rely _ met := met.1
  handlers := handler_keeps

/-- The stores are consistent in every configuration of every run. -/
theorem consistent_of_reachable {cfg : Interleaving.Config (activities config)}
    (reachable : Reachable (activities config) cfg) : Consistent config cfg.world :=
  (reachable.disciplined (discipline_sound config False)
    (Discipline.supplies_of_assumes fun _ _ _ => False.elim)).1

end ParentalCoord.Activities

import ParentalCoord.Activities.Flags
import ParentalCoord.Interleaving.Sum
import ParentalCoord.Interleaving.Vouching

/-!
Who is told of an activity.

To one who is not a member of its bond an activity is not there.  All requests but two read and check
as one, and then answer a stranger as they answer about an activity that does not exist; the two
that read first have an answer of their own for what they do not find.
-/

namespace ParentalCoord.Activities

open Interleaving Store

/-- Who requests; timers, the sweep and what marks an activity overdue are the system. -/
def Entry.viewer : Entry → Option Uuid
  | .create _ _ userId | .assign _ userId _ | .reassign _ userId _ | .confirmAssignment _ userId
  | .declineAssignment _ userId _ | .complete _ userId | .cancel _ userId _ | .delete _ userId => some userId
  | .markOverdue _ | .processTimer _ | .processSweep => none

/-- The activity that a user names. -/
def Entry.names : Entry → Option Uuid
  | .assign id _ _ | .reassign id _ _ | .confirmAssignment id _ | .declineAssignment id _ _
  | .complete id _ | .cancel id _ _ | .delete id _ => some id
  | .create _ _ _ | .markOverdue _ | .processTimer _ | .processSweep => none

/-- The bond that a request is about: the one that a creation names, else that of the activity. -/
def Entry.Concerns (entry : Entry) (world : World) (bondId : Uuid) : Prop :=
  match entry with
  | .create asked _ _ => bondId = asked
  | entry => ∃ id row, entry.names = some id ∧ world.activities.get id = some row ∧ row.bondId = bondId

/-- `findById` of the service throws an error without a code. -/
def activityMissing : Exception := notFoundException "Activity not found"

/-- What is answered to one who has not been found to be a member.  Of a creation, the times are
looked at before. -/
def Entry.Silent : Entry → Exception → Prop
  | .create _ _ _, error => error = .fault ∨ error = notFoundException "Bond not found or you are not a member" ∨
      ∃ message, error = badRequestException message
  | .complete _ _, error | .confirmAssignment _ _, error =>
      error = .fault ∨ error = activityNotFound ∨ error = activityMissing
  | _, error => error = .fault ∨ error = activityNotFound

section Vouched

variable {config : Config} {entry : Entry} {past : List (Event (activities config))} {id userId bondId : Uuid}

/-- The user has been found to be a member of the bond. -/
def Confirmed (past : List (Event (activities config))) (bondId userId : Uuid) : Prop :=
  ∃ event ∈ past, event.query = .isActiveBondForMember bondId userId ∧
    event.before.directory.isActiveBondForMember bondId userId

/-- The activity has been read, and the user found to be a member of its bond. -/
def LetIn (past : List (Event (activities config))) (id userId : Uuid) : Prop :=
  ∃ row, (∃ event ∈ past, Reads event id row) ∧ Confirmed past row.bondId userId

def Entry.Vouched (entry : Entry) (past : List (Event (activities config))) : Prop :=
  match entry with
  | .create bondId _ userId => Confirmed past bondId userId
  | .markOverdue _ | .processTimer _ | .processSweep => True
  | entry => ∃ id userId, entry.names = some id ∧ entry.viewer = some userId ∧ LetIn past id userId

theorem Confirmed.cons {event : Event (activities config)} (confirmed : Confirmed past bondId userId) :
    Confirmed (event :: past) bondId userId := by
  obtain ⟨seen, member, rest⟩ := confirmed
  exact ⟨seen, List.mem_cons_of_mem _ member, rest⟩

theorem LetIn.cons {event : Event (activities config)} (letIn : LetIn past id userId) :
    LetIn (event :: past) id userId := by
  obtain ⟨row, ⟨read, member, reads⟩, confirmed⟩ := letIn
  exact ⟨row, ⟨read, List.mem_cons_of_mem _ member, reads⟩, confirmed.cons⟩

theorem Entry.Vouched.cons {event : Event (activities config)} (vouched : entry.Vouched past) :
    entry.Vouched (event :: past) := by
  cases entry with
  | create bondId dto userId => exact Confirmed.cons vouched
  | markOverdue | processTimer | processSweep => trivial
  | assign | reassign | confirmAssignment | declineAssignment | complete | cancel | delete =>
    obtain ⟨id, userId, named, viewer, letIn⟩ := vouched
    exact ⟨id, userId, named, viewer, letIn.cons⟩

theorem Entry.vouched_of_cleared (named : entry.names = some id) (viewer : entry.viewer = some userId)
    (letIn : LetIn past id userId) : entry.Vouched past := by
  cases entry with
  | create | markOverdue | processTimer | processSweep => cases named
  | assign | reassign | confirmAssignment | declineAssignment | complete | cancel | delete =>
    exact ⟨id, userId, named, viewer, letIn⟩

theorem Entry.silent_fault (entry : Entry) : entry.Silent .fault := by
  cases entry <;> exact .inl rfl

theorem Entry.silent_stranger (named : entry.names = some id) : entry.Silent activityNotFound := by
  cases entry with
  | create | markOverdue | processTimer | processSweep => cases named
  | complete | confirmAssignment => exact .inr (.inl rfl)
  | assign | reassign | declineAssignment | cancel | delete => exact .inr rfl

/-- Nothing is written for one who has not been found to be a member, and he is shown nothing but that
there is nothing. -/
def membership (config : Config) : Vouching (activities config) where
  sensitive _ query := ¬query.reads
  silent := Entry.Silent
  vouched := Entry.Vouched
  stays := Entry.Vouched.cons

/-! ## Requests -/

theorem asking {query : Call} {β : Type} {rest : interface.Answer query → Request β} (reads : query.reads)
    (more : ∀ world value, (serve query world).1 = .ok value →
      (membership config).Keeps entry (rest value) (⟨world, query, .ok value, world⟩ :: past)) :
    (membership config).Keeps entry ((perform query).bind rest) past := by
  refine Vouching.keeps_asking (not_not.mpr reads) (fun before answer after answers => ?_)
    fun before error after answers => ?_
  · obtain rfl := after_of_reads reads answers
    rcases answers.elim with ⟨same, -⟩ | ⟨error, -, same, -⟩
    · exact more after answer same.symm
    · cases same
  · have faulty : error = .fault := by
      rcases answers.elim with ⟨same, -⟩ | ⟨failure, may, same, -⟩
      · cases query <;> first | cases same | cases reads
      · cases same
        cases query <;> cases may <;> rfl
    exact faulty ▸ entry.silent_fault

/-- The check of a row that has been read. -/
theorem assertActivityMember_vouched {row : ActivityEntity} (named : entry.names = some id)
    (viewer : entry.viewer = some userId) (read : ∃ event ∈ past, Reads event id row) :
    (membership config).Keeps entry (assertActivityMember row userId) past := by
  unfold assertActivityMember
  refine asking trivial fun world isMember answered => ?_
  cases isMember with
  | false => exact Vouching.keeps_throw (Entry.silent_stranger named)
  | true =>
    obtain ⟨event, member, reads⟩ := read
    refine Vouching.keeps_of_vouched (Entry.vouched_of_cleared named viewer ⟨row, ?_, ?_⟩) _
    · exact ⟨event, List.mem_cons_of_mem _ member, reads⟩
    · exact ⟨_, List.mem_cons_self, rfl, by simpa [serve] using answered⟩

theorem loadForMember_vouched (named : entry.names = some id) (viewer : entry.viewer = some userId) :
    (membership config).Keeps entry (loadForMember id userId) past := by
  unfold loadForMember
  refine asking trivial fun world found _ => ?_
  cases found with
  | none => exact Vouching.keeps_throw (Entry.silent_stranger named)
  | some row =>
    refine Vouching.keeps_bind (assertActivityMember_vouched named viewer ?_)
    exact ⟨⟨world, .findById id, .ok (some row), world⟩, List.mem_cons_self, rfl⟩

/-- The two requests that read before they check. -/
theorem getById_vouched {β : Type} {rest : ActivityEntity → Request β} (named : entry.names = some id)
    (viewer : entry.viewer = some userId) (missing : entry.Silent activityMissing) :
    (membership config).Keeps entry ((getById id).bind fun activity =>
      (assertActivityMember activity userId).bind fun _ => rest activity) past := by
  unfold getById
  rw [Handler.bind_eq, Handler.bind_assoc]
  refine asking trivial fun world found _ => ?_
  cases found with
  | none => exact Vouching.keeps_throw missing
  | some row =>
    simp only [Handler.pure_eq, Handler.ret_bind]
    refine Vouching.keeps_bind (assertActivityMember_vouched named viewer ?_)
    exact ⟨⟨world, .findById id, .ok (some row), world⟩, List.mem_cons_self, rfl⟩

/-- What the body itself says may be told before anything is found out about who asks. -/
theorem keeps_validateSchedules {bondId : Uuid} {dto : CreateActivityDto} {β : Type}
    {rest : Unit → Request β} {past : List (Event (activities config))}
    (more : ∀ past, (membership config).Keeps (.create bondId dto userId) (rest ()) past) :
    (membership config).Keeps (.create bondId dto userId)
      ((validateSchedules dto.scheduledStart dto.scheduledEnd).bind rest) past := by
  have refused (message : String) (past : List (Event (activities config))) :
      (membership config).Keeps (.create bondId dto userId)
        (.throw (badRequestException message) : Request β) past :=
    Vouching.keeps_throw (.inr (.inr ⟨message, rfl⟩))
  unfold validateSchedules
  simp only [Handler.bind_eq, Handler.bind_assoc]
  refine asking trivial fun _ now _ => ?_
  by_cases begun : dto.scheduledStart ≤ now
  · simp only [if_pos begun]
    exact refused _ _
  · simp only [if_neg begun]
    cases dto.scheduledEnd with
    | none => exact more _
    | some scheduledEnd =>
      by_cases early : scheduledEnd ≤ dto.scheduledStart
      · simp only [if_pos early]
        exact refused _ _
      · simp only [if_neg early]
        exact more _

theorem create_vouched (bondId : Uuid) (dto : CreateActivityDto) (userId : Uuid) :
    (membership config).Keeps (.create bondId dto userId) (create config bondId dto userId) [] := by
  unfold create assertMinimumLeadTime assertBondMember
  simp only [Handler.bind_eq, Handler.bind_assoc]
  refine keeps_validateSchedules fun past => asking trivial fun _ now _ => ?_
  by_cases soon : dto.scheduledStart < now + config.MIN_LEAD_TIME_HOURS.getD 48 * 60 * 60 * 1000
  · simp only [if_pos soon]
    exact Vouching.keeps_throw (.inr (.inr ⟨_, rfl⟩))
  · simp only [if_neg soon]
    refine asking trivial fun world isMember answered => ?_
    cases isMember with
    | false => exact Vouching.keeps_throw (.inr (.inl rfl))
    | true =>
      have confirmed (past : List (Event (activities config))) : (Entry.create bondId dto userId).Vouched
          ((⟨world, .isActiveBondForMember bondId userId, .ok true, world⟩ :
            Event (activities config)) :: past) :=
        ⟨_, List.mem_cons_self, rfl, by simpa [serve] using answered⟩
      exact Vouching.keeps_of_vouched (confirmed _) _

/-- Every request of a user begins with a check. -/
theorem handler_vouched (entry : Entry) : (membership config).Keeps entry (handler config entry) [] := by
  cases entry <;> simp only [handler, Handler.bind_eq, Handler.pure_eq]
  case create bondId dto userId => exact Vouching.keeps_bind (create_vouched bondId dto userId)
  case assign id userId assignedTo | reassign id userId assignedTo =>
    exact Vouching.keeps_bind (Vouching.keeps_bind (loadForMember_vouched rfl rfl))
  case declineAssignment id userId rawReason | cancel id userId rawReason =>
    exact Vouching.keeps_bind (Vouching.keeps_bind (loadForMember_vouched rfl rfl))
  case delete id userId => exact Vouching.keeps_bind (Vouching.keeps_bind (loadForMember_vouched rfl rfl))
  case confirmAssignment id userId =>
    exact Vouching.keeps_bind (getById_vouched rfl rfl (.inr (.inr rfl)))
  case complete id userId => exact Vouching.keeps_bind (getById_vouched rfl rfl (.inr (.inr rfl)))
  case markOverdue | processTimer | processSweep => exact Vouching.keeps_of_vouched trivial _

end Vouched

/-! ## The bond of an activity -/

section Owned

variable {config : Config}

/-- Activities stay, and in their bonds. -/
def Owned (first second : World) : Prop := ∀ id row, first.activities.get id = some row →
  ∃ row', second.activities.get id = some row' ∧ row'.bondId = row.bondId

theorem Owned.refl (world : World) : Owned world world := fun _ row there => ⟨row, there, rfl⟩

theorem Owned.trans {first second third : World} (former : Owned first second) (latter : Owned second third) :
    Owned first third := by
  intro id row there
  obtain ⟨row', there', same⟩ := former id row there
  obtain ⟨row'', there'', same'⟩ := latter id row' there'
  exact ⟨row'', there'', same'.trans same⟩

theorem owned_of_activities {first second : World} (same : second.activities = first.activities) :
    Owned first second := fun _ row there => ⟨row, by rw [same, there], rfl⟩

theorem owned_serve (query : Call) (world : World) : Owned world (serve query world).2 := by
  cases query with
  | applyTransition input =>
    rcases applyTransition_cases input world with missed | ⟨row, found, _, _, _, written⟩
    · simp only [serve, missed]
      exact .refl world
    · simp only [serve, written]
      intro id old there
      have put := @Table.get_put _ _ _ ActivityEntity.id world.activities (input.saved row) id
      by_cases same : id = (input.saved row).id
      · rw [if_pos same, there] at put
        refine ⟨input.saved row, put, ?_⟩
        have key : (input.saved row).id = input.id := (Table.key_of_get found : row.id = input.id)
        rw [same, key, found] at there
        cases there
        rfl
      · rw [if_neg same] at put
        exact ⟨old, put.trans there, rfl⟩
  | insertActivity input childrenIds =>
    simp only [serve, insertActivity]
    split
    · exact .refl world
    · rename_i table accepted
      intro id old there
      obtain ⟨free, found⟩ := Table.get_insert accepted
      refine ⟨old, ?_, rfl⟩
      rw [found, if_neg, there]
      rintro rfl
      cases free.symm.trans there
  | _ => exact owned_of_activities rfl

/-- Nothing else is counted on. -/
def ownership (config : Config) : Discipline (activities config) where
  inv _ := True
  rely := Owned
  guar _ _ event := Owned event.before event.after

theorem ownership_sound (config : Config) : (ownership config).Sound where
  refl := .refl
  trans := .trans
  start := trivial
  nudge how world _ := by
    refine ⟨trivial, owned_of_activities ?_⟩
    cases how with
    | settle index =>
      simp only [nudge]
      split
      · rename_i mutation there
        cases mutation with
        | add data delay =>
          simp only [QueueMutation.settle]
          split <;> rfl
        | remove jobId => rfl
      · rfl
    | _ => rfl
  guar_rely _ wrote := wrote
  handlers entry := by
    refine .of_calls (Handler.calls_any (handler config entry)) ?_ fun _ _ _ => trivial
    intro query _ past before answer after _ answers _
    rcases answers.elim with ⟨-, rfl⟩ | ⟨_, -, -, rfl⟩
    · exact ⟨owned_serve query before, trivial⟩
    · exact ⟨.refl after, trivial⟩

end Owned

variable {config : Config} {cfg : Interleaving.Config (activities config)} {thread : Thread (activities config)}

/-- **An activity is the business of the members of its bond.**  In every run, a request of a user that
has written anything or sent a timer, or that has ended in any other way than a stranger's may, is
about a bond of which he was found to be a member during the request. -/
theorem insiders_only {userId : Uuid} (run : Reachable (activities config) cfg) (member : thread ∈ cfg.threads)
    (viewer : thread.entry.viewer = some userId)
    (told : (∃ event ∈ thread.past, ¬event.query.reads) ∨ (∃ reply, thread.rest = .ret reply) ∨
      ∃ error, thread.rest = .throw error ∧ ¬thread.entry.Silent error) :
    ∃ bondId, thread.entry.Concerns cfg.world bondId ∧ ∃ event ∈ thread.past,
      event.query = .isActiveBondForMember bondId userId ∧
        event.before.directory.isActiveBondForMember bondId userId := by
  have vouched := run.vouched handler_vouched member told
  have behind := ((run.disciplined (ownership_sound config)
    (Discipline.supplies_of_assumes fun _ _ _ => trivial)).2 thread member).behind
  have letIn (there : ∃ id userId, thread.entry.names = some id ∧ thread.entry.viewer = some userId ∧
      LetIn thread.past id userId) :
      ∃ bondId, (∃ id row, thread.entry.names = some id ∧ cfg.world.activities.get id = some row ∧
        row.bondId = bondId) ∧ Confirmed thread.past bondId userId := by
    obtain ⟨id, other, named, same, row, ⟨read, seen, reads⟩, confirmed⟩ := there
    cases viewer.symm.trans same
    obtain ⟨genuine, onward⟩ := behind read seen
    obtain ⟨row', there, same⟩ := onward id row (reads_seen genuine reads).1
    exact ⟨row.bondId, ⟨id, row', named, there, same⟩, confirmed⟩
  change thread.entry.Vouched thread.past at vouched
  cases asked : thread.entry with
  | create bondId dto asker =>
    rw [asked] at vouched viewer
    cases viewer
    exact ⟨bondId, rfl, vouched⟩
  | markOverdue | processTimer | processSweep =>
    rw [asked] at viewer
    cases viewer
  | assign | reassign | confirmAssignment | declineAssignment | complete | cancel | delete =>
    rw [asked] at vouched letIn
    exact letIn vouched

/-- An assignment that has gone through. -/
def assignedBy (thread : Thread (activities defaults)) : Bool :=
  match thread.entry, thread.rest with
  | .assign "a1" "u1" _, .ret _ => true
  | _, _ => false

theorem insiders_only_assigned : ∃ (cfg : Interleaving.Config (activities defaults)) (bondId : Uuid),
    Reachable (activities defaults) cfg ∧ ∃ thread ∈ cfg.threads,
      thread.entry.Concerns cfg.world bondId ∧ ∃ event ∈ thread.past,
      event.query = .isActiveBondForMember bondId "u1" ∧
        event.before.directory.isActiveBondForMember bondId "u1" := by
  obtain ⟨cfg, run, shown⟩ := exists_played (fun _ _ => True)
    (creation ++ .arrive (.assign "a1" "u1" (some (some "u2"))) :: turns 1 12)
    (fun cfg => cfg.threads.any assignedBy) (by decide +kernel)
  obtain ⟨thread, member, shown⟩ := List.any_eq_true.mp shown
  unfold assignedBy at shown
  split at shown
  · rename_i assignedTo reply entry ended
    have viewer : thread.entry.viewer = some "u1" := by rw [entry]; rfl
    obtain ⟨bondId, concerns, confirmed⟩ := insiders_only run member viewer (.inr (.inl ⟨_, ended⟩))
    exact ⟨cfg, bondId, run, thread, member, concerns, confirmed⟩
  · cases shown

/-! ## What a stranger can tell -/

section Strangers

variable {world : World} {row : ActivityEntity} {id userId : Uuid}

/-- The answer about an activity that does not exist. -/
def Operation.missing : Operation → Exception
  | .complete | .confirmAssignment => activityMissing
  | _ => activityNotFound

theorem run_stranger (config : Config) (operation : Operation) (found : world.activities.get id = some row)
    (alive : row.deletedAt = none)
    (stranger : world.directory.isActiveBondForMember row.bondId userId = false) :
    ((handler config (operation.entry id userId)).run serve world).1 = .error activityNotFound := by
  have read : (findById id).run serve world = (.ok (some row), world) := findById_alone found alive
  have refused : (assertActivityMember row userId).run serve world = (.error activityNotFound, world) := by
    simp [assertActivityMember, isActiveBondForMember, perform, Handler.perform, Handler.run, Handler.bind,
      serve, stranger]
  have loaded : (loadForMember id userId).run serve world = (.error activityNotFound, world) := by
    rw [loadForMember, Handler.bind_eq, Handler.run_bind_eq read]
    simp only [Handler.bind_eq, Handler.run_bind, refused]
  have got : (getById id).run serve world = (.ok row, world) := getById_alone found alive
  have stops {β γ : Type} {first : Request β} {rest : β → Request γ}
      (ran : first.run serve world = (.error activityNotFound, world)) :
      ((first.bind rest).run serve world) = (.error activityNotFound, world) := by
    rw [Handler.run_bind, ran]
  cases operation with
  | complete | confirmAssignment =>
    refine congrArg Prod.fst (stops ?_)
    exact (Handler.run_bind_eq got).trans (stops refused)
  | declineAssignment | assign | reassign | cancel | delete =>
    exact congrArg Prod.fst (stops (stops loaded))

theorem run_missing (config : Config) (operation : Operation) (absent : world.activities.get id = none) :
    ((handler config (operation.entry id userId)).run serve world).1 = .error operation.missing := by
  have read : (findById id).run serve world = (.ok none, world) := by
    simp [findById, perform, Handler.perform, Handler.run, serve, absent]
  have stops {β γ : Type} {first : Request β} {rest : β → Request γ} {error : Exception}
      (ran : first.run serve world = (.error error, world)) :
      ((first.bind rest).run serve world) = (.error error, world) := by
    rw [Handler.run_bind, ran]
  have loaded : (loadForMember id userId).run serve world = (.error activityNotFound, world) :=
    Handler.run_bind_eq read
  have got : (getById id).run serve world = (.error activityMissing, world) := Handler.run_bind_eq read
  cases operation with
  | complete | confirmAssignment => exact congrArg Prod.fst (stops (stops got))
  | declineAssignment | assign | reassign | cancel | delete =>
    exact congrArg Prod.fst (stops (stops loaded))

/-- **A stranger can tell an activity from none by two of the requests, and by no other.**  To complete
it and to confirm it are answered with one error where it exists and with another where it does not. -/
theorem told_apart_iff {world' : World} (config : Config) (operation : Operation)
    (found : world.activities.get id = some row) (alive : row.deletedAt = none)
    (stranger : world.directory.isActiveBondForMember row.bondId userId = false)
    (absent : world'.activities.get id = none) :
    ((handler config (operation.entry id userId)).run serve world).1 ≠
        ((handler config (operation.entry id userId)).run serve world').1 ↔
      operation = .complete ∨ operation = .confirmAssignment := by
  rw [run_stranger config operation found alive stranger, run_missing config operation absent]
  have apart : activityNotFound ≠ activityMissing := nofun
  cases operation <;> simp [Operation.missing, apart]

/-- An activity of a bond that nobody is a member of. -/
def visited : ActivityEntity := (createInput defaults "b1" visit "u1" .medium 0).saved "a1"

theorem told_apart_completed :
    ((handler defaults (.complete "a1" "u9")).run serve { start with activities := .singleton visited }).1 ≠
      ((handler defaults (.complete "a1" "u9")).run serve start).1 :=
  (@told_apart_iff { start with activities := .singleton visited } visited "a1" "u9" start defaults .complete
    rfl rfl rfl rfl).mpr (.inl rfl)

end Strangers

end ParentalCoord.Activities

import ParentalCoord.Expenses.Consistency
import ParentalCoord.Interleaving.Discipline

/-!
The discipline that every request on an expense keeps, and what it shows for
itself when it ends.

A request loads the expense once before it writes, and writes at most once.  A
success was applied to a live row in the status that was loaded, whatever edits
were recorded in between (`Applies`).  A refusal has written nothing, unless it is
the one with which the reading after the commit may end.
-/

namespace ParentalCoord.Expenses

open Interleaving Store

section Events

variable {config : Config}

/-- A write that was made. -/
def Effective : Event (expenses config) → Prop
  | ⟨_, .insertWithManager _, .ok _, _⟩ => True
  | ⟨_, .updateGuarded _, .ok true, _⟩ => True
  | ⟨_, .commitStale _ _, .ok _, _⟩ => True
  | _ => False

def Quiet (past : List (Event (expenses config))) : Prop := ∀ event ∈ past, ¬Effective event

/-- No expense, no audit entry and no event is written. -/
def Unwritten (first second : World) : Prop :=
  second.expenses = first.expenses ∧ second.audit = first.audit ∧ second.inserted = first.inserted

/-- The id that an event loads the live row of, and the row. -/
def loadOf : Event (expenses config) → Option (Uuid × ExpenseEntity)
  | ⟨_, .findOne id, .ok (some (row, _)), _⟩ => some (id, row)
  | _ => none

/-- The transaction that an event commits, and the row it is committed on. -/
def commitOf : Event (expenses config) → Option (GuardedWrite × ExpenseEntity)
  | ⟨before, .updateGuarded write, .ok true, _⟩ =>
      (before.expenses.get write.id).map fun row => (write, row)
  | _ => none

end Events

/-- The expense that a request is to change. -/
def Entry.target : Entry → Option Uuid
  | .update id _ _ => some id
  | .cancel id _ => some id
  | .approve id _ => some id
  | .reject id _ _ => some id
  | .pay id _ => some id
  | _ => none

/-- The transaction that a request makes of the row it has loaded. -/
inductive Decides : Entry → ExpenseEntity → GuardedWrite → Prop where
  | update (id : Uuid) (dto : UpdateExpenseDto) (viewerId : Uuid) (loaded : ExpenseEntity) :
      Decides (.update id dto viewerId) loaded (editFields id viewerId loaded (buildPatch dto))
  | cancel (id viewerId : Uuid) (loaded : ExpenseEntity) (now : Instant) :
      Decides (.cancel id viewerId) loaded (markDeleted id viewerId loaded now)
  | approve (id viewerId : Uuid) (loaded : ExpenseEntity) (now : Instant) :
      Decides (.approve id viewerId) loaded (transitionStatus (approveParams id viewerId now) loaded)
  | reject (id viewerId : Uuid) (rawReason : Option String) (loaded : ExpenseEntity) :
      Decides (.reject id viewerId rawReason) loaded
        (transitionStatus (rejectParams id viewerId rawReason) loaded)
  | pay (id viewerId : Uuid) (loaded : ExpenseEntity) (now : Instant) :
      Decides (.pay id viewerId) loaded (transitionStatus (payParams id viewerId now) loaded)

variable {config : Config} {entry : Entry} {id viewerId : Uuid}
  {past later : List (Event (expenses config))} {event load commit : Event (expenses config)}
  {loaded current : ExpenseEntity} {write : GuardedWrite}

/-- A request that has loaded a row and committed on it.  The row was alive and in
the status loaded; its editable columns are those loaded, changed by the patches
that the audit has recorded in between. -/
structure Applies (entry : Entry) (id : Uuid) (past : List (Event (expenses config)))
    (load commit : Event (expenses config)) (loaded current : ExpenseEntity)
    (write : GuardedWrite) : Prop where
  order : ∃ after earlier, past = after ++ commit :: earlier ∧ load ∈ earlier ∧ Quiet after ∧
    Quiet earlier
  loads : loadOf load = some (id, loaded)
  commits : commitOf commit = some (write, current)
  decided : Decides entry loaded write
  live : current.deletedAt = none
  status : current.status = loaded.status
  between : ∃ more, commit.before.audit = load.after.audit ++ more ∧
    current.editable = edited (auditOf id more) loaded.editable
  recorded : commit.after.audit = commit.before.audit ++ [write.audit]

def Applied (entry : Entry) (id : Uuid) (past : List (Event (expenses config))) : Prop :=
  ∃ load commit loaded current write, Applies entry id past load commit loaded current write

/-- What a request shows when it ends. -/
def Shown {β : Type} (entry : Entry) (result : Except Exception β)
    (past : List (Event (expenses config))) : Prop :=
  match result with
  | .ok _ => ∀ id, entry.target = some id → Applied entry id past
  | .error error => error = .fault ∨ Quiet past ∨
      (error = expenseNotFound ∧ ∃ id, entry.target = some id ∧ Applied entry id past)

def discipline (config : Config) : Discipline (expenses config) where
  inv := Consistent
  rely := Later
  guar _ _ event := Wrote event.before event.after
  post entry result past := Shown entry result past

variable {β γ : Type} {post : Discipline.Post (expenses config) β} {query : Call}
  {before after : World} {answer : Except Exception (interface.Answer query)}

/-! ## Calls that only read -/

def Call.reads : Call → Prop
  | .findOne _ | .existsBy _ | .isActiveBondForMember _ _ | .findActiveMemberIds _
  | .findMemberNames _ | .findActiveById _ | .now => True
  | _ => False

/-- A read leaves the world as it is, and if it fails then by a fault. -/
theorem answered_of_reads (reads : query.reads)
    (answers : Answers (expenses config) query before answer after) :
    after = before ∧ ∀ error, answer = .error error → error = .fault := by
  rcases answers.elim with ⟨rfl, rfl⟩ | ⟨failure, may, rfl, rfl⟩
  · cases query <;> first | exact ⟨rfl, nofun⟩ | cases reads
  · refine ⟨rfl, fun error same => ?_⟩
    cases same
    cases query <;> cases may <;> rfl

/-- Calls that never write anything that is counted as written. -/
def Call.idle : Call → Prop
  | .insertWithManager _ | .updateGuarded _ | .commitStale _ _ => False
  | _ => True

theorem not_effective_of_idle (idle : event.query.idle) : ¬Effective event := by
  obtain ⟨before, query, answer, after⟩ := event
  cases query <;> first | exact not_false | exact idle.elim

theorem not_effective_of_reads (reads : event.query.reads) : ¬Effective event := by
  refine not_effective_of_idle ?_
  cases asked : event.query <;> rw [asked] at reads <;> trivial

theorem quiet_nil : Quiet ([] : List (Event (expenses config))) := fun _ member => by cases member

theorem wrote_same (world : World) : Wrote world world := .nothing rfl rfl fun _ => rfl

/-- Only reads were added to the past. -/
def Onward (past later : List (Event (expenses config))) : Prop :=
  ∃ added, (∀ event ∈ added, event.query.reads) ∧ later = added ++ past

theorem Onward.refl (past : List (Event (expenses config))) : Onward past past :=
  ⟨[], by simp, rfl⟩

theorem Onward.cons (onward : Onward past later) (reads : event.query.reads) :
    Onward past (event :: later) := by
  obtain ⟨added, only, rfl⟩ := onward
  refine ⟨event :: added, fun seen member => ?_, rfl⟩
  rcases List.mem_cons.mp member with rfl | old
  · exact reads
  · exact only seen old

theorem Onward.trans {last : List (Event (expenses config))} (first : Onward past later)
    (second : Onward later last) : Onward past last := by
  obtain ⟨added, only, rfl⟩ := first
  obtain ⟨further, also, rfl⟩ := second
  refine ⟨further ++ added, fun seen member => ?_, by rw [List.append_assoc]⟩
  rcases List.mem_append.mp member with new | old
  · exact also seen new
  · exact only seen old

theorem Onward.mem (onward : Onward past later) (member : event ∈ past) : event ∈ later := by
  obtain ⟨added, -, rfl⟩ := onward
  exact List.mem_append_right _ member

theorem quiet_added {added : List (Event (expenses config))}
    (only : ∀ event ∈ added, event.query.reads) : Quiet added :=
  fun event member => not_effective_of_reads (only event member)

theorem Onward.quiet (onward : Onward past later) (quiet : Quiet past) : Quiet later := by
  obtain ⟨added, only, rfl⟩ := onward
  intro event member
  rcases List.mem_append.mp member with new | old
  · exact quiet_added only event new
  · exact quiet event old

/-- What was applied stays so while the request reads on. -/
theorem Applied.onward (applied : Applied entry id past) (onward : Onward past later) :
    Applied entry id later := by
  obtain ⟨load, commit, loaded, current, write, applies⟩ := applied
  obtain ⟨added, only, rfl⟩ := onward
  obtain ⟨after, earlier, rfl, there, quiet, calm⟩ := applies.order
  refine ⟨load, commit, loaded, current, write, { applies with order := ?_ }⟩
  refine ⟨added ++ after, earlier, by rw [List.append_assoc], there, fun event member => ?_, calm⟩
  rcases List.mem_append.mp member with new | old
  · exact quiet_added only event new
  · exact quiet event old

/-- A read among other reads, and what is owed after it. -/
theorem keeps_read {base : List (Event (expenses config))}
    {rest : interface.Answer query → Request β} (onward : Onward base past) (reads : query.reads)
    (more : ∀ world value, Onward base (⟨world, query, .ok value, world⟩ :: past) →
      (discipline config).Keeps entry post (rest value) (⟨world, query, .ok value, world⟩ :: past))
    (fails : ∀ later, Onward base later → post (.error .fault) later) :
    (discipline config).Keeps entry post ((perform query).bind rest) past := by
  refine Discipline.Keeps.perform_bind fun before answer after behind held answers _ => ?_
  obtain ⟨rfl, faults⟩ := answered_of_reads reads answers
  refine ⟨wrote_same _, held, ?_⟩
  cases answer with
  | ok value => exact more after value (onward.cons reads)
  | error error =>
    obtain rfl := faults error rfl
    exact fails _ (onward.cons reads)

/-- A handler that only reads adds only reads to its past. -/
theorem keeps_of_reads {handler : Request β} (calls : handler.Calls Call.reads)
    (ends : ∀ result later, Onward past later → post result later) :
    (discipline config).Keeps entry post handler past := by
  refine .of_calls calls (fun query reads past before answer after held answers _ => ?_)
    fun result added only => ends result _ ⟨added, only, rfl⟩
  obtain ⟨rfl, -⟩ := answered_of_reads reads answers
  exact ⟨wrote_same _, held⟩

/-! ## Loading -/

theorem loads_seen (genuine : event.Genuine) (loads : loadOf event = some (id, loaded)) :
    event.after.expenses.get id = some loaded ∧ loaded.deletedAt = none := by
  rcases genuine.elim with ⟨query, world, rfl⟩ | ⟨query, error, world, -, rfl⟩
  · cases query <;> try cases loads
    rename_i sought
    cases answered : (world.expenses.get sought).filter (·.deletedAt = none) with
    | none => simp [served, serve, loadOf, answered] at loads
    | some found =>
      simp only [served, serve, loadOf, answered, Option.map_some, Option.some.injEq,
        Prod.mk.injEq] at loads
      obtain ⟨rfl, rfl⟩ := loads
      have read : world.expenses.get sought = some found ∧ found.deletedAt = none := by
        simpa [Option.filter_eq_some_iff] using answered
      exact read
  · cases query <;> cases loads

/-- The viewer has loaded the row, and the decision is the policy's on it. -/
structure Viewed (id viewerId : Uuid) (past : List (Event (expenses config)))
    (viewed : LoadedForViewer) (load : Event (expenses config)) : Prop where
  there : load ∈ past
  loads : loadOf load = some (id, viewed.loaded.expense)
  decided : ∃ memberIds, viewed.decision =
    evaluate ⟨viewed.loaded.expense.status, viewed.loaded.expense.requestedBy,
      selectCounterpartId memberIds viewed.loaded.expense.requestedBy⟩ viewerId

/-- Loading only reads; it fails with a fault, or because the expense does not
exist for the viewer. -/
theorem loadForViewer_keeps {post : Discipline.Post (expenses config) LoadedForViewer}
    (loads : ∀ viewed load later, Onward past later → Viewed id viewerId later viewed load →
      post (.ok viewed) later)
    (fails : ∀ error later, Onward past later → error = .fault ∨ error = expenseNotFound →
      post (.error error) later) :
    (discipline config).Keeps entry post (loadForViewer id viewerId) past := by
  have faults : ∀ later, Onward past later → post (.error .fault) later :=
    fun later onward => fails _ later onward (.inl rfl)
  unfold loadForViewer findAliveById counterpartOf
  simp only [Handler.bind_eq, Handler.pure_eq, Handler.throw_eq, Handler.bind_assoc]
  refine keeps_read (.refl past) trivial (fun world found onward => ?_) faults
  cases found with
  | none => exact fails _ _ onward (.inr rfl)
  | some row =>
    obtain ⟨row, category⟩ := row
    simp only [Handler.bind_assoc, Handler.ret_bind]
    refine keeps_read onward trivial (fun _ hasDocument onward => ?_) faults
    refine keeps_read onward trivial (fun _ isMember onward => ?_) faults
    cases isMember with
    | false => exact fails _ _ onward (.inr rfl)
    | true =>
      refine keeps_read onward trivial (fun _ memberIds onward => ?_) faults
      refine keeps_read onward trivial (fun _ names onward => ?_) faults
      exact loads _ ⟨world, .findOne id, .ok (some (row, category)), world⟩ _ onward
        ⟨by simp, rfl, memberIds, rfl⟩

/-! ## Committing -/

/-- What the guarded update does: it fails, it affects no row, or it writes over a
live row in the status expected. -/
theorem updateGuarded_cases (write : GuardedWrite) (world : World) :
    updateGuarded write world = (.error .fault, world) ∨
    updateGuarded write world = (.ok false, world) ∨
    ∃ row, world.expenses.get write.id = some row ∧ row.status = write.expectedStatus ∧
      row.deletedAt = none ∧ updateGuarded write world = (.ok true, write.commit row world) := by
  unfold updateGuarded
  by_cases locked : world.locks write.id
  · simp [locked]
  · cases found : (world.expenses.get write.id).filter (guarded write.expectedStatus) with
    | none => simp [locked]
    | some row =>
      obtain ⟨there, guard⟩ := Option.filter_eq_some_iff.mp found
      obtain ⟨status, live⟩ : row.status = write.expectedStatus ∧ row.deletedAt = none := by
        simpa [guarded] using guard
      by_cases violates : write.patch.violatesNotNull
      · simp [locked, violates]
      · exact .inr (.inr ⟨row, there, status, live, by simp [locked, violates]⟩)

/-- The write of a request that has loaded the row: it fails, or misses, or is
applied to the expense that was loaded. -/
theorem guardedUpdate_keeps {post : Discipline.Post (expenses config) Bool} (there : load ∈ past)
    (quiet : Quiet past) (loads : loadOf load = some (id, loaded)) (own : write.id = id)
    (expects : write.expectedStatus = loaded.status) (decided : Decides entry loaded write)
    (legit : ∀ row, row.id = id → row.requestedBy = loaded.requestedBy → Legit loaded row write)
    (applied : ∀ later, Applied entry id later → post (.ok true) later)
    (missed : ∀ later, Quiet later → post (.ok false) later)
    (fails : ∀ later, post (.error .fault) later) :
    (discipline config).Keeps entry post (guardedUpdate write) past := by
  have idle : ∀ event : Event (expenses config), ¬Effective event → Quiet (event :: past) := by
    intro event idle seen member
    rcases List.mem_cons.mp member with rfl | earlier
    · exact idle
    · exact quiet seen earlier
  refine Discipline.Keeps.perform fun before answer after behind held answers _ => ?_
  rcases answers.elim with ⟨rfl, rfl⟩ | ⟨error, may, rfl, rfl⟩
  · rcases updateGuarded_cases write before with failed | missing | ⟨row, found, status, live, written⟩
    · simp only [serve, failed]
      exact ⟨wrote_same before, held, fails _⟩
    · simp only [serve, missing]
      exact ⟨wrote_same before, held, missed _ (idle _ not_false)⟩
    · -- Whatever was written since the load, the row is the expense that was loaded.
      obtain ⟨genuine, more, grown, onward⟩ := behind load there
      obtain ⟨seen, alive⟩ := loads_seen genuine loads
      obtain ⟨current, present, same, columns⟩ := onward id loaded seen
      have key : row.id = id := (Table.key_of_get found).trans own
      rw [own] at found
      cases found.symm.trans present
      have entitled := legit row key same.requestedBy
      have unchanged : row.status = loaded.status := status.trans expects
      have moves := Moves.write before.clock same unchanged live entitled
      have wrote : Wrote before (write.commit row before) := by
        refine .moved (key ▸ found) moves rfl rfl ?_
        rw [entitled.announcement same]
        rfl
      simp only [serve, written]
      refine ⟨wrote, held.wrote wrote, applied _ ⟨load,
        ⟨before, .updateGuarded write, .ok true, write.commit row before⟩, loaded, row, write, ?_⟩⟩
      refine ⟨⟨[], past, rfl, there, quiet_nil, quiet⟩, loads, ?_, decided, live, unchanged,
        ⟨more, grown, columns⟩, rfl⟩
      simp [commitOf, own, found]
  · cases may
    exact ⟨wrote_same after, held, fails _⟩

/-! ## Requests -/

/-- Reading the expense again after a commit does not undo it. -/
theorem getDetail_keeps (target : entry.target = some id) (applied : Applied entry id past) :
    (discipline config).Keeps entry (Shown entry) (getDetail id viewerId) past := by
  have done : ∀ later, Onward past later → ∀ other, entry.target = some other →
      Applied entry other later := by
    intro later onward other same
    cases target.symm.trans same
    exact applied.onward onward
  refine .bind (loadForViewer_keeps (fun viewed load later onward _ => done later onward)
    fun error later onward cause => ?_)
  rcases cause with rfl | rfl
  · exact .inl rfl
  · exact .inr (.inr ⟨rfl, id, target, applied.onward onward⟩)

/-- A request that has loaded the row goes on to a write that the policy entitles
it to; what it answers with after that only reads. -/
theorem write_keeps {rest : Bool → Request β} {viewed : LoadedForViewer}
    (view : Viewed id viewerId past viewed load) (quiet : Quiet past)
    (own : write.id = id)
    (expects : write.expectedStatus = viewed.loaded.expense.status)
    (decided : Decides entry viewed.loaded.expense write)
    (legit : ∀ row, row.id = id → row.requestedBy = viewed.loaded.expense.requestedBy →
      Legit viewed.loaded.expense row write)
    (missed : rest false = .throw (conflictException CONFLICT))
    (answers : ∀ later, Applied entry id later →
      (discipline config).Keeps entry (Shown entry) (rest true) later) :
    (discipline config).Keeps entry (Shown entry) ((guardedUpdate write).bind rest) past := by
  refine .bind (guardedUpdate_keeps view.there quiet view.loads own expects decided legit
    (fun later applied => answers later applied) (fun later calm => ?_) fun later => .inl rfl)
  simp only [missed]
  exact .inr (.inl calm)

/-- What is refused before the write has written nothing. -/
theorem loaded_keeps {rest : LoadedForViewer → Request β} (quiet : Quiet past)
    (more : ∀ viewed load later, Quiet later → Viewed id viewerId later viewed load →
      (discipline config).Keeps entry (Shown entry) (rest viewed) later) :
    (discipline config).Keeps entry (Shown entry) ((loadForViewer id viewerId).bind rest) past := by
  refine .bind (loadForViewer_keeps
    (fun viewed load later onward view => more viewed load later (onward.quiet quiet) view)
    fun error later onward _ => .inr (.inl (onward.quiet quiet)))

theorem transition_keeps {params : TransitionParams} (quiet : Quiet past)
    (target : entry.target = some params.id)
    (decided : ∀ loaded, Decides entry loaded (transitionStatus params loaded))
    (legit : ∀ (loaded : ExpenseEntity) memberIds, params.allowed (evaluate ⟨loaded.status,
        loaded.requestedBy, selectCounterpartId memberIds loaded.requestedBy⟩ params.viewerId) →
      ∀ row, row.id = params.id → row.requestedBy = loaded.requestedBy →
        Legit loaded row (transitionStatus params loaded)) :
    (discipline config).Keeps entry (Shown entry) (transition params) past := by
  unfold transition
  simp only [Handler.bind_eq, Handler.throw_eq]
  refine loaded_keeps quiet fun viewed load later calm view => ?_
  cases allowed : params.allowed viewed.decision with
  | false => exact .inr (.inl calm)
  | true =>
    obtain ⟨memberIds, decision⟩ := view.decided
    rw [decision] at allowed
    exact write_keeps view calm rfl rfl (decided _) (legit _ memberIds allowed) rfl
      fun later applied => getDetail_keeps target applied

theorem approve_keeps (id viewerId : Uuid) :
    (discipline config).Keeps (.approve id viewerId) (Shown (.approve id viewerId))
      (approve id viewerId) [] := by
  unfold approve clockNow
  simp only [Handler.bind_eq]
  refine keeps_read (.refl []) trivial (fun world now onward => ?_) fun later _ => .inl rfl
  refine transition_keeps (onward.quiet quiet_nil) rfl (fun loaded => .approve id viewerId loaded now) ?_
  intro loaded memberIds allowed row own requester
  obtain ⟨counterpart, pending⟩ := canApprove_iff.mp allowed
  have apart : viewerId ≠ row.requestedBy := requester ▸ selectCounterpartId_ne counterpart
  obtain rfl : row.id = id := own
  exact .approve now pending apart

theorem reject_keeps (id viewerId : Uuid) (rawReason : Option String) :
    (discipline config).Keeps (.reject id viewerId rawReason)
      (Shown (.reject id viewerId rawReason)) (reject id viewerId rawReason) [] := by
  unfold reject
  refine transition_keeps quiet_nil rfl (fun loaded => .reject id viewerId rawReason loaded) ?_
  intro loaded memberIds allowed row own requester
  obtain ⟨counterpart, pending⟩ := canReject_iff.mp allowed
  have apart : viewerId ≠ row.requestedBy := requester ▸ selectCounterpartId_ne counterpart
  obtain rfl : row.id = id := own
  exact .reject rawReason pending apart

theorem pay_keeps (id viewerId : Uuid) :
    (discipline config).Keeps (.pay id viewerId) (Shown (.pay id viewerId)) (pay id viewerId) [] := by
  unfold pay clockNow
  simp only [Handler.bind_eq]
  refine keeps_read (.refl []) trivial (fun world now onward => ?_) fun later _ => .inl rfl
  refine transition_keeps (onward.quiet quiet_nil) rfl (fun loaded => .pay id viewerId loaded now) ?_
  intro loaded memberIds allowed row own requester
  obtain ⟨-, approved⟩ := canMarkPaid_iff.mp allowed
  obtain rfl : row.id = id := own
  exact .pay now approved

theorem cancel_keeps (id viewerId : Uuid) :
    (discipline config).Keeps (.cancel id viewerId) (Shown (.cancel id viewerId))
      (cancel id viewerId) [] := by
  unfold cancel clockNow
  simp only [Handler.bind_eq, Handler.pure_eq, Handler.throw_eq]
  refine loaded_keeps quiet_nil fun viewed load later calm view => ?_
  cases allowed : viewed.decision.canCancel with
  | false => exact .inr (.inl calm)
  | true =>
    obtain ⟨memberIds, decision⟩ := view.decided
    rw [decision] at allowed
    obtain ⟨requester, pending⟩ := canCancel_iff.mp allowed
    refine keeps_read (.refl later) trivial (fun world now onward => ?_) fun later _ => .inl rfl
    refine write_keeps ⟨onward.mem view.there, view.loads, _, decision⟩
      (onward.quiet calm) rfl rfl (.cancel id viewerId _ now) ?_ rfl fun later applied => ?_
    · intro row own same
      have owner := same.trans requester
      subst own owner
      exact .cancel now pending
    · intro other same
      cases same
      exact applied

theorem parseExpenseDate_reads (value : Option String) :
    (parseExpenseDate value).Calls Call.reads := by
  unfold parseExpenseDate
  split <;> trivial

theorem verifyCategoryActive_reads (categoryId : Option Uuid) :
    (verifyCategoryActive categoryId).Calls Call.reads := by
  refine .bind (Handler.calls_perform.mpr trivial) fun found => ?_
  cases found <;> trivial

theorem verifyPatch_reads (patch : ExpenseEditableFields) :
    (verifyPatch patch).Calls Call.reads := by
  have date : ∀ value, (verifyDate value).Calls Call.reads := by
    intro value
    cases value with
    | none => trivial
    | some expenseDate => exact parseExpenseDate_reads expenseDate
  unfold verifyPatch
  cases patch.categoryId with
  | none => exact date patch.expenseDate
  | some categoryId => exact .bind (verifyCategoryActive_reads categoryId) fun _ => date _

theorem assertBondMember_reads (bondId viewerId : Uuid) :
    (assertBondMember bondId viewerId).Calls Call.reads := by
  refine .bind (Handler.calls_perform.mpr trivial) fun isMember => ?_
  split <;> trivial

theorem loadForViewer_reads (id viewerId : Uuid) :
    (loadForViewer id viewerId).Calls Call.reads := by
  have asked : ∀ query, query.reads → (perform query).Calls Call.reads :=
    fun query reads => Handler.calls_perform.mpr reads
  refine .bind (.bind (asked _ trivial) fun found => ?_) fun loaded => ?_
  · cases found with
    | none => trivial
    | some row => exact .bind (asked _ trivial) fun _ => trivial
  · cases loaded with
    | none => trivial
    | some loaded =>
      refine .bind (asked _ trivial) fun isMember => ?_
      cases isMember with
      | false => trivial
      | true =>
        refine .bind (.bind (asked _ trivial) fun _ => trivial) fun counterpartId => ?_
        exact .bind (asked _ trivial) fun _ => trivial

theorem getDetail_reads (id viewerId : Uuid) : (getDetail id viewerId).Calls Call.reads :=
  .bind (loadForViewer_reads id viewerId) fun _ => trivial

/-- A step that only reads, before the write. -/
theorem checked_keeps {first : Request γ} {rest : γ → Request β} (quiet : Quiet past)
    (calls : first.Calls Call.reads)
    (more : ∀ value later, Onward past later → Quiet later →
      (discipline config).Keeps entry (Shown entry) (rest value) later) :
    (discipline config).Keeps entry (Shown entry) (first.bind rest) past := by
  refine .bind (keeps_of_reads calls fun result later onward => ?_)
  cases result with
  | error error => exact .inr (.inl (onward.quiet quiet))
  | ok value => exact more value later onward (onward.quiet quiet)

theorem update_keeps (id : Uuid) (dto : UpdateExpenseDto) (viewerId : Uuid) :
    (discipline config).Keeps (.update id dto viewerId) (Shown (.update id dto viewerId))
      (update id dto viewerId) [] := by
  unfold update
  simp only [Handler.bind_eq, Handler.throw_eq]
  refine loaded_keeps quiet_nil fun viewed load later calm view => ?_
  cases allowed : viewed.decision.canEdit with
  | false => exact .inr (.inl calm)
  | true =>
    obtain ⟨memberIds, decision⟩ := view.decided
    rw [decision] at allowed
    obtain ⟨requester, pending⟩ := canEdit_iff.mp allowed
    by_cases empty : buildPatch dto = {}
    · simp only [empty]
      exact .inr (.inl calm)
    · simp only [Bool.not_true, Bool.false_eq_true, if_false, if_neg empty]
      refine checked_keeps calm (verifyPatch_reads _) fun _ verified onward calm => ?_
      refine write_keeps ⟨onward.mem view.there, view.loads, _, decision⟩ calm rfl rfl
        (.update id dto viewerId _) ?_ rfl fun later applied => getDetail_keeps rfl applied
      intro row own same
      have owner := same.trans requester
      subst own owner
      exact .edit _ pending

/-- The creation: the row, its entry and its event, or nothing. -/
theorem insertWithManager_cases (input : NewExpense) (world : World) :
    insertWithManager input world = (.error .fault, world) ∨
    ∃ table, world.expenses.insert (input.saved world.freshId world.clock) = some table ∧
      insertWithManager input world = (.ok (input.saved world.freshId world.clock), World.emit
        { world with
          expenses := table
          audit := world.audit ++ [input.audit world.freshId] } [input.event world.freshId]) := by
  unfold insertWithManager
  cases accepted : world.expenses.insert (input.saved world.freshId world.clock) with
  | none => exact .inl rfl
  | some table => exact .inr ⟨table, rfl, rfl⟩

theorem saveExpense_keeps (input : NewExpense) {post : Discipline.Post (expenses config) ExpenseEntity}
    (saved : ∀ row later, post (.ok row) later) (fails : ∀ later, post (.error .fault) later) :
    (discipline config).Keeps entry post (saveExpense input) past := by
  refine Discipline.Keeps.perform fun before answer after behind held answers _ => ?_
  rcases answers.elim with ⟨rfl, rfl⟩ | ⟨error, may, rfl, rfl⟩
  · rcases insertWithManager_cases input before with failed | ⟨table, accepted, written⟩
    · simp only [serve, failed]
      exact ⟨wrote_same before, held, fails _⟩
    · have opens := Opens.create input before.freshId before.clock
      have wrote : Wrote before (World.emit
          { before with
            expenses := table
            audit := before.audit ++ [input.audit before.freshId] } [input.event before.freshId]) :=
        .opened accepted opens rfl rfl
      simp only [serve, written]
      exact ⟨wrote, held.wrote wrote, saved _ _⟩
  · cases may
    exact ⟨wrote_same after, held, fails _⟩

theorem create_keeps (bondId : Uuid) (dto : CreateExpenseDto) (viewerId : Uuid) :
    (discipline config).Keeps (.create bondId dto viewerId) (Shown (.create bondId dto viewerId))
      (create bondId dto viewerId) [] := by
  unfold create counterpartOf findActiveMemberIds findMemberNames
  simp only [Handler.bind_eq, Handler.pure_eq, Handler.bind_assoc, Handler.ret_bind]
  refine checked_keeps quiet_nil (assertBondMember_reads _ _) fun _ _ _ calm => ?_
  refine checked_keeps calm (verifyCategoryActive_reads _) fun category _ _ calm => ?_
  refine checked_keeps calm (parseExpenseDate_reads _) fun _ past _ calm => ?_
  refine .bind (saveExpense_keeps _ (fun saved later => ?_) fun _ => .inl rfl)
  -- Whatever comes after the commit only reads, and fails by faults alone.
  refine keeps_read (.refl _) trivial (fun _ memberIds onward => ?_) fun _ _ => .inl rfl
  refine keeps_read onward trivial (fun _ names onward => ?_) fun _ _ => .inl rfl
  exact nofun

/-! ## The reminder and retention -/

def Call.unrecorded : Call → Prop
  | .insertWithManager _ | .updateGuarded _ => False
  | _ => True

theorem unrecorded_of_idle (idle : query.idle) : query.unrecorded := by
  cases query <;> trivial

/-- The reminder and retention write nothing that is recorded of an expense. -/
theorem wrote_unrecorded (unrecorded : query.unrecorded)
    (answers : Answers (expenses config) query before answer after) : Wrote before after := by
  rcases answers.elim with ⟨-, rfl⟩ | ⟨error, -, -, rfl⟩
  · cases query with
    | insertWithManager => cases unrecorded
    | updateGuarded => cases unrecorded
    | lockStale txn today id =>
      simp only [serve, lockStale]
      split
      · exact wrote_same before
      · split
        · exact wrote_same before
        · split
          · exact wrote_same before
          · exact .nothing rfl rfl fun _ => rfl
    | commitStale txn staleExpenses =>
      simp only [serve, commitStale]
      split
      · exact wrote_same before
      · exact .nothing rfl rfl fun id => announced_stale staleExpenses
    | _ => exact .nothing rfl rfl fun _ => rfl
  · exact wrote_same after

theorem keeps_unrecorded {handler : Request β} (calls : handler.Calls Call.unrecorded)
    (ends : ∀ result added, (∀ event ∈ added, event.query.unrecorded) → post result (added ++ past)) :
    (discipline config).Keeps entry post handler past := by
  refine .of_calls calls (fun query unrecorded past before answer after held answers _ => ?_) ends
  have wrote := wrote_unrecorded unrecorded answers
  exact ⟨wrote, held.wrote wrote⟩

theorem lockAll_unrecorded (txn : ℕ) (today : ℤ) (candidates : List StaleExpense) :
    (lockAll txn today candidates).Calls Call.unrecorded := by
  induction candidates with
  | nil => trivial
  | cons candidate rest ih =>
    refine .bind (Handler.calls_perform.mpr trivial) fun locked => ?_
    exact .bind ih fun _ => trivial

theorem emitStaleEvents_unrecorded : emitStaleEvents.Calls Call.unrecorded := by
  refine .bind (Handler.calls_perform.mpr trivial) fun ⟨txn, today⟩ => ?_
  refine .tryCatch (.bind (Handler.calls_perform.mpr trivial) fun candidates => ?_) fun error =>
    .bind (Handler.calls_perform.mpr trivial) fun _ => trivial
  refine .bind (lockAll_unrecorded txn today candidates) fun staleExpenses => ?_
  exact .bind (Handler.calls_perform.mpr trivial) fun _ => trivial

theorem processStaleReminder_keeps :
    (discipline config).Keeps .staleReminder (Shown .staleReminder) processStaleReminder [] := by
  have scan : (emitStaleEvents.bind fun _ => .ret () : Request Unit).Calls Call.unrecorded :=
    emitStaleEvents_unrecorded.bind fun _ => trivial
  refine .tryCatch (keeps_unrecorded scan fun result added _ => ?_)
  cases result <;> exact nofun

theorem retention_idle : (retention config).Calls Call.idle := by
  refine .bind (Handler.calls_perform.mpr trivial) fun now => ?_
  refine .bind (Handler.calls_perform.mpr trivial) fun purgedAttempts => ?_
  exact .bind (Handler.calls_perform.mpr trivial) fun purgedOutbox => trivial

theorem retention_keeps :
    (discipline config).Keeps .retention (Shown .retention) (retention config) [] := by
  refine .of_calls retention_idle (fun query idle past before answer after held answers _ => ?_)
    fun result added only => ?_
  · have wrote := wrote_unrecorded (unrecorded_of_idle idle) answers
    exact ⟨wrote, held.wrote wrote⟩
  · cases result with
    | ok value => exact nofun
    | error error =>
      refine .inr (.inl fun event member => ?_)
      rw [List.append_nil] at member
      exact not_effective_of_idle (only event member)

/-! ## Every request -/

/-- What is answered does not matter once a request has gone through. -/
theorem answered {first : Request γ} {answer : γ → β}
    (kept : (discipline config).Keeps entry (Shown entry) first past) :
    (discipline config).Keeps entry (Shown entry) (first.bind fun value => .ret (answer value))
      past := by
  refine .bind (kept.mono fun result later shown => ?_)
  cases result with
  | ok value => exact shown
  | error error => exact shown

theorem handler_keeps (entry : Entry) :
    (discipline config).Keeps entry (Shown entry) (handler config entry) [] := by
  cases entry <;> simp only [handler, Handler.bind_eq, Handler.pure_eq]
  case create bondId dto viewerId => exact answered (create_keeps bondId dto viewerId)
  case getDetail id viewerId =>
    refine answered (.bind (loadForViewer_keeps (fun _ _ _ _ _ => nofun)
      fun error later onward cause => ?_))
    exact .inr (.inl (onward.quiet quiet_nil))
  case update id dto viewerId => exact answered (update_keeps id dto viewerId)
  case cancel id viewerId => exact cancel_keeps id viewerId
  case approve id viewerId => exact answered (approve_keeps id viewerId)
  case reject id viewerId rawReason => exact answered (reject_keeps id viewerId rawReason)
  case pay id viewerId => exact answered (pay_keeps id viewerId)
  case staleReminder => exact answered processStaleReminder_keeps
  case retention => exact answered retention_keeps

/-- Every request keeps the discipline, so every run does. -/
theorem discipline_sound (config : Config) : (discipline config).Sound where
  refl := .refl
  trans := .trans
  start := consistent_start
  nudge how world held :=
    ⟨held.wrote (nudge_wrote how world), (nudge_wrote how world).later⟩
  guar_rely _ wrote := wrote.later
  handlers := handler_keeps

end ParentalCoord.Expenses

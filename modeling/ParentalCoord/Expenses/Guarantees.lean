import ParentalCoord.Expenses.Discipline

/-!
What holds of the expenses in every run.

A success is applied to the status that was loaded and to the columns as the
recorded edits have left them; it is not applied to the columns that were loaded.
The life of an expense follows its audit, and a refusal writes nothing, unless it
comes from reading the expense again after the commit.
-/

namespace ParentalCoord.Expenses

open Interleaving Store

variable {config : Config} {cfg : Interleaving.Config (expenses config)} {id : Uuid}
  {row : ExpenseEntity} {thread : Thread (expenses config)}

theorem consistent_of_reachable (reachable : Reachable (expenses config) cfg) :
    Consistent cfg.world :=
  (reachable.disciplined (discipline_sound config)
    (Discipline.supplies_of_assumes fun _ _ _ => trivial)).1

/-- A request that has ended shows for it. -/
theorem shown_of_reachable (reachable : Reachable (expenses config) cfg)
    (member : thread ∈ cfg.threads) :
    (∀ reply, thread.rest = .ret reply → Shown thread.entry (.ok reply) thread.past) ∧
      ∀ error, thread.rest = .throw error →
        Shown thread.entry (.error error : Except Exception Reply) thread.past :=
  reachable.ended (discipline_sound config)
    (Discipline.supplies_of_assumes fun _ _ _ => trivial) member

/-! ## Successes -/

/-- In every run, every request that reports success was applied to a live row in
the status it had loaded.  Between the load and the commit the editable columns
have changed by the updates recorded in between, in their order, and by nothing
else; an update records as the old value what it had itself loaded. -/
theorem success_applies (reachable : Reachable (expenses config) cfg)
    (member : thread ∈ cfg.threads) {reply : Reply} (ended : thread.rest = .ret reply)
    (target : thread.entry.target = some id) :
    ∃ load commit loaded current write,
      Applies thread.entry id thread.past load commit loaded current write ∧
      (∃ between, commit.before.audit = load.after.audit ++ between ∧
        current.editable = edited (auditOf id between) loaded.editable ∧
        ((∀ entry ∈ auditOf id between, entry.action ≠ .update) →
          current.editable = loaded.editable)) ∧
      ∀ dto viewerId, thread.entry = .update id dto viewerId →
        commit.after.audit = commit.before.audit ++ [write.audit] ∧ write.audit.action = .update ∧
          write.audit.oldValue =
            some (.fields loaded.concept loaded.amount loaded.categoryId loaded.expenseDate) := by
  obtain ⟨load, commit, loaded, current, write, applies⟩ :=
    (shown_of_reachable reachable member).1 reply ended id target
  obtain ⟨between, grown, columns⟩ := applies.between
  refine ⟨load, commit, loaded, current, write, applies, ⟨between, grown, columns, ?_⟩, ?_⟩
  · intro calm
    rw [columns, edited_of_no_update calm]
  · intro dto viewerId same
    have decided := applies.decided
    rw [same] at decided
    cases decided
    exact ⟨applies.recorded, rfl, rfl⟩

/-- Every row that a thread has loaded before a commit of its own had the editable
columns of the row that the commit was made on. -/
def AppliedAsLoaded (thread : Thread (expenses config)) : Prop :=
  ∀ (i j : ℕ) (commit load : Event (expenses config)) (id : Uuid) (loaded current : ExpenseEntity)
    (write : GuardedWrite), i < j → thread.past[i]? = some commit → thread.past[j]? = some load →
    loadOf load = some (id, loaded) → commitOf commit = some (write, current) →
    current.editable = loaded.editable

def defaults : Config := ⟨none⟩

/-- A bond of two members, who may use any category. -/
def openDirectory : Directory where
  isActiveBondForMember _ _ := true
  findActiveMemberIds _ := ["u1", "u2"]
  findMemberNames _ := [("u1", "Ana"), ("u2", "Luis")]
  findActiveById id := id.map fun id => ⟨id, "Salud"⟩
  category id := some ⟨id, "Salud"⟩

def consulta : CreateExpenseDto where
  concept := "Consulta"
  description := none
  amount := 10000
  categoryId := "c1"
  expenseDate := "1970-01-01"
  splitRatioPayer := none

def turns (index count : ℕ) : List (Move (expenses defaults)) := List.replicate count (.turn index)

/-- `u1` asks for an expense of 100. -/
def creation : List (Move (expenses defaults)) :=
  [.nudge (.directory openDirectory), .nudge (.generate "e1"), .arrive (.create "b1" consulta "u1")] ++
    turns 0 5

/-- `u1` changes the amount to 900. -/
def raise (index : ℕ) : List (Move (expenses defaults)) :=
  .arrive (.update "e1" { amount := some (some 90000) } "u1") :: turns index 6

/-- `u2` has loaded the expense in order to approve it when `u1` raises it; then
the approval commits. -/
def raised : List (Move (expenses defaults)) :=
  creation ++ .arrive (.approve "e1" "u2") :: turns 1 6 ++ raise 2 ++ turns 2 5 ++ turns 1 6

def approved (thread : Thread (expenses defaults)) : Bool :=
  match thread.entry, thread.rest with
  | .approve "e1" "u2", .ret _ => true
  | _, _ => false

theorem success_applies_raised : ∃ cfg : Interleaving.Config (expenses defaults),
    Reachable (expenses defaults) cfg ∧ ∃ thread ∈ cfg.threads, ∃ (load commit : Event (expenses defaults))
    (loaded current : ExpenseEntity) (write : GuardedWrite), thread.entry = .approve "e1" "u2" ∧
      Applies thread.entry "e1" thread.past load commit loaded current write := by
  obtain ⟨cfg, run, shown⟩ := exists_played (fun _ _ => True) raised
    (fun cfg => cfg.threads.any approved) (by decide +kernel)
  obtain ⟨thread, member, shown⟩ := List.any_eq_true.mp shown
  unfold approved at shown
  split at shown
  · rename_i entry ended
    have target : thread.entry.target = some "e1" := by
      rw [entry]
      rfl
    obtain ⟨load, commit, loaded, current, write, applies, -⟩ :=
      success_applies run member ended target
    exact ⟨cfg, run, thread, member, load, commit, loaded, current, write, entry, applies⟩
  · cases shown

/-- An approval that has returned: what it committed on was 900, and what it had loaded 100. -/
def approvedAfterRaise (thread : Thread (expenses defaults)) : Bool :=
  match thread.rest with
  | .ret _ => match (thread.past[5]?).bind commitOf, (thread.past[10]?).bind loadOf with
    | some (_, current), some (_, loaded) =>
        current.status = .pending && current.amount = 90000 && loaded.amount = 10000
    | _, _ => false
  | _ => false

/-- The approval of an expense of 100 that was loaded commits on a row of 900. -/
theorem success_not_as_loaded : ¬∀ (cfg : Interleaving.Config (expenses defaults))
    (thread : Thread (expenses defaults)) (reply : Reply), Reachable (expenses defaults) cfg →
    thread ∈ cfg.threads → thread.rest = .ret reply → AppliedAsLoaded thread := by
  intro always
  obtain ⟨cfg, run, shown⟩ := exists_played (fun _ _ => True) raised
    (fun cfg => cfg.threads.any approvedAfterRaise) (by decide +kernel)
  obtain ⟨thread, member, shown⟩ := List.any_eq_true.mp shown
  unfold approvedAfterRaise at shown
  split at shown
  · rename_i reply ended
    split at shown
    · rename_i write current id loaded commits loads
      obtain ⟨commit, at_, commits⟩ := Option.bind_eq_some_iff.mp commits
      obtain ⟨load, there, loads⟩ := Option.bind_eq_some_iff.mp loads
      have same := always cfg thread reply run member ended 5 10 commit load id loaded current write
        (by decide) at_ there loads commits
      have amounts : current.amount = loaded.amount := congrArg Editable.amount same
      simp only [Bool.and_eq_true, decide_eq_true_eq] at shown
      rw [shown.1.2, shown.2] at amounts
      exact absurd amounts (by decide)
    · cases shown
  · cases shown

/-! ## The life of an expense -/

/-- The statuses that the audit tells, from the creation on. -/
def statusPath (log : List ExpenseAuditEntryInput) : List ExpenseStatus :=
  .pending :: (statusChanges log).map (·.2)

/-- An expense as its row, its audit entries and its events have to agree on it. -/
structure Lifecycle (world : World) (id : Uuid) (row : ExpenseEntity) : Prop where
  path : statusPath (auditOf id world.audit) <+: [.pending, .approved, .paid] ∨
    statusPath (auditOf id world.audit) <+: [.pending, .rejected]
  current : (statusPath (auditOf id world.audit)).getLast? = some row.status
  /-- Each change of status starts where the one before it ended. -/
  chained : (statusChanges (auditOf id world.audit)).map (·.1) =
    (statusPath (auditOf id world.audit)).dropLast
  columns : ColumnInvariant row
  /-- One event for the creation and one for each change of status, in order. -/
  events : announced id world.inserted = (auditOf id world.audit).filterMap announcement
  keys : (announced id world.inserted).map eventKey =
    (statusPath (auditOf id world.audit)).map statusKey
  versions : ((announced id world.inserted).map (·.aggregateVersion)).Pairwise (· < ·)

theorem Recorded.lifecycle {world : World} (recorded : Recorded world id)
    (found : world.expenses.get id = some row) : Lifecycle world id row := by
  have history := recorded.history row found
  have changes := history.statusChanges_eq
  constructor
  · simp only [statusPath, changes]
    cases row.status <;> decide
  · simp only [statusPath, changes]
    cases row.status <;> rfl
  · simp only [statusPath, changes]
    cases row.status <;> rfl
  · exact history.columns
  · exact recorded.events
  · rw [recorded.events, history.announced, statusPath, List.map_cons, List.map_map]
    rfl
  · rw [recorded.events]
    exact history.versions_increase

/-- A deleted expense is not touched again. -/
theorem Step.deleted {before after : World} (step : Step id before after)
    (found : before.expenses.get id = some row) (deleted : row.deletedAt ≠ none) :
    after.expenses.get id = some row ∧ auditOf id after.audit = auditOf id before.audit ∧
      announced id after.inserted = announced id before.inserted := by
  cases step with
  | same kept audit events => exact ⟨kept.trans found, audit, events⟩
  | opened absent present opens audit events => cases absent.symm.trans found
  | moved there present moves audit events =>
    cases there.symm.trans found
    obtain ⟨now, same, status, live, legit⟩ := moves
    exact absurd live deleted

/-- One move of a run has one effect on each expense, or none. -/
theorem step_of_reachable {cfg' : Interleaving.Config (expenses config)}
    {move : Move (expenses config)} (reachable : Reachable (expenses config) cfg)
    (moved : advance move cfg = some cfg') (id : Uuid) : Step id cfg.world cfg'.world := by
  have still : Step id cfg.world cfg.world := .same rfl rfl rfl
  rcases advance_cases moved with ⟨how, rfl, rfl⟩ | ⟨entry, rfl, rfl⟩ | ⟨index, rfl, rfl⟩ |
    ⟨index, thread, event, rest, at_, acts, rfl⟩
  · exact (nudge_wrote how cfg.world).step id
  · exact still
  · exact still
  · have wrote : Wrote event.before event.after :=
      reachable.guaranteed (discipline_sound config)
        (Discipline.supplies_of_assumes fun _ _ _ => trivial) trivial acts
    obtain ⟨-, query, next, answer, after, -, rfl, -, -⟩ := acts_cases acts
    exact wrote.step id

/-- Only effective events write what is recorded. -/
theorem unwritten_of_not_effective {event : Event (expenses config)} (genuine : event.Genuine)
    (idle : ¬Effective event) : Unwritten event.before event.after := by
  rcases genuine.elim with ⟨query, world, rfl⟩ | ⟨query, error, world, -, rfl⟩
  · cases query with
    | insertWithManager input =>
      rcases insertWithManager_cases input world with failed | ⟨table, accepted, written⟩
      · simp only [served, serve, failed]
        exact ⟨rfl, rfl, rfl⟩
      · simp [Effective, served, serve, written] at idle
    | updateGuarded write =>
      rcases updateGuarded_cases write world with failed | missing | ⟨row, -, -, -, written⟩
      · simp only [served, serve, failed]
        exact ⟨rfl, rfl, rfl⟩
      · simp only [served, serve, missing]
        exact ⟨rfl, rfl, rfl⟩
      · simp [Effective, served, serve, written] at idle
    | lockStale txn today id =>
      simp only [served, serve, lockStale]
      split
      · exact ⟨rfl, rfl, rfl⟩
      · split
        · exact ⟨rfl, rfl, rfl⟩
        · split <;> exact ⟨rfl, rfl, rfl⟩
    | commitStale txn staleExpenses =>
      by_cases closed : world.scans.all (·.txn ≠ txn)
      · simp only [served, serve, commitStale, if_pos closed]
        exact ⟨rfl, rfl, rfl⟩
      · simp only [served, serve, commitStale, if_neg closed] at idle
        exact absurd trivial idle
    | _ => exact ⟨rfl, rfl, rfl⟩
  · exact ⟨rfl, rfl, rfl⟩

/-- In every run: the row, the audit and the events of each expense tell one life
cycle; each move takes an expense one step along it or leaves it alone, and a
deleted one is left alone; and a refused request has written nothing, unless the
refusal is the 404 of the reading that follows the commit of a write. -/
theorem expense_lifecycle (reachable : Reachable (expenses config) cfg) :
    (∀ id row, cfg.world.expenses.get id = some row → Lifecycle cfg.world id row) ∧
    (∀ move cfg', advance move cfg = some cfg' → ∀ id, Step id cfg.world cfg'.world ∧
      ∀ row, cfg.world.expenses.get id = some row → row.deletedAt ≠ none →
        cfg'.world.expenses.get id = some row ∧
          auditOf id cfg'.world.audit = auditOf id cfg.world.audit ∧
          announced id cfg'.world.inserted = announced id cfg.world.inserted) ∧
    ∀ thread ∈ cfg.threads, ∀ error, thread.rest = .throw error → error ≠ .fault →
      (∀ event ∈ thread.past, Unwritten event.before event.after) ∨
      (error = expenseNotFound ∧
        ∃ id, thread.entry.target = some id ∧ Applied thread.entry id thread.past) := by
  refine ⟨fun id row found => (consistent_of_reachable reachable id).lifecycle found, ?_, ?_⟩
  · intro move cfg' moved id
    have step := step_of_reachable reachable moved id
    exact ⟨step, fun row found deleted => step.deleted found deleted⟩
  · intro thread member error ended refused
    have held := (reachable.disciplined (discipline_sound config)
      (Discipline.supplies_of_assumes fun _ _ _ => trivial)).2 thread member
    rcases (shown_of_reachable reachable member).2 error ended with fault | quiet | reread
    · exact absurd fault refused
    · exact .inl fun event there =>
        unwritten_of_not_effective (held.behind event there).1 (quiet event there)
    · exact .inr reread

/-- `u1` changes the expense and then cancels it, before the first request has read
it again. -/
def withdrawn : List (Move (expenses defaults)) :=
  creation ++ raise 1 ++ .arrive (.cancel "e1" "u1") :: turns 2 7 ++ turns 1 1

theorem expense_lifecycle_withdrawn : ∃ cfg : Interleaving.Config (expenses defaults),
    Reachable (expenses defaults) cfg ∧ ∃ row, cfg.world.expenses.get "e1" = some row ∧
      row.deletedAt ≠ none ∧ Lifecycle cfg.world "e1" row := by
  obtain ⟨cfg, run, shown⟩ := exists_played (fun _ _ => True) withdrawn
    (fun cfg => (cfg.world.expenses.get "e1").any (·.deletedAt.isSome)) (by decide +kernel)
  obtain ⟨row, found, deleted⟩ := (Option.any_eq_true _ _).mp shown
  exact ⟨cfg, run, row, found, Option.isSome_iff_ne_none.mp deleted,
    (expense_lifecycle run).1 "e1" row found⟩

def missedAfterWrite (thread : Thread (expenses defaults)) : Bool :=
  match thread.rest with
  | .throw (.http 404 _ _ _) =>
      thread.past.any fun event => event.before.audit.length < event.after.audit.length
  | _ => false

/-- The update is refused with a 404, and has been written. -/
theorem refused_after_commit : ¬∀ (cfg : Interleaving.Config (expenses defaults))
    (thread : Thread (expenses defaults)) (status : ℕ) (code : Option String) (message : String)
    (details : Option Json), Reachable (expenses defaults) cfg → thread ∈ cfg.threads →
    thread.rest = .throw (.http status code message details) → status ∈ [403, 404, 409] →
    ∀ event ∈ thread.past, Unwritten event.before event.after := by
  intro never
  obtain ⟨cfg, run, shown⟩ := exists_played (fun _ _ => True) withdrawn
    (fun cfg => cfg.threads.any missedAfterWrite) (by decide +kernel)
  obtain ⟨thread, member, shown⟩ := List.any_eq_true.mp shown
  unfold missedAfterWrite at shown
  split at shown
  · rename_i code message details refused
    obtain ⟨event, there, grown⟩ := List.any_eq_true.mp shown
    have unwritten := never cfg thread 404 code message details run member refused (by decide)
      event there
    have more : event.before.audit.length < event.after.audit.length := by simpa using grown
    rw [unwritten.2.1] at more
    exact absurd more (Nat.lt_irrefl _)
  · cases shown

end ParentalCoord.Expenses

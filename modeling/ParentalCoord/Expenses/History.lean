import ParentalCoord.Expenses.Service
import ParentalCoord.Store.Journal

/-!
The life of one expense, as its audit entries tell it.

`Legit` says which transactions a request may commit on a row: who made it was
entitled to it, and the row it was decided on was the same expense in the same
status, whatever its other columns.  An audit log is a history of a row when the
row is what the entries lead to; the statuses, the columns and the events of an
expense are all determined by it.
-/

namespace ParentalCoord.Expenses

open Store

/-- Two states of one expense: what no request changes is the same. -/
structure SameExpense (first second : ExpenseEntity) : Prop where
  id : second.id = first.id
  bondId : second.bondId = first.bondId
  requestedBy : second.requestedBy = first.requestedBy

/-- The transactions that a request, decided on the row as it had loaded it, may
commit on the row as it is. -/
inductive Legit (loaded row : ExpenseEntity) : GuardedWrite → Prop where
  | edit (patch : ExpenseEditableFields) :
      loaded.status = .pending → Legit loaded row (editFields row.id row.requestedBy loaded patch)
  | cancel (now : Instant) :
      loaded.status = .pending → Legit loaded row (markDeleted row.id row.requestedBy loaded now)
  | approve {viewerId : Uuid} (now : Instant) :
      loaded.status = .pending → viewerId ≠ row.requestedBy →
      Legit loaded row (transitionStatus (approveParams row.id viewerId now) loaded)
  | reject {viewerId : Uuid} (rawReason : Option String) :
      loaded.status = .pending → viewerId ≠ row.requestedBy →
      Legit loaded row (transitionStatus (rejectParams row.id viewerId rawReason) loaded)
  | pay {viewerId : Uuid} (now : Instant) :
      loaded.status = .approved →
      Legit loaded row (transitionStatus (payParams row.id viewerId now) loaded)

/-- The entry of a creation, and the row it leaves. -/
inductive Opens : ExpenseAuditEntryInput → ExpenseEntity → Prop where
  | create (input : NewExpense) (id : Uuid) (now : Instant) :
      Opens (input.audit id) (input.saved id now)

/-- The entry of a later write, the row it was made over and the row it leaves. -/
inductive Moves : ExpenseAuditEntryInput → ExpenseEntity → ExpenseEntity → Prop where
  | write {loaded row : ExpenseEntity} {write : GuardedWrite} (now : Instant) :
      SameExpense loaded row → row.status = loaded.status → row.deletedAt = none →
      Legit loaded row write → Moves write.audit row (write.patch.onto row now)

abbrev History := Replays Opens Moves

variable {entry : ExpenseAuditEntryInput} {log : List ExpenseAuditEntryInput}
  {loaded row row' : ExpenseEntity} {write : GuardedWrite} {patch : ExpensePatch} {now : Instant}

/-! ## What an update leaves alone -/

@[simp] theorem onto_id : (patch.onto row now).id = row.id := rfl

@[simp] theorem onto_bondId : (patch.onto row now).bondId = row.bondId := rfl

@[simp] theorem onto_requestedBy : (patch.onto row now).requestedBy = row.requestedBy := rfl

@[simp] theorem onto_status : (patch.onto row now).status = patch.status.getD row.status := rfl

@[simp] theorem onto_editable :
    (patch.onto row now).editable = patch.toExpenseEditableFields.apply row.editable := rfl

@[simp] theorem apply_nothing (columns : Editable) :
    ({} : ExpenseEditableFields).apply columns = columns := rfl

theorem SameExpense.refl (row : ExpenseEntity) : SameExpense row row := ⟨rfl, rfl, rfl⟩

theorem SameExpense.trans {first second third : ExpenseEntity} (earlier : SameExpense first second)
    (later : SameExpense second third) : SameExpense first third :=
  ⟨later.id.trans earlier.id, later.bondId.trans earlier.bondId,
    later.requestedBy.trans earlier.requestedBy⟩

theorem same_onto (row : ExpenseEntity) : SameExpense row (patch.onto row now) := ⟨rfl, rfl, rfl⟩

theorem Moves.same (moves : Moves entry row row') : SameExpense row row' := by
  cases moves
  exact same_onto _

theorem Moves.entry_id (moves : Moves entry row row') : entry.expenseId = row.id := by
  obtain ⟨now, same, status, live, legit⟩ := moves
  cases legit <;> rfl

theorem Opens.entry_id (opens : Opens entry row) : entry.expenseId = row.id := by
  cases opens
  rfl

/-! ## What the entries say -/

/-- The statuses of a change of status; the other entries carry none. -/
def statusChange (entry : ExpenseAuditEntryInput) : Option (ExpenseStatus × ExpenseStatus) :=
  match entry.oldValue, entry.newValue with
  | some (.status from_), some (.status to_) => some (from_, to_)
  | _, _ => none

def statusChanges (log : List ExpenseAuditEntryInput) : List (ExpenseStatus × ExpenseStatus) :=
  log.filterMap statusChange

@[simp] theorem statusChanges_append (log more : List ExpenseAuditEntryInput) :
    statusChanges (log ++ more) = statusChanges log ++ statusChanges more := by
  simp [statusChanges]

/-- `expenses.service.ts::emitExpenseEvent`: the event that goes out with an entry. -/
def announcement (entry : ExpenseAuditEntryInput) : Option InsertOutboxEventInput :=
  if entry.action = .create then
    some (expenseEvent .created entry.expenseId entry.bondId .pending entry.userId)
  else (statusChange entry).bind fun change =>
    if next : change.2 ≠ .pending then
      some (expenseEvent (EXPENSE_STATUS_EVENT ⟨change.2, next⟩) entry.expenseId entry.bondId change.2
        entry.userId)
    else none

/-- What the edits that were recorded, in order, make of the editable columns. -/
def edited (log : List ExpenseAuditEntryInput) (columns : Editable) : Editable :=
  log.foldl (fun columns entry => match entry.action, entry.newValue with
    | .update, some (.patch patch) => patch.apply columns
    | _, _ => columns) columns

@[simp] theorem edited_append (log more : List ExpenseAuditEntryInput) (columns : Editable) :
    edited (log ++ more) columns = edited more (edited log columns) := by
  simp [edited]

/-- Without an edit the columns stay as they are. -/
theorem edited_of_no_update (calm : ∀ entry ∈ log, entry.action ≠ .update) (columns : Editable) :
    edited log columns = columns := by
  induction log with
  | nil => rfl
  | cons entry rest ih =>
    have first := calm entry List.mem_cons_self
    have onward := ih fun other member => calm other (List.mem_cons_of_mem _ member)
    rw [← List.singleton_append, edited_append]
    rw [show edited [entry] columns = columns by
      cases action : entry.action <;> simp_all [edited]]
    exact onward

/-- An entry records the patch of its write. -/
theorem Moves.editable (moves : Moves entry row row') :
    row'.editable = edited [entry] row.editable := by
  obtain ⟨now, same, status, live, legit⟩ := moves
  cases legit with
  | edit patch pending => rfl
  | cancel at_ pending => rfl
  | approve at_ pending other =>
    simp [edited, transitionStatus, approveParams, recordStatusChange, pending, TRANSITION_ACTIONS]
  | reject rawReason pending other =>
    simp [edited, transitionStatus, rejectParams, recordStatusChange, pending, TRANSITION_ACTIONS]
  | pay at_ approved =>
    simp [edited, transitionStatus, payParams, recordStatusChange, approved, TRANSITION_ACTIONS]

/-! ## The statuses -/

/-- The changes that lead to a status. -/
def lifecycle : ExpenseStatus → List (ExpenseStatus × ExpenseStatus)
  | .pending => []
  | .approved => [(.pending, .approved)]
  | .rejected => [(.pending, .rejected)]
  | .paid => [(.pending, .approved), (.approved, .paid)]

/-- A write changes no status, and the entry says none, or it makes the next step
of the life cycle, and the entry says so. -/
theorem Moves.statuses (moves : Moves entry row row') :
    (statusChange entry = none ∧ row'.status = row.status ∧ row.status = .pending) ∨
      (statusChange entry = some (row.status, row'.status) ∧ row'.deletedAt = none ∧
        lifecycle row'.status = lifecycle row.status ++ [(row.status, row'.status)]) := by
  obtain ⟨now, same, status, live, legit⟩ := moves
  cases legit with
  | edit patch pending => exact .inl ⟨rfl, rfl, status.trans pending⟩
  | cancel at_ pending => exact .inl ⟨rfl, rfl, status.trans pending⟩
  | approve at_ pending other =>
    right
    rw [status]
    refine ⟨rfl, live, ?_⟩
    rw [pending]
    rfl
  | reject rawReason pending other =>
    right
    rw [status]
    refine ⟨rfl, live, ?_⟩
    rw [pending]
    rfl
  | pay at_ approved =>
    right
    rw [status]
    refine ⟨rfl, live, ?_⟩
    rw [approved]
    rfl

/-- The changes of status in the log are those that lead to the status of the row. -/
theorem History.statusChanges_eq (history : History log row) :
    statusChanges log = lifecycle row.status := by
  induction history with
  | opened opens =>
    cases opens
    rfl
  | moved earlier moves ih =>
    have split := moves.statuses
    rw [statusChanges_append, ih]
    rcases split with ⟨unsaid, same, -⟩ | ⟨said, -, next⟩
    · simp [statusChanges, unsaid, same]
    · simp [statusChanges, said, next]

/-! ## The columns -/

/-- What the status of a row says about its other columns. -/
structure ColumnInvariant (row : ExpenseEntity) : Prop where
  deleted : row.deletedAt ≠ none → row.status = .pending
  approvedBy : row.approvedBy ≠ none ↔ row.status = .approved ∨ row.status = .paid
  approvedAt : row.approvedAt ≠ none ↔ row.status = .approved ∨ row.status = .paid
  approver : row.approvedBy ≠ some row.requestedBy
  paidAt : row.paidAt ≠ none ↔ row.status = .paid

theorem Opens.columns (opens : Opens entry row) : ColumnInvariant row := by
  cases opens
  constructor <;> simp [NewExpense.saved]

theorem Moves.columns (moves : Moves entry row row') (columns : ColumnInvariant row) :
    ColumnInvariant row' := by
  obtain ⟨now, same, status, live, legit⟩ := moves
  have approvedBy := columns.approvedBy
  have approvedAt := columns.approvedAt
  have approver := columns.approver
  have paidAt := columns.paidAt
  cases legit with
  | edit patch pending =>
    exact ⟨fun _ => status.trans pending, approvedBy, approvedAt, approver, paidAt⟩
  | cancel at_ pending =>
    exact ⟨fun _ => status.trans pending, approvedBy, approvedAt, approver, paidAt⟩
  | approve at_ pending other =>
    rw [status, pending] at paidAt
    constructor <;>
      simp_all [ExpensePatch.onto, transitionStatus, approveParams]
  | reject rawReason pending other =>
    rw [status, pending] at approvedBy approvedAt paidAt
    constructor <;>
      simp_all [ExpensePatch.onto, transitionStatus, rejectParams]
  | pay at_ approved =>
    rw [status, approved] at approvedBy approvedAt
    constructor <;>
      simp_all [ExpensePatch.onto, transitionStatus, payParams]

theorem History.columns (history : History log row) : ColumnInvariant row :=
  history.invariant (fun _ _ opens => opens.columns) fun _ _ _ columns moves => moves.columns columns

/-! ## The events -/

theorem Opens.announcement (opens : Opens entry row) : ∃ input id now,
    entry = NewExpense.audit input id ∧ row = input.saved id now ∧
      Expenses.announcement entry = some (input.event id) := by
  obtain ⟨input, id, now⟩ := opens
  exact ⟨input, id, now, rfl, rfl, rfl⟩

/-- The event of a transaction is the one that its entry announces. -/
theorem Legit.announcement (legit : Legit loaded row write) (same : SameExpense loaded row) :
    Expenses.announcement write.audit = write.event := by
  have own := same.id
  cases legit with
  | edit patch pending => rfl
  | cancel now pending => rfl
  | approve now pending other =>
    simp [Expenses.announcement, transitionStatus, approveParams, recordStatusChange, pending,
      TRANSITION_ACTIONS, statusChange, own]
  | reject rawReason pending other =>
    simp [Expenses.announcement, transitionStatus, rejectParams, recordStatusChange, pending,
      TRANSITION_ACTIONS, statusChange, own]
  | pay now approved =>
    simp [Expenses.announcement, transitionStatus, payParams, recordStatusChange, approved,
      TRANSITION_ACTIONS, statusChange, own]

theorem Moves.announcement (moves : Moves entry row row') : Expenses.announcement entry =
    (statusChange entry).bind fun change =>
      if next : change.2 ≠ .pending then
        some (expenseEvent (EXPENSE_STATUS_EVENT ⟨change.2, next⟩) entry.expenseId entry.bondId
          change.2 entry.userId)
      else none := by
  obtain ⟨now, same, status, live, legit⟩ := moves
  unfold Expenses.announcement
  rw [if_neg]
  cases legit with
  | edit patch pending => exact nofun
  | cancel at_ pending => exact nofun
  | approve at_ pending other => simp [transitionStatus, approveParams, recordStatusChange, pending,
      TRANSITION_ACTIONS]
  | reject rawReason pending other => simp [transitionStatus, rejectParams, recordStatusChange,
      pending, TRANSITION_ACTIONS]
  | pay at_ approved => simp [transitionStatus, payParams, recordStatusChange, approved,
      TRANSITION_ACTIONS]

/-- What an event says of a change: its type, and its version. -/
def eventKey (event : InsertOutboxEventInput) : String × ℕ :=
  (event.eventType, event.aggregateVersion)

/-- The type and the version of the event of a status. -/
def statusKey : ExpenseStatus → String × ℕ
  | .pending => (ExpenseEventType.created.value, 1)
  | .approved => (ExpenseEventType.approved.value, 2)
  | .rejected => (ExpenseEventType.rejected.value, 2)
  | .paid => (ExpenseEventType.paid.value, 3)

theorem Moves.announcement_key (moves : Moves entry row row') :
    (Expenses.announcement entry).map eventKey =
      (statusChange entry).map fun change => statusKey change.2 := by
  rw [moves.announcement]
  rcases moves.statuses with ⟨unsaid, -, -⟩ | ⟨said, -, next⟩
  · simp [unsaid]
  · rw [said]
    cases to_ : row'.status with
    | pending => simp [to_, lifecycle] at next
    | approved => rfl
    | rejected => rfl
    | paid => rfl

/-- The events that the log announces: the creation, and one for each change of
status, in order. -/
theorem History.announced (history : History log row) :
    (log.filterMap Expenses.announcement).map eventKey =
      statusKey .pending :: (statusChanges log).map fun change => statusKey change.2 := by
  induction history with
  | opened opens =>
    obtain ⟨input, id, now, rfl, -, announced⟩ := opens.announcement
    rw [List.filterMap_cons_some announced]
    rfl
  | @moved log entry _ _ earlier moves ih =>
    have key := moves.announcement_key
    rw [List.filterMap_append, List.map_append, ih, statusChanges_append, List.map_append,
      List.cons_append]
    congr 2
    cases said : statusChange entry with
    | none =>
      have silent : Expenses.announcement entry = none := by simpa [said] using key
      simp [statusChanges, said, silent]
    | some change =>
      rw [said, Option.map_some] at key
      obtain ⟨event, announced, same⟩ := Option.map_eq_some_iff.mp key
      simp [statusChanges, said, announced, same]

/-- The versions of the events go up. -/
theorem History.versions_increase (history : History log row) :
    ((log.filterMap Expenses.announcement).map (·.aggregateVersion)).Pairwise (· < ·) := by
  have versions : (log.filterMap Expenses.announcement).map (·.aggregateVersion) =
      ((log.filterMap Expenses.announcement).map eventKey).map (·.2) := by
    rw [List.map_map]
    rfl
  rw [versions, history.announced, history.statusChanges_eq]
  cases row.status <;> decide

end ParentalCoord.Expenses

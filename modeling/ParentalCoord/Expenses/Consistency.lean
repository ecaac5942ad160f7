import ParentalCoord.Expenses.History

/-!
What holds of the expense table, the audit log and the outbox between any two
calls, and what one call does to them.

`Wrote` is all that a call may do: nothing that is recorded, an expense created,
or one legitimate write, each with its entry and its event.  From it follow the
effect on each expense (`Step`), that the stores stay consistent, and what a
request may rely on while others write (`Later`).
-/

namespace ParentalCoord.Expenses

open Interleaving Store

/-- The events of an expense that its requests have inserted; reminders apart. -/
def announced (id : Uuid) (inserted : List InsertOutboxEventInput) : List InsertOutboxEventInput :=
  (eventsOf .expense id inserted).filter (!isStale ·)

/-- The world has moved on: the audit has only grown, and an expense is the same
one, its editable columns changed by the patches recorded since and by nothing else. -/
def Later (first second : World) : Prop :=
  ∃ more, second.audit = first.audit ++ more ∧
    ∀ id row, first.expenses.get id = some row →
      ∃ row', second.expenses.get id = some row' ∧ SameExpense row row' ∧
        row'.editable = edited (auditOf id more) row.editable

/-- What one call may have written. -/
inductive Wrote (before after : World) : Prop where
  | nothing (expenses : after.expenses = before.expenses) (audit : after.audit = before.audit)
      (events : ∀ id, announced id after.inserted = announced id before.inserted)
  | opened {entry : ExpenseAuditEntryInput} {row : ExpenseEntity}
      (accepted : before.expenses.insert row = some after.expenses) (opens : Opens entry row)
      (audit : after.audit = before.audit ++ [entry])
      (events : after.inserted = before.inserted ++ (announcement entry).toList)
  | moved {entry : ExpenseAuditEntryInput} {row row' : ExpenseEntity}
      (found : before.expenses.get row.id = some row) (moves : Moves entry row row')
      (expenses : after.expenses = before.expenses.put row')
      (audit : after.audit = before.audit ++ [entry])
      (events : after.inserted = before.inserted ++ (announcement entry).toList)

/-- What one call has done to one expense. -/
inductive Step (id : Uuid) (before after : World) : Prop where
  | same (row : after.expenses.get id = before.expenses.get id)
      (audit : auditOf id after.audit = auditOf id before.audit)
      (events : announced id after.inserted = announced id before.inserted)
  | opened {entry : ExpenseAuditEntryInput} {row : ExpenseEntity}
      (absent : before.expenses.get id = none) (present : after.expenses.get id = some row)
      (opens : Opens entry row)
      (audit : auditOf id after.audit = auditOf id before.audit ++ [entry])
      (events : announced id after.inserted =
        announced id before.inserted ++ (announcement entry).toList)
  | moved {entry : ExpenseAuditEntryInput} {row row' : ExpenseEntity}
      (found : before.expenses.get id = some row) (present : after.expenses.get id = some row')
      (moves : Moves entry row row')
      (audit : auditOf id after.audit = auditOf id before.audit ++ [entry])
      (events : announced id after.inserted =
        announced id before.inserted ++ (announcement entry).toList)

/-- The entries of an expense are the history of its row, and its events are the
ones that the entries announce. -/
structure Recorded (world : World) (id : Uuid) : Prop where
  absent : world.expenses.get id = none →
    auditOf id world.audit = [] ∧ announced id world.inserted = []
  history : ∀ row, world.expenses.get id = some row → History (auditOf id world.audit) row
  events : announced id world.inserted = (auditOf id world.audit).filterMap announcement

def Consistent (world : World) : Prop := ∀ id, Recorded world id

variable {first second third before after : World} {id : Uuid} {row row' : ExpenseEntity}
  {entry : ExpenseAuditEntryInput} {inserted : List InsertOutboxEventInput}

/-! ## Events of an entry -/

theorem announcement_shape {event : InsertOutboxEventInput}
    (announces : announcement entry = some event) :
    event.aggregateType = .expense ∧ event.aggregateId = entry.expenseId ∧
      isStale event = false := by
  unfold announcement at announces
  split at announces
  · cases announces
    exact ⟨rfl, rfl, rfl⟩
  · obtain ⟨⟨from_, to_⟩, said, announces⟩ := Option.bind_eq_some_iff.mp announces
    split at announces
    · cases announces
      refine ⟨rfl, rfl, ?_⟩
      cases to_ with
      | pending => contradiction
      | approved => rfl
      | rejected => rfl
      | paid => rfl
    · cases announces

theorem announcements_one (entry : ExpenseAuditEntryInput) :
    [entry].filterMap announcement = (announcement entry).toList := by
  cases announces : announcement entry <;> simp [announces]

theorem announced_self (own : entry.expenseId = id) :
    announced id (inserted ++ (announcement entry).toList) =
      announced id inserted ++ (announcement entry).toList := by
  cases announces : announcement entry with
  | none => simp
  | some event =>
    obtain ⟨kind, aggregate, fresh⟩ := announcement_shape announces
    simp only [announced, Option.toList_some]
    rw [eventsOf_append_self kind (aggregate.trans own)]
    simp [fresh]

theorem announced_other (other : entry.expenseId ≠ id) :
    announced id (inserted ++ (announcement entry).toList) = announced id inserted := by
  cases announces : announcement entry with
  | none => simp
  | some event =>
    obtain ⟨-, aggregate, -⟩ := announcement_shape announces
    simp only [announced, Option.toList_some]
    rw [eventsOf_append_other (aggregate ▸ other)]

/-- Reminders are not among the events of the requests. -/
theorem announced_stale (staleExpenses : List StaleExpense) :
    announced id (inserted ++ staleExpenses.map fun expense =>
      staleEvent expense.id expense.bondId) = announced id inserted := by
  simp [announced, eventsOf, isStale, staleEvent]

/-! ## One call -/

/-- A call has no effect on other expenses than the one it is about. -/
theorem Wrote.step (wrote : Wrote before after) (id : Uuid) : Step id before after := by
  cases wrote with
  | nothing expenses audit events => exact .same (by rw [expenses]) (by rw [audit]) (events id)
  | @opened entry row accepted opens audit events =>
    obtain ⟨free, added⟩ := Table.get_insert accepted
    have own := opens.entry_id
    by_cases same : id = row.id
    · refine .opened (same ▸ free) (by rw [added, if_pos same]) opens ?_ ?_
      · rw [audit, auditOf_append, auditOf_self (own.trans same.symm)]
      · rw [events, announced_self (own.trans same.symm)]
    · have other : entry.expenseId ≠ id := fun clash => same (clash.symm.trans own)
      refine .same (by rw [added, if_neg same]) ?_ (by rw [events, announced_other other])
      rw [audit, auditOf_append, auditOf_other other, List.append_nil]
  | @moved entry row row' found moves expenses audit events =>
    have own := moves.entry_id
    have kept := moves.same.id
    by_cases same : id = row.id
    · refine .moved (same ▸ found) ?_ moves ?_ ?_
      · rw [expenses, same, ← kept]
        exact Table.get_put_self (by rw [kept]; exact found)
      · rw [audit, auditOf_append, auditOf_self (own.trans same.symm)]
      · rw [events, announced_self (own.trans same.symm)]
    · have other : entry.expenseId ≠ id := fun clash => same (clash.symm.trans own)
      refine .same ?_ ?_ (by rw [events, announced_other other])
      · rw [expenses]
        exact Table.get_put_other (by rw [kept]; exact same)
      · rw [audit, auditOf_append, auditOf_other other, List.append_nil]

/-- The entries still tell the history of each row after a call. -/
theorem Consistent.wrote (consistent : Consistent before) (wrote : Wrote before after) :
    Consistent after := by
  intro id
  have recorded := consistent id
  cases wrote.step id with
  | same row audit events =>
    constructor
    · rw [row, audit, events]
      exact recorded.absent
    · rw [row, audit]
      exact recorded.history
    · rw [audit, events]
      exact recorded.events
  | opened absent present opens audit events =>
    obtain ⟨blank, silent⟩ := recorded.absent absent
    constructor
    · rw [present]
      exact nofun
    · intro row there
      cases present.symm.trans there
      rw [audit, blank, List.nil_append]
      exact .opened opens
    · rw [audit, events, recorded.events, List.filterMap_append, announcements_one]
  | moved found present moves audit events =>
    constructor
    · rw [present]
      exact nofun
    · intro row there
      cases present.symm.trans there
      rw [audit]
      exact .moved (recorded.history _ found) moves
    · rw [audit, events, recorded.events, List.filterMap_append, announcements_one]

theorem Later.refl (world : World) : Later world world :=
  ⟨[], by simp, fun _ row found => ⟨row, found, .refl row, rfl⟩⟩

theorem Later.trans (earlier : Later first second) (later : Later second third) :
    Later first third := by
  obtain ⟨more, grown, rows⟩ := earlier
  obtain ⟨further, grew, onward⟩ := later
  refine ⟨more ++ further, by rw [grew, grown, List.append_assoc], fun id row found => ?_⟩
  obtain ⟨between, there, same, columns⟩ := rows id row found
  obtain ⟨last, here, again, changed⟩ := onward id between there
  refine ⟨last, here, same.trans again, ?_⟩
  rw [changed, columns, auditOf_append, edited_append]

theorem Later.of_same (expenses : after.expenses = before.expenses)
    (audit : after.audit = before.audit) : Later before after := by
  refine ⟨[], by simp [audit], fun id row found => ⟨row, ?_, .refl row, rfl⟩⟩
  rw [expenses]
  exact found

/-- What others may rely on when a call has written. -/
theorem Wrote.later (wrote : Wrote before after) : Later before after := by
  have step := wrote.step
  have effect : ∃ more, after.audit = before.audit ++ more := by
    cases wrote with
    | nothing expenses audit events => exact ⟨[], by simp [audit]⟩
    | opened accepted opens audit events => exact ⟨_, audit⟩
    | moved found moves expenses audit events => exact ⟨_, audit⟩
  obtain ⟨more, grown⟩ := effect
  refine ⟨more, grown, fun id row found => ?_⟩
  cases step id with
  | same kept audit events =>
    refine ⟨row, kept.trans found, .refl row, ?_⟩
    have silent : auditOf id more = [] := by
      rw [grown, auditOf_append] at audit
      simpa using audit
    rw [silent]
    rfl
  | opened absent present opens audit events =>
    rw [absent] at found
    cases found
  | @moved entry replaced row' there present moves audit events =>
    cases there.symm.trans found
    refine ⟨row', present, moves.same, ?_⟩
    have told : auditOf id more = [entry] := by
      rw [grown, auditOf_append] at audit
      exact List.append_cancel_left audit
    rw [told]
    exact moves.editable

/-! ## The world by itself -/

/-- The world moving by itself writes nothing that is recorded. -/
theorem nudge_wrote (how : Nudge) (world : World) : Wrote world (nudge how world) := by
  cases how <;> exact .nothing rfl rfl fun _ => rfl

theorem consistent_start : Consistent start := by
  intro id
  constructor <;> simp [start, announced, eventsOf]

end ParentalCoord.Expenses

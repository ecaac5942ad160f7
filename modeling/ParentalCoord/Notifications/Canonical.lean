import ParentalCoord.CodeUnits
import ParentalCoord.Notifications.Rules

/-!
The recipients of an event, as a set.

One person may be creator, assignee, coordinator, member and actor at once.  What is returned
depends on whom the slots name and whom the rule leaves out, and not on how often or in what
order.
-/

namespace ParentalCoord.Notifications

/-- The ids that are named and not left out, in strict order. -/
structure Canonical (recipients : List Uuid) (named leftOut : Uuid → Prop) : Prop where
  increasing : recipients.Pairwise (utf16 · < utf16 ·)
  exactly : ∀ id, id ∈ recipients ↔ id ≠ "" ∧ named id ∧ ¬leftOut id

/-- Whom the slots of a rule name. -/
inductive NamedBySlot (rule : NotificationFanOutRule) (context : RecipientContext) (id : Uuid) : Prop where
  | assignee (slot : .assignee ∈ rule.recipients) (same : context.assignedTo = some id)
  | creator (slot : .creator ∈ rule.recipients) (same : context.createdBy = some id)
  | coordinator (slot : .coordinator ∈ rule.recipients) (same : context.coordinatorId = some id)
  | member {ids : List Uuid} (slot : .members ∈ rule.recipients) (listed : context.memberIds = some ids)
      (member : id ∈ ids)

/-- The actor, and the coordinator where the rule says so. -/
inductive LeftOut (rule : NotificationFanOutRule) (context : RecipientContext) (id : Uuid) : Prop where
  | actor (same : context.actorId = some id)
  | coordinator (excludes : rule.excludeCoordinator = true) (same : context.coordinatorId = some id)

inductive ExpenseNamed (rule : ExpenseNotificationRule) (context : ExpenseRecipientContext) (id : Uuid) :
    Prop where
  | requester (slot : .requester ∈ rule.recipients) (same : context.requestedBy = some id)
  | counterpart (slot : .counterpart ∈ rule.recipients) (same : context.counterpartId = some id)

variable {candidates : List (Option Uuid)} {excluded : List Uuid} {named leftOut : Uuid → Prop} {id : Uuid}
  {rule : NotificationFanOutRule} {context : RecipientContext} {expenseRule : ExpenseNotificationRule}
  {expenseContext : ExpenseRecipientContext}

theorem truthy_iff : truthy id ↔ id ≠ "" := by
  rw [truthy, decide_eq_true_eq]

theorem mem_filter_truthy {value : Option Uuid} :
    id ∈ (value.filter truthy).toList ↔ value = some id ∧ id ≠ "" := by
  rw [Option.mem_toList, Option.filter_eq_some_iff, truthy_iff]

/-- What is resolved is canonical for what the candidates name and the exclusions leave out. -/
theorem resolveRecipients_canonical (names : ∀ id, some id ∈ candidates ↔ named id)
    (leaves : ∀ id, id ≠ "" → (id ∈ excluded ↔ leftOut id)) :
    Canonical (resolveRecipients candidates excluded) named leftOut where
  increasing := jsSort_increasing ((List.perm_insertionSort _ _).nodup_iff.mp nodup_resolveRecipients)
  exactly id := by
    rw [mem_resolveRecipients, truthy_iff, names]
    constructor
    · rintro ⟨there, filled, kept⟩
      exact ⟨filled, there, fun out => kept ((leaves id filled).mpr out)⟩
    · rintro ⟨filled, there, kept⟩
      exact ⟨there, filled, fun out => kept ((leaves id filled).mp out)⟩

theorem Canonical.eq_of_iff {first second : List Uuid} {named' leftOut' : Uuid → Prop}
    (canonical : Canonical first named leftOut) (canonical' : Canonical second named' leftOut')
    (same : ∀ id, named id ↔ named' id) (same' : ∀ id, leftOut id ↔ leftOut' id) : first = second := by
  refine eq_of_increasing canonical.increasing canonical'.increasing fun id => ?_
  rw [canonical.exactly, canonical'.exactly, same, same']

theorem mem_candidates : some id ∈ rule.recipients.flatMap context.candidates ↔ NamedBySlot rule context id := by
  rw [List.mem_flatMap]
  constructor
  · rintro ⟨slot, there, member⟩
    cases slot with
    | assignee => exact .assignee there (List.mem_singleton.mp member).symm
    | creator => exact .creator there (List.mem_singleton.mp member).symm
    | coordinator => exact .coordinator there (List.mem_singleton.mp member).symm
    | members =>
      obtain ⟨id, member, same⟩ := List.mem_map.mp member
      cases same
      cases listed : context.memberIds with
      | none =>
        rw [listed] at member
        cases member
      | some ids =>
        rw [listed] at member
        exact .member there listed member
  · rintro (⟨slot, same⟩ | ⟨slot, same⟩ | ⟨slot, same⟩ | ⟨slot, listed, member⟩)
    · exact ⟨_, slot, List.mem_singleton.mpr same.symm⟩
    · exact ⟨_, slot, List.mem_singleton.mpr same.symm⟩
    · exact ⟨_, slot, List.mem_singleton.mpr same.symm⟩
    · refine ⟨_, slot, List.mem_map.mpr ⟨id, ?_, rfl⟩⟩
      rw [listed]
      exact member

theorem mem_excluded (filled : id ≠ "") : id ∈ context.excluded rule ↔ LeftOut rule context id := by
  rw [RecipientContext.excluded, List.mem_append, mem_filter_truthy]
  constructor
  · rintro (out | ⟨same, -⟩)
    · split at out
      · rename_i excludes
        exact .coordinator excludes (mem_filter_truthy.mp out).1
      · cases out
    · exact .actor same
  · rintro (same | ⟨excludes, same⟩)
    · exact .inr ⟨same, filled⟩
    · rw [if_pos excludes]
      exact .inl (mem_filter_truthy.mpr ⟨same, filled⟩)

theorem mem_expenseCandidates : some id ∈ expenseRule.recipients.map expenseContext.candidates ↔
    ExpenseNamed expenseRule expenseContext id := by
  rw [List.mem_map]
  constructor
  · rintro ⟨slot, there, same⟩
    cases slot with
    | requester => exact .requester there same
    | counterpart => exact .counterpart there same
  · rintro (⟨slot, same⟩ | ⟨slot, same⟩)
    · exact ⟨_, slot, same⟩
    · exact ⟨_, slot, same⟩

theorem buildRecipientIds_canonical (rule : NotificationFanOutRule) (context : RecipientContext) :
    Canonical (buildRecipientIds rule context) (NamedBySlot rule context) (LeftOut rule context) :=
  resolveRecipients_canonical (fun _ => mem_candidates) fun _ => mem_excluded

theorem buildExpenseRecipientIds_canonical (rule : ExpenseNotificationRule) (context : ExpenseRecipientContext) :
    Canonical (buildExpenseRecipientIds rule context) (ExpenseNamed rule context)
      (context.actorId = some ·) :=
  resolveRecipients_canonical (fun _ => mem_expenseCandidates) fun _ filled =>
    mem_filter_truthy.trans (and_iff_left filled)

/-- Only who is in the member list counts. -/
theorem NamedBySlot.of_members {ids ids' : List Uuid} (same : ∀ id, id ∈ ids → id ∈ ids')
    (named : NamedBySlot rule { context with memberIds := some ids } id) :
    NamedBySlot rule { context with memberIds := some ids' } id := by
  cases named with
  | assignee slot assigned => exact .assignee slot assigned
  | creator slot created => exact .creator slot created
  | coordinator slot coordinates => exact .coordinator slot coordinates
  | member slot listed member =>
    cases listed
    exact .member slot rfl (same id member)

theorem LeftOut.of_members {ids ids' : Option (List Uuid)}
    (out : LeftOut rule { context with memberIds := ids } id) :
    LeftOut rule { context with memberIds := ids' } id := by
  cases out with
  | actor same => exact .actor same
  | coordinator excludes same => exact .coordinator excludes same

/-- The recipients of both kinds of rules are a set in its one order, and those of an activity do not
depend on how the members are listed. -/
theorem recipients_canonical :
    (∀ (rule : NotificationFanOutRule) (context : RecipientContext),
      Canonical (buildRecipientIds rule context) (NamedBySlot rule context) (LeftOut rule context) ∧
      ∀ ids ids' : List Uuid, (∀ id, id ∈ ids ↔ id ∈ ids') →
        buildRecipientIds rule { context with memberIds := some ids } =
          buildRecipientIds rule { context with memberIds := some ids' }) ∧
    ∀ (rule : ExpenseNotificationRule) (context : ExpenseRecipientContext),
      Canonical (buildExpenseRecipientIds rule context) (ExpenseNamed rule context)
        (context.actorId = some ·) := by
  refine ⟨fun rule context => ⟨buildRecipientIds_canonical rule context, fun ids ids' same => ?_⟩,
    buildExpenseRecipientIds_canonical⟩
  refine (buildRecipientIds_canonical _ _).eq_of_iff (buildRecipientIds_canonical _ _) ?_ ?_
  · exact fun id => ⟨.of_members fun id => (same id).mp, .of_members fun id => (same id).mpr⟩
  · exact fun id => ⟨.of_members, .of_members⟩

def firstRule : NotificationFanOutRule := NOTIFICATION_FAN_OUT_RULES.head (List.cons_ne_nil _ _)

/-- A member who is listed twice counts once. -/
theorem recipients_canonical_twice :
    buildRecipientIds firstRule { coordinatorId := some "c", memberIds := some ["b", "c", "b"] } =
      buildRecipientIds firstRule { coordinatorId := some "c", memberIds := some ["c", "b"] } :=
  (recipients_canonical.1 firstRule { coordinatorId := some "c" }).2 ["b", "c", "b"] ["c", "b"] fun id => by
    simp only [List.mem_cons, List.not_mem_nil, or_false]
    tauto

end ParentalCoord.Notifications

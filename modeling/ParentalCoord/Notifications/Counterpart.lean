import ParentalCoord.Notifications.Recipients

/-!
The counterpart of an expense, as the request of a viewer and the fan-out find it.

Each of them asks for the members of the bond on its own, in no order that anybody has
asked for, and takes the first who is not the requester.
-/

namespace ParentalCoord.Notifications

open Interleaving Expenses

variable {expense : ExpenseEntity} {members first second : List Uuid} {viewerId : Uuid}

/-- The decision of the policy, by the members in the order they are returned. -/
def decisionBy (expense : ExpenseEntity) (memberIds : List Uuid) (viewerId : Uuid) :
    ExpensePolicyDecision :=
  evaluate ⟨expense.status, expense.requestedBy,
    selectCounterpartId memberIds expense.requestedBy⟩ viewerId

/-- The actor of a notice that goes to the counterpart: the requester of a new expense,
and nobody when it has become stale. -/
def noticeActor (expense : ExpenseEntity) : ExpenseEventType → Option Uuid
  | .created => some expense.requestedBy
  | _ => none

/-- The recipients of a notice, by the members in the order they are returned. -/
def recipientsBy (eventType : ExpenseEventType) (expense : ExpenseEntity) (memberIds : List Uuid) :
    Option (List Uuid) :=
  (resolveExpenseNotificationRule eventType.value).map fun rule =>
    expenseRecipients rule expense memberIds (noticeActor expense eventType)

/-- What a viewer may do, and who is told, is the same in whatever order each query returns
the members, and who may approve is who is told. -/
structure OrderFree (expense : ExpenseEntity) (members : List Uuid) : Prop where
  decisions : ∀ first second, first.Perm members → second.Perm members → ∀ viewerId,
    decisionBy expense first viewerId = decisionBy expense second viewerId
  recipients : ∀ first second, first.Perm members → second.Perm members →
    ∀ eventType ∈ [ExpenseEventType.created, .stale],
      recipientsBy eventType expense first = recipientsBy eventType expense second
  notified : ∀ first second, first.Perm members → second.Perm members → ∀ viewerId,
    (decisionBy expense first viewerId).canApprove →
      ∀ eventType ∈ [ExpenseEventType.created, .stale],
        recipientsBy eventType expense second = some [viewerId]

/-- All the members but the requester are one. -/
def OneOther (expense : ExpenseEntity) (members : List Uuid) : Prop :=
  ∀ one ∈ members, ∀ other ∈ members,
    one ≠ expense.requestedBy → other ≠ expense.requestedBy → one = other

/-! ## What the requests compute -/

/-- A viewer who is a member gets the decision by the order of that query. -/
theorem loadForViewer_run {world : Expenses.World}
    (found : world.expenses.get expense.id = some expense) (alive : expense.deletedAt = none)
    (member : world.directory.isActiveBondForMember expense.bondId viewerId = true) :
    ∃ viewed, (loadForViewer expense.id viewerId).run Expenses.serve world = (.ok viewed, world) ∧
      viewed.decision =
        decisionBy expense (world.directory.findActiveMemberIds expense.bondId) viewerId := by
  refine ⟨⟨⟨expense, expense.categoryId.bind world.directory.category,
    expense.id ∈ world.attachments⟩,
    selectCounterpartId (world.directory.findActiveMemberIds expense.bondId) expense.requestedBy,
    decisionBy expense (world.directory.findActiveMemberIds expense.bondId) viewerId,
    world.directory.findMemberNames expense.bondId⟩, ?_, rfl⟩
  simp [loadForViewer, findAliveById, Expenses.findOne, existsBy, isActiveBondForMember,
    counterpartOf, findActiveMemberIds, findMemberNames, Expenses.perform, Handler.perform,
    Handler.run, Expenses.serve, found, alive, member, decisionBy, Option.filter]

/-! ## One other member -/

theorem selectCounterpartId_mem {requesterId counterpartId : Uuid}
    (selected : selectCounterpartId members requesterId = some counterpartId) :
    counterpartId ∈ members ∧ counterpartId ≠ requesterId :=
  ⟨List.mem_of_find?_eq_some selected, selectCounterpartId_ne selected⟩

/-- With one other member it does not matter in which order they come. -/
theorem selectCounterpartId_of_oneOther (one : OneOther expense members)
    (ordered : first.Perm members) (reordered : second.Perm members) :
    selectCounterpartId first expense.requestedBy = selectCounterpartId second expense.requestedBy := by
  have found : ∀ {order other : List Uuid} {counterpartId : Uuid}, order.Perm members →
      other.Perm members → selectCounterpartId order expense.requestedBy = some counterpartId →
      selectCounterpartId other expense.requestedBy = some counterpartId := by
    intro order other counterpartId ordered reordered selected
    obtain ⟨member, apart⟩ := selectCounterpartId_mem selected
    have among : counterpartId ∈ members := ordered.mem_iff.mp member
    cases again : selectCounterpartId other expense.requestedBy with
    | none =>
      have nobody := List.find?_eq_none.mp again counterpartId (reordered.mem_iff.mpr among)
      simp [apart] at nobody
    | some counterpart =>
      obtain ⟨there, apart'⟩ := selectCounterpartId_mem again
      rw [one counterpart (reordered.mem_iff.mp there) counterpartId among apart' apart]
  cases selected : selectCounterpartId first expense.requestedBy with
  | some counterpartId => exact (found ordered reordered selected).symm
  | none =>
    cases again : selectCounterpartId second expense.requestedBy with
    | none => rfl
    | some counterpartId =>
      rw [found reordered ordered again] at selected
      cases selected

/-- The counterpart, if there is one, is who is told of a new or a stale expense. -/
theorem recipientsBy_of_counterpart {eventType : ExpenseEventType} {counterpartId : Uuid}
    (kind : eventType ∈ [ExpenseEventType.created, .stale])
    (selected : selectCounterpartId members expense.requestedBy = some counterpartId)
    (named : truthy counterpartId) :
    recipientsBy eventType expense members = some [counterpartId] := by
  have apart := selectCounterpartId_ne selected
  have other : noticeActor expense eventType ≠ some counterpartId := by
    rcases List.mem_pair.mp kind with rfl | rfl
    · simpa [noticeActor] using apart.symm
    · simp [noticeActor]
  obtain ⟨rule, resolved, slots⟩ : ∃ rule, resolveExpenseNotificationRule eventType.value =
      some rule ∧ rule.recipients = [.counterpart] := by
    rcases List.mem_pair.mp kind with rfl | rfl
    · exact ⟨_, rfl, rfl⟩
    · exact ⟨_, rfl, rfl⟩
  rw [recipientsBy, resolved, Option.map_some, expenseRecipients, buildExpenseRecipientIds, slots,
    selected]
  simp [resolveRecipients, ExpenseRecipientContext.candidates, named, other, jsSort]

/-- The order in which the members come matters to nobody exactly when all but the requester
are one. -/
theorem orderFree_iff (named : ∀ id ∈ members, truthy id) :
    OrderFree expense members ↔ OneOther expense members := by
  constructor
  · intro free one member other among apart apart'
    have chosen : ∀ {id : Uuid}, id ∈ members → id ≠ expense.requestedBy →
        recipientsBy .stale expense (id :: members.erase id) = some [id] := fun member apart =>
      recipientsBy_of_counterpart (by simp) (by simp [selectCounterpartId, apart]) (named _ member)
    have same := free.recipients _ _ (List.perm_cons_erase member).symm
      (List.perm_cons_erase among).symm .stale (by simp)
    rw [chosen member apart, chosen among apart'] at same
    simpa using same
  · intro one
    refine ⟨fun first second ordered reordered viewerId => ?_, fun first second ordered reordered
      eventType _ => ?_, fun first second ordered reordered viewerId approves eventType kind => ?_⟩
    · rw [decisionBy, decisionBy, selectCounterpartId_of_oneOther one ordered reordered]
    · unfold recipientsBy expenseRecipients
      rw [selectCounterpartId_of_oneOther one ordered reordered]
    · have counterpart := (canApprove_iff.mp approves).1
      have member := (selectCounterpartId_mem counterpart).1
      apply recipientsBy_of_counterpart kind
      · rw [← selectCounterpartId_of_oneOther one ordered reordered]
        exact counterpart
      · exact named _ (ordered.mem_iff.mp member)

/-- An expense of `u1` that waits for its approval. -/
def consultation : ExpenseEntity where
  id := "e1"
  bondId := "b1"
  categoryId := none
  concept := "Consulta"
  description := none
  amount := 10000
  expenseDate := "1970-01-01"
  splitRatioPayer := 5000
  splitRatioOther := 5000
  status := .pending
  requestedBy := "u1"
  createdAt := 0
  updatedAt := 0

theorem orderFree_of_two : OrderFree consultation ["u1", "u2"] :=
  (orderFree_iff (by decide)).mpr (by unfold OneOther; decide)

/-- With three members, `u2` may approve what `u3` was told of. -/
theorem approver_not_notified : ¬∀ (expense : ExpenseEntity) (members : List Uuid),
    (∀ id ∈ members, truthy id) → OrderFree expense members := by
  intro always
  have free := always consultation ["u1", "u2", "u3"] (by decide)
  have told := free.notified ["u1", "u2", "u3"] ["u1", "u3", "u2"] (by decide) (by decide) "u2"
    (by decide) .created (by simp)
  have instead : recipientsBy .created consultation ["u1", "u3", "u2"] = some ["u3"] := by
    decide +kernel
  rw [instead] at told
  simp at told

end ParentalCoord.Notifications

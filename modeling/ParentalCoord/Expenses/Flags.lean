import ParentalCoord.Expenses.Listing

/-!
The flags of an expense, and what the requests they stand for do.

The flags are worked out for the detail and for each item of a list, and again by every request
that changes the expense.  Between what a viewer is shown and what he then gets there is nothing
but what others do in the meantime.
-/

namespace ParentalCoord.Expenses

open Interleaving Store Listing

/-- The requests that the policy has a flag for. -/
inductive Operation where
  | approve
  | reject (rawReason : Option String)
  | pay
  | update (dto : UpdateExpenseDto)
  | cancel

namespace Operation

def entry (id viewerId : Uuid) : Operation → Entry
  | .approve => .approve id viewerId
  | .reject rawReason => .reject id viewerId rawReason
  | .pay => .pay id viewerId
  | .update dto => .update id dto viewerId
  | .cancel => .cancel id viewerId

def allowed (decision : ExpensePolicyDecision) : Operation → Bool
  | .approve => decision.canApprove
  | .reject _ => decision.canReject
  | .pay => decision.canMarkPaid
  | .update _ => decision.canEdit
  | .cancel => decision.canCancel

def denial : Operation → String
  | .approve => APPROVE_DENIED
  | .reject _ => REJECT_DENIED
  | .pay => PAY_DENIED
  | .update _ => EDIT_DENIED
  | .cancel => CANCEL_DENIED

/-- An update gives something, and what it gives passes the checks and the columns. -/
def Valid (world : World) : Operation → Prop
  | .update dto => buildPatch dto ≠ {} ∧ Unverified world (buildPatch dto) = false ∧
      (buildPatch dto).violatesNotNull = false
  | _ => True

/-- The transaction that it makes of the row. -/
def write (row : ExpenseEntity) (viewerId : Uuid) (now : Instant) : Operation → GuardedWrite
  | .approve => transitionStatus (approveParams row.id viewerId now) row
  | .reject rawReason => transitionStatus (rejectParams row.id viewerId rawReason) row
  | .pay => transitionStatus (payParams row.id viewerId now) row
  | .update dto => editFields row.id viewerId row (buildPatch dto)
  | .cancel => markDeleted row.id viewerId row now

/-- What it answers with, once the row is written. -/
def reply (row : ExpenseEntity) (viewerId : Uuid) (after : World) : Operation → Reply
  | .cancel => .cancelled row.id (toISOString after.clock)
  | operation => .expense (World.detail after viewerId
      ((operation.write row viewerId after.clock).patch.onto row after.clock))

end Operation

variable {config : Config} {world : World} {row : ExpenseEntity} {id viewerId : Uuid}

/-- Only an update can violate a column. -/
theorem Operation.violates (operation : Operation) (valid : operation.Valid world) (now : Instant) :
    (operation.write row viewerId now).patch.violatesNotNull = false := by
  cases operation with
  | update dto => exact valid.2.2
  | approve | reject _ | pay | cancel => rfl

/-- The detail of the row that was written, right after the write. -/
theorem run_detail_commit (write : GuardedWrite) (there : world.expenses.get write.id = some row)
    (alive : row.deletedAt = none) (kept : write.patch.deletedAt = none)
    (member : world.directory.isActiveBondForMember row.bondId viewerId) :
    (getDetail write.id viewerId).run serve (write.commit row world) =
      (.ok (World.detail (write.commit row world) viewerId (write.patch.onto row world.clock)),
        write.commit row world) := by
  refine run_detail (get_commit write there) ?_ member
  rw [ExpensePatch.onto, kept, alive]
  rfl

/-- What goes on behind a flag: the write, and what is answered after it. -/
theorem run_guarded {α : Type} (write : GuardedWrite) (there : world.expenses.get write.id = some row)
    (guard : guarded write.expectedStatus row) (unlocked : world.locks write.id = false)
    (held : write.patch.violatesNotNull = false) (rest : Request α) :
    ((guardedUpdate write).bind fun applied =>
      if !applied then throw (conflictException CONFLICT) else rest).run serve world =
      rest.run serve (write.commit row world) := by
  have served := serve_updateGuarded write there guard
  rw [unlocked, held, Bool.or_self, if_neg (by decide)] at served
  rw [guardedUpdate, perform, Handler.run_perform_bind_of_ok served]
  rfl

theorem run_transition (params : TransitionParams) (there : world.expenses.get params.id = some row)
    (alive : row.deletedAt = none)
    (member : world.directory.isActiveBondForMember row.bondId params.viewerId)
    (unlocked : world.locks params.id = false) :
    (transition params).run serve world =
      if params.allowed (World.detail world params.viewerId row).toExpensePolicyDecision then
        (.ok (World.detail ((transitionStatus params row).commit row world) params.viewerId
          ((transitionStatus params row).patch.onto row world.clock)),
          (transitionStatus params row).commit row world)
      else (.error (forbiddenException params.denial), world) := by
  have loaded := run_loadForViewer params.viewerId there alive
  rw [if_pos member] at loaded
  rw [transition, Handler.bind_eq, Handler.run_bind_eq loaded]
  change (if !params.allowed (World.detail world params.viewerId row).toExpensePolicyDecision then _
    else _ : Request _).run serve world = _
  cases params.allowed (World.detail world params.viewerId row).toExpensePolicyDecision with
  | false => rfl
  | true =>
    refine (run_guarded (transitionStatus params row) there ?_ unlocked rfl _).trans ?_
    · simp [guarded, transitionStatus, alive]
    · exact run_detail_commit (transitionStatus params row) there alive rfl member

theorem run_cancel (there : world.expenses.get row.id = some row) (alive : row.deletedAt = none)
    (member : world.directory.isActiveBondForMember row.bondId viewerId)
    (unlocked : world.locks row.id = false) :
    (cancel row.id viewerId).run serve world =
      if (World.detail world viewerId row).canCancel then
        (.ok (.cancelled row.id (toISOString world.clock)),
          (markDeleted row.id viewerId row world.clock).commit row world)
      else (.error (forbiddenException CANCEL_DENIED), world) := by
  have loaded := run_loadForViewer viewerId there alive
  rw [if_pos member] at loaded
  have clock : clockNow.run serve world = (.ok world.clock, world) := rfl
  rw [cancel, Handler.bind_eq, Handler.run_bind_eq loaded]
  change (if !(World.detail world viewerId row).canCancel then _ else _ : Request _).run serve world = _
  cases (World.detail world viewerId row).canCancel with
  | false => rfl
  | true =>
    refine (Handler.run_bind_eq clock).trans ?_
    refine (run_guarded (markDeleted row.id viewerId row world.clock) there ?_ unlocked rfl _).trans rfl
    simp [guarded, markDeleted, alive]

theorem run_update_valid (dto : UpdateExpenseDto) (there : world.expenses.get row.id = some row)
    (alive : row.deletedAt = none)
    (member : world.directory.isActiveBondForMember row.bondId viewerId)
    (unlocked : world.locks row.id = false) (valid : (Operation.update dto).Valid world) :
    (update row.id dto viewerId).run serve world =
      if (World.detail world viewerId row).canEdit then
        (.ok (World.detail ((editFields row.id viewerId row (buildPatch dto)).commit row world) viewerId
          ((editFields row.id viewerId row (buildPatch dto)).patch.onto row world.clock)),
          (editFields row.id viewerId row (buildPatch dto)).commit row world)
      else (.error (forbiddenException EDIT_DENIED), world) := by
  obtain ⟨something, verified, held⟩ := valid
  have loaded := run_loadForViewer viewerId there alive
  rw [if_pos member] at loaded
  have checked := run_verifyPatch (buildPatch dto) world
  rw [if_neg (by rw [verified]; decide)] at checked
  rw [update, Handler.bind_eq, Handler.run_bind_eq loaded]
  change (if !(World.detail world viewerId row).canEdit then _ else _ : Request _).run serve world = _
  cases (World.detail world viewerId row).canEdit with
  | false => rfl
  | true =>
    change (if buildPatch dto = {} then _ else _ : Request _).run serve world = _
    rw [if_neg something, Handler.bind_eq, Handler.run_bind_eq checked]
    refine (run_guarded (editFields row.id viewerId row (buildPatch dto)) there ?_ unlocked held _).trans ?_
    · simp [guarded, editFields, alive]
    · exact run_detail_commit (editFields row.id viewerId row (buildPatch dto)) there alive rfl member

/-- Only a live expense is shown, and to a member. -/
theorem of_shown {response : ExpenseResponseDto} {after : World}
    (shown : (getDetail id viewerId).run serve world = (.ok response, after)) :
    ∃ row, world.expenses.get id = some row ∧ row.deletedAt = none ∧
      world.directory.isActiveBondForMember row.bondId viewerId ∧
      response = World.detail world viewerId row := by
  have absent (none_ : (world.expenses.get id).filter (·.deletedAt = none) = none) :
      (getDetail id viewerId).run serve world = (.error expenseNotFound, world) := by
    simp [getDetail, loadForViewer, findAliveById, findOne, perform, Handler.perform, Handler.run,
      Handler.bind, serve, none_]
  cases found : (world.expenses.get id).filter (·.deletedAt = none) with
  | none => cases (absent found).symm.trans shown
  | some row =>
    obtain ⟨there, alive⟩ : world.expenses.get id = some row ∧ row.deletedAt = none := by
      simpa [Option.filter_eq_some_iff] using found
    by_cases member : world.directory.isActiveBondForMember row.bondId viewerId
    · have same := (run_detail there alive member).symm.trans shown
      simp only [Prod.mk.injEq, Except.ok.injEq] at same
      exact ⟨row, there, alive, member, same.1.symm⟩
    · have loaded := run_loadForViewer viewerId there alive
      rw [if_neg member] at loaded
      rw [getDetail, Handler.bind_eq, Handler.run_bind, loaded] at shown
      cases shown

/-- **The flags say what a request will do.**  Of an expense that a viewer is shown, and that no
reminder has locked, a request behind a flag that is set is carried out and answers with the
expense as it is then; behind one that is not set, it is refused and leaves everything as it is. -/
theorem flag_decides {response : ExpenseResponseDto} {after : World} (operation : Operation)
    (shown : (getDetail id viewerId).run serve world = (.ok response, after))
    (unlocked : world.locks id = false) (valid : operation.Valid world) :
    ∃ row, world.expenses.get id = some row ∧ row.deletedAt = none ∧
      (handler config (operation.entry id viewerId)).run serve world =
        if operation.allowed response.toExpensePolicyDecision then
          let written := (operation.write row viewerId world.clock).commit row world
          (.ok (operation.reply row viewerId written), written)
        else (.error (forbiddenException operation.denial), world) := by
  obtain ⟨row, there, alive, member, rfl⟩ := of_shown shown
  obtain rfl : row.id = id := Table.key_of_get there
  refine ⟨row, there, alive, ?_⟩
  have clock : clockNow.run serve world = (.ok world.clock, world) := rfl
  have answers {request : Request ExpenseResponseDto} {allowed : Bool} {dto : ExpenseResponseDto}
      {written : World} {denied : Exception}
      (ran : request.run serve world =
        if allowed then (.ok dto, written) else (.error denied, world)) :
      (request.bind fun dto => .ret (Reply.expense dto)).run serve world =
        if allowed then (.ok (.expense dto), written) else (.error denied, world) := by
    rw [Handler.run_bind, ran]
    cases allowed <;> rfl
  cases operation with
  | approve =>
    refine answers ((Handler.run_bind_eq clock).trans ?_)
    exact run_transition (approveParams row.id viewerId world.clock) there alive member unlocked
  | reject rawReason =>
    exact answers (run_transition (rejectParams row.id viewerId rawReason) there alive member unlocked)
  | pay =>
    refine answers ((Handler.run_bind_eq clock).trans ?_)
    exact run_transition (payParams row.id viewerId world.clock) there alive member unlocked
  | update dto => exact answers (run_update_valid dto there alive member unlocked valid)
  | cancel => exact run_cancel there alive member unlocked

/-- Who did not ask for the expense approves it. -/
theorem flag_decides_approve : ∃ row, filed.expenses.get "e1" = some row ∧ row.deletedAt = none ∧
    (handler ⟨none⟩ (.approve "e1" "u2")).run serve filed =
      let written := (Operation.approve.write row "u2" filed.clock).commit row filed
      (.ok (Operation.approve.reply row "u2" written), written) := by
  have shown := @run_detail filed "u2" "e1" asked rfl rfl rfl
  obtain ⟨row, there, alive, ran⟩ := @flag_decides ⟨none⟩ filed "e1" "u2" _ _ .approve shown rfl trivial
  rw [if_pos (by decide)] at ran
  exact ⟨row, there, alive, ran⟩

end ParentalCoord.Expenses

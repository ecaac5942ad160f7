import ParentalCoord.Calendar
import ParentalCoord.Expenses.Guarantees

/-!
What a PATCH leaves of an expense that was valid.

The DTO is that of the creation with every field optional, and an optional field
may also be null.  The columns that may not be null refuse it, and the date is read
again; the category is looked up by an id of null, which is to look up any.
-/

namespace ParentalCoord.Expenses

open Interleaving Store

/-! ## What the pipe lets through -/

/-- `@IsOptional()` before another check: neither an absent field nor null is checked. -/
def isOptional {α : Type} (check : α → Bool) (field : Option (Option α)) : Bool :=
  field.join.all check

/-- `@Length(min, max)`. -/
def isLength (min max : ℕ) (value : String) : Bool := min ≤ value.length ∧ value.length ≤ max

/-- `/^\d{4}-\d{2}-\d{2}$/`. -/
def matchesDate (value : String) : Bool :=
  match value.toList with
  | [y₁, y₂, y₃, y₄, '-', m₁, m₂, '-', d₁, d₂] => [y₁, y₂, y₃, y₄, m₁, m₂, d₁, d₂].all (·.isDigit)
  | _ => false

/-- `@Min(0.01)` and `@Max(9_999_999_999.99)`, in hundredths. -/
def isAmount (value : ℤ) : Bool := 1 ≤ value ∧ value ≤ 999999999999

/-- `@Min(0)` and `@Max(100)`, in hundredths of a percent. -/
def isRatio (value : ℤ) : Bool := 0 ≤ value ∧ value ≤ WHOLE

/-- The validators of `PartialType(CreateExpenseDto)`. -/
def UpdateExpenseDto.accepted (isUUID : String → Bool) (dto : UpdateExpenseDto) : Bool :=
  isOptional (isLength 1 255) dto.concept ∧ isOptional (isLength 0 2000) dto.description ∧
    isOptional isAmount dto.amount ∧ isOptional isUUID dto.categoryId ∧
    isOptional matchesDate dto.expenseDate ∧ isOptional isRatio dto.splitRatioPayer

/-! ## Categories -/

structure StoredCategory extends CategoryEntity where
  isActive : Bool

/-- `findOneBy({ id, isActive: true })`, where an id of null is no condition. -/
def CategoriesRepository.findActiveById (categories : List StoredCategory) (id : Option Uuid) :
    Option CategoryEntity :=
  (categories.find? fun category => category.isActive && id.all (· = category.id)).map
    (·.toCategoryEntity)

/-! ## What is asked of the row -/

/-- The editable columns of an expense that could have been created. -/
structure Editable.Valid (columns : Editable) : Prop where
  concept : 1 ≤ columns.concept.length ∧ columns.concept.length ≤ 255
  amount : 1 ≤ columns.amount ∧ columns.amount ≤ 999999999999
  expenseDate : ∃ year month day : ℕ, year ≤ 9999 ∧ IsDate year month day ∧
    columns.expenseDate = dateText year month day
  ratios : columns.splitRatioPayer + columns.splitRatioOther = WHOLE
  payer : 0 ≤ columns.splitRatioPayer ∧ columns.splitRatioPayer ≤ WHOLE
  other : 0 ≤ columns.splitRatioOther ∧ columns.splitRatioOther ≤ WHOLE

/-- The row with other columns. -/
def ExpenseEntity.withColumns (row : ExpenseEntity) (columns : Editable) (updatedAt : Instant) :
    ExpenseEntity :=
  { row with
    concept := columns.concept
    description := columns.description
    amount := columns.amount
    categoryId := columns.categoryId
    expenseDate := columns.expenseDate
    splitRatioPayer := columns.splitRatioPayer
    splitRatioOther := columns.splitRatioOther
    updatedAt := updatedAt }

/-- One of the checks of the patch fails: there is no category, or the date is not real. -/
def Unverified (world : World) (patch : ExpenseEditableFields) : Bool :=
  patch.categoryId.any (fun categoryId => (world.directory.findActiveById categoryId).isNone) ||
    patch.expenseDate.any (fun expenseDate => !expenseDate.any isRealDate)

section Runs

variable {world : World} {id : Uuid} {row : ExpenseEntity} {dto : UpdateExpenseDto}
  {categories : List StoredCategory} {silent : Silence}

theorem run_loadForViewer (viewerId : Uuid) (there : world.expenses.get id = some row) (alive : row.deletedAt = none) :
    (loadForViewer id viewerId).run serve world =
      if world.directory.isActiveBondForMember row.bondId viewerId then
        (.ok ⟨⟨row, row.categoryId.bind world.directory.category, id ∈ world.attachments⟩,
          selectCounterpartId (world.directory.findActiveMemberIds row.bondId) row.requestedBy,
          evaluate ⟨row.status, row.requestedBy,
            selectCounterpartId (world.directory.findActiveMemberIds row.bondId) row.requestedBy⟩
            viewerId,
          world.directory.findMemberNames row.bondId⟩, world)
      else (.error expenseNotFound, world) := by
  have kept : Option.filter (fun row : ExpenseEntity => decide (row.deletedAt = none))
      (some row) = some row := by simp [alive]
  by_cases member : world.directory.isActiveBondForMember row.bondId viewerId
  all_goals
    simp [loadForViewer, findAliveById, findOne, existsBy, isActiveBondForMember, counterpartOf,
      findActiveMemberIds, findMemberNames, perform, Handler.perform, Handler.run, Handler.bind, serve,
      there, kept, member]

theorem run_verifyCategoryActive (categoryId : Option Uuid) (world : World) :
    (verifyCategoryActive categoryId).run serve world =
      match world.directory.findActiveById categoryId with
      | some category => (.ok category, world)
      | none => (.error (badRequestException "Category is unknown or inactive"), world) := by
  simp only [verifyCategoryActive, findActiveById, perform, Handler.bind_eq, Handler.perform,
    Handler.call_bind, Handler.run, serve]
  cases world.directory.findActiveById categoryId <;> rfl

/-- The check of the patch succeeds, or fails, on the category and the date alone. -/
theorem run_verifyPatch (patch : ExpenseEditableFields) (world : World) :
    if Unverified world patch then
      ∃ error, (verifyPatch patch).run serve world = (.error error, world)
    else (verifyPatch patch).run serve world = (.ok (), world) := by
  have dates : if patch.expenseDate.any (fun expenseDate => !expenseDate.any isRealDate) then
        ∃ error, (verifyDate patch.expenseDate).run serve world = (.error error, world)
      else (verifyDate patch.expenseDate).run serve world = (.ok (), world) := by
    cases patch.expenseDate with
    | none => rfl
    | some expenseDate =>
      by_cases real : expenseDate.any isRealDate
      all_goals simp [verifyDate, parseExpenseDate, real, Handler.run]
  unfold verifyPatch Unverified
  cases patch.categoryId with
  | none =>
    simp only [Option.any_none, Bool.false_or]
    exact dates
  | some categoryId =>
    simp only [Handler.bind_eq, Handler.run_bind, run_verifyCategoryActive, Option.any_some]
    cases found : world.directory.findActiveById categoryId with
    | none => exact ⟨_, rfl⟩
    | some category =>
      simp only [Option.isNone_some, Bool.false_or]
      exact dates

/-- What is patched keeps its id, and what the service's patches do not name. -/
@[simp] theorem ExpensePatch.onto_id (patch : ExpensePatch) (row : ExpenseEntity) (now : Instant) :
    (patch.onto row now).id = row.id := rfl

/-- The guarded update of a pending row that nobody has locked. -/
theorem serve_updateGuarded (write : GuardedWrite) (there : world.expenses.get write.id = some row)
    (guard : guarded write.expectedStatus row) :
    serve (.updateGuarded write) world =
      if world.locks write.id || write.patch.violatesNotNull then (.error .fault, world)
      else (.ok true, write.commit row world) := by
  by_cases locked : world.locks write.id
  · simp [serve, updateGuarded, locked]
  · by_cases violated : write.patch.violatesNotNull
    all_goals simp [serve, updateGuarded, locked, there, Option.filter, guard, violated]

theorem get_commit (write : GuardedWrite) (there : world.expenses.get write.id = some row) :
    (write.commit row world).expenses.get write.id = some (write.patch.onto row world.clock) := by
  have key : (write.patch.onto row world.clock).id = write.id := by
    rw [ExpensePatch.onto_id]
    exact Table.key_of_get there
  have found : world.expenses.get (write.patch.onto row world.clock).id = some row := by
    rw [key, there]
  rw [← key]
  exact Table.get_put_self found

end Runs

/-! ## The columns of the update -/

section Columns

variable {isUUID : String → Bool} {categories : List StoredCategory} {silent : Silence}
  {world : World} {row : ExpenseEntity} {dto : UpdateExpenseDto} {viewerId : Uuid}

/-- A date that the service takes for real exists. -/
theorem exists_date_of_isRealDate {value : String} (real : isRealDate value) :
    ∃ year month day : ℕ, year ≤ 9999 ∧ IsDate year month day ∧ value = dateText year month day := by
  obtain ⟨day, parsed, returned⟩ := (Option.any_eq_true _ _).mp real
  exact exists_date_of_returned parsed (of_decide_eq_true returned)

/-- The row that an accepted update leaves. -/
def ExpenseEntity.updated (row : ExpenseEntity) (dto : UpdateExpenseDto) (now : Instant) :
    ExpenseEntity :=
  row.withColumns ((buildPatch dto).apply row.editable) now

@[simp] theorem updated_concept (now : Instant) :
    (row.updated dto now).concept = dto.concept.join.getD row.concept := rfl

@[simp] theorem updated_description (now : Instant) :
    (row.updated dto now).description = dto.description.getD row.description := rfl

@[simp] theorem updated_amount (now : Instant) :
    (row.updated dto now).amount = dto.amount.join.getD row.amount := rfl

@[simp] theorem updated_expenseDate (now : Instant) :
    (row.updated dto now).expenseDate = dto.expenseDate.join.getD row.expenseDate := rfl

@[simp] theorem updated_splitRatioPayer (now : Instant) : (row.updated dto now).splitRatioPayer =
    (dto.splitRatioPayer.map fun payer => (splitRatios payer).1).getD row.splitRatioPayer := rfl

@[simp] theorem updated_splitRatioOther (now : Instant) : (row.updated dto now).splitRatioOther =
    (dto.splitRatioPayer.map fun payer => (splitRatios payer).2).getD row.splitRatioOther := rfl

/-- A field that is checked, and falls back on a column that was valid. -/
theorem isOptional_getD {α : Type} {check : α → Bool} {field : Option (Option α)} {old : α}
    (checked : isOptional check field) (valid : check old) : check (field.join.getD old) := by
  cases found : field.join with
  | none => exact valid
  | some value =>
    rw [isOptional, found] at checked
    exact checked

theorem ratios_of_isRatio {payer : Option ℤ} (within : payer.all isRatio) :
    (splitRatios payer).1 + (splitRatios payer).2 = WHOLE ∧
      (0 ≤ (splitRatios payer).1 ∧ (splitRatios payer).1 ≤ WHOLE) ∧
      0 ≤ (splitRatios payer).2 ∧ (splitRatios payer).2 ≤ WHOLE := by
  have within : isRatio (payer.getD DEFAULT_SPLIT_PAYER) := by
    cases payer with
    | none => decide
    | some ratio => exact within
  simp only [isRatio, decide_eq_true_eq] at within
  simp only [splitRatios]
  omega

/-- What an accepted body with a real date leaves of valid columns is valid. -/
theorem valid_apply {columns : Editable} (accepted : dto.accepted isUUID)
    (dated : dto.expenseDate.all (·.any isRealDate)) (valid : columns.Valid) :
    ((buildPatch dto).apply columns).Valid := by
  simp only [UpdateExpenseDto.accepted, decide_eq_true_eq] at accepted
  obtain ⟨concept, -, amount, -, -, ratio⟩ := accepted
  constructor
  · have length : isLength 1 255 (dto.concept.join.getD columns.concept) :=
      isOptional_getD concept (decide_eq_true valid.concept)
    exact of_decide_eq_true length
  · have within : isAmount (dto.amount.join.getD columns.amount) :=
      isOptional_getD amount (decide_eq_true valid.amount)
    exact of_decide_eq_true within
  · cases given : dto.expenseDate with
    | none => simpa [ExpenseEditableFields.apply, buildPatch, given] using valid.expenseDate
    | some expenseDate =>
      rw [given, Option.all_some] at dated
      obtain ⟨value, rfl, real⟩ := (Option.any_eq_true _ _).mp dated
      simpa [ExpenseEditableFields.apply, buildPatch, given] using exists_date_of_isRealDate real
  all_goals
    cases given : dto.splitRatioPayer with
    | none =>
      have kept := valid.ratios
      have payer := valid.payer
      have other := valid.other
      simpa [ExpenseEditableFields.apply, buildPatch, given] using ‹_›
    | some payer =>
      have within : payer.all isRatio := by
        rw [given] at ratio
        exact ratio
      have share := ratios_of_isRatio within
      simp only [ExpenseEditableFields.apply, buildPatch, given, Option.map_some, Option.getD_some]
      omega

end Columns

def salud : StoredCategory where
  id := "6f9619ff-8b86-4d01-b42d-00c04fc964ff"
  name := "Salud"
  isActive := true

/-- A pending expense of 100, of a category, asked for by `u1`. -/
def asked : ExpenseEntity where
  id := "e1"
  bondId := "b1"
  categoryId := some salud.id
  concept := "Consulta"
  description := none
  amount := 10000
  expenseDate := "2026-10-30"
  splitRatioPayer := 5000
  splitRatioOther := 5000
  status := .pending
  requestedBy := "u1"
  createdAt := 0
  updatedAt := 0

def filed : World :=
  { start with
    expenses := ⟨[asked], by decide⟩
    directory :=
      { openDirectory with findActiveById := CategoriesRepository.findActiveById [salud] } }

def renamed : UpdateExpenseDto := { concept := some (some " Control "), description := some none }

/-- The validators of the creation. -/
def CreateExpenseDto.accepted (isUUID : String → Bool) (dto : CreateExpenseDto) : Bool :=
  isLength 1 255 dto.concept ∧ dto.description.all (isLength 0 2000) ∧ isAmount dto.amount ∧
    isUUID dto.categoryId ∧ matchesDate dto.expenseDate ∧ dto.splitRatioPayer.all isRatio

/-- The pipe lets the body of the request through. -/
def Entry.accepted (isUUID : String → Bool) : Entry → Bool
  | .create _ dto _ => dto.accepted isUUID
  | .update _ dto _ => dto.accepted isUUID
  | _ => true

/-- The call writes valid columns, and leaves those that were valid so. -/
def Call.valid : Call → Prop
  | .insertWithManager input => ∀ id now, (input.saved id now).editable.Valid
  | .updateGuarded write => ∀ columns : Editable, columns.Valid → (write.patch.apply columns).Valid
  | _ => True

theorem valid_of_unrecorded {query : Call} (unrecorded : query.unrecorded) : query.valid := by
  cases query <;> trivial

theorem valid_of_reads {query : Call} (reads : query.reads) : query.valid := by
  cases query <;> trivial

section Requests

variable {isUUID : String → Bool}

theorem valid_of_calls {β : Type} {handler : Request β} (calls : handler.Calls Call.reads) :
    handler.Calls Call.valid := calls.mono fun _ => valid_of_reads

theorem written_valid {write : GuardedWrite} {β : Type} {rest : Request β}
    (valid : Call.valid (.updateGuarded write)) (more : rest.Calls Call.valid) :
    ((guardedUpdate write).bind fun applied =>
      if !applied then .throw (conflictException CONFLICT) else rest).Calls Call.valid := by
  refine .bind (Handler.calls_perform.mpr valid) fun applied => ?_
  cases applied with
  | false => trivial
  | true => exact more

/-- What comes after the reading of a date comes after a real one. -/
theorem parseExpenseDate_valid {value : Option String} {β : Type} {rest : Unit → Request β}
    (more : value.any isRealDate → (rest ()).Calls Call.valid) :
    ((parseExpenseDate value).bind rest).Calls Call.valid := by
  unfold parseExpenseDate
  split
  · rename_i real
    exact more real
  · trivial

theorem verifyPatch_valid {patch : ExpenseEditableFields} {β : Type} {rest : Unit → Request β}
    (more : patch.expenseDate.all (·.any isRealDate) → (rest ()).Calls Call.valid) :
    ((verifyPatch patch).bind rest).Calls Call.valid := by
  have dates : ((verifyDate patch.expenseDate).bind rest).Calls Call.valid := by
    cases given : patch.expenseDate with
    | none => exact more (by rw [given]; rfl)
    | some expenseDate => exact parseExpenseDate_valid fun real => more (by rw [given]; exact real)
  unfold verifyPatch
  cases patch.categoryId with
  | none => exact dates
  | some categoryId =>
    change Handler.Calls Call.valid (((verifyCategoryActive categoryId).bind fun _ => _).bind rest)
    rw [Handler.bind_assoc]
    exact (valid_of_calls (verifyCategoryActive_reads categoryId)).bind fun _ => dates

theorem create_valid (bondId viewerId : Uuid) {dto : CreateExpenseDto}
    (accepted : dto.accepted isUUID) : (create bondId dto viewerId).Calls Call.valid := by
  simp only [CreateExpenseDto.accepted, decide_eq_true_eq] at accepted
  obtain ⟨concept, -, amount, -, -, ratio⟩ := accepted
  refine .bind (valid_of_calls (assertBondMember_reads bondId viewerId)) fun _ => ?_
  refine .bind (valid_of_calls (verifyCategoryActive_reads _)) fun category => ?_
  refine parseExpenseDate_valid fun real => ?_
  have shares := ratios_of_isRatio ratio
  refine .bind (Handler.calls_perform.mpr fun id now => ?_) fun saved => ?_
  · exact
      { concept := of_decide_eq_true concept
        amount := of_decide_eq_true amount
        expenseDate := exists_date_of_isRealDate real
        ratios := shares.1
        payer := shares.2.1
        other := shares.2.2 }
  · refine .bind (.bind (Handler.calls_perform.mpr trivial) fun _ => trivial) fun counterpartId => ?_
    exact .bind (Handler.calls_perform.mpr trivial) fun names => trivial

theorem update_valid (id viewerId : Uuid) {dto : UpdateExpenseDto} (accepted : dto.accepted isUUID) :
    (update id dto viewerId).Calls Call.valid := by
  refine .bind (valid_of_calls (loadForViewer_reads id viewerId)) fun viewed => ?_
  split
  · trivial
  · dsimp only
    split
    · trivial
    · refine verifyPatch_valid fun dated => ?_
      exact written_valid (fun columns valid => valid_apply accepted dated valid)
        (valid_of_calls (getDetail_reads id viewerId))

theorem cancel_valid (id viewerId : Uuid) : (cancel id viewerId).Calls Call.valid := by
  refine .bind (valid_of_calls (loadForViewer_reads id viewerId)) fun viewed => ?_
  split
  · trivial
  · refine .bind (Handler.calls_perform.mpr trivial) fun now => ?_
    exact written_valid (fun columns valid => valid) trivial

theorem transition_valid (params : TransitionParams) : (transition params).Calls Call.valid := by
  refine .bind (valid_of_calls (loadForViewer_reads _ _)) fun viewed => ?_
  split
  · trivial
  · exact written_valid (fun columns valid => valid) (valid_of_calls (getDetail_reads _ _))

theorem handler_valid {config : Config} {entry : Entry} (accepted : entry.accepted isUUID) :
    (handler config entry).Calls Call.valid := by
  cases entry with
  | create bondId dto viewerId => exact (create_valid bondId viewerId accepted).bind fun _ => trivial
  | getDetail id viewerId =>
    exact (valid_of_calls (getDetail_reads id viewerId)).bind fun _ => trivial
  | update id dto viewerId => exact (update_valid id viewerId accepted).bind fun _ => trivial
  | cancel id viewerId => exact cancel_valid id viewerId
  | approve id viewerId =>
    exact .bind (.bind (Handler.calls_perform.mpr trivial) fun now => transition_valid _)
      fun _ => trivial
  | reject id viewerId rawReason => exact (transition_valid _).bind fun _ => trivial
  | pay id viewerId =>
    exact .bind (.bind (Handler.calls_perform.mpr trivial) fun now => transition_valid _)
      fun _ => trivial
  | staleReminder =>
    have scan := emitStaleEvents_unrecorded.mono fun _ => valid_of_unrecorded
    exact .bind (.tryCatch (.bind scan fun _ => trivial) fun _ => trivial) fun _ => trivial
  | retention =>
    have idle : (retention config).Calls Call.valid := retention_idle.mono fun _ idle =>
      valid_of_unrecorded (unrecorded_of_idle idle)
    exact idle.bind fun _ => trivial

end Requests

/-- Every expense is valid. -/
def World.Valid (world : World) : Prop := ∀ row ∈ world.expenses.rows, row.editable.Valid

theorem World.Valid.served {world : World} (held : world.Valid) (query : Call)
    (valid : query.valid) : (serve query world).2.Valid := by
  cases query with
  | insertWithManager input =>
    simp only [serve, insertWithManager]
    split
    · exact held
    · rename_i inserted accepted
      intro row member
      simp only [World.emit, Table.rows_insert accepted, List.mem_append, List.mem_singleton] at member
      obtain old | rfl := member
      · exact held row old
      · exact valid _ _
  | updateGuarded write =>
    simp only [serve, updateGuarded]
    split
    · exact held
    · split
      · exact held
      · rename_i found
        split
        · exact held
        · intro row member
          obtain old | rfl := Table.mem_put member
          · exact held row old
          · exact valid _ (held _ (Table.mem_of_get (Option.filter_eq_some_iff.mp found).1))
  | lockStale txn today id =>
    simp only [serve, lockStale]
    split
    · exact held
    · split
      · exact held
      · split <;> exact held
  | commitStale txn staleExpenses =>
    simp only [serve, commitStale]
    split <;> exact held
  | _ => exact held

/-- In every run whose bodies the pipe has let through, every expense is valid. -/
theorem valid_of_run {isUUID : String → Bool} {config : Config}
    {cfg : Interleaving.Config (expenses config)}
    (run : Run (expenses config) (fun _ move => ∀ entry, move = .arrive entry →
      entry.accepted isUUID) cfg) : cfg.world.Valid := by
  have kept := run.invariant_of_calls World.Valid (fun _ => nofun)
    (fun how world held => by cases how <;> exact held)
    (fun query world valid held => held.served query valid)
    fun _ entry accepted => handler_valid (accepted entry rfl)
  exact kept.1

end ParentalCoord.Expenses

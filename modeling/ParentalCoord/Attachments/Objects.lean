import ParentalCoord.Attachments.Service

/-!
Whether every attachment has its object.

A row is made for an object that is there, and no two requests make the same object.  But
two rows may have one key, and who removes an object does it for one of them.  So the rows
keep their objects as long as nobody removes one that another row has, and no longer.
-/

namespace ParentalCoord.Attachments

open Activities Bonds Expenses Store

variable {world after : World}

/-- A row has the key. -/
def World.Refers (world : World) (key : String) : Prop :=
  (∃ row ∈ world.attachments.rows, row.fileUrl = key) ∨
    ∃ row ∈ world.expenseAttachments.rows, row.fileUrl = key

/-- A row beside one attachment of an activity has the key. -/
def World.RefersBeside (world : World) (id : Uuid) (key : String) : Prop :=
  (∃ row ∈ world.attachments.rows, row.id ≠ id ∧ row.fileUrl = key) ∨
    ∃ row ∈ world.expenseAttachments.rows, row.fileUrl = key

/-- Every row has the key of an object in storage. -/
def World.Resolves (world : World) : Prop := ∀ key, world.Refers key → key ∈ world.objects

/-- The step removes no object that a row is left with. -/
def World.Spares (world : World) : Step → Prop
  | .remove activityId user attachmentId => ∀ activity attachment,
      ActivityAttachmentsService.ensureOwn world activityId user attachmentId
        "Cannot delete this attachment" = .ok (activity, attachment) →
      (world.enabled && world.answers) = true →
      ¬world.RefersBeside attachment.id attachment.fileUrl
  | .replace activityId user attachmentId dto => ∀ activity attachment,
      ActivityAttachmentsService.ensureOwn world activityId user attachmentId
        "Cannot replace this attachment" = .ok (activity, attachment) →
      ensureUploaded world (ActivityAttachmentsService.pathStart activity) dto.path = .ok () →
      dto.path ≠ attachment.fileUrl ∧ ¬world.RefersBeside attachment.id attachment.fileUrl
  | _ => True

/-! ## What the guards let through -/

theorem uploaded {start path : String} (passed : ensureUploaded world start path = .ok ()) :
    StorageService.objectExists world path := by
  unfold ensureUploaded at passed
  split at passed
  · cases passed
  · split at passed
    · cases passed
    · rename_i there
      exact Classical.not_not.mp there

theorem mem_of_exists {path : String} (exists_ : StorageService.objectExists world path) :
    (world.enabled && world.answers) = true ∧ path ∈ world.objects := by
  simpa [StorageService.objectExists] using exists_

theorem own_cases {activityId attachmentId : Uuid} {user : AuthUser} {message : String}
    {activity : ActivityEntity} {attachment : ActAttachmentEntity}
    (owned : ActivityAttachmentsService.ensureOwn world activityId user attachmentId message =
      .ok (activity, attachment)) : world.attachments.get attachment.id = some attachment := by
  obtain ⟨editable, -, owned⟩ := bind_ok owned
  split at owned
  · cases owned
  · rename_i found there
    split at owned
    · cases owned
    · cases owned
      obtain ⟨there, -⟩ := Option.filter_eq_some_iff.mp there
      rw [Table.key_of_get there]
      exact there

/-! ## What a step can do -/

/-- Nothing is removed, and what a row has now, a row had, or it is in storage. -/
structure Harmless (world after : World) : Prop where
  kept : ∀ key ∈ world.objects, key ∈ after.objects
  had : ∀ key, after.Refers key → world.Refers key ∨ key ∈ world.objects

theorem Harmless.same (world : World) : Harmless world world := ⟨fun _ there => there, fun _ => .inl⟩

theorem Harmless.resolves (harmless : Harmless world after) (resolves : world.Resolves) :
    after.Resolves := fun key refers =>
  harmless.kept key ((harmless.had key refers).elim (resolves key) id)

/-- A row is added, with the key of an object or of another row. -/
theorem Harmless.attached {entity : ActAttachmentEntity} {attachments : Table ActAttachmentEntity.id}
    (added : world.attachments.insert entity = some attachments) (there : entity.fileUrl ∈ world.objects) :
    Harmless world { world with attachments := attachments } := by
  refine ⟨fun _ there => there, ?_⟩
  rintro key (⟨row, listed, rfl⟩ | refers)
  · change row ∈ attachments.rows at listed
    rw [Table.rows_insert added, List.mem_append, List.mem_singleton] at listed
    obtain listed | rfl := listed
    · exact .inl (.inl ⟨row, listed, rfl⟩)
    · exact .inr there
  · exact .inl (.inr refers)

theorem Harmless.attachedExpense {entity : ExpenseAttachmentEntity}
    {expenseAttachments : Table ExpenseAttachmentEntity.id}
    (added : world.expenseAttachments.insert entity = some expenseAttachments)
    (there : entity.fileUrl ∈ world.objects ∨ world.Refers entity.fileUrl) :
    Harmless world { world with expenseAttachments := expenseAttachments } := by
  refine ⟨fun _ there => there, ?_⟩
  rintro key (refers | ⟨row, listed, rfl⟩)
  · exact .inl (.inl refers)
  · change row ∈ expenseAttachments.rows at listed
    rw [Table.rows_insert added, List.mem_append, List.mem_singleton] at listed
    obtain listed | rfl := listed
    · exact .inl (.inr ⟨row, listed, rfl⟩)
    · exact there.symm

theorem confirm_harmless {activityId : Uuid} {user : AuthUser} {dto : ConfirmAttachmentDto}
    {response : AttachmentResponse}
    (confirmed : ActivityAttachmentsService.confirm world activityId user dto = .ok (response, after)) :
    Harmless world after := by
  obtain ⟨activity, -, confirmed⟩ := bind_ok confirmed
  obtain ⟨⟨⟩, passed, confirmed⟩ := bind_ok confirmed
  dsimp only at confirmed
  split at confirmed
  · cases confirmed
  · rename_i attachments added
    cases confirmed
    exact .attached added (mem_of_exists (uploaded passed)).2

theorem rename_harmless {activityId attachmentId : Uuid} {user : AuthUser} {fileName : String}
    {response : AttachmentResponse}
    (renamed : ActivityAttachmentsService.rename world activityId user attachmentId fileName =
      .ok (response, after)) : Harmless world after := by
  obtain ⟨⟨activity, attachment⟩, owned, renamed⟩ := bind_ok renamed
  have found := own_cases owned
  cases renamed
  refine ⟨fun _ there => there, ?_⟩
  rintro key (⟨row, listed, rfl⟩ | refers)
  · obtain listed | rfl := Table.mem_put listed
    · exact .inl (.inl ⟨row, listed, rfl⟩)
    · exact .inl (.inl ⟨attachment, Table.mem_of_get found, rfl⟩)
  · exact .inl (.inr refers)

theorem createAttachment_harmless {entity : ExpenseAttachmentEntity} {response : AttachmentResponse}
    (created : ExpenseAttachmentsService.createAttachment world entity = .ok (response, after))
    (there : entity.fileUrl ∈ world.objects ∨ world.Refers entity.fileUrl) : Harmless world after := by
  unfold ExpenseAttachmentsService.createAttachment at created
  split at created
  · cases created
  · rename_i expenseAttachments added
    cases created
    exact .attachedExpense added there

theorem confirmExpense_harmless {expenseId : Uuid} {user : AuthUser} {dto : ConfirmAttachmentDto}
    {response : AttachmentResponse}
    (confirmed : ExpenseAttachmentsService.confirm world expenseId user dto = .ok (response, after)) :
    Harmless world after := by
  obtain ⟨expense, -, confirmed⟩ := bind_ok confirmed
  obtain ⟨⟨⟩, passed, created⟩ := bind_ok confirmed
  exact createAttachment_harmless created (.inl (mem_of_exists (uploaded passed)).2)

theorem convert_harmless {expenseId activityAttachmentId : Uuid} {user : AuthUser}
    {response : AttachmentResponse}
    (converted : ExpenseAttachmentsService.convert world expenseId user activityAttachmentId =
      .ok (response, after)) : Harmless world after := by
  obtain ⟨expense, -, converted⟩ := bind_ok converted
  split at converted
  · cases converted
  · rename_i attachment found
    split at converted
    · cases converted
    · obtain ⟨⟨response, created⟩, stored, converted⟩ := bind_ok converted
      cases converted
      have harmless := createAttachment_harmless stored
        (.inr (.inl ⟨attachment, Table.mem_of_get found, rfl⟩))
      exact ⟨harmless.kept, harmless.had⟩

/-! ## What a removal leaves -/

theorem removeObject_eq (world : World) (path : String) :
    (StorageService.removeObject world path).2 =
      { world with objects :=
          if world.enabled && world.answers then world.objects.filter (· ≠ path)
          else world.objects } := by
  unfold StorageService.removeObject
  split <;> rfl

/-- All that is left has its object, unless it has the one that is gone. -/
theorem without_iff {refers : String → Prop} {objects : List String} {gone : String}
    (within : ∀ key, refers key → key ∈ objects) :
    (∀ key, refers key → key ∈ objects.filter (· ≠ gone)) ↔ ¬refers gone := by
  constructor
  · intro left refers
    have there := (List.mem_filter.mp (left gone refers)).2
    exact absurd rfl (of_decide_eq_true there)
  · intro none key refers
    refine List.mem_filter.mpr ⟨within key refers, decide_eq_true fun same => none ?_⟩
    rw [← same]
    exact refers

theorem removed_refers {id : Uuid} {objects : List String} {key : String} :
    ({ world with
      objects := objects
      attachments := world.attachments.filter (·.id ≠ id) } : World).Refers key ↔
        world.RefersBeside id key := by
  refine or_congr ⟨?_, ?_⟩ Iff.rfl
  · rintro ⟨row, listed, own⟩
    obtain ⟨listed, apart⟩ := List.mem_filter.mp listed
    exact ⟨row, listed, of_decide_eq_true apart, own⟩
  · rintro ⟨row, listed, apart, own⟩
    exact ⟨row, List.mem_filter.mpr ⟨listed, decide_eq_true apart⟩, own⟩

theorem replaced_refers {attachment replaced : ActAttachmentEntity} {objects : List String}
    {key : String} (found : world.attachments.get attachment.id = some attachment)
    (same : replaced.id = attachment.id) :
    ({ world with objects := objects, attachments := world.attachments.put replaced } : World).Refers
        key ↔ replaced.fileUrl = key ∨ world.RefersBeside attachment.id key := by
  rw [← same] at found ⊢
  constructor
  · rintro (⟨row, listed, own⟩ | refers)
    · obtain rfl | ⟨listed, apart⟩ := (Table.mem_put_iff found).mp listed
      · exact .inl own
      · exact .inr (.inl ⟨row, listed, apart, own⟩)
    · exact .inr (.inr refers)
  · rintro (own | ⟨row, listed, apart, own⟩ | refers)
    · exact .inl ⟨replaced, (Table.mem_put_iff found).mpr (.inl rfl), own⟩
    · exact .inl ⟨row, (Table.mem_put_iff found).mpr (.inr ⟨listed, apart⟩), own⟩
    · exact .inr refers

theorem World.Resolves.beside (resolves : world.Resolves) (id key : String)
    (refers : world.RefersBeside id key) : key ∈ world.objects := by
  refine resolves key (refers.imp ?_ fun refers => refers)
  rintro ⟨row, listed, -, own⟩
  exact ⟨row, listed, own⟩

/-! ## Steps and sequences -/

theorem remove_resolves_iff (resolves : world.Resolves) (activityId : Uuid) (user : AuthUser)
    (attachmentId : Uuid) : (world.after (.remove activityId user attachmentId)).Resolves ↔
      world.Spares (.remove activityId user attachmentId) := by
  cases owned : ActivityAttachmentsService.ensureOwn world activityId user attachmentId
      "Cannot delete this attachment" with
  | error error =>
    have same : world.after (.remove activityId user attachmentId) = world := by
      simp [World.after, ActivityAttachmentsService.remove, owned, World.answered, bind, Except.bind,
        Except.map]
    rw [same]
    exact iff_of_true resolves fun activity attachment passed => by cases owned.symm.trans passed
  | ok pair =>
    obtain ⟨activity, attachment⟩ := pair
    have spares : world.Spares (.remove activityId user attachmentId) ↔
        ((world.enabled && world.answers) = true →
          ¬world.RefersBeside attachment.id attachment.fileUrl) := by
      constructor
      · exact fun spares => spares activity attachment owned
      · intro beside activity' attachment' passed
        cases owned.symm.trans passed
        exact beside
    have removed : ActivityAttachmentsService.remove world activityId user attachmentId =
        .ok { world with
          objects := if world.enabled && world.answers then
            world.objects.filter (· ≠ attachment.fileUrl) else world.objects
          attachments := world.attachments.filter (·.id ≠ attachment.id) } := by
      simp only [ActivityAttachmentsService.remove, owned, bind, Except.bind, removeObject_eq]
      rfl
    have within := resolves.beside attachment.id
    rw [spares, World.after, removed]
    simp only [World.Resolves, World.answered, Except.map, removed_refers]
    by_cases works : (world.enabled && world.answers) = true
    · rw [if_pos works]
      exact (without_iff within).trans ⟨fun alone _ => alone, fun alone => alone works⟩
    · rw [if_neg works]
      exact iff_of_true within fun up => absurd up works

theorem replace_resolves_iff (resolves : world.Resolves) (activityId : Uuid) (user : AuthUser)
    (attachmentId : Uuid) (dto : ConfirmAttachmentDto) :
    (world.after (.replace activityId user attachmentId dto)).Resolves ↔
      world.Spares (.replace activityId user attachmentId dto) := by
  cases owned : ActivityAttachmentsService.ensureOwn world activityId user attachmentId
      "Cannot replace this attachment" with
  | error error =>
    have same : world.after (.replace activityId user attachmentId dto) = world := by
      simp [World.after, ActivityAttachmentsService.replace, owned, World.answered, bind, Except.bind]
    rw [same]
    exact iff_of_true resolves fun activity attachment passed => by cases owned.symm.trans passed
  | ok pair =>
    obtain ⟨activity, attachment⟩ := pair
    cases passed : ensureUploaded world (ActivityAttachmentsService.pathStart activity) dto.path with
    | error error =>
      have same : world.after (.replace activityId user attachmentId dto) = world := by
        simp [World.after, ActivityAttachmentsService.replace, owned, passed, World.answered, bind,
          Except.bind]
      rw [same]
      refine iff_of_true resolves fun activity' attachment' owned' passed' => ?_
      cases owned.symm.trans owned'
      cases passed.symm.trans passed'
    | ok done =>
      obtain ⟨works, there⟩ := mem_of_exists (uploaded passed)
      have spares : world.Spares (.replace activityId user attachmentId dto) ↔
          dto.path ≠ attachment.fileUrl ∧ ¬world.RefersBeside attachment.id attachment.fileUrl := by
        constructor
        · exact fun spares => spares activity attachment owned passed
        · intro beside activity' attachment' owned' _
          cases owned.symm.trans owned'
          exact beside
      have after : world.after (.replace activityId user attachmentId dto) =
          { world with
            objects := world.objects.filter (· ≠ attachment.fileUrl)
            attachments := world.attachments.put { attachment with
              fileUrl := dto.path, fileName := dto.fileName, fileType := dto.mimeType } } := by
        simp only [World.after, ActivityAttachmentsService.replace, owned, passed, bind, Except.bind,
          World.answered, removeObject_eq, works, if_true]
        rfl
      have within : ∀ key, dto.path = key ∨ world.RefersBeside attachment.id key →
          key ∈ world.objects := by
        rintro key (rfl | refers)
        · exact there
        · exact resolves.beside attachment.id key refers
      rw [after, spares]
      unfold World.Resolves
      simp only [replaced_refers (own_cases owned)]
      rw [without_iff within, not_or]

/-- One step leaves every row its object exactly when it spares the objects of the others. -/
theorem step_resolves_iff (resolves : world.Resolves) (step : Step) :
    (world.after step).Resolves ↔ world.Spares step := by
  have answered : ∀ {α : Type} (result : Except Exception (α × World)),
      (∀ response after, result = .ok (response, after) → Harmless world after) →
        (world.answered result).Resolves := by
    intro α result harmless
    cases result with
    | error error => exact resolves
    | ok pair => exact (harmless pair.1 pair.2 rfl).resolves resolves
  cases step with
  | remove activityId user attachmentId => exact remove_resolves_iff resolves activityId user attachmentId
  | replace activityId user attachmentId dto =>
    exact replace_resolves_iff resolves activityId user attachmentId dto
  | confirm activityId user dto =>
    exact iff_of_true (answered _ fun _ _ confirmed => confirm_harmless confirmed) trivial
  | rename activityId user attachmentId fileName =>
    exact iff_of_true (answered _ fun _ _ renamed => rename_harmless renamed) trivial
  | confirmExpense expenseId user dto =>
    exact iff_of_true (answered _ fun _ _ confirmed => confirmExpense_harmless confirmed) trivial
  | convert expenseId user activityAttachmentId =>
    exact iff_of_true (answered _ fun _ _ converted => convert_harmless converted) trivial
  | upload path =>
    exact iff_of_true (fun key refers => List.mem_cons_of_mem _ (resolves key refers)) trivial
  | surroundings surroundings => exact iff_of_true resolves trivial

/-- **Every attachment has its object** in every sequence of requests that removes no object which
another row has, and none that a row is replaced with; and the first request that does
leaves a row without its object. -/
theorem attachments_resolve (run : Run World.Spares world) :
    world.Resolves ∧ ∀ step, (world.after step).Resolves ↔ world.Spares step := by
  suffices resolves : world.Resolves from ⟨resolves, step_resolves_iff resolves⟩
  induction run with
  | start surroundings objects => rintro key (⟨row, listed, -⟩ | ⟨row, listed, -⟩) <;> cases listed
  | step step before spares ih => exact (step_resolves_iff ih step).mpr spares

/-- A bond of two users with a child, an activity of one of them and an expense of the other. -/
def household (generated : Uuid) : Surroundings where
  bonds :=
    { bonds := .singleton ⟨"b1", none, true, 0⟩
      members := ⟨[⟨"m1", "b1", "u1", "progenitor", some 0, none⟩,
        ⟨"m2", "b1", "u2", "progenitor", some 0, none⟩], by decide⟩
      children := .singleton ⟨"k1", "b1", "Ana", "Ruiz", none⟩
      users := ⟨[⟨"u1", "user"⟩, ⟨"u2", "user"⟩], by decide⟩
      personalData := .empty }
  activities := .singleton
    { id := "a1", bondId := "b1", categoryId := "c1", type := .event, status := .assigned,
      version := 1, criticality := .low, title := "Dentist", description := "", createdBy := "u1",
      assignedTo := some "u2", scheduledStart := none, scheduledEnd := none, deadline := some 0,
      notifBefore := none, notifAfter := none }
  expenses := .singleton
    { id := "e1", bondId := "b1", categoryId := some "c1", concept := "Dentist", description := none,
      amount := 4599, expenseDate := "2026-06-30", splitRatioPayer := 50, splitRatioOther := 50,
      status := .pending, requestedBy := "u1", createdAt := 0, updatedAt := 0, activityId := none }
  generated := generated
  clock := 0
  enabled := true
  answers := true
  signed := some

/-- An invoice is attached to the activity, and converted into one of the expense. -/
def conversion : List Step :=
  [.upload "activities/b1/a1/invoice.pdf",
    .confirm "a1" ⟨"u2", "user"⟩ ⟨"activities/b1/a1/invoice.pdf", "invoice.pdf", "application/pdf"⟩,
    .surroundings (household "t2"), .convert "e1" ⟨"u1", "user"⟩ "t1"]

def converted : World :=
  conversion.foldl World.after ⟨household "t1", .empty, .empty, []⟩

/-- Nothing is removed by the conversion. -/
theorem converted_run : Run World.Spares converted := by
  refine (Run.start (household "t1") []).steps conversion fun step member world => ?_
  simp only [conversion, List.mem_cons, List.not_mem_nil, or_false] at member
  obtain rfl | rfl | rfl | rfl := member <;> trivial

theorem attachments_resolve_converted : converted.Resolves ∧
    ∀ step, (converted.after step).Resolves ↔ converted.Spares step :=
  attachments_resolve converted_run

/-- The one who uploaded the invoice removes it from the activity, and the expense of the other is
left with a key and no object. -/
theorem removed_evidence : ¬∀ world, Run (fun _ _ => True) world → world.Resolves := by
  intro all
  have run : Run (fun _ _ => True) converted :=
    (Run.start (household "t1") []).steps conversion fun _ _ _ => trivial
  have lost : (converted.after (.remove "a1" ⟨"u2", "user"⟩ "t1")).expenseAttachments.rows.any
      fun row => row.fileUrl ∉ (converted.after (.remove "a1" ⟨"u2", "user"⟩ "t1")).objects := by
    decide +kernel
  obtain ⟨row, listed, absent⟩ := List.any_eq_true.mp lost
  exact of_decide_eq_true absent
    (all _ (run.step (.remove "a1" ⟨"u2", "user"⟩ "t1") trivial) row.fileUrl (.inr ⟨row, listed, rfl⟩))

end ParentalCoord.Attachments

import ParentalCoord.Attachments.Objects
import ParentalCoord.Replacing

/-!
Whose the objects in storage are.

The key of an object names the bond of the activity or the expense that it was uploaded for.  A
row has a key of its own bond, and who is not a member of the bond is given no URL of such a key,
neither to read nor to write it, and removes no such object.
-/

namespace ParentalCoord.Attachments

open Activities Bonds Expenses Store

variable {world after : World} {bondId key : String} {user : AuthUser}

/-! ## Keys of a bond -/

/-- The key of an object for an activity or for an expense of the bond. -/
def UnderBond (bondId key : String) : Prop :=
  ∃ root ∈ ["activities", "expenses"], (root ++ "/" ++ bondId ++ "/").toList <+: key.toList

/-- A key is of one bond. -/
theorem UnderBond.unique {other : String} (under : UnderBond bondId key) (also : UnderBond other key)
    (plain : '/' ∉ bondId.toList) (plain' : '/' ∉ other.toList) : bondId = other := by
  obtain ⟨root, known, rest, written⟩ := under
  obtain ⟨root', known', rest', same⟩ := also
  have roots : ∀ root ∈ ["activities", "expenses"], '/' ∉ root.toList := by decide
  have slash : "/".toList = ['/'] := rfl
  rw [← same] at written
  simp only [String.toList_append, slash, List.append_assoc, List.singleton_append] at written
  obtain ⟨-, written⟩ := append_cons_inj_of_apart (roots root known) (roots root' known') written
  exact String.toList_inj.mp (append_cons_inj_of_apart plain plain' written).1

/-- What goes on behind the bond is for one of its activities or expenses. -/
theorem under_of_begins {root rest : String} (known : root ∈ ["activities", "expenses"])
    (begins : (root ++ "/" ++ bondId ++ "/" ++ rest).toList <+: key.toList) : UnderBond bondId key := by
  refine ⟨root, known, List.IsPrefix.trans ?_ begins⟩
  rw [String.toList_append (t := rest)]
  exact List.prefix_append _ _

theorem under_of_start {activity : ActivityEntity}
    (begins : (ActivityAttachmentsService.pathStart activity).toList <+: key.toList) :
    UnderBond activity.bondId key := by
  refine @under_of_begins _ _ "activities" (activity.id ++ "/") List.mem_cons_self ?_
  rwa [← String.append_assoc]

theorem under_of_begun {expense : StoredExpense}
    (begins : (ExpenseAttachmentsService.keyPrefix expense ++ "/").toList <+: key.toList) :
    UnderBond expense.bondId key := by
  refine @under_of_begins _ _ "expenses" (expense.id ++ "/") (by simp) ?_
  rwa [← String.append_assoc]

/-! ## What the guards let through -/

/-- The user is an active member of the bond. -/
def World.Belongs (world : World) (user : AuthUser) (bondId : Uuid) : Prop :=
  BondsService.isActiveBondForMember world.bonds bondId user.id

theorem belongs_of_isMember (member : isMember (BondsService.findByUserId world.bonds user.id) bondId) :
    world.Belongs user bondId := by
  obtain ⟨active, member, -⟩ := isMember_findByUserId.mp member
  exact isActiveBondForMember_iff.mpr ⟨active, member⟩

section Guards

variable {activityId attachmentId expenseId : Uuid} {activity : ActivityEntity} {expense : StoredExpense}

theorem editable_spec (editable : ActivityAttachmentsService.ensureMemberAndEditable world activityId user =
    .ok activity) : world.activities.get activityId = some activity ∧ world.Belongs user activity.bondId := by
  unfold ActivityAttachmentsService.ensureMemberAndEditable at editable
  split at editable
  · cases editable
  · rename_i found there
    obtain ⟨there, -⟩ := Option.filter_eq_some_iff.mp there
    split at editable
    · cases editable
    · rename_i member
      split at editable
      · cases editable
      · split at editable
        · cases editable
        · cases editable
          exact ⟨there, belongs_of_isMember (Classical.not_not.mp member)⟩

theorem own_spec {message : String} {attachment : ActAttachmentEntity}
    (owned : ActivityAttachmentsService.ensureOwn world activityId user attachmentId message =
      .ok (activity, attachment)) :
    world.activities.get activityId = some activity ∧ world.Belongs user activity.bondId ∧
      attachment.activityId = activityId ∧ attachment ∈ world.attachments.rows := by
  have there := Table.mem_of_get (own_cases owned)
  obtain ⟨editable, checked, owned⟩ := bind_ok owned
  split at owned
  · cases owned
  · rename_i found read
    split at owned
    · cases owned
    · cases owned
      obtain ⟨found, belongs⟩ := editable_spec checked
      obtain ⟨-, own⟩ := Option.filter_eq_some_iff.mp read
      exact ⟨found, belongs, of_decide_eq_true own, there⟩

theorem requester_spec (requester : ExpenseAttachmentsService.ensureRequester world expenseId user = .ok expense) :
    world.expenses.get expenseId = some expense ∧ world.Belongs user expense.bondId := by
  obtain ⟨found, member, requester⟩ := bind_ok requester
  split at requester
  · cases requester
  · cases requester
    unfold ExpenseAttachmentsService.ensureMember at member
    split at member
    · cases member
    · rename_i read there
      obtain ⟨there, -⟩ := Option.filter_eq_some_iff.mp there
      split at member
      · cases member
      · rename_i active
        cases member
        exact ⟨there, Classical.not_not.mp active⟩

theorem start_of_uploaded {start path : String} (passed : ensureUploaded world start path = .ok ()) :
    start.toList <+: path.toList := by
  unfold ensureUploaded at passed
  split at passed
  · cases passed
  · rename_i begins
    exact List.isPrefixOf_iff_prefix.mp (Classical.not_not.mp begins)

end Guards

/-! ## Rows have keys of their bonds -/

/-- Every row has a key of the bond that its activity or its expense is of. -/
structure World.Confined (world : World) : Prop where
  activity : ∀ row ∈ world.attachments.rows, ∃ activity,
    world.activities.get row.activityId = some activity ∧ UnderBond activity.bondId row.fileUrl
  expense : ∀ row ∈ world.expenseAttachments.rows, ∃ expense,
    world.expenses.get row.expenseId = some expense ∧ UnderBond expense.bondId row.fileUrl

/-- Activities and expenses stay, and are of their bonds for good. -/
def World.KeepsBonds (world : World) : Step → Prop
  | .surroundings surroundings =>
      (∀ id activity, world.activities.get id = some activity → ∃ later,
        surroundings.activities.get id = some later ∧ later.bondId = activity.bondId) ∧
      ∀ id expense, world.expenses.get id = some expense → ∃ later,
        surroundings.expenses.get id = some later ∧ later.bondId = expense.bondId
  | _ => True

namespace World.Confined

/-- A row of an activity is put in, or in the place of another. -/
theorem attached (confined : world.Confined) {attachments : Table ActAttachmentEntity.id} {objects : List String}
    (listed : ∀ row ∈ attachments.rows, row ∈ world.attachments.rows ∨ ∃ activity,
      world.activities.get row.activityId = some activity ∧ UnderBond activity.bondId row.fileUrl) :
    ({ world with attachments := attachments, objects := objects } : World).Confined :=
  ⟨fun row member => (listed row member).elim (confined.activity row) id, confined.expense⟩

/-- A row of an expense is added, and expenses stay with their bonds. -/
theorem attachedExpense (confined : world.Confined) {entity : ExpenseAttachmentEntity}
    {expenseAttachments : Table ExpenseAttachmentEntity.id} {expense : StoredExpense}
    (added : world.expenseAttachments.insert entity = some expenseAttachments)
    (there : world.expenses.get entity.expenseId = some expense) (under : UnderBond expense.bondId entity.fileUrl) :
    ({ world with expenseAttachments := expenseAttachments } : World).Confined := by
  refine ⟨confined.activity, fun row member => ?_⟩
  change row ∈ expenseAttachments.rows at member
  rw [Table.rows_insert added, List.mem_append, List.mem_singleton] at member
  obtain member | rfl := member
  · exact confined.expense row member
  · exact ⟨expense, there, under⟩

theorem confirm (confined : world.Confined) {activityId : Uuid} {dto : ConfirmAttachmentDto}
    {response : AttachmentResponse}
    (confirmed : ActivityAttachmentsService.confirm world activityId user dto = .ok (response, after)) :
    after.Confined := by
  obtain ⟨activity, checked, confirmed⟩ := bind_ok confirmed
  obtain ⟨⟨⟩, passed, confirmed⟩ := bind_ok confirmed
  dsimp only at confirmed
  split at confirmed
  · cases confirmed
  · rename_i attachments added
    cases confirmed
    refine confined.attached fun row member => ?_
    rw [Table.rows_insert added, List.mem_append, List.mem_singleton] at member
    obtain member | rfl := member
    · exact .inl member
    · exact .inr ⟨activity, (editable_spec checked).1, under_of_start (start_of_uploaded passed)⟩

theorem remove (confined : world.Confined) {activityId attachmentId : Uuid}
    (removed : ActivityAttachmentsService.remove world activityId user attachmentId = .ok after) :
    after.Confined := by
  obtain ⟨⟨activity, attachment⟩, -, removed⟩ := bind_ok removed
  cases removed
  rw [removeObject_eq]
  exact confined.attached fun row member => .inl (List.mem_filter.mp member).1

theorem rename (confined : world.Confined) {activityId attachmentId : Uuid} {fileName : String}
    {response : AttachmentResponse}
    (renamed : ActivityAttachmentsService.rename world activityId user attachmentId fileName =
      .ok (response, after)) : after.Confined := by
  obtain ⟨⟨activity, attachment⟩, owned, renamed⟩ := bind_ok renamed
  obtain ⟨-, -, -, there⟩ := own_spec owned
  cases renamed
  refine confined.attached fun row member => ?_
  obtain member | rfl := Table.mem_put member
  · exact .inl member
  · exact .inr (confined.activity attachment there)

theorem replace (confined : world.Confined) {activityId attachmentId : Uuid} {dto : ConfirmAttachmentDto}
    {response : AttachmentResponse}
    (replaced : ActivityAttachmentsService.replace world activityId user attachmentId dto =
      .ok (response, after)) : after.Confined := by
  obtain ⟨⟨activity, attachment⟩, owned, replaced⟩ := bind_ok replaced
  obtain ⟨⟨⟩, passed, stored⟩ := bind_ok replaced
  obtain ⟨found, -, own, -⟩ := own_spec owned
  cases stored
  rw [removeObject_eq]
  refine confined.attached fun row member => ?_
  obtain member | rfl := Table.mem_put member
  · exact .inl member
  · exact .inr ⟨activity, own ▸ found, under_of_start (start_of_uploaded passed)⟩

theorem confirmExpense (confined : world.Confined) {expenseId : Uuid} {dto : ConfirmAttachmentDto}
    {response : AttachmentResponse}
    (confirmed : ExpenseAttachmentsService.confirm world expenseId user dto = .ok (response, after)) :
    after.Confined := by
  obtain ⟨expense, checked, confirmed⟩ := bind_ok confirmed
  obtain ⟨⟨⟩, passed, confirmed⟩ := bind_ok confirmed
  unfold ExpenseAttachmentsService.createAttachment at confirmed
  split at confirmed
  · cases confirmed
  · rename_i expenseAttachments added
    cases confirmed
    exact confined.attachedExpense added (requester_spec checked).1 (under_of_begun (start_of_uploaded passed))

/-- The expense that is converted for is of the bond of the activity. -/
theorem source_spec (confined : world.Confined) {attachmentId : Uuid} {attachment : ActAttachmentEntity}
    {expense : StoredExpense} (found : world.attachments.get attachmentId = some attachment)
    (same : (world.activities.get attachment.activityId).any (·.bondId = expense.bondId)) :
    UnderBond expense.bondId attachment.fileUrl := by
  obtain ⟨activity, there, under⟩ := confined.activity attachment (Table.mem_of_get found)
  rw [there, Option.any_some, decide_eq_true_eq] at same
  rwa [← same]

theorem updateActivityId_get {expenses : Table fun expense : StoredExpense => expense.id} {id activityId other : Uuid}
    {expense : StoredExpense} (there : expenses.get other = some expense) :
    ∃ later, (ExpenseAttachmentsService.updateActivityId expenses id activityId).get other = some later ∧
      later.bondId = expense.bondId := by
  unfold ExpenseAttachmentsService.updateActivityId
  split
  · exact ⟨expense, there, rfl⟩
  · rename_i found read
    obtain ⟨read, -⟩ := Option.filter_eq_some_iff.mp read
    have key := Table.key_of_get read
    by_cases own : other = id
    · subst own
      cases read.symm.trans there
      subst key
      exact ⟨_, Table.get_put_self read, rfl⟩
    · refine ⟨expense, ?_, rfl⟩
      rwa [Table.get_put_other]
      exact fun same => own (same.trans key)

theorem convert (confined : world.Confined) {expenseId attachmentId : Uuid} {response : AttachmentResponse}
    (converted : ExpenseAttachmentsService.convert world expenseId user attachmentId = .ok (response, after)) :
    after.Confined := by
  obtain ⟨expense, checked, converted⟩ := bind_ok converted
  split at converted
  · cases converted
  · rename_i attachment found
    split at converted
    · cases converted
    · rename_i same
      obtain ⟨⟨response, created⟩, stored, converted⟩ := bind_ok converted
      cases converted
      have under := confined.source_spec found (Classical.not_not.mp same)
      unfold ExpenseAttachmentsService.createAttachment at stored
      split at stored
      · cases stored
      · rename_i expenseAttachments added
        cases stored
        have added := confined.attachedExpense added (requester_spec checked).1 under
        refine ⟨added.activity, fun row member => ?_⟩
        obtain ⟨expense, there, under⟩ := added.expense row member
        obtain ⟨later, kept, same⟩ := @updateActivityId_get _ expenseId attachment.activityId _ _ there
        exact ⟨later, kept, same ▸ under⟩

theorem step (confined : world.Confined) {step : Step} (keeps : world.KeepsBonds step) :
    (world.after step).Confined := by
  have answered : ∀ {α : Type} {result : Except Exception (α × World)},
      (∀ response after, result = .ok (response, after) → after.Confined) → (world.answered result).Confined := by
    intro α result each
    cases result with
    | error error => exact confined
    | ok pair => exact each pair.1 pair.2 rfl
  cases step with
  | confirm activityId user dto => exact answered fun _ _ => confined.confirm
  | rename activityId user attachmentId fileName => exact answered fun _ _ => confined.rename
  | replace activityId user attachmentId dto => exact answered fun _ _ => confined.replace
  | confirmExpense expenseId user dto => exact answered fun _ _ => confined.confirmExpense
  | convert expenseId user attachmentId => exact answered fun _ _ => confined.convert
  | remove activityId user attachmentId =>
    refine answered fun _ after mapped => ?_
    cases removed : ActivityAttachmentsService.remove world activityId user attachmentId with
    | error error =>
      rw [removed] at mapped
      cases mapped
    | ok left =>
      rw [removed] at mapped
      cases mapped
      exact confined.remove removed
  | upload path => exact confined.attached fun _ => .inl
  | surroundings surroundings =>
    constructor
    · intro row member
      obtain ⟨activity, there, under⟩ := confined.activity row member
      obtain ⟨later, kept, same⟩ := keeps.1 _ _ there
      exact ⟨later, kept, same ▸ under⟩
    · intro row member
      obtain ⟨expense, there, under⟩ := confined.expense row member
      obtain ⟨later, kept, same⟩ := keeps.2 _ _ there
      exact ⟨later, kept, same ▸ under⟩

end World.Confined

theorem confined_of_run (run : Run World.KeepsBonds world) : world.Confined := by
  induction run with
  | start surroundings objects => exact ⟨nofun, nofun⟩
  | step step _ keeps ih => exact ih.step keeps

/-! ## What a user is given, and what he takes away -/

def Step.requester : Step → Option AuthUser
  | .confirm _ user _ | .remove _ user _ | .rename _ user _ _ | .replace _ user _ _
  | .confirmExpense _ user _ | .convert _ user _ => some user
  | .upload _ | .surroundings _ => none

/-- The URL in the answer of a request. -/
def urlOf (result : Except Exception (AttachmentResponse × World)) : Option String :=
  match result with
  | .ok (response, _) => response.viewUrl
  | .error _ => none

def World.shown (world : World) : Step → Option String
  | .confirm activityId user dto => urlOf (ActivityAttachmentsService.confirm world activityId user dto)
  | .rename activityId user attachmentId fileName =>
      urlOf (ActivityAttachmentsService.rename world activityId user attachmentId fileName)
  | .replace activityId user attachmentId dto =>
      urlOf (ActivityAttachmentsService.replace world activityId user attachmentId dto)
  | .confirmExpense expenseId user dto => urlOf (ExpenseAttachmentsService.confirm world expenseId user dto)
  | .convert expenseId user attachmentId => urlOf (ExpenseAttachmentsService.convert world expenseId user attachmentId)
  | .remove .. | .upload _ | .surroundings _ => none

/-- There is an activity or an expense of the bond. -/
def World.IsBond (world : World) (bondId : Uuid) : Prop :=
  (∃ activity ∈ world.activities.rows, activity.bondId = bondId) ∨
    ∃ expense ∈ world.expenses.rows, expense.bondId = bondId

/-- A key of a bond that the user is an active member of. -/
def World.Own (world : World) (user : AuthUser) (key : String) : Prop :=
  ∃ bondId, world.IsBond bondId ∧ world.Belongs user bondId ∧ UnderBond bondId key

/-- The URL is signed for a key that is no key of the bond. -/
def World.Elsewhere (world : World) (bondId : Uuid) (url : String) : Prop :=
  ∃ key, world.signed key = some url ∧ ¬UnderBond bondId key

section Confined

variable {activityId attachmentId expenseId : Uuid} {activity : ActivityEntity} {expense : StoredExpense}
  {url : String} {step : Step}

theorem own_of_activity (found : world.activities.get activityId = some activity)
    (belongs : world.Belongs user activity.bondId) (under : UnderBond activity.bondId key) :
    world.Own user key :=
  ⟨activity.bondId, .inl ⟨activity, Table.mem_of_get found, rfl⟩, belongs, under⟩

theorem own_of_expense (found : world.expenses.get expenseId = some expense)
    (belongs : world.Belongs user expense.bondId) (under : UnderBond expense.bondId key) :
    world.Own user key :=
  ⟨expense.bondId, .inr ⟨expense, Table.mem_of_get found, rfl⟩, belongs, under⟩

theorem signed_of_download {path : String} (given : StorageService.createSignedDownloadUrl world path = some url) :
    world.signed path = some url := by
  unfold StorageService.createSignedDownloadUrl at given
  split at given
  · exact given
  · cases given

theorem World.Confined.own_attachment (confined : world.Confined) {attachment : ActAttachmentEntity}
    (there : attachment ∈ world.attachments.rows) (found : world.activities.get attachment.activityId = some activity)
    (belongs : world.Belongs user activity.bondId) : world.Own user attachment.fileUrl := by
  obtain ⟨same, read, under⟩ := confined.activity attachment there
  cases found.symm.trans read
  exact own_of_activity found belongs under

/-- A URL is given of a key of the bond that has been checked. -/
theorem shown_own (confined : world.Confined) (requester : step.requester = some user)
    (given : world.shown step = some url) : ∃ key, world.signed key = some url ∧ world.Own user key := by
  have answered {result : Except Exception (AttachmentResponse × World)} (some_ : urlOf result = some url) :
      ∃ response after, result = .ok (response, after) ∧ response.viewUrl = some url := by
    cases result with
    | error error => cases some_
    | ok pair => exact ⟨pair.1, pair.2, rfl, some_⟩
  cases step with
  | remove | upload | surroundings => cases given
  | confirm activityId user dto =>
    cases requester
    obtain ⟨response, after, confirmed, given⟩ := answered given
    obtain ⟨activity, checked, confirmed⟩ := bind_ok confirmed
    obtain ⟨⟨⟩, passed, confirmed⟩ := bind_ok confirmed
    obtain ⟨found, belongs⟩ := editable_spec checked
    dsimp only at confirmed
    split at confirmed
    · cases confirmed
    · cases confirmed
      exact ⟨_, signed_of_download given,
        own_of_activity found belongs (under_of_start (start_of_uploaded passed))⟩
  | rename activityId user attachmentId fileName =>
    cases requester
    obtain ⟨response, after, renamed, given⟩ := answered given
    obtain ⟨⟨activity, attachment⟩, owned, renamed⟩ := bind_ok renamed
    obtain ⟨found, belongs, own, there⟩ := own_spec owned
    cases renamed
    exact ⟨attachment.fileUrl, signed_of_download given, confined.own_attachment there (own ▸ found) belongs⟩
  | replace activityId user attachmentId dto =>
    cases requester
    obtain ⟨response, after, replaced, given⟩ := answered given
    obtain ⟨⟨activity, attachment⟩, owned, replaced⟩ := bind_ok replaced
    obtain ⟨⟨⟩, passed, stored⟩ := bind_ok replaced
    obtain ⟨found, belongs, -, -⟩ := own_spec owned
    cases stored
    have signed := signed_of_download given
    rw [removeObject_eq] at signed
    exact ⟨_, signed, own_of_activity found belongs (under_of_start (start_of_uploaded passed))⟩
  | confirmExpense expenseId user dto =>
    cases requester
    obtain ⟨response, after, confirmed, given⟩ := answered given
    obtain ⟨expense, checked, confirmed⟩ := bind_ok confirmed
    obtain ⟨⟨⟩, passed, confirmed⟩ := bind_ok confirmed
    obtain ⟨found, belongs⟩ := requester_spec checked
    unfold ExpenseAttachmentsService.createAttachment at confirmed
    split at confirmed
    · cases confirmed
    · cases confirmed
      exact ⟨_, signed_of_download given,
        own_of_expense found belongs (under_of_begun (start_of_uploaded passed))⟩
  | convert expenseId user attachmentId =>
    cases requester
    obtain ⟨response, after, converted, given⟩ := answered given
    obtain ⟨expense, checked, converted⟩ := bind_ok converted
    obtain ⟨found, belongs⟩ := requester_spec checked
    split at converted
    · cases converted
    · rename_i attachment read
      split at converted
      · cases converted
      · rename_i same
        obtain ⟨⟨response, created⟩, stored, converted⟩ := bind_ok converted
        cases converted
        unfold ExpenseAttachmentsService.createAttachment at stored
        split at stored
        · cases stored
        · cases stored
          exact ⟨_, signed_of_download given,
            own_of_expense found belongs (confined.source_spec read (Classical.not_not.mp same))⟩

theorem mem_removed {path : String} (there : key ∈ world.objects)
    (gone : key ∉ (StorageService.removeObject world path).2.objects) : key = path := by
  rw [removeObject_eq] at gone
  by_contra other
  refine gone ?_
  dsimp only
  split
  · exact List.mem_filter.mpr ⟨there, decide_eq_true other⟩
  · exact there

/-- An object is removed for a row whose bond has been checked. -/
theorem removed_own (confined : world.Confined) (requester : step.requester = some user)
    (there : key ∈ world.objects) (gone : key ∉ (world.after step).objects) : world.Own user key := by
  have answered {result : Except Exception (AttachmentResponse × World)}
      (kept : ∀ response after, result = .ok (response, after) → key ∈ after.objects) :
      key ∈ (world.answered result).objects := by
    cases result with
    | error error => exact there
    | ok pair => exact kept pair.1 pair.2 rfl
  cases step with
  | upload | surroundings => cases requester
  | confirm => exact absurd (answered fun _ _ confirmed => (confirm_harmless confirmed).kept key there) gone
  | rename => exact absurd (answered fun _ _ renamed => (rename_harmless renamed).kept key there) gone
  | confirmExpense =>
    exact absurd (answered fun _ _ confirmed => (confirmExpense_harmless confirmed).kept key there) gone
  | convert => exact absurd (answered fun _ _ converted => (convert_harmless converted).kept key there) gone
  | remove activityId user attachmentId =>
    cases requester
    rw [World.after] at gone
    cases removed : ActivityAttachmentsService.remove world activityId user attachmentId with
    | error error =>
      rw [removed] at gone
      exact absurd there gone
    | ok left =>
      rw [removed] at gone
      obtain ⟨⟨activity, attachment⟩, owned, removed⟩ := bind_ok removed
      obtain ⟨found, belongs, own, listed⟩ := own_spec owned
      cases removed
      rw [mem_removed there gone]
      exact confined.own_attachment listed (own ▸ found) belongs
  | replace activityId user attachmentId dto =>
    cases requester
    rw [World.after] at gone
    cases replaced : ActivityAttachmentsService.replace world activityId user attachmentId dto with
    | error error =>
      rw [replaced] at gone
      exact absurd there gone
    | ok left =>
      rw [replaced] at gone
      obtain ⟨⟨activity, attachment⟩, owned, replaced⟩ := bind_ok replaced
      obtain ⟨⟨⟩, -, stored⟩ := bind_ok replaced
      obtain ⟨found, belongs, own, listed⟩ := own_spec owned
      cases stored
      rw [mem_removed (by exact there) gone]
      exact confined.own_attachment listed (own ▸ found) belongs

theorem listed_own (confined : world.Confined) {responses : List AttachmentResponse}
    (listed : ActivityAttachmentsService.list world activityId user = .ok responses) :
    ∀ response ∈ responses, ∀ url, response.viewUrl = some url →
      ∃ key, world.signed key = some url ∧ world.Own user key := by
  unfold ActivityAttachmentsService.list at listed
  split at listed
  · cases listed
  · rename_i activity there
    obtain ⟨found, -⟩ := Option.filter_eq_some_iff.mp there
    split at listed
    · cases listed
    · rename_i member
      cases listed
      intro response answered url given
      obtain ⟨item, sorted, rfl⟩ := List.mem_map.mp answered
      obtain ⟨stored, own⟩ := List.mem_filter.mp (List.mem_mergeSort.mp sorted)
      refine ⟨_, signed_of_download given, confined.own_attachment stored ?_
        (belongs_of_isMember (Classical.not_not.mp member))⟩
      rwa [of_decide_eq_true own]

/-- What may be uploaded to is under the start. -/
theorem start_of_presigned {uploadUrl : String → Option String} {start : String} {drawn : Uuid}
    {dto : PresignAttachmentDto} {response : PresignResponse}
    (given : presigned world uploadUrl start drawn dto = .ok response) : start.toList <+: response.path.toList := by
  unfold presigned at given
  split at given
  · cases given
  · dsimp only at given
    split at given
    · cases given
    · cases given
      simp only [String.toList_append, List.append_assoc]
      exact List.prefix_append _ _

theorem presign_own {uploadUrl : String → Option String} {drawn : Uuid} {dto : PresignAttachmentDto}
    {response : PresignResponse}
    (given : ActivityAttachmentsService.presign world uploadUrl activityId user drawn dto = .ok response) :
    world.Own user response.path := by
  obtain ⟨activity, checked, given⟩ := bind_ok given
  obtain ⟨found, belongs⟩ := editable_spec checked
  exact own_of_activity found belongs (under_of_start (start_of_presigned given))

theorem presignExpense_own {uploadUrl : String → Option String} {drawn : Uuid} {dto : PresignAttachmentDto}
    {response : PresignResponse}
    (given : ExpenseAttachmentsService.presign world uploadUrl expenseId user drawn dto = .ok response) :
    world.Own user response.path := by
  obtain ⟨expense, checked, given⟩ := bind_ok given
  obtain ⟨found, belongs⟩ := requester_spec checked
  exact own_of_expense found belongs (under_of_begun (start_of_presigned given))

/-- What is a user's own is of no bond that he is not a member of. -/
theorem World.Own.apart (own : world.Own user key) (plain : ∀ bondId, world.IsBond bondId → '/' ∉ bondId.toList)
    (named : '/' ∉ bondId.toList) (stranger : ¬world.Belongs user bondId) : ¬UnderBond bondId key := by
  rintro under
  obtain ⟨other, bond, belongs, also⟩ := own
  rw [under.unique also named (plain other bond)] at stranger
  exact stranger belongs

end Confined

/-- **The objects of a family are for the family.**  In every run, nobody who is not an active member of
a bond at the time is given a URL of an object of the bond by any request, to read or to write it, or
removes one. -/
theorem family_only (run : Run World.KeepsBonds world) (stranger : ¬world.Belongs user bondId)
    (named : '/' ∉ bondId.toList) (plain : ∀ bondId, world.IsBond bondId → '/' ∉ bondId.toList) :
    (∀ step : Step, step.requester = some user → (∀ url, world.shown step = some url → world.Elsewhere bondId url) ∧
      ∀ key ∈ world.objects, UnderBond bondId key → key ∈ (world.after step).objects) ∧
    (∀ activityId responses, ActivityAttachmentsService.list world activityId user = .ok responses →
      ∀ response ∈ responses, ∀ url, response.viewUrl = some url → world.Elsewhere bondId url) ∧
    ∀ uploadUrl ownerId drawn dto response,
      ActivityAttachmentsService.presign world uploadUrl ownerId user drawn dto = .ok response ∨
        ExpenseAttachmentsService.presign world uploadUrl ownerId user drawn dto = .ok response →
      ¬UnderBond bondId response.path := by
  have confined := confined_of_run run
  have elsewhere {url : String} (own : ∃ key, world.signed key = some url ∧ world.Own user key) :
      world.Elsewhere bondId url := by
    obtain ⟨key, signed, own⟩ := own
    exact ⟨key, signed, own.apart plain named stranger⟩
  refine ⟨fun step requester => ⟨fun url given => ?_, fun key there under => ?_⟩,
    fun activityId responses listed response answered url given => ?_,
    fun uploadUrl ownerId drawn dto response given => ?_⟩
  · exact elsewhere (shown_own confined requester given)
  · by_contra gone
    exact (removed_own confined requester there gone).apart plain named stranger under
  · exact elsewhere (listed_own confined listed response answered url given)
  · rcases given with given | given
    · exact (presign_own given).apart plain named stranger
    · exact (presignExpense_own given).apart plain named stranger

/-- An invoice is uploaded and attached to the activity. -/
def invoiced : World := (conversion.take 2).foldl World.after ⟨household "t1", .empty, .empty, []⟩

theorem invoiced_keeps : Run World.KeepsBonds invoiced := by
  have started : Run World.KeepsBonds _ := .start (household "t1") []
  exact (started.step (.upload "activities/b1/a1/invoice.pdf") trivial).step
    (.confirm "a1" ⟨"u2", "user"⟩ ⟨"activities/b1/a1/invoice.pdf", "invoice.pdf", "application/pdf"⟩) trivial

/-- The invoice stays, whatever one tries who is not of the family. -/
theorem family_only_invoice : "activities/b1/a1/invoice.pdf" ∈ invoiced.objects ∧
    ∀ step : Step, step.requester = some ⟨"u9", "user"⟩ →
      "activities/b1/a1/invoice.pdf" ∈ (invoiced.after step).objects := by
  have activities : ∀ activity ∈ invoiced.activities.rows, '/' ∉ activity.bondId.toList := by decide +kernel
  have expenses : ∀ expense ∈ invoiced.expenses.rows, '/' ∉ expense.bondId.toList := by decide +kernel
  have plain : ∀ bondId, invoiced.IsBond bondId → '/' ∉ bondId.toList := by
    rintro _ (⟨activity, there, rfl⟩ | ⟨expense, there, rfl⟩)
    · exact activities activity there
    · exact expenses expense there
  have stranger : ¬invoiced.Belongs ⟨"u9", "user"⟩ "b1" := by
    unfold World.Belongs
    decide +kernel
  have attached : "activities/b1/a1/invoice.pdf" ∈ invoiced.objects := by decide +kernel
  have only := family_only invoiced_keeps stranger (by decide) plain
  refine ⟨attached, fun step requester => (only.1 step requester).2 _ attached ⟨"activities", List.mem_cons_self, ?_⟩⟩
  exact List.isPrefixOf_iff_prefix.mp (by decide)

end ParentalCoord.Attachments

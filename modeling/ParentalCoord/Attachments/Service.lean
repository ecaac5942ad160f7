import ParentalCoord.Activities.TransitionMap
import ParentalCoord.Bonds.Membership
import ParentalCoord.Expenses.Policy

/-!
The attachments of activities and of expenses, and the objects in storage.

A row has the key of an object, not the object.  An attachment of an expense that was
converted from one of an activity has the same key: one object, two rows.  The bytes come
from the client, who is given a signed URL; the service confirms that they are there.
-/

namespace ParentalCoord.Attachments

open Activities Bonds Expenses Store

structure AuthUser where
  id : Uuid
  systemRole : String

structure ActAttachmentEntity where
  id : Uuid
  activityId : Uuid
  fileUrl : String
  fileName : String
  fileType : String
  uploadedBy : Uuid
  uploadedAt : Instant
  deriving DecidableEq

structure ExpenseAttachmentEntity where
  id : Uuid
  expenseId : Uuid
  fileUrl : String
  fileName : String
  fileType : String
  uploadedBy : Uuid
  uploadedAt : Instant
  deriving DecidableEq

/-- A row of `expense`, with the activity it was converted from. -/
structure StoredExpense extends ExpenseEntity where
  activityId : Option Uuid

/-- What these services read and others write, and what Supabase answers. -/
structure Surroundings where
  bonds : Bonds.Database
  activities : Table ActivityEntity.id
  expenses : Table fun expense : StoredExpense => expense.id
  /-- The id of the next row. -/
  generated : Uuid
  clock : Instant
  /-- There is a client of the storage. -/
  enabled : Bool
  /-- A call to the storage has no error. -/
  answers : Bool
  /-- The signed URL of a key. -/
  signed : String → Option String

structure World extends Surroundings where
  attachments : Table ActAttachmentEntity.id
  expenseAttachments : Table ExpenseAttachmentEntity.id
  /-- The keys of the objects in the bucket. -/
  objects : List String

/-! ## Storage -/

namespace StorageService

def objectExists (world : World) (path : String) : Bool :=
  world.enabled && world.answers && path ∈ world.objects

def createSignedDownloadUrl (world : World) (path : String) : Option String :=
  if world.enabled && world.answers then world.signed path else none

/-- `storage.service.ts::createSignedUploadUrl`: what the client of the storage signs for an upload to
the key. -/
def createSignedUploadUrl (world : World) (uploadUrl : String → Option String) (path : String) :
    Option String :=
  if world.enabled && world.answers then uploadUrl path else none

/-- `storage.service.ts::removeObject`: whether the object was removed, and the world after it. -/
def removeObject (world : World) (path : String) : Bool × World :=
  if world.enabled && world.answers then
    (true, { world with objects := world.objects.filter (· ≠ path) })
  else (false, world)

end StorageService

/-! ## Requests -/

/-- `ConfirmAttachmentDto`, `ReplaceAttachmentDto` and `ConfirmExpenseAttachmentDto`. -/
structure ConfirmAttachmentDto where
  path : String
  fileName : String
  mimeType : String

/-- `PresignAttachmentDto` and `PresignExpenseAttachmentDto`, without what no service reads. -/
structure PresignAttachmentDto where
  mimeType : String

def ALLOWED_EXT : List (String × String) :=
  [("image/jpeg", "jpg"), ("image/png", "png"), ("application/pdf", "pdf")]

structure PresignResponse where
  uploadUrl : String
  path : String
  method : String
  contentType : String
  expiresIn : ℕ

/-- The answer for an upload to a new name under the start. -/
def presigned (world : World) (uploadUrl : String → Option String) (start : String) (drawn : Uuid)
    (dto : PresignAttachmentDto) : Except Exception PresignResponse :=
  match ALLOWED_EXT.lookup dto.mimeType with
  | none => throw (badRequestException "Invalid mimeType")
  | some ext =>
    let key := start ++ drawn ++ "." ++ ext
    match StorageService.createSignedUploadUrl world uploadUrl key with
    | none => throw (badRequestException "Storage not configured")
    | some signedUrl => return ⟨signedUrl, key, "PUT", dto.mimeType, 300⟩

structure UploadedBy where
  id : Uuid

/-- The answer for an attachment, of the activity or the expense that `ownerId` is. -/
structure AttachmentResponse where
  id : Uuid
  ownerId : Uuid
  fileName : String
  fileType : String
  uploadedBy : UploadedBy
  uploadedAt : Instant
  viewUrl : Option String

/-- `path.startsWith(start)`, and the object is there. -/
def ensureUploaded (world : World) (start path : String) : Except Exception Unit :=
  if ¬start.toList.isPrefixOf path.toList then throw (forbiddenException "Invalid path")
  else if ¬StorageService.objectExists world path then
    throw (badRequestException "File not found in storage")
  else return ()

namespace ActivityAttachmentsService

def toResponse (entity : ActAttachmentEntity) (viewUrl : Option String) : AttachmentResponse where
  id := entity.id
  ownerId := entity.activityId
  fileName := entity.fileName
  fileType := entity.fileType
  uploadedBy := ⟨entity.uploadedBy⟩
  uploadedAt := entity.uploadedAt
  viewUrl := viewUrl

/-- `activity-attachments.service.ts::ensureMemberAndEditable`: a member of the bond, and an activity
that is assigned and not closed. -/
def ensureMemberAndEditable (world : World) (activityId : Uuid) (user : AuthUser) :
    Except Exception ActivityEntity :=
  match (world.activities.get activityId).filter (·.deletedAt = none) with
  | none => throw (notFoundException "Activity not found")
  | some activity =>
    if ¬isMember (BondsService.findByUserId world.bonds user.id) activity.bondId then
      throw (forbiddenException "Not a member of this bond")
    else if activity.status ∈ [.done, .cancelled, .overdue] then
      throw (forbiddenException "Attachments cannot be edited in terminal state")
    else if activity.status = .created ∧ ¬activity.assignedTo.any truthy then
      throw (forbiddenException "Attachments can only be added after assignment")
    else return activity

/-- What removing, renaming and replacing check, each with its own message. -/
def ensureOwn (world : World) (activityId : Uuid) (user : AuthUser) (attachmentId : Uuid)
    (message : String) : Except Exception (ActivityEntity × ActAttachmentEntity) := do
  let activity ← ensureMemberAndEditable world activityId user
  match (world.attachments.get attachmentId).filter (·.activityId = activityId) with
  | none => throw (notFoundException "Attachment not found")
  | some attachment =>
    if attachment.uploadedBy ≠ user.id && user.systemRole ≠ "admin" then
      throw (forbiddenException message)
    else return (activity, attachment)

def pathStart (activity : ActivityEntity) : String :=
  "activities/" ++ activity.bondId ++ "/" ++ activity.id ++ "/"

def presign (world : World) (uploadUrl : String → Option String) (activityId : Uuid) (user : AuthUser)
    (drawn : Uuid) (dto : PresignAttachmentDto) : Except Exception PresignResponse := do
  let activity ← ensureMemberAndEditable world activityId user
  presigned world uploadUrl (pathStart activity) drawn dto

/-- `activity-attachments.service.ts::list`: the attachments of an activity, the oldest first. -/
def list (world : World) (activityId : Uuid) (user : AuthUser) :
    Except Exception (List AttachmentResponse) :=
  match (world.activities.get activityId).filter (·.deletedAt = none) with
  | none => throw (notFoundException "Activity not found")
  | some activity =>
    if ¬isMember (BondsService.findByUserId world.bonds user.id) activity.bondId then
      throw (forbiddenException "Not a member of this bond")
    else
      let items := (world.attachments.rows.filter (·.activityId = activityId)).mergeSort
        fun first second => first.uploadedAt ≤ second.uploadedAt
      return items.map fun item =>
        toResponse item (StorageService.createSignedDownloadUrl world item.fileUrl)

/-- `activity-attachments.service.ts::confirm`: the key is one of the activity, and the object is
there. -/
def confirm (world : World) (activityId : Uuid) (user : AuthUser) (dto : ConfirmAttachmentDto) :
    Except Exception (AttachmentResponse × World) := do
  let activity ← ensureMemberAndEditable world activityId user
  ensureUploaded world (pathStart activity) dto.path
  let entity : ActAttachmentEntity :=
    { id := world.generated
      activityId := activityId
      fileUrl := dto.path
      fileName := dto.fileName
      fileType := dto.mimeType
      uploadedBy := user.id
      uploadedAt := world.clock }
  match world.attachments.insert entity with
  | none => throw .fault
  | some attachments =>
    return (toResponse entity (StorageService.createSignedDownloadUrl world entity.fileUrl),
      { world with attachments := attachments })

/-- `activity-attachments.service.ts::remove`: the object goes first, and the row whether or not it
went. -/
def remove (world : World) (activityId : Uuid) (user : AuthUser) (attachmentId : Uuid) :
    Except Exception World := do
  let (_, attachment) ← ensureOwn world activityId user attachmentId "Cannot delete this attachment"
  let world := (StorageService.removeObject world attachment.fileUrl).2
  return { world with attachments := world.attachments.filter (·.id ≠ attachment.id) }

def rename (world : World) (activityId : Uuid) (user : AuthUser) (attachmentId : Uuid)
    (fileName : String) : Except Exception (AttachmentResponse × World) := do
  let (_, attachment) ← ensureOwn world activityId user attachmentId "Cannot rename this attachment"
  let renamed := { attachment with fileName := fileName }
  return (toResponse renamed (StorageService.createSignedDownloadUrl world renamed.fileUrl),
    { world with attachments := world.attachments.put renamed })

/-- `activity-attachments.service.ts::replace`: the row is saved first, and then the old
object goes. -/
def replace (world : World) (activityId : Uuid) (user : AuthUser) (attachmentId : Uuid)
    (dto : ConfirmAttachmentDto) : Except Exception (AttachmentResponse × World) := do
  let (activity, attachment) ←
    ensureOwn world activityId user attachmentId "Cannot replace this attachment"
  ensureUploaded world (pathStart activity) dto.path
  let replaced :=
    { attachment with fileUrl := dto.path, fileName := dto.fileName, fileType := dto.mimeType }
  let world := { world with attachments := world.attachments.put replaced }
  let world := (StorageService.removeObject world attachment.fileUrl).2
  return (toResponse replaced (StorageService.createSignedDownloadUrl world replaced.fileUrl), world)

end ActivityAttachmentsService

namespace ExpenseAttachmentsService

def toResponse (entity : ExpenseAttachmentEntity) (viewUrl : Option String) : AttachmentResponse where
  id := entity.id
  ownerId := entity.expenseId
  fileName := entity.fileName
  fileType := entity.fileType
  uploadedBy := ⟨entity.uploadedBy⟩
  uploadedAt := entity.uploadedAt
  viewUrl := viewUrl

def ensureMember (world : World) (expenseId : Uuid) (user : AuthUser) :
    Except Exception StoredExpense :=
  match (world.expenses.get expenseId).filter (·.deletedAt = none) with
  | none => throw (notFoundException "Expense not found")
  | some expense =>
    if ¬BondsService.isActiveBondForMember world.bonds expense.bondId user.id then
      throw (notFoundException "Expense not found")
    else return expense

def ensureRequester (world : World) (expenseId : Uuid) (user : AuthUser) :
    Except Exception StoredExpense := do
  let expense ← ensureMember world expenseId user
  if expense.requestedBy ≠ user.id then
    throw (forbiddenException "Only the requester can attach a document to this expense")
  else return expense

def keyPrefix (expense : StoredExpense) : String :=
  "expenses/" ++ expense.bondId ++ "/" ++ expense.id

def presign (world : World) (uploadUrl : String → Option String) (expenseId : Uuid) (user : AuthUser)
    (drawn : Uuid) (dto : PresignAttachmentDto) : Except Exception PresignResponse := do
  let expense ← ensureRequester world expenseId user
  presigned world uploadUrl (keyPrefix expense ++ "/") drawn dto

/-- `createAttachment`, and the answer for what was saved. -/
def createAttachment (world : World) (entity : ExpenseAttachmentEntity) :
    Except Exception (AttachmentResponse × World) :=
  match world.expenseAttachments.insert entity with
  | none => throw .fault
  | some expenseAttachments =>
    return (toResponse entity (StorageService.createSignedDownloadUrl world entity.fileUrl),
      { world with expenseAttachments := expenseAttachments })

/-- `expense-attachments.service.ts::confirm`: the key is one of the expense, and the object
is there. -/
def confirm (world : World) (expenseId : Uuid) (user : AuthUser) (dto : ConfirmAttachmentDto) :
    Except Exception (AttachmentResponse × World) := do
  let expense ← ensureRequester world expenseId user
  ensureUploaded world (keyPrefix expense ++ "/") dto.path
  createAttachment world
    { id := world.generated
      expenseId := expenseId
      fileUrl := dto.path
      fileName := dto.fileName
      fileType := dto.mimeType
      uploadedBy := user.id
      uploadedAt := world.clock }

/-- `UPDATE expense SET activity_id` of one that is not deleted. -/
def updateActivityId (expenses : Table fun expense : StoredExpense => expense.id) (id : Uuid)
    (activityId : Uuid) : Table fun expense : StoredExpense => expense.id :=
  match (expenses.get id).filter (·.deletedAt = none) with
  | none => expenses
  | some expense => expenses.put { expense with activityId := some activityId }

/-- `expense-attachments.service.ts::convert`: the new row has the key of the attachment of the
activity. -/
def convert (world : World) (expenseId : Uuid) (user : AuthUser) (activityAttachmentId : Uuid) :
    Except Exception (AttachmentResponse × World) := do
  let expense ← ensureRequester world expenseId user
  match world.attachments.get activityAttachmentId with
  | none => throw (notFoundException "Activity attachment not found")
  | some attachment =>
    if ¬(world.activities.get attachment.activityId).any (·.bondId = expense.bondId) then
      throw (notFoundException "Activity attachment not found")
    else
      let (response, world) ← createAttachment world
        { id := world.generated
          expenseId := expenseId
          fileUrl := attachment.fileUrl
          fileName := attachment.fileName
          fileType := attachment.fileType
          uploadedBy := user.id
          uploadedAt := world.clock }
      return (response, { world with
        expenses := updateActivityId world.expenses expenseId attachment.activityId })

end ExpenseAttachmentsService

/-! ## Sequences -/

inductive Step where
  | confirm (activityId : Uuid) (user : AuthUser) (dto : ConfirmAttachmentDto)
  | remove (activityId : Uuid) (user : AuthUser) (attachmentId : Uuid)
  | rename (activityId : Uuid) (user : AuthUser) (attachmentId : Uuid) (fileName : String)
  | replace (activityId : Uuid) (user : AuthUser) (attachmentId : Uuid) (dto : ConfirmAttachmentDto)
  | confirmExpense (expenseId : Uuid) (user : AuthUser) (dto : ConfirmAttachmentDto)
  | convert (expenseId : Uuid) (user : AuthUser) (activityAttachmentId : Uuid)
  /-- A client puts an object. -/
  | upload (path : String)
  /-- Everything else changes. -/
  | surroundings (surroundings : Surroundings)

/-- The world after a request: as it was, when the request fails. -/
def World.answered {α : Type} (world : World) (result : Except Exception (α × World)) : World :=
  match result with
  | .ok (_, after) => after
  | .error _ => world

def World.after (world : World) : Step → World
  | .confirm activityId user dto =>
      world.answered (ActivityAttachmentsService.confirm world activityId user dto)
  | .remove activityId user attachmentId =>
      world.answered
        ((ActivityAttachmentsService.remove world activityId user attachmentId).map fun after =>
          ((), after))
  | .rename activityId user attachmentId fileName =>
      world.answered (ActivityAttachmentsService.rename world activityId user attachmentId fileName)
  | .replace activityId user attachmentId dto =>
      world.answered (ActivityAttachmentsService.replace world activityId user attachmentId dto)
  | .confirmExpense expenseId user dto =>
      world.answered (ExpenseAttachmentsService.confirm world expenseId user dto)
  | .convert expenseId user activityAttachmentId =>
      world.answered (ExpenseAttachmentsService.convert world expenseId user activityAttachmentId)
  | .upload path => { world with objects := path :: world.objects }
  | .surroundings surroundings => { world with toSurroundings := surroundings }

/-- Steps one after the other, each of them allowed where it is made, from a world without
attachments. -/
inductive Run (allowed : World → Step → Prop) : World → Prop where
  | start (surroundings : Surroundings) (objects : List String) :
      Run allowed ⟨surroundings, .empty, .empty, objects⟩
  | step {world : World} (step : Step) : Run allowed world → allowed world step →
      Run allowed (world.after step)

theorem Run.steps {allowed : World → Step → Prop} {world : World} (run : Run allowed world)
    (steps : List Step) (permitted : ∀ step ∈ steps, ∀ world, allowed world step) :
    Run allowed (steps.foldl World.after world) := by
  induction steps generalizing world with
  | nil => exact run
  | cons first rest ih =>
    exact ih (run.step first (permitted first List.mem_cons_self world)) fun step member =>
      permitted step (List.mem_cons_of_mem first member)

end ParentalCoord.Attachments

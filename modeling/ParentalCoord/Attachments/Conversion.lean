import ParentalCoord.Attachments.Service
import ParentalCoord.Expenses.Service
import ParentalCoord.Interleaving.Protocol
import ParentalCoord.Interleaving.Sum

/-!
Conversions of attachments, among the requests on the expenses.

A conversion writes twice: it inserts the row of the expense's attachment, and then it
sets the activity of the expense, if that is not deleted.  No transaction holds the two
together, and nobody looks at whether the second one has affected a row.  Here each of
its queries is a call, and all the requests on expenses may run meanwhile.
-/

namespace ParentalCoord.Conversions

open Interleaving Store Activities Attachments

/-! ## The surroundings -/

/-- What `createAttachment` is given; the database adds the rest. -/
structure NewAttachment where
  expenseId : Uuid
  fileUrl : String
  fileName : String
  fileType : String
  uploadedBy : Uuid

def NewAttachment.saved (data : NewAttachment) (id : Uuid) (now : Instant) :
    ExpenseAttachmentEntity where
  id := id
  expenseId := data.expenseId
  fileUrl := data.fileUrl
  fileName := data.fileName
  fileType := data.fileType
  uploadedBy := data.uploadedBy
  uploadedAt := now

structure World where
  expenses : Expenses.World
  /-- The column `activity_id` of each expense. -/
  activityId : Uuid → Option Uuid
  expenseAttachments : Table ExpenseAttachmentEntity.id
  attachments : Table ActAttachmentEntity.id
  activities : Table ActivityEntity.id
  generated : Uuid
  /-- The signed URL of a key. -/
  signed : String → Option String

inductive Call where
  | findActivityAttachment (id : Uuid)
  | createAttachment (data : NewAttachment)
  | updateActivityId (id activityId : Uuid)
  | createSignedDownloadUrl (path : String)

@[reducible] def files : Interface where
  Call := Call
  Answer
    | .findActivityAttachment _ => Option (ActAttachmentEntity × Option ActivityEntity)
    | .createAttachment _ => ExpenseAttachmentEntity
    | .updateActivityId _ _ => Bool
    | .createSignedDownloadUrl _ => Option String

@[reducible] def surface : Interface := Expenses.interface.sum files

/-- The expense is there and not deleted. -/
def World.alive (world : World) (id : Uuid) : Bool :=
  (world.expenses.expenses.get id).any (·.deletedAt = none)

/-- `expense-attachments.repository.ts::createAttachment`: the row is inserted. -/
def createAttachment (data : NewAttachment) (world : World) :
    Except Exception ExpenseAttachmentEntity × World :=
  let row := data.saved world.generated world.expenses.clock
  match world.expenseAttachments.insert row with
  | none => (.error .fault, world)
  | some expenseAttachments =>
      (.ok row,
        { world with
          expenseAttachments := expenseAttachments
          expenses :=
            { world.expenses with attachments := world.expenses.attachments ++ [data.expenseId] } })

/-- `expenses.repository.ts::updateActivityId`: `UPDATE expense SET activity_id, updated_at WHERE id
AND deleted_at IS NULL`. -/
def updateActivityId (id activityId : Uuid) (world : World) : Except Exception Bool × World :=
  if world.expenses.locks id then (.error .fault, world)
  else match (world.expenses.expenses.get id).filter (·.deletedAt = none) with
  | none => (.ok false, world)
  | some row =>
      (.ok true,
        { world with
          activityId := Function.update world.activityId id (some activityId)
          expenses :=
            { world.expenses with
              expenses := world.expenses.expenses.put { row with updatedAt := world.expenses.clock } } })

def serve (query : surface.Call) (world : World) : Except Exception (surface.Answer query) × World :=
  match query with
  | .inl query =>
      ((Expenses.serve query world.expenses).1,
        { world with expenses := (Expenses.serve query world.expenses).2 })
  | .inr (.findActivityAttachment id) =>
      (.ok ((world.attachments.get id).map fun attachment =>
        (attachment, world.activities.get attachment.activityId)), world)
  | .inr (.createAttachment data) => createAttachment data world
  | .inr (.updateActivityId id activityId) => updateActivityId id activityId world
  | .inr (.createSignedDownloadUrl path) => (.ok (world.signed path), world)

def failure : surface.Call → Option Exception
  | .inl query => Expenses.failure query
  | .inr _ => some .fault

inductive Nudge where
  | expenses (how : Expenses.Nudge)
  | generate (id : Uuid)
  | storage (signed : String → Option String)

def nudge (how : Nudge) (world : World) : World :=
  match how with
  | .expenses how => { world with expenses := Expenses.nudge how world.expenses }
  | .generate id => { world with generated := id }
  | .storage signed => { world with signed := signed }

/-! ## The requests -/

abbrev Request := Handler surface Exception

def perform (query : Call) : Request (files.Answer query) :=
  @Handler.perform surface Exception (.inr query)

def ensureMember (expenseId : Uuid) (user : AuthUser) : Request Expenses.ExpenseEntity := do
  match ← (Expenses.findAliveById expenseId).inl with
  | none => throw (notFoundException "Expense not found")
  | some loaded =>
    let isMember ← (Expenses.isActiveBondForMember loaded.expense.bondId user.id).inl
    if !isMember then throw (notFoundException "Expense not found")
    else return loaded.expense

def ensureRequester (expenseId : Uuid) (user : AuthUser) : Request Expenses.ExpenseEntity := do
  let expense ← ensureMember expenseId user
  if expense.requestedBy ≠ user.id then
    throw (forbiddenException "Only the requester can attach a document to this expense")
  else return expense

/-- The writes of a conversion, and its answer. -/
def attach (expenseId : Uuid) (user : AuthUser) (attachment : ActAttachmentEntity) :
    Request AttachmentResponse := do
  let saved ← perform (.createAttachment
    { expenseId := expenseId
      fileUrl := attachment.fileUrl
      fileName := attachment.fileName
      fileType := attachment.fileType
      uploadedBy := user.id })
  let _ ← perform (.updateActivityId expenseId attachment.activityId)
  let viewUrl ← perform (.createSignedDownloadUrl saved.fileUrl)
  return ExpenseAttachmentsService.toResponse saved viewUrl

/-- `expense-attachments.service.ts::convert`: an attachment of an activity of the bond is copied to
the expense. -/
def convert (expenseId : Uuid) (user : AuthUser) (activityAttachmentId : Uuid) :
    Request AttachmentResponse := do
  let expense ← ensureRequester expenseId user
  match ← perform (.findActivityAttachment activityAttachmentId) with
  | none => throw (notFoundException "Activity attachment not found")
  | some (attachment, activity) =>
    if ¬activity.any (·.bondId = expense.bondId) then
      throw (notFoundException "Activity attachment not found")
    else attach expenseId user attachment

inductive Reply where
  | expense (reply : Expenses.Reply)
  | attachment (response : AttachmentResponse)

inductive Entry where
  | expense (entry : Expenses.Entry)
  | convert (expenseId : Uuid) (user : AuthUser) (activityAttachmentId : Uuid)

def handler (config : Expenses.Config) : Entry → Request Reply
  | .expense entry => (Expenses.handler config entry).inl.bind fun reply => .ret (.expense reply)
  | .convert expenseId user activityAttachmentId => do
      return .attachment (← convert expenseId user activityAttachmentId)

@[reducible] def conversions (config : Expenses.Config) (start : World) :
    System surface Exception Reply where
  World := World
  Entry := Entry
  Nudge := Nudge
  start := start
  handler := handler config
  serve := serve
  failure := failure
  nudge := nudge

end ParentalCoord.Conversions

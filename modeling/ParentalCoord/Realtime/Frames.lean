import ParentalCoord.JsonText
import ParentalCoord.Notifications.FanOut
import ParentalCoord.Outbox
import ParentalCoord.Realtime.Gateway

/-!
The frames of the channel: how they are built, and which of them are taken off it.

All frames travel over one channel as texts.  A frame that is taken off goes by its type to
the sockets of one user or of a bond.
-/

namespace ParentalCoord.Realtime

open Notifications Numbers

/-! ## Building -/

/-- An object under construction: a key may be there with no value, `undefined`, and a text
does not show it then. -/
abbrev Draft := List (String × Option Json)

/-- `message[key] = value`. -/
def Draft.assign (message : Draft) (key : String) (value : Option Json) : Draft :=
  match message with
  | [] => [(key, value)]
  | member :: rest =>
      if member.1 = key then (key, value) :: rest else member :: Draft.assign rest key value

/-- `{ ...message, ...extras }`. -/
def Draft.spread (message : Draft) (extras : Record) : Draft :=
  extras.foldl (fun message member => Draft.assign message member.1 (some member.2)) message

/-- What a text shows of it. -/
def Draft.defined (message : Draft) : Record :=
  message.filterMap fun member => member.2.map (member.1, ·)

/-- A value that is neither `null` nor `undefined`. -/
def present : Option Json → Option Json
  | some .null => none
  | value => value

/-- The members of a payload that a frame carries along.  Assigning `__proto__` makes no
key. -/
def extrasOf (RESERVED_MESSAGE_KEYS : List String) (payload : Record) : Record :=
  payload.filter fun member => member.1 ∉ RESERVED_MESSAGE_KEYS ∧
    (present (some member.2)).isSome ∧ member.1 ≠ "__proto__"

namespace ActivityChanged

def RESERVED_MESSAGE_KEYS : List String :=
  ["v", "type", "eventId", "bondId", "activityId", "from", "to", "actor", "occurredAt", "reason"]

end ActivityChanged

namespace ExpenseChanged

def RESERVED_MESSAGE_KEYS : List String :=
  ["v", "type", "eventId", "bondId", "expenseId", "status", "actor", "occurredAt"]

end ExpenseChanged

/-- `activity-changed-message.ts::buildActivityChangedMessage`: the payload without the reserved keys,
under the keys of the event. -/
def buildActivityChangedMessage (e : OutboxEventEntity) : Draft :=
  let payload := e.payload
  let message := Draft.spread
    [("v", some (.num (.ofInt 1))),
     ("type", some (.str "activity.changed")),
     ("eventId", some (.str e.id)),
     ("activityId", some ((present (payload.lookup "activityId")).getD (.str e.aggregateId))),
     ("bondId", some (.str e.bondId)),
     ("from", payload.lookup "from"),
     ("to", payload.lookup "to"),
     ("actor", payload.lookup "actor"),
     ("occurredAt", payload.lookup "occurredAt")]
    (extrasOf ActivityChanged.RESERVED_MESSAGE_KEYS payload)
  match present (payload.lookup "reason") with
  | some reason => message.assign "reason" (some reason)
  | none => message

/-- `expense-changed-message.ts::buildExpenseChangedMessage`: the payload without the reserved keys,
under the keys of the event. -/
def buildExpenseChangedMessage (e : OutboxEventEntity) : Draft :=
  let payload := e.payload
  Draft.spread
    [("v", some (.num (.ofInt 1))),
     ("type", some (.str "expense.changed")),
     ("eventId", some (.str e.id)),
     ("expenseId", some (.str e.aggregateId)),
     ("bondId", some (.str e.bondId)),
     ("status", payload.lookup "status"),
     ("actor", payload.lookup "actor"),
     ("occurredAt", some (.str (toISOString e.createdAt)))]
    (extrasOf ExpenseChanged.RESERVED_MESSAGE_KEYS payload)

/-- `notification-created-message.ts::buildNotificationCreatedMessage`: the notification, and the user
it is for. -/
def buildNotificationCreatedMessage (notification : CreatedNotificationRef) (occurredAt : String) :
    Draft :=
  [("v", some (.num (.ofInt 1))),
   ("type", some (.str "notification.created")),
   ("notificationId", some (.str notification.id)),
   ("userId", some (.str notification.userId)),
   ("notificationType", some (.str notification.type)),
   ("refEntityType", some (.str notification.refEntityType)),
   ("refEntityId", some (Json.ofOption notification.refEntityId)),
   ("occurredAt", some (.str occurredAt))]

/-! ## Taking off -/

/-- `realtime-message.ts::isString`: a string that is not empty. -/
def isString : Option Json → Bool
  | some (.str value) => 0 < jsLength value
  | _ => false

def isNull : Option Json → Bool
  | some .null => true
  | _ => false

def isActivityChanged (value : Record) : Bool :=
  isString (value.lookup "bondId") && isString (value.lookup "eventId")

def isExpenseChanged (value : Record) : Bool :=
  isString (value.lookup "bondId") && isString (value.lookup "eventId") &&
    isString (value.lookup "expenseId")

def isNotificationCreated (value : Record) : Bool :=
  isString (value.lookup "notificationId") && isString (value.lookup "userId") &&
    isString (value.lookup "notificationType") && isString (value.lookup "refEntityType") &&
    (isNull (value.lookup "refEntityId") || isString (value.lookup "refEntityId")) &&
    isString (value.lookup "occurredAt")

/-- `parsed.v !== 1` is not so. -/
def isVersionOne : Option Json → Bool
  | some (.num value) => value = .ofInt 1
  | _ => false

/-- What `parseRealtimeFrame` returns for a text it can parse.  An array has no `v`. -/
def realtimeFrame : Json → Option Record
  | .obj parsed =>
      if !isVersionOne (parsed.lookup "v") then none
      else match asString (parsed.lookup "type") with
      | some "activity.changed" => if isActivityChanged parsed then some parsed else none
      | some "expense.changed" => if isExpenseChanged parsed then some parsed else none
      | some "notification.created" => if isNotificationCreated parsed then some parsed else none
      | _ => none
  | _ => none

def parseRealtimeFrame (raw : String) : Except Exception (Option Record) :=
  match jsonParse raw with
  | none => .error .fault
  | some parsed => .ok (realtimeFrame parsed)

/-- What was written as a text is parsed as it was. -/
theorem parseRealtimeFrame_stringify {frame : Record} (once : (Json.obj frame).keysOnce = true) :
    parseRealtimeFrame (jsonStringify (.obj frame)) = .ok (realtimeFrame (.obj frame)) := by
  rw [parseRealtimeFrame, jsonParse_stringify _ once]

/-- The string under a key that `parseRealtimeFrame` has found to hold one. -/
def stringAt (frame : Record) (key : String) : String := (asString (frame.lookup key)).getD ""

/-- What `deliver` makes of a frame: by its type it goes to a user, and then without the key
that names them, or to a bond. -/
def messageOf (frame : Record) : RealtimeMessage :=
  match asString (frame.lookup "type") with
  | some "notification.created" =>
      .notificationCreated (stringAt frame "userId") (frame.filter (·.1 ≠ "userId"))
  | some "expense.changed" => .expenseChanged (stringAt frame "bondId") frame
  | _ => .activityChanged (stringAt frame "bondId") frame

end ParentalCoord.Realtime

import Mathlib.Data.List.Dedup
import ParentalCoord.Activities.TransitionMap
import ParentalCoord.Expenses.Policy
import ParentalCoord.Replacing

/-!
What is notified of an event: to whom, and in which words.

A rule names the slots its recipients come from and never looks at a database.
Whoever stands in several slots is told once, and whoever acted is not told of it.
-/

namespace ParentalCoord.Notifications

open Activities Expenses

/-! ## What both kinds of rules share -/

/-- The candidates that are left, each of them once and in a fixed order. -/
def resolveRecipients (candidates : List (Option String)) (excluded : List String) : List String :=
  let recipients := candidates.foldl
    (fun recipients candidate => match candidate with
      | some candidate =>
          if truthy candidate && candidate ∉ excluded && candidate ∉ recipients then
            recipients ++ [candidate]
          else recipients
      | none => recipients)
    []
  jsSort recipients

/-- A text of at most so many code units, the last of them an ellipsis when it was cut. -/
def fitted (maxLength : ℤ) (raw : CodeUnits) : CodeUnits :=
  if (raw.length : ℤ) ≤ maxLength then raw else raw.take (maxLength - 1).toNat ++ utf16 "…"

section Recipients

variable {candidates : List (Option String)} {excluded : List String} {id : String}

theorem mem_resolveRecipients : id ∈ resolveRecipients candidates excluded ↔
    some id ∈ candidates ∧ truthy id ∧ id ∉ excluded := by
  suffices collected : ∀ recipients : List String, id ∈ candidates.foldl
      (fun recipients candidate => match candidate with
        | some candidate =>
            if truthy candidate && candidate ∉ excluded && candidate ∉ recipients then
              recipients ++ [candidate]
            else recipients
        | none => recipients) recipients ↔
      id ∈ recipients ∨ some id ∈ candidates ∧ truthy id ∧ id ∉ excluded by
    rw [resolveRecipients, jsSort, List.mem_insertionSort, collected]
    simp
  induction candidates with
  | nil => simp
  | cons first rest ih =>
    intro recipients
    rw [List.foldl_cons, ih]
    cases first with
    | none => simp
    | some candidate =>
      by_cases same : id = candidate
      · subst same
        by_cases known : id ∈ recipients <;> by_cases held : truthy id <;>
          by_cases out : id ∈ excluded <;> simp [known, held, out]
      · dsimp only
        split <;> simp [same]

theorem nodup_resolveRecipients : (resolveRecipients candidates excluded).Nodup := by
  suffices collected : ∀ recipients : List String, recipients.Nodup → (candidates.foldl
      (fun recipients candidate => match candidate with
        | some candidate =>
            if truthy candidate && candidate ∉ excluded && candidate ∉ recipients then
              recipients ++ [candidate]
            else recipients
        | none => recipients) recipients).Nodup by
    rw [resolveRecipients, jsSort, (List.perm_insertionSort _ _).nodup_iff]
    exact collected [] List.nodup_nil
  induction candidates with
  | nil => exact fun recipients unique => unique
  | cons first rest ih =>
    intro recipients unique
    rw [List.foldl_cons]
    apply ih
    cases first with
    | none => exact unique
    | some candidate =>
      dsimp only
      split
      · rename_i fresh
        rw [List.nodup_append]
        refine ⟨unique, List.nodup_singleton _, ?_⟩
        rintro id member last here rfl
        rw [List.mem_singleton] at here
        subst here
        simp [member] at fresh
      · exact unique

end Recipients

/-! ## Activities -/

inductive RecipientSlot where
  | assignee
  | creator
  | coordinator
  | members
  deriving DecidableEq

structure RenderContext where
  activityTitle : String
  scheduledStart : Option Instant := none

structure NotificationFanOutRule where
  eventType : String
  type : String
  title : String
  /-- The body, by the format of dates. -/
  body : (Instant → String) → RenderContext → CodeUnits
  recipients : List RecipientSlot
  excludeCoordinator : Bool

def TITLE_CREATED := "Nueva actividad"
def TITLE_ASSIGNED := "Nueva actividad asignada"
def TITLE_ASSISTING := "Actividad aceptada"
def TITLE_IN_PROGRESS := "Actividad en curso"
def TITLE_VERIFY := "Actividad por verificar"
def TITLE_VERIFY_EXPIRED := "La verificación venció"
def TITLE_CREATED_OVERDUE := "Actividad sin asignar"
def TITLE_OVERDUE := "Actividad vencida"
def TITLE_NOT_ASSISTING := "Actividad declinada"
def TITLE_DONE := "Actividad finalizada"
def TITLE_CANCELLED := "Actividad cancelada"

/-- `activity-notification.map.ts::renderWithTitle`: the title in the place that the template has for
it. -/
def renderWithTitle (template : String) (ctx : RenderContext) (maxLength : ℤ := 100) : CodeUnits :=
  let pattern := utf16 "\x7btitle\x7d"
  let maxTitleLength := maxLength - (replaceFirst pattern [] (utf16 template)).length
  replaceFirst pattern (fitted maxTitleLength (utf16 ctx.activityTitle)) (utf16 template)

/-- A body with the date when there is one. -/
def datedBody (withDate : String → String) (without : String)
    (formatActivityDateTime : Instant → String) (ctx : RenderContext) : CodeUnits :=
  match ctx.scheduledStart with
  | some scheduledStart => renderWithTitle (withDate (formatActivityDateTime scheduledStart)) ctx
  | none => renderWithTitle without ctx

def NOTIFICATION_FAN_OUT_RULES : List NotificationFanOutRule :=
  [{ eventType := ACTIVITY_EVENT.CREATED
     type := "activity_created"
     title := TITLE_CREATED
     body := datedBody (fun date => "Se creó \"\x7btitle\x7d\" para el " ++ date ++ ".")
       "Se creó \"\x7btitle\x7d\"."
     recipients := [.members]
     excludeCoordinator := true },
   { eventType := ACTIVITY_EVENT.ASSIGNED
     type := "activity_assigned"
     title := TITLE_ASSIGNED
     body := datedBody (fun date => "Te asignaron \"\x7btitle\x7d\" para el " ++ date ++ ".")
       "Te asignaron \"\x7btitle\x7d\"."
     recipients := [.assignee, .creator]
     excludeCoordinator := true },
   { eventType := ACTIVITY_EVENT.ASSISTING
     type := "activity_assisting"
     title := TITLE_ASSISTING
     body := datedBody (fun date => "Se confirmó \"\x7btitle\x7d\" para el " ++ date ++ ".")
       "Se confirmó \"\x7btitle\x7d\"."
     recipients := [.creator, .coordinator]
     excludeCoordinator := false },
   { eventType := ACTIVITY_EVENT.IN_PROGRESS
     type := "activity_in_progress"
     title := TITLE_IN_PROGRESS
     body := datedBody (fun date => "Comenzó \"\x7btitle\x7d\" el " ++ date ++ ".")
       "Comenzó \"\x7btitle\x7d\"."
     recipients := [.assignee, .creator]
     excludeCoordinator := false },
   { eventType := ACTIVITY_EVENT.VERIFY
     type := "activity_verify"
     title := TITLE_VERIFY
     body := fun _ => (renderWithTitle "\"\x7btitle\x7d\" terminó y espera tu confirmación." ·)
     recipients := [.assignee, .creator]
     excludeCoordinator := false },
   { eventType := ACTIVITY_EVENT.VERIFY_EXPIRED
     type := "activity_verify_expired"
     title := TITLE_VERIFY_EXPIRED
     body := fun _ => (renderWithTitle "\"\x7btitle\x7d\" quedó sin confirmar y venció." ·)
     recipients := [.assignee, .creator, .coordinator]
     excludeCoordinator := false },
   { eventType := ACTIVITY_EVENT.CREATED_OVERDUE
     type := "activity_created_overdue"
     title := TITLE_CREATED_OVERDUE
     body := fun _ => (renderWithTitle "\"\x7btitle\x7d\" quedó sin asignar y venció." ·)
     recipients := [.creator, .coordinator]
     excludeCoordinator := false },
   { eventType := ACTIVITY_EVENT.OVERDUE
     type := "activity_overdue"
     title := TITLE_OVERDUE
     body := fun _ =>
       (renderWithTitle "\"\x7btitle\x7d\" venció. Reprográmala o márcala como finalizada." ·)
     recipients := [.assignee, .creator, .coordinator]
     excludeCoordinator := false },
   { eventType := ACTIVITY_EVENT.NOT_ASSISTING
     type := "activity_not_assisting"
     title := TITLE_NOT_ASSISTING
     body := fun _ => (renderWithTitle "El responsable declinó \"\x7btitle\x7d\"." ·)
     recipients := [.creator, .coordinator]
     excludeCoordinator := false },
   { eventType := ACTIVITY_EVENT.DONE
     type := "activity_done"
     title := TITLE_DONE
     body := fun _ => (renderWithTitle "Se finalizó \"\x7btitle\x7d\"." ·)
     recipients := [.assignee, .creator, .coordinator]
     excludeCoordinator := false },
   { eventType := ACTIVITY_EVENT.CANCELLED
     type := "activity_cancelled"
     title := TITLE_CANCELLED
     body := fun _ => (renderWithTitle "Se canceló \"\x7btitle\x7d\"." ·)
     recipients := [.assignee, .creator]
     excludeCoordinator := false }]

structure RecipientContext where
  assignedTo : Option Uuid := none
  createdBy : Option Uuid := none
  coordinatorId : Option Uuid := none
  memberIds : Option (List Uuid) := none
  actorId : Option Uuid := none

def resolveNotificationRule (eventType : String) : Option NotificationFanOutRule :=
  NOTIFICATION_FAN_OUT_RULES.find? (·.eventType = eventType)

/-- Whom a slot stands for. -/
def RecipientContext.candidates (context : RecipientContext) : RecipientSlot → List (Option Uuid)
  | .assignee => [context.assignedTo]
  | .creator => [context.createdBy]
  | .coordinator => [context.coordinatorId]
  | .members => (context.memberIds.getD []).map some

/-- Whom a rule leaves out: the coordinator where it says so, and the actor always. -/
def RecipientContext.excluded (context : RecipientContext) (rule : NotificationFanOutRule) :
    List Uuid :=
  (if rule.excludeCoordinator then (context.coordinatorId.filter truthy).toList else []) ++
    (context.actorId.filter truthy).toList

def buildRecipientIds (rule : NotificationFanOutRule) (context : RecipientContext) : List Uuid :=
  resolveRecipients (rule.recipients.flatMap context.candidates) (context.excluded rule)

structure RenderedNotificationText where
  title : String
  body : CodeUnits

def renderNotificationText (formatActivityDateTime : Instant → String)
    (rule : NotificationFanOutRule) (ctx : RenderContext) : RenderedNotificationText :=
  ⟨rule.title, rule.body formatActivityDateTime ctx⟩

/-! ## Expenses -/

inductive ExpenseRecipientSlot where
  | requester
  | counterpart
  deriving DecidableEq

/-- The amount is a number of hundredths. -/
structure ExpenseRenderContext where
  concept : String
  amount : ℤ

structure ExpenseNotificationRule where
  eventType : ExpenseEventType
  type : String
  title : String
  body : ExpenseRenderContext → CodeUnits
  recipients : List ExpenseRecipientSlot

namespace EXPENSE_TITLE

def CREATED := "Nuevo gasto"
def APPROVED := "Gasto aprobado"
def REJECTED := "Gasto rechazado"
def PAID := "Gasto pagado"
def STALE := "Gasto sin aprobar"

end EXPENSE_TITLE

/-- A point before every three digits from the right, but none in front. -/
def withThousands : List Char → List Char
  | [] => []
  | digit :: rest =>
      if rest ≠ [] ∧ rest.length % 3 = 0 then digit :: '.' :: withThousands rest
      else digit :: withThousands rest

/-- `expense-notification.map.ts::formatExpenseAmount`: an amount as `$15.000,50`. -/
def formatExpenseAmount (amount : ℤ) : String :=
  let integerPart := (Nat.repr (amount.natAbs / 100)).toList
  (if amount < 0 then "-" else "") ++ "$" ++ String.ofList (withThousands integerPart) ++ "," ++
    padded 2 (amount.natAbs % 100)

/-- `expense-notification.map.ts::renderWithConcept`: the concept and the amount in the places that
the template has for them, the concept first. -/
def renderWithConcept (template : String) (ctx : ExpenseRenderContext) (maxLength : ℤ := 100) :
    CodeUnits :=
  let amount := utf16 (formatExpenseAmount ctx.amount)
  let fill (concept : CodeUnits) :=
    replaceFirst (utf16 "\x7bamount\x7d") amount
      (replaceFirst (utf16 "\x7bconcept\x7d") concept (utf16 template))
  let skeleton := fill []
  fill (fitted (maxLength - skeleton.length) (utf16 ctx.concept))

def EXPENSE_NOTIFICATION_RULES : List ExpenseNotificationRule :=
  [{ eventType := .created
     type := "expense_created"
     title := EXPENSE_TITLE.CREATED
     body := (renderWithConcept "\"\x7bconcept\x7d\" por \x7bamount\x7d espera tu aprobación." ·)
     recipients := [.counterpart] },
   { eventType := .approved
     type := "expense_approved"
     title := EXPENSE_TITLE.APPROVED
     body := (renderWithConcept "Se aprobó \"\x7bconcept\x7d\" por \x7bamount\x7d." ·)
     recipients := [.requester] },
   { eventType := .rejected
     type := "expense_rejected"
     title := EXPENSE_TITLE.REJECTED
     body := (renderWithConcept "Se rechazó \"\x7bconcept\x7d\" por \x7bamount\x7d." ·)
     recipients := [.requester] },
   { eventType := .paid
     type := "expense_paid"
     title := EXPENSE_TITLE.PAID
     body := (renderWithConcept "Se marcó como pagado \"\x7bconcept\x7d\" por \x7bamount\x7d." ·)
     recipients := [.requester] },
   { eventType := .stale
     type := "expense_stale"
     title := EXPENSE_TITLE.STALE
     body := (renderWithConcept "\"\x7bconcept\x7d\" lleva más de 7 días pendiente." ·)
     recipients := [.counterpart] }]

def resolveExpenseNotificationRule (eventType : String) : Option ExpenseNotificationRule :=
  EXPENSE_NOTIFICATION_RULES.find? (·.eventType.value = eventType)

structure ExpenseRecipientContext where
  requestedBy : Option Uuid := none
  counterpartId : Option Uuid := none
  actorId : Option Uuid := none

def ExpenseRecipientContext.candidates (context : ExpenseRecipientContext) :
    ExpenseRecipientSlot → Option Uuid
  | .requester => context.requestedBy
  | .counterpart => context.counterpartId

def buildExpenseRecipientIds (rule : ExpenseNotificationRule) (context : ExpenseRecipientContext) :
    List Uuid :=
  resolveRecipients (rule.recipients.map context.candidates)
    (context.actorId.filter truthy).toList

def renderExpenseNotificationText (rule : ExpenseNotificationRule) (ctx : ExpenseRenderContext) :
    RenderedNotificationText :=
  ⟨rule.title, rule.body ctx⟩

example : renderWithConcept "Se aprobó \"\x7bconcept\x7d\" por \x7bamount\x7d." ⟨"Colegio", 1500050⟩ =
    utf16 "Se aprobó \"Colegio\" por $15.000,50." := by decide +kernel

end ParentalCoord.Notifications

import ParentalCoord.Js

/-!
What a request can fail with: an `HttpException` of the service, with a stable
`code` where the source gives it one, a plain error, or a fault of the database
or of Redis.
-/

namespace ParentalCoord

inductive Exception where
  | http (status : ℕ) (code : Option String) (message : String) (details : Option Json)
  /-- `new Error(message)`. -/
  | error (message : String)
  | fault
  deriving Inhabited

/-- `new NotFoundException(message)`. -/
def notFoundException (message : String) : Exception := .http 404 none message none

/-- `new BadRequestException(message)`. -/
def badRequestException (message : String) : Exception := .http 400 none message none

/-- `new ForbiddenException(message)`. -/
def forbiddenException (message : String) : Exception := .http 403 none message none

/-- `new ConflictException(message)`. -/
def conflictException (message : String) : Exception := .http 409 none message none

/-- `new CodedException(code, statusCode, message, details)`. -/
def codedException (code : String) (statusCode : ℕ) (message : String)
    (details : Option Json := none) : Exception :=
  .http statusCode (some code) message details

def activityNotFound (message : String := "Activity not found") : Exception :=
  codedException "ACTIVITY_NOT_FOUND" 404 message

def activityForbidden (message : String) : Exception :=
  codedException "ACTIVITY_FORBIDDEN" 403 message

def activityInvalidTransition (from_ to_ : String) (message : Option String := none) : Exception :=
  codedException "ACTIVITY_INVALID_TRANSITION" 409
    (message.getD ("Invalid activity transition: " ++ from_ ++ " -> " ++ to_))
    (some (.obj [("from", .str from_), ("to", .str to_)]))

def validationFailed (message : String) (details : Option Json := none) : Exception :=
  codedException "VALIDATION_FAILED" 422 message details

/-- A result of two parts is that of the second at the value of the first. -/
theorem bind_ok {α β : Type} {first : Except Exception α} {rest : α → Except Exception β} {result : β}
    (done : first >>= rest = .ok result) : ∃ value, first = .ok value ∧ rest value = .ok result := by
  cases first with
  | error error => cases done
  | ok value => exact ⟨value, rfl, done⟩

end ParentalCoord

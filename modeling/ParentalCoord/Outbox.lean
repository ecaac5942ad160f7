import ParentalCoord.Js

/-!
The transactional outbox: one row for each event, inserted in the transaction
of the aggregate it is about.
-/

namespace ParentalCoord

inductive OutboxAggregateType where
  | activity
  | expense
  deriving DecidableEq, Inhabited

/-- What a producer inserts. -/
structure InsertOutboxEventInput where
  aggregateType : OutboxAggregateType
  aggregateId : Uuid
  bondId : Uuid
  eventType : String
  aggregateVersion : ℕ
  payload : Record

/-- The row, with what the database adds and the relay writes. -/
structure OutboxEventEntity extends InsertOutboxEventInput where
  id : Uuid
  createdAt : Instant
  dispatchedAt : Option Instant

/-- The events of one aggregate, in the order they were inserted. -/
def eventsOf (type : OutboxAggregateType) (id : Uuid) (outbox : List InsertOutboxEventInput) :
    List InsertOutboxEventInput :=
  outbox.filter fun event => event.aggregateType = type ∧ event.aggregateId = id

variable {type : OutboxAggregateType} {id : Uuid} {outbox : List InsertOutboxEventInput}
  {event : InsertOutboxEventInput}

theorem eventsOf_append_self (kind : event.aggregateType = type) (own : event.aggregateId = id) :
    eventsOf type id (outbox ++ [event]) = eventsOf type id outbox ++ [event] := by
  simp [eventsOf, kind, own]

theorem eventsOf_append_other (other : event.aggregateId ≠ id) :
    eventsOf type id (outbox ++ [event]) = eventsOf type id outbox := by
  simp [eventsOf, other]

theorem mem_eventsOf :
    event ∈ eventsOf type id outbox ↔
      event ∈ outbox ∧ event.aggregateType = type ∧ event.aggregateId = id := by
  simp [eventsOf]

end ParentalCoord

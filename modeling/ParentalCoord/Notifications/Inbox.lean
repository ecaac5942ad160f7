import Mathlib.Data.Prod.Lex
import Mathlib.Data.String.Basic
import ParentalCoord.Notifications.FanOut
import ParentalCoord.Store.Paging

/-!
The inbox of a user: the pages of it, the counter of what is unread, the marks, and the purge of
what is older than the window of retention.

The rows are put there by others, a transaction at a time, and carry the time at which that
transaction began.  Nothing here takes a user from the request: all that a query or an update is
about are the rows of the user of the session.
-/

namespace ParentalCoord.Notifications

open Interleaving Store

/-! ## Rows -/

/-- `UPDATE … SET is_read = true WHERE …`. -/
def NotificationTable.markWhere (table : NotificationTable) (which : NotificationEntity → Bool) :
    NotificationTable where
  rows := table.rows.map fun row => if which row then { row with isRead := true } else row
  unique := by
    have same : (table.rows.map fun row => if which row then { row with isRead := true } else row).map
        NotificationEntity.id = table.rows.map NotificationEntity.id := by
      rw [List.map_map]
      refine List.map_congr_left fun row _ => ?_
      by_cases marked : which row <;> simp [marked]
    rw [same]
    exact table.unique
  once := by
    have same : (table.rows.map fun row => if which row then { row with isRead := true } else row).filterMap
        NotificationEntity.source = table.rows.filterMap NotificationEntity.source := by
      rw [List.filterMap_map]
      refine List.filterMap_congr fun row _ => ?_
      by_cases marked : which row <;> simp [marked, NotificationEntity.source]
    rw [same]
    exact table.once

/-- `DELETE … WHERE …`. -/
def NotificationTable.deleteWhere (table : NotificationTable) (which : NotificationEntity → Bool) :
    NotificationTable where
  toTable := table.filter (!which ·)
  once := (List.filter_sublist.filterMap _).nodup table.once

def NotificationEntity.unlinked (eventId : Uuid) (row : NotificationEntity) : NotificationEntity :=
  if row.sourceEventId = some eventId then { row with sourceEventId := none } else row

theorem source_unlinked (eventId : Uuid) (row : NotificationEntity) :
    (row.unlinked eventId).source = none ∨ (row.unlinked eventId).source = row.source := by
  unfold NotificationEntity.unlinked
  split
  · exact .inl rfl
  · exact .inr rfl

theorem sublist_unlinked (eventId : Uuid) (rows : List NotificationEntity) :
    ((rows.map (·.unlinked eventId)).filterMap NotificationEntity.source).Sublist
      (rows.filterMap NotificationEntity.source) := by
  induction rows with
  | nil => exact .refl _
  | cons row rows ih =>
    rw [List.map_cons, List.filterMap_cons, List.filterMap_cons]
    rcases source_unlinked eventId row with none | same
    · rw [none]
      cases row.source with
      | none => exact ih
      | some pair => exact ih.cons pair
    · rw [same]
      cases row.source with
      | none => exact ih
      | some pair => exact ih.cons_cons pair

/-- The foreign key `source_event_id`, `ON DELETE SET NULL`. -/
def NotificationTable.unlink (table : NotificationTable) (eventId : Uuid) : NotificationTable where
  rows := table.rows.map (·.unlinked eventId)
  unique := by
    have same : (table.rows.map (·.unlinked eventId)).map NotificationEntity.id =
        table.rows.map NotificationEntity.id := by
      rw [List.map_map]
      refine List.map_congr_left fun row _ => ?_
      by_cases linked : row.sourceEventId = some eventId <;> simp [NotificationEntity.unlinked, linked]
    rw [same]
    exact table.unique
  once := (sublist_unlinked eventId table.rows).nodup table.once

theorem NotificationTable.rows_insert {table after : NotificationTable} {row : NotificationEntity}
    (accepted : table.insert row = some after) : after.rows = table.rows ++ [row] := by
  obtain ⟨added, inserted, more⟩ := Option.bind_eq_some_iff.mp accepted
  split at more
  · cases more
    exact Table.rows_insert inserted
  · cases more

/-- Rows are taken in where they were taken in among more. -/
theorem NotificationTable.insert_of_sublist {table after small : NotificationTable} {row : NotificationEntity}
    (accepted : table.insert row = some after) (fewer : small.rows.Sublist table.rows) :
    ∃ after', small.insert row = some after' := by
  obtain ⟨added, inserted, once⟩ := Option.bind_eq_some_iff.mp accepted
  have free := Table.get_eq_none.mp (Table.get_insert inserted).1
  obtain ⟨added', inserted'⟩ : ∃ added', small.toTable.insert row = some added' := by
    refine Option.ne_none_iff_exists'.mp fun refused => ?_
    obtain ⟨old, found⟩ := Table.get_of_refused refused
    exact free (List.mem_map.mpr ⟨old, fewer.mem (Table.mem_of_get found), Table.key_of_get found⟩)
  have once' : (added'.rows.filterMap NotificationEntity.source).Nodup := by
    have all : (added.rows.filterMap NotificationEntity.source).Nodup := by
      by_contra twice
      simp [twice] at once
    rw [Table.rows_insert inserted] at all
    rw [Table.rows_insert inserted']
    exact ((fewer.append (.refl _)).filterMap _).nodup all
  refine ⟨⟨added', once'⟩, ?_⟩
  unfold NotificationTable.insert
  rw [inserted', Option.bind_eq_bind, Option.bind_some, dif_pos once']

namespace Inbox

def NOTIFICATIONS_DEFAULT_LIMIT : ℕ := 20
def NOTIFICATIONS_MAX_LIMIT : ℕ := 100
def DEFAULT_NOTIFICATIONS_RETENTION_DAYS : ℤ := 30
def MS_PER_DAY : ℤ := 86400000

/-- A query that has passed its validation. -/
structure ListNotificationsQueryDto where
  limit : Option ℕ := some NOTIFICATIONS_DEFAULT_LIMIT
  offset : Option ℕ := some 0
  unreadOnly : Option Bool := none
  bondId : Option Uuid := none
  limit_min : ∀ value ∈ limit, 1 ≤ value
  limit_max : ∀ value ∈ limit, value ≤ NOTIFICATIONS_MAX_LIMIT

structure ListNotificationsOptions where
  limit : ℕ
  offset : ℕ
  unreadOnly : Option Bool
  bondId : Option Uuid

structure NotificationResponseDto where
  id : Uuid
  type : String
  title : String
  body : String
  refEntityType : String
  refEntityId : Option Uuid
  bondId : Option Uuid
  isRead : Bool
  createdAt : String

structure PaginatedNotificationsDto where
  items : List NotificationResponseDto
  total : ℕ
  limit : ℕ
  offset : ℕ
  nextCursor : Option String

structure NotificationsRetentionResult where
  purged : ℕ
  cutoff : Instant
  days : ℤ

structure Config where
  NOTIFICATIONS_RETENTION_DAYS : Option ℤ := some 30

/-! ## The services -/

inductive Call where
  | findScoped (userId : Uuid) (options : ListNotificationsOptions)
  | countScoped (userId : Uuid) (options : ListNotificationsOptions)
  | countUnread (userId : Uuid) (bondId : Option Uuid)
  | markRead (id userId : Uuid)
  | markAllRead (userId : Uuid) (bondId : Option Uuid)
  | now
  | purgeOlderThan (cutoff : Instant) (onlyRead : Option Bool)

@[reducible] def interface : Interface where
  Call := Call
  Answer
    | .findScoped _ _ => List NotificationEntity
    | .countScoped _ _ => ℕ
    | .countUnread _ _ => ℕ
    | .markRead _ _ => ℕ
    | .markAllRead _ _ => ℕ
    | .now => Instant
    | .purgeOlderThan _ _ => ℕ

abbrev Request := Handler interface Exception

def perform (query : Call) : Request (interface.Answer query) :=
  @Handler.perform interface Exception query

/-- `notification.repository.ts::listForUser`: the two queries run side by side, and either may come
first. -/
def listForUser (countFirst : Bool) (userId : Uuid) (options : ListNotificationsOptions) :
    Request (List NotificationEntity × ℕ) := do
  if countFirst then
    let total ← perform (.countScoped userId options)
    let items ← perform (.findScoped userId options)
    return (items, total)
  else
    let items ← perform (.findScoped userId options)
    let total ← perform (.countScoped userId options)
    return (items, total)

/-- `notifications.service.ts::toResponse`: a notification as its user is shown it. -/
def toResponse (row : NotificationEntity) : NotificationResponseDto where
  id := row.id
  type := row.type
  title := row.title
  body := row.body
  refEntityType := row.refEntityType
  refEntityId := row.refEntityId
  bondId := row.bondId
  isRead := row.isRead
  createdAt := toISOString row.createdAt

def ListNotificationsQueryDto.size (query : ListNotificationsQueryDto) : ℕ :=
  query.limit.getD NOTIFICATIONS_DEFAULT_LIMIT

def ListNotificationsQueryDto.options (query : ListNotificationsQueryDto) : ListNotificationsOptions where
  limit := query.size
  offset := query.offset.getD 0
  unreadOnly := query.unreadOnly
  bondId := query.bondId

/-- `notifications.service.ts::list`: a page of the notifications of the user, and their number. -/
def list (countFirst : Bool) (user : Uuid) (query : ListNotificationsQueryDto) :
    Request PaginatedNotificationsDto := do
  let (items, total) ← listForUser countFirst user query.options
  return {
    items := items.map toResponse
    total := total
    limit := query.options.limit
    offset := query.options.offset
    nextCursor := none }

def unreadCount (user : Uuid) (bondId : Option Uuid) : Request ℕ := perform (.countUnread user bondId)

/-- `notifications.service.ts::markRead`: `Notification "{id}" not found`, of a row of somebody else
too. -/
def markRead (user id : Uuid) : Request Uuid := do
  let affected ← perform (.markRead id user)
  if affected = 0 then throw (notFoundException ("Notification \"" ++ id ++ "\" not found"))
  else return id

def markAllRead (user : Uuid) (bondId : Option Uuid) : Request ℕ := perform (.markAllRead user bondId)

namespace Retention

def run (config : Config) : Request NotificationsRetentionResult := do
  let now ← perform .now
  let days := config.NOTIFICATIONS_RETENTION_DAYS.getD DEFAULT_NOTIFICATIONS_RETENTION_DAYS
  let cutoff := now - days * MS_PER_DAY
  let purged ← perform (.purgeOlderThan cutoff none)
  return ⟨purged, cutoff, days⟩

/-- `notifications-retention.processor.ts::process`: a failed purge is logged, and so is a job of
another name. -/
def process (config : Config) (jobName : String) : Request (Option NotificationsRetentionResult) :=
  if jobName = "retention" then
    tryCatch (some <$> run config) fun _ => return none
  else return none

end Retention

/-! ## The database -/

structure World where
  clock : Instant
  notifications : NotificationTable

/-- `(n.created_at, n.id)`. -/
def position (row : NotificationEntity) : Instant ×ₗ Uuid := toLex (row.createdAt, row.id)

/-- `bond_id = :bondId`, when there is one to filter by. -/
def ofBond (bondId : Option Uuid) (row : NotificationEntity) : Bool :=
  match bondId with
  | none => true
  | some bondId => !truthy bondId || row.bondId = some bondId

def scopedQuery (userId : Uuid) (options : ListNotificationsOptions) (row : NotificationEntity) : Bool :=
  row.userId = userId && (options.unreadOnly ≠ some true || row.isRead = false) && ofBond options.bondId row

def unreadOf (userId : Uuid) (bondId : Option Uuid) (row : NotificationEntity) : Bool :=
  row.userId = userId && row.isRead = false && ofBond bondId row

/-- Which rows a purge deletes. -/
def purged (cutoff : Instant) (onlyRead : Option Bool) (row : NotificationEntity) : Bool :=
  row.createdAt < cutoff && (onlyRead ≠ some true || row.isRead)

def World.scoped (world : World) (userId : Uuid) (options : ListNotificationsOptions) :
    List NotificationEntity :=
  world.notifications.rows.filter (scopedQuery userId options)

/-- `ORDER BY n.created_at DESC, n.id DESC`. -/
def newestFirst (rows : List NotificationEntity) : List NotificationEntity :=
  (Arrangement.stable : Arrangement position).arrange rows

def serve (query : Call) (world : World) : Except Exception (interface.Answer query) × World :=
  match query with
  | .findScoped userId options =>
      (.ok (((newestFirst (world.scoped userId options)).drop options.offset).take options.limit), world)
  | .countScoped userId options => (.ok (world.scoped userId options).length, world)
  | .countUnread userId bondId => (.ok (world.notifications.rows.countP (unreadOf userId bondId)), world)
  | .markRead id userId =>
      let which := fun row : NotificationEntity => row.userId = userId && row.id = id
      (.ok (world.notifications.rows.countP which),
        { world with notifications := world.notifications.markWhere which })
  | .markAllRead userId bondId =>
      (.ok (world.notifications.rows.countP (unreadOf userId bondId)),
        { world with notifications := world.notifications.markWhere (unreadOf userId bondId) })
  | .now => (.ok world.clock, world)
  | .purgeOlderThan cutoff onlyRead =>
      (.ok (world.notifications.rows.countP (purged cutoff onlyRead)),
        { world with notifications := world.notifications.deleteWhere (purged cutoff onlyRead) })

/-- Every query can fail; reading the clock cannot. -/
def failure : Call → Option Exception
  | .now => none
  | _ => some .fault

inductive Nudge where
  | tick (ms : ℕ)
  /-- A transaction that adds a notification commits. -/
  | create (id : Uuid) (input : CreateNotificationInput) (createdAt : Instant)
  /-- The retention of the outbox deletes an event. -/
  | forget (eventId : Uuid)

def nudge (how : Nudge) (world : World) : World :=
  match how with
  | .tick ms => { world with clock := world.clock + ms }
  | .create id input createdAt =>
      { world with
        notifications := (world.notifications.insert
          { input with id := id, createdAt := createdAt }).getD world.notifications }
  | .forget eventId => { world with notifications := world.notifications.unlink eventId }

inductive Entry where
  | list (user : Uuid) (query : ListNotificationsQueryDto) (countFirst : Bool)
  | unreadCount (user : Uuid) (bondId : Option Uuid)
  | markRead (user id : Uuid)
  | markAllRead (user : Uuid) (bondId : Option Uuid)
  | process (jobName : String)

inductive Reply where
  | page (dto : PaginatedNotificationsDto)
  | unread (count : ℕ)
  | marked (id : Uuid)
  | affected (count : ℕ)
  | done (result : Option NotificationsRetentionResult)

def handle (config : Config) : Entry → Request Reply
  | .list user query countFirst => .page <$> list countFirst user query
  | .unreadCount user bondId => .unread <$> unreadCount user bondId
  | .markRead user id => .marked <$> markRead user id
  | .markAllRead user bondId => .affected <$> markAllRead user bondId
  | .process jobName => .done <$> Retention.process config jobName

def inbox (config : Config) (start : World) : System interface Exception Reply where
  World := World
  Entry := Entry
  Nudge := Nudge
  start := start
  handler := handle config
  serve := serve
  failure := failure
  nudge := nudge

end Inbox

end ParentalCoord.Notifications

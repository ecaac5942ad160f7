import ParentalCoord.Store.Grouping
import ParentalCoord.Store.Pages
import ParentalCoord.Webhooks.Service

/-!
The log of a subscription's deliveries, page by page, with the attempts of each.

Every page is a query of its own.  It asks for the newest deliveries first and says nothing of
those made at one time, so what the pages show together depends on where they end.
-/

namespace ParentalCoord.Webhooks

open Interleaving Store

namespace DeliveryLog

def WEBHOOK_DELIVERY_LOG_DEFAULT_LIMIT : ℕ := 20
def WEBHOOK_DELIVERY_LOG_MAX_LIMIT : ℕ := 100

/-- A query that has passed its validation. -/
structure WebhookDeliveryLogQueryDto where
  page : Option ℕ := none
  limit : Option ℕ := none
  page_min : ∀ value ∈ page, 1 ≤ value
  limit_min : ∀ value ∈ limit, 1 ≤ value
  limit_max : ∀ value ∈ limit, value ≤ WEBHOOK_DELIVERY_LOG_MAX_LIMIT

structure WebhookDeliveryAttemptResponseDto where
  attemptNo : ℕ
  statusCode : Option ℕ
  durationMs : ℤ
  responseSnippet : Option String
  error : Option String
  startedAt : String

structure WebhookDeliveryResponseDto where
  id : Uuid
  eventId : Uuid
  subscriptionId : Uuid
  status : WebhookDeliveryStatus
  attemptCount : ℕ
  nextAttemptAt : Option String
  lastStatusCode : Option ℕ
  lastError : Option String
  createdAt : String
  completedAt : Option String
  attempts : List WebhookDeliveryAttemptResponseDto

structure PaginatedWebhookDeliveriesDto where
  data : List WebhookDeliveryResponseDto
  page : ℕ
  limit : ℕ
  total : ℕ

/-! ## The service -/

inductive Call where
  | isActiveBondForMember (bondId userId : Uuid)
  | findById (id : Uuid)
  | findBySubscriptionPaginated (subscriptionId : Uuid) (skip take : ℕ)
  | countBySubscription (subscriptionId : Uuid)
  | findByDeliveryIds (deliveryIds : List Uuid)

@[reducible] def interface : Interface where
  Call := Call
  Answer
    | .isActiveBondForMember _ _ => Bool
    | .findById _ => Option WebhookSubscriptionEntity
    | .findBySubscriptionPaginated _ _ _ => List WebhookDeliveryEntity
    | .countBySubscription _ => ℕ
    | .findByDeliveryIds _ => List InsertDeliveryAttemptInput

abbrev Request := Handler interface Exception

def perform (query : Call) : Request (interface.Answer query) :=
  @Handler.perform interface Exception query

def assertCanRead (bondId : Uuid) (user : AuthUser) : Request Unit := do
  if user.admin then return ()
  else
    let isMember ← perform (.isActiveBondForMember bondId user.id)
    if !isMember then throw (forbiddenException "You are not an active member of this bond")
    else return ()

/-- The subscription, when it is one of the bond. -/
def findInBond (bondId subscriptionId : Uuid) : Request WebhookSubscriptionEntity := do
  match ← perform (.findById subscriptionId) with
  | none => throw (subscriptionNotFound subscriptionId)
  | some subscription =>
    if subscription.bondId ≠ bondId then throw (subscriptionNotFound subscriptionId)
    else return subscription

def findByDeliveryIds (deliveryIds : List Uuid) : Request (List InsertDeliveryAttemptInput) :=
  if deliveryIds = [] then return [] else perform (.findByDeliveryIds deliveryIds)

/-- The lists of attempts, by the delivery they are of. -/
def attemptsByDelivery (attemptRows : List InsertDeliveryAttemptInput) :
    List (Uuid × List InsertDeliveryAttemptInput) :=
  attemptRows.foldl (fun lists attempt => alter attempt.deliveryId [] (· ++ [attempt]) lists) []

def attemptDto (attempt : InsertDeliveryAttemptInput) : WebhookDeliveryAttemptResponseDto where
  attemptNo := attempt.attemptNo
  statusCode := attempt.statusCode
  durationMs := attempt.durationMs
  responseSnippet := attempt.responseSnippet
  error := attempt.error
  startedAt := toISOString attempt.startedAt

def deliveryDto (row : WebhookDeliveryEntity) (attempts : List InsertDeliveryAttemptInput) :
    WebhookDeliveryResponseDto where
  id := row.id
  eventId := row.eventId
  subscriptionId := row.subscriptionId
  status := row.status
  attemptCount := row.attemptCount
  nextAttemptAt := row.nextAttemptAt.map toISOString
  lastStatusCode := row.lastStatusCode
  lastError := row.lastError
  createdAt := toISOString row.createdAt
  completedAt := row.completedAt.map toISOString
  attempts := attempts.map attemptDto

def WebhookDeliveryLogQueryDto.number (query : WebhookDeliveryLogQueryDto) : ℕ := query.page.getD 1

def WebhookDeliveryLogQueryDto.size (query : WebhookDeliveryLogQueryDto) : ℕ :=
  query.limit.getD WEBHOOK_DELIVERY_LOG_DEFAULT_LIMIT

/-- `delivery-log.service.ts::getLog`: a page of the deliveries of a subscription, with their
attempts. -/
def getLog (bondId subscriptionId : Uuid) (query : WebhookDeliveryLogQueryDto) (user : AuthUser) :
    Request PaginatedWebhookDeliveriesDto := do
  assertCanRead bondId user
  let _ ← findInBond bondId subscriptionId
  let page := query.number
  let limit := query.size
  let skip := (page - 1) * limit
  let rows ← perform (.findBySubscriptionPaginated subscriptionId skip limit)
  let total ← perform (.countBySubscription subscriptionId)
  let attemptRows ← findByDeliveryIds (rows.map (·.id))
  let lists := attemptsByDelivery attemptRows
  return {
    data := rows.map fun row => deliveryDto row ((lists.lookup row.id).getD [])
    page := page
    limit := limit
    total := total }

/-! ## The database -/

/-- `ORDER BY created_at DESC` of the deliveries and `ORDER BY attempt_no ASC` of the attempts, as
one request finds them. -/
structure Orders where
  deliveries : Arrangement WebhookDeliveryEntity.createdAt
  attempts : Arrangement fun attempt : InsertDeliveryAttemptInput => OrderDual.toDual attempt.attemptNo

def deliveriesOf (world : World) (subscriptionId : Uuid) : List WebhookDeliveryEntity :=
  world.deliveries.rows.filter (·.subscriptionId = subscriptionId)

def serve (orders : Orders) (query : Call) (world : World) :
    Except Exception (interface.Answer query) × World :=
  match query with
  | .isActiveBondForMember bondId userId =>
      (.ok (world.surroundings.isActiveBondForMember bondId userId), world)
  | .findById id => (.ok (world.subscriptions.get id), world)
  | .findBySubscriptionPaginated subscriptionId skip take =>
      (.ok (((orders.deliveries.arrange (deliveriesOf world subscriptionId)).drop skip).take take), world)
  | .countBySubscription subscriptionId => (.ok (deliveriesOf world subscriptionId).length, world)
  | .findByDeliveryIds deliveryIds =>
      (.ok (orders.attempts.arrange (world.attempts.filter (·.deliveryId ∈ deliveryIds))), world)

/-! ## The whole log -/

/-- The query for a page, numbered from zero. -/
def WebhookDeliveryLogQueryDto.onPage (query : WebhookDeliveryLogQueryDto) (number : ℕ) :
    WebhookDeliveryLogQueryDto :=
  { query with
    page := some (number + 1)
    page_min := fun _ same => Option.some.inj same ▸ Nat.succ_pos number }

/-- `Math.ceil(total / limit)`. -/
def pageCount (total limit : ℕ) : ℕ := (total + limit - 1) / limit

/-- All pages one after the other, each from a request of its own. -/
def readLog (orders : ℕ → Orders) (bondId subscriptionId : Uuid) (query : WebhookDeliveryLogQueryDto)
    (user : AuthUser) (world : World) : Except Exception (List WebhookDeliveryResponseDto) := do
  let count := pageCount (deliveriesOf world subscriptionId).length query.size
  let pages ← (List.range count).mapM fun number =>
    ((getLog bondId subscriptionId (query.onPage number) user).run (serve (orders number)) world).1
  return pages.flatMap (·.data)

/-- A delivery with its own attempts and no others, from the first to the last. -/
def Shows (world : World) (row : WebhookDeliveryEntity) (dto : WebhookDeliveryResponseDto) : Prop :=
  ∃ attempts, Sorts (fun attempt => OrderDual.toDual attempt.attemptNo)
    (world.attempts.filter (·.deliveryId = row.id)) attempts ∧ dto = deliveryDto row attempts

/-- Every delivery of the subscription once, the newest first. -/
def Complete (world : World) (subscriptionId : Uuid) (log : List WebhookDeliveryResponseDto) : Prop :=
  ∃ rows, Sorts WebhookDeliveryEntity.createdAt (deliveriesOf world subscriptionId) rows ∧
    List.Forall₂ (Shows world) rows log

variable {bondId subscriptionId : Uuid} {query : WebhookDeliveryLogQueryDto} {user : AuthUser}
  {world : World} {subscription : WebhookSubscriptionEntity} {log : List WebhookDeliveryResponseDto}

/-! ## One page -/

/-- Each attempt goes to the end of its delivery's list. -/
theorem lookup_lists (attemptRows : List InsertDeliveryAttemptInput) (id : Uuid)
    (lists : List (Uuid × List InsertDeliveryAttemptInput)) :
    ((attemptRows.foldl (fun lists attempt => alter attempt.deliveryId [] (· ++ [attempt]) lists)
      lists).lookup id).getD [] = (lists.lookup id).getD [] ++ attemptRows.filter (·.deliveryId = id) := by
  induction attemptRows generalizing lists with
  | nil => simp
  | cons attempt rest ih =>
    rw [List.foldl_cons, ih, lookup_alter]
    by_cases own : id = attempt.deliveryId
    · subst own
      rw [if_pos rfl, Option.getD_some, List.filter_cons_of_pos (by simp), List.append_assoc]
      rfl
    · rw [if_neg own, List.filter_cons_of_neg (by simpa using Ne.symm own)]

theorem lookup_attemptsByDelivery (attemptRows : List InsertDeliveryAttemptInput) (id : Uuid) :
    ((attemptsByDelivery attemptRows).lookup id).getD [] = attemptRows.filter (·.deliveryId = id) := by
  rw [attemptsByDelivery, lookup_lists]
  rfl

def pageRows (orders : Orders) (world : World) (subscriptionId : Uuid) (limit number : ℕ) :
    List WebhookDeliveryEntity :=
  page limit number (orders.deliveries.arrange (deliveriesOf world subscriptionId))

/-- What a request finds of the attempts of one of its rows. -/
def attemptsOf (orders : Orders) (world : World) (rows : List WebhookDeliveryEntity) (id : Uuid) :
    List InsertDeliveryAttemptInput :=
  (orders.attempts.arrange (world.attempts.filter (·.deliveryId ∈ rows.map (·.id)))).filter
    (·.deliveryId = id)

def pageDto (orders : Orders) (world : World) (subscriptionId : Uuid) (limit number : ℕ) :
    PaginatedWebhookDeliveriesDto :=
  let rows := pageRows orders world subscriptionId limit number
  { data := rows.map fun row => deliveryDto row (attemptsOf orders world rows row.id)
    page := number + 1
    limit := limit
    total := (deliveriesOf world subscriptionId).length }

theorem run_assertCanRead (orders : Orders)
    (reads : user.admin ∨ world.surroundings.isActiveBondForMember bondId user.id) :
    (assertCanRead bondId user).run (serve orders) world = (.ok (), world) := by
  unfold assertCanRead
  by_cases admin : user.admin
  · simp [admin, Handler.run]
  · have member := reads.resolve_left admin
    simp only [admin, Bool.false_eq_true, ↓reduceIte, Handler.bind_eq]
    rw [perform, Handler.run_perform_bind_of_ok rfl, member]
    rfl

theorem run_findInBond (orders : Orders) (found : world.subscriptions.get subscriptionId = some subscription)
    (own : subscription.bondId = bondId) :
    (findInBond bondId subscriptionId).run (serve orders) world = (.ok subscription, world) := by
  unfold findInBond
  rw [perform, Handler.bind_eq, Handler.run_perform_bind_of_ok rfl, found]
  simp [own, Handler.run]

/-- Nothing is asked for on a page without rows. -/
theorem run_findByDeliveryIds (orders : Orders) (rows : List WebhookDeliveryEntity) :
    ∃ attemptRows, (findByDeliveryIds (rows.map (·.id))).run (serve orders) world = (.ok attemptRows, world) ∧
      ∀ row ∈ rows, attemptRows.filter (·.deliveryId = row.id) = attemptsOf orders world rows row.id := by
  unfold findByDeliveryIds
  cases rows with
  | nil => exact ⟨[], rfl, fun _ member => absurd member List.not_mem_nil⟩
  | cons row rest =>
    rw [if_neg (by simp)]
    exact ⟨_, rfl, fun _ _ => rfl⟩

/-- What one request answers with. -/
theorem run_getLog (orders : Orders) (query : WebhookDeliveryLogQueryDto) (number : ℕ)
    (reads : user.admin ∨ world.surroundings.isActiveBondForMember bondId user.id)
    (found : world.subscriptions.get subscriptionId = some subscription)
    (own : subscription.bondId = bondId) :
    (getLog bondId subscriptionId (query.onPage number) user).run (serve orders) world =
      (.ok (pageDto orders world subscriptionId query.size number), world) := by
  obtain ⟨attemptRows, ran, parts⟩ := @run_findByDeliveryIds world orders
    (pageRows orders world subscriptionId query.size number)
  unfold getLog
  simp only [Handler.bind_eq]
  rw [Handler.run_bind_eq (run_assertCanRead orders reads),
    Handler.run_bind_eq (run_findInBond orders found own), perform, Handler.run_perform_bind_of_ok rfl,
    perform, Handler.run_perform_bind_of_ok rfl]
  refine (Handler.run_bind_eq ran).trans ?_
  refine congrArg (fun data => (Except.ok (PaginatedWebhookDeliveriesDto.mk data (number + 1) query.size
    (deliveriesOf world subscriptionId).length), world)) ?_
  refine List.map_congr_left fun row member => ?_
  rw [lookup_attemptsByDelivery, parts row member]

/-! ## All pages -/

/-- The rows of all pages, in their order. -/
def listed (orders : ℕ → Orders) (world : World) (subscriptionId : Uuid) (limit : ℕ) :
    List WebhookDeliveryEntity :=
  pages limit (pageCount (deliveriesOf world subscriptionId).length limit) fun number =>
    (orders number).deliveries.arrange (deliveriesOf world subscriptionId)

theorem attemptsOf_sorts (orders : Orders) {rows : List WebhookDeliveryEntity} {row : WebhookDeliveryEntity}
    (member : row ∈ rows) :
    Sorts (fun attempt => OrderDual.toDual attempt.attemptNo)
      (world.attempts.filter (·.deliveryId = row.id)) (attemptsOf orders world rows row.id) := by
  have sorts := (orders.attempts.sorts (world.attempts.filter (·.deliveryId ∈ rows.map (·.id)))).filter
    (·.deliveryId = row.id)
  have same : (world.attempts.filter (·.deliveryId ∈ rows.map (·.id))).filter (·.deliveryId = row.id) =
      world.attempts.filter (·.deliveryId = row.id) := by
    rw [List.filter_filter]
    refine List.filter_congr fun attempt _ => ?_
    by_cases own : attempt.deliveryId = row.id
    · simp only [own, decide_true, Bool.true_and, decide_eq_true_eq]
      exact List.mem_map_of_mem member
    · simp [own]
  rwa [same] at sorts

/-- Every request succeeds, and the log shows the rows of the pages in their order. -/
theorem readLog_shows (orders : ℕ → Orders)
    (reads : user.admin ∨ world.surroundings.isActiveBondForMember bondId user.id)
    (found : world.subscriptions.get subscriptionId = some subscription)
    (own : subscription.bondId = bondId) :
    ∃ log, readLog orders bondId subscriptionId query user world = .ok log ∧
      List.Forall₂ (Shows world) (listed orders world subscriptionId query.size) log := by
  have answers : (fun number =>
      ((getLog bondId subscriptionId (query.onPage number) user).run (serve (orders number)) world).1) =
      fun number => pure (pageDto (orders number) world subscriptionId query.size number) := by
    funext number
    rw [run_getLog (orders number) query number reads found own]
    rfl
  have gathered (count : ℕ) : (List.range count).mapM (fun number => (pure
      (pageDto (orders number) world subscriptionId query.size number) : Except Exception _)) =
      pure ((List.range count).map fun number => pageDto (orders number) world subscriptionId query.size number) :=
    List.mapM_pure
  refine ⟨_, by unfold readLog; rw [answers]; dsimp only; rw [gathered]; rfl, ?_⟩
  rw [List.flatMap_map]
  refine List.rel_flatMap (List.forall₂_same.mpr fun number _ => @rfl _ number) ?_
  rintro number _ rfl
  exact List.forall₂_map_right_iff.mpr (List.forall₂_same.mpr fun row member =>
    ⟨_, attemptsOf_sorts (orders number) member, rfl⟩)

/-! ## What the log shows -/

theorem ids_of_shows {rows : List WebhookDeliveryEntity} (shows : List.Forall₂ (Shows world) rows log) :
    log.map (·.id) = rows.map (·.id) := by
  induction shows with
  | nil => rfl
  | cons shown _ ih =>
    obtain ⟨attempts, -, rfl⟩ := shown
    rw [List.map_cons, List.map_cons, ih]
    rfl

/-- A complete log shows no delivery twice. -/
theorem Complete.nodup (complete : Complete world subscriptionId log) : (log.map (·.id)).Nodup := by
  obtain ⟨rows, sorts, shows⟩ := complete
  rw [ids_of_shows shows, (sorts.perm.map _).nodup_iff]
  exact (List.filter_sublist.map _).nodup world.deliveries.unique

theorem WebhookDeliveryLogQueryDto.size_pos (query : WebhookDeliveryLogQueryDto) : 0 < query.size := by
  unfold size
  cases asked : query.limit with
  | none => exact Nat.succ_pos _
  | some limit => exact query.limit_min limit asked

theorem le_pageCount_mul (total : ℕ) {limit : ℕ} (positive : 0 < limit) :
    total ≤ pageCount total limit * limit := by
  have parts := Nat.div_add_mod (total + limit - 1) limit
  have less := Nat.mod_lt (total + limit - 1) positive
  rw [pageCount, Nat.mul_comm]
  omega

/-- The pages show every delivery once, whatever the orders of the requests, exactly when no page ends
between two deliveries of one time. -/
theorem readLog_complete_iff (query : WebhookDeliveryLogQueryDto)
    (reads : user.admin ∨ world.surroundings.isActiveBondForMember bondId user.id)
    (found : world.subscriptions.get subscriptionId = some subscription)
    (own : subscription.bondId = bondId) :
    (∀ orders : ℕ → Orders, ∃ log, readLog orders bondId subscriptionId query user world = .ok log ∧
      Complete world subscriptionId log) ↔
      Unsplit WebhookDeliveryEntity.createdAt (deliveriesOf world subscriptionId) query.size := by
  have enough := le_pageCount_mul (deliveriesOf world subscriptionId).length query.size_pos
  constructor
  · intro complete
    by_contra split
    obtain ⟨deliveries, repeated⟩ := exists_repeated enough split
    obtain ⟨log, ran, whole⟩ := complete fun number => ⟨deliveries number, .stable⟩
    obtain ⟨log', ran', shows⟩ :=
      @readLog_shows bondId subscriptionId query user world subscription _ reads found own
    rw [ran] at ran'
    cases ran'
    have once := whole.nodup
    rw [ids_of_shows shows] at once
    exact repeated (List.Nodup.of_map _ once)
  · intro unsplit orders
    obtain ⟨log, ran, shows⟩ := @readLog_shows bondId subscriptionId query user world subscription orders
      reads found own
    exact ⟨log, ran, _, pages_sorts (fun number => (orders number).deliveries.sorts _) unsplit enough, shows⟩

def delivery (id eventId : Uuid) (createdAt : Instant) : WebhookDeliveryEntity where
  id := id
  eventId := eventId
  subscriptionId := "s"
  createdAt := createdAt

/-- Three deliveries of a subscription, the first two of them made at one time. -/
def twins : World :=
  { start with
    deliveries := ⟨[delivery "d1" "e1" 7, delivery "d2" "e2" 7, delivery "d3" "e3" 3], by decide⟩
    subscriptions := ⟨[{
      id := "s"
      bondId := "b"
      createdBy := "u"
      url := "https://h"
      eventTypes := []
      secretEncrypted := "" }], by decide⟩ }

def ofSize (limit : ℕ) (least : 1 ≤ limit) (most : limit ≤ WEBHOOK_DELIVERY_LOG_MAX_LIMIT) :
    WebhookDeliveryLogQueryDto where
  limit := some limit
  page_min _ same := absurd same (Option.not_mem_none _)
  limit_min _ same := Option.some.inj same ▸ least
  limit_max _ same := Option.some.inj same ▸ most

/-- The first request finds them as they are stored, and the others the other way around. -/
def turning : ℕ → Orders := fun number => ⟨if number = 0 then .stable else .reversed, .stable⟩

/-- Pages of two keep the deliveries of one time together. -/
theorem readLog_complete_twins :
    ∃ log, readLog turning "b" "s" (ofSize 2 (by decide) (by decide)) ⟨"u", true⟩ twins = .ok log ∧
      Complete twins "s" log := by
  refine (@readLog_complete_iff "b" "s" ⟨"u", true⟩ twins _ (ofSize 2 (by decide) (by decide)) (.inl rfl) rfl
    rfl).mpr ?_ turning
  intro number (value : ℤ)
  change ¬([delivery "d1" "e1" 7, delivery "d2" "e2" 7, delivery "d3" "e3" 3].countP _ < number * 2 ∧
    number * 2 < [delivery "d1" "e1" 7, delivery "d2" "e2" 7, delivery "d3" "e3" 3].countP _)
  simp only [List.countP_cons, List.countP_nil, delivery, decide_eq_true_eq]
  rcases le_or_gt value 3 with late | early
  · have twice : value < 7 := by omega
    rw [if_pos twice, if_pos late, if_pos twice.le]
    split <;> omega
  · rw [if_neg early.not_gt, if_neg early.not_ge]
    split <;> split <;> omega

/-- Pages of one may show a delivery twice, and the other of its time not at all. -/
theorem readLog_repeats :
    ¬∀ orders : ℕ → Orders, ∃ log,
      readLog orders "b" "s" (ofSize 1 (by decide) (by decide)) ⟨"u", true⟩ twins = .ok log ∧
        Complete twins "s" log := by
  intro complete
  obtain ⟨log, ran, whole⟩ := complete turning
  have listed : (readLog turning "b" "s" (ofSize 1 (by decide) (by decide)) ⟨"u", true⟩ twins).map
      (·.map (·.id)) = .ok ["d1", "d1", "d3"] := rfl
  rw [ran] at listed
  have once := whole.nodup
  rw [show log.map (·.id) = ["d1", "d1", "d3"] from Except.ok.inj listed] at once
  exact absurd once (by decide)

end DeliveryLog

end ParentalCoord.Webhooks

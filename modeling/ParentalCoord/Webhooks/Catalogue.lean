import ParentalCoord.Distinct
import ParentalCoord.Webhooks.Relaying

/-!
The types that a subscription can ask for, and what it is matched by.

The catalogue lists the types that are produced, the virtual one, and one that is no longer
produced and that a subscriber may still filter by.  Those that a subscription may have are
listed anew, and the last one is not among them.  Two matchers read the types of a
subscription, one here and one in the database, and they agree.
-/

namespace ParentalCoord.Webhooks

open Store Activities

/-! ## The catalogue -/

def WEBHOOK_VIRTUAL_EVENT_TYPE := "activity.state_changed"

def WEBHOOK_CATALOGUED_NOT_EMITTED_EVENT_TYPES : List String := [ACTIVITY_EVENT.UNASSIGNED]

structure EventCatalogEntry where
  type : String
  /-- The outbox produces it. -/
  emitted : Bool
  virtual : Bool

def listEventCatalog : List EventCatalogEntry :=
  (PRODUCED_ACTIVITY_EVENT_TYPES.map fun type => ⟨type, true, false⟩) ++
    [⟨WEBHOOK_VIRTUAL_EVENT_TYPE, false, true⟩] ++
    WEBHOOK_CATALOGUED_NOT_EMITTED_EVENT_TYPES.map fun type => ⟨type, false, false⟩

/-- The catalogue has the type, or it is the wildcard. -/
def Offered (type : String) : Prop := type ∈ listEventCatalog.map (·.type) ∨ type = WEBHOOK_WILDCARD

/-- The types are accepted, each of them once; where there is none, the wildcard is meant. -/
def Accepted (types : List String) : Prop :=
  ∃ distinct, normalizeEventTypes (some types) = .ok distinct ∧
    if types = [] then distinct = [WEBHOOK_WILDCARD] else FirstOccurrences types distinct

variable {type eventType : String} {types : List String} {bondId id : Uuid}
  {subscription : WebhookSubscriptionEntity} {subscriptions : List WebhookSubscriptionEntity}
  {table : Table WebhookSubscriptionEntity.id}

/-- Of what is offered, all but one is allowed. -/
theorem allowed_of_offered (offered : Offered type) (known : type ≠ ACTIVITY_EVENT.UNASSIGNED) :
    type ∈ PRODUCED_ACTIVITY_EVENT_TYPES ++ [WEBHOOK_STATE_CHANGED_EVENT, WEBHOOK_WILDCARD] := by
  rcases offered with catalogued | rfl
  · obtain ⟨entry, member, rfl⟩ := List.mem_map.mp catalogued
    simp only [listEventCatalog, WEBHOOK_CATALOGUED_NOT_EMITTED_EVENT_TYPES, List.mem_append,
      List.mem_map, List.mem_singleton] at member
    rcases member with (⟨produced, there, rfl⟩ | rfl) | ⟨unassigned, rfl, rfl⟩
    · exact List.mem_append_left _ there
    · exact List.mem_append_right _ List.mem_cons_self
    · exact absurd rfl known
  · exact List.mem_append_right _ (List.mem_cons_of_mem _ List.mem_cons_self)

theorem unassigned_not_allowed : ACTIVITY_EVENT.UNASSIGNED ∉
    PRODUCED_ACTIVITY_EVENT_TYPES ++ [WEBHOOK_STATE_CHANGED_EVENT, WEBHOOK_WILDCARD] := by
  decide

theorem accepted_of_known (offered : ∀ type ∈ types, Offered type)
    (known : ACTIVITY_EVENT.UNASSIGNED ∉ types) : Accepted types := by
  cases types with
  | nil => exact ⟨_, rfl, rfl⟩
  | cons first rest =>
    have unknown : (first :: rest).find? (fun type => type ∉ PRODUCED_ACTIVITY_EVENT_TYPES ++
        [WEBHOOK_STATE_CHANGED_EVENT, WEBHOOK_WILDCARD]) = none := by
      refine List.find?_eq_none.mpr fun type member => ?_
      have allowed := allowed_of_offered (offered type member) fun same => known (same ▸ member)
      simp only [decide_eq_true_eq, not_not]
      exact allowed
    refine ⟨(first :: rest).eraseDups, ?_, ?_⟩
    · simp only [normalizeEventTypes, Option.getD_some, unknown]
    · rw [if_neg (List.cons_ne_nil _ _)]
      exact firstOccurrences_eraseDups _

theorem known_of_accepted (accepted : Accepted types) : ACTIVITY_EVENT.UNASSIGNED ∉ types := by
  intro member
  obtain ⟨distinct, normalized, -⟩ := accepted
  cases types with
  | nil => cases member
  | cons first rest =>
    obtain ⟨type, found⟩ : ∃ type, (first :: rest).find? (fun type => type ∉
        PRODUCED_ACTIVITY_EVENT_TYPES ++ [WEBHOOK_STATE_CHANGED_EVENT, WEBHOOK_WILDCARD]) = some type :=
      Option.isSome_iff_exists.mp (List.find?_isSome.mpr ⟨_, member, decide_eq_true unassigned_not_allowed⟩)
    simp only [normalizeEventTypes, Option.getD_some, found] at normalized
    cases normalized

/-! ## Matching -/

/-- `value = ANY(values)`. -/
def equalsAny (value : String) (values : List String) : Bool := values.any (value = ·)

def findActiveMatchingByBond (table : Table WebhookSubscriptionEntity.id)
    (bondId : Uuid) (eventType : String) : List WebhookSubscriptionEntity :=
  table.rows.filter fun subscription =>
    subscription.bondId = bondId ∧ subscription.status = .ACTIVE ∧
      (equalsAny eventType subscription.eventTypes ||
        equalsAny WEBHOOK_STATE_CHANGED_EVENT subscription.eventTypes ||
          equalsAny WEBHOOK_WILDCARD subscription.eventTypes)

/-- Active subscriptions of the bond, in any order and as often as one likes. -/
def ActiveOf (table : Table WebhookSubscriptionEntity.id)
    (bondId : Uuid) (subscriptions : List WebhookSubscriptionEntity) : Prop :=
  ∀ subscription ∈ subscriptions,
    subscription ∈ table.rows ∧ subscription.bondId = bondId ∧ subscription.status = .ACTIVE

/-- The ids of the rows that are taken are those that were taken before and those of the
subscriptions that match, each of them once. -/
theorem ids_of_picked (subscriptions : List WebhookSubscriptionEntity) (eventType : String)
    (matched : List WebhookSubscriptionEntity) (unique : (matched.map (·.id)).Nodup) :
    ((subscriptions.foldl (pick eventType) (matched.map (·.id), matched)).2.map (·.id)).Nodup ∧
      ∀ id, id ∈ (subscriptions.foldl (pick eventType) (matched.map (·.id), matched)).2.map (·.id) ↔
        id ∈ matched.map (·.id) ∨ ∃ subscription ∈ subscriptions, subscription.id = id ∧
          subscriptionMatchesEventType subscription.eventTypes eventType := by
  induction subscriptions generalizing matched with
  | nil => exact ⟨unique, fun id => by simp⟩
  | cons first rest ih =>
    rw [List.foldl_cons, pick]
    simp only [List.mem_cons, exists_eq_or_imp]
    split
    · rename_i seen
      obtain ⟨unique, members⟩ := ih matched unique
      refine ⟨unique, fun id => (members id).trans ⟨Or.imp_right .inr, ?_⟩⟩
      rintro (old | ⟨rfl, -⟩ | later)
      · exact .inl old
      · exact .inl seen
      · exact .inr later
    · rename_i new
      split
      · rename_i unmatched
        obtain ⟨unique, members⟩ := ih matched unique
        refine ⟨unique, fun id => (members id).trans ⟨Or.imp_right .inr, ?_⟩⟩
        rintro (old | ⟨rfl, matches_⟩ | later)
        · exact .inl old
        · rw [matches_] at unmatched
          cases unmatched
        · exact .inr later
      · rename_i matches_
        have more : ((matched ++ [first]).map (·.id)).Nodup := by
          rw [List.map_append, List.map_singleton]
          exact unique.append (List.nodup_singleton _) (by simpa using new)
        obtain ⟨unique, members⟩ := ih (matched ++ [first]) more
        rw [List.map_append, List.map_singleton] at unique members
        refine ⟨unique, fun id => (members id).trans ?_⟩
        have matched_first : subscriptionMatchesEventType first.eventTypes eventType := by
          simpa using matches_
        simp only [List.mem_append, List.mem_singleton, or_assoc, matched_first, and_true, @eq_comm _ id]

theorem mem_selected_iff (active : ActiveOf table bondId subscriptions) (member : subscription ∈ subscriptions) :
    subscription.id ∈ (selectMatchedSubscriptions subscriptions eventType).map (·.id) ↔
      subscriptionMatchesEventType subscription.eventTypes eventType := by
  rw [selectMatchedSubscriptions_eq]
  refine ((ids_of_picked subscriptions eventType [] List.nodup_nil).2 subscription.id).trans ?_
  simp only [List.map_nil, List.not_mem_nil, false_or]
  constructor
  · rintro ⟨other, there, same, matches_⟩
    have rows := Table.get_of_mem (active other there).1
    rw [same, Table.get_of_mem (active subscription member).1, Option.some.injEq] at rows
    exact rows ▸ matches_
  · exact fun matches_ => ⟨subscription, member, rfl, matches_⟩

theorem equalsAny_iff {value : String} {values : List String} : equalsAny value values ↔ value ∈ values := by
  simp [equalsAny]

/-- The two matchers agree. -/
theorem mem_findActiveMatchingByBond (active : ActiveOf table bondId subscriptions)
    (member : subscription ∈ subscriptions) : subscription ∈ findActiveMatchingByBond table bondId eventType ↔
      subscriptionMatchesEventType subscription.eventTypes eventType := by
  obtain ⟨there, own, status⟩ := active subscription member
  unfold findActiveMatchingByBond subscriptionMatchesEventType
  rw [List.mem_filter]
  simp only [there, own, status, true_and, decide_eq_true_eq, Bool.or_eq_true, equalsAny_iff, or_assoc]

/-- A row stands for its id. -/
theorem mem_selected_of_id (active : ActiveOf table bondId subscriptions) (member : subscription ∈ subscriptions)
    (selected : subscription.id ∈ (selectMatchedSubscriptions subscriptions eventType).map (·.id)) :
    subscription ∈ selectMatchedSubscriptions subscriptions eventType := by
  obtain ⟨other, there, same⟩ := List.mem_map.mp selected
  have rows := Table.get_of_mem (active other (mem_selectMatchedSubscriptions there)).1
  rw [same, Table.get_of_mem (active subscription member).1, Option.some.injEq] at rows
  exact rows ▸ there

theorem count_selected (active : ActiveOf table bondId subscriptions) (member : subscription ∈ subscriptions) :
    ((selectMatchedSubscriptions subscriptions eventType).map (·.id)).count subscription.id =
      if subscriptionMatchesEventType subscription.eventTypes eventType then 1 else 0 := by
  have selected := @mem_selected_iff eventType bondId subscription subscriptions table active member
  split
  · rename_i matches_
    have unique := (ids_of_picked subscriptions eventType [] List.nodup_nil).1
    exact List.count_eq_one_of_mem unique (selected.mpr matches_)
  · rename_i unmatched
    exact List.count_eq_zero.mpr (mt selected.mp unmatched)

/-! ## What is offered -/

/-- A selection of subscriptions of the bond has those that match, once each, and the database
would select the same. -/
structure Selects (table : Table WebhookSubscriptionEntity.id) (bondId : Uuid)
    (subscriptions : List WebhookSubscriptionEntity) (eventType : String) : Prop where
  once : ∀ subscription ∈ subscriptions,
    ((selectMatchedSubscriptions subscriptions eventType).map (·.id)).count subscription.id =
      if eventType ∈ subscription.eventTypes ∨ WEBHOOK_VIRTUAL_EVENT_TYPE ∈ subscription.eventTypes ∨
        WEBHOOK_WILDCARD ∈ subscription.eventTypes then 1 else 0
  subset : ∀ subscription ∈ selectMatchedSubscriptions subscriptions eventType, subscription ∈ subscriptions
  same : ∀ subscription ∈ subscriptions, subscription ∈ selectMatchedSubscriptions subscriptions eventType ↔
    subscription ∈ findActiveMatchingByBond table bondId eventType

theorem selects (active : ActiveOf table bondId subscriptions) (eventType : String) :
    Selects table bondId subscriptions eventType where
  once subscription member := by
    rw [count_selected active member]
    simp only [subscriptionMatchesEventType, decide_eq_true_eq]
    rfl
  subset subscription selected := mem_selectMatchedSubscriptions selected
  same subscription member := by
    rw [mem_findActiveMatchingByBond active member, ← mem_selected_iff active member]
    exact ⟨fun selected => List.mem_map_of_mem selected, mem_selected_of_id active member⟩

/-- **What is offered can be subscribed to, and is matched.** All but the one type that is listed
and no longer produced; and whatever types the subscriptions of a bond have, both matchers
select the same of them. -/
theorem offered_subscribable (types : List String) (offered : ∀ type ∈ types, Offered type) :
    (Accepted types ↔ ACTIVITY_EVENT.UNASSIGNED ∉ types) ∧
    ∀ (table : Table WebhookSubscriptionEntity.id) (bondId : Uuid)
      (subscriptions : List WebhookSubscriptionEntity) (eventType : String),
      ActiveOf table bondId subscriptions → Selects table bondId subscriptions eventType :=
  ⟨⟨known_of_accepted, accepted_of_known offered⟩, fun _ _ _ eventType active => selects active eventType⟩

/-- A subscription to what is done, for one. -/
def watcher : WebhookSubscriptionEntity where
  id := "s1"
  bondId := "b1"
  createdBy := "u1"
  url := "https://example.org"
  eventTypes := ["activity.done", "*"]
  secretEncrypted := "v1:iv:tag:ct"

def watchers : Table WebhookSubscriptionEntity.id := ⟨[watcher], by decide⟩

/-- It is found twice and selected once. -/
theorem offered_subscribable_done : Accepted ["activity.done", "*", "activity.done"] ∧
    ((selectMatchedSubscriptions [watcher, watcher] "activity.verify").map (·.id)).count "s1" = 1 := by
  have offered : ∀ type ∈ ["activity.done", "*", "activity.done"], Offered type := by
    intro type member
    simp only [List.mem_cons, List.not_mem_nil, or_false] at member
    rcases member with rfl | rfl | rfl
    · exact .inl (by decide)
    · exact .inr rfl
    · exact .inl (by decide)
  have active : ActiveOf watchers "b1" [watcher, watcher] := by
    intro subscription member
    obtain rfl : subscription = watcher := by simpa using member
    exact ⟨List.mem_singleton_self _, rfl, rfl⟩
  have both := offered_subscribable _ offered
  exact ⟨both.1.mpr (by decide),
    (both.2 watchers "b1" _ "activity.verify" active).once watcher List.mem_cons_self⟩

/-- The catalogue offers a type that is refused. -/
theorem unassigned_refused : ¬∀ types : List String, (∀ type ∈ types, Offered type) → Accepted types := by
  intro always
  have offered : Offered ACTIVITY_EVENT.UNASSIGNED := .inl (by decide)
  exact known_of_accepted (always [ACTIVITY_EVENT.UNASSIGNED] (by simpa using offered)) List.mem_cons_self

end ParentalCoord.Webhooks

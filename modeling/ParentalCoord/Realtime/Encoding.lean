import ParentalCoord.Activities.Guarantees
import ParentalCoord.Realtime.Frames
import ParentalCoord.Store.Grouping

/-!
Frames from an event to the other end of the channel.

A frame is taken off the channel as it was built, and no key of a payload gets in the place
of one that the frame has of its own.
-/

namespace ParentalCoord.Realtime

open Activities Interleaving Notifications Numbers Store

variable {message : Draft} {extras payload : Record} {key other : String} {value : Json}
  {e : OutboxEventEntity}

/-! ## Drafts -/

theorem assign_eq (message : Draft) (key : String) (new : Option Json) :
    message.assign key new = alter key none (fun _ => new) message := by
  induction message with
  | nil => rfl
  | cons member rest ih =>
    by_cases same : member.1 = key
    · simp [Draft.assign, alter, same]
    · simp [Draft.assign, alter, same, ih]

theorem nodup_assign (distinct : (message.map Prod.fst).Nodup) (new : Option Json) :
    ((message.assign key new).map Prod.fst).Nodup := by
  rw [assign_eq]
  exact nodup_alter _ _ _ distinct

theorem lookup_assign (new : Option Json) : (message.assign key new).lookup other =
    if other = key then some new else message.lookup other := by
  rw [assign_eq, lookup_alter]

theorem nodup_spread (distinct : (message.map Prod.fst).Nodup) :
    ((message.spread extras).map Prod.fst).Nodup := by
  induction extras generalizing message with
  | nil => exact distinct
  | cons member rest ih => exact ih (nodup_assign distinct _)

theorem lookup_spread (distinct : (extras.map Prod.fst).Nodup) : (message.spread extras).lookup key =
    match extras.lookup key with
    | some value => some (some value)
    | none => message.lookup key := by
  unfold Draft.spread
  simp only [assign_eq]
  refine (lookup_foldl_alter none (fun value _ => some value) key extras distinct message).trans ?_
  cases extras.lookup key <;> rfl

theorem nodup_defined (distinct : (message.map Prod.fst).Nodup) : (message.defined.map Prod.fst).Nodup := by
  refine distinct.sublist ?_
  induction message with
  | nil => exact List.Sublist.slnil
  | cons member rest ih =>
    obtain ⟨name, _ | value⟩ := member
    · exact (ih (List.nodup_cons.mp distinct).2).cons name
    · exact (ih (List.nodup_cons.mp distinct).2).cons_cons name

/-- A text shows what has a value. -/
theorem lookup_defined (distinct : (message.map Prod.fst).Nodup) :
    message.defined.lookup key = (message.lookup key).join := by
  refine Option.ext fun value => ?_
  rw [← mem_iff_lookup (nodup_defined distinct), Option.join_eq_some_iff, ← mem_iff_lookup distinct]
  simp [Draft.defined]

/-! ## What goes along -/

variable {reserved : List String}

theorem nodup_extrasOf (distinct : (payload.map Prod.fst).Nodup) :
    ((extrasOf reserved payload).map Prod.fst).Nodup :=
  distinct.sublist (List.filter_sublist.map Prod.fst)

/-- A key that the frame has of its own does not go along, and what is `null` does not. -/
theorem lookup_extrasOf (distinct : (payload.map Prod.fst).Nodup) (plain : "__proto__" ∉ payload.map Prod.fst) :
    (extrasOf reserved payload).lookup key =
      if key ∈ reserved then none else present (payload.lookup key) := by
  refine Option.ext fun value => ?_
  rw [← mem_iff_lookup (nodup_extrasOf distinct), extrasOf, List.mem_filter]
  by_cases own : key ∈ reserved
  · simp [own]
  · rw [if_neg own]
    constructor
    · rintro ⟨member, kept⟩
      rw [(mem_iff_lookup distinct).mp member]
      have shown := (of_decide_eq_true kept).2.1
      cases value with
      | null => cases shown
      | _ => rfl
    · intro shown
      have found : payload.lookup key = some value := by
        cases held : payload.lookup key with
        | none =>
          rw [held] at shown
          cases shown
        | some other =>
          rw [held] at shown
          cases other with
          | null => cases shown
          | _ => exact shown
      have member := (mem_iff_lookup distinct).mpr found
      rw [found] at shown
      refine ⟨member, decide_eq_true ⟨own, ?_, fun same => ?_⟩⟩
      · exact Option.isSome_of_eq_some shown
      · exact plain (same ▸ List.mem_map.mpr ⟨(key, value), member, rfl⟩)

/-! ## Values of a frame -/

/-- No object in a value of the draft has a key twice. -/
def Draft.Once (message : Draft) : Prop :=
  ∀ name value, (name, some value) ∈ message → value.keysOnce = true

theorem membersOnce_iff {record : Record} :
    membersOnce record = true ↔ ∀ member ∈ record, member.2.keysOnce = true := by
  induction record with
  | nil => simp [membersOnce]
  | cons member rest ih => simp [membersOnce, ih]

theorem Draft.Once.assign (once : message.Once) (own : value.keysOnce = true) :
    (message.assign key (some value)).Once := by
  induction message with
  | nil =>
    intro name value' there
    cases List.mem_singleton.mp there
    exact own
  | cons member rest ih =>
    have later : Draft.Once rest := fun name value' there => once name value' (List.mem_cons_of_mem member there)
    intro name value' there
    unfold Draft.assign at there
    split at there
    · rcases List.mem_cons.mp there with same | there
      · cases same
        exact own
      · exact later name value' there
    · rcases List.mem_cons.mp there with same | there
      · exact once name value' (same ▸ List.mem_cons_self)
      · exact ih later name value' there

theorem Draft.Once.spread (once : message.Once) (all : ∀ member ∈ extras, member.2.keysOnce = true) :
    (message.spread extras).Once := by
  induction extras generalizing message with
  | nil => exact once
  | cons member rest ih =>
    apply ih (once.assign (all member List.mem_cons_self))
    exact fun other there => all other (List.mem_cons_of_mem member there)

/-- The text of a draft parses to what it shows. -/
theorem parse_draft (once : message.Once) (distinct : (message.map Prod.fst).Nodup) :
    parseRealtimeFrame (jsonStringify (.obj message.defined)) = .ok (realtimeFrame (.obj message.defined)) := by
  have all : (Json.obj message.defined).keysOnce = true := by
    rw [Json.keysOnce, Bool.and_eq_true, decide_eq_true_eq]
    refine ⟨nodup_defined distinct, membersOnce_iff.mpr fun member there => ?_⟩
    obtain ⟨⟨name, held⟩, listed, same⟩ := List.mem_filterMap.mp there
    obtain ⟨value, rfl, rfl⟩ := Option.map_eq_some_iff.mp same
    exact once name value listed
  exact parseRealtimeFrame_stringify all

/-! ## What a frame shows -/

/-- The frame of an activity event: what it has of its own, what it takes from the payload
under the same name, and what goes along. -/
structure ActivityShown (e : OutboxEventEntity) (frame : Record) : Prop where
  v : frame.lookup "v" = some (.num (.ofInt 1))
  type : frame.lookup "type" = some (.str "activity.changed")
  eventId : frame.lookup "eventId" = some (.str e.id)
  bondId : frame.lookup "bondId" = some (.str e.bondId)
  activityId : frame.lookup "activityId" =
    some ((present (e.payload.lookup "activityId")).getD (.str e.aggregateId))
  mapped : ∀ key ∈ ["from", "to", "actor", "occurredAt"], frame.lookup key = e.payload.lookup key
  reason : frame.lookup "reason" = present (e.payload.lookup "reason")
  carried : ∀ key ∉ ActivityChanged.RESERVED_MESSAGE_KEYS,
    frame.lookup key = present (e.payload.lookup key)

structure ExpenseShown (e : OutboxEventEntity) (frame : Record) : Prop where
  v : frame.lookup "v" = some (.num (.ofInt 1))
  type : frame.lookup "type" = some (.str "expense.changed")
  eventId : frame.lookup "eventId" = some (.str e.id)
  bondId : frame.lookup "bondId" = some (.str e.bondId)
  expenseId : frame.lookup "expenseId" = some (.str e.aggregateId)
  occurredAt : frame.lookup "occurredAt" = some (.str (toISOString e.createdAt))
  mapped : ∀ key ∈ ["status", "actor"], frame.lookup key = e.payload.lookup key
  carried : ∀ key ∉ ExpenseChanged.RESERVED_MESSAGE_KEYS,
    frame.lookup key = present (e.payload.lookup key)

/-- The payload of a row: an object, without the key that cannot be assigned. -/
structure Storable (payload : Record) : Prop where
  once : (Json.obj payload).keysOnce = true
  plain : "__proto__" ∉ payload.map Prod.fst

theorem Storable.distinct (storable : Storable payload) : (payload.map Prod.fst).Nodup := by
  have once := storable.once
  rw [Json.keysOnce, Bool.and_eq_true, decide_eq_true_eq] at once
  exact once.1

theorem Storable.values (storable : Storable payload) (found : payload.lookup key = some value) :
    value.keysOnce = true := by
  have once := storable.once
  rw [Json.keysOnce, Bool.and_eq_true] at once
  exact membersOnce_iff.mp once.2 (key, value) ((mem_iff_lookup storable.distinct).mpr found)

/-- What is built of keys of its own and of the members that go along. -/
theorem lookup_built (storable : Storable payload) (own : ∀ key ∈ message.map Prod.fst, key ∈ reserved) :
    (message.spread (extrasOf reserved payload)).lookup key =
      if key ∈ reserved then message.lookup key else (present (payload.lookup key)).map some := by
  rw [lookup_spread (nodup_extrasOf storable.distinct), lookup_extrasOf storable.distinct storable.plain]
  by_cases kept : key ∈ reserved
  · simp only [if_pos kept]
  · have absent : message.lookup key = none := by
      rw [List.lookup_eq_none_iff]
      intro member there
      refine bne_iff_ne.mpr fun same => kept ?_
      exact same ▸ own member.1 (List.mem_map.mpr ⟨member, there, rfl⟩)
    simp only [if_neg kept, absent]
    cases present (payload.lookup key) <;> rfl

theorem once_built (storable : Storable payload) (once : message.Once) :
    (message.spread (extrasOf reserved payload)).Once := by
  refine once.spread fun member there => ?_
  have listed := (List.mem_filter.mp there).1
  exact storable.values ((mem_iff_lookup storable.distinct).mp listed)

theorem found_of_present {held : Option Json} (shown : present held = some value) : held = some value := by
  unfold present at shown
  split at shown
  · cases shown
  · exact shown

theorem jsLength_pos {text : String} (some_ : text ≠ "") : 0 < jsLength text := by
  unfold jsLength
  cases chars : text.toList with
  | nil => exact absurd (String.toList_inj.mp chars) some_
  | cons c rest =>
    rw [List.map_cons, List.sum_cons]
    split <;> omega

theorem isString_str {text : String} (some_ : text ≠ "") : isString (some (.str text)) = true :=
  decide_eq_true (jsLength_pos some_)

theorem Draft.Once.cons {held : Option Json} (own : ∀ value, held = some value → value.keysOnce = true)
    (rest : message.Once) : Draft.Once ((key, held) :: message) := by
  intro name value there
  rcases List.mem_cons.mp there with same | there
  · cases same
    exact own value rfl
  · exact rest name value there

theorem once_str (text : String) : ∀ value, some (Json.str text) = some value → value.keysOnce = true := by
  intro value same
  cases same
  rfl

theorem once_found (storable : Storable payload) (key : String) :
    ∀ value, payload.lookup key = some value → value.keysOnce = true :=
  fun _ found => storable.values found

/-- What the frame of an activity event has of its own. -/
def activityBase (e : OutboxEventEntity) : Draft :=
  [("v", some (.num (.ofInt 1))),
   ("type", some (.str "activity.changed")),
   ("eventId", some (.str e.id)),
   ("activityId", some ((present (e.payload.lookup "activityId")).getD (.str e.aggregateId))),
   ("bondId", some (.str e.bondId)),
   ("from", e.payload.lookup "from"),
   ("to", e.payload.lookup "to"),
   ("actor", e.payload.lookup "actor"),
   ("occurredAt", e.payload.lookup "occurredAt")]

theorem activityBase_once (storable : Storable e.payload) : (activityBase e).Once := by
  have named : ∀ value, some ((present (e.payload.lookup "activityId")).getD (.str e.aggregateId)) =
      some value → value.keysOnce = true := by
    intro value same
    rw [← Option.some.inj same]
    cases shown : present (e.payload.lookup "activityId") with
    | none => rfl
    | some value => exact storable.values (found_of_present shown)
  have found := @once_found e.payload storable
  exact .cons (fun _ same => by cases same; rfl) (.cons (once_str _) (.cons (once_str _) (.cons named
    (.cons (once_str _) (.cons (found "from") (.cons (found "to") (.cons (found "actor")
      (.cons (found "occurredAt") nofun))))))))

/-- What the frame of an expense event has of its own. -/
def expenseBase (e : OutboxEventEntity) : Draft :=
  [("v", some (.num (.ofInt 1))),
   ("type", some (.str "expense.changed")),
   ("eventId", some (.str e.id)),
   ("expenseId", some (.str e.aggregateId)),
   ("bondId", some (.str e.bondId)),
   ("status", e.payload.lookup "status"),
   ("actor", e.payload.lookup "actor"),
   ("occurredAt", some (.str (toISOString e.createdAt)))]

theorem expenseBase_once (storable : Storable e.payload) : (expenseBase e).Once := by
  have found := @once_found e.payload storable
  exact .cons (fun _ same => by cases same; rfl) (.cons (once_str _) (.cons (once_str _)
    (.cons (once_str _) (.cons (once_str _) (.cons (found "status") (.cons (found "actor")
      (.cons (once_str _) nofun)))))))

/-- Assigning a reason, where there is one. -/
theorem build_activity (e : OutboxEventEntity) : buildActivityChangedMessage e =
    match present (e.payload.lookup "reason") with
    | some reason => ((activityBase e).spread
        (extrasOf ActivityChanged.RESERVED_MESSAGE_KEYS e.payload)).assign "reason" (some reason)
    | none => (activityBase e).spread (extrasOf ActivityChanged.RESERVED_MESSAGE_KEYS e.payload) := rfl

theorem nodup_activity (e : OutboxEventEntity) :
    ((buildActivityChangedMessage e).map Prod.fst).Nodup := by
  have base : ((activityBase e).map Prod.fst).Nodup := by
    change ["v", "type", "eventId", "activityId", "bondId", "from", "to", "actor", "occurredAt"].Nodup
    decide
  rw [build_activity]
  split
  · exact nodup_assign (nodup_spread base) _
  · exact nodup_spread base

theorem once_activity (storable : Storable e.payload) : (buildActivityChangedMessage e).Once := by
  have built := @once_built (activityBase e) e.payload ActivityChanged.RESERVED_MESSAGE_KEYS storable
    (activityBase_once storable)
  rw [build_activity]
  split
  · rename_i reason shown
    exact built.assign (storable.values (found_of_present shown))
  · exact built

/-- The frame of an activity event, key by key. -/
theorem lookup_activity (storable : Storable e.payload) (key : String) :
    (buildActivityChangedMessage e).defined.lookup key =
      if key = "reason" then present (e.payload.lookup "reason")
      else if key ∈ ActivityChanged.RESERVED_MESSAGE_KEYS then ((activityBase e).lookup key).join
      else present (e.payload.lookup key) := by
  have own : ∀ key ∈ (activityBase e).map Prod.fst, key ∈ ActivityChanged.RESERVED_MESSAGE_KEYS := by
    change ∀ key ∈ ["v", "type", "eventId", "activityId", "bondId", "from", "to", "actor", "occurredAt"], _
    decide
  have built := @lookup_built (activityBase e) e.payload key ActivityChanged.RESERVED_MESSAGE_KEYS storable own
  rw [lookup_defined (nodup_activity e), build_activity]
  by_cases reason : key = "reason"
  · subst reason
    rw [if_pos rfl]
    split
    · rename_i given shown
      rw [lookup_assign, if_pos rfl, shown]
      rfl
    · rename_i shown
      rw [built, if_pos (by decide), shown]
      rfl
  · rw [if_neg reason]
    have joined : (if key ∈ ActivityChanged.RESERVED_MESSAGE_KEYS then (activityBase e).lookup key
        else (present (e.payload.lookup key)).map some).join =
        if key ∈ ActivityChanged.RESERVED_MESSAGE_KEYS then ((activityBase e).lookup key).join
        else present (e.payload.lookup key) := by
      split
      · rfl
      · cases present (e.payload.lookup key) <;> rfl
    split
    · rw [lookup_assign, if_neg reason, built, joined]
    · rw [built, joined]

theorem activity_shown (storable : Storable e.payload) :
    ActivityShown e (buildActivityChangedMessage e).defined where
  v := lookup_activity storable "v"
  type := lookup_activity storable "type"
  eventId := lookup_activity storable "eventId"
  bondId := lookup_activity storable "bondId"
  activityId := lookup_activity storable "activityId"
  mapped := by
    intro key there
    have own : key ≠ "reason" ∧ key ∈ ActivityChanged.RESERVED_MESSAGE_KEYS ∧
        ((activityBase e).lookup key).join = e.payload.lookup key := by
      simp only [List.mem_cons, List.not_mem_nil, or_false] at there
      rcases there with rfl | rfl | rfl | rfl
      all_goals exact ⟨by decide, by decide, rfl⟩
    rw [lookup_activity storable, if_neg own.1, if_pos own.2.1, own.2.2]
  reason := lookup_activity storable "reason"
  carried := by
    intro key free
    have other : key ≠ "reason" := fun same => free (same ▸ by decide)
    rw [lookup_activity storable, if_neg other, if_neg free]

theorem nodup_expenseBase (e : OutboxEventEntity) : ((expenseBase e).map Prod.fst).Nodup := by
  change ["v", "type", "eventId", "expenseId", "bondId", "status", "actor", "occurredAt"].Nodup
  decide

/-- The frame of an expense event, key by key. -/
theorem lookup_expense (storable : Storable e.payload) (key : String) :
    (buildExpenseChangedMessage e).defined.lookup key =
      if key ∈ ExpenseChanged.RESERVED_MESSAGE_KEYS then ((expenseBase e).lookup key).join
      else present (e.payload.lookup key) := by
  have own : ∀ key ∈ (expenseBase e).map Prod.fst, key ∈ ExpenseChanged.RESERVED_MESSAGE_KEYS := by
    change ∀ key ∈ ["v", "type", "eventId", "expenseId", "bondId", "status", "actor", "occurredAt"], _
    decide
  have built := @lookup_built (expenseBase e) e.payload key ExpenseChanged.RESERVED_MESSAGE_KEYS storable own
  change ((expenseBase e).spread (extrasOf ExpenseChanged.RESERVED_MESSAGE_KEYS e.payload)).defined.lookup
    key = _
  rw [lookup_defined (nodup_spread (nodup_expenseBase e)), built]
  split
  · rfl
  · cases present (e.payload.lookup key) <;> rfl

theorem expense_shown (storable : Storable e.payload) :
    ExpenseShown e (buildExpenseChangedMessage e).defined where
  v := lookup_expense storable "v"
  type := lookup_expense storable "type"
  eventId := lookup_expense storable "eventId"
  bondId := lookup_expense storable "bondId"
  expenseId := lookup_expense storable "expenseId"
  occurredAt := lookup_expense storable "occurredAt"
  mapped := by
    intro key there
    have own : key ∈ ExpenseChanged.RESERVED_MESSAGE_KEYS ∧
        ((expenseBase e).lookup key).join = e.payload.lookup key := by
      simp only [List.mem_cons, List.not_mem_nil, or_false] at there
      rcases there with rfl | rfl
      all_goals exact ⟨by decide, rfl⟩
    rw [lookup_expense storable, if_pos own.1, own.2]
  carried := by
    intro key free
    rw [lookup_expense storable, if_neg free]

/-! ## What is taken off -/

variable {frame : Record}

theorem accepted_activity (shown : ActivityShown e frame) (id : e.id ≠ "") (bond : e.bondId ≠ "") :
    realtimeFrame (.obj frame) = some frame := by
  simp [realtimeFrame, shown.v, shown.type, shown.bondId, shown.eventId, isVersionOne, asString,
    isActivityChanged, isString_str id, isString_str bond]

theorem accepted_expense (shown : ExpenseShown e frame) (id : e.id ≠ "") (bond : e.bondId ≠ "")
    (expense : e.aggregateId ≠ "") : realtimeFrame (.obj frame) = some frame := by
  simp [realtimeFrame, shown.v, shown.type, shown.bondId, shown.eventId, shown.expenseId, isVersionOne,
    asString, isExpenseChanged, isString_str id, isString_str bond, isString_str expense]

theorem toISOString_ne (instant : Instant) : toISOString instant ≠ "" := by
  intro none_
  have last : "Z" = "" := (String.append_eq_empty_iff.mp none_).2
  exact absurd last (by decide)

/-- What a notification is of and what it is about are named. -/
structure RefNamed (notification : CreatedNotificationRef) : Prop where
  type : notification.type ≠ ""
  refEntityType : notification.refEntityType ≠ ""

/-- The rows that the fan-out makes are. -/
theorem refNamed_activityNotification {config : Notifications.Config} {event : OutboxEventEntity}
    {activity : ActivityEntity} {rule : NotificationFanOutRule} {userId : Uuid} {row : NotificationEntity}
    (listed : rule ∈ NOTIFICATION_FAN_OUT_RULES)
    (made : row.toCreateNotificationInput = activityNotification config event activity rule userId) :
    RefNamed row.ref := by
  have types : ∀ type ∈ NOTIFICATION_FAN_OUT_RULES.map (·.type), type ≠ "" := by decide
  have type : row.type = rule.type := congrArg (·.type) made
  have entity : row.refEntityType = "activity" := congrArg (·.refEntityType) made
  refine ⟨?_, ?_⟩
  · change row.type ≠ ""
    rw [type]
    exact types _ (List.mem_map_of_mem listed)
  · change row.refEntityType ≠ ""
    rw [entity]
    decide

theorem refNamed_expenseNotification {event : OutboxEventEntity} {expense : Expenses.ExpenseEntity}
    {rule : ExpenseNotificationRule} {userId : Uuid} {row : NotificationEntity}
    (listed : rule ∈ EXPENSE_NOTIFICATION_RULES)
    (made : row.toCreateNotificationInput = expenseNotification event expense rule userId) : RefNamed row.ref := by
  have types : ∀ type ∈ EXPENSE_NOTIFICATION_RULES.map (·.type), type ≠ "" := by decide
  have type : row.type = rule.type := congrArg (·.type) made
  have entity : row.refEntityType = "expense" := congrArg (·.refEntityType) made
  refine ⟨?_, ?_⟩
  · change row.type ≠ ""
    rw [type]
    exact types _ (List.mem_map_of_mem listed)
  · change row.refEntityType ≠ ""
    rw [entity]
    decide

theorem accepted_notification {notification : CreatedNotificationRef} (named : RefNamed notification)
    (id : notification.id ≠ "") (user : notification.userId ≠ "") (entity : notification.refEntityId ≠ some "")
    (instant : Instant) :
    realtimeFrame (.obj (buildNotificationCreatedMessage notification (toISOString instant)).defined) =
      some (buildNotificationCreatedMessage notification (toISOString instant)).defined := by
  obtain ⟨type, kind⟩ := named
  have reference : isNull (some (Json.ofOption notification.refEntityId)) = true ∨
      isString (some (Json.ofOption notification.refEntityId)) = true := by
    cases held : notification.refEntityId with
    | none => exact .inl rfl
    | some entityId => exact .inr (isString_str fun none_ => entity (none_ ▸ held))
  simp [realtimeFrame, buildNotificationCreatedMessage, Draft.defined, List.lookup_cons, isVersionOne, asString,
    isNotificationCreated, isString_str id, isString_str user, isString_str type, isString_str kind,
    isString_str (toISOString_ne instant), reference]

/-! ## The events of activities -/

variable {config : Activities.Config} {input : InsertOutboxEventInput} {row row' : ActivityEntity}

/-- A payload that names its activity, if any, by the row's own reference. -/
structure OwnActivity (input : InsertOutboxEventInput) : Prop where
  storable : Storable input.payload
  named : (present (input.payload.lookup "activityId")).getD (.str input.aggregateId) =
    .str input.aggregateId

theorem ownActivity_of_opens (opens : Opens config input row) : OwnActivity input := by
  cases opens with
  | create bondId dto userId criticality now id =>
    exact ⟨⟨rfl, by change "__proto__" ∉ ["from", "to", "actor", "occurredAt"]; decide⟩, rfl⟩

theorem keysOnce_actorJson (actor : TransitionRequest.Actor) (actorRole : Option String) :
    (actorJson actor actorRole).keysOnce = true := by
  cases actor with
  | system => rfl
  | user userId => cases actorRole <;> rfl

theorem ownActivity_of_moves (moves : Moves config input row row') : OwnActivity input := by
  cases moves with
  | @transition req _ rule now actorRole made _ _ =>
    obtain ⟨base, written⟩ : ∃ base : Record, base =
      [("activityId", .str row.id), ("from", .str row.status.value), ("to", .str req.to_.value),
       ("actor", actorJson req.actor actorRole), ("reason", Json.ofOption req.reason),
       ("occurredAt", .str (toISOString now))] := ⟨_, rfl⟩
    have payload : ((transitionInput config req row rule now actorRole).event row).payload =
        base.spread req.payloadExtra := written ▸ rfl
    have keys : base.map Prod.fst = ["activityId", "from", "to", "actor", "reason", "occurredAt"] := by
      rw [written]
      rfl
    have values : membersOnce base = true := by
      have reason : (Json.ofOption req.reason).keysOnce = true := by cases req.reason <;> rfl
      rw [written]
      simp [membersOnce, Json.keysOnce, keysOnce_actorJson, reason]
    -- Nothing is merged into a payload but that the activity was deleted.
    have extended : base.spread req.payloadExtra = base ∨
        base.spread req.payloadExtra = base ++ [("deleted", .bool true)] := by
      cases made
      case delete =>
        refine .inr (Record.spread_new ?_)
        rw [List.map_append, keys]
        change ["activityId", "from", "to", "actor", "reason", "occurredAt", "deleted"].Nodup
        decide
      all_goals exact .inl rfl
    have named : (base.spread req.payloadExtra).lookup "activityId" = some (.str row.id) := by
      rw [made.payloadExtra_lookup (by decide), written]
      rfl
    refine ⟨⟨?_, ?_⟩, ?_⟩
    · rw [payload, Json.keysOnce, Bool.and_eq_true, decide_eq_true_eq]
      rcases extended with same | same
      · rw [same, keys]
        exact ⟨by decide, values⟩
      · rw [same, List.map_append, keys, membersOnce_iff]
        refine ⟨by decide, fun member there => ?_⟩
        rcases List.mem_append.mp there with old | new
        · exact membersOnce_iff.mp values member old
        · rw [List.mem_singleton.mp new]
          rfl
    · rw [payload]
      rcases extended with same | same
      · rw [same, keys]
        decide
      · rw [same, List.map_append, keys]
        decide
    · rw [payload, named]
      rfl

theorem ownActivity_of_reachable {cfg : Interleaving.Config (activities config)}
    (reachable : Reachable (activities config) cfg) (written : input ∈ cfg.world.outbox)
    (kind : input.aggregateType = .activity) : OwnActivity input := by
  have journaled := (consistent_of_reachable reachable).journaled input.aggregateId
  have listed : input ∈ eventsOf .activity input.aggregateId cfg.world.outbox :=
    mem_eventsOf.mpr ⟨written, kind, rfl⟩
  cases found : cfg.world.activities.get input.aggregateId with
  | none =>
    rw [journaled.1 found] at listed
    cases listed
  | some row =>
    rcases (journaled.2 row found).of_mem listed with ⟨opened, opens⟩ | ⟨earlier, later, moves⟩
    · exact ownActivity_of_opens opens
    · exact ownActivity_of_moves moves

/-! ## From one end to the other -/

/-- **Frames survive the channel, and a payload cannot forge them.** -/
theorem frames_survive :
    (∀ e : OutboxEventEntity, e.id ≠ "" → e.bondId ≠ "" → Storable e.payload →
      let frame := (buildActivityChangedMessage e).defined
      parseRealtimeFrame (jsonStringify (.obj frame)) = .ok (some frame) ∧ ActivityShown e frame) ∧
    (∀ e : OutboxEventEntity, e.id ≠ "" → e.bondId ≠ "" → e.aggregateId ≠ "" → Storable e.payload →
      let frame := (buildExpenseChangedMessage e).defined
      parseRealtimeFrame (jsonStringify (.obj frame)) = .ok (some frame) ∧ ExpenseShown e frame) ∧
    (∀ (notification : CreatedNotificationRef) (instant : Instant), RefNamed notification →
      notification.id ≠ "" → notification.userId ≠ "" → notification.refEntityId ≠ some "" →
      let frame := (buildNotificationCreatedMessage notification (toISOString instant)).defined
      parseRealtimeFrame (jsonStringify (.obj frame)) = .ok (some frame)) ∧
    ∀ (config : Activities.Config) (cfg : Interleaving.Config (activities config)),
      Reachable (activities config) cfg → ∀ e : OutboxEventEntity,
        e.toInsertOutboxEventInput ∈ cfg.world.outbox → e.aggregateType = .activity →
          Storable e.payload ∧ (buildActivityChangedMessage e).defined.lookup "activityId" =
            some (.str e.aggregateId) := by
  refine ⟨fun e id bond storable => ?_, fun e id bond expense storable => ?_,
    fun notification instant named id user entity => ?_, fun config cfg reachable e written kind => ?_⟩
  · have shown := activity_shown storable
    exact ⟨by rw [parse_draft (once_activity storable) (nodup_activity e), accepted_activity shown id bond],
      shown⟩
  · have shown := expense_shown storable
    have read := @parse_draft (buildExpenseChangedMessage e)
      (once_built storable (expenseBase_once storable)) (nodup_spread (nodup_expenseBase e))
    exact ⟨read.trans (congrArg _ (accepted_expense shown id bond expense)), shown⟩
  · have accepted := accepted_notification named id user entity instant
    have reference : ∀ value, some (Json.ofOption notification.refEntityId) = some value →
        value.keysOnce = true := by
      intro value same
      rw [← Option.some.inj same]
      cases notification.refEntityId <;> rfl
    have read := @parse_draft (buildNotificationCreatedMessage notification (toISOString instant))
      (.cons (fun _ same => by cases same; rfl) (.cons (once_str _) (.cons (once_str _) (.cons (once_str _)
        (.cons (once_str _) (.cons (once_str _) (.cons reference (.cons (once_str _) nofun))))))))
      (by change ["v", "type", "notificationId", "userId", "notificationType", "refEntityType",
            "refEntityId", "occurredAt"].Nodup
          decide)
    exact read.trans (congrArg _ accepted)
  · obtain ⟨storable, named⟩ := ownActivity_of_reachable reachable written kind
    refine ⟨storable, ?_⟩
    rw [(activity_shown storable).activityId, named]

/-- An event whose payload has keys of the frame. -/
def forged (aggregateType : OutboxAggregateType) : OutboxEventEntity where
  aggregateType := aggregateType
  aggregateId := "act-1"
  bondId := "bond-1"
  eventType := "activity.cancelled"
  aggregateVersion := 2
  payload := [("from", .str "assigned"), ("to", .str "cancelled"), ("bondId", .str "bond-forged"),
    ("v", .num (.ofInt 99)), ("reason", .null), ("deleted", .bool true)]
  id := "evt-1"
  createdAt := 0
  dispatchedAt := none

def assignedRef : CreatedNotificationRef := ⟨"n1", "u2", "activity_assigned", "activity", some "act-1"⟩

theorem frames_survive_forged :
    (∃ frame, parseRealtimeFrame (jsonStringify (.obj frame)) = .ok (some frame) ∧
      frame.lookup "bondId" = some (.str "bond-1") ∧ frame.lookup "activityId" = some (.str "act-1") ∧
        frame.lookup "deleted" = some (.bool true) ∧ frame.lookup "reason" = none) ∧
    (∃ frame, parseRealtimeFrame (jsonStringify (.obj frame)) = .ok (some frame) ∧
      frame.lookup "bondId" = some (.str "bond-1") ∧ frame.lookup "v" = some (.num (.ofInt 1)) ∧
        frame.lookup "to" = some (.str "cancelled")) ∧
    (∃ frame, parseRealtimeFrame (jsonStringify (.obj frame)) = .ok (some frame) ∧
      frame.lookup "userId" = some (.str "u2")) ∧
    ∃ cfg : Interleaving.Config (activities Activities.defaults), Reachable (activities Activities.defaults) cfg ∧
      ∃ e : OutboxEventEntity, e.toInsertOutboxEventInput ∈ cfg.world.outbox ∧ e.aggregateType = .activity ∧
        (buildActivityChangedMessage e).defined.lookup "activityId" = some (.str e.aggregateId) := by
  obtain ⟨activity, expense, notification, written⟩ := frames_survive
  have storable : Storable (forged .activity).payload := ⟨by decide, by decide⟩
  refine ⟨?_, ?_, ?_, ?_⟩
  · obtain ⟨survives, shown⟩ := activity (forged .activity) (by decide) (by decide) storable
    exact ⟨_, survives, shown.bondId, shown.activityId, shown.carried "deleted" (by decide), shown.reason⟩
  · obtain ⟨survives, shown⟩ := expense (forged .expense) (by decide) (by decide) (by decide) storable
    exact ⟨_, survives, shown.bondId, shown.v, shown.carried "to" (by decide)⟩
  · have survives := notification assignedRef 0 ⟨by decide, by decide⟩ (by decide) (by decide) (by decide)
    exact ⟨_, survives, rfl⟩
  · obtain ⟨cfg, run, shown⟩ := exists_played (fun _ _ => True) Activities.creation
      (fun cfg => cfg.world.outbox.any fun input => input.aggregateType = .activity) (by decide +kernel)
    obtain ⟨input, member, kind⟩ := List.any_eq_true.mp shown
    let e : OutboxEventEntity := { input with id := "evt-2", createdAt := 0, dispatchedAt := none }
    exact ⟨cfg, run, e, member, of_decide_eq_true kind,
      (written Activities.defaults cfg run e member (of_decide_eq_true kind)).2⟩

end ParentalCoord.Realtime

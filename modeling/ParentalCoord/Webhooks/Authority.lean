import ParentalCoord.Interleaving.Vouching
import ParentalCoord.Webhooks.Service

/-!
Who manages the subscriptions of a bond.

A request names a bond, and a subscription that is to be one of it; the bond is what its user is
asked about.  To replay one delivery no bond is named: it is that of the subscription the delivery
is for, which has to be read before the user is asked about it.
-/

namespace ParentalCoord.Webhooks

open Interleaving Store

/-- Who requests; the jobs are nobody's. -/
def Entry.requester : Entry → Option AuthUser
  | .replayDelivery _ user | .replayDead _ _ user | .test _ _ user | .create _ _ user _
  | .update _ _ _ user | .remove _ _ user | .rotateSecret _ _ user _ => some user
  | .work _ _ | .poll | .reconcile | .retention => none

/-- The bond and the subscription that a request names. -/
def Entry.names : Entry → Option (Uuid × Uuid)
  | .replayDead bondId id _ | .test bondId id _ | .update bondId id _ _ | .remove bondId id _
  | .rotateSecret bondId id _ _ => some (bondId, id)
  | .replayDelivery _ _ | .create _ _ _ _ | .work _ _ | .poll | .reconcile | .retention => none

/-- The calls that only read. -/
def Call.consults : Call → Prop
  | .now | .findByEventSub _ _ | .findDelivery _ | .findDeadBySubscription _ | .findReconcilable _
  | .findSubscription _ | .countByBond _ | .findActiveByBond _ | .findOutboxEvent _ | .findPending _
  | .findByIdIncludingDeleted _ | .isActiveBondForMember _ _ | .getJob _ => True
  | _ => False

namespace Authority

def notMember : Exception := forbiddenException "You are not an active member of this bond"

def deliveryNotFound (deliveryId : Uuid) : Exception :=
  notFoundException ("Webhook delivery \"" ++ deliveryId ++ "\" not found")

def deliveryOrphaned (deliveryId : Uuid) : Exception :=
  notFoundException ("Webhook delivery \"" ++ deliveryId ++ "\" has no subscription")

section Vouched

variable {config : Config} {entry : Entry} {past : List (Event (webhooks config))} {user : AuthUser}
  {bondId id : Uuid} {row : WebhookSubscriptionEntity} {delivery : WebhookDeliveryEntity}

/-- The subscription was read. -/
def Read (past : List (Event (webhooks config))) (id : Uuid) (row : WebhookSubscriptionEntity) : Prop :=
  ∃ event ∈ past, event.query = .findSubscription id ∧ event.before.subscriptions.get id = some row

def ReadDelivery (past : List (Event (webhooks config))) (id : Uuid) (delivery : WebhookDeliveryEntity) : Prop :=
  ∃ event ∈ past, event.query = .findDelivery id ∧ event.before.deliveries.get id = some delivery

/-- The user is an administrator, or has been found to be a member of the bond. -/
def Admitted (past : List (Event (webhooks config))) (bondId : Uuid) (user : AuthUser) : Prop :=
  user.admin ∨ ∃ event ∈ past, event.query = .isActiveBondForMember bondId user.id ∧
    event.before.surroundings.isActiveBondForMember bondId user.id

/-- The bond that a request is about: the one it names, of which the subscription was found to be; or,
to replay a delivery, that of the subscription as it was read. -/
def Concerns (entry : Entry) (past : List (Event (webhooks config))) (bondId : Uuid) : Prop :=
  match entry with
  | .create asked _ _ _ => bondId = asked
  | .replayDelivery deliveryId _ => ∃ delivery row, ReadDelivery past deliveryId delivery ∧
      Read past delivery.subscriptionId row ∧ row.bondId = bondId
  | entry => ∃ id row, entry.names = some (bondId, id) ∧ Read past id row ∧ row.bondId = bondId

def Vouched (entry : Entry) (past : List (Event (webhooks config))) : Prop :=
  ∀ user, entry.requester = some user → ∃ bondId, Concerns entry past bondId ∧ Admitted past bondId user

variable {later : List (Event (webhooks config))}

theorem Read.mono (read : Read past id row) (more : past ⊆ later) : Read later id row := by
  obtain ⟨seen, member, rest⟩ := read
  exact ⟨seen, more member, rest⟩

theorem ReadDelivery.mono (read : ReadDelivery past id delivery) (more : past ⊆ later) :
    ReadDelivery later id delivery := by
  obtain ⟨seen, member, rest⟩ := read
  exact ⟨seen, more member, rest⟩

theorem Admitted.mono (admitted : Admitted past bondId user) (more : past ⊆ later) :
    Admitted later bondId user := by
  rcases admitted with admin | ⟨seen, member, rest⟩
  · exact .inl admin
  · exact .inr ⟨seen, more member, rest⟩

theorem Concerns.mono (concerns : Concerns entry past bondId) (more : past ⊆ later) :
    Concerns entry later bondId := by
  cases entry with
  | create => exact concerns
  | replayDelivery =>
    obtain ⟨delivery, row, found, read, own⟩ := concerns
    exact ⟨delivery, row, found.mono more, read.mono more, own⟩
  | _ =>
    obtain ⟨id, row, named, read, own⟩ := concerns
    exact ⟨id, row, named, read.mono more, own⟩

theorem Vouched.cons {event : Event (webhooks config)} (vouched : Vouched entry past) :
    Vouched entry (event :: past) := by
  intro user requester
  obtain ⟨bondId, concerns, admitted⟩ := vouched user requester
  exact ⟨bondId, concerns.mono (List.subset_cons_self _ _), admitted.mono (List.subset_cons_self _ _)⟩

/-- What is told without a check: that the user is no member, and that there is nothing under the name
he gave. -/
def Silent (entry : Entry) (error : Exception) : Prop :=
  error = .fault ∨ error = notMember ∨ (∃ bondId id, entry.names = some (bondId, id) ∧ error = subscriptionNotFound id) ∨
    ∃ deliveryId user, entry = .replayDelivery deliveryId user ∧
      (error = deliveryNotFound deliveryId ∨ error = deliveryOrphaned deliveryId)

/-- Nothing is done for one who has not been found to be a member. -/
def membership (config : Config) : Vouching (webhooks config) where
  sensitive _ query := ¬query.consults
  silent := Silent
  vouched := Vouched
  stays := Vouched.cons

/-! ## Requests -/

theorem asking {query : Call} {β : Type} {rest : interface.Answer query → Request β} (consults : query.consults)
    (more : ∀ world value, (serve query world).1 = .ok value →
      (membership config).Keeps entry (rest value) (⟨world, query, .ok value, world⟩ :: past)) :
    (membership config).Keeps entry ((perform query).bind rest) past := by
  refine Vouching.keeps_asking (not_not.mpr consults) (fun before answer after answers => ?_)
    fun before error after answers => ?_
  · rcases answers.elim with ⟨same, rfl⟩ | ⟨error, -, same, -⟩
    · have still : (serve query before).2 = before := by cases query <;> first | rfl | cases consults
      rw [still]
      exact more before answer same.symm
    · cases same
  · refine .inl ?_
    rcases answers.elim with ⟨same, -⟩ | ⟨failure, may, same, -⟩
    · cases query <;> first | cases same | cases consults
    · cases same
      cases query <;> first | (cases may; rfl) | cases may

/-- Whoever manages the bond goes on. -/
theorem assertCanManage_keeps {β : Type} {rest : Unit → Request β}
    (more : ∀ later, past ⊆ later → Admitted later bondId user → (membership config).Keeps entry (rest ()) later) :
    (membership config).Keeps entry ((assertCanManage bondId user).bind rest) past := by
  unfold assertCanManage
  by_cases admin : user.admin
  · rw [if_pos admin]
    exact more past (List.Subset.refl past) (.inl admin)
  · rw [if_neg admin]
    simp only [Handler.bind_eq, Handler.bind_assoc]
    refine asking trivial fun world isMember answered => ?_
    cases isMember with
    | false => exact Vouching.keeps_throw (.inr (.inl rfl))
    | true =>
      exact more _ (List.subset_cons_self _ _)
        (.inr ⟨_, List.mem_cons_self, rfl, by simpa [serve] using answered⟩)

theorem findInBond_keeps {β : Type} {rest : WebhookSubscriptionEntity → Request β}
    (named : entry.names = some (bondId, id)) (requester : entry.requester = some user)
    (admitted : Admitted past bondId user) :
    (membership config).Keeps entry ((findInBond bondId id).bind rest) past := by
  have refused {β : Type} {past : List (Event (webhooks config))} :
      (membership config).Keeps entry (.throw (subscriptionNotFound id) : Request β) past :=
    Vouching.keeps_throw (.inr (.inr (.inl ⟨bondId, id, named, rfl⟩)))
  unfold findInBond findSubscription
  simp only [Handler.bind_eq, Handler.bind_assoc]
  refine asking trivial fun world found answered => ?_
  cases found with
  | none => exact refused
  | some row =>
    by_cases own : row.bondId = bondId
    · refine Vouching.keeps_of_vouched (fun other same => ?_) _
      cases requester.symm.trans same
      have read : Read ((⟨world, .findSubscription id, .ok (some row), world⟩ : Event (webhooks config)) :: past) id row :=
        ⟨_, List.mem_cons_self, rfl, by simpa [serve] using answered⟩
      refine ⟨bondId, ?_, admitted.mono (List.subset_cons_self _ _)⟩
      cases entry <;> first | exact ⟨id, row, named, read, own⟩ | cases named
    · simp only [ne_eq, own, not_false_eq_true, if_true]
      exact refused

theorem replayDelivery_keeps (deliveryId : Uuid) (user : AuthUser) :
    (membership config).Keeps (.replayDelivery deliveryId user) (replayDelivery deliveryId user) [] := by
  unfold replayDelivery findSubscription
  simp only [Handler.bind_eq]
  refine asking trivial fun first found answered => ?_
  cases found with
  | none => exact Vouching.keeps_throw (.inr (.inr (.inr ⟨deliveryId, user, rfl, .inl rfl⟩)))
  | some delivery =>
    have seen : ReadDelivery [(⟨first, .findDelivery deliveryId, .ok (some delivery), first⟩ : Event (webhooks config))]
        deliveryId delivery := ⟨_, List.mem_cons_self, rfl, by simpa [serve] using answered⟩
    refine asking trivial fun second found answered => ?_
    cases found with
    | none => exact Vouching.keeps_throw (.inr (.inr (.inr ⟨deliveryId, user, rfl, .inr rfl⟩)))
    | some row =>
      have read (past : List (Event (webhooks config))) : Read ((⟨second, .findSubscription delivery.subscriptionId,
          .ok (some row), second⟩ : Event (webhooks config)) :: past) delivery.subscriptionId row :=
        ⟨_, List.mem_cons_self, rfl, by simpa [serve] using answered⟩
      refine assertCanManage_keeps fun later more admitted => Vouching.keeps_of_vouched (fun other same => ?_) _
      cases same
      exact ⟨row.bondId,
        ⟨delivery, row, seen.mono (List.Subset.trans (List.subset_cons_self _ _) more), (read _).mono more, rfl⟩,
        admitted⟩

/-- Every request of a user begins with a check. -/
theorem handler_keeps (entry : Entry) : (membership config).Keeps entry (handler config entry) [] := by
  cases entry <;> simp only [handler, Handler.bind_eq, Handler.pure_eq]
  case replayDelivery deliveryId user => exact Vouching.keeps_bind (replayDelivery_keeps deliveryId user)
  case replayDead bondId id user =>
    exact Vouching.keeps_bind (assertCanManage_keeps fun _ _ => findInBond_keeps rfl rfl)
  case test bondId id user =>
    exact Vouching.keeps_bind (assertCanManage_keeps fun _ _ => findInBond_keeps rfl rfl)
  case create bondId dto user drawn =>
    refine assertCanManage_keeps fun _ _ admitted => Vouching.keeps_of_vouched (fun other same => ?_) _
    cases same
    exact ⟨bondId, rfl, admitted⟩
  case update bondId id dto user => exact assertCanManage_keeps fun _ _ => findInBond_keeps rfl rfl
  case remove bondId id user => exact assertCanManage_keeps fun _ _ => findInBond_keeps rfl rfl
  case rotateSecret bondId id user drawn => exact assertCanManage_keeps fun _ _ => findInBond_keeps rfl rfl
  all_goals exact Vouching.keeps_of_vouched (fun _ requester => by cases requester) _

end Vouched

variable {config : Config} {cfg : Interleaving.Config (webhooks config)} {thread : Thread (webhooks config)}

/-- **Subscriptions are managed by the members of their bond.**  In every run, a request of a user that
has done more than read, or that has ended in any other way than one may about nothing, is about a bond
of which the user was found to be a member during the request, unless he is an administrator; and what
it is about was found to be of that bond. -/
theorem managed_only {user : AuthUser} (run : Reachable (webhooks config) cfg) (member : thread ∈ cfg.threads)
    (requester : thread.entry.requester = some user)
    (told : (∃ event ∈ thread.past, ¬event.query.consults) ∨ (∃ reply, thread.rest = .ret reply) ∨
      ∃ error, thread.rest = .throw error ∧ ¬Silent thread.entry error) :
    ∃ bondId, Concerns thread.entry thread.past bondId ∧ Admitted thread.past bondId user :=
  run.vouched handler_keeps member told user requester

/-- A member of the bond, as long as it has not been told otherwise. -/
def parent : AuthUser := ⟨"u1", false⟩

/-- A member subscribes, and then changes where the events go. -/
def subscribing : List (Move (webhooks defaults)) :=
  [.nudge (.surroundings ⟨fun _ => { status := none }, fun _ => none, fun _ _ => true, fun _ => "s1"⟩),
    .arrive (.create "b1" ⟨"https://receiver.example", none, none⟩ parent ⟨"first", ""⟩)] ++
    List.replicate 4 (.turn 0) ++
    .arrive (.update "b1" "s1" { url := some (some "https://other.example") } parent) ::
      List.replicate 5 (.turn 1)

def updated (thread : Thread (webhooks defaults)) : Bool :=
  match thread.entry, thread.rest with
  | .update "b1" "s1" _ ⟨"u1", false⟩, .ret _ => true
  | _, _ => false

theorem managed_only_updated : ∃ (cfg : Interleaving.Config (webhooks defaults)) (bondId : Uuid),
    Reachable (webhooks defaults) cfg ∧ ∃ thread ∈ cfg.threads,
      Concerns thread.entry thread.past bondId ∧ Admitted thread.past bondId parent := by
  obtain ⟨cfg, run, shown⟩ := exists_played (fun _ _ => True) subscribing
    (fun cfg => cfg.threads.any updated) (by decide +kernel)
  obtain ⟨thread, member, shown⟩ := List.any_eq_true.mp shown
  unfold updated at shown
  split at shown
  · rename_i dto reply entry ended
    have requester : thread.entry.requester = some parent := by rw [entry]; rfl
    obtain ⟨bondId, concerns, admitted⟩ := managed_only run member requester (.inr (.inl ⟨_, ended⟩))
    exact ⟨cfg, bondId, run, thread, member, concerns, admitted⟩
  · cases shown

/-! ## What a stranger can tell -/

/-- A request about a subscription that is there already. -/
inductive Operation where
  | replayDelivery
  | replayDead
  | test
  | update (dto : UpdateWebhookSubscriptionDto)
  | remove
  | rotateSecret (drawn : Drawn)

/-- The bond that is named may be another than that of the subscription. -/
def Operation.entry (asked id deliveryId : Uuid) (user : AuthUser) : Operation → Entry
  | .replayDelivery => .replayDelivery deliveryId user
  | .replayDead => .replayDead asked id user
  | .test => .test asked id user
  | .update dto => .update asked id dto user
  | .remove => .remove asked id user
  | .rotateSecret drawn => .rotateSecret asked id user drawn

section Strangers

variable {world : World} {user : AuthUser} {asked bondId id deliveryId : Uuid} {row : WebhookSubscriptionEntity}
  {delivery : WebhookDeliveryEntity}

theorem run_assertCanManage (plain : user.admin = false) : (assertCanManage bondId user).run serve world =
    if world.surroundings.isActiveBondForMember bondId user.id then (.ok (), world)
    else (.error notMember, world) := by
  unfold assertCanManage
  rw [if_neg (by simp [plain])]
  have answered : (perform (.isActiveBondForMember bondId user.id)).run serve world =
      (.ok (world.surroundings.isActiveBondForMember bondId user.id), world) := rfl
  rw [Handler.bind_eq, Handler.run_bind_eq answered]
  cases world.surroundings.isActiveBondForMember bondId user.id <;> rfl

/-- The subscription is another's, or is not there at all. -/
theorem run_findInBond (foreign : (world.subscriptions.get id).all fun row => row.bondId ≠ asked) :
    (findInBond asked id).run serve world = (.error (subscriptionNotFound id), world) := by
  have read : (findSubscription id).run serve world = (.ok (world.subscriptions.get id), world) := rfl
  unfold findInBond
  rw [Handler.bind_eq, Handler.run_bind_eq read]
  cases found : world.subscriptions.get id with
  | none => rfl
  | some row =>
    have other : row.bondId ≠ asked := by simpa [found] using foreign
    simp only [ne_eq, other, not_false_eq_true, if_true]
    rfl

/-- The answer about a subscription of another bond, for one who may not manage that one. -/
def outside (world : World) (asked id : Uuid) (user : AuthUser) : Exception :=
  if world.surroundings.isActiveBondForMember asked user.id then subscriptionNotFound id else notMember

theorem run_outside (operation : Operation) (named : operation ≠ .replayDelivery) (plain : user.admin = false)
    (foreign : world.surroundings.isActiveBondForMember asked user.id →
      (world.subscriptions.get id).all fun row => row.bondId ≠ asked) :
    ((handler config (operation.entry asked id deliveryId user)).run serve world).1 =
      .error (outside world asked id user) := by
  have stops {β γ : Type} {first : Request β} {rest : β → Request γ} {error : Exception}
      (ran : first.run serve world = (.error error, world)) :
      ((first.bind rest).run serve world) = (.error error, world) := by
    rw [Handler.run_bind, ran]
  have refused {β : Type} {rest : WebhookSubscriptionEntity → Request β} :
      ((assertCanManage asked user).bind fun _ => (findInBond asked id).bind rest).run serve world =
        (.error (outside world asked id user), world) := by
    by_cases member : world.surroundings.isActiveBondForMember asked user.id = true
    · have managed : (assertCanManage asked user).run serve world = (.ok (), world) := by
        rw [run_assertCanManage plain, if_pos member]
      rw [Handler.run_bind_eq managed, outside, if_pos member]
      exact stops (run_findInBond (foreign member))
    · have denied : (assertCanManage asked user).run serve world = (.error notMember, world) := by
        rw [run_assertCanManage plain, if_neg member]
      rw [outside, if_neg member]
      exact stops denied
  cases operation with
  | replayDelivery => exact absurd rfl named
  | replayDead | test => exact congrArg Prod.fst (stops refused)
  | update | remove | rotateSecret => exact congrArg Prod.fst refused

theorem run_replayDelivery (plain : user.admin = false) (found : world.deliveries.get deliveryId = some delivery)
    (there : world.subscriptions.get delivery.subscriptionId = some row)
    (stranger : world.surroundings.isActiveBondForMember row.bondId user.id = false) :
    ((handler config (.replayDelivery deliveryId user)).run serve world).1 = .error notMember := by
  have read : (perform (.findDelivery deliveryId)).run serve world = (.ok (some delivery), world) :=
    congrArg (Except.ok ·, world) found
  have loaded : (findSubscription delivery.subscriptionId).run serve world = (.ok (some row), world) :=
    congrArg (Except.ok ·, world) there
  have denied : (assertCanManage row.bondId user).run serve world = (.error notMember, world) := by
    rw [run_assertCanManage plain, if_neg (by simp [stranger])]
  have ran : (replayDelivery deliveryId user).run serve world = (.error notMember, world) := by
    unfold replayDelivery
    rw [Handler.bind_eq, Handler.run_bind_eq read]
    refine (Handler.run_bind_eq loaded).trans ?_
    simp only [Handler.bind_eq, Handler.run_bind, denied]
  simp only [handler, Handler.bind_eq, Handler.run_bind, ran]

theorem run_replayDelivery_missing (absent : world.deliveries.get deliveryId = none) :
    ((handler config (.replayDelivery deliveryId user)).run serve world).1 = .error (deliveryNotFound deliveryId) := by
  have read : (perform (.findDelivery deliveryId)).run serve world = (.ok none, world) :=
    congrArg (Except.ok ·, world) absent
  have ran : (replayDelivery deliveryId user).run serve world = (.error (deliveryNotFound deliveryId), world) := by
    unfold replayDelivery
    rw [Handler.bind_eq, Handler.run_bind_eq read]
    rfl
  simp only [handler, Handler.bind_eq, Handler.run_bind, ran]

/-- **A stranger can tell a delivery from none by a replay of it, and a subscription from none by no
request.**  Whatever bond he names, all other requests answer as they do where there is neither. -/
theorem revealed_iff {world' : World} (operation : Operation) (plain : user.admin = false)
    (found : world.deliveries.get deliveryId = some delivery)
    (there : world.subscriptions.get delivery.subscriptionId = some row)
    (stranger : world.surroundings.isActiveBondForMember row.bondId user.id = false)
    (lost : world'.deliveries.get deliveryId = none)
    (absent : world'.subscriptions.get delivery.subscriptionId = none)
    (same : world'.surroundings.isActiveBondForMember asked user.id =
      world.surroundings.isActiveBondForMember asked user.id) :
    ((handler config (operation.entry asked delivery.subscriptionId deliveryId user)).run serve world).1 ≠
        ((handler config (operation.entry asked delivery.subscriptionId deliveryId user)).run serve world').1 ↔
      operation = .replayDelivery := by
  by_cases named : operation = .replayDelivery
  · subst named
    refine iff_of_true ?_ rfl
    change ((handler config (.replayDelivery deliveryId user)).run serve world).1 ≠
      ((handler config (.replayDelivery deliveryId user)).run serve world').1
    rw [run_replayDelivery plain found there stranger, run_replayDelivery_missing lost]
    exact nofun
  · refine iff_of_false (not_not.mpr ?_) named
    have foreign (member : world.surroundings.isActiveBondForMember asked user.id) :
        (world.subscriptions.get delivery.subscriptionId).all fun row => row.bondId ≠ asked := by
      rw [there]
      refine decide_eq_true fun own => ?_
      rw [own, member] at stranger
      cases stranger
    rw [run_outside operation named plain foreign, run_outside operation named plain fun _ => by rw [absent]; rfl,
      outside, outside, same]

/-- A subscription of a bond that nobody is a member of, with a delivery. -/
def strange : World :=
  { start with
    subscriptions := .singleton
      { id := "s1", bondId := "b1", createdBy := "u1", url := "https://receiver.example", eventTypes := ["*"],
        secretEncrypted := "first" }
    deliveries := .singleton { id := "d1", eventId := "v1", subscriptionId := "s1", createdAt := 0 } }

theorem revealed_replayed :
    ((handler defaults (.replayDelivery "d1" parent)).run serve strange).1 ≠
      ((handler defaults (.replayDelivery "d1" parent)).run serve start).1 :=
  (@revealed_iff defaults strange parent "b2" "d1" _ _ start .replayDelivery rfl rfl rfl rfl rfl rfl rfl).mpr rfl

end Strangers

end Authority

end ParentalCoord.Webhooks

import ParentalCoord.Interleaving.Protocol
import ParentalCoord.Webhooks.Subscriptions

/-!
How many subscriptions a bond has.

A creation counts the subscriptions of the bond, and inserts its own when they are fewer
than the maximum.  The two are calls of their own, so that between them a creation holds a
place that nobody sees.
-/

namespace ParentalCoord.Webhooks

open Interleaving Store

variable {config : Config} {cfg cfg' first : Interleaving.Config (webhooks config)}
  {move : Move (webhooks config)} {world : World} {bondId : Uuid} {α : Type}

def maxPerBond (config : Config) : ℕ :=
  config.WEBHOOK_MAX_PER_BOND.getD DEFAULT_WEBHOOK_MAX_PER_BOND

def countOf (bondId : Uuid) (world : World) : ℕ :=
  world.subscriptions.rows.countP (·.bondId = bondId)

/-- The call inserts a subscription of the bond. -/
def Call.stores (bondId : Uuid) : Call → Bool
  | .createSubscription entity => entity.bondId = bondId
  | _ => false

/-- A request that is about to insert a subscription of the bond. -/
def storing (bondId : Uuid) (thread : Thread (webhooks config)) : Bool :=
  match thread.rest with
  | .call query _ => query.stores bondId
  | _ => false

/-- Creations and removals are the only requests, and nobody else writes subscriptions. -/
def Managed (move : Move (webhooks config)) : Bool :=
  match move with
  | .arrive (.create ..) => true
  | .arrive (.remove ..) => true
  | .arrive _ => false
  | .nudge (.subscribe _) => false
  | _ => true

/-- Whoever counts the subscriptions of the bond and finds room finds it for those as well
that have counted and not inserted yet. -/
def Roomy (bondId : Uuid) (cfg : Interleaving.Config (webhooks config))
    (move : Move (webhooks config)) : Bool :=
  match cfg.acts move with
  | some (_, ⟨_, .countByBond asked, .ok _, _⟩, _) =>
      asked ≠ bondId || maxPerBond config ≤ countOf bondId cfg.world ||
        countOf bondId cfg.world + cfg.threads.countP (storing bondId) < maxPerBond config
  | _ => true

/-! ## One request -/

/-- The bond that a request has just found room in. -/
def counting (config : Config) : Protocol interface Exception where
  Phase := Option Uuid
  permits
    | phase, .createSubscription entity => phase = some entity.bondId
    | _, .saveSubscription _ => False
    | _, _ => True
  next
    | _, .countByBond bondId, .ok count => if count < maxPerBond config then some bondId else none
    | _, _, _ => none

/-- The calls that neither count nor write subscriptions. -/
def Call.uncounted : Call → Prop
  | .countByBond _ | .createSubscription _ | .saveSubscription _ => False
  | _ => True

abbrev Counts (config : Config) (phase : Option Uuid) (handler : Request α) : Prop :=
  (counting config).Follows (fun _ _ => True) phase handler

theorem uncounted_stays {query : Call} (uncounted : query.uncounted) :
    (counting config).permits none query ∧ ∀ answer, (counting config).next none query answer = none := by
  cases query <;> first | exact uncounted.elim | exact ⟨trivial, fun _ => rfl⟩

theorem counts_after {β : Type} {first : Request β} {rest : β → Request α}
    (calls : first.Calls Call.uncounted) (more : ∀ value, Counts config none (rest value)) :
    Counts config none (first.bind rest) := by
  refine Protocol.Follows.bind (.of_calls calls (fun query => uncounted_stays) fun result => ?_)
  cases result with
  | ok value => exact more value
  | error error => trivial

theorem asked_uncounted (query : Call) (uncounted : query.uncounted) :
    (perform query).Calls Call.uncounted := Handler.calls_perform.mpr uncounted

theorem assertCanManage_uncounted (bondId : Uuid) (user : AuthUser) :
    (assertCanManage bondId user).Calls Call.uncounted := by
  unfold assertCanManage
  split
  · trivial
  · refine .bind (asked_uncounted _ trivial) fun member => ?_
    cases member <;> trivial

theorem findInBond_uncounted (bondId id : Uuid) : (findInBond bondId id).Calls Call.uncounted := by
  refine .bind (asked_uncounted _ trivial) fun found => ?_
  cases found with
  | none => trivial
  | some entity =>
    dsimp only
    split <;> trivial

theorem computed_uncounted (value : Except Exception α) : (computed value).Calls Call.uncounted := by
  cases value <;> trivial

/-- An insertion is the call that follows a count below the maximum. -/
theorem create_counts (bondId : Uuid) (dto : CreateWebhookSubscriptionDto) (user : AuthUser)
    (drawn : Drawn) : Counts config none (create config bondId dto user drawn) := by
  refine counts_after (assertCanManage_uncounted bondId user) fun _ => ?_
  refine counts_after (computed_uncounted _) fun _ => ?_
  refine counts_after (computed_uncounted _) fun eventTypes => ?_
  refine Protocol.Follows.perform_bind trivial (fun count => ?_) fun _ => trivial
  dsimp only
  split
  · trivial
  · rename_i room
    have found : (counting config).next none (.countByBond bondId) (.ok count) = some bondId :=
      if_pos (not_le.mp room)
    rw [found]
    cases config.encrypt drawn.iv drawn.secret with
    | error error => trivial
    | ok secretEncrypted =>
      refine Protocol.Follows.perform_bind rfl (fun entity => ?_) fun _ => trivial
      exact counts_after (asked_uncounted _ trivial) fun _ => trivial

theorem remove_counts (bondId id : Uuid) (user : AuthUser) :
    Counts config none (remove bondId id user) := by
  refine counts_after (assertCanManage_uncounted bondId user) fun _ => ?_
  refine counts_after (findInBond_uncounted bondId id) fun entity => ?_
  refine counts_after (asked_uncounted _ trivial) fun found => ?_
  cases found with
  | none => trivial
  | some _ =>
    refine counts_after (asked_uncounted _ trivial) fun _ => ?_
    exact counts_after (asked_uncounted _ trivial) fun _ => trivial

/-! ## One call -/

/-- A table whose rows were there before, but for a few, has at most these more. -/
theorem countP_le_of_rows {κ ρ : Type} [DecidableEq κ] {key : ρ → κ} {before after : Table key}
    {counted : ρ → Bool} (extra : List ρ)
    (came : ∀ row ∈ after.rows, counted row → row ∈ before.rows ∨ row ∈ extra) :
    after.rows.countP counted ≤ before.rows.countP counted + extra.length := by
  have unique : (after.rows.filter counted).Nodup := after.unique.of_map.filter _
  have within : after.rows.filter counted ⊆ before.rows.filter counted ++ extra := by
    intro row member
    obtain ⟨there, kind⟩ := List.mem_filter.mp member
    rcases came row there kind with old | new
    · exact List.mem_append_left _ (List.mem_filter.mpr ⟨old, kind⟩)
    · exact List.mem_append_right _ new
  have fits := List.Nodup.length_le_of_subset unique within
  rwa [List.length_append, ← List.countP_eq_length_filter, ← List.countP_eq_length_filter] at fits

/-- A call that is served adds at most the subscription that it inserts. -/
theorem countOf_served {query : Call} (unsaved : ∀ entity, query ≠ .saveSubscription entity) :
    countOf bondId (serve query world).2 ≤ countOf bondId world + (query.stores bondId).toNat := by
  have came (row : WebhookSubscriptionEntity) (member : row ∈ (serve query world).2.subscriptions.rows) :
      row ∈ world.subscriptions.rows ∨ ∃ entity, query = .createSubscription entity ∧
        row = { entity with id := world.surroundings.uuids 0 } := by
    rcases subscription_served (Table.get_of_mem member) with same | ⟨entity, saved, -⟩ |
      ⟨entity, rfl, -, created, -⟩
    · exact .inl (Table.mem_of_get same)
    · exact absurd saved (unsaved entity)
    · refine .inr ⟨entity, rfl, ?_⟩
      unfold World.createSubscription at created
      dsimp only at created
      split at created <;> cases created
      rfl
  unfold countOf
  cases query with
  | createSubscription entity =>
    by_cases own : entity.bondId = bondId
    · have stores : (Call.createSubscription entity).stores bondId = true := decide_eq_true own
      rw [stores]
      apply countP_le_of_rows [{ entity with id := world.surroundings.uuids 0 }]
      intro row member _
      rcases came row member with old | ⟨_, same, rfl⟩
      · exact .inl old
      · cases same
        exact .inr (List.mem_singleton_self _)
    · have stores : (Call.createSubscription entity).stores bondId = false := decide_eq_false own
      rw [stores]
      apply countP_le_of_rows []
      intro row member kind
      rcases came row member with old | ⟨_, same, rfl⟩
      · exact .inl old
      · cases same
        exact absurd (of_decide_eq_true kind) own
  | _ =>
    apply countP_le_of_rows []
    intro row member _
    rcases came row member with old | ⟨_, same, -⟩
    · exact .inl old
    · cases same

theorem countOf_nudged {how : Nudge} (managed : Managed (.nudge how : Move (webhooks config))) :
    countOf bondId (nudge how world) ≤ countOf bondId world := by
  have serviced : Serviced (.nudge how : Move (webhooks config)) := by
    cases how <;> first | rfl | cases managed
  apply countP_le_of_rows []
  intro row member _
  exact .inl (Table.mem_of_get (subscription_nudged serviced (Table.get_of_mem member)))

/-! ## Every run -/

/-- The subscriptions of the bond, with the insertions that are about to be made, are within
the maximum. -/
structure Within (bondId : Uuid) (cfg : Interleaving.Config (webhooks config)) : Prop where
  follows : ∀ thread ∈ cfg.threads,
    Counts config ((counting config).reached none thread.past) thread.rest
  sum : countOf bondId cfg.world + cfg.threads.countP (storing bondId) ≤ maxPerBond config

/-- Only a request that has just found room is about to insert. -/
theorem storing_phase {phase : Option Uuid} {thread : Thread (webhooks config)}
    (follows : Counts config phase thread.rest) (about : storing bondId thread = true) :
    phase = some bondId := by
  unfold storing at about
  split at about
  · rename_i query next shape
    rw [shape] at follows
    cases query with
    | createSubscription entity =>
      have own : entity.bondId = bondId := of_decide_eq_true about
      exact own ▸ follows.1
    | _ => cases about
  · cases about

/-- One call of a request: what it inserts it was about to, and what it is about to insert it
has found room for. -/
theorem within_act {thread : Thread (webhooks config)} {event : Event (webhooks config)}
    {rest : Request Reply} (within : Within bondId cfg) (roomy : Roomy bondId cfg move)
    (acts : cfg.acts move = some (thread, event, rest)) :
    countOf bondId event.after + (storing bondId (thread.after event rest)).toNat +
      cfg.threads.countP (storing bondId) ≤ maxPerBond config + (storing bondId thread).toNat := by
  obtain ⟨follows, sum⟩ := within
  obtain ⟨member, query, next, answer, after, shape, rfl, rfl, answers⟩ := acts_cases acts
  have more : Counts config
      ((counting config).next ((counting config).reached none thread.past) query answer)
      (next answer) := by
    have kept := follows thread member
    rw [shape] at kept
    exact kept.2 answer
  by_cases about : storing bondId (thread.after ⟨cfg.world, query, answer, after⟩ (next answer)) = true
  · -- it has just counted
    have found := storing_phase more about
    cases query with
    | countByBond asked =>
      cases answer with
      | error error => cases found
      | ok count =>
        obtain ⟨few, rfl⟩ : count < maxPerBond config ∧ asked = bondId := by
          change (if count < maxPerBond config then some asked else none) = some bondId at found
          split at found
          · rename_i few
            exact ⟨few, Option.some.inj found⟩
          · cases found
        rcases answers.elim with ⟨counted, rfl⟩ | ⟨_, _, failed, _⟩
        · have number : count = countOf asked cfg.world := Except.ok.inj counted
          have room : countOf asked cfg.world < maxPerBond config := number ▸ few
          unfold Roomy at roomy
          rw [acts] at roomy
          simp only [ne_eq, not_true_eq_false, decide_false, Bool.false_or, Bool.or_eq_true,
            decide_eq_true_eq] at roomy
          rw [about, Bool.toNat_true]
          change countOf asked cfg.world + 1 + _ ≤ _
          omega
        · cases failed
    | _ => cases found
  · rw [Bool.not_eq_true] at about
    have holding : storing bondId thread = query.stores bondId := by
      unfold storing
      rw [shape]
    rw [about, holding, Bool.toNat_false]
    rcases answers.elim with ⟨-, rfl⟩ | ⟨_, _, -, rfl⟩
    · have unsaved : ∀ entity, query ≠ .saveSubscription entity := by
        rintro entity rfl
        have kept := follows thread member
        rw [shape] at kept
        exact kept.1
      have added := @countOf_served cfg.world bondId query unsaved
      change countOf bondId (serve query cfg.world).2 + 0 + _ ≤ _
      omega
    · change countOf bondId cfg.world + 0 + _ ≤ _
      omega

theorem within_step (within : Within bondId cfg) (managed : Managed move) (roomy : Roomy bondId cfg move)
    (moved : advance move cfg = some cfg') : Within bondId cfg' := by
  rcases advance_cases moved with ⟨how, rfl, rfl⟩ | ⟨entry, rfl, rfl⟩ | ⟨index, rfl, rfl⟩ |
    ⟨index, thread, event, rest, at_, acts, rfl⟩
  · refine ⟨within.follows, ?_⟩
    have fewer := @countOf_nudged config cfg.world bondId how managed
    have sum := within.sum
    change countOf bondId (nudge how cfg.world) + cfg.threads.countP (storing bondId) ≤ _
    omega
  · have begins : Counts config none (handler config entry) := by
      cases entry with
      | create bondId dto user drawn => exact create_counts bondId dto user drawn
      | remove bondId id user => exact remove_counts bondId id user
      | _ => cases managed
    have idle : storing bondId (Thread.begin (webhooks config) entry) = false := by
      rw [Bool.eq_false_iff]
      intro about
      cases storing_phase begins about
    refine ⟨fun thread member => ?_, ?_⟩
    · rcases List.mem_append.mp member with old | new
      · exact within.follows thread old
      · rw [List.mem_singleton.mp new]
        exact begins
    · rw [List.countP_append, List.countP_singleton, idle]
      exact within.sum
  · refine ⟨fun thread member => within.follows thread (List.mem_of_mem_eraseIdx member), ?_⟩
    have fewer := (cfg.threads.eraseIdx_sublist index).countP_le (p := storing bondId)
    have sum := within.sum
    dsimp only
    omega
  · have acted := within_act within roomy acts
    obtain ⟨place, here⟩ := List.getElem?_eq_some_iff.mp at_
    refine ⟨fun other member => ?_, ?_⟩
    · rcases List.mem_or_eq_of_mem_set member with old | rfl
      · exact within.follows other old
      · obtain ⟨there, query, next, answer, after, shape, rfl, rfl, -⟩ := acts_cases acts
        have kept := within.follows thread there
        rw [shape] at kept
        exact kept.2 answer
    · have held : (storing bondId thread).toNat ≤ cfg.threads.countP (storing bondId) := by
        cases about : storing bondId thread with
        | false => exact Nat.zero_le _
        | true => exact List.countP_pos_iff.mpr ⟨thread, List.mem_of_getElem? at_, about⟩
      have weight (flag : Bool) : (if flag = true then 1 else 0) = flag.toNat := by cases flag <;> rfl
      dsimp only
      rw [List.countP_set place, here, weight, weight]
      omega

/-- **The cap on subscriptions.** Where whoever counts finds room for those as well that have
counted before, a bond that begins within the maximum stays within it. -/
theorem capped (bondId : Uuid) (quiet : first.threads = [])
    (few : countOf bondId first.world ≤ maxPerBond config)
    (later : Onward (webhooks config) (fun cfg move => Managed move = true ∧ Roomy bondId cfg move = true)
      first cfg) : countOf bondId cfg.world ≤ maxPerBond config := by
  suffices within : Within bondId cfg from (Nat.le_add_right _ _).trans within.sum
  induction later with
  | here =>
    refine ⟨?_, ?_⟩
    · simp [quiet]
    · simpa [quiet] using few
  | step _ permitted moved ih => exact within_step ih permitted.1 permitted.2 moved

/-! ## Two creations at once -/

def single : Config := { defaults with WEBHOOK_MAX_PER_BOND := some 1 }

def drawing (id : Uuid) : Surroundings where
  endpoints := fun _ => { status := none }
  activities := fun _ => none
  isActiveBondForMember := fun _ _ => true
  uuids := fun _ => id

def asked : Entry :=
  .create "b1" ⟨"https://receiver.example", none, none⟩ ⟨"u1", true⟩ ⟨"secret", ""⟩

/-- A creation runs to its end before the next one counts. -/
def inTurn : List (Move (webhooks single)) :=
  [.arrive asked, .turn 0, .turn 0, .turn 0, .arrive asked, .turn 1]

/-- Both creations count before either inserts. -/
def atOnce : List (Move (webhooks single)) :=
  [.arrive asked, .arrive asked, .turn 0, .turn 1, .turn 0, .nudge (.surroundings (drawing "s2")),
    .turn 1]

theorem capped_in_turn : ∃ cfg : Interleaving.Config (webhooks single),
    countOf "b1" cfg.world = 1 ∧ countOf "b1" cfg.world ≤ maxPerBond single := by
  have played : (play (fun cfg move => Managed move = true ∧ Roomy "b1" cfg move = true) inTurn
      ⟨(webhooks single).start, []⟩).any (fun cfg => countOf "b1" cfg.world = 1) = true := by
    decide +kernel
  obtain ⟨cfg, ends, one⟩ := (Option.any_eq_true _ _).mp played
  exact ⟨cfg, of_decide_eq_true one, capped "b1" rfl (by decide) (Onward.here.play ends)⟩

/-- The maximum is one, and the bond comes to have two. -/
theorem overshot : ¬ ∀ first cfg : Interleaving.Config (webhooks single), first.threads = [] →
    countOf "b1" first.world ≤ maxPerBond single →
      Onward (webhooks single) (fun _ move => Managed move = true) first cfg →
        countOf "b1" cfg.world ≤ maxPerBond single := by
  intro all
  have played : (play (fun _ move => Managed move = true) atOnce
      ⟨(webhooks single).start, []⟩).any (fun cfg => countOf "b1" cfg.world = 2) = true := by
    decide +kernel
  obtain ⟨cfg, ends, two⟩ := (Option.any_eq_true _ _).mp played
  have within := all _ cfg rfl (by decide) (Onward.here.play ends)
  rw [of_decide_eq_true two] at within
  exact absurd within (by decide)

end ParentalCoord.Webhooks

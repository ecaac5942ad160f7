import ParentalCoord.Webhooks.Recovery

/-!
Whether a finished delivery stays as it is.

An attempt reads its delivery once, and takes it for one to be attempted whatever its
status.  In the runs where no attempt begins with a finished delivery and none finishes
a delivery that another one is attempting (`Sole`), a finished delivery is left alone
until a replay resets it; otherwise it is attempted once more.
-/

namespace ParentalCoord.Webhooks

open Interleaving Store

variable {config : Config} {cfg cfg' : Interleaving.Config (webhooks config)}
  {move : Move (webhooks config)} {id : Uuid}

/-- The worker says how its job went. -/
def Call.reports : Call → Bool
  | .moveToCompleted _ _ => true
  | .moveToFailed _ _ => true
  | _ => false

/-- The delivery that a thread has read and not yet written the status of, unless it
has failed and is about to say so. -/
def attempting (thread : Thread (webhooks config)) : Option Uuid :=
  match thread.rest, conduct.reached thread.entry.phase thread.past with
  | .call query _, .attempting id => if query.reports then none else some id
  | _, _ => none

/-- A read of a delivery to attempt finds none that is finished, and a delivery is
finished when nobody else is attempting it. -/
def SoleAttempt (cfg : Interleaving.Config (webhooks config)) : Call → Prop
  | .findByEventSub eventId subscriptionId => ∀ row ∈ cfg.world.deliveries.rows,
      row.eventId = eventId → row.subscriptionId = subscriptionId → row.unfinished
  | .updateStatus id patch =>
      patch.status.terminal → cfg.threads.countP (attempting · = some id) ≤ 1
  | _ => True

instance (cfg : Interleaving.Config (webhooks config)) (query : Call) :
    Decidable (SoleAttempt cfg query) := by
  unfold SoleAttempt
  rcases query with ⟨⟩ <;> infer_instance

def Sole (cfg : Interleaving.Config (webhooks config)) (move : Move (webhooks config)) : Prop :=
  match cfg.acts move with
  | some (_, event, _) => answered event → SoleAttempt cfg event.query
  | none => True

instance (cfg : Interleaving.Config (webhooks config)) (move : Move (webhooks config)) :
    Decidable (Sole cfg move) := by
  unfold Sole
  rcases cfg.acts move with _ | ⟨_, event, _⟩ <;> infer_instance

def Entry.replays : Entry → Bool
  | .replayDelivery _ _ => true
  | .replayDead _ _ _ => true
  | _ => false

/-- A replay writes the delivery. -/
def Resets (id : Uuid) (cfg : Interleaving.Config (webhooks config))
    (move : Move (webhooks config)) : Prop :=
  match cfg.acts move with
  | some (thread, ⟨_, .updateStatus written _, _, _⟩, _) => written = id ∧ thread.entry.replays
  | _ => False

instance (id : Uuid) (cfg : Interleaving.Config (webhooks config)) (move : Move (webhooks config)) :
    Decidable (Resets id cfg move) := by
  unfold Resets
  rcases cfg.acts move with _ | ⟨thread, ⟨_, query, _, _⟩, _⟩
  · infer_instance
  · rcases query with ⟨⟩ <;> infer_instance

/-- The delivery is there, and the move is not its reset. -/
def Unreset (id : Uuid) (cfg : Interleaving.Config (webhooks config))
    (move : Move (webhooks config)) : Prop :=
  (cfg.world.deliveries.get id).isSome ∧ ¬Resets id cfg move

instance (id : Uuid) (cfg : Interleaving.Config (webhooks config)) (move : Move (webhooks config)) :
    Decidable (Unreset id cfg move) := inferInstanceAs (Decidable (_ ∧ _))

/-- The delivery, where it is still there, has its status and its count of attempts,
and no move makes a request for it. -/
structure FinishedForGood (row : WebhookDeliveryEntity) (cfg : Interleaving.Config (webhooks config)) :
    Prop where
  kept : ∀ now, cfg.world.deliveries.get row.id = some now →
    now.status = row.status ∧ now.attemptCount = row.attemptCount
  unposted : ∀ move thread event rest url rawBody headers,
    cfg.acts move = some (thread, event, rest) →
      event.query ≠ .post (some row.id) url rawBody headers

/-! ## What a move does to a delivery -/

theorem deliveries_removed {world : World} {other : Uuid} {now : WebhookDeliveryEntity}
    (found : (world.removeSubscription other).deliveries.get id = some now) :
    world.deliveries.get id = some now := by
  simp only [World.removeSubscription, World.cascade, Table.get_filter,
    Option.filter_eq_some_iff] at found
  exact found.1

/-- A row that is there after a call was there before, is a new one, or is what the
call writes. -/
theorem deliveries_served {query : Call} {world : World} {now : WebhookDeliveryEntity}
    (found : (serve query world).2.deliveries.get id = some now) :
    world.deliveries.get id = some now ∨
      (world.deliveries.get id = none ∧ now.status = .PENDING) ∨
      ∃ patch row, query = .updateStatus id patch ∧ (serve query world).1.isOk ∧
        world.deliveries.get id = some row ∧ now = patch.onto row := by
  by_cases spares : query.sparesTables
  · rw [(tables_spared spares world).deliveries] at found
    exact .inl found
  cases query with
  | updateStatus written patch =>
    simp only [serve, World.updateStatus] at found ⊢
    split at found
    · exact .inl found
    · rename_i valid
      split at found
      · exact .inl found
      · rename_i row there
        have own : (patch.onto row).id = written := (Table.key_of_get there : row.id = written)
        rw [Table.get_put, own] at found
        split at found
        · rename_i same
          subst same
          rw [there, Option.map_some, Option.some.injEq] at found
          refine .inr (.inr ⟨patch, row, rfl, ?_, there, found.symm⟩)
          rw [if_neg valid]
          rfl
        · exact .inl found
  | dispatch event subscriptionIds =>
    simp only [serve, World.dispatch] at found
    split at found
    · exact .inl found
    · cases before : world.deliveries.get id with
      | none =>
        rcases mem_insertDeliveries (Table.mem_of_get found) with old | ⟨status, -⟩
        · have still := Table.get_of_mem old
          rw [Table.key_of_get found, before] at still
          cases still
        · exact .inr (.inl ⟨rfl, status⟩)
      | some row =>
        have still := Table.get_of_mem (subset_insertDeliveries event.id world.clock
          world.surroundings.uuids 0 subscriptionIds (Table.mem_of_get before))
        rw [Table.key_of_get before] at still
        exact .inl (still.symm.trans found)
  | createSubscription entity =>
    simp only [serve, World.createSubscription] at found
    split at found <;> exact .inl found
  | removeSubscription other => exact .inl (deliveries_removed found)
  | purgeDispatchedBefore cutoff =>
    simp only [serve, World.cascade, Table.get_filter, Option.filter_eq_some_iff] at found
    exact .inl found.1
  | saveSubscription entity => exact .inl found
  | _ => exact (spares trivial).elim

theorem deliveries_nudged {how : Nudge} {world : World} {now : WebhookDeliveryEntity}
    (found : (nudge how world).deliveries.get id = some now) :
    world.deliveries.get id = some now := by
  cases how with
  | unsubscribe other => exact deliveries_removed found
  | _ => exact found

/-! ## What a thread is attempting -/

theorem attempting_eq_some {thread : Thread (webhooks config)} (attempts : attempting thread = some id) :
    conduct.reached thread.entry.phase thread.past = .attempting id ∧
      ∃ query next, thread.rest = .call query next ∧ query.reports = false := by
  unfold attempting at attempts
  split at attempts
  · rename_i query next other shape phase
    split at attempts
    · cases attempts
    · rename_i silent
      cases attempts
      exact ⟨phase, query, next, shape, Bool.eq_false_iff.mpr silent⟩
  · cases attempts

theorem attempting_of_phase {thread : Thread (webhooks config)} {query : Call}
    {next : Except Exception (interface.Answer query) → Request Reply}
    (shape : thread.rest = .call query next) (silent : query.reports = false)
    (phase : conduct.reached thread.entry.phase thread.past = .attempting id) :
    attempting thread = some id := by
  unfold attempting
  rw [shape, phase]
  simp [silent]

theorem Phase.conclude_ne_attempting {phase : Phase} : phase.conclude ≠ .attempting id := by
  cases phase <;> nofun

/-- An attempt begins with the read of its delivery, and is over when its status has
been written. -/
theorem nextPhase_attempting {phase : Phase} {query : Call} {before after : World}
    {answer : Except Exception (interface.Answer query)}
    (answers : Answers (webhooks config) query before answer after)
    (next : nextPhase phase query answer = .attempting id) :
    (phase = .attempting id ∧ query.reports = false ∧
      ∀ written patch, query ≠ .updateStatus written patch) ∨
    ∃ row ∈ before.deliveries.rows, row.id = id ∧ answer.isOk ∧
      query = .findByEventSub row.eventId row.subscriptionId := by
  cases query with
  | findByEventSub eventId subscriptionId =>
    have silent : (Call.findByEventSub eventId subscriptionId).reports = false ∧
        ∀ written patch, Call.findByEventSub eventId subscriptionId ≠ .updateStatus written patch :=
      ⟨rfl, fun _ _ same => by cases same⟩
    rcases answers.elim with ⟨served, -⟩ | ⟨error, -, failed, -⟩
    · subst served
      cases found : before.deliveries.rows.find? fun row =>
          row.eventId = eventId ∧ row.subscriptionId = subscriptionId with
      | none =>
        simp only [serve, found] at next
        exact .inl ⟨next, silent⟩
      | some row =>
        obtain ⟨event, subscription⟩ : row.eventId = eventId ∧ row.subscriptionId = subscriptionId :=
          by simpa using List.find?_some found
        simp only [serve, found] at next
        cases phase with
        | idle =>
          cases next
          exact .inr ⟨row, List.mem_of_find?_eq_some found, rfl, rfl, by rw [event, subscription]⟩
        | _ => exact .inl ⟨next, silent⟩
    · subst failed
      exact .inl ⟨next, silent⟩
  | updateStatus written patch => exact absurd next Phase.conclude_ne_attempting
  | moveToCompleted jobId token => exact absurd next Phase.conclude_ne_attempting
  | moveToFailed jobId token => exact absurd next Phase.conclude_ne_attempting
  | _ => exact .inl ⟨next, rfl, fun _ _ same => by cases same⟩

/-- What a thread is attempting after an event it was attempting before, or it has just
read the delivery and found it unfinished. -/
theorem attempting_after {thread : Thread (webhooks config)} {event : Event (webhooks config)}
    {rest : Request Reply} (sole : Sole cfg move) (acts : cfg.acts move = some (thread, event, rest))
    (attempts : attempting (thread.after event rest) = some id) :
    (∀ written patch, event.query ≠ .updateStatus written patch) ∧
      (attempting thread = some id ∨
        ∃ row, cfg.world.deliveries.get id = some row ∧ row.unfinished) := by
  obtain ⟨phase, -⟩ := attempting_eq_some attempts
  simp only [Sole, acts] at sole
  obtain ⟨-, query, next, answer, after, shape, rfl, rfl, answers⟩ := acts_cases acts
  rcases nextPhase_attempting answers phase with ⟨before, silent, unwritten⟩ |
    ⟨row, member, rfl, ok, rfl⟩
  · exact ⟨unwritten, .inl (attempting_of_phase shape silent before)⟩
  · refine ⟨fun _ _ same => ?_, .inr ⟨row, Table.get_of_mem member, ?_⟩⟩
    · cases same
    · exact sole ok row member rfl rfl

/-- When the one thread that a predicate held of is replaced by another, it holds of
none. -/
private theorem none_left {τ : Type} (holds : τ → Bool) {threads : List τ} {index : ℕ} {old new : τ}
    (at_ : threads[index]? = some old) (held : holds old) (dropped : holds new = false)
    (alone : threads.countP holds ≤ 1) : ∀ other ∈ threads.set index new, holds other = false := by
  obtain ⟨bound, same⟩ := List.getElem?_eq_some_iff.mp at_
  have count : (threads.set index new).countP holds = 0 := by
    rw [List.countP_set bound, same, held, dropped]
    simp only [if_true, Bool.false_eq_true, if_false]
    omega
  intro other member
  exact Bool.eq_false_iff.mpr (List.countP_eq_zero.mp count other member)

/-- Who writes the status of a delivery: a replay, or the attempt of it. -/
theorem writes_cases {allowed : Interleaving.Config (webhooks config) → Move (webhooks config) → Prop}
    (run : Run (webhooks config) allowed cfg) {thread : Thread (webhooks config)}
    {event : Event (webhooks config)} {rest : Request Reply} {patch : DeliveryStatusPatch}
    (acts : cfg.acts move = some (thread, event, rest))
    (written : event.query = .updateStatus id patch) :
    (conduct.reached thread.entry.phase thread.past = .replaying ∧ patch = resetPatch) ∨
      attempting thread = some id := by
  have permitted := ((run.follows (handler_conducts config) thread (acts_cases acts).1).act acts).1
  obtain ⟨-, query, next, answer, after, shape, rfl, -, -⟩ := acts_cases acts
  dsimp only at written
  subst written
  exact permitted.imp_right fun attempts => attempting_of_phase shape rfl attempts.1

/-- Once a delivery has been finished by the one that was attempting it, nobody is. -/
theorem none_attempting (run : Run (webhooks config) Sole cfg) (sole : Sole cfg move) {index : ℕ}
    {thread : Thread (webhooks config)} {event : Event (webhooks config)} {rest : Request Reply}
    {patch : DeliveryStatusPatch} (at_ : cfg.threads[index]? = some thread)
    (acts : cfg.acts move = some (thread, event, rest))
    (written : event.query = .updateStatus id patch) (ok : answered event)
    (terminal : patch.status.terminal) :
    ∀ other ∈ cfg.threads.set index (thread.after event rest), attempting other ≠ some id := by
  rcases writes_cases run acts written with ⟨-, rfl⟩ | attempts
  · cases terminal
  · have dropped : attempting (thread.after event rest) ≠ some id := fun still =>
      (attempting_after sole acts still).1 id patch written
    have alone : SoleAttempt cfg event.query := by
      simp only [Sole, acts] at sole
      exact sole ok
    rw [written] at alone
    intro other member
    have none_ := none_left (attempting · = some id) at_ (by simpa using attempts)
      (by simpa using dropped) (alone terminal) other member
    simpa using none_

/-- An execution that is after its read, in a run where nobody else finishes its
delivery, finds it unfinished. -/
theorem unfinished_while_attempted (run : Run (webhooks config) Sole cfg) :
    ∀ thread ∈ cfg.threads, ∀ id, attempting thread = some id →
      ∀ row, cfg.world.deliveries.get id = some row → row.unfinished := by
  induction run with
  | start => simp
  | @step cfg cfg' move before sole moved ih =>
    rcases advance_cases moved with ⟨how, rfl, rfl⟩ | ⟨entry, rfl, rfl⟩ | ⟨index, rfl, rfl⟩ |
      ⟨index, thread, event, rest, at_, acts, rfl⟩
    · exact fun thread member id attempts row found =>
        ih thread member id attempts row (deliveries_nudged found)
    · intro thread member id attempts row found
      rcases List.mem_append.mp member with old | new
      · exact ih thread old id attempts row found
      · rw [List.mem_singleton] at new
        subst new
        obtain ⟨phase, -⟩ := attempting_eq_some attempts
        cases entry <;> cases phase
    · exact fun thread member => ih thread (List.mem_of_mem_eraseIdx member)
    · intro other member id attempts row found
      have here : ∀ row, cfg.world.deliveries.get id = some row → row.unfinished := by
        rcases List.mem_or_eq_of_mem_set member with old | rfl
        · exact ih other old id attempts
        · rcases (attempting_after sole acts attempts).2 with earlier | ⟨read, there, unfinished⟩
          · exact ih thread (List.mem_of_getElem? at_) id earlier
          · intro row found
            rw [there, Option.some.injEq] at found
            rwa [← found]
      have unwritten : ∀ patch, event.query = .updateStatus id patch → answered event →
          ¬patch.status.terminal := by
        intro patch written ok terminal
        exact none_attempting before sole at_ acts written ok terminal other member attempts
      obtain ⟨-, query, next, answer, after, shape, rfl, rfl, answers⟩ := acts_cases acts
      rcases answers.elim with ⟨rfl, rfl⟩ | ⟨error, -, -, rfl⟩
      · rcases deliveries_served found with same | ⟨-, pending⟩ | ⟨patch, old, same, ok, -, rfl⟩
        · exact here row same
        · rw [WebhookDeliveryEntity.unfinished, pending]
          rfl
        · have open_ : ¬patch.status.terminal := unwritten patch same ok
          simpa [WebhookDeliveryEntity.unfinished, DeliveryStatusPatch.onto] using open_
      · exact here row found

/-! ## A finished delivery is final -/

theorem conclude_replaying {phase : Phase} (replaying : phase.conclude = .replaying) :
    phase = .replaying := by
  cases phase <;> first | rfl | cases replaying

theorem nextPhase_replaying {phase : Phase} {query : Call}
    {answer : Except Exception (interface.Answer query)}
    (replaying : nextPhase phase query answer = .replaying) : phase = .replaying := by
  cases query with
  | findByEventSub eventId subscriptionId =>
    rcases answer with error | (_ | row)
    · exact replaying
    · exact replaying
    · cases phase with
      | idle => cases replaying
      | _ => exact replaying
  | updateStatus written patch => exact conclude_replaying replaying
  | moveToCompleted jobId token => exact conclude_replaying replaying
  | moveToFailed jobId token => exact conclude_replaying replaying
  | _ => exact replaying

/-- A request replays from its beginning or not at all. -/
theorem reached_replaying {phase : Phase} {past : List (Event (webhooks config))}
    (replaying : conduct.reached phase past = .replaying) : phase = .replaying := by
  induction past with
  | nil => exact replaying
  | cons event past ih => exact ih (nextPhase_replaying replaying)

theorem unreset_unwritten (run : Run (webhooks config) Sole cfg) (unreset : Unreset id cfg move)
    (idle : ∀ thread ∈ cfg.threads, attempting thread ≠ some id) {thread : Thread (webhooks config)}
    {event : Event (webhooks config)} {rest : Request Reply}
    (acts : cfg.acts move = some (thread, event, rest)) (patch : DeliveryStatusPatch) :
    event.query ≠ .updateStatus id patch := by
  intro written
  rcases writes_cases run acts written with ⟨replaying, -⟩ | attempts
  · have replays : thread.entry.replays := by
      have phase := reached_replaying replaying
      cases entry : thread.entry <;> rw [entry] at phase <;> first | rfl | cases phase
    apply unreset.2
    obtain ⟨before, query, answer, after⟩ := event
    dsimp only at written
    subst written
    simp only [Resets, acts]
    exact ⟨trivial, replays⟩
  · exact idle thread (acts_cases acts).1 attempts

/-- Nobody is attempting the delivery, which is as it was. -/
structure Rested (row : WebhookDeliveryEntity) (cfg : Interleaving.Config (webhooks config)) :
    Prop where
  idle : ∀ thread ∈ cfg.threads, attempting thread ≠ some row.id
  kept : ∀ now, cfg.world.deliveries.get row.id = some now →
    now.status = row.status ∧ now.attemptCount = row.attemptCount

variable {row : WebhookDeliveryEntity}

/-- A finished delivery stays at rest, unless it is reset. -/
theorem Rested.advance (rested : Rested row cfg) (terminal : row.status.terminal)
    (run : Run (webhooks config) Sole cfg) (sole : Sole cfg move) (unreset : Unreset row.id cfg move)
    (moved : advance move cfg = some cfg') : Rested row cfg' := by
  rcases advance_cases moved with ⟨how, rfl, rfl⟩ | ⟨entry, rfl, rfl⟩ | ⟨index, rfl, rfl⟩ |
    ⟨index, thread, event, rest, at_, acts, rfl⟩
  · exact ⟨rested.idle, fun now found => rested.kept now (deliveries_nudged found)⟩
  · refine ⟨fun thread member attempts => ?_, rested.kept⟩
    rcases List.mem_append.mp member with old | new
    · exact rested.idle thread old attempts
    · rw [List.mem_singleton] at new
      subst new
      obtain ⟨phase, -⟩ := attempting_eq_some attempts
      cases entry <;> cases phase
  · exact ⟨fun thread member => rested.idle thread (List.mem_of_mem_eraseIdx member), rested.kept⟩
  · have unwritten := unreset_unwritten run unreset rested.idle acts
    constructor
    · intro other member attempts
      rcases List.mem_or_eq_of_mem_set member with old | rfl
      · exact rested.idle other old attempts
      · rcases (attempting_after sole acts attempts).2 with earlier | ⟨read, there, unfinished⟩
        · exact rested.idle thread (acts_cases acts).1 earlier
        · rw [WebhookDeliveryEntity.unfinished, (rested.kept read there).1, terminal] at unfinished
          cases unfinished
    · intro now found
      obtain ⟨-, query, next, answer, after, shape, rfl, rfl, answers⟩ := acts_cases acts
      rcases answers.elim with ⟨rfl, rfl⟩ | ⟨error, -, -, rfl⟩
      · rcases deliveries_served found with same | ⟨absent, -⟩ | ⟨patch, old, written, -⟩
        · exact rested.kept now same
        · have present := unreset.1
          rw [absent] at present
          cases present
        · exact absurd written (unwritten patch)
      · exact rested.kept now found

/-- A request is made for a delivery by the one that is attempting it. -/
theorem Rested.finishedForGood {allowed : Interleaving.Config (webhooks config) → Move (webhooks config) → Prop}
    (rested : Rested row cfg) (run : Run (webhooks config) allowed cfg) : FinishedForGood row cfg := by
  refine ⟨rested.kept, fun move thread event rest url rawBody headers acts posted => ?_⟩
  have permitted := ((run.follows (handler_conducts config) thread (acts_cases acts).1).act acts).1
  obtain ⟨member, query, next, answer, after, shape, rfl, -, -⟩ := acts_cases acts
  dsimp only at posted
  subst posted
  exact rested.idle thread member (attempting_of_phase shape rfl permitted)

/-- In every run in which no attempt begins with a finished delivery and none is
finished by one of two attempts at once, a finished delivery is not requested again and
keeps its status and its count of attempts, until a replay resets it. -/
theorem terminal_final (run : Run (webhooks config) Sole cfg)
    (member : row ∈ cfg.world.deliveries.rows) (terminal : row.status.terminal)
    (later : Onward (webhooks config) (fun cfg move => Sole cfg move ∧ Unreset row.id cfg move) cfg
      cfg') : FinishedForGood row cfg' := by
  have rested : Rested row cfg' := by
    induction later with
    | here =>
      have there := Table.get_of_mem member
      constructor
      · intro thread among attempts
        have unfinished := unfinished_while_attempted run thread among row.id attempts row there
        rw [WebhookDeliveryEntity.unfinished, terminal] at unfinished
        cases unfinished
      · intro now found
        rw [there, Option.some.injEq] at found
        rw [found]
        exact ⟨rfl, rfl⟩
    | step later permitted moved ih =>
      have run' := run.onward later fun _ _ both => both.1
      exact ih.advance terminal run' permitted.1 permitted.2 moved
  exact rested.finishedForGood (run.onward later fun _ _ both => both.1)

/-- The fan-out, and an execution up to the status that it writes. -/
def delivered : List (Move (webhooks defaults)) :=
  fannedOut 200 ++ turns 0 1 ++ [.arrive (.work "e1--s1" "w1")] ++ turns 1 13

/-- The report of the execution, another one that gets no job, and a reconciliation. -/
def reported : List (Move (webhooks defaults)) :=
  turns 1 1 ++ [.arrive (.work "e1--s1" "w2"), .turn 2, .arrive .reconcile] ++ turns 3 3

/-- A delivery that has succeeded, a job that is run again for nothing and a pass of the
reconciliation. -/
theorem terminal_final_succeeded : ∃ cfg last : Interleaving.Config (webhooks defaults),
    Run (webhooks defaults) Sole cfg ∧ ∃ row ∈ cfg.world.deliveries.rows,
      Onward (webhooks defaults) (fun cfg move => Sole cfg move ∧ Unreset row.id cfg move) cfg last ∧
      ∃ now, last.world.deliveries.get row.id = some now ∧ now.status = .SUCCEEDED ∧ FinishedForGood row last := by
  obtain ⟨cfg, run, shown⟩ := exists_played Sole delivered
    (fun cfg => cfg.world.deliveries.rows.any fun row => row.status = .SUCCEEDED &&
      (play (fun cfg move => Sole cfg move ∧ Unreset row.id cfg move) reported cfg).any fun last =>
        (last.world.deliveries.get row.id).isSome)
    (by decide +kernel)
  obtain ⟨row, member, shown⟩ := List.any_eq_true.mp shown
  obtain ⟨succeeded, played⟩ := Bool.and_eq_true_iff.mp shown
  obtain ⟨last, ends, present⟩ := (Option.any_eq_true _ _).mp played
  have status : row.status = .SUCCEEDED := by simpa using succeeded
  have finished := terminal_final run member (by rw [status]; rfl) (Onward.here.play ends)
  obtain ⟨now, there⟩ := Option.isSome_iff_exists.mp present
  exact ⟨cfg, last, run, row, member, Onward.here.play ends, now, there,
    (finished.kept now there).1.trans status, finished⟩

/-- A crash before the report, and a second execution up to its request. -/
def rerun : List (Move (webhooks defaults)) :=
  [.crash 1, .nudge (.stall "e1--s1"), .arrive (.work "e1--s1" "w2")] ++ turns 1 7

/-- The next step of the second execution is the request of the delivery. -/
def reposts (row : WebhookDeliveryEntity) (last : Interleaving.Config (webhooks defaults)) : Bool :=
  match last.acts (.turn 1) with
  | some (_, ⟨_, .post (some id) _ _ _, _, _⟩, _) => id = row.id
  | _ => false

/-- The process dies after it has written SUCCEEDED; its job is run again, and about to
make the request a second time. -/
theorem posted_again : ¬∀ (cfg cfg' : Interleaving.Config (webhooks defaults))
    (row : WebhookDeliveryEntity), Reachable (webhooks defaults) cfg →
      row ∈ cfg.world.deliveries.rows → row.status.terminal →
      Onward (webhooks defaults) (Unreset row.id) cfg cfg' → FinishedForGood row cfg' := by
  intro always
  obtain ⟨cfg, run, shown⟩ := exists_played (fun _ _ => True) delivered
    (fun cfg => cfg.world.deliveries.rows.any fun row => row.status = .SUCCEEDED &&
      (play (Unreset row.id) rerun cfg).any (reposts row))
    (by decide +kernel)
  obtain ⟨row, member, shown⟩ := List.any_eq_true.mp shown
  obtain ⟨succeeded, played⟩ := Bool.and_eq_true_iff.mp shown
  obtain ⟨last, ends, posts⟩ := (Option.any_eq_true _ _).mp played
  have status : row.status = .SUCCEEDED := by simpa using succeeded
  have finished := always cfg last row run member (by rw [status]; rfl) (Onward.here.play ends)
  unfold reposts at posts
  split at posts
  · rename_i thread before id url rawBody headers answer after rest acts
    rw [decide_eq_true_eq] at posts
    subst posts
    exact finished.unposted _ _ _ _ _ _ _ acts rfl
  · cases posts

end ParentalCoord.Webhooks

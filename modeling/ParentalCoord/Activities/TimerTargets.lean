import ParentalCoord.Activities.EffectiveTimers

/-!
What the jobs of a row are delayed for.

A version of a row is written by one request, and the wiring that follows reads the clock
once.  So all the jobs of a version are asked for at one reading of the clock, and each is
delayed, from the moment that Redis adds it, for what was left then until its target.
-/

namespace ParentalCoord.Activities

open Interleaving Store

variable {config : Config} {cfg cfg' : Interleaving.Config (activities config)}
  {move : Move (activities config)} {moments : List (Moment (activities config))}
  {thread : Thread (activities config)} {event : Event (activities config)} {rest : Request Reply}
  {world world' : World} {entity row : ActivityEntity} {data : ActivityTimerJobData} {delay : ℤ}
  {phase : Wiring} {query : Call} {answer : Except Exception (interface.Answer query)}
  {now target : Instant} {previousVersion : Option ℕ}

/-! ## Each version is wired once -/

/-- The version of a row that the wiring is of. -/
def Wiring.wires : Wiring → Option (Uuid × ℕ)
  | .idle => none
  | .committed entity _ | .firing entity _ _ _ => some (entity.id, entity.version)

/-- A request that has written the row fires for it, having read the clock as `now`. -/
def ClockedAt (moments : List (Moment (activities config))) (entity : ActivityEntity) (now : Instant) : Prop :=
  ∃ moment ∈ moments, ∃ thread event rest, moment.1.acts moment.2 = some (thread, event, rest) ∧
    ∃ previousVersion mutations, wiringOf (event :: thread.past) = .firing entity previousVersion now mutations

theorem Wired.clockedAt (wired : Wired moments row previousVersion now) : ClockedAt moments row now := by
  obtain ⟨moment, member, thread, event, rest, acts, ended⟩ := wired
  exact ⟨moment, member, thread, event, rest, acts, previousVersion, [], ended⟩

theorem ClockedAt.onward (clocked : ClockedAt moments entity now)
    (newer : List (Moment (activities config))) : ClockedAt (newer ++ moments) entity now := by
  obtain ⟨moment, member, rest⟩ := clocked
  exact ⟨moment, List.mem_append_right _ member, rest⟩

theorem clockedAt_cases (clocked : ClockedAt ((cfg, move) :: moments) entity now) :
    ClockedAt moments entity now ∨ ∃ thread event rest, cfg.acts move = some (thread, event, rest) ∧
      ∃ previousVersion mutations,
        wiringOf (event :: thread.past) = .firing entity previousVersion now mutations := by
  obtain ⟨moment, member, thread, event, rest, acts, fires⟩ := clocked
  rcases List.mem_cons.mp member with rfl | earlier
  · exact .inr ⟨thread, event, rest, acts, fires⟩
  · exact .inl ⟨moment, earlier, thread, event, rest, acts, fires⟩

/-- A call ends a wiring, or begins that of a version that was not written before, or reads the
clock for a version that is written, or fires one of its mutations. -/
inductive WiringStep (world : World) (phase : Wiring) (query : Call)
    (answer : Except Exception (interface.Answer query)) : Prop where
  | idle (idles : phase.next query answer = .idle)
  | writes {entity : ActivityEntity} {previousVersion : Option ℕ}
      (committed : phase.next query answer = .committed entity previousVersion)
      (fresh : ∀ other, Written world other → other.id = entity.id → other.version < entity.version)
  | clocks {entity : ActivityEntity} {previousVersion : Option ℕ} (from_ : phase = .committed entity previousVersion)
      (asks : query = .now) (firing : phase.next query answer =
        .firing entity previousVersion world.clock (timerMutations entity previousVersion world.clock))
  | fires {entity : ActivityEntity} {previousVersion : Option ℕ} {now : Instant} {mutation : QueueMutation}
      {mutations : List QueueMutation}
      (from_ : phase = .firing entity previousVersion now (mutation :: mutations))
      (asks : query = .fire mutation)
      (firing : phase.next query answer = .firing entity previousVersion now mutations)

/-- What is written is newer than all versions of the row that were. -/
theorem wiringStep_of_open (answers : Answers (activities config) query world answer world')
    (open_ : phase.Open) : WiringStep world phase query answer := by
  rcases answers.elim with ⟨rfl, rfl⟩ | ⟨error, -, rfl, rfl⟩
  · cases query with
    | applyTransition input =>
      rcases applyTransition_cases input world with missed | ⟨old, found, -, -, -, written⟩
      · exact .idle (by simp only [serve, missed]; rfl)
      · have committed : phase.next (.applyTransition input) (serve (.applyTransition input) world).1 =
            .committed (input.saved old) (some input.expectedVersion) := by
          simp only [serve, written]
          rfl
        refine .writes committed ?_
        rintro other ⟨present, there, order⟩ same
        have own : old.id = input.id := Table.key_of_get found
        rw [same, show (input.saved old).id = input.id from own, found] at there
        cases there
        have newer : (input.saved old).version = old.version + 1 := rfl
        rcases order with rfl | older <;> omega
    | insertActivity input childrenIds =>
      cases accepted : world.activities.insert (input.saved world.freshId) with
      | none => exact .idle (by simp only [serve, insertActivity, accepted]; rfl)
      | some table =>
        have committed : phase.next (.insertActivity input childrenIds)
            (serve (.insertActivity input childrenIds) world).1 =
              .committed (input.saved world.freshId) none := by
          simp only [serve, insertActivity, accepted]
          rfl
        refine .writes committed ?_
        rintro other ⟨present, there, -⟩ same
        rw [same, (Table.get_insert accepted).1] at there
        cases there
    | fire mutation =>
      cases phase with
      | idle => exact .idle rfl
      | committed entity previousVersion => exact open_.elim
      | firing entity previousVersion now mutations =>
        obtain rfl : mutations = [] := open_
        exact .idle rfl
    | now =>
      cases phase with
      | idle => exact .idle rfl
      | committed entity previousVersion => exact open_.elim
      | firing entity previousVersion now mutations => exact .idle rfl
    | _ => exact .idle rfl
  · exact .idle (by cases query <;> rfl)

theorem wiringStep (permitted : phase.permits query)
    (answers : Answers (activities config) query world answer world') :
    WiringStep world phase query answer := by
  cases phase with
  | idle => exact wiringStep_of_open answers trivial
  | committed entity previousVersion =>
    cases permitted
    obtain ⟨rfl, rfl⟩ := served_of_answers answers rfl
    exact .clocks rfl rfl rfl
  | firing entity previousVersion now mutations =>
    cases mutations with
    | nil => exact wiringStep_of_open answers rfl
    | cons mutation mutations =>
      cases permitted
      obtain ⟨rfl, rfl⟩ := served_of_answers answers rfl
      exact .fires rfl rfl rfl

/-- No two of the threads wire the same version of a row. -/
def WireApart (threads : List (Thread (activities config))) : Prop :=
  ∀ (i j : ℕ) (first second : Thread (activities config)) (version : Uuid × ℕ),
    threads[i]? = some first → threads[j]? = some second →
    (wiringOf first.past).wires = some version → (wiringOf second.past).wires = some version → i = j

theorem WireApart.arrive {threads : List (Thread (activities config))} (apart : WireApart threads) (entry : Entry) :
    WireApart (threads ++ [Thread.begin (activities config) entry]) := by
  intro i j first second version at_ at_' wires wires'
  have old {k : ℕ} {other : Thread (activities config)}
      (at_ : (threads ++ [Thread.begin (activities config) entry])[k]? = some other)
      (wires : (wiringOf other.past).wires = some version) : threads[k]? = some other := by
    rw [List.getElem?_append] at at_
    split at at_
    · exact at_
    · rw [List.mem_singleton.mp (List.mem_of_getElem? at_)] at wires
      cases wires
  exact apart i j first second version (old at_ wires) (old at_' wires') wires wires'

theorem WireApart.crash {threads : List (Thread (activities config))} (apart : WireApart threads) (index : ℕ) :
    WireApart (threads.eraseIdx index) := by
  intro i j first second version at_ at_' wires wires'
  rw [List.getElem?_eraseIdx] at at_ at_'
  split at at_ <;> split at at_' <;> have same := apart _ _ first second version at_ at_' wires wires' <;> omega

theorem WireApart.set {threads : List (Thread (activities config))} (apart : WireApart threads) {index : ℕ}
    {old new : Thread (activities config)} (at_ : threads[index]? = some old)
    (owned : ∀ version, (wiringOf new.past).wires = some version →
      (wiringOf old.past).wires = some version ∨
        ∀ other ∈ threads, (wiringOf other.past).wires ≠ some version) :
    WireApart (threads.set index new) := by
  have bound := (List.getElem?_eq_some_iff.mp at_).1
  -- A version that the new thread wires is its own, or nobody's.
  have mine {k : ℕ} {other : Thread (activities config)} {version : Uuid × ℕ} (there : threads[k]? = some other)
      (wires : (wiringOf other.past).wires = some version)
      (wires' : (wiringOf new.past).wires = some version) : k = index := by
    rcases owned version wires' with held | nobody
    · exact apart k index other old version there at_ wires held
    · exact absurd wires (nobody other (List.mem_of_getElem? there))
  intro i j first second version first_ second_ wires wires'
  rw [List.getElem?_set] at first_ second_
  by_cases here : index = i <;> by_cases here' : index = j
  · exact here.symm.trans here'
  · rw [if_pos here, if_pos (here ▸ bound)] at first_
    rw [if_neg here'] at second_
    cases first_
    exact here.symm.trans (mine second_ wires' wires).symm
  · rw [if_neg here] at first_
    rw [if_pos here', if_pos (here' ▸ bound)] at second_
    cases second_
    exact (mine first_ wires wires').trans here'
  · rw [if_neg here] at first_
    rw [if_neg here'] at second_
    exact apart i j first second version first_ second_ wires wires'

/-- A thread that is to read the clock has not written the version that another one fires for. -/
theorem WireApart.version_ne {threads : List (Thread (activities config))} (apart : WireApart threads)
    {first second : Thread (activities config)} (member : first ∈ threads) (member' : second ∈ threads)
    {other : ActivityEntity} {mutations : List QueueMutation} {otherVersion : Option ℕ}
    (committed : wiringOf first.past = .committed entity previousVersion)
    (fires : wiringOf second.past = .firing other otherVersion now mutations) (same : other.id = entity.id) :
    other.version ≠ entity.version := by
  intro versions
  obtain ⟨i, at_⟩ := List.mem_iff_getElem?.mp member
  obtain ⟨j, at_'⟩ := List.mem_iff_getElem?.mp member'
  have wires : (wiringOf second.past).wires = some (entity.id, entity.version) := by
    rw [fires, Wiring.wires, same, versions]
  obtain rfl := apart i j first second _ at_ at_' (by rw [committed]; rfl) wires
  cases at_.symm.trans at_'
  cases committed.symm.trans fires

/-- Each version of a row has one wiring, and one reading of the clock for it. -/
structure WiredOnce (moments : List (Moment (activities config)))
    (cfg : Interleaving.Config (activities config)) : Prop where
  apart : WireApart cfg.threads
  before : ∀ thread ∈ cfg.threads, ∀ entity previousVersion,
    wiringOf thread.past = .committed entity previousVersion →
    ∀ other now, ClockedAt moments other now → other.id = entity.id → other.version ≠ entity.version
  clocked : ∀ thread ∈ cfg.threads, ∀ entity previousVersion now mutations,
    wiringOf thread.past = .firing entity previousVersion now mutations → ClockedAt moments entity now
  written : ∀ entity now, ClockedAt moments entity now → Written cfg.world entity
  once : ∀ entity other now now', ClockedAt moments entity now → ClockedAt moments other now' →
    other.id = entity.id → other.version = entity.version → now' = now

/-- What a thread wires was written. -/
theorem Underway.written {version : Uuid × ℕ} (underway : Underway moments world phase)
    (wires : phase.wires = some version) :
    ∃ entity, Written world entity ∧ (entity.id, entity.version) = version := by
  cases phase with
  | idle => cases wires
  | committed entity previousVersion => exact ⟨entity, underway.1, Option.some.inj wires⟩
  | firing entity previousVersion now mutations => exact ⟨entity, underway.1, Option.some.inj wires⟩

theorem WiredOnce.unclocked (once : WiredOnce moments cfg) (later : Later cfg.world cfg'.world)
    (apart : WireApart cfg'.threads) (threads : ∀ thread ∈ cfg'.threads, thread ∈ cfg.threads ∨ thread.past = [])
    (quiet : cfg.acts move = none) : WiredOnce ((cfg, move) :: moments) cfg' := by
  have earlier {entity : ActivityEntity} {now : Instant} (clocked : ClockedAt ((cfg, move) :: moments) entity now) :
      ClockedAt moments entity now := by
    rcases clockedAt_cases clocked with known | ⟨_, _, _, acts, -⟩
    · exact known
    · cases quiet.symm.trans acts
  refine ⟨apart, fun thread member entity previousVersion committed other now clocked => ?_,
    fun thread member entity previousVersion now mutations fires => ?_,
    fun entity now clocked => (once.written entity now (earlier clocked)).later later,
    fun entity other now now' clocked clocked' => once.once entity other now now' (earlier clocked) (earlier clocked')⟩
  · rcases threads thread member with old | new
    · exact once.before thread old entity previousVersion committed other now (earlier clocked)
    · rw [new] at committed
      cases committed
  · rcases threads thread member with old | new
    · exact (once.clocked thread old entity previousVersion now mutations fires).onward [(cfg, move)]
    · rw [new] at fires
      cases fires

/-- A reading of the clock that is new is the acting thread's, for the version it has written. -/
theorem WiredOnce.reads (once : WiredOnce moments cfg) (member : thread ∈ cfg.threads)
    (step : WiringStep cfg.world (wiringOf thread.past) query answer) {mutations : List QueueMutation}
    (fires : (wiringOf thread.past).next query answer = .firing entity previousVersion now mutations) :
    ClockedAt moments entity now ∨ wiringOf thread.past = .committed entity previousVersion := by
  cases step with
  | idle idles => cases idles.symm.trans fires
  | writes committed => cases committed.symm.trans fires
  | clocks from_ asks firing =>
    cases firing.symm.trans fires
    exact .inr from_
  | fires from_ asks firing =>
    cases firing.symm.trans fires
    exact .inl (once.clocked thread member _ _ _ _ from_)

theorem WireApart.act {index : ℕ} {after : World} (apart : WireApart cfg.threads)
    (at_ : cfg.threads[index]? = some thread)
    (threads : ∀ thread ∈ cfg.threads, Underway moments cfg.world (wiringOf thread.past))
    (step : WiringStep cfg.world (wiringOf thread.past) query answer) :
    WireApart (cfg.threads.set index (thread.after ⟨cfg.world, query, answer, after⟩ rest)) := by
  refine apart.set at_ fun version wires => ?_
  change ((wiringOf thread.past).next query answer).wires = some version at wires
  cases step with
  | idle idles =>
    rw [idles] at wires
    cases wires
  | writes committed fresh =>
    rw [committed] at wires
    cases wires
    refine .inr fun other among held => ?_
    obtain ⟨earlier, written, same⟩ := (threads other among).written held
    obtain ⟨ids, versions⟩ := Prod.mk.inj same
    exact absurd versions (fresh earlier written ids).ne
  | clocks from_ asks firing =>
    rw [firing] at wires
    rw [from_]
    exact .inl wires
  | fires from_ asks firing =>
    rw [firing] at wires
    rw [from_]
    exact .inl wires

theorem WiredOnce.act {index : ℕ} (once : WiredOnce moments cfg)
    (chronicle : Chronicle (activities config) Accepting moments cfg)
    (acts : cfg.acts move = some (thread, event, rest)) (at_ : cfg.threads[index]? = some thread)
    (later : Later cfg.world event.after)
    (after : ∀ other ∈ cfg.threads.set index (thread.after event rest),
      Underway ((cfg, move) :: moments) event.after (wiringOf other.past)) :
    WiredOnce ((cfg, move) :: moments) ⟨event.after, cfg.threads.set index (thread.after event rest)⟩ := by
  have permitted := wiring_permits chronicle.run acts
  have threads := (wirings_hold chronicle).threads
  have member := List.mem_of_getElem? at_
  have bound := (List.getElem?_eq_some_iff.mp at_).1
  have mine := after (thread.after event rest) (List.mem_set bound _)
  obtain ⟨-, query, next, answer, world, -, rfl, rfl, answers⟩ := acts_cases acts
  have step := wiringStep permitted answers
  have apart : WireApart (cfg.threads.set index (thread.after ⟨cfg.world, query, answer, world⟩ (next answer))) :=
    once.apart.act at_ threads step
  change Underway _ world ((wiringOf thread.past).next query answer) at mine
  -- A reading of the clock is one of before, or this thread's.
  have clocked {entity : ActivityEntity} {now : Instant} (clocked : ClockedAt ((cfg, move) :: moments) entity now) :
      ClockedAt moments entity now ∨ ∃ previousVersion mutations,
        (wiringOf thread.past).next query answer = .firing entity previousVersion now mutations := by
    refine (clockedAt_cases clocked).imp_right fun ⟨other, event, rest, same, previousVersion, mutations, fires⟩ => ?_
    cases acts.symm.trans same
    exact ⟨previousVersion, mutations, fires⟩
  refine ⟨apart, fun other among entity previousVersion committed earlier now read same => ?_,
    fun other among entity previousVersion now mutations fires => ?_, fun entity now read => ?_,
    fun entity other now now' read read' ids versions => ?_⟩
  · rcases clocked read with known | ⟨previous, mutations, fires⟩
    · rcases List.mem_or_eq_of_mem_set among with old | rfl
      · exact once.before other old entity previousVersion committed earlier now known same
      · change (wiringOf thread.past).next query answer = .committed entity previousVersion at committed
        cases step with
        | idle idles => cases idles.symm.trans committed
        | clocks from_ asks firing => cases firing.symm.trans committed
        | fires from_ asks firing => cases firing.symm.trans committed
        | writes wrote fresh =>
          cases wrote.symm.trans committed
          exact (fresh earlier (once.written earlier now known) same).ne
    · exact apart.version_ne among (List.mem_set bound _) committed fires same
  · rcases List.mem_or_eq_of_mem_set among with old | rfl
    · exact (once.clocked other old entity previousVersion now mutations fires).onward [(cfg, move)]
    · exact ⟨(cfg, move), List.mem_cons_self, thread, _, _, acts, previousVersion, mutations, fires⟩
  · rcases clocked read with known | ⟨previousVersion, mutations, fires⟩
    · exact (once.written entity now known).later later
    · rw [fires] at mine
      exact mine.1
  · rcases clocked read with known | ⟨previous, mutations, fires⟩ <;>
      rcases clocked read' with known' | ⟨previous', mutations', fires'⟩
    · exact once.once entity other now now' known known' ids versions
    · rcases once.reads member step fires' with known' | committed
      · exact once.once entity other now now' known known' ids versions
      · exact absurd versions.symm (once.before thread member other previous' committed entity now known ids.symm)
    · rcases once.reads member step fires with known | committed
      · exact once.once entity other now now' known known' ids versions
      · exact absurd versions (once.before thread member entity previous committed other now' known' ids)
    · cases fires.symm.trans fires'
      rfl

theorem wiredOnce (chronicle : Chronicle (activities config) Accepting moments cfg) : WiredOnce moments cfg := by
  induction chronicle with
  | start =>
    have never {entity : ActivityEntity} {now : Instant} :
        ¬ClockedAt ([] : List (Moment (activities config))) entity now := by
      rintro ⟨moment, member, -⟩
      cases member
    exact ⟨fun i j first second version at_ => (by cases at_), List.forall_mem_nil _, List.forall_mem_nil _,
      fun _ _ clocked => absurd clocked never, fun _ _ _ _ clocked => absurd clocked never⟩
  | @step moments cfg cfg' move before accepted moved ih =>
    have later := later_of_step before.run accepted moved
    have after := wirings_hold (before.step accepted moved)
    rcases advance_cases moved with ⟨how, rfl, rfl⟩ | ⟨entry, rfl, rfl⟩ | ⟨index, rfl, rfl⟩ |
      ⟨index, thread, event, rest, at_, acts, rfl⟩
    · exact ih.unclocked later ih.apart (fun _ member => .inl member) rfl
    · refine ih.unclocked later (ih.apart.arrive entry) (fun thread member => ?_) rfl
      exact (List.mem_append.mp member).imp_right fun new => by rw [List.mem_singleton.mp new]; rfl
    · exact ih.unclocked later (ih.apart.crash index) (fun _ member => .inl (List.mem_of_mem_eraseIdx member)) rfl
    · exact ih.act before acts at_ later after.threads

/-! ## What a job waits for -/

/-- The job is for a target of a version that was written, and was asked for when the clock showed
`now`. -/
def AskedFor (moments : List (Moment (activities config))) (data : ActivityTimerJobData)
    (target now : Instant) : Prop :=
  ∃ entity, ClockedAt moments entity now ∧ data = ⟨entity.id, entity.version, data.kind⟩ ∧
    timerTarget data.kind entity = some target

/-- Redis has added the job at a moment of the run, and has it wait from then for as long as it was
to the target when the clock showed `now`, which was not later. -/
def DelayedFor (moments : List (Moment (activities config))) (job : TimerJob) (target now : Instant) : Prop :=
  ∃ moment ∈ moments, ∃ index delay, moment.2 = .nudge (.settle index) ∧
    (World.firing moment.1.world)[index]? = some (.add job.data delay) ∧ delay = max 0 (target - now) ∧
    now ≤ World.clock moment.1.world ∧ job.runAt = World.clock moment.1.world + delay

theorem DelayedFor.le {job : TimerJob} (delayed : DelayedFor moments job target now) : target ≤ job.runAt := by
  obtain ⟨moment, -, index, delay, -, -, rfl, before, same⟩ := delayed
  rw [same]
  exact le_add_computeDelayMs before

/-- Every job, queued or on its way, waits for its target. -/
structure Aimed (moments : List (Moment (activities config))) (world : World) : Prop where
  flying : ∀ data delay, .add data delay ∈ world.firing → ∃ target now, AskedFor moments data target now ∧
    delay = max 0 (target - now) ∧ now ≤ world.clock
  jobs : ∀ job ∈ world.timers.rows, ∃ target now, AskedFor moments job.data target now ∧
    DelayedFor moments job target now

theorem AskedFor.onward (asked : AskedFor moments data target now) (newer : List (Moment (activities config))) :
    AskedFor (newer ++ moments) data target now := by
  obtain ⟨entity, clocked, rest⟩ := asked
  exact ⟨entity, clocked.onward newer, rest⟩

theorem DelayedFor.onward {job : TimerJob} (delayed : DelayedFor moments job target now)
    (newer : List (Moment (activities config))) : DelayedFor (newer ++ moments) job target now := by
  obtain ⟨moment, member, rest⟩ := delayed
  exact ⟨moment, List.mem_append_right _ member, rest⟩

theorem Aimed.onward (aimed : Aimed moments world) (newer : List (Moment (activities config)))
    (clock : world.clock ≤ world'.clock)
    (firing : ∀ data delay, .add data delay ∈ world'.firing → .add data delay ∈ world.firing ∨
      ∃ target now, AskedFor (newer ++ moments) data target now ∧ delay = max 0 (target - now) ∧
        now ≤ world'.clock)
    (timers : ∀ job ∈ world'.timers.rows, job ∈ world.timers.rows ∨
      ∃ target now, AskedFor (newer ++ moments) job.data target now ∧
        DelayedFor (newer ++ moments) job target now) : Aimed (newer ++ moments) world' where
  flying data delay member := by
    rcases firing data delay member with old | new
    · obtain ⟨target, now, asked, same, before⟩ := aimed.flying data delay old
      exact ⟨target, now, asked.onward newer, same, before.trans clock⟩
    · exact new
  jobs job member := by
    rcases timers job member with old | new
    · obtain ⟨target, now, asked, delayed⟩ := aimed.jobs job old
      exact ⟨target, now, asked.onward newer, delayed.onward newer⟩
    · exact new

theorem Aimed.nudge {how : Nudge} (aimed : Aimed moments cfg.world)
    (clock : cfg.world.clock ≤ (Activities.nudge how cfg.world).clock) :
    Aimed ((cfg, .nudge how) :: moments) (Activities.nudge how cfg.world) := by
  refine aimed.onward [(cfg, .nudge how)] clock (fun data delay member => .inl ?_) fun job member => ?_
  · cases how with
    | settle index =>
      simp only [Activities.nudge] at member
      split at member
      · rw [settle_firing] at member
        exact List.mem_of_mem_eraseIdx member
      · exact member
    | lose index => exact List.mem_of_mem_eraseIdx member
    | _ => exact member
  · cases how with
    | settle index =>
      simp only [Activities.nudge] at member
      split at member
      · rename_i mutation at_
        rcases mem_settle member with old | ⟨delay, rfl, runAt⟩
        · exact .inl old
        · obtain ⟨target, now, asked, same, before⟩ := aimed.flying job.data delay (List.mem_of_getElem? at_)
          exact .inr ⟨target, now, asked.onward [(cfg, .nudge (.settle index))],
            (cfg, .nudge (.settle index)), List.mem_cons_self, index, delay, rfl, at_, same, before, runAt⟩
      · exact .inl member
    | drop jobId => exact .inl (List.mem_of_mem_filter member)
    | _ => exact .inl member

/-- A job that the mutations of a row add is one of its version, for its target. -/
theorem add_mem_timerMutations (member : .add data delay ∈ timerMutations entity previousVersion now) :
    data = ⟨entity.id, entity.version, data.kind⟩ ∧ ∃ target, timerTarget data.kind entity = some target ∧
      delay = computeDelayMs target now := by
  obtain ⟨op, -, made⟩ := List.mem_filterMap.mp member
  cases action : op.action with
  | cancel =>
    simp only [action] at made
    obtain ⟨version, -, removes⟩ := Option.map_eq_some_iff.mp made
    cases removes
  | enqueue =>
    simp only [action] at made
    cases aim : timerTarget op.kind entity with
    | none => simp [aim] at made
    | some target =>
      simp only [aim] at made
      split at made
      · cases made
      · cases made
        exact ⟨rfl, target, aim, rfl⟩

/-- A thread that fires a job asks for it at the reading of its wiring. -/
theorem askedFor_of_fire (once : WiredOnce moments cfg) (member : thread ∈ cfg.threads)
    (underway : Underway moments cfg.world (wiringOf thread.past))
    (permitted : (wiringOf thread.past).permits (.fire (.add data delay))) :
    ∃ target now, AskedFor moments data target now ∧ delay = max 0 (target - now) ∧ now ≤ cfg.world.clock := by
  cases shape : wiringOf thread.past with
  | idle =>
    rw [shape] at permitted
    exact absurd rfl (permitted (.add data delay))
  | committed entity previousVersion =>
    rw [shape] at permitted
    cases permitted
  | firing entity previousVersion now mutations =>
    rw [shape] at permitted underway
    cases mutations with
    | nil => exact absurd rfl (permitted (.add data delay))
    | cons mutation mutations =>
      cases permitted
      obtain ⟨-, -, clock, part, -⟩ := underway
      obtain ⟨same, target, aim, delayed⟩ := add_mem_timerMutations (part List.mem_cons_self)
      exact ⟨target, now, ⟨entity, once.clocked thread member _ _ _ _ shape, same, aim⟩, delayed, clock⟩

theorem aimed (chronicle : Chronicle (activities config) Accepting moments cfg) : Aimed moments cfg.world := by
  induction chronicle with
  | start => exact ⟨nofun, nofun⟩
  | @step moments cfg cfg' move before accepted moved ih =>
    have clock := (later_of_step before.run accepted moved).clock
    rcases advance_cases moved with ⟨how, rfl, rfl⟩ | ⟨entry, rfl, rfl⟩ | ⟨index, rfl, rfl⟩ |
      ⟨index, thread, event, rest, at_, acts, rfl⟩
    · exact ih.nudge clock
    · exact ih.onward [(cfg, .arrive entry)] clock (fun _ _ => .inl) fun _ => .inl
    · exact ih.onward [(cfg, .crash index)] clock (fun _ _ => .inl) fun _ => .inl
    · have permitted := wiring_permits before.run acts
      have member := (acts_cases acts).1
      have underway := (wirings_hold before).threads thread member
      obtain ⟨-, query, next, answer, after, -, rfl, -, answers⟩ := acts_cases acts
      obtain ⟨timers, firing⟩ := queue_of_answers answers
      refine ih.onward [(cfg, move)] clock (fun data delay there => ?_) fun job there => .inl (timers ▸ there)
      rcases firing with same | ⟨mutation, rfl, rfl⟩
      · exact .inl (same ▸ there)
      · rcases List.mem_append.mp there with old | new
        · exact .inl old
        · obtain rfl := List.mem_singleton.mp new
          obtain ⟨target, now, asked, same, past⟩ := askedFor_of_fire (wiredOnce before) member underway permitted
          exact .inr ⟨target, now, asked.onward [(cfg, move)], same, past⟩

/-- A job of the version that a row has is for the target that its wiring saw. -/
theorem delayed_for (chronicle : Chronicle (activities config) Accepting moments cfg)
    (found : cfg.world.activities.get row.id = some row) (wired : Wired moments row previousVersion now)
    {job : TimerJob} (queued : job ∈ cfg.world.timers.rows) {kind : TimerKind}
    (same : job.data = ⟨row.id, row.version, kind⟩) (aim : timerTarget kind row = some target) :
    DelayedFor moments job target now := by
  obtain ⟨target', now', ⟨entity, clocked, made, aim'⟩, delayed⟩ := (aimed chronicle).jobs job queued
  have once := wiredOnce chronicle
  obtain ⟨ids, versions, -⟩ := ActivityTimerJobData.mk.inj (made.symm.trans same)
  obtain rfl : row = entity := (once.written entity now' clocked).eq (ids ▸ found) versions
  obtain rfl := once.once row row now now' wired.clockedAt clocked rfl rfl
  rw [same, aim, Option.some.injEq] at aim'
  rwa [aim']

/-! ## Requests that have ended -/

/-- The event writes the row, over its previous version where there was one. -/
def WritesRow : Event (activities config) → ActivityEntity → Option ℕ → Prop
  | ⟨_, .applyTransition input, .ok (some updated), _⟩, entity, previousVersion =>
      entity = updated ∧ previousVersion = some input.expectedVersion
  | ⟨_, .insertActivity _ _, .ok activity, _⟩, entity, previousVersion =>
      entity = activity ∧ previousVersion = none
  | _, _, _ => False

theorem committed_of_writes (writes : WritesRow event entity previousVersion) :
    phase.next event.query event.answer = .committed entity previousVersion := by
  obtain ⟨before, query, answer, after⟩ := event
  cases query with
  | applyTransition input =>
    rcases answer with _ | _ | updated
    · exact writes.elim
    · exact writes.elim
    · obtain ⟨rfl, rfl⟩ := writes
      rfl
  | insertActivity input childrenIds =>
    rcases answer with _ | activity
    · exact writes.elim
    · obtain ⟨rfl, rfl⟩ := writes
      rfl
  | _ => exact writes.elim

/-- What the thread has written is wired, or is what it is wiring now. -/
def WiresAll (moments : List (Moment (activities config))) (thread : Thread (activities config)) : Prop :=
  ∀ event ∈ thread.past, ∀ entity previousVersion, WritesRow event entity previousVersion →
    (∃ now, Wired moments entity previousVersion now) ∨
      wiringOf thread.past = .committed entity previousVersion ∨ ∃ now mutation mutations,
        wiringOf thread.past = .firing entity previousVersion now (mutation :: mutations)

theorem WiresAll.act (wires : WiresAll moments thread) (acts : cfg.acts move = some (thread, event, rest))
    (permitted : (wiringOf thread.past).permits event.query) :
    WiresAll ((cfg, move) :: moments) (thread.after event rest) := by
  obtain ⟨-, query, next, answer, world, -, rfl, rfl, answers⟩ := acts_cases acts
  -- What the thread comes to is complete, or more of it is to be fired.
  have fired {entity : ActivityEntity} {previousVersion : Option ℕ} (now : Instant) {mutations : List QueueMutation}
      (firing : (wiringOf thread.past).next query answer = .firing entity previousVersion now mutations) :
      (∃ now, Wired ((cfg, move) :: moments) entity previousVersion now) ∨
        (wiringOf thread.past).next query answer = .committed entity previousVersion ∨ ∃ now mutation mutations,
          (wiringOf thread.past).next query answer =
            .firing entity previousVersion now (mutation :: mutations) := by
    cases mutations with
    | nil => exact .inl ⟨now, (cfg, move), List.mem_cons_self, thread, _, _, acts, firing⟩
    | cons mutation mutations => exact .inr (.inr ⟨now, mutation, mutations, firing⟩)
  intro event happened entity previousVersion writes
  rcases List.mem_cons.mp happened with rfl | earlier
  · exact .inr (.inl (committed_of_writes writes))
  · rcases wires event earlier entity previousVersion writes with ⟨now, moment, known, complete⟩ | committed | fires
    · exact .inl ⟨now, moment, List.mem_cons_of_mem _ known, complete⟩
    · rw [committed] at permitted
      cases permitted
      obtain ⟨rfl, -⟩ := served_of_answers answers rfl
      exact fired cfg.world.clock (by rw [committed]; rfl)
    · obtain ⟨now, mutation, mutations, firing⟩ := fires
      rw [firing] at permitted
      cases permitted
      obtain ⟨rfl, -⟩ := served_of_answers answers rfl
      exact fired now (by rw [firing]; rfl)

/-- A request that has ended has wired all that it has written. -/
theorem wired_of_ended {allowed : Interleaving.Config (activities config) → Move (activities config) → Prop}
    (chronicle : Chronicle (activities config) allowed moments cfg) (member : thread ∈ cfg.threads)
    (ended : ∀ query next, thread.rest ≠ .call query next) (happened : event ∈ thread.past)
    (writes : WritesRow event entity previousVersion) : ∃ now, Wired moments entity previousVersion now := by
  have wires : WiresAll moments thread := by
    clear ended happened
    induction chronicle generalizing thread with
    | start => cases member
    | @step moments cfg cfg' move before accepted moved ih =>
      rcases thread_came moved member with old | ⟨entry, rfl⟩ | ⟨acting, event, rest, acts, -, rfl⟩
      · intro event happened entity previousVersion writes
        refine (ih old event happened entity previousVersion writes).imp_left fun ⟨now, moment, known, complete⟩ => ?_
        exact ⟨now, moment, List.mem_cons_of_mem _ known, complete⟩
      · exact List.forall_mem_nil _
      · exact (ih (acts_cases acts).1).act acts (wiring_permits before.run acts)
  have follows : wiring.Follows (fun _ (after : Wiring) => after.Open) (wiringOf thread.past) thread.rest :=
    chronicle.run.follows (fun entry => handler_wires config entry .idle trivial) thread member
  have open_ : (wiringOf thread.past).Open := by
    cases shape : thread.rest with
    | ret reply => rwa [shape] at follows
    | throw error => rwa [shape] at follows
    | call query next => exact absurd shape (ended query next)
  rcases wires event happened entity previousVersion writes with complete | committed | ⟨now, _, _, firing⟩
  · exact complete
  · rw [committed] at open_
    exact open_.elim
  · rw [firing] at open_
    cases open_

/-! ## Every run -/

/-- **In every run in which Redis accepts what it is told, one timer of an activity counts, and none is
lost.**  At most one queued timer of an activity passes, and one that does not changes nothing.  A
request that has ended has completed the wiring of all that it wrote.  And once the wiring of the present
version of a row that waits is complete, and none of the jobs that it asked for is on its way, the timer
that waits for the row is queued, and was delayed when it was added for as long as it was to the anchor
of the row when that wiring read the clock; or it was taken when the anchor had come. -/
theorem timer_effective (chronicle : Chronicle (activities config) Accepting moments cfg) :
    (∀ job ∈ cfg.world.timers.rows, ∀ job' ∈ cfg.world.timers.rows,
      job.data.activityId = job'.data.activityId → Passes cfg.world job.data →
      Passes cfg.world job'.data → job = job') ∧
    (∀ data, ¬Passes cfg.world data → (handleTimer config data).run serve cfg.world = (.ok (), cfg.world)) ∧
    (∀ thread ∈ cfg.threads, (∀ query next, thread.rest ≠ .call query next) → ∀ event ∈ thread.past,
      ∀ row previousVersion, WritesRow event row previousVersion →
      ∃ now, Wired moments row previousVersion now) ∧
    ∀ id row previousVersion now, cfg.world.activities.get id = some row →
      Wired moments row previousVersion now →
      (∀ data delay, .add data delay ∈ cfg.world.firing →
        ¬(data.activityId = row.id ∧ data.version = row.version)) →
      Awaits row now →
      ∃ kind sources target, expectedSourceFor kind = some sources ∧ row.status ∈ sources ∧
        anchor row = some target ∧
        ((∃ job ∈ cfg.world.timers.rows, job.data = ⟨row.id, row.version, kind⟩ ∧
          DelayedFor moments job target now) ∨
        ∃ time, TakenAt moments (buildTimerJobId kind row.id row.version) time ∧ target ≤ time) := by
  obtain ⟨allFounded, -, wired⟩ := wirings_hold chronicle
  refine ⟨fun job queued job' queued' activity passes passes' =>
    allFounded.one_passes queued queued' activity passes passes',
    fun data => handleTimer_of_not_passes,
    fun thread member ended event happened row previousVersion writes =>
      wired_of_ended chronicle member ended happened writes,
    fun id row previousVersion now found complete landed awaits => ?_⟩
  obtain rfl := Table.key_of_get found
  have reachable := chronicle.run.reachable
  obtain ⟨kind, sources, target, expected, valid, timed, asked⟩ :=
    awaited (columns_hold reachable found) (row_history reachable found).scheduled awaits
  refine ⟨kind, sources, target, expected, valid, timed, ?_⟩
  rcases wired row previousVersion now complete _ _ asked with waiting | placed
  · cases waiting
  · cases placed with
    | flying there => exact absurd ⟨rfl, rfl⟩ (landed _ _ there)
    | queued there =>
      obtain ⟨job, there⟩ := Option.isSome_iff_exists.mp there
      have queued := Table.mem_of_get there
      have same := (allFounded.waits queued (Table.key_of_get there) (.refl _) found expected valid timed).1
      exact .inl ⟨job, queued, same, delayed_for chronicle found complete queued same
        ((anchor_of_expectedSource expected valid).symm.trans timed)⟩
    | taken took => exact .inr ⟨_, took, took.due chronicle found expected valid timed⟩
    | superseded present newer =>
      cases found.symm.trans present
      exact absurd newer (lt_irrefl _)

/-- Whether the wiring of a row, begun at some time, is complete. -/
def completes (row : ActivityEntity) (now : Instant) (moment : Moment (activities config)) : Bool :=
  match moment.1.acts moment.2 with
  | some (thread, event, _) =>
      match wiringOf (event :: thread.past) with
      | .firing entity none at_ [] => entity = row ∧ at_ = now
      | _ => false
  | none => false

theorem wired_of_completes {moment : Moment (activities config)} (member : moment ∈ moments)
    (complete : completes row now moment) : Wired moments row none now := by
  unfold completes at complete
  split at complete
  · rename_i thread event rest acts
    split at complete
    · rename_i entity at_ ended
      obtain ⟨rfl, rfl⟩ := of_decide_eq_true complete
      exact ⟨moment, member, thread, event, rest, acts, ended⟩
    · cases complete
  · cases complete

/-- The activity is created, the request has ended, and its response timer has been added. -/
theorem timer_effective_created :
    ∃ (moments : List (Moment (activities defaults))) (cfg : Interleaving.Config (activities defaults))
      (row : ActivityEntity), Chronicle (activities defaults) Accepting moments cfg ∧
      cfg.world.activities.get "a1" = some row ∧ row.status = .created ∧
      Wired moments row none 0 ∧ ∃ kind sources target, expectedSourceFor kind = some sources ∧
        row.status ∈ sources ∧ anchor row = some target ∧
        ((∃ job ∈ cfg.world.timers.rows, job.data = ⟨row.id, row.version, kind⟩ ∧
          DelayedFor moments job target 0) ∨
        ∃ time, TakenAt moments (buildTimerJobId kind row.id row.version) time ∧ target ≤ time) := by
  obtain ⟨moments, cfg, chronicle, shown⟩ := exists_followed Accepting creation
    (fun moments cfg => cfg.world.firing.isEmpty &&
      (cfg.world.activities.get "a1").any fun row : ActivityEntity =>
        decide (row.status = ActivityStatus.created) && moments.any (completes row 0)) (by decide +kernel)
  obtain ⟨landed, shown⟩ := Bool.and_eq_true_iff.mp shown
  obtain ⟨row, found, shown⟩ := (Option.any_eq_true _ _).mp shown
  obtain ⟨status, shown⟩ := Bool.and_eq_true_iff.mp shown
  obtain ⟨moment, member, complete⟩ := List.any_eq_true.mp shown
  have created : row.status = .created := of_decide_eq_true status
  have wired := wired_of_completes member complete
  have still : cfg.world.firing = [] := List.isEmpty_iff.mp landed
  exact ⟨moments, cfg, row, chronicle, found, created, wired,
    (timer_effective chronicle).2.2.2 "a1" row none 0 found wired (by simp [still]) (.inl (by simp [created]))⟩

end ParentalCoord.Activities

import ParentalCoord.Interleaving.Discipline
import ParentalCoord.Interleaving.View
import ParentalCoord.Notifications.Inbox

/-!
What holds of inboxes in every run: nobody learns of another's or changes it, nothing that is
younger than the window of retention goes away, and a reader who asks for page after page is shown
all that stays meanwhile.
-/

namespace ParentalCoord.Notifications.Inbox

open Interleaving Store Discipline

/-! ## One user's part -/

/-- The user of the session; none for a job. -/
def Entry.user : Entry → Option Uuid
  | .list user _ _ => some user
  | .unreadCount user _ => some user
  | .markRead user _ => some user
  | .markAllRead user _ => some user
  | .process _ => none

def Call.user : Call → Option Uuid
  | .findScoped userId _ => some userId
  | .countScoped userId _ => some userId
  | .countUnread userId _ => some userId
  | .markRead _ userId => some userId
  | .markAllRead userId _ => some userId
  | .now => none
  | .purgeOlderThan _ _ => none

/-- The rows of one user. -/
def World.rowsOf (world : World) (user : Uuid) : List NotificationEntity :=
  world.notifications.rows.filter (·.userId = user)

/-- The world as if there were no rows of others. -/
def World.only (world : World) (user : Uuid) : World :=
  { world with notifications := world.notifications.deleteWhere (·.userId ≠ user) }

def Nudge.concerns (user : Uuid) : Nudge → Bool
  | .tick _ => true
  | .create _ input _ => input.userId = user
  | .forget _ => true

def Entry.concerns (user : Uuid) (entry : Entry) : Bool := entry.user = some user ∨ entry.user = none

variable {config : Config} {start : World} {user other : Uuid} {world world' : World}
  {options : ListNotificationsOptions} {bondId : Option Uuid} {table : NotificationTable}

/-- The other world holds what there is of one user in this one. -/
structure Reduces (user : Uuid) (world reduced : World) : Prop where
  clock : reduced.clock = world.clock
  rows : reduced.notifications.rows = world.rowsOf user

theorem reduces_only (user : Uuid) (world : World) : Reduces user world (world.only user) := by
  refine ⟨rfl, ?_⟩
  simp only [World.only, NotificationTable.deleteWhere, Table.filter, World.rowsOf]
  refine List.filter_congr fun row _ => ?_
  by_cases own : row.userId = user <;> simp [own]

theorem calls_handle (config : Config) (entry : Entry) :
    (handle config entry).Calls fun query : Call => query.user = entry.user := by
  have performs (query : Call) (same : query.user = entry.user) :
      (perform query).Calls fun query : Call => query.user = entry.user := Handler.calls_perform.mpr same
  cases entry with
  | list user query countFirst =>
    refine Handler.Calls.bind (Handler.Calls.bind ?_ fun _ => trivial) fun _ => trivial
    unfold listForUser
    cases countFirst
    · exact (performs _ rfl).bind fun _ => (performs _ rfl).bind fun _ => trivial
    · exact (performs _ rfl).bind fun _ => (performs _ rfl).bind fun _ => trivial
  | unreadCount user bondId => exact (performs _ rfl).bind fun _ => trivial
  | markRead user id =>
    refine Handler.Calls.bind ((performs _ rfl).bind fun affected => ?_) fun _ => trivial
    split <;> trivial
  | markAllRead user bondId => exact (performs _ rfl).bind fun _ => trivial
  | process jobName =>
    refine Handler.Calls.bind ?_ fun _ => trivial
    unfold Retention.process
    split
    · refine Handler.Calls.tryCatch (Handler.Calls.bind ?_ fun _ => trivial) fun _ => trivial
      exact (performs _ rfl).bind fun _ => (performs _ rfl).bind fun _ => trivial
    · trivial

/-! ## Queries on one user's rows -/

theorem scoped_of_reduces (reduces : Reduces user world world') :
    world'.scoped user options = world.scoped user options := by
  simp only [World.scoped, reduces.rows, World.rowsOf, List.filter_filter]
  refine List.filter_congr fun row _ => ?_
  by_cases own : row.userId = user <;> simp [scopedQuery, own]

theorem countP_of_reduces (reduces : Reduces user world world') {which : NotificationEntity → Bool}
    (own : ∀ row, which row → row.userId = user) :
    world'.notifications.rows.countP which = world.notifications.rows.countP which := by
  rw [reduces.rows, World.rowsOf, List.countP_filter]
  refine List.countP_congr fun row _ => ?_
  simpa using own row

theorem rows_markWhere (which : NotificationEntity → Bool) (own : NotificationEntity → Bool)
    (same : ∀ row read, own { row with isRead := read } = own row) :
    (table.markWhere which).rows.filter own =
      (table.rows.filter own).map fun row => if which row then { row with isRead := true } else row := by
  rw [NotificationTable.markWhere, List.filter_map]
  refine congrArg _ (List.filter_congr fun row _ => ?_)
  by_cases marked : which row <;> simp [marked, same]

theorem reduces_markWhere (reduces : Reduces user world world') (which : NotificationEntity → Bool) :
    Reduces user { world with notifications := world.notifications.markWhere which }
      { world' with notifications := world'.notifications.markWhere which } := by
  refine ⟨reduces.clock, ?_⟩
  rw [World.rowsOf, rows_markWhere which _ fun _ _ => rfl]
  simp only [NotificationTable.markWhere, reduces.rows, World.rowsOf]

/-- Marks of another user do not show. -/
theorem reduces_of_mark (reduces : Reduces user world world') {which : NotificationEntity → Bool}
    (elsewhere : ∀ row, which row → row.userId ≠ user) :
    Reduces user { world with notifications := world.notifications.markWhere which } world' := by
  refine ⟨reduces.clock, ?_⟩
  rw [reduces.rows, World.rowsOf, World.rowsOf, rows_markWhere which _ fun _ _ => rfl]
  refine ((List.map_congr_left fun row member => if_neg fun marked => ?_).trans (List.map_id' _)).symm
  exact elsewhere row marked (of_decide_eq_true (List.mem_filter.mp member).2)

theorem reduces_deleteWhere (reduces : Reduces user world world') (which : NotificationEntity → Bool) :
    Reduces user { world with notifications := world.notifications.deleteWhere which }
      { world' with notifications := world'.notifications.deleteWhere which } := by
  refine ⟨reduces.clock, ?_⟩
  simp only [NotificationTable.deleteWhere, Table.filter, World.rowsOf, reduces.rows, List.filter_filter]
  exact List.filter_congr fun row _ => Bool.and_comm _ _

theorem reduces_unlink (reduces : Reduces user world world') (eventId : Uuid) :
    Reduces user { world with notifications := world.notifications.unlink eventId }
      { world' with notifications := world'.notifications.unlink eventId } := by
  refine ⟨reduces.clock, ?_⟩
  simp only [NotificationTable.unlink, World.rowsOf, reduces.rows, List.filter_map]
  refine congrArg _ (List.filter_congr fun row _ => ?_)
  by_cases linked : row.sourceEventId = some eventId <;> simp [NotificationEntity.unlinked, linked]

theorem reduces_nudge (reduces : Reduces user world world') (how : Nudge) :
    (how.concerns user ∧ Reduces user (nudge how world) (nudge how world')) ∨
      Reduces user (nudge how world) world' := by
  cases how with
  | tick ms => exact .inl ⟨rfl, by simp [nudge, reduces.clock], reduces.rows⟩
  | forget eventId => exact .inl ⟨rfl, reduces_unlink reduces eventId⟩
  | create id input createdAt =>
    let row : NotificationEntity := { input with id := id, createdAt := createdAt }
    cases taken : world.notifications.insert row with
    | none =>
      refine .inr ⟨reduces.clock, ?_⟩
      simp only [nudge, World.rowsOf, row, taken, Option.getD_none]
      exact reduces.rows
    | some after =>
      have added := NotificationTable.rows_insert taken
      by_cases own : input.userId = user
      · obtain ⟨after', taken'⟩ := NotificationTable.insert_of_sublist taken
          (reduces.rows ▸ List.filter_sublist : world'.notifications.rows.Sublist world.notifications.rows)
        have added' := NotificationTable.rows_insert taken'
        refine .inl ⟨decide_eq_true own, reduces.clock, ?_⟩
        simp only [nudge, World.rowsOf, row, taken, taken', Option.getD_some, added, added', reduces.rows,
          List.filter_append]
        simp [own]
      · refine .inr ⟨reduces.clock, ?_⟩
        simp only [nudge, World.rowsOf, row, taken, Option.getD_some, added, reduces.rows, List.filter_append]
        simp [own]

/-! ## What a user can tell -/

/-- How many rows a purge has deleted depends on everybody's. -/
def sameToJob : (query : Call) → Except Exception (interface.Answer query) →
    Except Exception (interface.Answer query) → Prop
  | .purgeOlderThan _ _, answer, answer' => answer.toBool = answer'.toBool
  | _, answer, answer' => answer = answer'

theorem process_like (config : Config) (jobName : String) :
    (handle config (.process jobName)).Like sameToJob (fun _ _ => True) (handle config (.process jobName)) := by
  simp only [handle, Retention.process]
  split
  · refine .call fun now now' same => ?_
    cases (same : now = now')
    cases now with
    | error error => exact .ret trivial
    | ok now =>
      refine .call fun count count' _ => ?_
      cases count <;> cases count' <;> exact .ret trivial
  · exact .ret trivial

def view (config : Config) (start : World) (user : Uuid) : View (inbox config start) where
  sees := Entry.concerns user
  shows := Nudge.concerns user
  alike := Reduces user
  same entry := if entry.user = none then sameToJob else fun _ => Eq
  agree entry := if entry.user = none then fun _ _ => True else Eq
  makes entry query := query.user = entry.user
  calls := calls_handle config
  begins entry _ := by
    cases entry with
    | process jobName => exact process_like config jobName
    | _ => exact Handler.like_refl _
  fails entry query error _ _ := by
    split
    · cases query <;> rfl
    · rfl
  seen entry query world world' sees makes reduces := by
    have own : query.user = some user ∨ query.user = none := by
      rw [makes]
      exact of_decide_eq_true sees
    split
    · rename_i job
      rw [job] at makes
      cases query with
      | now => exact ⟨congrArg Except.ok reduces.clock.symm, reduces⟩
      | purgeOlderThan cutoff onlyRead => exact ⟨rfl, reduces_deleteWhere reduces _⟩
      | _ => cases makes
    · rename_i session
      cases query with
      | now => exact absurd makes.symm session
      | purgeOlderThan cutoff onlyRead => exact absurd makes.symm session
      | findScoped userId options =>
        obtain rfl : userId = user := Option.some.inj (own.resolve_right nofun)
        refine ⟨?_, reduces⟩
        simp only [inbox, serve, scoped_of_reduces reduces]
      | countScoped userId options =>
        obtain rfl : userId = user := Option.some.inj (own.resolve_right nofun)
        refine ⟨?_, reduces⟩
        simp only [inbox, serve, scoped_of_reduces reduces]
      | countUnread userId bondId =>
        obtain rfl : userId = user := Option.some.inj (own.resolve_right nofun)
        refine ⟨congrArg Except.ok (countP_of_reduces reduces fun row unread => ?_).symm, reduces⟩
        simp only [unreadOf, Bool.and_eq_true, decide_eq_true_eq] at unread
        exact unread.1.1
      | markRead id userId =>
        obtain rfl : userId = user := Option.some.inj (own.resolve_right nofun)
        refine ⟨congrArg Except.ok (countP_of_reduces reduces fun row marked => ?_).symm,
          reduces_markWhere reduces _⟩
        simp only [Bool.and_eq_true, decide_eq_true_eq] at marked
        exact marked.1
      | markAllRead userId bondId =>
        obtain rfl : userId = user := Option.some.inj (own.resolve_right nofun)
        refine ⟨congrArg Except.ok (countP_of_reduces reduces fun row unread => ?_).symm,
          reduces_markWhere reduces _⟩
        simp only [unreadOf, Bool.and_eq_true, decide_eq_true_eq] at unread
        exact unread.1.1
  unseen entry query world world' unseen makes reduces := by
    have apart : query.user ≠ some user ∧ query.user ≠ none := by
      rw [makes]
      simpa [Entry.concerns] using unseen
    cases query with
    | now => exact absurd rfl apart.2
    | purgeOlderThan cutoff onlyRead => exact absurd rfl apart.2
    | markRead id userId =>
      refine reduces_of_mark reduces fun row marked own => apart.1 ?_
      simp only [Bool.and_eq_true, decide_eq_true_eq] at marked
      rw [← own, marked.1]
      rfl
    | markAllRead userId bondId =>
      refine reduces_of_mark reduces fun row unread own => apart.1 ?_
      simp only [unreadOf, Bool.and_eq_true, decide_eq_true_eq] at unread
      rw [← own, unread.1.1]
      rfl
    | _ => exact reduces
  nudged how _ _ reduces := reduces_nudge reduces how

/-- What happens when nobody else is there: requests of the user, jobs, the clock, notifications to the
user and the retention of the outbox. -/
def Concerning (user : Uuid) (_ : Interleaving.Config (inbox config start)) : Move (inbox config start) → Prop
  | .nudge how => how.concerns user
  | .arrive entry => entry.concerns user
  | _ => True

variable {cfg : Interleaving.Config (inbox config start)}

/-- **Users are nothing to each other.**  Whatever the others request and are sent in a run, there is
one without them, from what there was of the user at the start, in which each request of the user is
told the same, call by call, and is where it is, and in which the user's rows are the same. -/
theorem isolated (user : Uuid) (run : Reachable (inbox config start) cfg) :
    ∃ alone : Interleaving.Config (inbox config start),
      Onward (inbox config start) (Concerning user) ⟨start.only user, []⟩ alone ∧
      Reduces user cfg.world alone.world ∧
      List.Forall₂ (fun thread other => thread.entry = other.entry ∧
        (thread.entry.user = some user → thread.tale = other.tale ∧ thread.rest = other.rest))
        (cfg.threads.filter (·.entry.concerns user)) alone.threads := by
  obtain ⟨alone, onward, likes⟩ := (view config start user).exists_visible (reduces_only user start) run
  refine ⟨alone, onward.weaken ?_, likes.world, likes.threads.imp fun thread other like => ⟨like.entry, ?_⟩⟩
  · intro cfg move visible
    cases move <;> exact visible
  · intro own
    have session : thread.entry.user ≠ none := by simp [own]
    exact like.exact (if_neg session) (if_neg session)

def nobody : World := ⟨0, .empty⟩

def note (user : Uuid) : CreateNotificationInput where
  userId := user
  bondId := none
  type := "activity_created"
  title := "t"
  body := "b"
  refEntityType := "activity"
  refEntityId := none
  sourceEventId := none

theorem isolated_busy : ∃ cfg : Interleaving.Config (inbox {} nobody), Reachable (inbox {} nobody) cfg ∧
    cfg.threads.length = 2 ∧ cfg.world.notifications.rows.length = 2 ∧
    ∃ alone : Interleaving.Config (inbox {} nobody),
      Onward (inbox {} nobody) (Concerning "u1") ⟨nobody.only "u1", []⟩ alone ∧
      Reduces "u1" cfg.world alone.world ∧
      List.Forall₂ (fun thread other => thread.entry = other.entry ∧
        (thread.entry.user = some "u1" → thread.tale = other.tale ∧ thread.rest = other.rest))
        (cfg.threads.filter (·.entry.concerns "u1")) alone.threads := by
  obtain ⟨cfg, run, shown⟩ := exists_played (fun (_ : Interleaving.Config (inbox {} nobody)) _ => True)
    [.nudge (.create "n1" (note "u1") 1), .nudge (.create "n2" (note "u2") 2),
      .arrive (.markAllRead "u2" none), .arrive (.unreadCount "u1" none), .turn 0, .turn 1]
    (fun cfg => cfg.threads.length = 2 && cfg.world.notifications.rows.length = 2) (by decide)
  rw [Bool.and_eq_true, decide_eq_true_eq, decide_eq_true_eq] at shown
  exact ⟨cfg, run, shown.1, shown.2, isolated "u1" run⟩

/-! ## The window of retention -/

def window (config : Config) : ℤ :=
  config.NOTIFICATIONS_RETENTION_DAYS.getD DEFAULT_NOTIFICATIONS_RETENTION_DAYS * MS_PER_DAY

/-- The same notification: its mark may have been set since, and its event may have been deleted. -/
structure Remains (row later : NotificationEntity) : Prop where
  read : row.isRead → later.isRead
  source : later.sourceEventId = row.sourceEventId ∨ later.sourceEventId = none
  rest : { later with isRead := row.isRead, sourceEventId := row.sourceEventId } = row

theorem Remains.refl (row : NotificationEntity) : Remains row row := ⟨id, .inl rfl, rfl⟩

theorem Remains.trans {first second third : NotificationEntity} (earlier : Remains first second)
    (later : Remains second third) : Remains first third := by
  refine ⟨later.read ∘ earlier.read, ?_, ?_⟩
  · rcases later.source with same | gone
    · exact same ▸ earlier.source
    · exact .inr gone
  · rw [← earlier.rest, ← later.rest]

theorem remains_unlinked (eventId : Uuid) (row : NotificationEntity) : Remains row (row.unlinked eventId) := by
  unfold NotificationEntity.unlinked
  split
  · exact ⟨id, .inr rfl, rfl⟩
  · exact .refl row

/-- Time goes on, and a row remains or is older than the window. -/
structure Retains (config : Config) (before after : World) : Prop where
  clock : before.clock ≤ after.clock
  rows : ∀ row ∈ before.notifications.rows, row.createdAt < after.clock - window config ∨
    ∃ row' ∈ after.notifications.rows, Remains row row'

theorem Retains.refl (world : World) : Retains config world world :=
  ⟨le_rfl, fun row member => .inr ⟨row, member, .refl row⟩⟩

theorem Retains.trans {first second third : World} (earlier : Retains config first second)
    (later : Retains config second third) : Retains config first third := by
  refine ⟨earlier.clock.trans later.clock, fun row member => ?_⟩
  rcases earlier.rows row member with old | ⟨row', there, remains⟩
  · exact .inl (old.trans_le (sub_le_sub_right later.clock _))
  · rcases later.rows row' there with old | ⟨row'', still, remains'⟩
    · have same : row'.createdAt = row.createdAt := congrArg (·.createdAt) remains.rest
      exact .inl (same ▸ old)
    · exact .inr ⟨row'', still, remains.trans remains'⟩

theorem exists_marked (which : NotificationEntity → Bool) {row : NotificationEntity} (member : row ∈ table.rows) :
    ∃ row' ∈ (table.markWhere which).rows, Remains row row' := by
  have there := List.mem_map_of_mem (f := fun row => if which row then { row with isRead := true } else row) member
  by_cases marked : which row
  · rw [if_pos marked] at there
    exact ⟨_, there, fun _ => rfl, .inl rfl, rfl⟩
  · rw [if_neg marked] at there
    exact ⟨row, there, .refl row⟩

theorem retains_mark (which : NotificationEntity → Bool) :
    Retains config world { world with notifications := world.notifications.markWhere which } :=
  ⟨le_rfl, fun _ member => .inr (exists_marked which member)⟩

theorem retains_purge {cutoff : Instant} (onlyRead : Option Bool) (early : cutoff ≤ world.clock - window config) :
    Retains config world
      { world with notifications := world.notifications.deleteWhere (purged cutoff onlyRead) } := by
  refine ⟨le_rfl, fun row member => ?_⟩
  by_cases gone : purged cutoff onlyRead row
  · simp only [purged, Bool.and_eq_true, decide_eq_true_eq] at gone
    exact .inl (gone.1.trans_le early)
  · exact .inr ⟨row, List.mem_filter.mpr ⟨member, by simp [gone]⟩, .refl row⟩

/-- A request of a user deletes nothing. -/
theorem retains_session {query : Call} (session : query.user ≠ none) (world : World) :
    Retains config world (serve query world).2 := by
  cases query with
  | now => exact absurd rfl session
  | purgeOlderThan cutoff onlyRead => exact absurd rfl session
  | markRead id userId => exact retains_mark _
  | markAllRead userId bondId => exact retains_mark _
  | _ => exact .refl _

/-- Everybody keeps what the window holds. -/
def retaining (config : Config) (start : World) : Discipline (inbox config start) where
  inv _ := True
  rely := Retains config
  guar _ _ event := Retains config event.before event.after

theorem retaining_sound : (retaining config start).Sound where
  refl := Retains.refl
  trans := Retains.trans
  start := trivial
  nudge how world _ := by
    refine ⟨trivial, ?_⟩
    cases how with
    | tick ms =>
      refine ⟨by simp [inbox, nudge], fun row member => .inr ⟨row, member, .refl row⟩⟩
    | forget eventId =>
      exact ⟨le_rfl, fun row member => .inr ⟨_, List.mem_map_of_mem member, remains_unlinked eventId row⟩⟩
    | create id input createdAt =>
      refine ⟨le_rfl, fun row member => .inr ⟨row, ?_, .refl row⟩⟩
      simp only [inbox, nudge]
      cases taken : world.notifications.insert { input with id := id, createdAt := createdAt } with
      | none => exact member
      | some after =>
        rw [Option.getD_some, NotificationTable.rows_insert taken]
        exact List.mem_append_left _ member
  guar_rely _ met := met
  handlers entry := by
    by_cases session : entry.user = none
    · cases entry with
      | process jobName =>
        refine Keeps.bind ?_
        simp only [Retention.process]
        split
        · refine Keeps.tryCatch (Keeps.bind (Keeps.perform_bind ?_))
          intro before answer after _ _ answers _
          rcases answers.elim with ⟨rfl, rfl⟩ | ⟨error, may, -, -⟩
          · refine ⟨Retains.refl _, trivial, Keeps.perform_bind ?_⟩
            intro later answer after behind _ answers _
            -- the time that was read has passed
            have passed := behind.head.2.clock
            rcases answers.elim with ⟨rfl, rfl⟩ | ⟨error, -, rfl, rfl⟩
            · exact ⟨retains_purge none (sub_le_sub_right passed _), trivial, trivial⟩
            · exact ⟨Retains.refl _, trivial, trivial⟩
          · cases may
        · trivial
      | _ => cases session
    · refine Keeps.of_calls (calls_handle config entry) ?_ fun _ _ _ => trivial
      intro query makes past before answer after _ answers _
      refine ⟨?_, trivial⟩
      rcases answers.elim with ⟨-, rfl⟩ | ⟨error, -, -, rfl⟩
      · exact retains_session (makes ▸ session) before
      · exact Retains.refl _

/-- **Nothing goes before its time.**  From any moment of a run on, a notification stays as it is, but for
its mark, which is not taken away, and its source event, which may be deleted, until it is older than the
window. -/
theorem retained {later : Interleaving.Config (inbox config start)} (run : Reachable (inbox config start) cfg)
    (onward : Onward (inbox config start) (fun _ _ => True) cfg later) {row : NotificationEntity}
    (member : row ∈ cfg.world.notifications.rows) :
    row.createdAt < later.world.clock - window config ∨
      ∃ row' ∈ later.world.notifications.rows, Remains row row' :=
  (run.relied retaining_sound (supplies_of_assumes fun _ _ _ => trivial) onward).rows row member

/-- Two notifications of one user, the second of which is the newer one. -/
def twoNotes : World where
  clock := 5
  notifications :=
    { rows := [{ note "u1" with id := "n1", createdAt := 1 }, { note "u1" with id := "n2", createdAt := 2 }]
      unique := by decide
      once := by decide }

/-- A notification is marked while a purge is under way. -/
def meanwhile : List (Move (inbox {} twoNotes)) :=
  [.arrive (.process "retention"), .turn 0, .arrive (.markRead "u1" "n1"), .turn 1,
    .nudge (.tick 2592000000), .turn 0]

theorem retained_marked : ∃ later, play (fun _ _ => True) meanwhile ⟨twoNotes, []⟩ = some later ∧
    ∀ row ∈ twoNotes.notifications.rows, row.createdAt < later.world.clock - window {} ∨
      ∃ row' ∈ later.world.notifications.rows, Remains row row' := by
  obtain ⟨later, played⟩ := Option.isSome_iff_exists.mp
    (by decide : (play (fun _ _ => True) meanwhile ⟨twoNotes, []⟩).isSome)
  exact ⟨later, played, fun row member => retained .start (Onward.here.play played) member⟩

/-! ## Page after page -/

def ListNotificationsQueryDto.onPage (query : ListNotificationsQueryDto) (number : ℕ) :
    ListNotificationsQueryDto :=
  { query with offset := some (number * query.size) }

/-- Where the rows of a query stand, whatever has been read of them. -/
def World.positions (world : World) (user : Uuid) (query : ListNotificationsQueryDto) :
    List (Instant ×ₗ Uuid) :=
  (world.scoped user query.options).map position

variable {query : ListNotificationsQueryDto} {value : Instant ×ₗ Uuid}
  {cfg' : Interleaving.Config (inbox config start)} {move : Move (inbox config start)}

theorem positions_nodup (world : World) (user : Uuid) (query : ListNotificationsQueryDto) :
    (world.positions user query).Nodup := by
  have ids := world.notifications.unique
  have positions : (world.notifications.rows.map position).Nodup :=
    List.Nodup.of_map (fun place : Instant ×ₗ Uuid => (ofLex place).2) (by rwa [List.map_map])
  exact (List.filter_sublist.map position).nodup positions

/-- What a request for a page is answered. -/
def World.answer (world : World) (user : Uuid) (query : ListNotificationsQueryDto) :
    PaginatedNotificationsDto where
  items := (((newestFirst (world.scoped user query.options)).drop query.options.offset).take
    query.options.limit).map toResponse
  total := (world.scoped user query.options).length
  limit := query.options.limit
  offset := query.options.offset
  nextCursor := none

theorem run_list (countFirst : Bool) (world : World) (user : Uuid) (query : ListNotificationsQueryDto) :
    (list countFirst user query).run serve world = (.ok (world.answer user query), world) := by
  cases countFirst <;> rfl

/-- The rows on a page. -/
def World.pageOf (world : World) (user : Uuid) (query : ListNotificationsQueryDto) (number : ℕ) :
    List NotificationEntity :=
  page query.size number (newestFirst (world.scoped user query.options))

theorem items_onPage {countFirst : Bool} {number : ℕ} {dto : PaginatedNotificationsDto}
    (answered : ((list countFirst user (query.onPage number)).run serve world).1 = .ok dto) :
    dto.items = (world.pageOf user query number).map toResponse := by
  rw [run_list] at answered
  exact congrArg PaginatedNotificationsDto.items (Except.ok.inj answered).symm

theorem length_newestFirst (rows : List NotificationEntity) : (newestFirst rows).length = rows.length :=
  ((Arrangement.stable : Arrangement position).sorts rows).perm.length_eq

theorem length_pageOf (world : World) (user : Uuid) (query : ListNotificationsQueryDto) (number : ℕ) :
    (world.pageOf user query number).length =
      min query.size ((world.scoped user query.options).length - number * query.size) := by
  rw [World.pageOf, page, List.length_take, List.length_drop, length_newestFirst]

/-- A page that is not full is the last. -/
theorem length_of_short {number : ℕ} (short : (world.pageOf user query number).length < query.size) :
    (world.scoped user query.options).length ≤ (number + 1) * query.size := by
  rw [length_pageOf] at short
  rw [Nat.succ_mul]
  omega

theorem mem_positions (all : query.unreadOnly ≠ some true) :
    value ∈ world.positions user query ↔ ∃ row ∈ world.notifications.rows,
      row.userId = user ∧ ofBond query.bondId row ∧ position row = value := by
  simp only [World.positions, World.scoped, List.mem_map, List.mem_filter, scopedQuery,
    ListNotificationsQueryDto.options, Bool.and_eq_true, decide_eq_true_eq, Bool.or_eq_true]
  constructor
  · rintro ⟨row, ⟨member, ⟨own, -⟩, bond⟩, same⟩
    exact ⟨row, member, own, bond, same⟩
  · rintro ⟨row, member, own, bond, same⟩
    exact ⟨row, ⟨member, ⟨own, .inl all⟩, bond⟩, same⟩

/-- What stands before a notification stays as long as it does. -/
def KeepsAhead (user : Uuid) (query : ListNotificationsQueryDto) (before after : World) : Prop :=
  ∀ value ∈ after.positions user query, ∀ other ∈ before.positions user query, value < other →
    other ∈ after.positions user query

theorem keepsAhead_of_rows (all : query.unreadOnly ≠ some true)
    (kept : ∀ row ∈ world.notifications.rows, ∃ row' ∈ world'.notifications.rows, Remains row row') :
    KeepsAhead user query world world' := by
  intro value _ other there _
  obtain ⟨row, member, own, bond, same⟩ := (mem_positions all).mp there
  obtain ⟨row', member', remains⟩ := kept row member
  refine (mem_positions all).mpr ⟨row', member', ?_⟩
  rw [← remains.rest] at own bond same
  exact ⟨own, bond, same⟩

/-- A purge takes the oldest. -/
theorem keepsAhead_purge (all : query.unreadOnly ≠ some true) (cutoff : Instant) :
    KeepsAhead user query world
      { world with notifications := world.notifications.deleteWhere (purged cutoff none) } := by
  intro value still other there before
  obtain ⟨last, kept, -, -, rfl⟩ := (mem_positions all).mp still
  obtain ⟨row, member, own, bond, rfl⟩ := (mem_positions all).mp there
  refine (mem_positions all).mpr ⟨row, List.mem_filter.mpr ⟨member, ?_⟩, own, bond, rfl⟩
  have young := (List.mem_filter.mp kept).2
  simp only [purged, Bool.not_eq_true', Bool.and_eq_false_iff, decide_eq_false_iff_not, not_lt] at young ⊢
  rcases Prod.Lex.lt_iff.mp before with later | ⟨level, -⟩
  · exact .inl ((young.resolve_right (by simp)).trans later.le)
  · exact .inl ((young.resolve_right (by simp)).trans level.le)

theorem keepsAhead_nudge (all : query.unreadOnly ≠ some true) (how : Nudge) :
    KeepsAhead user query world (nudge how world) := by
  refine keepsAhead_of_rows all fun row member => ?_
  cases how with
  | tick ms => exact ⟨row, member, .refl row⟩
  | forget eventId => exact ⟨_, List.mem_map_of_mem member, remains_unlinked eventId row⟩
  | create id input createdAt =>
    refine ⟨row, ?_, .refl row⟩
    simp only [nudge]
    cases taken : world.notifications.insert { input with id := id, createdAt := createdAt } with
    | none => exact member
    | some after =>
      rw [Option.getD_some, NotificationTable.rows_insert taken]
      exact List.mem_append_left _ member

/-- The calls of the services; the policy of purging what has been read only is not in use. -/
def Call.InUse : Call → Prop
  | .purgeOlderThan _ onlyRead => onlyRead = none
  | _ => True

theorem keepsAhead_serve (all : query.unreadOnly ≠ some true) (call : Call) (used : call.InUse) :
    KeepsAhead user query world (serve call world).2 := by
  have marks (which : NotificationEntity → Bool) : KeepsAhead user query world
      { world with notifications := world.notifications.markWhere which } := by
    exact keepsAhead_of_rows all fun row member => exists_marked which member
  cases call with
  | markRead id userId => exact marks _
  | markAllRead userId bondId => exact marks _
  | purgeOlderThan cutoff onlyRead =>
    cases (used : onlyRead = none)
    exact keepsAhead_purge all cutoff
  | _ => exact fun _ _ _ there _ => there

theorem handle_inUse (config : Config) (entry : Entry) : (handle config entry).Calls Call.InUse := by
  by_cases session : entry.user = none
  · cases entry with
    | process jobName =>
      refine Handler.Calls.bind ?_ fun _ => trivial
      unfold Retention.process
      split
      · refine Handler.Calls.tryCatch (Handler.Calls.bind ?_ fun _ => trivial) fun _ => trivial
        have purges (cutoff : Instant) : (perform (.purgeOlderThan cutoff none)).Calls Call.InUse :=
          Handler.calls_perform.mpr rfl
        exact Handler.Calls.bind (Handler.calls_perform.mpr trivial) fun _ => (purges _).bind fun _ => trivial
      · trivial
    | _ => cases session
  · refine (calls_handle config entry).mono fun query same => ?_
    cases query with
    | purgeOlderThan cutoff onlyRead => exact absurd same.symm session
    | _ => trivial

theorem keepsAhead_of_advance (all : query.unreadOnly ≠ some true) (run : Reachable (inbox config start) cfg)
    (moved : advance move cfg = some cfg') : KeepsAhead user query cfg.world cfg'.world := by
  have stays : KeepsAhead user query cfg.world cfg.world := fun _ _ _ there _ => there
  rcases advance_cases moved with ⟨how, rfl, rfl⟩ | ⟨entry, rfl, rfl⟩ | ⟨index, rfl, rfl⟩ |
    ⟨index, thread, event, rest, at_, acts, rfl⟩
  · exact keepsAhead_nudge all how
  · exact stays
  · exact stays
  · obtain ⟨mine, call, next, answer, after, waits, rfl, -, answers⟩ := acts_cases acts
    have used := (run.invariant_of_calls (fun _ => True) trivial (fun _ _ _ => trivial)
      (fun _ _ _ _ => trivial) fun _ entry _ => handle_inUse config entry).2 thread mine
    rw [waits] at used
    rcases answers.elim with ⟨-, rfl⟩ | ⟨error, -, -, rfl⟩
    · exact keepsAhead_serve all call used.1
    · exact stays

/-- The same from one moment to a later one, if the notification is there all the time. -/
theorem keepsAhead_of_onward (all : query.unreadOnly ≠ some true) (run : Reachable (inbox config start) cfg)
    (onward : Onward (inbox config start) (fun cfg _ => value ∈ World.positions cfg.world user query) cfg cfg')
    (still : value ∈ World.positions cfg'.world user query) {other : Instant ×ₗ Uuid}
    (there : other ∈ World.positions cfg.world user query) (before : value < other) :
    other ∈ World.positions cfg'.world user query := by
  induction onward with
  | here => exact there
  | @step mid last move earlier here moved ih =>
    have reached := run.onward earlier fun _ _ _ => trivial
    exact keepsAhead_of_advance all reached moved value still other (ih here) before

/-- **A reader misses nothing that stays.**  The pages of an inbox are read one after the other, while
notifications come, are marked and are purged, up to one that is not full.  A notification that is
there all the time is on one of them. -/
theorem none_missed {reads : ℕ → Interleaving.Config (inbox config start)}
    {answers : ℕ → PaginatedNotificationsDto} {last : ℕ} {createdAt : Instant} {id : Uuid}
    (all : query.unreadOnly ≠ some true) (run : Reachable (inbox config start) (reads 0))
    (onward : ∀ number < last, Onward (inbox config start)
      (fun cfg _ => toLex (createdAt, id) ∈ World.positions cfg.world user query)
      (reads number) (reads (number + 1)))
    (there : ∀ number ≤ last, toLex (createdAt, id) ∈ World.positions (reads number).world user query)
    (answered : ∀ number ≤ last, ∃ countFirst,
      ((list countFirst user (query.onPage number)).run serve (reads number).world).1 = .ok (answers number))
    (short : (answers last).items.length < query.size) :
    ∃ number ≤ last, id ∈ (answers number).items.map (·.id) := by
  have reached : ∀ number ≤ last, Reachable (inbox config start) (reads number) := by
    intro number
    induction number with
    | zero => exact fun _ => run
    | succ number ih =>
      exact fun within => (ih (by omega)).onward (onward number (by omega)) fun _ _ _ => trivial
  have items (number : ℕ) (within : number ≤ last) :
      (answers number).items = (World.pageOf (reads number).world user query number).map toResponse := by
    obtain ⟨countFirst, answer⟩ := answered number within
    exact items_onPage answer
  rw [items last le_rfl, List.length_map] at short
  obtain ⟨number, within, shown⟩ := exists_page
    (fun number _ => Arrangement.stable.sorts (World.scoped (reads number).world user query.options))
    (fun number _ => positions_nodup _ user query) there
    (fun number within other => keepsAhead_of_onward all (reached number within.le) (onward number within)
      (there _ within)) (length_of_short short)
  obtain ⟨row, member, same⟩ := List.mem_map.mp shown
  refine ⟨number, within, ?_⟩
  rw [items number within, List.map_map]
  exact List.mem_map.mpr ⟨row, member, congrArg (fun place : Instant ×ₗ Uuid => (ofLex place).2) same⟩

def onePerPage : ListNotificationsQueryDto where
  limit := some 1
  limit_min := by simp
  limit_max := by simp [NOTIFICATIONS_MAX_LIMIT]

/-- A third notification comes after the first page has been read. -/
def reading (number : ℕ) : Interleaving.Config (inbox {} twoNotes) :=
  if number = 0 then ⟨twoNotes, []⟩ else ⟨nudge (.create "n3" (note "u1") 3) twoNotes, []⟩

theorem none_missed_meanwhile : ∃ number ≤ 3, "n1" ∈
    (World.answer (reading number).world "u1" (onePerPage.onPage number)).items.map (·.id) := by
  let answers (number : ℕ) := World.answer (reading number).world "u1" (onePerPage.onPage number)
  have there (number : ℕ) : toLex (1, "n1") ∈ World.positions (reading number).world "u1" onePerPage := by
    unfold reading
    split <;> decide
  have answered (number : ℕ) : ∃ countFirst,
      ((list countFirst "u1" (onePerPage.onPage number)).run serve (reading number).world).1 =
        .ok (answers number) := ⟨true, congrArg Prod.fst (run_list _ _ _ _)⟩
  have short : (answers 3).items.length < onePerPage.size := by
    obtain ⟨countFirst, answer⟩ := answered 3
    rw [items_onPage answer, List.length_map]
    exact (length_pageOf (reading 3).world "u1" onePerPage 3).trans_lt (by decide)
  refine @none_missed {} twoNotes "u1" onePerPage reading answers 3 1 "n1" (by decide) .start
    (fun number _ => ?_) (fun number _ => there number) (fun number _ => answered number) short
  by_cases first : number = 0
  · subst first
    exact Onward.here.step (there 0) (show advance (.nudge (Nudge.create "n3" (note "u1") 3) :
      Move (inbox {} twoNotes)) (reading 0) = some (reading 1) from rfl)
  · have same : reading (number + 1) = reading number := by simp [reading, first]
    rw [same]
    exact .here

end ParentalCoord.Notifications.Inbox

import ParentalCoord.Attachments.Conversion

/-!
Whether a conversion is done whole or not at all.

It is, as long as nothing comes between its two writes and its return: neither of its calls
fails then, nobody deletes the expense, and no other conversion gives it another activity.
-/

namespace ParentalCoord.Conversions

open Interleaving Store Activities Attachments

variable {config : Expenses.Config} {start : World}

/-! ## The stages of a conversion -/

/-- How far a request is: one that is not a conversion, one that still checks, with the
attachment of the activity, with its row, with the activity of the expense, or one that has
failed after its first write. -/
inductive Stage where
  | other
  | checking (expenseId attachmentId : Uuid)
  | found (expenseId attachmentId : Uuid) (attachment : ActAttachmentEntity)
  | inserted (expenseId attachmentId : Uuid) (attachment : ActAttachmentEntity)
  | linked (expenseId attachmentId : Uuid) (attachment : ActAttachmentEntity)
  | broken

/-- The queries that a conversion makes of the expenses. -/
def reads : Expenses.Call → Prop
  | .findOne _ | .existsBy _ | .isActiveBondForMember _ _ => True
  | _ => False

/-- The calls of a conversion, in their order. -/
def converting : Protocol surface Exception where
  Phase := Stage
  permits stage query := match stage, query with
    | .other, .inl _ => True
    | .checking _ _, .inl query => reads query
    | .checking _ attachmentId, .inr (.findActivityAttachment id) => id = attachmentId
    | .found expenseId _ attachment, .inr (.createAttachment data) =>
        data.expenseId = expenseId ∧ data.fileUrl = attachment.fileUrl
    | .inserted expenseId _ attachment, .inr (.updateActivityId id activityId) =>
        id = expenseId ∧ activityId = attachment.activityId
    | .linked _ _ _, .inr (.createSignedDownloadUrl _) => True
    | _, _ => False
  next stage query answer := match stage, query, answer with
    | .checking expenseId attachmentId, .inr (.findActivityAttachment _), .ok (some (attachment, _)) =>
        .found expenseId attachmentId attachment
    | .found expenseId attachmentId attachment, .inr (.createAttachment _), .ok _ =>
        .inserted expenseId attachmentId attachment
    | .inserted expenseId attachmentId attachment, .inr (.updateActivityId _ _), .ok _ =>
        .linked expenseId attachmentId attachment
    | .inserted _ _ _, _, .error _ => .broken
    | .linked _ _ _, _, .error _ => .broken
    | stage, _, _ => stage

def begins : Entry → Stage
  | .expense _ => .other
  | .convert expenseId _ activityAttachmentId => .checking expenseId activityAttachmentId

def stageOf (thread : Thread (conversions config start)) : Stage :=
  converting.reached (begins thread.entry) thread.past

/-- The expense whose attachment has been inserted. -/
def Stage.half : Stage → Option Uuid
  | .inserted expenseId _ _ | .linked expenseId _ _ => some expenseId
  | _ => none

/-- The expense whose activity has been set. -/
def Stage.whole : Stage → Option Uuid
  | .linked expenseId _ _ => some expenseId
  | _ => none

/-- The request has not returned. -/
def underway (thread : Thread (conversions config start)) : Bool :=
  match thread.rest with
  | .call _ _ => true
  | _ => false

/-- What a conversion ends in: all done, or nothing. -/
def ends {α : Type} (result : Except Exception α) (stage : Stage) : Prop :=
  match result, stage with
  | .ok _, .other | .ok _, .linked _ _ _ => True
  | .ok _, _ => False
  | .error _, .inserted _ _ _ | .error _, .linked _ _ _ => False
  | .error _, _ => True

/-! ## Whole, or not at all -/

/-- The expense is alive, has an attachment with the key of the activity's, and has its
activity. -/
def World.Converted (world : World) (expenseId activityAttachmentId : Uuid) : Prop :=
  world.alive expenseId = true ∧
    ∃ attachment, world.attachments.get activityAttachmentId = some attachment ∧
      (∃ row ∈ world.expenseAttachments.rows,
        row.expenseId = expenseId ∧ row.fileUrl = attachment.fileUrl) ∧
      world.activityId expenseId = some attachment.activityId

/-- The attachments of expenses and the activities of expenses are as they were. -/
def Unwritten (before after : World) : Prop :=
  after.expenseAttachments = before.expenseAttachments ∧ after.activityId = before.activityId

/-- Whenever a conversion returns, it has done all, and whenever it fails, nothing. -/
def Atomic (config : Expenses.Config) (start : World)
    (allowed : Config (conversions config start) → Move (conversions config start) → Prop) : Prop :=
  ∀ cfg move cfg' thread event rest, Run (conversions config start) allowed cfg → allowed cfg move →
    advance move cfg = some cfg' → cfg.acts move = some (thread, event, rest) →
    ∀ expenseId user activityAttachmentId,
      thread.entry = .convert expenseId user activityAttachmentId →
      (∀ reply, rest = .ret reply → cfg'.world.Converted expenseId activityAttachmentId) ∧
        ∀ error, rest = .throw error →
          ∀ seen ∈ (thread.after event rest).past, Unwritten seen.before seen.after

/-- What a step of a request has to leave alone. -/
structure Leaves (cfg : Config (conversions config start))
    (thread : Thread (conversions config start)) (event : Event (conversions config start)) : Prop where
  /-- A row is inserted for an expense that is alive. -/
  insertion : ∀ data saved, event.query = .inr (.createAttachment data) → event.answer = .ok saved →
    cfg.world.alive data.expenseId = true
  /-- After it, no call of the conversion fails. -/
  success : (stageOf thread).half.isSome → ∀ error, event.answer ≠ .error error
  /-- Nobody deletes an expense between the insertion and the return. -/
  alive : ∀ other ∈ cfg.threads, underway other = true → ∀ expenseId,
    (stageOf other).half = some expenseId → cfg.world.alive expenseId = true →
      event.after.alive expenseId = true
  /-- Nobody changes its activity between the second write and the return. -/
  activity : ∀ other ∈ cfg.threads, underway other = true → ∀ expenseId,
    (stageOf other).whole = some expenseId →
      event.after.activityId expenseId = cfg.world.activityId expenseId

def LeavesConversions (cfg : Config (conversions config start)) (move : Move (conversions config start)) : Prop :=
  ∀ thread event rest, cfg.acts move = some (thread, event, rest) → Leaves cfg thread event

/-! ## The requests keep to the stages -/

variable {expenseId activityAttachmentId : Uuid} {user : AuthUser} {attachment : ActAttachmentEntity}

theorem calls_ensureRequester : (ensureRequester expenseId user).Calls fun query =>
    ∃ first, query = Sum.inl first ∧ reads first := by
  apply Handler.Calls.bind
  · apply Handler.Calls.bind
    · apply Handler.Calls.inl
      apply Handler.Calls.bind
      · exact Handler.calls_perform.mpr trivial
      · rintro (_ | ⟨expense, category⟩)
        · trivial
        · apply Handler.Calls.bind
          · exact Handler.calls_perform.mpr trivial
          · exact fun _ => trivial
    · rintro (_ | loaded)
      · trivial
      · apply Handler.Calls.bind
        · apply Handler.Calls.inl
          exact Handler.calls_perform.mpr trivial
        · rintro (_ | _) <;> trivial
  · intro expense
    dsimp only
    split <;> trivial

theorem follows_attach : converting.Follows ends (.found expenseId activityAttachmentId attachment)
    (attach expenseId user attachment) := by
  apply Protocol.Follows.perform_bind
  · exact ⟨rfl, rfl⟩
  · intro saved
    apply Protocol.Follows.perform_bind
    · exact ⟨rfl, rfl⟩
    · intro affected
      apply Protocol.Follows.perform_bind
      · trivial
      · exact fun viewUrl => trivial
      · exact fun error => trivial
    · exact fun error => trivial
  · exact fun error => trivial

theorem follows_convert : converting.Follows ends (.checking expenseId activityAttachmentId)
    (convert expenseId user activityAttachmentId) := by
  apply Protocol.Follows.bind
  apply Protocol.Follows.of_calls calls_ensureRequester
  · rintro query ⟨first, rfl, reading⟩
    exact ⟨reading, fun answer => rfl⟩
  · rintro (error | expense)
    · trivial
    · apply Protocol.Follows.perform_bind
      · rfl
      · rintro (_ | ⟨attachment, activity⟩)
        · trivial
        · dsimp only
          split
          · trivial
          · exact follows_attach
      · exact fun error => trivial

theorem follows_handler (config : Expenses.Config) (entry : Entry) :
    converting.Follows ends (begins entry) (handler config entry) := by
  cases entry with
  | expense entry =>
    apply Protocol.Follows.bind
    apply Protocol.Follows.of_calls (Handler.calls_any _).inl
    · rintro query ⟨first, rfl, -⟩
      exact ⟨trivial, fun answer => rfl⟩
    · rintro (error | value) <;> trivial
  | convert expenseId user activityAttachmentId =>
    apply Protocol.Follows.bind
    apply follows_convert.mono
    rintro (error | response) stage ended <;> cases stage <;> exact ended

/-! ## What a call does -/

variable {query : surface.Call} {before after : World} {answer : Except Exception (surface.Answer query)}

/-- The attachments of activities stay, and those of expenses only become more. -/
theorem serve_frame (query : surface.Call) (world : World) :
    (serve query world).2.attachments = world.attachments ∧
      ∀ row ∈ world.expenseAttachments.rows, row ∈ (serve query world).2.expenseAttachments.rows := by
  cases query with
  | inl query => exact ⟨rfl, fun row listed => listed⟩
  | inr query =>
    cases query with
    | findActivityAttachment id => exact ⟨rfl, fun row listed => listed⟩
    | createAttachment data =>
      simp only [serve, createAttachment]
      split
      · exact ⟨rfl, fun row listed => listed⟩
      · rename_i inserted
        exact ⟨rfl, fun row listed => by simp [Table.rows_insert inserted, listed]⟩
    | updateActivityId id activityId =>
      simp only [serve, updateActivityId]
      split
      · exact ⟨rfl, fun row listed => listed⟩
      · split <;> exact ⟨rfl, fun row listed => listed⟩
    | createSignedDownloadUrl path => exact ⟨rfl, fun row listed => listed⟩

theorem frame (answers : Answers (conversions config start) query before answer after) :
    after.attachments = before.attachments ∧
      ∀ row ∈ before.expenseAttachments.rows, row ∈ after.expenseAttachments.rows := by
  obtain ⟨-, rfl⟩ | ⟨error, -, -, rfl⟩ := answers.elim
  · exact serve_frame query before
  · exact ⟨rfl, fun row listed => listed⟩

/-- A row that was inserted has what was given for it, and its expense lives on. -/
theorem createAttachment_cases {data : NewAttachment} {saved : ExpenseAttachmentEntity}
    (created : (createAttachment data before).1 = .ok saved) :
    (∃ row ∈ (createAttachment data before).2.expenseAttachments.rows,
        row.expenseId = data.expenseId ∧ row.fileUrl = data.fileUrl) ∧
      ∀ expenseId, (createAttachment data before).2.alive expenseId = before.alive expenseId := by
  unfold createAttachment at created ⊢
  dsimp only at created ⊢
  split
  · rename_i refused
    rw [refused] at created
    cases created
  · rename_i inserted
    refine ⟨⟨data.saved before.generated before.expenses.clock, ?_, rfl, rfl⟩, fun _ => rfl⟩
    simp [Table.rows_insert inserted]

theorem createAttachment_error {data : NewAttachment} {error : Exception}
    (refused : (createAttachment data before).1 = .error error) :
    (createAttachment data before).2 = before := by
  unfold createAttachment at refused ⊢
  dsimp only at refused ⊢
  split
  · rfl
  · rename_i inserted
    rw [inserted] at refused
    cases refused

/-- An expense that is alive gets the activity. -/
theorem updateActivityId_cases {id activityId : Uuid} {affected : Bool} (alive : before.alive id = true)
    (updated : (updateActivityId id activityId before).1 = .ok affected) :
    (updateActivityId id activityId before).2.activityId id = some activityId ∧
      (updateActivityId id activityId before).2.expenseAttachments = before.expenseAttachments := by
  unfold updateActivityId at updated ⊢
  split
  · rename_i locked
    rw [if_pos locked] at updated
    cases updated
  · split
    · rename_i absent
      unfold World.alive at alive
      rw [Option.any_eq_true] at alive
      obtain ⟨row, found, undeleted⟩ := alive
      rw [found, Option.filter_some, if_pos undeleted] at absent
      cases absent
    · exact ⟨Function.update_self .., rfl⟩

/-! ## What a conversion knows -/

/-- The expense is alive and has an attachment with the key. -/
def World.Attached (world : World) (expenseId : Uuid) (attachment : ActAttachmentEntity) : Prop :=
  world.alive expenseId = true ∧ ∃ row ∈ world.expenseAttachments.rows,
    row.expenseId = expenseId ∧ row.fileUrl = attachment.fileUrl

/-- What holds of the world, and of the past of a request, at its stage: of the expense, as
long as nobody else has written since. -/
def Knows (world : World) (thread : Thread (conversions config start)) (fresh : Prop) : Prop :=
  match stageOf thread with
  | .other => True
  | .checking _ _ => ∀ event ∈ thread.past, Unwritten event.before event.after
  | .found _ attachmentId attachment => world.attachments.get attachmentId = some attachment ∧
      ∀ event ∈ thread.past, Unwritten event.before event.after
  | .inserted expenseId attachmentId attachment =>
      world.attachments.get attachmentId = some attachment ∧
        (fresh → world.Attached expenseId attachment)
  | .linked expenseId attachmentId attachment =>
      world.attachments.get attachmentId = some attachment ∧
        (fresh → world.Attached expenseId attachment ∧
          world.activityId expenseId = some attachment.activityId)
  | .broken => False

variable {thread acting : Thread (conversions config start)}
  {cfg cfg' : Interleaving.Config (conversions config start)}
  {move : Move (conversions config start)} {event : Event (conversions config start)}
  {rest : Handler surface Exception Reply}

/-- An attachment stays, where the expense does. -/
theorem World.Attached.stays (attached : before.Attached expenseId attachment)
    (rows : ∀ row ∈ before.expenseAttachments.rows, row ∈ after.expenseAttachments.rows)
    (alive : before.alive expenseId = true → after.alive expenseId = true) :
    after.Attached expenseId attachment := by
  obtain ⟨living, row, listed, same⟩ := attached
  exact ⟨alive living, row, rows row listed, same⟩

theorem Knows.weaken {fresh fresher : Prop} (knows : Knows after thread fresh)
    (implied : fresher → fresh) : Knows after thread fresher := by
  unfold Knows at knows ⊢
  generalize stageOf thread = stage at *
  cases stage with
  | inserted => exact ⟨knows.1, fun still => knows.2 (implied still)⟩
  | linked => exact ⟨knows.1, fun still => knows.2 (implied still)⟩
  | _ => exact knows

/-- What a request knows, the steps of others leave. -/
theorem Knows.left (knows : Knows before thread (underway thread = true))
    (same : after.attachments = before.attachments)
    (rows : ∀ row ∈ before.expenseAttachments.rows, row ∈ after.expenseAttachments.rows)
    (alive : underway thread = true → ∀ expenseId, (stageOf thread).half = some expenseId →
      before.alive expenseId = true → after.alive expenseId = true)
    (activity : underway thread = true → ∀ expenseId, (stageOf thread).whole = some expenseId →
      after.activityId expenseId = before.activityId expenseId) :
    Knows after thread (underway thread = true) := by
  unfold Knows at knows ⊢
  generalize stageOf thread = stage at *
  cases stage with
  | other => trivial
  | checking expenseId attachmentId => exact knows
  | found expenseId attachmentId attachment =>
    rw [same]
    exact knows
  | inserted expenseId attachmentId attachment =>
    rw [same]
    refine ⟨knows.1, fun still => ?_⟩
    exact (knows.2 still).stays rows (alive still expenseId rfl)
  | linked expenseId attachmentId attachment =>
    rw [same]
    refine ⟨knows.1, fun still => ?_⟩
    obtain ⟨attached, linked⟩ := knows.2 still
    exact ⟨attached.stays rows (alive still expenseId rfl), (activity still expenseId rfl).trans linked⟩
  | broken => exact knows

/-! ## Its own calls -/

theorem attachment_found {id : Uuid} {found : ActAttachmentEntity × Option ActivityEntity}
    (answers : Answers (conversions config start) (.inr (.findActivityAttachment id)) before
      (.ok (some found)) after) : after.attachments.get id = some found.1 := by
  obtain ⟨answered, rfl⟩ | ⟨error, -, fails, -⟩ := answers.elim
  · obtain ⟨attachment, there, rfl⟩ := Option.map_eq_some_iff.mp (Except.ok.inj answered).symm
    exact there
  · cases fails

theorem attachment_created {data : NewAttachment} {saved : ExpenseAttachmentEntity}
    (answers : Answers (conversions config start) (.inr (.createAttachment data)) before (.ok saved) after)
    (alive : before.alive data.expenseId = true) (key : data.fileUrl = attachment.fileUrl) :
    after.Attached data.expenseId attachment := by
  obtain ⟨answered, rfl⟩ | ⟨error, -, fails, -⟩ := answers.elim
  · obtain ⟨⟨row, listed, same, given⟩, lives⟩ := createAttachment_cases answered.symm
    exact ⟨(lives data.expenseId).trans alive, row, listed, same, given.trans key⟩
  · cases fails

theorem activity_set {id activityId : Uuid} {affected : Bool}
    (answers : Answers (conversions config start) (.inr (.updateActivityId id activityId)) before
      (.ok affected) after) (alive : before.alive id = true) :
    after.activityId id = some activityId := by
  obtain ⟨answered, rfl⟩ | ⟨error, -, fails, -⟩ := answers.elim
  · exact (updateActivityId_cases alive answered.symm).1
  · cases fails

theorem unwritten_failed {query : surface.Call} {error : Exception}
    (answers : Answers (conversions config start) query before (.error error) after)
    (same : (serve query before).1 = .error error → (serve query before).2 = before) :
    Unwritten before after := by
  obtain ⟨answered, rfl⟩ | ⟨error, -, -, rfl⟩ := answers.elim
  · have kept := same answered.symm
    exact ⟨congrArg World.expenseAttachments kept, congrArg World.activityId kept⟩
  · exact ⟨rfl, rfl⟩

theorem unwritten_served {query : surface.Call} {answer : Except Exception (surface.Answer query)}
    (answers : Answers (conversions config start) query before answer after)
    (same : ∀ world, (serve query world).2.expenseAttachments = world.expenseAttachments ∧
      (serve query world).2.activityId = world.activityId) :
    Unwritten before after := by
  obtain ⟨-, rfl⟩ | ⟨error, -, -, rfl⟩ := answers.elim
  · exact same before
  · exact ⟨rfl, rfl⟩

theorem stageOf_after : stageOf (thread.after event rest) =
    converting.next (stageOf thread) event.query event.answer := rfl

/-- The calls of each stage. -/
theorem permits_cases {stage : Stage} {query : surface.Call} (permitted : converting.permits stage query) :
    (stage = .other ∧ ∃ first, query = .inl first) ∨
    (∃ expenseId attachmentId, stage = .checking expenseId attachmentId ∧
      ((∃ first, query = .inl first) ∨ query = .inr (.findActivityAttachment attachmentId))) ∨
    (∃ attachmentId attachment data, stage = .found data.expenseId attachmentId attachment ∧
      query = .inr (.createAttachment data) ∧ data.fileUrl = attachment.fileUrl) ∨
    (∃ expenseId attachmentId attachment, stage = .inserted expenseId attachmentId attachment ∧
      query = .inr (.updateActivityId expenseId attachment.activityId)) ∨
    ∃ expenseId attachmentId attachment path, stage = .linked expenseId attachmentId attachment ∧
      query = .inr (.createSignedDownloadUrl path) := by
  cases stage with
  | other =>
    cases query with
    | inl first => exact .inl ⟨rfl, first, rfl⟩
    | inr query => cases permitted
  | checking expenseId attachmentId =>
    refine .inr (.inl ⟨expenseId, attachmentId, rfl, ?_⟩)
    cases query with
    | inl first => exact .inl ⟨first, rfl⟩
    | inr query =>
      cases query <;> cases permitted
      exact .inr rfl
  | found expenseId attachmentId attachment =>
    cases query with
    | inl first => cases permitted
    | inr query =>
      cases query <;> try cases permitted
      rename_i data same key
      exact .inr (.inr (.inl ⟨attachmentId, attachment, data, same ▸ rfl, rfl, key⟩))
  | inserted expenseId attachmentId attachment =>
    cases query with
    | inl first => cases permitted
    | inr query =>
      cases query <;> try cases permitted
      rename_i id activityId same other
      exact .inr (.inr (.inr (.inl ⟨expenseId, attachmentId, attachment, rfl, same ▸ other ▸ rfl⟩)))
  | linked expenseId attachmentId attachment =>
    cases query with
    | inl first => cases permitted
    | inr query =>
      cases query <;> cases permitted
      exact .inr (.inr (.inr (.inr ⟨expenseId, attachmentId, attachment, _, rfl, rfl⟩)))
  | broken => cases query <;> cases permitted

/-- What a request knows, its own next step leaves or makes. -/
theorem Knows.acted (knows : Knows cfg.world thread (underway thread = true))
    (follows : converting.Follows ends (stageOf thread) thread.rest)
    (acts : cfg.acts move = some (thread, event, rest)) (leaves : Leaves cfg thread event) :
    Knows event.after (thread.after event rest) True := by
  obtain ⟨mine, query, next, answer, after, shape, rfl, rfl, answers⟩ := acts_cases acts
  have still : underway thread = true := by
    unfold underway
    rw [shape]
  obtain ⟨kept, rows⟩ := frame answers
  have lives := leaves.alive thread mine still
  have activity := leaves.activity thread mine still
  have success := leaves.success
  have insertion := leaves.insertion
  rw [shape] at follows
  obtain ⟨permitted, -⟩ := follows
  unfold Knows at knows ⊢
  rw [stageOf_after]
  dsimp only at lives activity success insertion kept rows ⊢
  generalize stageOf thread = stage at *
  rcases permits_cases permitted with ⟨rfl, first, rfl⟩ | ⟨expenseId, attachmentId, rfl, checks⟩ |
    ⟨attachmentId, attachment, data, rfl, rfl, key⟩ | ⟨expenseId, attachmentId, attachment, rfl, rfl⟩ |
    ⟨expenseId, attachmentId, attachment, path, rfl, rfl⟩
  · trivial
  · have unwritten : ∀ event ∈ (thread.after ⟨cfg.world, query, answer, after⟩ (next answer)).past,
        Unwritten event.before event.after := by
      intro event there
      rcases List.mem_cons.mp there with rfl | earlier
      · apply unwritten_served answers
        intro world
        rcases checks with ⟨first, rfl⟩ | rfl <;> exact ⟨rfl, rfl⟩
      · exact knows event earlier
    rcases checks with ⟨first, rfl⟩ | rfl
    · exact unwritten
    · rcases answer with error | (_ | found)
      · exact unwritten
      · exact unwritten
      · exact ⟨attachment_found answers, unwritten⟩
  · obtain ⟨there, unwritten⟩ := knows
    cases answer with
    | ok saved =>
      refine ⟨kept ▸ there, fun _ => ?_⟩
      exact attachment_created answers (insertion data saved rfl rfl) key
    | error error =>
      refine ⟨kept ▸ there, fun event member => ?_⟩
      rcases List.mem_cons.mp member with rfl | earlier
      · exact unwritten_failed answers createAttachment_error
      · exact unwritten event earlier
  · obtain ⟨there, attached⟩ := knows
    cases answer with
    | ok affected =>
      refine ⟨kept ▸ there, fun _ => ⟨(attached still).stays rows (lives expenseId rfl), ?_⟩⟩
      exact activity_set answers (attached still).1
    | error error => exact absurd rfl (success rfl error)
  · obtain ⟨there, attached⟩ := knows
    cases answer with
    | ok viewUrl =>
      obtain ⟨attached, linked⟩ := attached still
      refine ⟨kept ▸ there, fun _ => ⟨attached.stays rows (lives expenseId rfl), ?_⟩⟩
      exact (activity expenseId rfl).trans linked
    | error error => exact absurd rfl (success rfl error)

/-- **In every run that leaves conversions alone each request knows what its stage tells.** -/
theorem knows_run (run : Run (conversions config start) LeavesConversions cfg) :
    ∀ thread ∈ cfg.threads, Knows cfg.world thread (underway thread = true) := by
  induction run with
  | start => simp
  | @step cfg cfg' move before leaves moved ih =>
    rcases advance_cases moved with ⟨how, rfl, rfl⟩ | ⟨entry, rfl, rfl⟩ | ⟨index, rfl, rfl⟩ |
      ⟨index, acting, event, rest, at_, acts, rfl⟩
    · intro thread member
      apply (ih thread member).left
      · cases how <;> rfl
      · cases how <;> exact fun row listed => listed
      · intro _ expenseId _ alive
        cases how with
        | expenses how => cases how <;> exact alive
        | generate id => exact alive
        | storage signed => exact alive
      · cases how <;> exact fun _ _ _ => rfl
    · intro thread member
      rcases List.mem_append.mp member with old | new
      · exact ih thread old
      · rw [List.mem_singleton] at new
        subst new
        cases entry with
        | expense entry => trivial
        | convert expenseId user attachmentId => exact fun event there => by cases there
    · exact fun thread member => ih thread (List.mem_of_mem_eraseIdx member)
    · have mine := List.mem_of_getElem? at_
      have leaves := leaves acting event rest acts
      intro thread member
      rcases List.mem_or_eq_of_mem_set member with old | rfl
      · obtain ⟨-, query, next, answer, after, -, rfl, -, answers⟩ := acts_cases acts
        obtain ⟨kept, rows⟩ := frame answers
        exact (ih thread old).left kept rows (leaves.alive thread old) (leaves.activity thread old)
      · have follows := before.follows (follows_handler config) acting mine
        exact ((ih acting mine).acted follows acts leaves).weaken fun _ => trivial

/-- The stages of one conversion. -/
def Stage.Of (expenseId attachmentId : Uuid) (stage : Stage) : Prop :=
  stage = .checking expenseId attachmentId ∨ stage = .broken ∨ ∃ attachment,
    stage = .found expenseId attachmentId attachment ∨
      stage = .inserted expenseId attachmentId attachment ∨
      stage = .linked expenseId attachmentId attachment

theorem Stage.Of.next {attachmentId : Uuid} {stage : Stage} (mine : stage.Of expenseId attachmentId)
    (query : surface.Call) (answer : Except Exception (surface.Answer query)) :
    (converting.next stage query answer).Of expenseId attachmentId := by
  rcases mine with rfl | rfl | ⟨attachment, rfl | rfl | rfl⟩
  · simp only [converting]
    split <;> simp_all [Stage.Of]
  · exact .inr (.inl rfl)
  · simp only [converting]
    split <;> simp_all [Stage.Of]
  · simp only [converting]
    split <;> simp_all [Stage.Of]
  · simp only [converting]
    split <;> simp_all [Stage.Of]

theorem stageOf_convert
    (entry : thread.entry = .convert expenseId user activityAttachmentId) :
    (stageOf thread).Of expenseId activityAttachmentId := by
  unfold stageOf
  rw [entry]
  induction thread.past with
  | nil => exact .inl rfl
  | cons event past ih => exact ih.next event.query event.answer

/-- **A conversion is done whole or not at all, in every run in which nothing comes between
its writes and its return.** -/
theorem convert_atomic (config : Expenses.Config) (start : World) : Atomic config start LeavesConversions := by
  intro cfg move cfg' thread event rest run leaves moved acts expenseId user attachmentId entry
  have mine := (acts_cases acts).1
  have follows := run.follows (follows_handler config) thread mine
  have knows := (knows_run run thread mine).acted follows acts (leaves thread event rest acts)
  have stage : (stageOf (thread.after event rest)).Of expenseId attachmentId :=
    stageOf_convert entry
  have ended : converting.Follows ends (stageOf (thread.after event rest)) rest := (follows.act acts).2
  rw [(advance_of_acts moved acts).1]
  unfold Knows at knows
  generalize stageOf (thread.after event rest) = last at *
  constructor
  · rintro reply rfl
    rcases stage with rfl | rfl | ⟨attachment, rfl | rfl | rfl⟩
    · exact ended.elim
    · exact ended.elim
    · exact ended.elim
    · exact ended.elim
    · obtain ⟨there, held⟩ := knows
      obtain ⟨⟨alive, row⟩, linked⟩ := held trivial
      exact ⟨alive, attachment, there, row, linked⟩
  · rintro error rfl
    rcases stage with rfl | rfl | ⟨attachment, rfl | rfl | rfl⟩
    · exact knows
    · exact knows.elim
    · exact knows.2
    · exact ended.elim
    · exact ended.elim

/-! ## One conversion, and one with a cancellation between its writes -/

/-- A pending expense of Ana, and an activity of the same bond with an attachment. -/
def consulted : World where
  expenses :=
    { Expenses.start with
      directory :=
        { Expenses.start.directory with
          isActiveBondForMember := fun _ _ => true
          findActiveMemberIds := fun _ => ["ana", "luis"] }
      expenses :=
        ⟨[{ id := "consulta"
            bondId := "bond"
            categoryId := none
            concept := "Consulta"
            description := none
            amount := 10000
            expenseDate := "2026-01-10"
            splitRatioPayer := 5000
            splitRatioOther := 5000
            status := .pending
            requestedBy := "ana"
            createdAt := 0
            updatedAt := 0 }], by simp⟩ }
  activityId _ := none
  expenseAttachments := .empty
  attachments :=
    ⟨[{ id := "receipt"
        activityId := "visit"
        fileUrl := "activities/bond/visit/receipt.pdf"
        fileName := "receipt.pdf"
        fileType := "application/pdf"
        uploadedBy := "ana"
        uploadedAt := 0 }], by simp⟩
  activities := ⟨[{ (default : ActivityEntity) with id := "visit", bondId := "bond" }], by simp⟩
  generated := "row"
  signed _ := none

def everyDay : Expenses.Config := ⟨none⟩

/-- `LeavesConversions`, as it is computed of a move. -/
def leavesAlone (cfg : Config (conversions config start)) (move : Move (conversions config start)) : Bool :=
  (cfg.acts move).all fun (thread, event, _) =>
    (match event with
      | ⟨_, .inr (.createAttachment data), .ok _, _⟩ => cfg.world.alive data.expenseId
      | _ => true) &&
    ((stageOf thread).half.isNone || event.answer.isOk) &&
    cfg.threads.all fun other => !underway other ||
      (((stageOf other).half.all fun id => !cfg.world.alive id || event.after.alive id) &&
        (stageOf other).whole.all fun id => event.after.activityId id = cfg.world.activityId id)

theorem leavesConversions_of_leavesAlone {cfg : Config (conversions config start)} {move : Move (conversions config start)}
    (shown : leavesAlone cfg move = true) : LeavesConversions cfg move := by
  intro thread event rest acts
  simp only [leavesAlone, acts, Option.all_some, Bool.and_eq_true, List.all_eq_true, Bool.or_eq_true,
    Bool.not_eq_true', Option.all_eq_true] at shown
  obtain ⟨⟨inserts, answers⟩, others⟩ := shown
  refine ⟨?_, ?_, ?_, ?_⟩
  · rintro data saved query answer
    split at inserts
    · cases query
      exact inserts
    · rename_i other
      obtain ⟨before, query', answer', after⟩ := event
      cases query
      exact (other before data saved after (by simpa using answer)).elim
  · intro half error answer
    rcases answers with none | ok
    · simp [Option.isNone_iff_eq_none.mp none] at half
    · rw [answer] at ok
      cases ok
  · intro other member under expenseId half alive
    rcases others other member with ended | ⟨left, -⟩
    · exact absurd (under.symm.trans ended) (by simp)
    · exact (left expenseId half).resolve_left (by simp [alive])
  · intro other member under expenseId whole
    rcases others other member with ended | ⟨-, left⟩
    · exact absurd (under.symm.trans ended) (by simp)
    · exact of_decide_eq_true (left expenseId whole)

/-- Ana converts the receipt; its last call is the next turn. -/
def converted : List (Move (conversions everyDay consulted)) :=
  .arrive (.convert "consulta" ⟨"ana", "user"⟩ "receipt") :: List.replicate 6 (.turn 0)

/-- Ana's conversion of the receipt returns. -/
def returnsConverted (cfg : Interleaving.Config (conversions everyDay consulted)) : Bool :=
  match cfg.acts (.turn 0) with
  | some (thread, _, .ret _) => match thread.entry with
    | .convert "consulta" ⟨"ana", "user"⟩ "receipt" => true
    | _ => false
  | _ => false

theorem convert_atomic_receipt : ∃ (cfg cfg' : Config (conversions everyDay consulted))
    (thread : Thread (conversions everyDay consulted)) (event : Event (conversions everyDay consulted)) (reply : Reply),
    Run (conversions everyDay consulted) LeavesConversions cfg ∧ LeavesConversions cfg (.turn 0) ∧
      advance (.turn 0) cfg = some cfg' ∧ cfg.acts (.turn 0) = some (thread, event, .ret reply) ∧
      thread.entry = .convert "consulta" ⟨"ana", "user"⟩ "receipt" ∧ cfg'.world.Converted "consulta" "receipt" := by
  obtain ⟨cfg, run, shown⟩ := exists_played (leavesAlone · · = true) converted
    (fun cfg => leavesAlone cfg (.turn 0) && returnsConverted cfg) (by decide +kernel)
  obtain ⟨leaves, shown⟩ := Bool.and_eq_true_iff.mp shown
  unfold returnsConverted at shown
  split at shown
  · rename_i thread event reply acts
    split at shown
    · rename_i entry
      have run := run.weaken fun _ _ known => leavesConversions_of_leavesAlone known
      have moved : advance (.turn 0) cfg = some _ := congrArg (Option.map _) acts
      exact ⟨cfg, _, thread, event, reply, run, leavesConversions_of_leavesAlone leaves, moved, acts, entry,
        (convert_atomic everyDay consulted cfg (.turn 0) _ thread event _ run (leavesConversions_of_leavesAlone leaves)
          moved acts _ _ _ entry).1 reply rfl⟩
    · cases shown
  · cases shown

/-- Ana converts the receipt, and cancels the expense before its activity is set. -/
def cancelledMeanwhile : List (Move (conversions everyDay consulted)) :=
  .arrive (.convert "consulta" ⟨"ana", "user"⟩ "receipt") :: List.replicate 5 (.turn 0) ++
    .arrive (.expense (.cancel "consulta" "ana")) :: List.replicate 7 (.turn 1) ++ [.turn 0]

/-- The conversion returns, and the expense is linked to no activity. -/
def returnsUnlinked (cfg : Interleaving.Config (conversions everyDay consulted)) : Bool :=
  match cfg.acts (.turn 0) with
  | some (thread, event, .ret _) => match thread.entry with
    | .convert "consulta" _ "receipt" => event.after.activityId "consulta" = none
    | _ => false
  | _ => false

/-- The conversion reports success: the expense is deleted, and its activity was not set. -/
theorem half_converted : ¬∀ config start, Atomic config start fun _ _ => True := by
  intro always
  obtain ⟨cfg, run, shown⟩ := exists_played (fun _ _ => True) cancelledMeanwhile returnsUnlinked
    (by decide +kernel)
  unfold returnsUnlinked at shown
  split at shown
  · rename_i thread event reply acts
    split at shown
    · rename_i user entry
      have moved : advance (.turn 0) cfg = some _ := congrArg (Option.map _) acts
      have whole := (always everyDay consulted cfg (.turn 0) _ thread event _ run trivial moved acts
        _ _ _ entry).1 reply rfl
      obtain ⟨-, attachment, -, -, linked⟩ := whole
      rw [(advance_of_acts moved acts).1, of_decide_eq_true shown] at linked
      cases linked
    · cases shown
  · cases shown

end ParentalCoord.Conversions

import ParentalCoord.Interleaving.Discipline
import ParentalCoord.Reports.PdfJobs

/-!
What a report goes through, whatever jobs run for it.

A job completes the report that it found unfinished when it began, without another look.  Every
job of a report stores its file under the same path, and so a second completion leaves the file
of the report as it was; it takes the report back from its delivery, though.
-/

namespace ParentalCoord.Reports.Pdf

open Interleaving Store

/-- What is completed or delivered has a file, which was stored under its path. -/
def Stored (world : World) : Prop :=
  ∀ report ∈ world.reports.rows, isFinished report.status →
    report.fileUrl = some (pdfPath report.toReportEntity) ∧
      ∃ body, (pdfPath report.toReportEntity, body) ∈ world.objects

/-- What is delivered stays so. -/
def KeepsDelivered (before after : World) : Prop :=
  ∀ id report, before.reports.get id = some report → report.status = .delivered →
    ∃ later, after.reports.get id = some later ∧ later.status = .delivered

/-- The file of a report that is completed or delivered stays the same. -/
def KeepsFile (before after : World) : Prop :=
  ∀ id report, before.reports.get id = some report → isFinished report.status →
    ∃ later, after.reports.get id = some later ∧ isFinished later.status ∧ later.fileUrl = report.fileUrl

/-- No event has written a row. -/
def Quiet (past : List (Event reporting)) : Prop :=
  ∀ event ∈ past, event.after.reports = event.before.reports

/-- What a report goes through, as far as the jobs go. -/
structure Lifecycle (cfg : Config reporting) : Prop where
  stored : Stored cfg.world
  delivered : ∀ thread ∈ cfg.threads, ∀ event ∈ thread.past, KeepsDelivered event.before event.after
  file : ∀ thread ∈ cfg.threads, ∀ event ∈ thread.past, KeepsFile event.before event.after
  thrown : ∀ thread ∈ cfg.threads, ∀ error, thread.rest = .throw error → Quiet thread.past

/-- The report is not delivered. -/
def World.undelivered (world : World) (id : Uuid) : Bool :=
  (world.reports.get id).all (·.status ≠ .delivered)

/-- No report is completed that is delivered by now. -/
def SparesDelivered (cfg : Config reporting) (move : Move reporting) : Bool :=
  match move, cfg.acts move with
  | .turn _, some (_, ⟨world, .markCompleted id _, _, _⟩, _) => world.undelivered id
  | _, _ => true

/-! ## What a call does -/

variable {sparing : Prop} {world before after : World} {query : Call} {id : Uuid} {entry : Entry}
  {past : List (Event reporting)} {answer : Except Exception (interface.Answer query)}

/-- Reports keep their bonds, and stored objects stay. -/
structure Onward (before after : World) : Prop where
  reports : ∀ id report, before.reports.get id = some report →
    ∃ later, after.reports.get id = some later ∧ later.bondId = report.bondId
  objects : ∀ path body, (path, body) ∈ before.objects → ∃ body, (path, body) ∈ after.objects

theorem Onward.refl (world : World) : Onward world world :=
  ⟨fun _ report found => ⟨report, found, rfl⟩, fun _ body there => ⟨body, there⟩⟩

theorem Onward.trans {first second third : World} (earlier : Onward first second)
    (later : Onward second third) : Onward first third := by
  refine ⟨fun id report found => ?_, fun path body there => ?_⟩
  · obtain ⟨middle, known, same⟩ := earlier.reports id report found
    obtain ⟨last, there, again⟩ := later.reports id middle known
    exact ⟨last, there, again.trans same⟩
  · obtain ⟨body, there⟩ := earlier.objects path body there
    exact later.objects path body there

theorem onward_of_same (same : after.reports = before.reports) (objects : after.objects = before.objects) :
    Onward before after :=
  ⟨fun _ report found => ⟨report, same ▸ found, rfl⟩, fun _ body there => ⟨body, objects ▸ there⟩⟩

/-- A report that is written over, with its bond, in a world that is the same otherwise. -/
structure Rewrites (before after : World) (old new : StoredReport) : Prop where
  found : before.reports.get new.id = some old
  bond : new.bondId = old.bondId
  reports : after.reports = before.reports.put new
  objects : after.objects = before.objects

variable {old new : StoredReport}

theorem Rewrites.get (rewrites : Rewrites before after old new) (id : Uuid) :
    after.reports.get id = if id = new.id then some new else before.reports.get id := by
  rw [rewrites.reports, Table.get_put]
  split
  · rename_i same
    rw [same, rewrites.found, Option.map_some]
  · rfl

theorem Rewrites.onward (rewrites : Rewrites before after old new) : Onward before after := by
  refine ⟨fun id report found => ?_, fun path body there => ⟨body, rewrites.objects ▸ there⟩⟩
  rw [rewrites.get]
  split
  · rename_i same
    rw [same, rewrites.found, Option.some.injEq] at found
    exact ⟨new, rfl, found ▸ rewrites.bond⟩
  · exact ⟨report, found, rfl⟩

/-- Every report has what it had to have, when the one that is written has it. -/
theorem Rewrites.stored (rewrites : Rewrites before after old new) (stored : Stored before)
    (own : isFinished new.status → new.fileUrl = some (pdfPath new.toReportEntity) ∧
      ∃ body, (pdfPath new.toReportEntity, body) ∈ before.objects) : Stored after := by
  intro report there finished
  rw [rewrites.objects]
  rw [rewrites.reports] at there
  rcases Table.mem_put there with known | rfl
  · exact stored report known finished
  · exact own finished

/-- It is not the completion of a report. -/
def Call.plain : Call → Bool
  | .markCompleted _ _ => false
  | _ => true

/-- It writes no report. -/
def Call.reads : Call → Bool
  | .markCompleted _ _ | .create _ => false
  | _ => true

/-- What a call may do to the reports and to what is stored. -/
structure Kind (sparing : Prop) (before after : World) : Prop where
  onward : Onward before after
  file : KeepsFile before after
  delivered : sparing → KeepsDelivered before after

theorem kind_of_kept (kept : ∀ id report, before.reports.get id = some report →
      after.reports.get id = some report)
    (objects : ∀ path body, (path, body) ∈ before.objects → ∃ body, (path, body) ∈ after.objects) :
    Kind sparing before after where
  onward := ⟨fun _ _ found => ⟨_, kept _ _ found, rfl⟩, objects⟩
  file _ _ found finished := ⟨_, kept _ _ found, finished, rfl⟩
  delivered _ _ _ found delivered := ⟨_, kept _ _ found, delivered⟩

theorem kind_of_same (same : after.reports = before.reports) (objects : after.objects = before.objects) :
    Kind sparing before after :=
  kind_of_kept (fun _ _ found => same ▸ found) fun _ body there => ⟨body, objects ▸ there⟩

theorem Stored.of_same (stored : Stored before) (same : after.reports = before.reports)
    (objects : ∀ path body, (path, body) ∈ before.objects → ∃ body, (path, body) ∈ after.objects) :
    Stored after := by
  intro report there finished
  rw [same] at there
  obtain ⟨url, body, kept⟩ := stored report there finished
  exact ⟨url, objects _ body kept⟩

/-- An upload adds its object, and takes no key away. -/
theorem objects_uploadObject (path : String) (pdf : List UInt8) (other : String) (body : List UInt8)
    (there : (other, body) ∈ world.objects) :
    ∃ body, (other, body) ∈ (world.uploadObject path pdf).2.objects := by
  unfold World.uploadObject
  split
  · by_cases same : other = path
    · exact ⟨pdf, List.mem_append_right _ (by rw [same]; exact List.mem_cons_self)⟩
    · exact ⟨body, List.mem_append_left _ (List.mem_filter.mpr ⟨there, by simpa using same⟩)⟩
  · exact ⟨body, there⟩

theorem reports_uploadObject (path : String) (pdf : List UInt8) :
    (world.uploadObject path pdf).2.reports = world.reports := by
  unfold World.uploadObject
  split <;> rfl

/-- What comes back of an upload is the path of an object that is there. -/
theorem uploaded {path stored : String} {pdf : List UInt8}
    (answered : (world.uploadObject path pdf).1 = some stored) :
    stored = path ∧ ∃ body, (path, body) ∈ (world.uploadObject path pdf).2.objects := by
  unfold World.uploadObject at answered ⊢
  split at answered
  · rename_i works
    cases answered
    rw [if_pos works]
    exact ⟨rfl, pdf, List.mem_append_right _ List.mem_cons_self⟩
  · cases answered

/-- A call that writes no report. -/
theorem serve_reads (reads : query.reads) (world : World) :
    (serve query world).2.reports = world.reports ∧
      ∀ path body, (path, body) ∈ world.objects → ∃ body, (path, body) ∈ (serve query world).2.objects := by
  cases query with
  | create data => cases reads
  | markCompleted id data => cases reads
  | uploadObject path pdf contentType =>
    exact ⟨reports_uploadObject path pdf, objects_uploadObject path pdf⟩
  | addJob job =>
    by_cases accepted : acceptsJobId job.id
    · simp only [serve, if_pos accepted]
      exact ⟨trivial, fun _ body there => ⟨body, there⟩⟩
    · simp only [serve, if_neg accepted]
      exact ⟨trivial, fun _ body there => ⟨body, there⟩⟩
  | _ => exact ⟨rfl, fun _ body there => ⟨body, there⟩⟩

/-- A report that is requested is not finished, and one that is refused leaves no row. -/
theorem stored_create {data : CreateReportRow} (requested : data.status = .requested)
    (stored : Stored world) : Stored (world.create data).2 ∧ Kind sparing world (world.create data).2 ∧
      ∀ error, (world.create data).1 = .error error → (world.create data).2.reports = world.reports := by
  unfold World.create
  dsimp only
  split
  · exact ⟨stored, kind_of_same rfl rfl, fun _ _ => rfl⟩
  · rename_i reports inserted
    refine ⟨fun report there finished => ?_,
      kind_of_kept (fun id report found => ?_) (fun _ body there => ⟨body, there⟩), nofun⟩
    · simp only [Table.rows_insert inserted, List.mem_append, List.mem_singleton] at there
      rcases there with known | rfl
      · exact stored report known finished
      · simp [isFinished, requested] at finished
    · obtain ⟨free, added⟩ := Table.get_insert inserted
      change reports.get id = some report
      rw [added]
      split
      · rename_i same
        rw [same, free] at found
        cases found
      · exact found

/-- A completion that tells the path of its report. -/
theorem stored_markCompleted (data : CompleteReportRow) (stored : Stored world)
    (own : ∀ report, world.reports.get id = some report → data.fileUrl = pdfPath report.toReportEntity ∧
      ∃ body, (pdfPath report.toReportEntity, body) ∈ world.objects)
    (undelivered : sparing → world.undelivered id) :
    Stored (world.markCompleted id data) ∧ Kind sparing world (world.markCompleted id data) := by
  unfold World.markCompleted
  cases found : world.reports.get id with
  | none => exact ⟨stored, kind_of_same rfl rfl⟩
  | some report =>
    obtain ⟨url, body, there⟩ := own report found
    let completed : StoredReport :=
      { report with
        status := .completed
        fileUrl := some data.fileUrl
        generatedAt := some data.generatedAt
        generatedBy := some data.generatedBy }
    have key := Table.key_of_get found
    have rewrites : Rewrites world { world with reports := world.reports.put completed } report completed :=
      ⟨key ▸ found, rfl, rfl, rfl⟩
    refine ⟨rewrites.stored stored fun _ => ⟨congrArg some url, body, there⟩, rewrites.onward, ?_, ?_⟩
    · intro other old known finished
      rw [rewrites.get]
      split
      · rename_i same
        rw [same, key, found, Option.some.injEq] at known
        subst known
        have before := (stored report (Table.mem_of_get found) finished).1
        exact ⟨completed, rfl, rfl, (congrArg some url).trans before.symm⟩
      · exact ⟨old, known, finished, rfl⟩
    · intro assumed other old known delivered
      rw [rewrites.get]
      split
      · rename_i same
        rw [same, key, found, Option.some.injEq] at known
        subst known
        have spared := undelivered assumed
        simp [World.undelivered, found, delivered] at spared
      · exact ⟨old, known, delivered⟩

/-! ## Requests and jobs -/

/-- What has failed has written no report. -/
def FailsQuiet {α : Type} (result : Except Exception α) (past : List (Event reporting)) : Prop :=
  match result with
  | .ok _ => True
  | .error _ => Quiet past

/-- A completion that is served is of a report that is not delivered. -/
def Spared : Event reporting → Prop
  | ⟨world, .markCompleted id _, .ok _, _⟩ => world.undelivered id = true
  | _ => True

/-- Where completions spare what is delivered, what is delivered stays so. -/
def lifetime (sparing : Prop) : Discipline reporting where
  inv := Stored
  rely := Onward
  assumes _ _ event := sparing → Spared event
  guar _ _ event := Kind sparing event.before event.after
  post _ := FailsQuiet

theorem Quiet.cons {event : Event reporting} (quiet : Quiet past)
    (same : event.after.reports = event.before.reports) : Quiet (event :: past) := by
  intro other member
  rcases List.mem_cons.mp member with rfl | earlier
  · exact same
  · exact quiet other earlier

/-- A read that goes on with what it was answered. -/
theorem reads_bind {α : Type} {rest : interface.Answer query → Request α} (reads : query.reads)
    (quiet : Quiet past) (more : ∀ before value after, Answers reporting query before (.ok value) after →
      Quiet (⟨before, query, .ok value, after⟩ :: past) →
      (lifetime sparing).Keeps entry FailsQuiet (rest value) (⟨before, query, .ok value, after⟩ :: past)) :
    (lifetime sparing).Keeps entry FailsQuiet ((perform query).bind rest) past := by
  refine .perform_bind fun before answer after _ stored answers _ => ?_
  have kept : after.reports = before.reports ∧ ∀ path body, (path, body) ∈ before.objects →
      ∃ body, (path, body) ∈ after.objects := by
    rcases answers.elim with ⟨-, rfl⟩ | ⟨-, -, -, rfl⟩
    · exact serve_reads reads before
    · exact ⟨rfl, fun _ body there => ⟨body, there⟩⟩
  have still : Quiet (⟨before, query, answer, after⟩ :: past) := quiet.cons kept.1
  refine ⟨kind_of_kept (fun id report found => kept.1 ▸ found) kept.2, stored.of_same kept.1 kept.2, ?_⟩
  cases answer with
  | error error => exact still
  | ok value => exact more before value after answers still

theorem mustFind_bind {α : Type} {rest : StoredReport → Request α} (quiet : Quiet past)
    (more : ∀ world report after, world.reports.get report.id = some report → Onward world after →
      Quiet (⟨world, .findById id, .ok (some report), after⟩ :: past) →
      (lifetime sparing).Keeps entry FailsQuiet (rest report)
        (⟨world, .findById id, .ok (some report), after⟩ :: past)) :
    (lifetime sparing).Keeps entry FailsQuiet ((mustFind id).bind rest) past := by
  unfold mustFind
  simp only [Handler.bind_eq, Handler.bind_assoc]
  refine reads_bind rfl quiet fun before found after answers quiet => ?_
  rcases answers.elim with ⟨same, stays⟩ | ⟨error, -, never, -⟩
  · have onward : Onward before after := stays ▸ .refl _
    cases found with
    | none => exact quiet
    | some report =>
      have known : before.reports.get id = some report := (Except.ok.inj same).symm
      have key := Table.key_of_get known
      exact more before report after (key ▸ known) onward quiet
  · cases never

/-- A job completes the report that it found, with the path that it stored the file under. -/
theorem renderAndStore_keeps {report : StoredReport} {world found : World}
    (known : world.reports.get report.id = some report) (onward : Onward world found) (quiet : Quiet past)
    (there : ∃ query answer before, (⟨before, query, answer, found⟩ : Event reporting) ∈ past) :
    (lifetime sparing).Keeps entry FailsQuiet (renderAndStore report) past := by
  obtain ⟨query, answer, first, there⟩ := there
  refine reads_bind rfl quiet fun _ data _ _ quiet => ?_
  refine reads_bind rfl quiet fun _ pdf _ _ quiet => ?_
  refine reads_bind rfl quiet fun before stored after answers quiet => ?_
  dsimp only
  cases kept : stored.filter truthy with
  | none => exact quiet
  | some path =>
    obtain ⟨rfl, -⟩ := Option.filter_eq_some_iff.mp kept
    have upload : path = pdfPath report.toReportEntity ∧
        ∃ body, (pdfPath report.toReportEntity, body) ∈ after.objects := by
      rcases answers.elim with ⟨same, rfl⟩ | ⟨error, -, never, -⟩
      · exact uploaded (Except.ok.inj same).symm
      · cases never
    refine reads_bind rfl quiet fun _ now _ _ quiet => ?_
    refine .perform fun later result last behind stored answers assumed => ?_
    have own : ∀ row, later.reports.get report.id = some row → path = pdfPath row.toReportEntity ∧
        ∃ body, (pdfPath row.toReportEntity, body) ∈ later.objects := by
      intro row current
      have seen : Onward found later :=
        (behind ⟨first, query, answer, found⟩ (by simp [there])).2
      obtain ⟨same, now_, bond⟩ := (onward.trans seen).reports _ report known
      rw [current, Option.some.injEq] at now_
      have path_eq : pdfPath row.toReportEntity = pdfPath report.toReportEntity := by
        have key := Table.key_of_get current
        unfold pdfPath
        rw [key, now_, bond]
      have since : Onward after later :=
        (behind ⟨before, .uploadObject (pdfPath report.toReportEntity) pdf "application/pdf", .ok (some path),
          after⟩ (by simp)).2
      obtain ⟨body, object⟩ := upload.2
      rw [path_eq]
      exact ⟨upload.1, since.objects _ body object⟩
    rcases answers.elim with ⟨rfl, rfl⟩ | ⟨error, -, rfl, rfl⟩
    · obtain ⟨finished, kind⟩ := stored_markCompleted ⟨path, now, report.requestedBy⟩ stored own assumed
      exact ⟨kind, finished, trivial⟩
    · exact ⟨kind_of_same rfl rfl, stored, quiet.cons rfl⟩

theorem generatePdf_keeps (reportId : Uuid) :
    (lifetime sparing).Keeps entry FailsQuiet (generatePdf reportId) [] := by
  refine mustFind_bind (by simp [Quiet]) fun world report found known onward quiet => ?_
  split
  · trivial
  · refine .bind ((renderAndStore_keeps known onward quiet ⟨_, _, _, List.mem_cons_self⟩).mono ?_)
    intro result later clean
    cases result with
    | ok _ => trivial
    | error error => exact clean

theorem toView_keeps {report : StoredReport} (quiet : Quiet past) :
    (lifetime sparing).Keeps entry FailsQuiet (toView report) past := by
  unfold toView
  split
  · exact reads_bind rfl quiet fun _ _ _ _ _ => trivial
  · trivial

theorem getReport_keeps (id : Uuid) : (lifetime sparing).Keeps entry FailsQuiet (getReport id) [] := by
  refine mustFind_bind (by simp [Quiet]) fun world report found known onward quiet => ?_
  refine .bind ((toView_keeps quiet).mono fun result later clean => ?_)
  cases result with
  | ok _ => trivial
  | error error => exact clean

/-- Once its report is stored, a request does not fail. -/
theorem enqueue_keeps (reportId : Uuid) :
    (lifetime sparing).Keeps entry (fun result _ => ∃ value, result = .ok value) (enqueue reportId) past := by
  refine .tryCatch (.perform fun before answer after _ stored answers _ => ?_)
  have kept : after.reports = before.reports ∧ ∀ path body, (path, body) ∈ before.objects →
      ∃ body, (path, body) ∈ after.objects := by
    rcases answers.elim with ⟨-, rfl⟩ | ⟨-, -, -, rfl⟩
    · exact serve_reads rfl before
    · exact ⟨rfl, fun _ body there => ⟨body, there⟩⟩
  refine ⟨kind_of_kept (fun id report found => kept.1 ▸ found) kept.2, stored.of_same kept.1 kept.2, ?_⟩
  cases answer with
  | ok value => exact ⟨value, rfl⟩
  | error error => exact ⟨(), rfl⟩

theorem requestPdf_keeps (bondId : Uuid) (period : BondReportPeriod) (requestedBy : Uuid) :
    (lifetime sparing).Keeps entry FailsQuiet (requestPdf bondId period requestedBy) [] := by
  have quiet : Quiet [] := by simp [Quiet]
  unfold requestPdf
  split
  · exact quiet
  · refine reads_bind rfl quiet fun _ bond _ _ quiet => ?_
    cases bond with
    | none => exact quiet
    | some bond =>
      refine .perform_bind fun before answer after _ stored answers _ => ?_
      rcases answers.elim with ⟨answered, rfl⟩ | ⟨error, -, rfl, rfl⟩
      · obtain ⟨created, kind, refused⟩ := @stored_create sparing before
          ⟨bondId, requestedBy, period.dateFrom, period.dateTo, .requested⟩ rfl stored
        refine ⟨kind, created, ?_⟩
        cases answer with
        | error error => exact quiet.cons (refused error answered.symm)
        | ok report =>
          refine .bind ((enqueue_keeps report.id).mono fun result later shown => ?_)
          obtain ⟨_, rfl⟩ := shown
          trivial
      · exact ⟨kind_of_same rfl rfl, stored, quiet.cons rfl⟩

theorem lifetime_sound (sparing : Prop) : (lifetime sparing).Sound where
  refl := .refl
  trans := .trans
  start := nofun
  nudge how world stored := by
    cases how with
    | tick ms => exact ⟨stored, onward_of_same rfl rfl⟩
    | surroundings surroundings => exact ⟨stored, onward_of_same rfl rfl⟩
    | deliver id =>
      change Stored (world.deliver id) ∧ Onward world (world.deliver id)
      unfold World.deliver
      split
      · exact ⟨stored, .refl _⟩
      · rename_i report kept
        obtain ⟨found, completed⟩ := Option.filter_eq_some_iff.mp kept
        have key := Table.key_of_get found
        let delivered : StoredReport := { report with status := .delivered }
        have rewrites : Rewrites world { world with reports := world.reports.put delivered } report delivered :=
          ⟨key ▸ found, rfl, rfl, rfl⟩
        refine ⟨rewrites.stored stored fun _ => ?_, rewrites.onward⟩
        refine stored report (Table.mem_of_get found) ?_
        simpa [isFinished] using Or.inl (of_decide_eq_true completed)
  guar_rely _ kind := kind.onward
  handlers entry := by
    cases entry with
    | requestPdf bondId period requestedBy => exact requestPdf_keeps bondId period requestedBy
    | getReport id => exact getReport_keeps id
    | generatePdf reportId => exact generatePdf_keeps reportId

theorem lifetime_supplied : (lifetime True).Supplies fun cfg move => SparesDelivered cfg move = true := by
  intro cfg move thread event rest run sparing acts _
  cases move with
  | nudge how => cases acts
  | arrive entry => cases acts
  | crash index => cases acts
  | turn index =>
    obtain ⟨world, query, answer, after⟩ := event
    cases query with
    | markCompleted id data =>
      cases answer with
      | ok _ =>
        simp only [SparesDelivered, acts] at sparing
        exact sparing
      | error _ => trivial
    | _ => trivial
  | fault index =>
    obtain ⟨error, same⟩ := failed_of_fault acts
    rw [same]
    cases event.query <;> trivial

/-! ## Every run -/

variable {cfg cfg' : Config reporting} {move : Move reporting}

theorem kind_of_lawful (lawful : (lifetime sparing).Lawful entry past) :
    ∀ event ∈ past, Kind sparing event.before event.after := by
  induction past with
  | nil => simp
  | cons event past ih =>
    intro other member
    rcases List.mem_cons.mp member with rfl | earlier
    · exact lawful.1
    · exact ih lawful.2 other earlier

theorem status_markCompleted (data : CompleteReportRow) {report later : StoredReport}
    (found : world.reports.get id = some report)
    (after : (world.markCompleted id data).reports.get id = some later) : later.status = .completed := by
  have key := Table.key_of_get found
  simp only [World.markCompleted, found, Table.get_put, key, if_true, Option.map_some,
    Option.some.injEq] at after
  rw [← after]

/-- A completion that does not spare it takes its report back from the delivery. -/
theorem not_lifecycle (moved : advance move cfg = some cfg') (unsparing : SparesDelivered cfg move = false) :
    ¬Lifecycle cfg' := by
  intro lifecycle
  cases move with
  | turn index =>
    unfold SparesDelivered at unsparing
    split at unsparing
    · rename_i thread world id data answer after rest _ acts
      obtain ⟨-, there⟩ := advance_of_acts moved acts
      obtain ⟨report, found, delivered⟩ : ∃ report, world.reports.get id = some report ∧
          report.status = .delivered := by
        cases found : world.reports.get id with
        | none => simp [World.undelivered, found] at unsparing
        | some report => exact ⟨report, rfl, by simpa [World.undelivered, found] using unsparing⟩
      obtain ⟨later, now_, still⟩ :=
        lifecycle.delivered _ there _ List.mem_cons_self id report found delivered
      have same := served_of_turn acts
      simp only [served, Event.mk.injEq, heq_eq_eq, true_and] at same
      obtain ⟨rfl, -, rfl⟩ := same
      rw [status_markCompleted data found now_] at still
      cases still
    · cases unsparing
  | _ => cases unsparing

/-- **The life of a report.** In every run that completes no report that is delivered, what is
completed or delivered has the file that was stored under its path, no request or job takes a
report back from its delivery or changes the file of one that is finished, and what has failed
has written no report; and a completion of a report that is delivered ends that. -/
theorem pdf_lifecycle {cfg : Config reporting}
    (run : Run reporting (fun cfg move => SparesDelivered cfg move = true) cfg) :
    Lifecycle cfg ∧ ∀ cfg' move, advance move cfg = some cfg' → SparesDelivered cfg move = false →
      ¬Lifecycle cfg' := by
  have sound := lifetime_sound True
  obtain ⟨stored, threads⟩ := run.disciplined sound lifetime_supplied
  refine ⟨⟨stored, fun thread member event there => ?_, fun thread member event there => ?_, ?_⟩,
    fun cfg' move => not_lifecycle⟩
  · exact (kind_of_lawful (threads thread member).lawful event there).delivered trivial
  · exact (kind_of_lawful (threads thread member).lawful event there).file
  · intro thread member error thrown
    exact (run.ended sound lifetime_supplied member).2 error thrown

/-- A bond with nothing in it. -/
def single : Surroundings where
  db := { noData with bonds := .singleton home }
  uuids _ := "r1"

def turns (index count : ℕ) : List (Move reporting) := List.replicate count (.turn index)

/-- A report is requested, and two jobs of it read it. -/
def duplicated : List (Move reporting) :=
  [.nudge (.surroundings single), .arrive (.requestPdf "b1" june "u1")] ++ turns 0 3 ++
    [.arrive (.generatePdf "r1"), .arrive (.generatePdf "r1"), .turn 1, .turn 2] ++ turns 1 5

/-- Both jobs complete it before it is delivered. -/
theorem pdf_lifecycle_duplicated : ∃ cfg, Run reporting (fun cfg move => SparesDelivered cfg move = true) cfg ∧
    cfg.world.reports.rows.map (·.status) = [.delivered] ∧ Lifecycle cfg ∧
      ∀ cfg' move, advance move cfg = some cfg' → SparesDelivered cfg move = false → ¬Lifecycle cfg' := by
  obtain ⟨cfg, run, shown⟩ := exists_played (fun cfg move => SparesDelivered cfg move = true)
    (duplicated ++ turns 2 5 ++ [.nudge (.deliver "r1")])
    (fun cfg => cfg.world.reports.rows.map (·.status) = [.delivered]) (by decide +kernel)
  exact ⟨cfg, run, of_decide_eq_true shown, pdf_lifecycle run⟩

/-- The second job completes it after it was delivered. -/
theorem pdf_undelivered : ¬∀ cfg, Reachable reporting cfg → Lifecycle cfg := by
  intro all
  obtain ⟨cfg, run, shown⟩ := exists_played (fun (_ : Config reporting) (_ : Move reporting) => True)
    (duplicated ++ [.nudge (.deliver "r1")] ++ turns 2 4)
    (fun cfg => (advance (.turn 2) cfg).isSome && !SparesDelivered cfg (.turn 2)) (by decide +kernel)
  simp only [Bool.and_eq_true, Bool.not_eq_true'] at shown
  obtain ⟨cfg', moved⟩ := Option.isSome_iff_exists.mp shown.1
  exact not_lifecycle moved shown.2 (all cfg' (run.step trivial moved))

end ParentalCoord.Reports.Pdf

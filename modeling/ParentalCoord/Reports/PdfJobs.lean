import ParentalCoord.Interleaving.Pool
import ParentalCoord.Reports.Repository

/-!
The life of a report: it is requested, rendered by a job, and delivered.

A job reads the report, renders it, uploads the file and marks the report completed, each in a
step of its own.  A job can be started again, and several jobs of one report can run at once.
An operator delivers a report that is completed.
-/

namespace ParentalCoord.Reports.Pdf

open Interleaving Store

/-- A row of `report`. -/
structure StoredReport extends ReportEntity where
  generatedBy : Option Uuid := none
  fileUrl : Option String := none
  generatedAt : Option Instant := none
  createdAt : Instant
  deriving DecidableEq

/-- `reports.service.ts::isFinished`: `COMPLETED` or `DELIVERED`. -/
def isFinished (status : ReportStatus) : Bool := status = .completed || status = .delivered

structure CreateReportRow where
  bondId : Uuid
  requestedBy : Uuid
  dateFrom : String
  dateTo : String
  status : ReportStatus

structure CompleteReportRow where
  fileUrl : String
  generatedAt : Instant
  generatedBy : Uuid

structure ReportView where
  id : Uuid
  bondId : Uuid
  status : ReportStatus
  dateFrom : String
  dateTo : String
  fileUrl : Option String
  generatedAt : Option Instant
  createdAt : Instant

/-! ## The world -/

structure Surroundings where
  /-- What a report is built from. -/
  db : Database
  /-- The renderer, where it does not fail. -/
  render : BondReport → List UInt8 := fun _ => []
  /-- There is a client of the storage. -/
  enabled : Bool := true
  /-- A call to the storage has no error. -/
  answers : Bool := true
  /-- The signed URL of a key. -/
  signed : String → Option String := fun _ => none
  /-- The ids that the database generates. -/
  uuids : ℕ → Uuid := fun _ => ""

structure World where
  clock : Instant
  reports : Table fun report : StoredReport => report.id
  /-- The objects in the bucket of the reports, with their keys. -/
  objects : List (String × List UInt8)
  /-- How many ids have been generated. -/
  generated : ℕ
  queue : JobQueue String ReportPdfJobData
  surroundings : Surroundings

inductive Call where
  | findBond (bondId : Uuid)
  | create (data : CreateReportRow)
  | addJob (job : ReportPdfJob)
  | findById (id : Uuid)
  | build (bondId : Uuid) (period : BondReportPeriod)
  | render (data : BondReport)
  | uploadObject (path : String) (body : List UInt8) (contentType : String)
  | now
  | markCompleted (id : Uuid) (data : CompleteReportRow)
  | createSignedReportDownloadUrl (path : String)

@[reducible] def interface : Interface where
  Call := Call
  Answer
    | .findBond _ => Option StoredBond
    | .create _ => StoredReport
    | .addJob _ => Unit
    | .findById _ => Option StoredReport
    | .build _ _ => BondReport
    | .render _ => List UInt8
    | .uploadObject _ _ _ => Option String
    | .now => Instant
    | .markCompleted _ _ => Unit
    | .createSignedReportDownloadUrl _ => Option String

/-- `reports.repository.ts::create`: `repository.create` and `save`. -/
def World.create (world : World) (data : CreateReportRow) : Except Exception StoredReport × World :=
  let report : StoredReport :=
    { id := world.surroundings.uuids world.generated
      bondId := data.bondId
      requestedBy := data.requestedBy
      dateFrom := data.dateFrom
      dateTo := data.dateTo
      status := data.status
      createdAt := world.clock }
  match world.reports.insert report with
  | none => (.error .fault, { world with generated := world.generated + 1 })
  | some reports => (.ok report, { world with reports := reports, generated := world.generated + 1 })

/-- `storage.service.ts::uploadObject`: the path comes back when the object is stored, over the one
that was there. -/
def World.uploadObject (world : World) (path : String) (body : List UInt8) : Option String × World :=
  if world.surroundings.enabled && world.surroundings.answers then
    (some path, { world with objects := world.objects.filter (·.1 ≠ path) ++ [(path, body)] })
  else (none, world)

/-- `reports.repository.ts::markCompleted`: `UPDATE report SET … WHERE id = …`, whatever the status of
the row is. -/
def World.markCompleted (world : World) (id : Uuid) (data : CompleteReportRow) : World :=
  match world.reports.get id with
  | none => world
  | some report =>
      { world with
        reports := world.reports.put
          { report with
            status := .completed
            fileUrl := some data.fileUrl
            generatedAt := some data.generatedAt
            generatedBy := some data.generatedBy } }

def serve (query : Call) (world : World) : Except Exception (interface.Answer query) × World :=
  match query with
  | .findBond bondId => (.ok (BondReportRepository.findBond world.surroundings.db bondId), world)
  | .create data => world.create data
  | .addJob job =>
      if acceptsJobId job.id then (.ok (), { world with queue := world.queue.add job })
      else (.error (.error "Custom Id cannot contain :"), world)
  | .findById id => (.ok (world.reports.get id), world)
  | .build bondId period => (BondReportService.build world.surroundings.db world.clock bondId period, world)
  | .render data => (.ok (world.surroundings.render data), world)
  | .uploadObject path body _ =>
      let (stored, after) := world.uploadObject path body
      (.ok stored, after)
  | .now => (.ok world.clock, world)
  | .markCompleted id data => (.ok (), world.markCompleted id data)
  | .createSignedReportDownloadUrl path =>
      (.ok (if world.surroundings.enabled && world.surroundings.answers then world.surroundings.signed path
        else none), world)

def failure : Call → Option Exception
  | .now => none
  | _ => some .fault

/-- How the world moves by itself. -/
inductive Nudge where
  | tick (ms : ℕ)
  | surroundings (surroundings : Surroundings)
  /-- An operator delivers a report that is completed. -/
  | deliver (id : Uuid)

def World.deliver (world : World) (id : Uuid) : World :=
  match (world.reports.get id).filter (·.status = .completed) with
  | none => world
  | some report => { world with reports := world.reports.put { report with status := .delivered } }

def nudge (how : Nudge) (world : World) : World :=
  match how with
  | .tick ms => { world with clock := world.clock + ms }
  | .surroundings surroundings => { world with surroundings := surroundings }
  | .deliver id => world.deliver id

def noData : Database where
  bonds := .empty
  activities := .empty
  expenses := .empty
  categories := .empty
  children := .empty
  activityChildren := []
  members := .empty
  users := .empty
  personalData := .empty

def start : World where
  clock := 0
  reports := .empty
  objects := []
  generated := 0
  queue := {}
  surroundings := { db := noData }

/-! ## ReportsService -/

abbrev Request := Handler interface Exception

def perform (query : Call) : Request (interface.Answer query) :=
  @Handler.perform interface Exception query

inductive Response where
  | requested (report : RequestedReport)
  | view (view : ReportView)
  | done

/-- `report-pdf.producer.ts::enqueue`: what goes wrong is logged only. -/
def enqueue (reportId : Uuid) : Request Unit :=
  tryCatch (perform (.addJob (reportPdfJob reportId))) fun _ => return ()

/-- `reports.service.ts::requestPdf`: the report is created, and its job is added. -/
def requestPdf (bondId : Uuid) (period : BondReportPeriod) (requestedBy : Uuid) : Request Response := do
  if before period.dateTo period.dateFrom then
    throw (badRequestException "dateTo must be on or after dateFrom")
  else match ← perform (.findBond bondId) with
  | none => throw (notFoundException ("Bond " ++ bondId ++ " not found"))
  | some _ =>
    let report ← perform (.create ⟨bondId, requestedBy, period.dateFrom, period.dateTo, .requested⟩)
    enqueue report.id
    return .requested ⟨report.id, report.status, report.bondId, report.dateFrom, report.dateTo⟩

def mustFind (id : Uuid) : Request StoredReport := do
  match ← perform (.findById id) with
  | none => throw (notFoundException ("Report " ++ id ++ " not found"))
  | some report => return report

/-- `reports.service.ts::toView`: the report with a link to its file, when it has one. -/
def toView (report : StoredReport) : Request ReportView := do
  let fileUrl ← match report.fileUrl.filter fun url => isFinished report.status && truthy url with
    | some path => perform (.createSignedReportDownloadUrl path)
    | none => pure none
  return {
    id := report.id
    bondId := report.bondId
    status := report.status
    dateFrom := report.dateFrom
    dateTo := report.dateTo
    fileUrl := fileUrl
    generatedAt := report.generatedAt
    createdAt := report.createdAt }

def getReport (id : Uuid) : Request Response := do
  let report ← mustFind id
  let view ← toView report
  return .view view

def pdfPath (report : ReportEntity) : String := "reports/" ++ report.bondId ++ "/" ++ report.id ++ ".pdf"

/-- Rendering, upload and completion of a report that was found unfinished. -/
def renderAndStore (report : StoredReport) : Request Unit := do
  let data ← perform (.build report.bondId ⟨report.dateFrom, report.dateTo⟩)
  let pdf ← perform (.render data)
  match (← perform (.uploadObject (pdfPath report.toReportEntity) pdf "application/pdf")).filter truthy with
  | none =>
    throw (.error ("Report PDF not stored: storage is not configured (report " ++ report.id ++ ")"))
  | some stored =>
    let generatedAt ← perform .now
    perform (.markCompleted report.id ⟨stored, generatedAt, report.requestedBy⟩)

def generatePdf (reportId : Uuid) : Request Response := do
  let report ← mustFind reportId
  if isFinished report.status then return .done
  else
    renderAndStore report
    return .done

/-- Requests, and jobs of reports: whether for the first time or again. -/
inductive Entry where
  | requestPdf (bondId : Uuid) (period : BondReportPeriod) (requestedBy : Uuid)
  | getReport (id : Uuid)
  | generatePdf (reportId : Uuid)

def handler : Entry → Request Response
  | .requestPdf bondId period requestedBy => requestPdf bondId period requestedBy
  | .getReport id => getReport id
  | .generatePdf reportId => generatePdf reportId

@[reducible] def reporting : System interface Exception Response where
  World := World
  Entry := Entry
  Nudge := Nudge
  start := start
  handler := handler
  serve := serve
  failure := failure
  nudge := nudge

end ParentalCoord.Reports.Pdf

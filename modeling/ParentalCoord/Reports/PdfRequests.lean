import ParentalCoord.Exceptions
import ParentalCoord.Store.JobQueue

/-!
Requests for the PDF of a report.

A request stores its report and asks for a job that renders it.  The queue can refuse the
job, and can be out of reach; the request succeeds all the same, and its report stays
requested.
-/

namespace ParentalCoord.Reports

open Store

inductive ReportStatus where
  | requested
  | inProgress
  | completed
  | delivered
  deriving DecidableEq

structure ReportEntity where
  id : Uuid
  bondId : Uuid
  requestedBy : Uuid
  dateFrom : String
  dateTo : String
  status : ReportStatus
  deriving DecidableEq

/-- The first and the last day of a report. -/
structure BondReportPeriod where
  dateFrom : String
  dateTo : String

/-- `a < b`, of strings. -/
def before (a b : String) : Prop := utf16 a < utf16 b

instance (a b : String) : Decidable (before a b) := inferInstanceAs (Decidable (_ < _))

structure ReportPdfJobData where
  reportId : Uuid
  deriving DecidableEq

abbrev ReportPdfJob := Job String ReportPdfJobData

/-- What the queue takes as the id of a job: no colon is in it. -/
def acceptsJobId (jobId : String) : Bool := ':' ∉ jobId.toList

structure World where
  bonds : List Uuid
  reports : Table ReportEntity.id := .empty
  queue : JobQueue String ReportPdfJobData := {}

/-- `queue.add`, of a queue that may be out of reach. -/
def World.add (world : World) (redisUp : Bool) (job : ReportPdfJob) :
    Except Exception (JobQueue String ReportPdfJobData) :=
  if redisUp then
    if acceptsJobId job.id then .ok (world.queue.add job)
    else .error (.error "Custom Id cannot contain :")
  else .error .fault

def reportPdfJob (reportId : Uuid) : ReportPdfJob where
  id := "report-pdf:" ++ reportId
  data := { reportId := reportId }
  attempts := some 2

/-- `report-pdf.producer.ts::enqueue`: what goes wrong is logged only. -/
def ReportPdfProducer.enqueue (world : World) (redisUp : Bool) (reportId : Uuid) : World :=
  match world.add redisUp (reportPdfJob reportId) with
  | .ok queue => { world with queue := queue }
  | .error _ => world

structure RequestedReport where
  id : Uuid
  status : ReportStatus
  bondId : Uuid
  dateFrom : String
  dateTo : String

/-- A request, with the id that its report gets and whether the queue answers. -/
structure PdfRequest where
  id : Uuid
  bondId : Uuid
  period : BondReportPeriod
  requestedBy : Uuid
  redisUp : Bool

/-- `reports.service.ts::requestPdf`: what is created, and the job that Redis is asked for. -/
def ReportsService.requestPdf (world : World) (request : PdfRequest) :
    Except Exception (RequestedReport × World) := do
  if before request.period.dateTo request.period.dateFrom then
    throw (badRequestException "dateTo must be on or after dateFrom")
  if request.bondId ∉ world.bonds then
    throw (notFoundException ("Bond " ++ request.bondId ++ " not found"))
  let report : ReportEntity :=
    { id := request.id
      bondId := request.bondId
      requestedBy := request.requestedBy
      dateFrom := request.period.dateFrom
      dateTo := request.period.dateTo
      status := .requested }
  match world.reports.insert report with
  | none => throw .fault
  | some reports =>
    let stored := ReportPdfProducer.enqueue { world with reports := reports } request.redisUp report.id
    return (⟨report.id, report.status, report.bondId, report.dateFrom, report.dateTo⟩, stored)

/-- What a request leaves; a rejected one leaves everything as it was. -/
def World.request (world : World) (request : PdfRequest) : World :=
  match ReportsService.requestPdf world request with
  | .ok (_, stored) => stored
  | .error _ => world

/-- A job waits to render the report, or renders it. -/
def World.rendering (world : World) (reportId : Uuid) : Prop :=
  ∃ job ∈ world.queue.jobs.rows, job.data.reportId = reportId

variable {world stored : World} {request : PdfRequest} {view : RequestedReport}

theorem reportPdfJob_refused (reportId : Uuid) : acceptsJobId (reportPdfJob reportId).id = false := by
  simp [acceptsJobId, reportPdfJob]

theorem enqueue_refused (redisUp : Bool) (reportId : Uuid) :
    ReportPdfProducer.enqueue world redisUp reportId = world := by
  unfold ReportPdfProducer.enqueue World.add
  rw [reportPdfJob_refused]
  cases redisUp <;> rfl

/-- An accepted request stores its report, and its job is refused. -/
theorem requestPdf_accepted (accepted : ReportsService.requestPdf world request = .ok (view, stored)) :
    stored.queue = world.queue ∧ ∃ report ∈ stored.reports.rows, report.id = view.id := by
  unfold ReportsService.requestPdf at accepted
  by_cases order : before request.period.dateTo request.period.dateFrom
  · rw [if_pos order] at accepted
    cases accepted
  · rw [if_neg order] at accepted
    by_cases known : request.bondId ∉ world.bonds
    · simp only [if_pos known] at accepted
      cases accepted
    · simp only [if_neg known] at accepted
      split at accepted
      · cases accepted
      · rename_i reports inserted
        cases accepted
        rw [enqueue_refused]
        have rows := Table.rows_insert inserted
        refine ⟨rfl, ?_⟩
        simp only [rows]
        exact ⟨_, List.mem_append_right _ List.mem_cons_self, rfl⟩

theorem request_queue (world : World) (request : PdfRequest) :
    (world.request request).queue = world.queue := by
  unfold World.request
  split
  · rename_i accepted
    exact (requestPdf_accepted accepted).1
  · rfl

/-- Requests leave the queue as it was. -/
theorem requests_queue (world : World) (requests : List PdfRequest) :
    (requests.foldl World.request world).queue = world.queue := by
  induction requests generalizing world with
  | nil => rfl
  | cons request rest ih =>
    rw [List.foldl_cons, ih, request_queue]

end ParentalCoord.Reports

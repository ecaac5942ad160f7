import Mathlib
import ParentalCoord.Activities.Timers
import ParentalCoord.Net.Address
import ParentalCoord.Reports.PdfRequests
import ParentalCoord.Webhooks.Repository

/-!
The ids that the producers of the queues give their jobs.

An id is made of texts of any length with hyphens between them, and hyphens are in the
texts too.  That a UUID is of a fixed length is what tells the parts of an id apart.
-/

namespace ParentalCoord.Queues

open Activities Net Reports Webhooks

/-- Groups of 8, 4, 4, 4 and 12 hexadecimal digits. -/
def isUuid (text : String) : Bool :=
  let groups := text.toList.splitOn '-'
  groups.map List.length = [8, 4, 4, 4, 12] && groups.all fun group => group.all (Net.hexValue · |>.isSome)

inductive QueueName where
  | activityTimers
  | webhookDelivery
  | reportPdf
  deriving DecidableEq

/-- A job with an id of its own, as a producer builds it. -/
inductive CustomJob where
  /-- `ActivityTimersProducer.enqueue`. -/
  | timer (kind : TimerKind) (activityId : Uuid) (version : ℕ)
  /-- The fan-out, the reconciliation and the replay. -/
  | delivery (eventId subscriptionId : Uuid)
  /-- `SubscriptionsService.test`. -/
  | ping (subscriptionId : Uuid) (now : Instant)
  /-- `ReportPdfProducer.enqueue`. -/
  | report (reportId : Uuid)

namespace CustomJob

def queue : CustomJob → QueueName
  | timer .. => .activityTimers
  | delivery .. => .webhookDelivery
  | ping .. => .webhookDelivery
  | report .. => .reportPdf

def jobId : CustomJob → String
  | timer kind activityId version => buildTimerJobId kind activityId version
  | delivery eventId subscriptionId => (deliveryJob eventId subscriptionId).id
  | ping subscriptionId now => (testJob subscriptionId now).id
  | report reportId => (reportPdfJob reportId).id

/-- The ids that the job names are UUIDs. -/
def WellFormed : CustomJob → Prop
  | timer _ activityId _ => isUuid activityId
  | delivery eventId subscriptionId => isUuid eventId ∧ isUuid subscriptionId
  | ping subscriptionId _ => isUuid subscriptionId
  | report reportId => isUuid reportId

/-- The queue takes the id, and no other job of the queue has it. -/
def Acceptable (job : CustomJob) : Prop :=
  acceptsJobId job.jobId ∧
    ∀ other : CustomJob, other.WellFormed → other.queue = job.queue → other.jobId = job.jobId →
      other = job

end CustomJob

/-! ## The parts of an id -/

variable {text other : String}

theorem isUuid_spec (uuid : isUuid text) :
    text.toList.length = 36 ∧ ∀ c ∈ text.toList, (Net.hexValue c).isSome ∨ c = '-' := by
  unfold isUuid at uuid
  rw [Bool.and_eq_true, decide_eq_true_eq, List.all_eq_true] at uuid
  obtain ⟨lengths, digits⟩ := uuid
  have joined : ['-'].intercalate (text.toList.splitOn '-') = text.toList :=
    List.intercalate_splitOn '-'
  generalize text.toList.splitOn '-' = groups at lengths digits joined
  have five : groups.length = 5 := by simpa using congrArg List.length lengths
  obtain ⟨a, b, c, d, e, rfl⟩ : ∃ a b c d e, groups = [a, b, c, d, e] := by
    match groups, five with
    | [a, b, c, d, e], _ => exact ⟨a, b, c, d, e, rfl⟩
  simp only [List.map_cons, List.map_nil, List.cons.injEq, and_true] at lengths
  obtain ⟨first, second, third, fourth, fifth⟩ := lengths
  rw [← joined]
  refine ⟨by simp [List.intercalate, first, second, third, fourth, fifth], fun char member => ?_⟩
  have known (group : List Char) (inside : group ∈ [a, b, c, d, e]) (here : char ∈ group) :
      (Net.hexValue char).isSome := List.all_eq_true.mp (digits group inside) char here
  simp only [List.intercalate, List.intersperse, List.flatten_cons, List.flatten_nil, List.append_nil,
    List.mem_append, List.mem_singleton] at member
  rcases member with here | same | here | same | here | same | here | same | here
  all_goals first
    | exact .inr same
    | exact .inl (known _ (by simp) here)

theorem isUuid_length (uuid : isUuid text) (uuid' : isUuid other) :
    text.toList.length = other.toList.length := by
  rw [(isUuid_spec uuid).1, (isUuid_spec uuid').1]

/-- No character but a digit or a hyphen is in a UUID. -/
theorem isUuid_not_mem (uuid : isUuid text) {c : Char} (outside : Net.hexValue c = none) (plain : c ≠ '-') :
    c ∉ text.toList := by
  intro member
  rcases (isUuid_spec uuid).2 c member with digit | hyphen
  · rw [outside] at digit
    cases digit
  · exact plain hyphen

theorem repr_not_mem {number : ℕ} {c : Char} (outside : c.isDigit = false) :
    c ∉ (Nat.repr number).toList := by
  intro member
  rw [Numbers.Literal.isDigit_digitsOf member] at outside
  cases outside

theorem toString_not_mem {number : ℤ} : ':' ∉ (toString number).toList := by
  cases number with
  | ofNat number => exact repr_not_mem rfl
  | negSucc number =>
    change ':' ∉ ("-" ++ Nat.repr (number + 1)).toList
    rw [String.toList_append, List.mem_append, not_or]
    exact ⟨by decide, repr_not_mem rfl⟩

theorem kind_plain (kind : TimerKind) : ':' ∉ kind.value.toList := by
  cases kind <;> decide

/-! ## The ids -/

theorem delivery_id (eventId subscriptionId : Uuid) :
    (deliveryJob eventId subscriptionId).id.toList =
      eventId.toList ++ ("--".toList ++ subscriptionId.toList) := by
  simp [deliveryJob, buildDeliveryJobId]

theorem ping_id (subscriptionId : Uuid) (now : Instant) :
    (testJob subscriptionId now).id.toList =
      "test--".toList ++ (subscriptionId.toList ++ ("--".toList ++ (toString now).toList)) := by
  simp [testJob]

theorem delivery_injective {eventId eventId' subscriptionId subscriptionId' : Uuid}
    (uuid : isUuid eventId) (uuid' : isUuid eventId')
    (same : (deliveryJob eventId subscriptionId).id = (deliveryJob eventId' subscriptionId').id) :
    eventId = eventId' ∧ subscriptionId = subscriptionId' := by
  have texts := congrArg String.toList same
  rw [delivery_id, delivery_id] at texts
  obtain ⟨events, subscriptions⟩ := List.append_inj texts (isUuid_length uuid uuid')
  rw [List.append_cancel_left_eq] at subscriptions
  exact ⟨String.toList_injective events, String.toList_injective subscriptions⟩

theorem ping_injective {subscriptionId subscriptionId' : Uuid} {now now' : Instant}
    (uuid : isUuid subscriptionId) (uuid' : isUuid subscriptionId')
    (same : (testJob subscriptionId now).id = (testJob subscriptionId' now').id) :
    subscriptionId = subscriptionId' ∧ now = now' := by
  have texts := congrArg String.toList same
  rw [ping_id, ping_id, List.append_cancel_left_eq] at texts
  obtain ⟨subscriptions, times⟩ := List.append_inj texts (isUuid_length uuid uuid')
  rw [List.append_cancel_left_eq] at times
  exact ⟨String.toList_injective subscriptions, Int.repr_injective (String.toList_injective times)⟩

/-- A UUID does not begin as the id of a ping does. -/
theorem delivery_ne_ping {eventId subscriptionId pinged : Uuid} {now : Instant} (uuid : isUuid eventId) :
    (deliveryJob eventId subscriptionId).id ≠ (testJob pinged now).id := by
  intro same
  have texts := congrArg String.toList same
  rw [delivery_id, ping_id] at texts
  obtain ⟨length, -⟩ := isUuid_spec uuid
  obtain ⟨c, rest, shape⟩ := List.exists_cons_of_length_pos (by omega : 0 < eventId.toList.length)
  have outside : 't' ∉ eventId.toList := isUuid_not_mem uuid rfl (by decide)
  rw [shape] at texts outside
  have first : c = 't' := (List.cons.inj texts).1
  exact outside (first ▸ List.mem_cons_self)

namespace CustomJob

variable {job job' : CustomJob}

/-- Two jobs of one queue with the same id are the same job. -/
theorem jobId_injective (wellFormed : job.WellFormed) (wellFormed' : job'.WellFormed)
    (queues : job.queue = job'.queue) (same : job.jobId = job'.jobId) : job = job' := by
  cases job with
  | timer kind activityId version =>
    cases job' with
    | timer kind' activityId' version' =>
      obtain ⟨rfl, rfl, rfl⟩ := buildTimerJobId_injective same
      rfl
    | _ => cases queues
  | delivery eventId subscriptionId =>
    cases job' with
    | delivery eventId' subscriptionId' =>
      obtain ⟨rfl, rfl⟩ := delivery_injective wellFormed.1 wellFormed'.1 same
      rfl
    | ping pinged now => exact absurd same (delivery_ne_ping wellFormed.1)
    | _ => cases queues
  | ping subscriptionId now =>
    cases job' with
    | ping subscriptionId' now' =>
      obtain ⟨rfl, rfl⟩ := ping_injective wellFormed wellFormed' same
      rfl
    | delivery eventId' subscriptionId' => exact absurd same.symm (delivery_ne_ping wellFormed'.1)
    | _ => cases queues
  | report reportId =>
    cases job' with
    | report reportId' =>
      have texts : "report-pdf:" ++ reportId = "report-pdf:" ++ reportId' := same
      have ids : reportId.toList = reportId'.toList := by simpa using congrArg String.toList texts
      rw [String.toList_injective ids]
    | _ => cases queues

/-- Only the ids of the reports have a colon. -/
theorem acceptsJobId_iff (wellFormed : job.WellFormed) :
    acceptsJobId job.jobId ↔ job.queue ≠ .reportPdf := by
  have plain {text : String} (uuid : isUuid text) : ':' ∉ text.toList :=
    isUuid_not_mem uuid rfl (by decide)
  cases job with
  | timer kind activityId version =>
    have free : ':' ∉ (buildTimerJobId kind activityId version).toList := by
      rw [timer_id]
      simp only [List.mem_append, not_or]
      exact ⟨kind_plain kind, by decide, plain wellFormed, by decide, repr_not_mem rfl⟩
    exact iff_of_true (decide_eq_true free) (by simp [queue])
  | delivery eventId subscriptionId =>
    have free : ':' ∉ (deliveryJob eventId subscriptionId).id.toList := by
      rw [delivery_id]
      simp [plain wellFormed.1, plain wellFormed.2]
    exact iff_of_true (decide_eq_true free) (by simp [queue])
  | ping subscriptionId now =>
    have free : ':' ∉ (testJob subscriptionId now).id.toList := by
      rw [ping_id]
      simp only [List.mem_append, not_or]
      exact ⟨by decide, plain wellFormed, by decide, toString_not_mem⟩
    exact iff_of_true (decide_eq_true free) (by simp [queue])
  | report reportId => simp [jobId, queue, reportPdfJob_refused]

theorem acceptable_iff (wellFormed : job.WellFormed) : job.Acceptable ↔ job.queue ≠ .reportPdf :=
  ⟨fun acceptable => (acceptsJobId_iff wellFormed).mp acceptable.1, fun elsewhere =>
    ⟨(acceptsJobId_iff wellFormed).mpr elsewhere, fun _ known queues same =>
      jobId_injective known wellFormed queues same⟩⟩

end CustomJob

/-- A job is accepted, under an id of its own, exactly when it is not of a report; and whatever was
requested of reports before, no accepted request has its report rendered. -/
theorem acceptable_unless_report (job : CustomJob) (wellFormed : job.WellFormed) :
    (job.Acceptable ↔ job.queue ≠ .reportPdf) ∧
    (∀ job' : CustomJob, job'.WellFormed → job.queue = job'.queue → job.jobId = job'.jobId →
      job = job') ∧
    ∀ (bonds : List Uuid) (requests : List PdfRequest) (request : PdfRequest) (view : RequestedReport)
      (stored : Reports.World),
      ReportsService.requestPdf (requests.foldl World.request { bonds := bonds }) request =
        .ok (view, stored) → ¬ stored.rendering view.id := by
  refine ⟨CustomJob.acceptable_iff wellFormed, fun job' wellFormed' => ?_, ?_⟩
  · exact CustomJob.jobId_injective wellFormed wellFormed'
  · intro bonds requests request view stored accepted
    have queue := (requestPdf_accepted accepted).1
    rw [requests_queue] at queue
    rintro ⟨job, member, -⟩
    rw [queue] at member
    cases member

theorem delivery_acceptable : (CustomJob.delivery "4d3f0a52-8c1e-4f6b-9b7d-0e2a6c5f1b38"
    "a6b1c2d3-0e4f-4a5b-8c6d-7e8f90a1b2c3").Acceptable :=
  (acceptable_unless_report (.delivery _ _) ⟨by decide +kernel, by decide +kernel⟩).1.mpr (by decide)

/-- A report is requested while Redis answers, and no job renders it. -/
theorem requested_never_rendered :
    let request : PdfRequest :=
      { id := "4d3f0a52-8c1e-4f6b-9b7d-0e2a6c5f1b38"
        bondId := "a6b1c2d3-0e4f-4a5b-8c6d-7e8f90a1b2c3"
        period := ⟨"2026-01-01", "2026-01-31"⟩
        requestedBy := "0f9e8d7c-6b5a-4c3d-9e2f-1a0b9c8d7e6f"
        redisUp := true }
    isUuid request.id ∧ ¬ (CustomJob.report request.id).Acceptable ∧
      ∃ view stored, ReportsService.requestPdf { bonds := [request.bondId] } request =
        .ok (view, stored) ∧ ¬ stored.rendering view.id := by
  intro request
  have uuid : isUuid request.id := by decide +kernel
  refine ⟨uuid, fun acceptable => (@CustomJob.acceptable_iff (.report request.id) uuid).mp acceptable rfl, ?_⟩
  generalize outcome : ReportsService.requestPdf { bonds := [request.bondId] } request = result
  have fine : result.isOk = true := by
    rw [← outcome]
    decide +kernel
  match result, fine with
  | .ok (view, stored), _ =>
    refine ⟨view, stored, rfl, ?_⟩
    rintro ⟨job, member, -⟩
    rw [(requestPdf_accepted outcome).1] at member
    cases member

end ParentalCoord.Queues

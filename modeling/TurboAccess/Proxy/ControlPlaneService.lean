import TurboAccess.Lib.History
import TurboAccess.Proxy.SessionManager

/-!
# The control plane of the proxy

The proxy opens sessions for single-object writes on the GPU path, takes the
reports of the backend, and answers whether a session is completed.  A request
to open a session is refused at its first check that fails.

What the proxy answers to a sequence of calls is stated by the transcript of the
sequence: the calls with their answers, the oldest first.
-/

namespace TurboAccess
namespace Proxy

/-- Request to open a session, as it goes over the wire. -/
structure OpenSessionRequest where
  requestId : String
  sessionId : String
  bucket : String
  objectKey : String
  opType : String
  dataFlow : String
  bufferType : String
  offset : Nat
  expectedSize : Nat
  idempotencyKey : String
  isMultipartPart : Bool
  deriving DecidableEq

structure OpenSessionResponse where
  requestId : String
  sessionId : String
  ticket : String
  gatewayId : String
  dataEndpoint : String
  expireAt : String
  deriving DecidableEq

/-- Failure that a controller is set to. -/
structure RpcFailure where
  code : Nat
  reason : String
  deriving DecidableEq

/-! ## Error codes -/

def errInvalidParam : Nat := 10001

def errSessionNotFound : Nat := 11002

def errUnsupportedPath : Nat := 13001

/-- Name of the GPU path that the proxy accepts. -/
def gdsDataPath : String := "gds-cuobject"

def opTypePut : String := "PUT"

/-- Error of a ticket that is unknown or whose session is not completed. -/
def notYetCompleted : RpcFailure :=
  ⟨errSessionNotFound, "session not found or not yet completed"⟩

/-! ## Handlers -/

/-- The control plane of a proxy: its name, the backend it sends clients to, and
its sessions. -/
structure ControlPlaneService where
  gatewayId : String
  backendEndpoint : String
  sessionMgr : SessionManager

/-- The checks of a request to open a session. -/
def checkOpenSession (request : OpenSessionRequest) : Except RpcFailure Unit :=
  if request.dataFlow ≠ gdsDataPath then
    .error ⟨errUnsupportedPath,
      "proxy v1 only accepts data_flow=gds-cuobject, got: " ++
        request.dataFlow⟩
  else if request.opType ≠ opTypePut then
    .error ⟨errUnsupportedPath,
      "proxy v1 only accepts op_type=PUT, got: " ++ request.opType⟩
  else if request.isMultipartPart then
    .error ⟨errInvalidParam,
      "proxy v1 does not support multipart part sessions"⟩
  else if request.bucket = "" ∨ request.objectKey = "" then
    .error ⟨errInvalidParam, "missing bucket or object_key"⟩
  else if request.expectedSize = 0 then
    .error ⟨errInvalidParam, "expected_size must be > 0 for GDS PUT"⟩
  else .ok ()

/-- The session that a request asks for. -/
def OpenSessionRequest.creation
    (request : OpenSessionRequest)
    (expireAt : String) : SessionManager.Creation where
  sessionIdHint := request.sessionId
  bucket := request.bucket
  objectKey := request.objectKey
  expectedSize := request.expectedSize
  expireAt := expireAt

namespace ControlPlaneService

def openSession
    (service : ControlPlaneService)
    (request : OpenSessionRequest)
    (expireAt : String) :
    Except RpcFailure OpenSessionResponse × ControlPlaneService :=
  match checkOpenSession request with
  | .error failure => (.error failure, service)
  | .ok () =>
      let (session, sessionMgr) :=
        service.sessionMgr.createSession (request.creation expireAt)
      (.ok
        { requestId := request.requestId
          sessionId := session.sessionId
          ticket := session.ticket
          gatewayId := service.gatewayId
          dataEndpoint := service.backendEndpoint
          expireAt := session.expireAt },
        { service with sessionMgr })

/-- Note a report of the backend; the answer is whether it was accepted. -/
def reportGdsPut
    (service : ControlPlaneService)
    (report : SessionManager.Report) : Bool × ControlPlaneService :=
  let (accepted, sessionMgr) := service.sessionMgr.completeSession report
  (accepted, { service with sessionMgr })

/-- Entity tag of the completed session of a ticket; the identifier of an upload
carries the ticket. -/
def completeUpload
    (service : ControlPlaneService)
    (keys : List String)
    (uploadId : String) : Except RpcFailure String :=
  match service.sessionMgr.getCompletedSession keys uploadId with
  | none => .error notYetCompleted
  | some session => .ok session.etag

/-! ## Calls and transcripts -/

/-- A call of the proxy.  The keys are the order in which its table is walked. -/
inductive Call
  | openSession (request : OpenSessionRequest) (expireAt : String)
  | reportGdsPut (report : SessionManager.Report)
  | completeUpload (keys : List String) (uploadId : String)
  deriving DecidableEq

inductive Answer
  | opened (answer : Except RpcFailure OpenSessionResponse)
  | reported (accepted : Bool)
  | completed (answer : Except RpcFailure String)

def serve
    (service : ControlPlaneService) :
    Call → Answer × ControlPlaneService
  | .openSession request expireAt =>
      let (answer, service) := service.openSession request expireAt
      (.opened answer, service)
  | .reportGdsPut report =>
      let (accepted, service) := service.reportGdsPut report
      (.reported accepted, service)
  | .completeUpload keys uploadId =>
      (.completed (service.completeUpload keys uploadId), service)

/-- A proxy that has opened no session. -/
def new (gatewayId backendEndpoint : String) : ControlPlaneService :=
  ⟨gatewayId, backendEndpoint, SessionManager.new⟩

/-- The proxy after calls made one after the other. -/
def after
    (service : ControlPlaneService)
    (calls : List Call) : ControlPlaneService :=
  calls.foldl (fun service call => (service.serve call).2) service

/-- Calls made one after the other, with their answers. -/
def transcript
    (service : ControlPlaneService) : List Call → List (Call × Answer)
  | [] => []
  | call :: calls =>
      (call, (service.serve call).1) :: (service.serve call).2.transcript calls

theorem transcript_append
    (service : ControlPlaneService)
    (calls more : List Call) :
    service.transcript (calls ++ more) =
      service.transcript calls ++ (service.after calls).transcript more := by
  induction calls generalizing service with
  | nil => rfl
  | cons call calls inductionHypothesis =>
      rw [List.cons_append, transcript, inductionHypothesis, transcript,
        List.cons_append]
      rfl

theorem after_append
    (service : ControlPlaneService)
    (calls more : List Call) :
    service.after (calls ++ more) = (service.after calls).after more :=
  List.foldl_append

/-- Whether an event creates a session with an identifier. -/
def Creates (sessionId : String) : Call × Answer → Prop
  | (.openSession _ _, .opened (.ok response)) =>
      response.sessionId = sessionId
  | _ => False

/-- Whether an event is a report for an identifier. -/
def Reports (sessionId : String) : Call × Answer → Prop
  | (.reportGdsPut report, _) => report.sessionId = sessionId
  | _ => False

theorem Reports.not_creates
    {sessionId : String}
    {event : Call × Answer}
    (reports : Reports sessionId event) :
    ¬ Creates sessionId event := by
  intro creates
  obtain ⟨call, answer⟩ := event
  cases call with
  | openSession request expireAt => exact reports
  | reportGdsPut report => exact creates
  | completeUpload keys uploadId => exact reports

/-- The latest report for an identifier since its latest creation has an entity
tag. -/
def ReportedAs
    (history : List (Call × Answer))
    (sessionId etag : String) : Prop :=
  ∃ report accepted,
    History.LatestSince (Creates sessionId) (Reports sessionId) history
      (.reportGdsPut report, .reported accepted) ∧ report.etag = etag

/-! ## What the table records of a history -/

/-- The entry of an identifier is there when a session was created under it, and
is completed as the latest report since then says. -/
structure RecordedAt
    (found : Option Session)
    (history : List (Call × Answer))
    (sessionId : String) : Prop where
  created : found.isSome ↔ ∃ event ∈ history, Creates sessionId event
  completed : ∀ etag,
    (∃ session, found = some session ∧ session.status = .completed ∧
        session.etag = etag) ↔
      ReportedAs history sessionId etag

namespace RecordedAt

variable {found : Option Session} {history : List (Call × Answer)}
  {sessionId : String}

theorem nil : RecordedAt none [] sessionId where
  created := by simp
  completed := by
    intro etag
    simp [ReportedAs, History.not_latestSince_nil]

/-- An event that is neither a creation nor a report of the identifier. -/
theorem other
    (recorded : RecordedAt found history sessionId)
    {event : Call × Answer}
    (notCreates : ¬ Creates sessionId event)
    (notReports : ¬ Reports sessionId event) :
    RecordedAt found (history ++ [event]) sessionId where
  created := by
    rw [recorded.created]
    simp [or_and_right, exists_or, notCreates]
  completed := by
    intro etag
    rw [recorded.completed, ReportedAs, ReportedAs]
    simp only [History.latestSince_append_other notCreates notReports]

/-- A creation makes a pending session, whatever was recorded before. -/
theorem creates
    {event : Call × Answer}
    (creates : Creates sessionId event)
    {session : Session}
    (pending : session.status = .pending) :
    RecordedAt (some session) (history ++ [event]) sessionId where
  created := by
    simp only [Option.isSome_some, true_iff]
    exact ⟨event, by simp, creates⟩
  completed := by
    intro etag
    constructor
    · rintro ⟨same, stored, completed, -⟩
      rw [← Option.some.inj stored, pending] at completed
      cases completed
    · rintro ⟨report, accepted, latest, -⟩
      have notReports : ¬ Reports sessionId event :=
        fun reports => reports.not_creates creates
      exact absurd latest
        (History.not_latestSince_append_opens creates notReports history _)

/-- A report is noted in the session, if there is one. -/
theorem reports
    (recorded : RecordedAt found history sessionId)
    {report : SessionManager.Report}
    (named : report.sessionId = sessionId)
    (accepted : Bool) :
    RecordedAt (found.map (SessionManager.Session.complete · report))
      (history ++ [(.reportGdsPut report, .reported accepted)])
      sessionId where
  created := by
    rw [Option.isSome_map, recorded.created]
    simp [or_and_right, exists_or, Creates]
  completed := by
    intro etag
    have isReport :
        Reports sessionId (.reportGdsPut report, .reported accepted) := named
    simp only [ReportedAs,
      History.latestSince_append_closes isReport.not_creates isReport,
      ← recorded.created]
    constructor
    · rintro ⟨session, stored, -, rfl⟩
      obtain ⟨old, rfl, rfl⟩ := Option.map_eq_some_iff.mp stored
      exact ⟨report, accepted, ⟨rfl, rfl⟩, rfl⟩
    · rintro ⟨latest, latestAccepted, ⟨same, some⟩, rfl⟩
      obtain ⟨old, rfl⟩ := Option.isSome_iff_exists.mp some
      cases same
      exact ⟨_, rfl, rfl, rfl⟩

end RecordedAt

/-- The table of a manager records a history. -/
structure Recorded
    (manager : SessionManager)
    (history : List (Call × Answer)) : Prop where
  filed : manager.Filed
  recordedAt : ∀ sessionId,
    RecordedAt (manager.sessions.lookup sessionId) history sessionId

theorem recorded_new : Recorded SessionManager.new [] where
  filed := SessionManager.filed_new
  recordedAt := fun _ => RecordedAt.nil

/-- The table records a history with the next call added to it. -/
theorem Recorded.serve
    {service : ControlPlaneService}
    {history : List (Call × Answer)}
    (recorded : Recorded service.sessionMgr history)
    (call : Call) :
    Recorded (service.serve call).2.sessionMgr
      (history ++ [(call, (service.serve call).1)]) := by
  cases call with
  | openSession request expireAt =>
      cases checked : checkOpenSession request with
      | error failure =>
          simp only [ControlPlaneService.serve, openSession, checked]
          refine ⟨recorded.filed, fun sessionId => ?_⟩
          exact (recorded.recordedAt sessionId).other not_false not_false
      | ok checks =>
          simp only [ControlPlaneService.serve, openSession, checked]
          refine ⟨recorded.filed.createSession _, fun sessionId => ?_⟩
          rw [SessionManager.lookup_createSession]
          split
          · next same =>
              refine RecordedAt.creates ?_ rfl
              exact same.symm
          · next different =>
              exact (recorded.recordedAt sessionId).other
                (Ne.symm different) not_false
  | reportGdsPut report =>
      refine ⟨recorded.filed.completeSession report, fun sessionId => ?_⟩
      change RecordedAt
        ((service.sessionMgr.completeSession report).2.sessions.lookup
          sessionId) _ sessionId
      rw [SessionManager.lookup_completeSession]
      split
      · next same =>
          exact (recorded.recordedAt sessionId).reports same.symm _
      · next different =>
          exact (recorded.recordedAt sessionId).other not_false
            (Ne.symm different)
  | completeUpload keys uploadId =>
      refine ⟨recorded.filed, fun sessionId => ?_⟩
      exact (recorded.recordedAt sessionId).other not_false not_false

/-- The table of a proxy records the transcript of all calls so far. -/
theorem recorded_transcript
    (gatewayId backendEndpoint : String)
    (calls : List Call) :
    Recorded ((new gatewayId backendEndpoint).after calls).sessionMgr
      ((new gatewayId backendEndpoint).transcript calls) := by
  induction calls using List.reverseRecOn with
  | nil => exact recorded_new
  | append_singleton calls call inductionHypothesis =>
      rw [transcript_append, after_append]
      exact inductionHypothesis.serve call

/-! ## The answers as a function of the history -/

/-- A ticket is answered with an entity tag exactly when it is the ticket of an
identifier under which a session was created and reported since, and the latest
such report has the tag; otherwise it is refused.  A report is accepted exactly
when a session was created under its identifier. -/
theorem completeUpload_answers_latest_report
    (gatewayId backendEndpoint : String)
    (calls : List Call)
    (order : Table.ScanOrder
      ((new gatewayId backendEndpoint).after calls).sessionMgr.sessions) :
    (∀ uploadId etag,
      ((new gatewayId backendEndpoint).after calls).completeUpload order.keys
          uploadId = .ok etag ↔
        ∃ sessionId, uploadId = ticketOf sessionId ∧
          ReportedAs ((new gatewayId backendEndpoint).transcript calls)
            sessionId etag) ∧
      (∀ uploadId,
        (∃ etag, ((new gatewayId backendEndpoint).after calls).completeUpload
          order.keys uploadId = .ok etag) ∨
        ((new gatewayId backendEndpoint).after calls).completeUpload
          order.keys uploadId = .error notYetCompleted) ∧
        ∀ report,
          (((new gatewayId backendEndpoint).after calls).reportGdsPut
              report).1 = true ↔
            ∃ event ∈ (new gatewayId backendEndpoint).transcript calls,
              Creates report.sessionId event := by
  have recorded := recorded_transcript gatewayId backendEndpoint calls
  generalize (new gatewayId backendEndpoint).transcript calls = history
    at recorded ⊢
  generalize (new gatewayId backendEndpoint).after calls = service
    at recorded order ⊢
  have found := SessionManager.getCompletedSession_eq_some_iff recorded.filed
    order
  refine ⟨?_, ?_, ?_⟩
  · intro uploadId etag
    constructor
    · intro answered
      unfold completeUpload at answered
      split at answered
      · cases answered
      · next session scanned =>
          obtain ⟨completed, sessionId, ticket, stored⟩ :=
            (found uploadId session).mp scanned
          cases answered
          exact ⟨sessionId, ticket,
            ((recorded.recordedAt sessionId).completed _).mp
              ⟨session, stored, completed, rfl⟩⟩
    · rintro ⟨sessionId, ticket, reported⟩
      obtain ⟨session, stored, completed, rfl⟩ :=
        ((recorded.recordedAt sessionId).completed etag).mpr reported
      have scanned := (found uploadId session).mpr
        ⟨completed, sessionId, ticket, stored⟩
      rw [completeUpload, scanned]
  · intro uploadId
    unfold completeUpload
    split
    · exact Or.inr rfl
    · exact Or.inl ⟨_, rfl⟩
  · intro report
    rw [← (recorded.recordedAt report.sessionId).created,
      ← SessionManager.completeSession_accepted]
    exact Iff.rfl

end ControlPlaneService
end Proxy
end TurboAccess

import TurboAccess.Backend.DataPlane
import TurboAccess.Lib.Machine
import TurboAccess.Proxy.ControlPlaneService

/-!
# Completion of a write through proxy and backend

A client opens a session at the proxy, sends its chunk to the backend, and asks
the proxy whether the write is completed.  The backend tells the proxy of every
chunk it has pulled, if it has a channel to it.  Such a report can arrive at any
time later, more than once, or never.

What the answer of the proxy says is that some chunk sent under the identifier
of the session was pulled, and what its bytes were: the backend is not told what
the session was opened for.
-/

namespace TurboAccess
namespace Backend

open Gateway Gateway.Gds
open Proxy (ControlPlaneService OpenSessionRequest)

/-- The proxy, whether the backend has a channel to it, and the reports that the
backend has sent. -/
structure System where
  proxy : ControlPlaneService
  notifies : Bool
  sent : List Proxy.SessionManager.Report

inductive Event
  | openSession (request : OpenSessionRequest) (expireAt : String)
  | gdsPut (request : GdsChunkRequest) (answers : CuObjAnswers)
  | deliver (report : Proxy.SessionManager.Report)
  | completeUpload (keys : List String) (uploadId : String)

/-- The reports that the backend makes of a chunk. -/
def reportsOf
    (notifies : Bool)
    (request : GdsChunkRequest)
    (answers : CuObjAnswers) : List Proxy.SessionManager.Report :=
  match gdsPut request answers with
  | .error _ => []
  | .ok (_, report) => if notifies then [report] else []

/-- The system as a machine; only a report that was sent can arrive. -/
def machine : Machine System Event where
  initial := fun system =>
    (∃ gatewayId backendEndpoint,
      system.proxy = ControlPlaneService.new gatewayId backendEndpoint) ∧
      system.sent = []
  step := fun system event =>
    match event with
    | .openSession request expireAt =>
        some { system with
          proxy := (system.proxy.openSession request expireAt).2 }
    | .gdsPut request answers =>
        some { system with
          sent := system.sent ++ reportsOf system.notifies request answers }
    | .deliver report =>
        if report ∈ system.sent then
          some { system with proxy := (system.proxy.reportGdsPut report).2 }
        else none
    | .completeUpload _ _ => some system

/-- The object server transfers no more than it was asked for. -/
def WithinLength (_ : System) : Event → Prop
  | .gdsPut request answers => answers.transferred ≤ request.chunkSize
  | _ => True

instance (system : System) : DecidablePred (WithinLength system) := by
  intro event
  cases event <;> unfold WithinLength <;> infer_instance

/-- A chunk under an identifier was pulled and its report has an entity tag: that
of the bytes received, which are no more than the chunk has. -/
def Pulled
    (events : List Event)
    (report : Proxy.SessionManager.Report) : Prop :=
  ∃ request answers, .gdsPut request answers ∈ events ∧
    request.sessionId = report.sessionId ∧
      (received request.chunkSize answers).length ≤ request.chunkSize ∧
        request.chunkSize ≤ maxChunkBytes ∧
          report.bytesTransferred =
              (received request.chunkSize answers).length ∧
            report.etag =
              buildEtag (crc32c (received request.chunkSize answers))

/-- What the reports and the table of the proxy say was pulled. -/
structure Accounted (events : List Event) (system : System) : Prop where
  filed : system.proxy.sessionMgr.Filed
  sent : ∀ report ∈ system.sent, Pulled events report
  completed : ∀ sessionId session,
    system.proxy.sessionMgr.sessions.lookup sessionId = some session →
      session.status = .completed →
        ∃ report, Pulled events report ∧ report.sessionId = sessionId ∧
          session.etag = report.etag ∧
            session.bytesTransferred = report.bytesTransferred

theorem accounted_initial
    {events : List Event}
    {system : System}
    (initial : machine.initial system) :
    Accounted events system := by
  obtain ⟨⟨gatewayId, backendEndpoint, fresh⟩, none⟩ := initial
  refine ⟨?_, ?_, ?_⟩
  · rw [fresh]
    exact Proxy.SessionManager.filed_new
  · simp [none]
  · intro sessionId session found
    rw [fresh] at found
    simp [ControlPlaneService.new, Proxy.SessionManager.new] at found

/-- Opening a session makes nothing completed. -/
theorem Accounted.openSession
    {events : List Event}
    {system : System}
    (accounted : Accounted events system)
    (request : OpenSessionRequest)
    (expireAt : String) :
    Accounted events { system with
      proxy := (system.proxy.openSession request expireAt).2 } := by
  unfold ControlPlaneService.openSession
  split
  · exact ⟨accounted.filed, accounted.sent, accounted.completed⟩
  · refine ⟨accounted.filed.createSession _, accounted.sent, ?_⟩
    intro sessionId session found completed
    rw [Proxy.SessionManager.lookup_createSession] at found
    split at found
    · rw [← Option.some.inj found] at completed
      cases completed
    · exact accounted.completed sessionId session found completed

/-- The reports that a chunk adds say what was pulled. -/
theorem Accounted.gdsPut
    {events : List Event}
    {system : System}
    (accounted : Accounted events system)
    {request : GdsChunkRequest}
    {answers : CuObjAnswers}
    (within : answers.transferred ≤ request.chunkSize)
    (member : .gdsPut request answers ∈ events) :
    Accounted events { system with
      sent := system.sent ++ reportsOf system.notifies request answers } := by
  refine ⟨accounted.filed, ?_, accounted.completed⟩
  intro report reported
  rcases List.mem_append.mp reported with reported | reported
  · exact accounted.sent report reported
  · unfold reportsOf at reported
    split at reported
    · cases reported
    · next response made put =>
        obtain ⟨small, contents, -⟩ := gdsPut_eq_ok put
        split at reported
        · obtain rfl := List.mem_singleton.mp reported
          subst contents
          refine ⟨request, answers, member, rfl, ?_, small, rfl, rfl⟩
          unfold received
          split
          · exact Nat.zero_le _
          · rw [length_view]
            omega
        · cases reported

/-- A report that arrives completes the session it names. -/
theorem Accounted.deliver
    {events : List Event}
    {system : System}
    (accounted : Accounted events system)
    {report : Proxy.SessionManager.Report}
    (sent : report ∈ system.sent) :
    Accounted events { system with
      proxy := (system.proxy.reportGdsPut report).2 } := by
  refine ⟨accounted.filed.completeSession report, accounted.sent, ?_⟩
  intro sessionId session found completed
  change (system.proxy.sessionMgr.completeSession report).2.sessions.lookup
    sessionId = some session at found
  rw [Proxy.SessionManager.lookup_completeSession] at found
  split at found
  · next same =>
      obtain ⟨old, -, rfl⟩ := Option.map_eq_some_iff.mp found
      exact ⟨report, accounted.sent report sent, same.symm, rfl, rfl⟩
  · exact accounted.completed sessionId session found completed

/-- What one step preserves. -/
theorem Accounted.step
    {events : List Event}
    {system next : System}
    {event : Event}
    (accounted : Accounted events system)
    (member : event ∈ events)
    (within : WithinLength system event)
    (stepped : machine.step system event = some next) :
    Accounted events next := by
  cases event with
  | openSession request expireAt =>
      obtain rfl := Option.some.inj stepped
      exact accounted.openSession request expireAt
  | gdsPut request answers =>
      obtain rfl := Option.some.inj stepped
      exact accounted.gdsPut within member
  | deliver report =>
      simp only [machine, Option.ite_none_right_eq_some,
        Option.some.injEq] at stepped
      obtain ⟨sent, rfl⟩ := stepped
      exact accounted.deliver sent
  | completeUpload keys uploadId =>
      obtain rfl := Option.some.inj stepped
      exact accounted

/-- What a run preserves, whichever larger list its events are in. -/
theorem Accounted.run
    {all events : List Event}
    {start finish : System}
    (path : machine.Path WithinLength start events finish)
    (inside : ∀ event ∈ events, event ∈ all)
    (accounted : Accounted all start) :
    Accounted all finish := by
  induction path with
  | nil => exact accounted
  | cons within stepped rest inductionHypothesis =>
      apply inductionHypothesis
      · intro event member
        exact inside event (List.mem_cons_of_mem _ member)
      · exact accounted.step (inside _ List.mem_cons_self) within stepped

/-- A ticket that is answered with an entity tag is that of a session under
whose identifier a chunk was pulled, and the tag is the checksum of the bytes
received. -/
theorem completeUpload_was_pulled
    {start finish : System}
    {events : List Event}
    (initial : machine.initial start)
    (path : machine.Path WithinLength start events finish)
    (order : Table.ScanOrder finish.proxy.sessionMgr.sessions)
    {ticket etag : String}
    (answered : finish.proxy.completeUpload order.keys ticket = .ok etag) :
    ∃ sessionId session request answers,
      ticket = Proxy.ticketOf sessionId ∧
        finish.proxy.sessionMgr.sessions.lookup sessionId = some session ∧
        .gdsPut request answers ∈ events ∧ request.sessionId = sessionId ∧
        (received request.chunkSize answers).length ≤ request.chunkSize ∧
        request.chunkSize ≤ maxChunkBytes ∧
        session.bytesTransferred =
          (received request.chunkSize answers).length ∧
        etag = buildEtag (crc32c (received request.chunkSize answers)) := by
  have accounted : Accounted events finish :=
    (accounted_initial initial).run path fun _ member => member
  unfold ControlPlaneService.completeUpload at answered
  split at answered
  · cases answered
  · next session scanned =>
      cases answered
      obtain ⟨completed, sessionId, named, stored⟩ :=
        (Proxy.SessionManager.getCompletedSession_eq_some_iff accounted.filed
          order ticket session).mp scanned
      obtain ⟨report, pulled, reportNamed, etag, bytes⟩ :=
        accounted.completed sessionId session stored completed
      obtain ⟨request, answers, put, requestNamed, within, small, count, tag⟩ :=
        pulled
      exact ⟨sessionId, session, request, answers, named, stored, put,
        requestNamed.trans reportNamed, within, small, bytes.trans count,
        etag.trans tag⟩

/-! ## A completed write of nothing -/

/-- A request to open a session for a write of ten bytes to `bucket/key`. -/
def tenBytes : OpenSessionRequest where
  requestId := "request"
  sessionId := ""
  bucket := "bucket"
  objectKey := "key"
  opType := "PUT"
  dataFlow := "gds-cuobject"
  bufferType := "cuda-device"
  offset := 0
  expectedSize := 10
  idempotencyKey := ""
  isMultipartPart := false

/-- A chunk of another object under the first generated identifier. -/
def strayChunk (chunkSize : Nat) : GdsChunkRequest where
  sessionId := "pxs-0"
  transferTicket := ""
  bucket := "bucket"
  objectKey := "other"
  checksumPolicy := ""
  chunkOffset := 0
  chunkSize := chunkSize
  rdmaToken := "1000:7"
  uploadId := ""
  partNumber := 0

/-- A transfer that delivers some zero bytes. -/
def zeroBytes (count : Nat) : CuObjAnswers where
  connected := true
  leaseOk := true
  channelOk := true
  transferred := count
  status := "success"
  pinned := fun _ => 0

/-- A system before its first event. -/
def quiet : System := ⟨ControlPlaneService.new "proxy" "backend:9200", true, []⟩

theorem initial_quiet : machine.initial quiet :=
  ⟨⟨"proxy", "backend:9200", rfl⟩, rfl⟩

/-- The report of a stray chunk. -/
def strayReport (chunkSize : Nat) : Proxy.SessionManager.Report where
  sessionId := "pxs-0"
  etag := buildEtag (crc32c (List.replicate chunkSize 0))
  crc32c := crc32c (List.replicate chunkSize 0)
  bytesTransferred := chunkSize

/-- Opening the session, a chunk of the other object, and its report. -/
def strayEvents (chunkSize : Nat) : List Event :=
  [.openSession tenBytes "2026-06-18T09:00:00Z",
    .gdsPut (strayChunk chunkSize) (zeroBytes chunkSize),
    .deliver (strayReport chunkSize)]

/-- The system after these events. -/
def strayOutcome (chunkSize : Nat) : System :=
  { quiet with
    proxy := ((quiet.proxy.openSession tenBytes
      "2026-06-18T09:00:00Z").2.reportGdsPut (strayReport chunkSize)).2
    sent := reportsOf true (strayChunk chunkSize) (zeroBytes chunkSize) }

theorem path_stray
    {chunkSize : Nat}
    (reported : strayReport chunkSize ∈
      reportsOf true (strayChunk chunkSize) (zeroBytes chunkSize)) :
    machine.Path WithinLength quiet (strayEvents chunkSize)
      (strayOutcome chunkSize) := by
  refine .cons trivial rfl (.cons (le_refl (chunkSize : Int)) rfl
    (.cons trivial ?_ .nil))
  exact if_pos reported

/-- The table of the outcome has one entry. -/
def strayOrder (chunkSize : Nat) :
    Table.ScanOrder (strayOutcome chunkSize).proxy.sessionMgr.sessions where
  keys := ["pxs-0"]
  visits := by
    intro key
    change key ∈ ["pxs-0"] ↔
      key ∈ Finmap.insert "pxs-0" _ (Finmap.insert "pxs-0" _ ∅)
    simp [Finmap.notMem_empty]

/-- The write of ten bytes is answered as completed although the only chunk is
of another object and is empty. -/
theorem completeUpload_of_stray_chunk :
    machine.Path WithinLength quiet (strayEvents 0) (strayOutcome 0) ∧
      ((strayOutcome 0).proxy.sessionMgr.sessions.lookup "pxs-0").map
          (fun session =>
            (session.bucket, session.objectKey, session.expectedSize)) =
        some ("bucket", "key", 10) ∧
      (strayOutcome 0).proxy.completeUpload (strayOrder 0).keys "tkt-pxs-0" =
        .ok "00000000" ∧
      ∀ request answers, .gdsPut request answers ∈ strayEvents 0 →
        request.objectKey = "other" ∧
          (received request.chunkSize answers).length = 0 := by
  refine ⟨path_stray (by decide), by decide, by decide, ?_⟩
  intro request answers member
  simp only [strayEvents, List.mem_cons, reduceCtorEq, Event.gdsPut.injEq,
    List.not_mem_nil, or_false, false_or] at member
  obtain ⟨rfl, rfl⟩ := member
  exact ⟨rfl, rfl⟩

/-- The theorem at a stray chunk of one byte. -/
theorem completeUpload_was_pulled_one_byte :
    ∃ sessionId session request answers,
      "tkt-pxs-0" = Proxy.ticketOf sessionId ∧
        (strayOutcome 1).proxy.sessionMgr.sessions.lookup sessionId =
          some session ∧
        .gdsPut request answers ∈ strayEvents 1 ∧
        request.sessionId = sessionId ∧
        (received request.chunkSize answers).length ≤ request.chunkSize ∧
        request.chunkSize ≤ maxChunkBytes ∧
        session.bytesTransferred =
          (received request.chunkSize answers).length ∧
        (strayReport 1).etag =
          buildEtag (crc32c (received request.chunkSize answers)) :=
  completeUpload_was_pulled initial_quiet (path_stray (by decide))
    (strayOrder 1) (by decide)

end Backend
end TurboAccess

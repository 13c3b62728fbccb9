import TurboAccess.Gateway.Ucx.Ownership

/-!
# The histories of the executor

The history of backend calls is what the backend went through: replayed from the
first backend state, it ends in the present one, and every recorded result is
the backend's answer at that point.  An event appends to the history of the
session it names, and to no other.
-/

namespace TurboAccess
namespace Gateway
namespace Ucx

variable {β : Type} {iface : IBackend β} {options : UcxOptions}

/-- What the backend makes of a call, and what the commit reports of it. -/
def BackendCall.run (iface : IBackend β) (backend : β) :
    BackendCall → CommitResult × β
  | .writeRange bucket objectKey offset source totalSize =>
      let answer := iface.writeRange backend bucket objectKey offset source
        (some totalSize)
      (.object (answer.1.map fun metadata =>
        ⟨metadata.etag, metadata.version⟩), answer.2)
  | .writePart uploadId partNumber offset source =>
      let answer := iface.writePart backend uploadId partNumber offset source
      (.part answer.1, answer.2)

/-- A history of calls leads from one backend state to another, with the
backend's own answers. -/
def Replays (iface : IBackend β) : β → List Write → β → Prop
  | start, [], finish => finish = start
  | start, write :: writes, finish =>
      write.result = (write.call.run iface start).1 ∧
        Replays iface (write.call.run iface start).2 writes finish

/-- One more call. -/
theorem Replays.append
    {start middle : β}
    {writes : List Write}
    {write : Write}
    (replays : Replays iface start writes middle)
    (answered : write.result = (write.call.run iface middle).1) :
    Replays iface start (writes ++ [write])
      (write.call.run iface middle).2 := by
  induction writes generalizing start with
  | nil =>
      have same : middle = start := replays
      subst same
      exact ⟨answered, rfl⟩
  | cons first rest inductionHypothesis =>
      exact ⟨replays.1, inductionHypothesis replays.2⟩

namespace UcxExecutor

/-- A commit runs its backend call. -/
theorem doCommit_eq
    (backend : β)
    (entry : UcxSessionEntry)
    (buffer : RegisteredBuffer)
    (request : CommitRequest) :
    doCommit iface backend entry buffer request =
      (backendCall entry buffer request).run iface backend := by
  cases operation : request.operation with
  | object =>
      simp only [doCommit, backendCall, operation, BackendCall.run,
        doCommitObject]
      split
      · next error after same => rw [same]; rfl
      · next metadata after same => rw [same]; rfl
  | part backendUploadId partNumber =>
      simp only [doCommit, backendCall, operation, BackendCall.run,
        doWritePartData]
      split
      · next error after same => rw [same]
      · next etag after same => rw [same]

/-- An event leaves the backend alone, or makes the call it records. -/
theorem Handles.replays
    {executor next : UcxExecutor β}
    {event : Event}
    {start : β}
    (effect : Handles iface options executor event next)
    (replays : Replays iface start executor.writes executor.backend) :
    Replays iface start next.writes next.backend := by
  -- both ends of a commit record the call and its answer
  have recorded : ∀ entry slot buffer request,
      Replays iface start
        (executor.writes ++
          [commitWrite iface executor entry slot buffer request])
        (doCommit iface executor.backend entry buffer request).2 := by
    intro entry slot buffer request
    rw [doCommit_eq]
    apply replays.append
    simp only [commitWrite, doCommit_eq]
  cases effect with
  | opened session => exact replays
  | prepared key transferBytes allocation result next outcome =>
      cases outcome <;> exact replays
  | landed slot data buffer registered fits => exact replays
  | unheard key absent => exact replays
  | marked key entry found alone => exact replays
  | resumed entry slot buffer request found held registered waiting =>
      rw [finishCommit_eq]
      exact recorded entry slot buffer request
  | refused event request result requested failed unprepared => exact replays
  | waits event request entry slot requested found held unwritten =>
      exact replays
  | finished event request entry slot buffer requested found held registered
      written =>
      rw [finishCommit_eq]
      exact recorded entry slot buffer request
  | unknown key absent => exact replays
  | aborted key entry found =>
      rw [without_eq]
      exact replays

/-- An event leaves the backend alone and answers failures only, or makes the
call of one commit and answers what it came to. -/
theorem Handles.outcome
    {executor next : UcxExecutor β}
    {event : Event}
    (effect : Handles iface options executor event next) :
    (next.backend = executor.backend ∧
      ∀ reply ∈ next.replies, reply ∈ executor.replies ∨ reply.result.Failed) ∨
      ∃ entry slot buffer request,
        executor.registry.lookup request.sessionId = some entry ∧
          entry.slot = some slot ∧
          executor.buffers.lookup slot = some buffer ∧
          (event = .amWriteDone request.sessionId ∧
              entry.pendingCommit = some request ∨
            event.request executor.requests = some request ∧
              entry.writeDone = true) ∧
          next.backend = ((backendCall entry buffer request).run iface
            executor.backend).2 ∧
          next.replies = executor.replies ++
            [⟨request, ((backendCall entry buffer request).run iface
              executor.backend).1⟩] := by
  have unchanged : ∀ state : UcxExecutor β,
      state.backend = executor.backend → state.replies = executor.replies →
        state.backend = executor.backend ∧
          ∀ reply ∈ state.replies,
            reply ∈ executor.replies ∨ reply.result.Failed := by
    intro state backend replies
    exact ⟨backend, fun reply member => .inl (replies ▸ member)⟩
  cases effect with
  | opened session => exact .inl (unchanged _ rfl rfl)
  | prepared key transferBytes allocation result next outcome =>
      cases outcome <;> exact .inl (unchanged _ rfl rfl)
  | landed slot data buffer registered fits => exact .inl (unchanged _ rfl rfl)
  | unheard key absent => exact .inl (unchanged _ rfl rfl)
  | marked key entry found alone => exact .inl (unchanged _ rfl rfl)
  | resumed entry slot buffer request found held registered waiting =>
      rw [finishCommit_eq, doCommit_eq]
      exact .inr ⟨entry, slot, buffer, request, found, held, registered,
        .inl ⟨rfl, waiting⟩, rfl, rfl⟩
  | refused event request result requested failed unprepared =>
      refine .inl ⟨rfl, ?_⟩
      intro reply member
      rcases List.mem_append.mp member with old | new
      · exact .inl old
      · rw [List.mem_singleton.mp new]
        exact .inr failed
  | waits event request entry slot requested found held unwritten =>
      exact .inl (unchanged _ rfl rfl)
  | finished event request entry slot buffer requested found held registered
      written =>
      rw [finishCommit_eq, doCommit_eq]
      exact .inr ⟨entry, slot, buffer, request, found, held, registered,
        .inr ⟨requested, written⟩, rfl, rfl⟩
  | unknown key absent => exact .inl (unchanged _ rfl rfl)
  | aborted key entry found =>
      rw [without_eq]
      exact .inl (unchanged _ rfl rfl)

/-- The backend calls made for one session. -/
def writesOf (executor : UcxExecutor β) (sessionId : String) : List Write :=
  executor.writes.filter fun write => write.request.sessionId = sessionId

/-- The callbacks run for one session. -/
def repliesOf (executor : UcxExecutor β) (sessionId : String) : List Reply :=
  executor.replies.filter fun reply => reply.request.sessionId = sessionId

/-- Events of other sessions make no call for a session. -/
theorem Handles.writesOf_other
    {executor next : UcxExecutor β}
    {event : Event}
    {sessionId : String}
    (effect : Handles iface options executor event next)
    (other : event.sessionId ≠ some sessionId) :
    next.writesOf sessionId = executor.writesOf sessionId := by
  rcases effect.writes with unchanged | ⟨entry, slot, buffer, request, _, _, _,
      appended, cause⟩
  · rw [writesOf, unchanged, writesOf]
  have named : event.sessionId = some request.sessionId := by
    rcases cause with ⟨rfl, _⟩ | ⟨requested, _⟩
    · rfl
    · exact sessionId_of_request requested
  have different : request.sessionId ≠ sessionId := by
    rintro rfl
    exact other named
  simp [writesOf, appended, commitWrite, different]

/-- Events of other sessions run no callback of a session. -/
theorem Handles.repliesOf_other
    {executor next : UcxExecutor β}
    {event : Event}
    {sessionId : String}
    (effect : Handles iface options executor event next)
    (other : event.sessionId ≠ some sessionId) :
    next.repliesOf sessionId = executor.repliesOf sessionId := by
  rcases effect.replies with unchanged | ⟨reply, appended, named⟩
  · rw [repliesOf, unchanged, repliesOf]
  have different : reply.request.sessionId ≠ sessionId := by
    rintro rfl
    exact other named
  simp [repliesOf, appended, different]

end UcxExecutor
end Ucx
end Gateway
end TurboAccess

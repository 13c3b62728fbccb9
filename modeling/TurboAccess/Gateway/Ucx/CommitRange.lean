import TurboAccess.Gateway.Ucx.Callbacks

/-!
# The bytes of a commit

A commit request claims a number of bytes, and that many bytes of the session's
buffer go to the backend, at once or when the active message arrives.  The
executor never compares the claim with the size that the transfer was prepared
for.  A request therefore stays inside its transfer exactly when it claims no
more than was prepared.
-/

namespace TurboAccess
namespace Gateway
namespace Ucx
namespace UcxExecutor

variable {β : Type} {iface : IBackend β} {options : UcxOptions}

/-- A write is made from the buffer of a session, inside the transfer prepared
for it, and so inside the buffer. -/
def Inside
    (executor : UcxExecutor β)
    (sessionId : String)
    (write : Write) : Prop :=
  ∃ entry buffer,
    executor.registry.lookup sessionId = some entry ∧
      entry.slot = some write.slot ∧
      executor.buffers.lookup write.slot = some buffer ∧
      write.call.source.length ≤ entry.transferBytes ∧
      entry.transferBytes ≤ buffer.capacity

/-- A request claims more bytes than its session's transfer was prepared for. -/
def ClaimsMore
    (executor : UcxExecutor β)
    (request : CommitRequest) : Prop :=
  ∃ entry slot,
    executor.registry.lookup request.sessionId = some entry ∧
      entry.slot = some slot ∧
      entry.transferBytes < request.bytesTransferred

/-- A request is answered with a failure, and the backend is not called. -/
def Refuses
    (executor next : UcxExecutor β)
    (request : CommitRequest) : Prop :=
  next.backend = executor.backend ∧
    next.writes = executor.writes ∧
    ∃ result : CommitResult, result.Failed ∧
      next.replies = executor.replies ++ [⟨request, result⟩]

/-- What is asked of a commit: every backend call made for it, in any
continuation, is inside the transfer, and a claim of more bytes is refused. -/
structure StaysInside
    (iface : IBackend β)
    (options : UcxOptions)
    (executor : UcxExecutor β)
    (event : Event)
    (request : CommitRequest) : Prop where
  within : ∀ next labels later,
    executor.handle iface options event = some next →
      (machine iface options).Path Machine.always next labels later →
        ∀ write ∈ later.writes, write.request.onDone = request.onDone →
          executor.Inside request.sessionId write
  refuses : ∀ next, executor.handle iface options event = some next →
    executor.ClaimsMore request → executor.Refuses next request

/-! ## Exactly the claims that stay inside -/

/-- A request on a prepared session is never refused. -/
theorem not_refuses_of_prepared
    {executor next : UcxExecutor β}
    {event : Event}
    {request : CommitRequest}
    {entry : UcxSessionEntry}
    {slot : Nat}
    (requested : event.request executor.requests = some request)
    (found : executor.registry.lookup request.sessionId = some entry)
    (held : entry.slot = some slot)
    (effect : Handles iface options executor event next) :
    ¬ executor.Refuses next request := by
  rintro ⟨_, writes, result, _, replies⟩
  cases effect.commits requested with
  | refused result failed unprepared =>
      have vacant := unprepared entry found
      rw [held] at vacant
      cases vacant
  | waits other slot otherFound otherHeld unwritten =>
      have lengths := congrArg List.length replies
      simp [numbered] at lengths
  | finished other slot buffer otherFound otherHeld registered written =>
      have lengths := congrArg List.length writes
      simp [finishCommit_eq, numbered] at lengths

/-- A commit stays inside its transfer exactly when it claims no more bytes than
the transfer was prepared for. -/
theorem staysInside_iff
    {executor : UcxExecutor β}
    {event : Event}
    {request : CommitRequest}
    (reachable : (machine iface options).Reachable Machine.always executor)
    (requested : event.request executor.requests = some request) :
    StaysInside iface options executor event request ↔
      ∀ entry slot,
        executor.registry.lookup request.sessionId = some entry →
          entry.slot = some slot →
            request.bytesTransferred ≤ entry.transferBytes := by
  have owned := Owned.of_reachable reachable
  constructor
  · intro inside entry slot found held
    by_contra more
    obtain ⟨next, handled⟩ := handle_of_request requested
    have refuses := inside.refuses next handled
      ⟨entry, slot, found, held, not_le.mp more⟩
    exact not_refuses_of_prepared requested found held
      (handles_of_handle owned handled) refuses
  · intro bounded
    refine ⟨?_, ?_⟩
    · intro next labels later handled path write member sameCallback
      have effect := handles_of_handle owned handled
      have traced := (Traced.of_request owned
        (Counted.of_reachable reachable) requested effect).path
          (reachable.step trivial handled) path
      obtain ⟨⟨same, entry, found, held⟩, length⟩ :=
        traced.written write member sameCallback
      obtain ⟨buffer, registered, large⟩ := owned.held _ _ _ found held
      refine ⟨entry, buffer, found, held, registered, ?_, large⟩
      rw [length, same]
      exact bounded entry write.slot found held
    · rintro next handled ⟨entry, slot, found, held, more⟩
      have claim := bounded entry slot found held
      omega

/-! ## A transfer of one byte -/

/-- A session whose one byte is prepared, written and announced. -/
def oneByte : List Event :=
  [.sessionOpened ⟨"ses", "bucket", "key", 1, by decide⟩,
    .prepareTransfer "ses" 1 (.registered (fun _ => 0) 4096 []),
    .remoteWrite 0 [7],
    .amWriteDone "ses"]

/-- The executor after the transfer of one byte, and what a commit of two bytes
would do. -/
theorem run_oneByte :
    ∃ executor entry next,
      (machine overComposite (.default "gateway")).Reachable Machine.always
          executor ∧
        executor.requests = 0 ∧
        executor.registry.lookup "ses" = some entry ∧
        entry.slot = some 0 ∧
        entry.transferBytes = 1 ∧
        executor.handle overComposite (.default "gateway")
            (.commitObject "ses" 2 "") = some next ∧
        next.writes.map Write.call =
          [.writeRange "bucket" "key" 0 [7, 0] 2] := by
  have initial : (machine overComposite (.default "gateway")).initial
      (init true (CompositeBackend.init 16, 0)) := ⟨true, _, rfl⟩
  have executed : ((machine overComposite (.default "gateway")).run
        Machine.always (init true (CompositeBackend.init 16, 0)) oneByte).map
        (fun executor =>
          (executor.requests,
            (executor.registry.lookup "ses").map fun entry =>
              (entry.slot, entry.transferBytes),
            (executor.handle overComposite (.default "gateway")
              (.commitObject "ses" 2 "")).map fun next =>
                next.writes.map Write.call)) =
      some (0, some (some 0, 1),
        some [.writeRange "bucket" "key" 0 [7, 0] 2]) := by
    decide
  obtain ⟨executor, reachable, observed⟩ :=
    Machine.Reachable.of_run_map initial executed
  simp only [Prod.mk.injEq, Option.map_eq_some_iff] at observed
  obtain ⟨requests, ⟨entry, found, held, bytes⟩, next, handled, calls⟩ :=
    observed
  exact ⟨executor, entry, next, reachable, requests, found, held, bytes,
    handled, calls⟩

/-- A commit of the prepared byte stays inside the transfer. -/
theorem staysInside_one_byte :
    ∃ executor,
      (machine overComposite (.default "gateway")).Reachable Machine.always
          executor ∧
        StaysInside overComposite (.default "gateway") executor
          (.commitObject "ses" 1 "") ⟨.object, "ses", 1, "", 0⟩ := by
  obtain ⟨executor, entry, _, reachable, requests, found, _, bytes, _⟩ :=
    run_oneByte
  refine ⟨executor, reachable,
    (staysInside_iff reachable (by rw [requests]; rfl)).mpr ?_⟩
  intro other slot otherFound _
  cases found.symm.trans otherFound
  exact bytes.ge

/-- A commit of two bytes after a transfer of one is not refused: the backend
gets a byte that nobody announced. -/
theorem two_bytes_committed :
    ∃ executor next,
      (machine overComposite (.default "gateway")).Reachable Machine.always
          executor ∧
        executor.handle overComposite (.default "gateway")
            (.commitObject "ses" 2 "") = some next ∧
        next.writes.map Write.call =
          [.writeRange "bucket" "key" 0 [7, 0] 2] ∧
        ¬ StaysInside overComposite (.default "gateway") executor
          (.commitObject "ses" 2 "") ⟨.object, "ses", 2, "", 0⟩ := by
  obtain ⟨executor, entry, next, reachable, requests, found, held, bytes,
    handled, calls⟩ := run_oneByte
  refine ⟨executor, next, reachable, handled, calls, ?_⟩
  intro inside
  have requested : (Event.commitObject "ses" 2 "").request executor.requests =
      some ⟨.object, "ses", 2, "", 0⟩ := by
    rw [requests]
    rfl
  have refuses := inside.refuses next handled
    ⟨entry, 0, found, held, by rw [bytes]; decide⟩
  exact not_refuses_of_prepared requested found held
    (handles_of_handle (Owned.of_reachable reachable) handled) refuses

end UcxExecutor
end Ucx
end Gateway
end TurboAccess

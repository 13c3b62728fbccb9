import TurboAccess.Client.Rdma.Leftovers

/-!
# Who has the context of a chain

A thread has at most one context in hand.  It posts the next operation with it,
and while the operation is pending the context is in flight; or it sets the
promise, deletes the context, and has it no more.  A thread that writes waits for
the future of its chain with no context in hand.
-/

namespace TurboAccess
namespace Client
namespace UcxEndpointOps

open RdmaTransferPath (PutCall)
open UcxEndpointPool (ClientPut Holding PoolCall calls leavesCalls)

/-! ## Positions -/

/-- What is to be done next with a context in hand. -/
inductive Stage
  | made (ep : Option Nat) (future : Nat)
  | written
  | ending (status : Status)
  | ended

namespace Stage

/-- After the put was posted. -/
def afterPut : Posted → Option Stage
  | .completed => some .written
  | .failed status => some (.ending (.error status))
  | .pending => none

/-- After the message was posted. -/
def afterMessage : Posted → Option Stage
  | .completed => some (.ending (.ok ()))
  | .failed status => some (.ending (.error status))
  | .pending => none

/-- In a callback. -/
def called : Operation → Status → Stage
  | .put _ _ _ _ _ _, .ok () => .written
  | _, status => .ending status

end Stage

/-- Whether a thread is in the middle of a write, or has left one unfinished. -/
inductive Phase
  | idle
  | writing (future : Nat)
  | expired (future : Nat)

namespace Phase

def future : Phase → Option Nat
  | .idle => none
  | .writing future => some future
  | .expired future => some future

def left : Phase → Bool
  | .expired _ => true
  | _ => false

/-- The pool is not used in the middle of a write. -/
def Between : Phase → Prop
  | .writing _ => False
  | _ => True

end Phase

/-- What a thread holds, its write, and the context that it has in hand. -/
structure Position where
  holding : Holding := {}
  phase : Phase := .idle
  notice : Option (Nat × Stage) := none

/-- Nothing is held, left or in hand. -/
structure Position.Rest (position : Position) : Prop where
  holding : position.holding.Empty
  phase : position.phase = .idle
  notice : position.notice = none

/-! ## The protocol of a thread -/

/-- A write has requests of its own; it is none of the pool. -/
def IsWrite : PoolCall → Prop
  | .transfer (.putAndNotify _ _ _ _ _ _ _) => True
  | _ => False

/-- A request of the pool may change the phase. -/
def Phase.afterCall (phase : Phase) : PoolCall → Phase
  | .closeEp _ => .idle
  | _ => phase

/-- Which requests respect what a thread has, and how they change it. -/
def works : Protocol WorkerCall WorkerCall.Answer Position where
  allows position
    | .newCtx ep _ =>
        position.phase = .idle ∧ position.notice = none ∧
          position.holding.HoldsEp ep
    | .putNbx ep _ _ _ gwRkey ctx =>
        ∃ future, position.phase = .writing future ∧
          position.notice = some (ctx, .made ep future) ∧
          position.holding.rkey = some gwRkey
    | .amSendNbx ctx => position.notice = some (ctx, .written)
    | .setValue ctx status => position.notice = some (ctx, .ending status)
    | .deleteCtx ctx => position.notice = some (ctx, .ended)
    | .waitUntil future _ =>
        position.phase = .writing future ∧ position.notice = none
    | .progress => position.phase = .idle ∧ position.notice = none
    | .pool call =>
        calls.allows position.holding call ∧
          leavesCalls.allows position.phase.left call ∧
          position.phase.Between ∧ position.notice = none ∧ ¬IsWrite call
  expects position
    | ⟨.pool call, reply⟩ => calls.expects position.holding ⟨call, reply⟩
    | _ => True
  next position
    | ⟨.newCtx ep _, (ctx, future)⟩ =>
        { position with
          phase := .writing future
          notice := some (ctx, .made ep future) }
    | ⟨.putNbx _ _ _ _ _ ctx, posted⟩ =>
        { position with notice := (Stage.afterPut posted).map (ctx, ·) }
    | ⟨.amSendNbx ctx, posted⟩ =>
        { position with notice := (Stage.afterMessage posted).map (ctx, ·) }
    | ⟨.setValue ctx _, _⟩ => { position with notice := some (ctx, .ended) }
    | ⟨.deleteCtx _, _⟩ => { position with notice := none }
    | ⟨.waitUntil future _, none⟩ => { position with phase := .expired future }
    | ⟨.waitUntil _ _, some _⟩ => { position with phase := .idle }
    | ⟨.progress, none⟩ => position
    | ⟨.progress, some (operation, status)⟩ =>
        { position with
          notice :=
            some (operation.userData, Stage.called operation status) }
    | ⟨.pool call, reply⟩ =>
        { position with
          holding := calls.next position.holding ⟨call, reply⟩
          phase := position.phase.afterCall call }

/-! ## The chain -/

section

variable {position : Position}

/-- A context that is settled is not in hand any more. -/
theorem follows_settle
    {ctx : Nat}
    {status : Status}
    (inHand : position.notice = some (ctx, .ending status)) :
    (settle ctx status).Follows works
      (fun after _ => after = { position with notice := none }) position :=
  ⟨inHand, fun _ _ => ⟨rfl, fun _ _ => rfl⟩⟩

/-- Nor is one whose message was sent. -/
theorem follows_sendAmWriteDone
    {ctx : Nat}
    (inHand : position.notice = some (ctx, .written)) :
    (sendAmWriteDone ctx).Follows works
      (fun after _ => after = { position with notice := none }) position := by
  refine ⟨inHand, fun posted _ => ?_⟩
  cases posted with
  | completed => exact follows_settle rfl
  | failed status => exact follows_settle rfl
  | pending => rfl

theorem follows_putPosted
    {ctx : Nat}
    {posted : Posted}
    (inHand : position.notice = (Stage.afterPut posted).map (ctx, ·)) :
    (putPosted ctx posted).Follows works
      (fun after _ => after = { position with notice := none }) position := by
  cases posted with
  | completed => exact follows_sendAmWriteDone inHand
  | failed status => exact follows_settle inHand
  | pending =>
      cases position
      cases inHand
      rfl

/-- A callback gives the context away. -/
theorem follows_callback
    {operation : Operation}
    {status : Status}
    (inHand : position.notice =
      some (operation.userData, .called operation status)) :
    (operation.callback status).Follows works
      (fun after _ => after = { position with notice := none }) position := by
  cases operation with
  | message ep header userData => exact follows_settle inHand
  | put ep data size gwRaddr gwRkey userData =>
      cases status with
      | error status => exact follows_settle inHand
      | ok done => exact follows_sendAmWriteDone inHand

/-- So does posting a put, and the thread goes on with the future. -/
theorem follows_putAndNotify
    {ep : Option Nat}
    {gwRkey : Nat}
    (idle : position.phase = .idle)
    (free : position.notice = none)
    (holds : position.holding.HoldsEp ep)
    (hasKey : position.holding.rkey = some gwRkey)
    (srcBuf size gwRaddr : Nat)
    (sessionId : String) :
    (putAndNotify ep srcBuf size gwRaddr gwRkey sessionId).Follows works
      (fun after future =>
        after = { position with phase := .writing future, notice := none })
      position := by
  refine ⟨⟨idle, free, holds⟩, ?_⟩
  rintro ⟨ctx, future⟩ _
  refine ⟨⟨future, rfl, rfl, hasKey⟩, fun posted _ => ?_⟩
  change (putPosted ctx posted >>= fun _ => pure future).Follows works _ _
  apply Program.Follows.bind
  apply (follows_putPosted rfl).mono
  rintro after _ rfl
  rfl

end

/-! ## The requests of the pool -/

/-- A thread is between two requests of the pool. -/
structure Between (states : Holding × Bool) (position : Position) : Prop where
  holding : position.holding = states.1
  left : position.phase.left = states.2
  phase : position.phase.Between
  notice : position.notice = none

/-- What is asked of the pool changes what is held, and what is left. -/
theorem Between.next
    {states : Holding × Bool}
    {position : Position}
    {call : PoolCall}
    (between : Between states position)
    (allowed : calls.allows states.1 call)
    (noWrite : ¬IsWrite call)
    (reply : call.Answer) :
    Between ((calls.both leavesCalls).next states ⟨call, reply⟩)
      (works.next position ⟨.pool call, reply⟩) := by
  obtain ⟨holding, left⟩ := states
  obtain ⟨rfl, same, phase, free⟩ := between
  have kept : leavesCalls.next left ⟨call, reply⟩ =
      (position.phase.afterCall call).left := by
    cases call with
    | closeEp ep => rfl
    | transfer call =>
        cases call with
        | putAndNotify ep data size gwRaddr gwRkey sessionId deadline =>
            exact (noWrite trivial).elim
        | discard slot => exact allowed.elim
        | _ => exact same.symm
    | _ => exact same.symm
  refine ⟨rfl, kept.symm, ?_, free⟩
  change (position.phase.afterCall call).Between
  cases call with
  | closeEp ep => exact trivial
  | _ => exact phase

/-- A request that is none of a write goes to the pool. -/
theorem follows_pool
    {states : Holding × Bool}
    {position : Position}
    {call : PoolCall}
    (between : Between states position)
    (allowed : (calls.both leavesCalls).allows states call)
    (noWrite : ¬IsWrite call) :
    (Program.perform (WorkerCall.pool call)).Follows works
      (fun after reply =>
        (calls.both leavesCalls).expects states ⟨call, reply⟩ ∧
          Between ((calls.both leavesCalls).next states ⟨call, reply⟩) after)
      position := by
  have next := between.next allowed.1 noWrite
  obtain ⟨holding, left⟩ := states
  obtain ⟨rfl, same, phase, free⟩ := between
  refine ⟨⟨allowed.1, ?_, phase, free, noWrite⟩, fun reply expected => ?_⟩
  · rw [same]
    exact allowed.2
  · exact ⟨⟨expected, by cases call <;> trivial⟩, next reply⟩

/-- A write that has not ended by its deadline is left unfinished. -/
theorem handles_write
    {states : Holding × Bool}
    {position : Position}
    {ep : Option Nat}
    {data size gwRaddr gwRkey : Nat}
    {sessionId : String}
    {deadline : Int}
    (between : Between states position)
    (allowed : (calls.both leavesCalls).allows states (.transfer
      (.putAndNotify ep data size gwRaddr gwRkey sessionId deadline))) :
    (handler (.transfer
        (.putAndNotify ep data size gwRaddr gwRkey sessionId
          deadline))).Follows works
      (fun after reply =>
        (calls.both leavesCalls).expects states ⟨.transfer
            (.putAndNotify ep data size gwRaddr gwRkey sessionId deadline),
          reply⟩ ∧
          Between ((calls.both leavesCalls).next states ⟨.transfer
              (.putAndNotify ep data size gwRaddr gwRkey sessionId deadline),
            reply⟩) after)
      position := by
  obtain ⟨holding, left⟩ := states
  obtain ⟨rfl, same, phase, free⟩ := between
  obtain ⟨⟨holds, hasKey⟩, finished⟩ := allowed
  have idle : position.phase = .idle := by
    cases current : position.phase with
    | idle => rfl
    | writing future =>
        rw [current] at phase
        exact phase.elim
    | expired future =>
        rw [current] at same
        cases same.trans finished
  apply Program.Follows.bind
  apply (follows_putAndNotify idle free holds hasKey data size gwRaddr
    sessionId).mono
  rintro after future rfl
  refine ⟨⟨rfl, rfl⟩, fun reply _ => ?_⟩
  cases reply with
  | none => exact ⟨⟨trivial, trivial⟩, rfl, rfl, trivial, rfl⟩
  | some status => exact ⟨⟨trivial, trivial⟩, rfl, finished.symm, trivial, rfl⟩

/-- The worker does what the requests of the pool say. -/
theorem handles
    (states : Holding × Bool)
    (position : Position)
    (call : PoolCall)
    (between : Between states position)
    (allowed : (calls.both leavesCalls).allows states call) :
    (handler call).Follows works
      (fun after reply =>
        (calls.both leavesCalls).expects states ⟨call, reply⟩ ∧
          Between ((calls.both leavesCalls).next states ⟨call, reply⟩) after)
      position := by
  by_cases write : IsWrite call
  · unfold IsWrite at write
    split at write
    · exact handles_write between allowed
    · exact write.elim
  · have pooled : handler call = Program.perform (WorkerCall.pool call) := by
      cases call with
      | transfer call =>
          cases call with
          | putAndNotify ep data size gwRaddr gwRkey sessionId deadline =>
              exact (write trivial).elim
          | _ => rfl
      | _ => rfl
    rw [pooled]
    exact follows_pool between allowed write

/-- Every thread respects what it has, and has nothing at its end. -/
theorem Task.follows (task : Task) :
    task.program.Follows works (fun after _ => after.Rest) {} := by
  cases task with
  | put write =>
      have between : Between ({}, false) {} := ⟨rfl, rfl, trivial, rfl⟩
      apply Program.Follows.bind
      apply (write.follows_both.interpret_of_relates handles between).mono
      rintro after result ⟨⟨holding, left⟩, between, empty, finished⟩
      obtain ⟨rfl, same, phase, free⟩ := between
      refine ⟨empty, ?_, free⟩
      cases current : after.phase with
      | idle => rfl
      | writing future =>
          rw [current] at phase
          exact phase.elim
      | expired future =>
          rw [current] at same
          cases same.trans finished
  | progress =>
      refine ⟨⟨rfl, rfl⟩, fun found _ => ?_⟩
      cases found with
      | none => exact ⟨⟨rfl, rfl⟩, rfl, rfl⟩
      | some found =>
          obtain ⟨operation, status⟩ := found
          change (operation.callback status >>= fun _ => pure none).Follows
            works _ _
          apply Program.Follows.bind
          apply (follows_callback rfl).mono
          rintro after _ rfl
          exact ⟨⟨rfl, rfl⟩, rfl, rfl⟩

end UcxEndpointOps
end Client
end TurboAccess

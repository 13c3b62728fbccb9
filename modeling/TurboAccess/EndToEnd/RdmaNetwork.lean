import TurboAccess.Client.Rdma.TransferPath
import TurboAccess.EndToEnd.Writers
import TurboAccess.Gateway.Ucx.SessionLifetime

/-!
# Writers on the CPU path and a gateway

Clients write objects on the CPU path, each with `PutObject` and all its
retries.  Calls reach the gateway as on the GPU path: late, repeated, or never.
So do the remote writes and the active messages of a client, which go past the
calls, straight to the memory and to the progress thread of the gateway.  A
commit that comes before its message is answered from the handler of the
message.

The gateway keeps sessions in its store and entries and registered buffers in
its executor; every handler of the executor is one step, and opening a session
goes section by section.  What the environment does is a guard: a write carries
the bytes of the buffer it was posted with; it does not land in a buffer into
which the owner of the buffer has already written; and a message arrives only
while its session has no entry, or one whose buffer was written.
-/

namespace TurboAccess
namespace EndToEnd
namespace Rdma

open Client (OpenSessionResponse RpcOutcome)
open Client.Gds (SessionOpening TransferOutcome)
open Client.RdmaTransferPath (PutCall RdmaClientOptions RdmaCommitRequest)
open Gateway (CompositeBackend Draw OpenSessionParams Session SessionStore
  makeKey)
open Gateway.Gds (SameObject)
open Gateway.Rdma (Frame Input State)
open Gateway.Ucx (CommitRequest UcxCommitInfo UcxDiscoverInfo UcxExecutor
  UcxOptions overComposite)

deriving instance DecidableEq for PutCall

/-- The composite backend with its clock. -/
abbrev Backend : Type := CompositeBackend × Nat

/-! ## Writers -/

/-- The program of a client. -/
def program
    (rdma : RdmaClientOptions)
    (crcOfBytes : Bytes → String)
    (job : PutJob) :
    Program PutCall PutCall.Answer (Client.Result TransferOutcome) :=
  Client.RdmaTransferPath.putObject job.available job.options rdma
    job.request.toPutObjectRequest job.buffer (crcOfBytes job.payload)

/-- The programs of all clients; those without a job have none to run. -/
def programs
    (rdma : Nat → RdmaClientOptions)
    (crcOfBytes : Bytes → String)
    (jobs : Nat → Option PutJob)
    (client : Nat) :
    Program PutCall PutCall.Answer (Client.Result TransferOutcome) :=
  match jobs client with
  | none => pure (.error (Client.makeNotInitialized "Client"))
  | some job => program (rdma client) crcOfBytes job

/-! ## The gateway -/

/-- The handlers of a gateway, with the request of a client that each of them
works on; the answers to preparations; the callbacks of commits; and the
numbers of the entries whose buffer a write of their session has reached. -/
structure Host where
  pool : Pool (State Backend) Frame
  serving : Nat → Option (Nat × PutCall)
  prepared : List (Nat × PutCall × UcxDiscoverInfo)
  commits : List (Nat × CommitRequest)
  landed : List (String × Nat)

/-- What of a client arrives at the gateway.  A write reaches the buffer at its
address, and a message is that of a write. -/
def TakesUp (ucx : UcxExecutor Backend) : PutCall → Input Backend → Prop
  | .openSession opening, .session (.create req _) => req = arrives opening
  | .prepareTransfer sessionId transferBytes,
        .ucx (.prepareTransfer asked bytes _) =>
      asked = sessionId ∧ bytes = transferBytes
  | .putAndNotify _ _ size gwRaddr _ _ _, .ucx (.remoteWrite slot data) =>
      data.length = size ∧
        (ucx.buffers.lookup slot).map (·.gwRaddr) = some gwRaddr
  | .putAndNotify _ _ _ _ _ sessionId _, .ucx (.amWriteDone announced) =>
      announced = sessionId
  | .commitObject request, .ucx (.commitObject sessionId bytes checksum) =>
      request = ⟨sessionId, bytes, checksum⟩
  | .abortSession sessionId, .ucx (.abortSession aborted) =>
      aborted = sessionId
  | _, _ => False

instance (ucx : UcxExecutor Backend) (call : PutCall) (input : Input Backend) :
    Decidable (TakesUp ucx call input) := by
  unfold TakesUp
  split <;> infer_instance

/-- The entry whose buffer a write of its own session reaches. -/
def reached (ucx : UcxExecutor Backend) :
    PutCall → Input Backend → List (String × Nat)
  | .putAndNotify _ _ _ _ _ sessionId _, .ucx (.remoteWrite slot _) =>
      match ucx.registry.lookup sessionId with
      | some entry =>
          if entry.slot = some slot then [(sessionId, entry.serial)] else []
      | none => []
  | _, _ => []

/-- The callback of a commit. -/
def callback (ucx : UcxExecutor Backend) (client : Nat) :
    PutCall → List (Nat × CommitRequest)
  | .commitObject request =>
      [(client, ⟨.object, request.sessionId, request.bytesTransferred,
        request.clientChecksum, ucx.requests⟩)]
  | _ => []

/-- What a handler does next: take up what has arrived from a client, or go on,
or begin a call of someone else. -/
inductive HostInput
  | take (thread client : Nat) (call : PutCall) (input : Input Backend)
  | go (thread : Nat) (input : Input Backend)

section Steps

variable (options : UcxOptions)

/-- The answer to a preparation. -/
def answers (ucx : UcxExecutor Backend) (client : Nat) (call : PutCall) :
    Input Backend → List (Nat × PutCall × UcxDiscoverInfo)
  | .ucx (.prepareTransfer sessionId transferBytes allocation) =>
      match (ucx.prepareTransfer options sessionId transferBytes
          allocation).1 with
      | .ok info => [(client, call, info)]
      | .error _ => []
  | _ => []

/-- One step of the gateway. -/
def serve
    (sent : List (Nat × PutCall))
    (host : Host) : HostInput → Option Host
  | .take thread client call input =>
      let ucx := host.pool.shared.ucx
      if (client, call) ∈ sent ∧ TakesUp ucx call input ∧
          host.pool.threads thread = .call .idle then
        (host.pool.step (Gateway.Rdma.advance overComposite options)
          (thread, input)).map fun pool =>
            { pool
              serving :=
                Function.update host.serving thread (some (client, call))
              prepared := answers options ucx client call input ++
                host.prepared
              commits := callback ucx client call ++ host.commits
              landed := reached ucx call input ++ host.landed }
      else none
  | .go thread input =>
      (host.pool.step (Gateway.Rdma.advance overComposite options)
        (thread, input)).map fun pool =>
          { host with
            pool
            serving :=
              if host.pool.threads thread = .call .idle then
                Function.update host.serving thread none
              else host.serving }

/-- The session that a handler has opened. -/
def opened : Frame → Option Gateway.SessionPtr
  | .opened (.ok ptr) => some ptr
  | _ => none

/-- A commit of a client was answered. -/
def Committed
    (host : Host)
    (client : Nat)
    (request : RdmaCommitRequest)
    (info : UcxCommitInfo) : Prop :=
  ∃ commit ∈ host.commits, commit.1 = client ∧
    request =
      ⟨commit.2.sessionId, commit.2.bytesTransferred, commit.2.clientCrc32c⟩ ∧
      ∃ reply ∈ host.pool.shared.ucx.replies, reply.request = commit.2 ∧
        match reply.result with
        | .object (.ok answer) => answer = info
        | _ => False

instance (host : Host) (client : Nat) (request : RdmaCommitRequest)
    (info : UcxCommitInfo) :
    Decidable (Committed host client request info) := by
  unfold Committed
  have answered : ∀ result : Gateway.Ucx.CommitResult, Decidable
      (match result with
        | .object (.ok answer) => answer = info
        | _ => False) := by
    intro result
    split <;> infer_instance
  infer_instance

/-- The answers a client may get: that its call has failed, what the gateway has
answered, and anything from a clock, from the random generator, from the pool of
endpoints and from the transport. -/
def possible
    (host : Host)
    (client thread : Nat) : Request PutCall PutCall.Answer → Bool
  | ⟨.openSession opening, .answered response⟩ =>
      host.serving thread = some (client, .openSession opening) ∧
        (opened (host.pool.threads thread)).map (fun ptr =>
          fillOpenSessionResponse (host.pool.shared.sessions.objects ptr)) =
            some response
  | ⟨.prepareTransfer sessionId transferBytes, .answered info⟩ =>
      (client, .prepareTransfer sessionId transferBytes, info) ∈ host.prepared
  | ⟨.commitObject request, .answered info⟩ =>
      decide (Committed host client request info)
  | _ => true

/-- A gateway over empty tables. -/
def Host.Initial (host : Host) : Prop :=
  ∃ gatewayId sessionTtl started backend,
    host =
      ⟨⟨⟨.init gatewayId sessionTtl, .init started backend⟩,
        fun _ => .call .idle⟩, fun _ => none, [], [], []⟩

/-- Writers and their gateway. -/
def machine
    (rdma : Nat → RdmaClientOptions)
    (crcOfBytes : Bytes → String)
    (jobs : Nat → Option PutJob) :
    Machine
      (Network Host PutCall PutCall.Answer (Client.Result TransferOutcome))
      (Network.Event HostInput Nat PutCall PutCall.Answer) :=
  Network.machine possible (serve options) Host.Initial
    (programs rdma crcOfBytes jobs)

end Steps

/-! ## The environment -/

/-- The session that a request to open one makes or finds bears an identifier of
the client it is for, or of none. -/
def Named
    (owner : String → Option Nat)
    (who : Option Nat)
    (sessions : SessionStore)
    (req : OpenSessionParams)
    (draw : Draw) : Prop :=
  match sessions.lookupKey req with
  | none => owner (sessions.newSession req draw).sessionId = who
  | some (.ok ptr) => owner (sessions.objects ptr).sessionId = who
  | some (.error _) => True

section Environment

variable
  (jobs : Nat → Option PutJob)
  (owner : String → Option Nat)

/-- A write of a client, or of none, does not land in a buffer of another one
into which that one has written. -/
def Misses (host : Host) (who : Option Nat) (slot : Nat) : Prop :=
  ∀ sessionId entry,
    host.pool.shared.ucx.registry.lookup sessionId = some entry →
      entry.slot = some slot →
        (sessionId, entry.serial) ∈ host.landed → owner sessionId = who

/-- A message finds no entry, or one whose buffer was written. -/
def Announces (host : Host) (sessionId : String) : Prop :=
  ∀ entry, host.pool.shared.ucx.registry.lookup sessionId = some entry →
    (sessionId, entry.serial) ∈ host.landed

/-- What of a client arrives at the gateway: writes with the bytes of its
buffer, and neither writes nor messages of an attempt that is over. -/
def Arrives (host : Host) (client : Nat) : PutCall → Input Backend → Prop
  | .openSession _, .session (.create req draw) =>
      Named owner (some client) host.pool.shared.sessions req draw
  | .putAndNotify _ data _ _ _ _ _, .ucx (.remoteWrite slot bytes) =>
      Misses owner host (some client) slot ∧
        ∀ job, jobs client = some job → data = job.buffer.data →
          bytes.length = job.buffer.size → bytes = job.payload
  | .putAndNotify _ _ _ _ _ sessionId _, .ucx (.amWriteDone _) =>
      Announces host sessionId
  | _, _ => True

/-- What others do is about other sessions and other objects. -/
def Foreign (host : Host) : Input Backend → Prop
  | .session (.create req draw) =>
      ¬Target jobs (makeKey req.bucket req.objectKey) ∧
        Named owner none host.pool.shared.sessions req draw
  | .ucx (.remoteWrite slot _) => Misses owner host none slot
  | .ucx event => ∀ sessionId, event.sessionId = some sessionId →
      owner sessionId = none
  | .backend backend =>
      ∀ id, Target jobs id →
        SameObject id host.pool.shared.ucx.backend.1 backend.1
  | _ => True

/-- What is assumed of every event. -/
def Environment
    (network :
      Network Host PutCall PutCall.Answer (Client.Result TransferOutcome)) :
    Network.Event HostInput Nat PutCall PutCall.Answer → Prop
  | .serve (.take _ client call input) =>
      Arrives jobs owner network.service client call input
  | .serve (.go _ input) => Foreign jobs owner network.service input
  | _ => True

end Environment

end Rdma
end EndToEnd
end TurboAccess

import TurboAccess.Gateway.Gds.ControlPlane
import TurboAccess.Proxy.SessionManager

/-!
# The data plane of the backend

The backend pulls the bytes of a single-object write into a pinned buffer, takes
their checksum, and drops them.  It knows no sessions: what it reports to the
proxy is what the request and the transfer say.
-/

namespace TurboAccess
namespace Backend

open Gateway Gateway.Gds

/-- Largest chunk of the object server. -/
def maxChunkBytes : Nat := 1024 * 1024 * 1024

/-- What arrived of a chunk. -/
structure DiscardOutcome where
  bytesTransferred : Nat
  crc32c : UInt32
  deriving DecidableEq

/-- Pull a chunk and drop it. -/
def receiveAndDiscard
    (length : Nat)
    (answers : CuObjAnswers) : Except String DiscardOutcome :=
  if maxChunkBytes < length then
    .error "GDS PUT chunk exceeds 1 GiB cuObjServer limit"
  else if length = 0 then .ok ⟨0, 0⟩
  else if answers.leaseOk = false then
    .error "cuObjServer pinned buffer alloc failed"
  else if answers.channelOk = false then
    .error "cuObjServer allocateChannelId failed"
  else if answers.transferred < 0 then
    .error ("cuObjServer handlePutObject failed: " ++ answers.status)
  else .ok ⟨answers.transferred.toNat, crc32c answers.view⟩

/-- Entity tag made from a checksum: eight hexadecimal digits. -/
def buildEtag (crc : UInt32) : String :=
  let digits := hexDigits crc.toNat
  String.ofList (List.replicate (8 - digits.length) '0' ++ digits)

structure GdsPutResponse where
  etag : String
  bytesReceived : Nat
  deriving DecidableEq

/-- Pull the chunk of a request; the report to the proxy comes with the
answer. -/
def gdsPut
    (request : GdsChunkRequest)
    (answers : CuObjAnswers) :
    Except String (GdsPutResponse × Proxy.SessionManager.Report) :=
  if request.uploadId ≠ "" then .error "backend v1: only single-object GdsPut"
  else if request.rdmaToken = "" then
    .error "backend v1: missing rdma_token for GdsPut"
  else if answers.connected = false then
    .error "backend v1: cuObjServer not available"
  else
    match receiveAndDiscard request.chunkSize answers with
    | .error reason => .error ("backend v1: " ++ reason)
    | .ok outcome =>
        .ok
          (⟨buildEtag outcome.crc32c, outcome.bytesTransferred⟩,
            { sessionId := request.sessionId
              etag := buildEtag outcome.crc32c
              crc32c := outcome.crc32c
              bytesTransferred := outcome.bytesTransferred })

/-- The bytes that a transfer delivers for a chunk; an empty chunk is not
transferred. -/
def received (length : Nat) (answers : CuObjAnswers) : Bytes :=
  if length = 0 then [] else answers.view

theorem length_view (answers : CuObjAnswers) :
    answers.view.length = answers.transferred.toNat := by
  simp [CuObjAnswers.view]

/-- What a chunk is said to have delivered is what it delivered. -/
theorem receiveAndDiscard_eq_ok
    {length : Nat}
    {answers : CuObjAnswers}
    {outcome : DiscardOutcome}
    (pulled : receiveAndDiscard length answers = .ok outcome) :
    length ≤ maxChunkBytes ∧
      outcome.bytesTransferred = (received length answers).length ∧
        outcome.crc32c = crc32c (received length answers) := by
  revert pulled
  fun_cases receiveAndDiscard length answers <;> intro pulled <;> cases pulled
  case case2 small empty =>
      rw [received, if_pos empty]
      exact ⟨by omega, rfl, by decide⟩
  case case6 small nonempty lease channel whole =>
      rw [received, if_neg nonempty]
      exact ⟨by omega, (length_view answers).symm, rfl⟩

/-- What a report says is what the request and the transfer say. -/
theorem gdsPut_eq_ok
    {request : GdsChunkRequest}
    {answers : CuObjAnswers}
    {response : GdsPutResponse}
    {report : Proxy.SessionManager.Report}
    (put : gdsPut request answers = .ok (response, report)) :
    request.chunkSize ≤ maxChunkBytes ∧
      report =
        { sessionId := request.sessionId
          etag := buildEtag (crc32c (received request.chunkSize answers))
          crc32c := crc32c (received request.chunkSize answers)
          bytesTransferred := (received request.chunkSize answers).length } ∧
        response = ⟨report.etag, report.bytesTransferred⟩ := by
  revert put
  fun_cases gdsPut request answers <;> intro put <;> cases put
  case case5 outcome pulled =>
      obtain ⟨small, bytes, crc⟩ := receiveAndDiscard_eq_ok pulled
      rw [bytes, crc]
      exact ⟨small, rfl, rfl⟩

end Backend
end TurboAccess

import TurboAccess.Client.Gds.ShortTransfers
import TurboAccess.Client.Retry

/-!
# Writes on the GPU path

An attempt checks the buffer, opens a session, gets a token for the buffer and
sends the only chunk; if that fails, the session is aborted.
-/

namespace TurboAccess
namespace Client
namespace GdsTransferPath

open Gateway.Gds (GdsChunkRequest GdsChunkResponse)
open Gds (BufferView ClientOptions SessionOpening checkPutObject
  executeTransferPut makeSessionHandshake partTooLarge preflightGds
  validateBuffer)
open Program (perform)

/-! ## Requests -/

/-- What an attempt asks for. -/
inductive PutCall
  | now
  | randomWord
  | openSession (opening : SessionOpening)
  | acquireToken (ptr size : Nat)
  | gdsPut (chunk : GdsChunkRequest)
  | abortSession (sessionId : String)

@[reducible] def PutCall.Answer : PutCall → Type
  | .now => Int
  | .randomWord => UInt64
  | .openSession _ => RpcOutcome OpenSessionResponse
  | .acquireToken _ _ => Result String
  | .gdsPut _ => RpcOutcome GdsChunkResponse
  | .abortSession _ => RpcOutcome Bool

abbrev Put := Program PutCall PutCall.Answer

def now : Put Int := perform PutCall.now

def randomWord : Put UInt64 := perform PutCall.randomWord

def rpcOpenTransferSession (request : SessionOpening) :
    Put (Result OpenSessionResponse) := do
  let outcome : RpcOutcome _ ← perform (PutCall.openSession request)
  pure (openSessionResult request outcome)

def acquireToken (buffer : BufferView) : Put (Result String) :=
  perform (PutCall.acquireToken buffer.data buffer.size)

def gdsPut (chunk : GdsChunkRequest) : Put (RpcOutcome GdsChunkResponse) :=
  perform (PutCall.gdsPut chunk)

/-- Tell the gateway that a session is given up, whatever it says. -/
def abortSession (sessionId : String) : Put Unit := do
  let _ ← perform (PutCall.abortSession sessionId)
  pure ()

/-! ## An attempt -/

/-- The session that the gateway has answered. -/
def importSession (response : OpenSessionResponse) : TransferSession where
  requestId := response.requestId
  sessionId := response.sessionId
  ticket := response.ticket

/-- The gateway of the session; it has a default. -/
def gatewayOf (response : OpenSessionResponse) : String :=
  if response.gatewayId = "" then "gateway-local" else response.gatewayId

/-- Check the buffer and open a session. -/
def openSessionForPut
    (options : ClientOptions)
    (request : PutPartRequest)
    (buffer : BufferView) : Put (Result OpenSessionResponse) :=
  match validateBuffer buffer with
  | .error error => pure (.error error)
  | .ok () => do
      let requestWord ← randomWord
      let sessionWord ← randomWord
      rpcOpenTransferSession (makeSessionHandshake options
        { operation := .put
          bucket := request.bucket
          key := request.key
          timeout := request.timeout
          idempotencyKey := request.idempotencyKey
          bufferType := buffer.type
          path := .gpuDirect }
        requestWord sessionWord)

/-- What the client of the data plane returns for a chunk. -/
def gdsChunk
    (requestId : String)
    (outcome : RpcOutcome GdsChunkResponse) : Result GdsChunkResponse :=
  outcome.result "GDS data client" "Failed to execute GDS chunk RPC" .gpuDirect
    requestId

/-- Get a token for the buffer and send its only chunk. -/
def executePut
    (response : OpenSessionResponse)
    (request : PutPartRequest)
    (buffer : BufferView)
    (uploadId : String)
    (partNumber : Nat) : Put (Result Gds.TransferOutcome) :=
  if buffer.data = 0 ∨ buffer.size = 0 then
    pure (.error (makeInvalidArgument
      "GDS transfer requires non-null buffer and positive size"))
  else do
    let session := importSession response
    let token ← acquireToken buffer
    match executePutPart session request buffer token uploadId partNumber with
    | .error error => pure (.error error)
    | .ok chunk =>
        let outcome ← gdsPut chunk
        pure (executeTransferPut session (gatewayOf response) request buffer
          token uploadId partNumber fun _ =>
            gdsChunk session.requestId outcome)

/-- One attempt of a write, of an object when there is no upload. -/
def attempt
    (options : ClientOptions)
    (request : PutPartRequest)
    (buffer : BufferView)
    (uploadId : String)
    (partNumber : Nat)
    (_deadline : Int) : Put (Result Gds.TransferOutcome) := do
  match ← openSessionForPut options request buffer with
  | .error error => pure (.error error)
  | .ok response =>
      match ← executePut response request buffer uploadId partNumber with
      | .error error =>
          abortSession response.sessionId
          pure (.error error)
      | .ok outcome => pure (.ok outcome)

/-! ## Writes -/

/-- The checks of `PutObjectPart` before its attempts. -/
def checkPutObjectPart
    (available : Bool)
    (options : Gds.GdsClientOptions)
    (buffer : BufferView) : Result Unit :=
  match preflightGds available buffer.type with
  | .error error => .error error
  | .ok () =>
      if options.putSingleMaxBytes ≠ 0 ∧
          buffer.size > options.putSingleMaxBytes then
        .error (partTooLarge buffer.size options.putSingleMaxBytes)
      else .ok ()

def putObject
    (available : Bool)
    (options : ClientOptions)
    (request : PutPartRequest)
    (buffer : BufferView) : Put (Result Gds.TransferOutcome) :=
  match checkPutObject available options.gds buffer with
  | .error error => pure (.error error)
  | .ok () =>
      attemptsWithin now options.requestTimeout "PutObject"
        (attempt options request buffer "" 0)

def putObjectPart
    (available : Bool)
    (options : ClientOptions)
    (request : PutPartRequest)
    (buffer : BufferView)
    (uploadId : String)
    (partNumber : Nat) : Put (Result Gds.TransferOutcome) :=
  match checkPutObjectPart available options.gds buffer with
  | .error error => pure (.error error)
  | .ok () =>
      attemptsWithin now options.requestTimeout "PutObjectPart"
        (attempt options request buffer uploadId partNumber)

/-! ## Runs -/

section

variable
  {available : Bool}
  {options : ClientOptions}
  {request : PutPartRequest}
  {buffer : BufferView}
  {uploadId : String}
  {partNumber : Nat}
  {trace : List (Request PutCall PutCall.Answer)}
  {result : Result Gds.TransferOutcome}

/-- A run of `PutObject` is rejected, or made of attempts. -/
theorem inAttempts_of_putObject
    (run : (putObject available options request buffer).Run trace result) :
    ∃ attempts,
      InAttempts now
        (attemptBefore now "PutObject" (attempt options request buffer "" 0))
        trace attempts result := by
  rw [putObject] at run
  split at run
  · cases run
    exact ⟨[], .rejected _⟩
  · exact inAttempts_of_run run

/-- So is a run of `PutObjectPart`. -/
theorem inAttempts_of_putObjectPart
    (run : (putObjectPart available options request buffer uploadId
      partNumber).Run trace result) :
    ∃ attempts,
      InAttempts now
        (attemptBefore now "PutObjectPart"
          (attempt options request buffer uploadId partNumber))
        trace attempts result := by
  rw [putObjectPart] at run
  split at run
  · cases run
    exact ⟨[], .rejected _⟩
  · exact inAttempts_of_run run

end

end GdsTransferPath
end Client
end TurboAccess

import TurboAccess.Client.Gds.ShortTransfers
import TurboAccess.Client.Retry

/-!
# Writes on the CPU path

An attempt opens a session, asks the gateway to prepare a buffer, takes an
endpoint from the pool, writes the bytes through it into the buffer of the
gateway, and commits.  Every stage may fail, and the deadline may pass before
it.

What the attempt asks of the clock, the gateway, the pool and the transport is a
request; the objects that keep the endpoint until it is given back are values,
with their moves and destructors written out.
-/

namespace TurboAccess
namespace Client
namespace RdmaTransferPath

open Gateway (ErrorCode)
open Gateway.Ucx (UcxCommitInfo UcxDiscoverInfo)
open Gds (BufferView ClientOptions PutObjectRequest SessionOpening
  makeSessionHandshake makeUnsupportedPath)
open Program (perform)

/-- An endpoint and a remote key, each a handle of the transport or null. -/
structure EpSlot where
  ep : Option Nat := none
  rkey : Option Nat := none
  deriving DecidableEq, Repr

structure RdmaClientOptions where
  maxMsgBytes : Nat := 4 * 1024 * 1024 * 1024
  poolMaxIdlePerEndpoint : Nat := 8
  sendCrc32c : Bool := false
  deriving DecidableEq

structure RdmaCommitRequest where
  sessionId : String
  bytesTransferred : Nat
  clientChecksum : String
  deriving DecidableEq

/-! ## Requests -/

/-- What an attempt asks for.  A word is drawn for an identifier. -/
inductive PutCall
  | now
  | randomWord
  | openSession (opening : SessionOpening)
  | prepareTransfer (sessionId : String) (transferBytes : Nat)
  | acquire (host : String) (port : UInt16) (packedRkey : Bytes)
  | unpackRkey (ep : Option Nat) (packedRkey : Bytes)
  | putAndNotify (ep : Option Nat) (data size gwRaddr gwRkey : Nat)
      (sessionId : String) (deadline : Int)
  | commitObject (request : RdmaCommitRequest)
  | commitPart (request : RdmaCommitPartRequest)
  | giveBack (host : String) (port : UInt16) (slot : EpSlot)
  | discard (slot : EpSlot)
  | abortSession (sessionId : String)

/-- Unpacking a key and writing fail with the text of a status.  A write that
has not ended by the deadline answers nothing. -/
@[reducible] def PutCall.Answer : PutCall → Type
  | .now => Int
  | .randomWord => UInt64
  | .openSession _ => RpcOutcome OpenSessionResponse
  | .prepareTransfer _ _ => RpcOutcome UcxDiscoverInfo
  | .acquire _ _ _ => Result EpSlot
  | .unpackRkey _ _ => Except String Nat
  | .putAndNotify _ _ _ _ _ _ _ => Option (Except String Unit)
  | .commitObject _ => RpcOutcome UcxCommitInfo
  | .commitPart _ => RpcOutcome String
  | .giveBack _ _ _ => Unit
  | .discard _ => Unit
  | .abortSession _ => RpcOutcome Bool

abbrev Put := Program PutCall PutCall.Answer

def now : Put Int := perform PutCall.now

def randomWord : Put UInt64 := perform PutCall.randomWord

def rpcOpenTransferSession (request : SessionOpening) :
    Put (Result OpenSessionResponse) := do
  let outcome : RpcOutcome _ ← perform (PutCall.openSession request)
  pure (openSessionResult request outcome)

/-- What the client of the data plane makes of an outcome. -/
def dataPlaneResult {α : Type} (outcome : RpcOutcome α) (message : String) :
    Result α :=
  outcome.result "RDMA data plane client" message .cpuDirect ""

def rpcPrepareTransfer (sessionId : String) (transferBytes : Nat) :
    Put (Result UcxDiscoverInfo) := do
  let outcome : RpcOutcome _ ←
    perform (PutCall.prepareTransfer sessionId transferBytes)
  pure (dataPlaneResult outcome "PrepareTransfer RPC failed")

def rpcCommitObject (request : RdmaCommitRequest) :
    Put (Result UcxCommitInfo) := do
  let outcome : RpcOutcome _ ← perform (PutCall.commitObject request)
  pure (dataPlaneResult outcome "CommitObject RPC failed")

def rpcCommitPart (request : RdmaCommitPartRequest) : Put (Result String) := do
  let outcome : RpcOutcome _ ← perform (PutCall.commitPart request)
  pure (dataPlaneResult outcome "CommitPart RPC failed")

/-- Tell the gateway that a session is given up, whatever it says. -/
def abortSession (sessionId : String) : Put Unit := do
  let _ ← perform (PutCall.abortSession sessionId)
  pure ()

def acquire (host : String) (port : UInt16) (packedRkey : Bytes) :
    Put (Result EpSlot) :=
  perform (PutCall.acquire host port packedRkey)

def giveBack (host : String) (port : UInt16) (slot : EpSlot) : Put Unit :=
  perform (PutCall.giveBack host port slot)

def discard (slot : EpSlot) : Put Unit := perform (PutCall.discard slot)

def putAndNotify
    (ep : Option Nat)
    (buffer : BufferView)
    (gwRaddr gwRkey : Nat)
    (sessionId : String)
    (deadline : Int) : Put (Option (Except String Unit)) :=
  perform (PutCall.putAndNotify ep buffer.data buffer.size gwRaddr gwRkey
    sessionId deadline)

/-! ## Errors -/

def makeTransportFailure
    (message : String)
    (requestId : String)
    (retryable : Bool) : Error :=
  makeError .transportError message retryable (Gds.DataFlow.toText .cpuDirect)
    requestId

def timeoutBefore (stage : String) : Error :=
  makeError .timeout ("UCX RMA timeout before " ++ stage) true

/-! ## The keeper of a slot -/

/-- What `PrepareAndWrite` returns: the slot, and whether it still has to be
given back.  The owner is null until the write has ended. -/
structure WritePrepared where
  sessionId : String := ""
  requestId : String := ""
  gatewayId : String := ""
  epHost : String := ""
  epPort : UInt16 := 0
  slot : EpSlot := {}
  owner : Bool := false
  released : Bool := false

namespace WritePrepared

/-- Give the slot back, and forget it. -/
def returnEp (prepared : WritePrepared) (success : Bool) : Put WritePrepared :=
  if prepared.slot.ep = none then pure prepared
  else if success then do
    giveBack prepared.epHost prepared.epPort prepared.slot
    pure { prepared with slot := {} }
  else do
    discard prepared.slot
    pure { prepared with slot := {} }

/-- Give the slot back explicitly. -/
def release (prepared : WritePrepared) (success : Bool) : Put WritePrepared :=
  if prepared.owner = true ∧ prepared.slot.ep ≠ none then do
    let prepared ← prepared.returnEp success
    pure { prepared with released := true }
  else pure prepared

/-- The destructor discards a slot that was not given back. -/
def destroy (prepared : WritePrepared) : Put Unit :=
  if prepared.released = false ∧ prepared.owner = true ∧
      prepared.slot.ep ≠ none then do
    let _ ← prepared.returnEp false
    pure ()
  else pure ()

/-- A new object with the slot, and the old one, which does not manage it any
more. -/
def move (other : WritePrepared) : WritePrepared × WritePrepared :=
  (other, { other with released := true })

/-- A successful result takes the object by value, hands it to its constructor,
and that to its storage. -/
def success (prepared : WritePrepared) : Put (Result WritePrepared) := do
  let (argument, prepared) := prepared.move
  let (parameter, argument) := argument.move
  let (stored, parameter) := parameter.move
  parameter.destroy
  argument.destroy
  prepared.destroy
  pure (.ok stored)

end WritePrepared

/-! ## An attempt -/

/-- The deadline has not passed. -/
def checkDeadline (deadline : Int) : Put Bool := do
  let time ← now
  pure (time < deadline)

/-- Give up on a slot and its session. -/
def giveUp
    (slot : EpSlot)
    (sessionId : String)
    (error : Error) : Put (Result WritePrepared) := do
  discard slot
  abortSession sessionId
  pure (.error error)

/-- Unpack the key of the buffer unless the pool has done so. -/
def unpackRkey (slot : EpSlot) (packedRkey : Bytes) :
    Put (Except String EpSlot) :=
  if slot.rkey = none ∧ packedRkey ≠ [] then do
    let unpacked : Except String Nat ←
      perform (PutCall.unpackRkey slot.ep packedRkey)
    pure (unpacked.map fun rkey => { slot with rkey := some rkey })
  else pure (.ok slot)

/-- The end of `PrepareAndWrite`: write through a slot that the pool has
answered. -/
def writeThrough
    (buffer : BufferView)
    (deadline : Int)
    (opened : OpenSessionResponse)
    (info : UcxDiscoverInfo)
    (slot : EpSlot) : Put (Result WritePrepared) := do
  match ← unpackRkey slot info.gwPackedRkey with
  | .error status =>
      giveUp slot opened.sessionId
        (makeTransportFailure ("ucp_ep_rkey_unpack: " ++ status)
          opened.sessionId false)
  | .ok slot =>
      match slot.rkey with
      | none =>
          giveUp slot opened.sessionId
            (makeTransportFailure "gw_packed_rkey is empty" opened.sessionId
              false)
      | some rkey =>
          let inTime ← checkDeadline deadline
          if inTime = false then
            giveUp slot opened.sessionId (timeoutBefore "PutAndNotify")
          else
            match ← putAndNotify slot.ep buffer info.gwRaddr rkey
              opened.sessionId deadline with
            | none =>
                giveUp slot opened.sessionId
                  (makeError .timeout "PutAndNotify timeout" true
                    (Gds.DataFlow.toText .cpuDirect))
            | some (.error status) =>
                giveUp slot opened.sessionId
                  (makeTransportFailure ("PutAndNotify failed: " ++ status)
                    opened.sessionId true)
            | some (.ok ()) =>
                let prepared : WritePrepared :=
                  { sessionId := opened.sessionId
                    requestId := opened.requestId
                    gatewayId := opened.gatewayId
                    epHost := info.host
                    epPort := UInt16.ofNat info.ucxPort
                    slot
                    owner := true }
                prepared.success

/-- `PrepareAndWrite` with an open session. -/
def prepareTransfer
    (buffer : BufferView)
    (deadline : Int)
    (opened : OpenSessionResponse) : Put (Result WritePrepared) := do
  let inTime ← checkDeadline deadline
  if inTime = false then
    abortSession opened.sessionId
    pure (.error (timeoutBefore "PrepareTransfer"))
  else
    match ← rpcPrepareTransfer opened.sessionId buffer.size with
    | .error error =>
        abortSession opened.sessionId
        pure (.error error)
    | .ok info =>
        if info.ucxPort = 0 ∨ info.gwRaddr = 0 then
          abortSession opened.sessionId
          pure (.error (makeTransportFailure
            "gateway UCX not enabled or gw_raddr is zero" opened.sessionId
            false))
        else
          let inTime ← checkDeadline deadline
          if inTime = false then
            abortSession opened.sessionId
            pure (.error (timeoutBefore "pool.Acquire"))
          else
            match ← acquire info.host (UInt16.ofNat info.ucxPort)
              info.gwPackedRkey with
            | .error error =>
                abortSession opened.sessionId
                pure (.error error)
            | .ok slot => writeThrough buffer deadline opened info slot

/-- Open a session, and write the buffer into that of the gateway. -/
def prepareAndWrite
    (options : ClientOptions)
    (request : PutObjectRequest)
    (buffer : BufferView)
    (isMultipartPart : Bool)
    (deadline : Int) : Put (Result WritePrepared) := do
  let inTime ← checkDeadline deadline
  if inTime = false then
    pure (.error (timeoutBefore "OpenSession"))
  else
    let requestWord ← randomWord
    let sessionWord ← randomWord
    match ← rpcOpenTransferSession (makeSessionHandshake options
      { operation := .put
        bucket := request.bucket
        key := request.key
        timeout := request.timeout
        idempotencyKey := request.idempotencyKey
        bufferType := buffer.type
        path := .cpuDirect
        isMultipartPart }
      requestWord sessionWord) with
    | .error error => pure (.error error)
    | .ok opened => prepareTransfer buffer deadline opened

/-! ## Writes -/

/-- The text of the checksum of a buffer, given that of its bytes. -/
def clientCrc
    (rdma : RdmaClientOptions)
    (buffer : BufferView)
    (crcOfBytes : String) : String :=
  if rdma.sendCrc32c = false ∨ buffer.data = 0 ∨ buffer.size = 0 then ""
  else crcOfBytes

/-- The end of an attempt: its commit has been answered, the slot is released,
and the session given up if the commit has failed. -/
def finish
    (prepared : WritePrepared)
    (bytesTransferred : Nat)
    (commit : Result UcxCommitInfo) : Put (Result Gds.TransferOutcome) := do
  match commit with
  | .error error =>
      let prepared ← prepared.release false
      abortSession prepared.sessionId
      prepared.destroy
      pure (.error error)
  | .ok info =>
      let prepared ← prepared.release true
      prepared.destroy
      pure (.ok
        { requestId := prepared.requestId
          sessionId := prepared.sessionId
          gatewayId := prepared.gatewayId
          transferStatus := "completed"
          rdmaReply := ""
          etag := info.etag
          version := info.version
          bytesTransferred
          serverCrc32c := none })

/-- One attempt of a write, given its commit. -/
def attempt
    (options : ClientOptions)
    (request : PutObjectRequest)
    (buffer : BufferView)
    (isMultipartPart : Bool)
    (commit : String → Put (Result UcxCommitInfo))
    (deadline : Int) : Put (Result Gds.TransferOutcome) := do
  match ← prepareAndWrite options request buffer isMultipartPart deadline with
  | .error error => pure (.error error)
  | .ok prepared =>
      let committed ← commit prepared.sessionId
      finish prepared buffer.size committed

def commitObject
    (buffer : BufferView)
    (clientChecksum : String)
    (sessionId : String) : Put (Result UcxCommitInfo) :=
  rpcCommitObject ⟨sessionId, buffer.size, clientChecksum⟩

/-- The outcome of a part has no version. -/
def commitPart
    (buffer : BufferView)
    (clientChecksum : String)
    (uploadId : String)
    (partNumber : Nat)
    (sessionId : String) : Put (Result UcxCommitInfo) := do
  let committed ← rpcCommitPart
    ⟨sessionId, uploadId, partNumber, buffer.size, clientChecksum⟩
  pure (committed.map fun partEtag => ⟨partEtag, ""⟩)

def payloadTooLarge (message : String) : Error :=
  makeError .payloadTooLarge message

/-- One attempt of `PutObject`. -/
def putObjectAttempt
    (options : ClientOptions)
    (rdma : RdmaClientOptions)
    (request : PutObjectRequest)
    (buffer : BufferView)
    (crcOfBytes : String) : Int → Put (Result Gds.TransferOutcome) :=
  attempt options request buffer false
    (commitObject buffer (clientCrc rdma buffer crcOfBytes))

/-- One attempt of `PutObjectPart`. -/
def putObjectPartAttempt
    (options : ClientOptions)
    (rdma : RdmaClientOptions)
    (request : PutObjectRequest)
    (buffer : BufferView)
    (crcOfBytes : String)
    (uploadId : String)
    (partNumber : Nat) : Int → Put (Result Gds.TransferOutcome) :=
  attempt options request buffer true
    (commitPart buffer (clientCrc rdma buffer crcOfBytes) uploadId partNumber)

def putObject
    (available : Bool)
    (options : ClientOptions)
    (rdma : RdmaClientOptions)
    (request : PutObjectRequest)
    (buffer : BufferView)
    (crcOfBytes : String) : Put (Result Gds.TransferOutcome) :=
  if available = false then
    pure (.error (makeUnsupportedPath .cpuDirect "UCX not initialized"))
  else if buffer.size > rdma.maxMsgBytes then
    pure (.error (payloadTooLarge
      "PUT body exceeds rdma.max_msg_bytes; use multipart upload"))
  else
    attemptsWithin now options.requestTimeout "PutObject"
      (putObjectAttempt options rdma request buffer crcOfBytes)

def putObjectPart
    (available : Bool)
    (options : ClientOptions)
    (rdma : RdmaClientOptions)
    (request : PutObjectRequest)
    (buffer : BufferView)
    (crcOfBytes : String)
    (uploadId : String)
    (partNumber : Nat) : Put (Result Gds.TransferOutcome) :=
  if available = false then
    pure (.error (makeUnsupportedPath .cpuDirect "UCX not initialized"))
  else if uploadId = "" ∨ partNumber = 0 then
    pure (.error (makeInvalidArgument
      "PutObjectPart 需要非空 upload_id 与 part_number>=1"))
  else if buffer.size > rdma.maxMsgBytes then
    pure (.error (payloadTooLarge
      "UploadPart body exceeds rdma.max_msg_bytes"))
  else
    attemptsWithin now options.requestTimeout "PutObjectPart"
      (putObjectPartAttempt options rdma request buffer crcOfBytes uploadId
        partNumber)

/-! ## Runs -/

section

variable
  {available : Bool}
  {options : ClientOptions}
  {rdma : RdmaClientOptions}
  {request : PutObjectRequest}
  {buffer : BufferView}
  {crcOfBytes uploadId : String}
  {partNumber : Nat}
  {trace : List (Request PutCall PutCall.Answer)}
  {result : Result Gds.TransferOutcome}

/-- A run of `PutObject` is rejected, or made of attempts. -/
theorem inAttempts_of_putObject
    (run : (putObject available options rdma request buffer crcOfBytes).Run
      trace result) :
    ∃ attempts,
      InAttempts now
        (attemptBefore now "PutObject"
          (putObjectAttempt options rdma request buffer crcOfBytes))
        trace attempts result := by
  rw [putObject] at run
  split at run
  · cases run
    exact ⟨[], .rejected _⟩
  · split at run
    · cases run
      exact ⟨[], .rejected _⟩
    · exact inAttempts_of_run run

/-- So is a run of `PutObjectPart`. -/
theorem inAttempts_of_putObjectPart
    (run : (putObjectPart available options rdma request buffer crcOfBytes
      uploadId partNumber).Run trace result) :
    ∃ attempts,
      InAttempts now
        (attemptBefore now "PutObjectPart"
          (putObjectPartAttempt options rdma request buffer crcOfBytes uploadId
            partNumber))
        trace attempts result := by
  rw [putObjectPart] at run
  split at run
  · cases run
    exact ⟨[], .rejected _⟩
  · split at run
    · cases run
      exact ⟨[], .rejected _⟩
    · split at run
      · cases run
        exact ⟨[], .rejected _⟩
      · exact inAttempts_of_run run

end

end RdmaTransferPath
end Client
end TurboAccess

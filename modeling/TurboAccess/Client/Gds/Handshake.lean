import TurboAccess.Client.Upload.MultipartUpload
import TurboAccess.Gateway.Session.SessionStore
import TurboAccess.Proxy.ControlPlaneService

/-!
# Opening a session on the GPU path

Before the client reads or writes an object on the GPU path it opens a session:
the path checks itself and the buffer, plans the session, completes the plan
with identifiers, and encodes it for the wire.  The random words of the
identifiers are arguments.

The request for a write that arrives at the proxy names the path by a text that
the proxy does not know, and announces no size.
-/

namespace TurboAccess
namespace Client
namespace Gds

open Gateway (ErrorCode paddedHexText)
open Proxy (OpenSessionRequest RpcFailure checkOpenSession)

inductive OperationType
  | get
  | put
  | head
  deriving DecidableEq, Repr

inductive BufferType
  | hostRegular
  | hostPinned
  | cudaDevice
  deriving DecidableEq, Repr

/-- A buffer of the caller; the null pointer is zero. -/
structure BufferView where
  data : Nat
  size : Nat
  type : BufferType
  deriving DecidableEq, Repr

/-! ## Texts of enumerations -/

def DataFlow.toText : DataFlow → String
  | .none => "none"
  | .gpuDirect => "gpu-direct"
  | .cpuDirect => "cpu-direct"

def BufferType.toText : BufferType → String
  | .hostRegular => "host-regular"
  | .hostPinned => "host-pinned"
  | .cudaDevice => "cuda-device"

def OperationType.toText : OperationType → String
  | .get => "GET"
  | .put => "PUT"
  | .head => "HEAD"

def BufferType.name : BufferType → String
  | .hostRegular => "kHostRegular"
  | .hostPinned => "kHostPinned"
  | .cudaDevice => "kCudaDevice"

/-! ## Errors -/

def makeUnsupportedPath (path : DataFlow) (message : String) : Error where
  code := .unsupported
  message := message
  retryable := false
  failedPath := DataFlow.toText path
  requestId := ""

/-- Error of a body over the limit of one write. -/
def putTooLarge (size limit : Nat) : Error where
  code := .payloadTooLarge
  message := "GDS PUT body " ++ toString size ++
    " exceeds gds.put_single_max_bytes " ++ toString limit ++
    "; use multipart upload"
  retryable := false
  failedPath := ""
  requestId := ""

/-! ## Checks of the path -/

/-- A path is available, and the buffer is of the type it requires. -/
def commonPreflight
    (path : DataFlow)
    (pathName : String)
    (available : Bool)
    (actual required : BufferType) : Result Unit :=
  if available = false then
    .error (makeUnsupportedPath path
      (pathName ++ " path is not available on this client"))
  else if actual ≠ required then
    .error (makeUnsupportedPath path
      (pathName ++ " path requires buffer.type=" ++ required.name ++
        ", got buffer.type=" ++ actual.name))
  else .ok ()

def preflightGds (available : Bool) (bufferType : BufferType) : Result Unit :=
  commonPreflight .gpuDirect "GDS (requires kCudaDevice GPU buffer)" available
    bufferType .cudaDevice

/-- What registering a buffer for a transfer checks. -/
def validateBuffer (buffer : BufferView) : Result Unit :=
  if buffer.type ≠ .cudaDevice then
    .error (makeUnsupportedPath .gpuDirect
      "The GDS channel only supports CUDA device buffers")
  else if buffer.data = 0 ∨ buffer.size = 0 then
    .error (makeInvalidArgument
      "GDS buffers must be non-null and have a positive size")
  else .ok ()

/-! ## The handshake -/

/-- What a session is opened for. -/
structure SessionPlan where
  operation : OperationType
  bucket : String
  key : String
  offset : Nat := 0
  length : Option Nat := none
  timeout : Int := 30000
  idempotencyKey : String := ""
  bufferType : BufferType
  path : DataFlow
  isMultipartPart : Bool := false
  deriving DecidableEq

/-- From which length and into how many ranges a read is split, and the limit
of one write, where zero is none. -/
structure GdsClientOptions where
  parallelGetThreshold : Nat := 64 * 1024 * 1024
  parallelGetChunks : Nat := 4
  putSingleMaxBytes : Nat := 1024 * 1024 * 1024
  deriving DecidableEq

/-- Timeouts of the client in milliseconds, what goes with every call, and the
options of the GPU path. -/
structure ClientOptions where
  clientId : String := "us3-turbo-access-client"
  bearerToken : String := ""
  defaultHeaders : List (String × String) := []
  requestTimeout : Int := 300000
  headTimeout : Int := 0
  putTimeout : Int := 0
  getTimeout : Int := 0
  gds : GdsClientOptions := {}
  deriving DecidableEq

structure RpcCallMetadata where
  clientId : String
  bearerToken : String
  defaultHeaders : List (String × String)
  timeout : Int
  deriving DecidableEq

structure SessionOpening where
  context : RpcCallMetadata
  operation : OperationType
  bucket : String
  key : String
  dataFlow : DataFlow
  bufferType : BufferType
  offset : Nat
  length : Option Nat
  requestId : String
  sessionId : String
  idempotencyKey : String
  isMultipartPart : Bool
  deriving DecidableEq

/-- The timeout of an operation, or the general one if it has none. -/
def perOpTimeout (options : ClientOptions) (operation : OperationType) : Int :=
  let own :=
    match operation with
    | .head => options.headTimeout
    | .put => options.putTimeout
    | .get => options.getTimeout
  if own > 0 then own else options.requestTimeout

def makeRpcContext
    (options : ClientOptions)
    (timeout : Int)
    (operation : OperationType) : RpcCallMetadata where
  clientId := options.clientId
  bearerToken := options.bearerToken
  defaultHeaders := options.defaultHeaders
  timeout := if timeout ≤ 0 then perOpTimeout options operation else timeout

/-- Complete a plan; two random words make the identifiers. -/
def makeSessionHandshake
    (options : ClientOptions)
    (plan : SessionPlan)
    (requestWord sessionWord : UInt64) : SessionOpening where
  context := makeRpcContext options plan.timeout plan.operation
  operation := plan.operation
  bucket := plan.bucket
  key := plan.key
  dataFlow := plan.path
  bufferType := plan.bufferType
  offset := plan.offset
  length := plan.length
  requestId := "req-" ++ paddedHexText requestWord
  sessionId := "ses-" ++ paddedHexText sessionWord
  idempotencyKey := plan.idempotencyKey
  isMultipartPart := plan.isMultipartPart

/-- The request that `RpcOpenTransferSession` sends. -/
def rpcOpenTransferSession (request : SessionOpening) : OpenSessionRequest where
  requestId := request.requestId
  sessionId := request.sessionId
  bucket := request.bucket
  objectKey := request.key
  opType := request.operation.toText
  dataFlow := DataFlow.toText request.dataFlow
  bufferType := request.bufferType.toText
  offset := request.offset
  expectedSize := request.length.getD 0
  idempotencyKey := request.idempotencyKey
  isMultipartPart := request.isMultipartPart

/-- What the path reads of a request to write an object. -/
structure PutObjectRequest where
  bucket : String
  key : String
  timeout : Int
  idempotencyKey : String
  deriving DecidableEq

/-- What the path reads of a request to read an object. -/
structure GetObjectRequest where
  bucket : String
  key : String
  offset : Nat
  length : Option Nat
  timeout : Int
  deriving DecidableEq

/-- Check the buffer, and send the request of a plan. -/
def openSession
    (options : ClientOptions)
    (plan : SessionPlan)
    (buffer : BufferView)
    (requestWord sessionWord : UInt64) : Result OpenSessionRequest :=
  match validateBuffer buffer with
  | .error error => .error error
  | .ok () =>
      .ok (rpcOpenTransferSession
        (makeSessionHandshake options plan requestWord sessionWord))

/-- The request that opening a session for a write sends; the plan leaves the
length out. -/
def openSessionForPut
    (options : ClientOptions)
    (request : PutObjectRequest)
    (buffer : BufferView)
    (requestWord sessionWord : UInt64) : Result OpenSessionRequest :=
  openSession options
    { operation := .put
      bucket := request.bucket
      key := request.key
      timeout := request.timeout
      idempotencyKey := request.idempotencyKey
      bufferType := buffer.type
      path := .gpuDirect }
    buffer requestWord sessionWord

/-- The checks of `PutObject` before it opens a session. -/
def checkPutObject
    (available : Bool)
    (options : GdsClientOptions)
    (buffer : BufferView) : Result Unit :=
  match preflightGds available buffer.type with
  | .error error => .error error
  | .ok () =>
      if options.putSingleMaxBytes ≠ 0 ∧
          buffer.size > options.putSingleMaxBytes then
        .error (putTooLarge buffer.size options.putSingleMaxBytes)
      else .ok ()

/-- The request that one attempt of `PutObject` sends. -/
def putObject
    (available : Bool)
    (options : ClientOptions)
    (request : PutObjectRequest)
    (buffer : BufferView)
    (requestWord sessionWord : UInt64) : Result OpenSessionRequest :=
  match checkPutObject available options.gds buffer with
  | .error error => .error error
  | .ok () => openSessionForPut options request buffer requestWord sessionWord

/-! ## The request at the proxy -/

/-- The refusal of a request that names the GPU path as the client does. -/
def refusedFlow : RpcFailure :=
  ⟨Proxy.errUnsupportedPath,
    "proxy v1 only accepts data_flow=gds-cuobject, got: gpu-direct"⟩

/-- The refusal of a request that announces no size. -/
def refusedSize : RpcFailure :=
  ⟨Proxy.errInvalidParam, "expected_size must be > 0 for GDS PUT"⟩

/-- A CUDA buffer that is not empty passes the checks of the registry. -/
theorem validateBuffer_cuda
    {buffer : BufferView}
    (cuda : buffer.type = .cudaDevice)
    (pointer : buffer.data ≠ 0)
    (nonempty : buffer.size ≠ 0) :
    validateBuffer buffer = .ok () := by
  rw [validateBuffer, if_neg (not_not.mpr cuda), if_neg]
  rintro (null | empty)
  · exact pointer null
  · exact nonempty empty

/-- A write within the limit on an available path sends what opening a session
for it sends. -/
theorem putObject_eq_openSessionForPut
    {available : Bool}
    {options : ClientOptions}
    {request : PutObjectRequest}
    {buffer : BufferView}
    {requestWord sessionWord : UInt64}
    {wire : OpenSessionRequest}
    (built : putObject available options request buffer requestWord
      sessionWord = .ok wire) :
    openSessionForPut options request buffer requestWord sessionWord =
      .ok wire := by
  unfold putObject at built
  split at built
  · cases built
  · exact built

/-- The request of a write names the path `gpu-direct` and announces no
size. -/
theorem openSessionForPut_eq_ok
    {options : ClientOptions}
    {request : PutObjectRequest}
    {buffer : BufferView}
    {requestWord sessionWord : UInt64}
    {wire : OpenSessionRequest}
    (built : openSessionForPut options request buffer requestWord
      sessionWord = .ok wire) :
    wire.dataFlow = "gpu-direct" ∧ wire.opType = "PUT" ∧
      wire.isMultipartPart = false ∧ wire.bucket = request.bucket ∧
        wire.objectKey = request.key ∧ wire.expectedSize = 0 := by
  unfold openSessionForPut openSession at built
  split at built
  · cases built
  · cases built
    exact ⟨rfl, rfl, rfl, rfl, rfl, rfl⟩

/-- A request that names the GPU path as the client does is refused. -/
theorem checkOpenSession_gpuDirect
    {wire : OpenSessionRequest}
    (flow : wire.dataFlow = "gpu-direct") :
    checkOpenSession wire = .error refusedFlow := by
  have differs : wire.dataFlow ≠ Proxy.gdsDataPath := by
    rw [flow]
    decide
  rw [checkOpenSession, if_pos differs, flow]
  rfl

/-- A write of an object that names the path as the proxy does is refused when
it announces no size. -/
theorem checkOpenSession_noSize
    {wire : OpenSessionRequest}
    (flow : wire.dataFlow = Proxy.gdsDataPath)
    (operation : wire.opType = "PUT")
    (whole : wire.isMultipartPart = false)
    (bucket : wire.bucket ≠ "")
    (key : wire.objectKey ≠ "")
    (size : wire.expectedSize = 0) :
    checkOpenSession wire = .error refusedSize := by
  simp [checkOpenSession, Proxy.opTypePut, refusedSize, flow, operation, whole,
    bucket, key, size]

/-- Whatever object is written from whatever CUDA buffer, the request that the
client sends is refused by the proxy, and it would still be refused if it named
the path as the proxy does. -/
theorem openSession_refuses_put
    (options : ClientOptions)
    (request : PutObjectRequest)
    (buffer : BufferView)
    (requestWord sessionWord : UInt64)
    (bucket : request.bucket ≠ "")
    (key : request.key ≠ "")
    (cuda : buffer.type = .cudaDevice)
    (pointer : buffer.data ≠ 0)
    (nonempty : buffer.size ≠ 0) :
    ∃ wire,
      openSessionForPut options request buffer requestWord sessionWord =
          .ok wire ∧
        checkOpenSession wire = .error refusedFlow ∧
        checkOpenSession { wire with dataFlow := Proxy.gdsDataPath } =
          .error refusedSize ∧
        ∀ available built,
          putObject available options request buffer requestWord sessionWord =
            .ok built → built = wire := by
  have sent : ∃ wire, openSessionForPut options request buffer requestWord
      sessionWord = .ok wire := by
    rw [openSessionForPut, openSession,
      validateBuffer_cuda cuda pointer nonempty]
    exact ⟨_, rfl⟩
  obtain ⟨wire, sent⟩ := sent
  obtain ⟨flow, operation, whole, sameBucket, sameKey, size⟩ :=
    openSessionForPut_eq_ok sent
  refine ⟨wire, sent, checkOpenSession_gpuDirect flow, ?_, ?_⟩
  · exact checkOpenSession_noSize rfl operation whole (sameBucket ▸ bucket)
      (sameKey ▸ key) size
  · intro available built attempt
    exact Except.ok.inj
      ((putObject_eq_openSessionForPut attempt).symm.trans sent)

/-- A write of ten bytes from a CUDA buffer is sent and refused. -/
theorem openSession_refuses_ten_bytes :
    ∃ wire,
      putObject true {} ⟨"bucket", "key", 30000, ""⟩
          ⟨4096, 10, .cudaDevice⟩ 1 2 = .ok wire ∧
        checkOpenSession wire = .error refusedFlow :=
  ⟨_, rfl, by decide⟩

/-- The theorem at a write of ten bytes. -/
theorem openSession_refuses_put_ten_bytes :
    ∃ wire,
      openSessionForPut {} ⟨"bucket", "key", 30000, ""⟩
          ⟨4096, 10, .cudaDevice⟩ 1 2 = .ok wire ∧
        checkOpenSession wire = .error refusedFlow ∧
        checkOpenSession { wire with dataFlow := Proxy.gdsDataPath } =
          .error refusedSize ∧
        ∀ available built,
          putObject available {} ⟨"bucket", "key", 30000, ""⟩
              ⟨4096, 10, .cudaDevice⟩ 1 2 = .ok built → built = wire :=
  openSession_refuses_put {} _ _ 1 2 (by decide) (by decide) rfl
    (by decide) (by decide)

end Gds
end Client
end TurboAccess

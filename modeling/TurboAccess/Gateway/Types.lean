import TurboAccess.Lib.Words

/-!
# Results, metadata and generated names

Error codes, results and object metadata as the gateway components exchange
them, and the names the gateway generates: object identifiers, multipart upload
identifiers and the clock-derived entity tags.  Every clock reading is an
argument, so that a name is a function of what the code reads.
-/

namespace TurboAccess
namespace Gateway

/-- Canonical error codes shared between the client and the gateway. -/
inductive ErrorCode
  | success
  | invalidArgument
  | unsupported
  | internal
  | rpcError
  | serializationError
  | controlPlaneError
  | registrationFailed
  | transportError
  | notFound
  | badRequest
  | rangeNotSatisfiable
  | backendUnavailable
  | capacityExceeded
  | rdmaUnavailable
  | sessionNotFound
  | ticketInvalid
  | staleState
  | payloadTooLarge
  | methodNotAllowed
  | timeout
  deriving DecidableEq, Repr

/-- Failure detail returned by gateway operations. -/
structure Error where
  code : ErrorCode
  message : String
  retryable : Bool
  requestId : String
  deriving DecidableEq, Repr

/-- Build an error; by default it is not retryable and names no request. -/
def makeError
    (code : ErrorCode)
    (message : String)
    (retryable : Bool := false)
    (requestId : String := "") : Error :=
  { code, message, retryable, requestId }

/-- Outcome of a gateway operation. -/
abbrev Result (α : Type) := Except Error α

/-- Whether a result carries a value. -/
def Result.success : Result α → Bool
  | .ok _ => true
  | .error _ => false

/-- Metadata describing a stored object. -/
structure ObjectMetadata where
  contentLength : Nat
  etag : String
  version : String
  deriving DecidableEq, Repr

/-- Identifier of an object in the memory stores. -/
def makeKey (bucket key : String) : String := bucket ++ "/" ++ key

/-- Hexadecimal text of a number. -/
def hexText (number : Nat) : String := String.ofList (hexDigits number)

/-- Identifier of a multipart upload, from a sequence number and a clock
reading. -/
def mpuId (seq ticks : Nat) : String :=
  "mpu-" ++ hexText seq ++ "-" ++ hexText ticks

/-- Uploads with different sequence numbers have different identifiers,
whatever the clock said. -/
theorem mpuId_seq_inj
    {leftSeq leftTicks rightSeq rightTicks : Nat}
    (equal : mpuId leftSeq leftTicks = mpuId rightSeq rightTicks) :
    leftSeq = rightSeq := by
  have texts := congrArg String.toList equal
  simp only [mpuId, hexText, String.toList_append, String.toList_ofList,
    List.append_assoc] at texts
  have suffixes := List.append_cancel_left texts
  have split := append_separator_inj
    (dash_notMem_hexDigits leftSeq) (dash_notMem_hexDigits rightSeq) suffixes
  exact hexDigits_injective split.1

/-- Metadata of an object written now, with the entity tag and the version
derived from the clock. -/
def makeMeta (size ticks : Nat) : ObjectMetadata where
  contentLength := size
  etag := "\"" ++ hexText size ++ "-" ++ hexText ticks ++ "\""
  version := toString ticks

/-- Entity tag of a part written now. -/
def makePartEtag (partNumber size ticks : Nat) : String :=
  "\"" ++ hexText partNumber ++ "-" ++ hexText size ++ "-" ++
    hexText ticks ++ "\""

/-- A part's entity tag is never empty. -/
theorem makePartEtag_ne_empty (partNumber size ticks : Nat) :
    makePartEtag partNumber size ticks ≠ "" := by
  intro empty
  have texts := congrArg String.toList empty
  simp [makePartEtag] at texts

end Gateway
end TurboAccess

import TurboAccess.Client.Upload.PartRequests
import TurboAccess.Gateway.Gds.PartChunks

/-!
# Short transfers of a write

The cuObject server reports how many bytes of a chunk it has pulled.  For a read
the gateway compares the number with what was asked for; for a write it stores
as many bytes as were pulled, records the part with the size of the request, and
the client returns the size of its buffer.

So a write that succeeds has stored what the client says exactly when the
transfer was whole, and ends within a word.
-/

namespace TurboAccess
namespace Client
namespace Gds

open Gateway (CompositeBackend MemoryDataStore ObjectMetadata Session makeKey)
open Gateway.Gds (BackendCall Config ControlPlane CuObjAnswers Fails
  GdsChunkRequest GdsChunkResponse GdsOptions Media PartRequest Transfer
  chunkBytes issue pullChunk_eq_ok putChunk targetSize totalSize transferChunk
  transferObject transferPart transferPut_ok_iff writeObject)
open Tiling (length_placeGrow placeGrow take_drop_placeGrow)

/-! ## What the client returns -/

/-- What the client tells about a transfer. -/
structure TransferOutcome where
  requestId : String
  sessionId : String
  gatewayId : String
  transferStatus : String
  rdmaReply : String
  etag : String
  version : String
  bytesTransferred : Nat
  serverCrc32c : Option UInt32
  deriving DecidableEq

/-- A write of a buffer by its only chunk, to an object or to a part of an
upload.  The gateway of the session, the token of the buffer and the answer to
the chunk are arguments. -/
def executeTransferPut
    (session : TransferSession)
    (gatewayId : String)
    (request : PutPartRequest)
    (buffer : BufferView)
    (token : Result String)
    (uploadId : String)
    (partNumber : Nat)
    (gdsChunk : GdsChunkRequest → Result GdsChunkResponse) :
    Result TransferOutcome :=
  match executePutPart session request buffer token uploadId partNumber with
  | .error error => .error error
  | .ok chunk =>
      match gdsChunk chunk with
      | .error error => .error error
      | .ok response =>
          .ok
            { requestId := session.requestId
              sessionId := session.sessionId
              gatewayId :=
                if response.selectedGateway = "" then gatewayId
                else response.selectedGateway
              transferStatus :=
                if response.transferStatus = "" then "completed"
                else response.transferStatus
              rdmaReply := response.rdmaReply
              etag := response.etag
              version := response.version
              bytesTransferred := buffer.size
              serverCrc32c :=
                if response.crc32c ≠ 0 then some response.crc32c else none }

/-- The chunk of a write has the size of the buffer, which is not empty. -/
theorem chunkSize_of_executePutPart
    {session : TransferSession}
    {request : PutPartRequest}
    {buffer : BufferView}
    {token : Result String}
    {uploadId : String}
    {partNumber : Nat}
    {chunk : GdsChunkRequest}
    (made : executePutPart session request buffer token uploadId partNumber =
      .ok chunk) :
    chunk.chunkSize = buffer.size ∧ buffer.size ≠ 0 := by
  unfold executePutPart at made
  split at made
  · cases made
  · next valid =>
      split at made
      · cases made
      · dsimp only at made
        rw [ChunkDispatcher.dispatch] at made
        split at made
        · cases made
        · cases made
          exact ⟨rfl, fun empty => valid (.inr empty)⟩

/-! ## What the gateway has stored -/

/-- A vector has the content at an offset. -/
structure StoredAt (bytes : Bytes) (offset : Nat) (content : Bytes) : Prop where
  word : bytes.length < wordModulus
  content : (bytes.drop offset).take content.length = content

theorem StoredAt.finish_lt
    {bytes content : Bytes}
    {offset : Nat}
    (stored : StoredAt bytes offset content)
    (filled : content.length ≠ 0) :
    offset + content.length < wordModulus := by
  have word := stored.word
  have length := congrArg List.length stored.content
  rw [List.length_take, List.length_drop] at length
  omega

theorem storedAt_overwrite
    {bytes content : Bytes}
    {offset : Nat}
    (inside : offset + content.length ≤ bytes.length)
    (word : bytes.length < wordModulus) :
    StoredAt (bytes.overwrite offset content) offset content where
  word := by rwa [Bytes.length_overwrite inside]
  content := by
    have before : (bytes.take offset).length = offset :=
      List.length_take_of_le (by omega)
    rw [Bytes.overwrite, List.append_assoc, List.drop_left' before,
      List.take_left]

/-- The bytes that a chunk of a write is for: those of the part that it names, or
the body of the object of its session. -/
def target
    (plane : ControlPlane)
    (session : Session)
    (request : GdsChunkRequest) : Bytes :=
  if request.uploadId ≠ "" then
    match plane.media.uploads.store.find request.uploadId with
    | none => []
    | some upload => plane.media.staged upload request.partNumber
  else plane.backend.data.body (makeKey session.bucket session.objectKey)

/-- The size recorded of the part that a chunk names. -/
def recordedSize
    (plane : ControlPlane)
    (request : GdsChunkRequest) : Option Nat :=
  (plane.media.uploads.store.find request.uploadId).bind fun upload =>
    (plane.media.recorded upload request.partNumber).map fun progress =>
      progress.size

/-- A write of a chunk was whole: all bytes were received and are stored where
they belong, the part is recorded with their number, and a client that sent the
chunk returns it. -/
structure Whole
    (session : Session)
    (request : GdsChunkRequest)
    (received : Bytes)
    (response : GdsChunkResponse)
    (after : ControlPlane) : Prop where
  complete : received.length = request.chunkSize
  stored : StoredAt (target after session request) request.chunkOffset received
  recorded : request.uploadId ≠ "" →
    recordedSize after request = some received.length
  reported : ∀ client gatewayId put buffer token uploadId partNumber outcome,
    executePutPart client put buffer token uploadId partNumber =
        .ok request →
      executeTransferPut client gatewayId put buffer token uploadId partNumber
          (fun _ => .ok response) = .ok outcome →
        outcome.bytesTransferred = received.length

/-- A client returns the size of the chunk that it has sent. -/
theorem bytesTransferred_of_executeTransferPut
    {session : TransferSession}
    {gatewayId : String}
    {request : PutPartRequest}
    {buffer : BufferView}
    {token : Result String}
    {uploadId : String}
    {partNumber : Nat}
    {chunk : GdsChunkRequest}
    {response : GdsChunkResponse}
    {outcome : TransferOutcome}
    (made : executePutPart session request buffer token uploadId partNumber =
      .ok chunk)
    (returned : executeTransferPut session gatewayId request buffer token
      uploadId partNumber (fun _ => .ok response) = .ok outcome) :
    outcome.bytesTransferred = chunk.chunkSize := by
  rw [executeTransferPut, made] at returned
  cases returned
  exact (chunkSize_of_executePutPart made).1.symm

/-! ## The two writes -/

/-- A chunk of an object that is written brings its bytes to the backend. -/
theorem writeObject_of_putChunk
    {options : GdsOptions}
    {backend next : CompositeBackend}
    {session : Session}
    {offset length now : Nat}
    {answers : CuObjAnswers}
    {metadata : ObjectMetadata}
    {call : Option BackendCall}
    (written : putChunk options backend session offset length answers now =
      (.ok metadata, next, call)) :
    writeObject backend session offset (chunkBytes length answers) now =
      (.ok metadata, next, call) := by
  unfold putChunk at written
  unfold chunkBytes
  split at written
  · cases written
  · split at written
    · next empty =>
        rw [if_pos empty]
        exact written
    · next filled =>
        split at written
        · cases written
        · next bytes pulled =>
            rw [if_neg filled, ← pullChunk_eq_ok pulled]
            exact written

/-- A chunk of an object that is written is stored where it belongs, when its end
is a word. -/
theorem storedAt_of_putChunk
    {options : GdsOptions}
    {backend next : CompositeBackend}
    {session : Session}
    {offset length now : Nat}
    {answers : CuObjAnswers}
    {metadata : ObjectMetadata}
    {call : Option BackendCall}
    (expected : session.expectedSize < wordModulus)
    (bounded : offset + (chunkBytes length answers).length < wordModulus)
    (written : putChunk options backend session offset length answers now =
      (.ok metadata, next, call)) :
    StoredAt (next.data.body (makeKey session.bucket session.objectKey)) offset
      (chunkBytes length answers) := by
  have inBackend := writeObject_of_putChunk written
  have total : (totalSize session).getD 0 < wordModulus := by
    unfold totalSize
    split
    · exact expected
    · exact Nat.zero_lt_succ _
  have copies := backend.data.writeRange_buffer_cases session.bucket
    session.objectKey offset (chunkBytes length answers) (totalSize session)
  unfold writeObject CompositeBackend.writeRange at inBackend
  rcases answered : backend.data.writeRange session.bucket session.objectKey
      offset (chunkBytes length answers) (totalSize session) with
    ⟨error | reply, data⟩
  · rw [answered] at inBackend
    cases inBackend
  · rw [answered] at inBackend copies
    cases inBackend
    rcases copies with ⟨_, refused⟩ | ⟨buffer, reached, _, copied⟩
    · cases refused
    · have sized := (MemoryDataStore.rangeBuffer_eq_some reached).2
      rw [targetSize, addWord_of_lt bounded] at sized
      rw [copied]
      apply storedAt_overwrite
      · rw [sized]
        exact le_max_right _ _
      · rw [sized]
        cases known : totalSize session with
        | none => simpa using bounded
        | some size =>
            rw [known] at total
            exact max_lt total bounded

/-- A chunk of a part that is accepted is stored where it belongs, when its end
is a word, and the part is recorded with the size of the chunk. -/
theorem storedAt_of_transferPart
    {config : Config}
    {plane after : ControlPlane}
    {ptr : Gateway.SessionPtr}
    {request : GdsChunkRequest}
    {transfer : Transfer}
    {response : GdsChunkResponse}
    {call : Option BackendCall}
    (words : plane.backend.data.InWords)
    (bounded : request.chunkOffset +
      (chunkBytes request.chunkSize transfer.answers).length < wordModulus)
    (transferred : transferPart config plane ptr request transfer =
      (.ok response, after, call)) :
    ∃ upload, after.media.uploads.store.find request.uploadId = some upload ∧
      StoredAt (after.media.staged upload request.partNumber)
        request.chunkOffset (chunkBytes request.chunkSize transfer.answers) ∧
      (after.media.recorded upload request.partNumber).map
        (fun progress => progress.size) = some request.chunkSize := by
  unfold transferPart at transferred
  split at transferred
  · cases transferred
  · dsimp only at transferred
    rcases answered : Gateway.Gds.uploadPart config.md5 config.options
        plane.media request.uploadId request.partNumber request.chunkOffset
        request.chunkSize request.checksumPolicy transfer.answers
        transfer.backendNow transfer.partNow with
      ⟨error | part, media, made⟩
    · rw [answered] at transferred
      cases transferred
    rw [answered] at transferred
    cases transferred
    let chunk : PartRequest :=
      ⟨⟨request.chunkOffset, request.chunkSize⟩, transfer.answers,
        transfer.backendNow, transfer.partNow⟩
    cases known : plane.media.uploads.store.find request.uploadId with
    | none =>
        rw [Gateway.Gds.uploadPart, Gateway.State.lookup, known] at answered
        cases answered
    | some upload =>
        obtain ⟨step, stillKnown⟩ := Gateway.Gds.issued config.md5
          config.options request.uploadId request.partNumber
          request.checksumPolicy known chunk fun _ => bounded
        rw [show issue config.md5 config.options request.uploadId
          request.partNumber request.checksumPolicy plane.media chunk = _
            from answered] at step stillKnown
        refine ⟨upload, stillKnown, ?_⟩
        cases step with
        | refused failed => cases failed
        | accepted succeeded staged recorded fed =>
            refine ⟨⟨?_, ?_⟩, ?_⟩
            · rw [staged, length_placeGrow]
              exact max_lt (words.parts _ _) bounded
            · rw [staged]
              exact take_drop_placeGrow _ _ chunk.piece
            · rw [recorded]
              rfl

/-- A write that succeeds is stored where it belongs, when its end is a word, and
a part is recorded with the size of the chunk. -/
theorem stored_of_transferPut
    {config : Config}
    {plane after : ControlPlane}
    {ptr : Gateway.SessionPtr}
    {request : GdsChunkRequest}
    {transfer : Transfer}
    {response : GdsChunkResponse}
    {call : Option BackendCall}
    (expected : (plane.sessions.objects ptr).expectedSize < wordModulus)
    (words : plane.backend.data.InWords)
    (bounded : request.chunkOffset +
      (chunkBytes request.chunkSize transfer.answers).length < wordModulus)
    (transferred : transferChunk config plane .put ptr request transfer =
      (.ok response, after, call)) :
    StoredAt (target after (plane.sessions.objects ptr) request)
        request.chunkOffset (chunkBytes request.chunkSize transfer.answers) ∧
      (request.uploadId ≠ "" →
        recordedSize after request = some request.chunkSize) := by
  unfold transferChunk at transferred
  unfold target recordedSize
  by_cases named : request.uploadId ≠ ""
  · rw [if_pos named] at transferred ⊢
    obtain ⟨upload, known, stored, recorded⟩ :=
      storedAt_of_transferPart words bounded transferred
    rw [known]
    exact ⟨stored, fun _ => recorded⟩
  · rw [if_neg named] at transferred ⊢
    refine ⟨?_, fun other => absurd other named⟩
    unfold transferObject at transferred
    dsimp only at transferred
    rcases written : putChunk config.options plane.backend
        (plane.sessions.objects ptr) request.chunkOffset request.chunkSize
        transfer.answers transfer.backendNow with
      ⟨error | metadata, backend, made⟩
    · rw [written] at transferred
      cases transferred
    · rw [written] at transferred
      cases transferred
      exact storedAt_of_putChunk expected bounded written

/-- A chunk brings all its bytes when it is empty, or all of it was
transferred. -/
theorem length_chunkBytes_eq_iff
    (length : Nat)
    (answers : CuObjAnswers) :
    (chunkBytes length answers).length = length ↔
      length = 0 ∨ answers.transferred = length := by
  unfold chunkBytes
  split
  · next empty => simp [empty]
  · next filled =>
      rw [CuObjAnswers.view, List.length_map, List.length_range]
      omega

/-- A write is whole whenever it succeeds exactly when it fails, or its chunk is
empty, or all of the chunk was transferred and its end is a word. -/
theorem transferPut_whole_iff
    {config : Config}
    {plane : ControlPlane}
    {ptr : Gateway.SessionPtr}
    {request : GdsChunkRequest}
    {transfer : Transfer}
    (expected : (plane.sessions.objects ptr).expectedSize < wordModulus)
    (words : plane.backend.data.InWords)
    (offset : request.chunkOffset < wordModulus) :
    (∀ response after call,
      transferChunk config plane .put ptr request transfer =
          (.ok response, after, call) →
        Whole (plane.sessions.objects ptr) request
          (chunkBytes request.chunkSize transfer.answers) response after) ↔
      Fails config plane .put ptr request transfer.answers ∨
        request.chunkSize = 0 ∨
          transfer.answers.transferred = request.chunkSize ∧
            request.chunkOffset + request.chunkSize < wordModulus := by
  have complete := length_chunkBytes_eq_iff request.chunkSize transfer.answers
  have outcome := transferPut_ok_iff config plane ptr request transfer
  constructor
  · intro whole
    by_cases fails : Fails config plane .put ptr request transfer.answers
    · exact .inl fails
    obtain ⟨response, after, call, transferred⟩ := outcome.mpr fails
    have stored := whole response after call transferred
    rcases complete.mp stored.complete with empty | all
    · exact .inr (.inl empty)
    by_cases empty : request.chunkSize = 0
    · exact .inr (.inl empty)
    refine .inr (.inr ⟨all, ?_⟩)
    have finish := stored.stored.finish_lt
    rw [stored.complete] at finish
    exact finish empty
  · rintro condition response after call transferred
    have succeeds := outcome.mp ⟨response, after, call, transferred⟩
    have whole : request.chunkSize = 0 ∨
        transfer.answers.transferred = request.chunkSize ∧
          request.chunkOffset + request.chunkSize < wordModulus :=
      condition.resolve_left succeeds
    have received := complete.mpr (whole.imp_right And.left)
    have bounded : request.chunkOffset +
        (chunkBytes request.chunkSize transfer.answers).length <
          wordModulus := by
      rw [received]
      rcases whole with empty | ⟨_, finish⟩
      · rwa [empty, Nat.add_zero]
      · exact finish
    obtain ⟨stored, recorded⟩ :=
      stored_of_transferPut expected words bounded transferred
    refine ⟨received, stored, ?_, ?_⟩
    · rwa [received]
    · intro _ _ _ _ _ _ _ _ made returned
      rw [received]
      exact bytesTransferred_of_executeTransferPut made returned

/-- A gateway with a session for a new object. -/
def openedPlane : ControlPlane where
  sessions :=
    { Gateway.SessionStore.init "gateway" 0 with
      objects := fun _ => Gateway.Gds.unsizedSession }
  media := ⟨.init 8 0, fun _ => ∅⟩

/-- A chunk of two bytes. -/
def twoBytes : GdsChunkRequest :=
  ⟨"", "", "bucket", "key", "", 0, 2, "token", "", 0⟩

/-- A transfer that brings some bytes of the chunk. -/
def bringing (bytes : Bytes) : Transfer := ⟨.bringing bytes, 0, 0, 0⟩

/-- The digest is not used, and there is a handler for parts. -/
def plainConfig : Config := ⟨fun _ => [], .default, true⟩

theorem transferPut_whole_iff_two_bytes :
    ∃ response after call,
      transferChunk plainConfig openedPlane .put 0 twoBytes (bringing [7, 8]) =
          (.ok response, after, call) ∧
        Whole (openedPlane.sessions.objects 0) twoBytes
          (chunkBytes 2 (bringing [7, 8]).answers) response after := by
  have whole := (@transferPut_whole_iff plainConfig openedPlane 0 twoBytes
    (bringing [7, 8]) (by decide)
    (MemoryDataStore.inWords_init (by decide)) (by decide)).mpr
      (.inr (.inr ⟨rfl, by decide⟩))
  exact ⟨_, _, _, rfl, whole _ _ _ rfl⟩

/-- One of two bytes is transferred, and the write succeeds: the object has one
byte, and the client returns two. -/
theorem short_transfer_succeeds :
    ∃ response after call,
      transferChunk plainConfig openedPlane .put 0 twoBytes (bringing [7]) =
          (.ok response, after, call) ∧
        after.backend.data.body (makeKey "bucket" "key") = [7] ∧
        ¬Whole (openedPlane.sessions.objects 0) twoBytes
          (chunkBytes 2 (bringing [7]).answers) response after := by
  refine ⟨_, _, _, rfl, by decide, ?_⟩
  intro whole
  exact absurd whole.complete (by decide)

end Gds
end Client
end TurboAccess

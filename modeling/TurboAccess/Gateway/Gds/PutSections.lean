import TurboAccess.Gateway.Backend.NonInterference
import TurboAccess.Gateway.Gds.DeadSessions

/-!
# The sections of a write

A chunk of an object is pulled from the client, then its bytes are written under
a lock of the data store, and its metadata under a lock of the index.  Other
calls come in between.  Both sections in a row are the transfer of the chunk.
-/

namespace TurboAccess
namespace Gateway
namespace Gds

/-! ## A write in two sections -/

/-- A call, or a write whose bytes are stored and whose metadata is not. -/
inductive PutFrame
  | call (frame : Frame)
  | registering (request : GdsChunkRequest) (ptr : SessionPtr)
      (metadata : ObjectMetadata)
  deriving DecidableEq

/-- What drives a call, or the second section of a write. -/
inductive PutInput
  | call (input : Input)
  | register

/-- The bytes of a chunk of an object, or why there are none. -/
def receiveChunk
    (options : GdsOptions)
    (length : Nat)
    (answers : CuObjAnswers) : Result Bytes :=
  if options.maxChunkBytes < length then .error (chunkTooLarge "PUT chunk")
  else if length = 0 then .ok []
  else pullChunk answers

section Sections

variable (config : Config)

/-- Store the bytes of a chunk. -/
def storeBytes
    (plane : ControlPlane)
    (ptr : SessionPtr)
    (request : GdsChunkRequest)
    (source : Bytes)
    (now : Nat) : ControlPlane × PutFrame :=
  let session := plane.sessions.objects ptr
  match plane.backend.data.writeRange session.bucket session.objectKey
      request.chunkOffset source (totalSize session) with
  | (.error error, data) =>
      ((plane.withBackend { plane.backend with data }).markFailed ptr,
        .call (.answered (.error error.message)))
  | (.ok _, data) =>
      (plane.withBackend { plane.backend with data },
        .registering request ptr
          (makeMeta (CompositeBackend.writtenSize request.chunkOffset source
            (totalSize session)) now))

/-- The first section of a write: pull the chunk and store its bytes. -/
def storeChunk
    (plane : ControlPlane)
    (ptr : SessionPtr)
    (request : GdsChunkRequest)
    (transfer : Transfer) : ControlPlane × PutFrame :=
  match receiveChunk config.options request.chunkSize transfer.answers with
  | .error error =>
      (plane.markFailed ptr, .call (.answered (.error error.message)))
  | .ok source => storeBytes plane ptr request source transfer.backendNow

/-- The second section of a write: register the object. -/
def registerChunk
    (plane : ControlPlane)
    (ptr : SessionPtr)
    (metadata : ObjectMetadata) : ControlPlane × PutFrame :=
  let session := plane.sessions.objects ptr
  (plane.withBackend { plane.backend with
      index := plane.backend.index.putObjectIndex session.bucket
        session.objectKey metadata },
    .call (.answered (.ok (fillGdsResponse session.gatewayId
      "gds-cuobject-rdma-read" metadata.etag metadata.version 0))))

/-- Run the second section, if the first one has stored the bytes. -/
def finishPut : ControlPlane × PutFrame → ControlPlane × PutFrame
  | (plane, .registering _ ptr metadata) => registerChunk plane ptr metadata
  | stored => stored

/-- Bytes that are stored and registered are a write of the backend. -/
theorem finishPut_storeBytes
    (plane : ControlPlane)
    (ptr : SessionPtr)
    (request : GdsChunkRequest)
    (source : Bytes)
    (now : Nat) :
    finishPut (storeBytes plane ptr request source now) =
      match writeObject plane.backend (plane.sessions.objects ptr)
          request.chunkOffset source now with
      | (.error error, backend, _) =>
          ((plane.withBackend backend).markFailed ptr,
            .call (.answered (.error error.message)))
      | (.ok metadata, backend, _) =>
          (plane.withBackend backend, .call (.answered (.ok
            (fillGdsResponse (plane.sessions.objects ptr).gatewayId
              "gds-cuobject-rdma-read" metadata.etag metadata.version
              0)))) := by
  unfold storeBytes writeObject CompositeBackend.writeRange
  dsimp only
  rcases plane.backend.data.writeRange (plane.sessions.objects ptr).bucket
    (plane.sessions.objects ptr).objectKey request.chunkOffset source
    (totalSize (plane.sessions.objects ptr)) with ⟨error | reply, data⟩ <;>
    rfl

/-- Both sections in a row are the transfer of a chunk of an object. -/
theorem finishPut_storeChunk
    (plane : ControlPlane)
    (ptr : SessionPtr)
    (request : GdsChunkRequest)
    (transfer : Transfer) :
    finishPut (storeChunk config plane ptr request transfer) =
      ((transferObject config plane ptr request transfer).2.1,
        .call (.answered
          (transferObject config plane ptr request transfer).1)) := by
  unfold storeChunk receiveChunk transferObject putChunk
  dsimp only
  by_cases large : config.options.maxChunkBytes < request.chunkSize
  · rw [if_pos large, if_pos large]
    rfl
  rw [if_neg large, if_neg large]
  by_cases empty : request.chunkSize = 0
  · rw [if_pos empty, if_pos empty]
    dsimp only
    rw [finishPut_storeBytes]
    rcases writeObject plane.backend (plane.sessions.objects ptr)
      request.chunkOffset [] transfer.backendNow with
        ⟨error | metadata, backend, call⟩ <;> rfl
  · rw [if_neg empty, if_neg empty]
    cases pullChunk transfer.answers with
    | error error => rfl
    | ok source =>
        dsimp only
        rw [finishPut_storeBytes]
        rcases writeObject plane.backend (plane.sessions.objects ptr)
          request.chunkOffset source transfer.backendNow with
            ⟨error | metadata, backend, call⟩ <;> rfl

/-- Next section of a call. -/
def advancePut (plane : ControlPlane) :
    PutFrame → PutInput → Option (ControlPlane × PutFrame)
  | .registering _ ptr metadata, .register =>
      some (registerChunk plane ptr metadata)
  | .call (.prepared .put request ptr), .call (.transfer transfer) =>
      if request.uploadId ≠ "" then
        let (answer, plane, _) := transferPart config plane ptr request transfer
        some (plane, .call (.answered answer))
      else some (storeChunk config plane ptr request transfer)
  | .call frame, .call input =>
      (advance config plane frame input).map fun (plane, frame) =>
        (plane, .call frame)
  | _, _ => none

end Sections

/-! ## What one section can do -/

/-- The sections of a call. -/
inductive PutSteps (config : Config) (plane : ControlPlane) :
    PutFrame → PutInput → ControlPlane → PutFrame → Prop
  | call (before after : Frame) (input : Input) (next : ControlPlane)
      (steps : Steps config plane before input next after)
      (apart : ∀ request ptr, before = .prepared .put request ptr →
        request.uploadId ≠ "") :
      PutSteps config plane (.call before) (.call input) next (.call after)
  | stored (request : GdsChunkRequest) (ptr : SessionPtr)
      (transfer : Transfer) (object : request.uploadId = "") :
      PutSteps config plane (.call (.prepared .put request ptr))
        (.call (.transfer transfer))
        (storeChunk config plane ptr request transfer).1
        (storeChunk config plane ptr request transfer).2
  | registered (request : GdsChunkRequest) (ptr : SessionPtr)
      (metadata : ObjectMetadata) :
      PutSteps config plane (.registering request ptr metadata) .register
        (registerChunk plane ptr metadata).1
        (registerChunk plane ptr metadata).2

theorem putSteps_of_advancePut
    {config : Config}
    {plane next : ControlPlane}
    {before after : PutFrame}
    {input : PutInput}
    (moved : advancePut config plane before input = some (next, after)) :
    PutSteps config plane before input next after := by
  revert moved
  fun_cases advancePut config plane before input
  all_goals intro moved
  case case1 request ptr metadata =>
    cases moved
    exact .registered request ptr metadata
  case case2 request ptr transfer part answer parted call same =>
    cases moved
    have step := @Steps.transferred config plane .put request ptr
      transfer
    rw [transferChunk, if_pos part, same] at step
    refine .call _ _ _ _ step ?_
    intro other otherPtr prepared
    cases prepared
    exact part
  case case3 request ptr transfer object =>
    have stored : storeChunk config plane ptr request transfer =
        (next, after) := Option.some.inj moved
    have step := @PutSteps.stored config plane request ptr transfer
      (not_not.mp object)
    rw [stored] at step
    exact step
  case case4 frame input apart =>
    obtain ⟨⟨plane', frame'⟩, advanced, same⟩ :=
      Option.map_eq_some_iff.mp moved
    cases same
    have step := steps_of_advance advanced
    refine .call _ _ _ _ step ?_
    rintro request ptr rfl
    cases step with
    | transferred op request ptr transfer =>
        exact absurd rfl (apart request ptr transfer rfl)
  case case5 => cases moved

/-! ## What a section leaves of sessions and objects -/

/-- Sessions that exist keep all but their states. -/
structure Extends (store next : SessionStore) : Prop where
  allocated : store.allocated ≤ next.allocated
  objects : ∀ ptr < store.allocated,
    (store.objects ptr).SameButState (next.objects ptr)

theorem Extends.of_touched
    {store next : SessionStore}
    (touched : Touched store next) :
    Extends store next where
  allocated := touched.onlyStates.allocated.ge
  objects := fun ptr _ => touched.onlyStates.objects ptr

theorem Extends.of_moves
    {store next : SessionStore}
    {before after : SessionPool.Frame}
    (moves : SessionPool.Moves store before next after) :
    Extends store next where
  allocated := moves.allocated_le
  objects := fun _ exists_ => moves.sameButState exists_

/-- An object has the bytes and the metadata that it had. -/
structure SameObject
    (id : String)
    (backend next : CompositeBackend) : Prop where
  body : next.data.body id = backend.data.body id
  entry : next.index.entries.lookup id = backend.index.entries.lookup id

namespace SameObject

variable {id : String} {backend next : CompositeBackend}

theorem refl (id : String) (backend : CompositeBackend) :
    SameObject id backend backend := ⟨rfl, rfl⟩

theorem of_touchesOnly
    {touched : String}
    (touches : CompositeBackend.TouchesOnly touched backend next)
    (other : id ≠ touched) :
    SameObject id backend next where
  body := congrArg (fun found => Option.getD found [])
    (touches.bodies id other)
  entry := touches.entries id other

/-- A part is no object. -/
theorem stagePart
    (id : String)
    (media : Media)
    (uploadId : String)
    (partNumber objectOffset : Nat)
    (source : Bytes)
    (now : Nat) :
    SameObject id media.uploads.backend
      (stagePart media uploadId partNumber objectOffset source
        now).2.1.uploads.backend := by
  have bodies := media.uploads.backend.data.writePart_bodies uploadId
    partNumber objectOffset source
  revert bodies
  unfold Gds.stagePart CompositeBackend.writePart
  rcases media.uploads.backend.data.writePart uploadId partNumber objectOffset
    source with ⟨error | reply, data⟩ <;>
    exact fun bodies => ⟨congrArg (fun table => (table.lookup id).getD [])
      bodies, rfl⟩

theorem putPart
    (id : String)
    (md5 : Bytes → Bytes)
    (options : GdsOptions)
    (media : Media)
    (upload : UploadPtr)
    (uploadId : String)
    (partNumber objectOffset length : Nat)
    (checksumPolicy : String)
    (answers : CuObjAnswers)
    (now : Nat) :
    SameObject id media.uploads.backend
      (putPart md5 options media upload uploadId partNumber objectOffset length
        checksumPolicy answers now).2.1.uploads.backend := by
  unfold Gds.putPart
  split
  · exact .refl id _
  split
  · exact stagePart id media uploadId partNumber objectOffset [] now
  split
  · exact .refl id _
  · next bytes _ =>
      have staged := stagePart id media uploadId partNumber objectOffset bytes
        now
      split
      · next failed => exact failed ▸ staged
      · next stored =>
          rw [stored] at staged
          split <;> exact staged

theorem transferPart
    (id : String)
    (config : Config)
    (plane : ControlPlane)
    (ptr : SessionPtr)
    (request : GdsChunkRequest)
    (transfer : Transfer) :
    SameObject id plane.backend
      (transferPart config plane ptr request transfer).2.1.backend := by
  unfold Gds.transferPart uploadPart
  split
  · exact .refl id _
  dsimp only
  cases plane.media.uploads.lookup request.uploadId with
  | error error => exact .refl id _
  | ok upload =>
      have put := putPart id config.md5 config.options plane.media upload
        (plane.media.uploads.store.objects upload).backendUploadId
        request.partNumber request.chunkOffset request.chunkSize
        request.checksumPolicy transfer.answers transfer.backendNow
      dsimp only
      revert put
      rcases Gds.putPart config.md5 config.options plane.media upload
        (plane.media.uploads.store.objects upload).backendUploadId
        request.partNumber request.chunkOffset request.chunkSize
        request.checksumPolicy transfer.answers transfer.backendNow with
          ⟨error | etag, media, call⟩ <;> exact fun put => put

/-- The hook of a session sizes no object but its own, and that one only if a
size is announced. -/
theorem openHook
    (id : String)
    (plane : ControlPlane)
    (ptr : SessionPtr)
    (executors : Executors)
    (now : Nat)
    (apart : (plane.sessions.objects ptr).expectedSize ≠ 0 →
      id ≠ makeKey (plane.sessions.objects ptr).bucket
        (plane.sessions.objects ptr).objectKey) :
    SameObject id plane.backend
      (openHook plane ptr executors now).2.backend := by
  unfold Gds.openHook
  dsimp only
  cases (plane.sessions.objects ptr).dataFlow with
  | none | cpuDirect => exact .refl id _
  | gpuDirect =>
      cases executors.gds with
      | none => exact .refl id _
      | some available =>
          change SameObject id plane.backend (onSessionOpened plane.backend
            (plane.sessions.objects ptr) available now).2
          unfold onSessionOpened
          split
          · exact .refl id _
          split
          · next sized =>
              have reserved := of_touchesOnly
                (CompositeBackend.touchesOnly_reserve plane.backend
                  (plane.sessions.objects ptr).bucket
                  (plane.sessions.objects ptr).objectKey
                  (plane.sessions.objects ptr).expectedSize now)
                (apart sized.2)
              revert reserved
              rcases plane.backend.reserve
                (plane.sessions.objects ptr).bucket
                (plane.sessions.objects ptr).objectKey
                (plane.sessions.objects ptr).expectedSize now with
                  ⟨error | reply, backend⟩ <;> exact fun reserved => reserved
          · exact .refl id _

end SameObject

/-- A transfer to the client changes no object. -/
theorem media_transferGet
    (config : Config)
    (plane : ControlPlane)
    (ptr : SessionPtr)
    (request : GdsChunkRequest)
    (transfer : Transfer) :
    (transferGet config plane ptr request transfer).2.1.media =
      plane.media := by
  unfold transferGet
  dsimp only
  split
  · rfl
  split <;> rfl

/-- What storing bytes does: all objects stay as they are and the session is
marked as failed, or the bytes are in the object. -/
theorem storeBytes_cases
    (plane : ControlPlane)
    (ptr : SessionPtr)
    (request : GdsChunkRequest)
    (source : Bytes)
    (now : Nat) :
    (∃ (failed : ControlPlane) (message : String),
      storeBytes plane ptr request source now =
          (failed, .call (.answered (.error message))) ∧
        Touched plane.sessions failed.sessions ∧
        ∀ id, SameObject id plane.backend failed.backend) ∨
    ∃ (data : MemoryDataStore) (bytes : Bytes),
      storeBytes plane ptr request source now =
          (plane.withBackend { plane.backend with data },
            .registering request ptr
              (makeMeta (CompositeBackend.writtenSize request.chunkOffset
                source (totalSize (plane.sessions.objects ptr))) now)) ∧
        bytes.length = max
          ((totalSize (plane.sessions.objects ptr)).getD
            (addWord request.chunkOffset source.length))
          (addWord request.chunkOffset source.length) ∧
        data.bodies = plane.backend.data.bodies.insert
          (makeKey (plane.sessions.objects ptr).bucket
            (plane.sessions.objects ptr).objectKey)
          (bytes.overwrite request.chunkOffset source) := by
  unfold storeBytes
  dsimp only
  rcases plane.backend.data.writeRange_cases
      (plane.sessions.objects ptr).bucket
      (plane.sessions.objects ptr).objectKey request.chunkOffset source
      (totalSize (plane.sessions.objects ptr)) rfl with
    ⟨written, bytes, answer, _, length, stored⟩ | ⟨refused, answer, _, bodies⟩
  · rw [answer]
    exact .inr ⟨written, bytes, rfl, length, stored⟩
  · rw [answer]
    refine .inl ⟨_, _, rfl, .markFailed _ _, ?_⟩
    intro id
    refine ⟨?_, rfl⟩
    change (refused.bodies.lookup id).getD [] =
      (plane.backend.data.bodies.lookup id).getD []
    rw [bodies]
    split
    · next empty =>
        by_cases own : id = makeKey (plane.sessions.objects ptr).bucket
            (plane.sessions.objects ptr).objectKey
        · rw [own, Finmap.lookup_erase, empty]
          rfl
        · rw [Finmap.lookup_erase_ne own]
    · rfl

/-- What the session store sees of a call. -/
def PutFrame.inStore : PutFrame → SessionPool.Frame
  | .call frame => frame.inStore
  | .registering _ _ _ => .idle

/-- Storing a chunk fails its session, or leaves the sessions alone. -/
theorem touched_storeChunk
    (config : Config)
    (plane : ControlPlane)
    (ptr : SessionPtr)
    (request : GdsChunkRequest)
    (transfer : Transfer) :
    Touched plane.sessions
        (storeChunk config plane ptr request transfer).1.sessions ∧
      (storeChunk config plane ptr request transfer).2.inStore = .idle := by
  unfold storeChunk
  split
  · exact ⟨.markFailed _ _, rfl⟩
  · next source _ =>
      rcases storeBytes_cases plane ptr request source transfer.backendNow with
        ⟨failed, message, answer, touched, _⟩ | ⟨data, bytes, answer, _, _⟩
      · rw [answer]
        exact ⟨touched, rfl⟩
      · rw [answer]
        exact ⟨.inl rfl, rfl⟩

/-- A section of a call is one of the session store, or changes at most one
state. -/
theorem PutSteps.sessions_cases
    {config : Config}
    {plane next : ControlPlane}
    {before after : PutFrame}
    {input : PutInput}
    (steps : PutSteps config plane before input next after) :
    (∃ frame frame', before = .call (.call frame) ∧
        after = .call (.call frame') ∧
          SessionPool.Moves plane.sessions frame next.sessions frame') ∨
      after.inStore = .idle ∧ Touched plane.sessions next.sessions := by
  cases steps with
  | call before after input next steps apart =>
      rcases steps.sessions_cases with
        ⟨frame, frame', rfl, rfl, moves⟩ | ⟨outside, touched⟩
      · exact .inl ⟨frame, frame', rfl, rfl, moves⟩
      · exact .inr ⟨outside, touched⟩
  | stored request ptr transfer object =>
      have touched := touched_storeChunk config plane ptr request transfer
      exact .inr ⟨touched.2, touched.1⟩
  | registered request ptr metadata => exact .inr ⟨rfl, .inl rfl⟩

/-- The sessions that calls have in hand exist. -/
def PutGrounded (pool : Pool ControlPlane PutFrame) : Prop :=
  SessionPool.Grounded pool.shared.sessions (PutFrame.inStore ∘ pool.threads)

theorem PutGrounded.steps
    {config : Config}
    {pool : Pool ControlPlane PutFrame}
    {mover : Nat}
    {input : PutInput}
    {next : ControlPlane}
    {after : PutFrame}
    (grounded : PutGrounded pool)
    (steps : PutSteps config pool.shared (pool.threads mover) input next
      after) :
    PutGrounded ⟨next, Function.update pool.threads mover after⟩ := by
  rw [PutGrounded, Function.comp_update]
  rcases steps.sessions_cases with
    ⟨frame, frame', calls, rfl, moves⟩ | ⟨outside, touched⟩
  · have inStore : (PutFrame.inStore ∘ pool.threads) mover = frame := by
      rw [Function.comp_apply, calls]
      rfl
    rw [← inStore] at moves
    exact SessionPool.Grounded.moves grounded moves
  · rw [outside]
    exact SessionPool.Grounded.onlyStates grounded touched.onlyStates

/-! ## Sessions of chunks -/

/-- A session that a chunk leads to exists and has a name of the chunk. -/
theorem named_of_resolve
    {sessions : SessionStore}
    {sessionId ticket : String}
    {ptr : SessionPtr}
    (named : sessions.Named)
    (resolved : resolveForGdsChunk sessions sessionId ticket = some ptr) :
    ptr < sessions.allocated ∧
      ((sessions.objects ptr).sessionId = sessionId ∨
        (sessions.objects ptr).ticket = ticket) := by
  unfold resolveForGdsChunk at resolved
  rcases Option.or_eq_some_iff.mp resolved with byId | ⟨-, byTicket⟩
  · unfold SessionStore.find at byId
    split at byId
    · cases byId
    · split at byId
      · cases byId
      · next found =>
          cases byId
          have own := named.byId _ _ found
          exact ⟨own.1, .inl own.2⟩
  · unfold SessionStore.findByTicket at byTicket
    split at byTicket
    · cases byTicket
    · split at byTicket
      · cases byTicket
      · next found =>
          cases byTicket
          have own := named.byTicket _ _ found
          exact ⟨own.1, .inr own.2⟩

/-- A chunk is prepared with the session that it leads to. -/
theorem resolve_of_prepareGdsChunk
    {sessions : SessionStore}
    {request : GdsChunkRequest}
    {available : Bool}
    {ptr : SessionPtr}
    (prepared : (prepareGdsChunk sessions request available).1 = .ok ptr) :
    resolveForGdsChunk sessions request.sessionId request.transferTicket =
      some ptr := by
  unfold prepareGdsChunk at prepared
  split at prepared
  · cases prepared
  split at prepared
  · cases prepared
  · next found =>
      split at prepared
      · cases prepared
      · cases prepared
        exact found

/-- A session that is opened is the one that was created or found. -/
theorem openHook_eq_ok
    {plane : ControlPlane}
    {ptr result : SessionPtr}
    {executors : Executors}
    {now : Nat}
    (opened : (openHook plane ptr executors now).1 = .ok result) :
    result = ptr := by
  unfold openHook SessionStore.finishOpen at opened
  dsimp only at opened
  split at opened
  · cases opened
  · cases opened
  · cases opened
    rfl

end Gds
end Gateway
end TurboAccess

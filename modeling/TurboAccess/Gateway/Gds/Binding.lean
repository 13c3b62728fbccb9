import TurboAccess.Gateway.Backend.Agreement
import TurboAccess.Gateway.Gds.DeadSessions

/-!
# Chunks and the objects of their sessions

The handlers of a chunk take the bytes of the object of the session, and do not
compare it with the object that the request names; nor do they ask what the
session was opened for.  The answer to a read carries the metadata of the object
of the request, which is looked up in a section of its own before the bytes are
read.

A chunk that succeeds is one of the object of its session exactly when the
request names that object and the session was opened for the operation, unless
the chunk is refused.  In the runs in which this is so, and no step changes the
metadata of an object between the two sections of a read, the metadata in an
answer are those of the object that was read.
-/

namespace TurboAccess
namespace Gateway
namespace Gds

/-! ## A read in two sections -/

/-- A call, or a read that has looked the metadata up. -/
inductive ChunkFrame
  | call (frame : Frame)
  | headed (request : GdsChunkRequest) (ptr : SessionPtr)
      (head : ObjectMetadata)
  deriving DecidableEq

/-- What drives a call, or the lookup of the metadata for a read. -/
inductive ChunkInput
  | call (input : Input)
  | head

section Sections

variable (config : Config)

/-- The second section of a read: push the chunk to the client. -/
def pushChunk
    (plane : ControlPlane)
    (ptr : SessionPtr)
    (request : GdsChunkRequest)
    (head : ObjectMetadata)
    (transfer : Transfer) : Transferred :=
  let session := plane.sessions.objects ptr
  match getChunk config.options plane.backend session request.chunkOffset
      request.chunkSize transfer.answers with
  | (.error error, call) => (.error error.message, plane.markFailed ptr, call)
  | (.ok chunk, call) =>
      (.ok (fillGdsResponse session.gatewayId chunk.rdmaReply head.etag
        head.version chunk.crc32c), plane, call)

/-- The first section of a read: look up the metadata of the object that the
request names. -/
def headChunk
    (plane : ControlPlane)
    (ptr : SessionPtr)
    (request : GdsChunkRequest) : ControlPlane × ChunkFrame :=
  match plane.backend.head request.bucket request.objectKey with
  | .error error =>
      (plane.markFailed ptr, .call (.answered (.error error.message)))
  | .ok head => (plane, .headed request ptr head)

/-- Next section of a call. -/
def advanceChunk (plane : ControlPlane) :
    ChunkFrame → ChunkInput → Option (ControlPlane × ChunkFrame)
  | .call (.prepared .get request ptr), .head =>
      some (headChunk plane ptr request)
  | .headed request ptr head, .call (.transfer transfer) =>
      let (answer, plane, _) :=
        pushChunk config plane ptr request head transfer
      some (plane, .call (.answered answer))
  | .call (.prepared .get _ _), .call _ => none
  | .call frame, .call input =>
      (advance config plane frame input).map
        fun (plane, frame) => (plane, .call frame)
  | _, _ => none

/-- All interleavings of calls, with reads in two sections. -/
def chunkMachine :
    Machine (Pool ControlPlane ChunkFrame) (Nat × ChunkInput) where
  initial := fun pool => ∃ gatewayId sessionTtl media,
    pool = ⟨⟨.init gatewayId sessionTtl, media⟩, fun _ => .call (.call .idle)⟩
  step := Pool.step (advanceChunk config)

end Sections

/-! ## The property and its condition -/

/-- The operation a session is opened for, to transfer a chunk. -/
def ChunkOp.sessionOp : ChunkOp → OperationType
  | .get => .get
  | .put => .put

/-- The chunk that a call is about to transfer. -/
def ChunkFrame.transferring :
    ChunkFrame → Option (ChunkOp × GdsChunkRequest × SessionPtr)
  | .headed request ptr _ => some (.get, request, ptr)
  | .call (.prepared .put request ptr) => some (.put, request, ptr)
  | _ => none

/-- A request that names the object of a session that was opened for it. -/
structure BoundTo
    (session : Session)
    (op : ChunkOp)
    (request : GdsChunkRequest) : Prop where
  bucket : request.bucket = session.bucket
  objectKey : request.objectKey = session.objectKey
  opened : session.op = op.sessionOp

/-- A transfer that answers with success is bound to its session. -/
def BoundWhenAnswered
    (config : Config)
    (pool : Pool ControlPlane ChunkFrame)
    (label : Nat × ChunkInput) : Prop :=
  ∀ op request ptr next response,
    (pool.threads label.1).transferring = some (op, request, ptr) →
      (chunkMachine config).step pool label = some next →
        next.threads label.1 = .call (.answered (.ok response)) →
          BoundTo (pool.shared.sessions.objects ptr) op request

/-- The answer to a read carries the metadata of the object it has read. -/
def MetadataOfRead
    (config : Config)
    (pool : Pool ControlPlane ChunkFrame)
    (label : Nat × ChunkInput) : Prop :=
  ∀ request ptr head transfer response next bucket key offset size,
    pool.threads label.1 = .headed request ptr head →
      label.2 = .call (.transfer transfer) →
        pushChunk config pool.shared ptr request head transfer =
            (.ok response, next, some (.read bucket key offset size)) →
          ∃ metadata, pool.shared.backend.head bucket key = .ok metadata ∧
            response.etag = metadata.etag ∧
            response.version = metadata.version

/-- What was read does not get to the client. -/
def Unpushed (answers : CuObjAnswers) : Result Bytes → Prop
  | .error _ => True
  | .ok bytes =>
      bytes.length ≠ 0 ∧
        (answers.channelOk = false ∨ answers.transferred < 0 ∨
          answers.transferred.toNat ≠ bytes.length)

/-- A chunk to be pushed that fails: it is too large, or it is not empty and
there is no server, no buffer, nothing to read, or no transfer. -/
def GetFails
    (options : GdsOptions)
    (backend : CompositeBackend)
    (session : Session)
    (objectOffset length : Nat)
    (answers : CuObjAnswers) : Prop :=
  options.maxChunkBytes < length ∨
    length ≠ 0 ∧
      (answers.connected = false ∨ answers.leaseOk = false ∨
        Unpushed answers (backend.read session.bucket session.objectKey
          objectOffset length))

/-- The bytes of a chunk to be pulled. -/
def chunkBytes (length : Nat) (answers : CuObjAnswers) : Bytes :=
  if length = 0 then [] else answers.view

/-- The size that the write of a range asks for. -/
def targetSize (totalSize : Option Nat) (offset : Nat) (source : Bytes) : Nat :=
  max (totalSize.getD (addWord offset source.length))
    (addWord offset source.length)

/-- A chunk of an object that fails: it is refused, or the object does not
fit. -/
def ObjectFails
    (options : GdsOptions)
    (backend : CompositeBackend)
    (session : Session)
    (objectOffset length : Nat)
    (answers : CuObjAnswers) : Prop :=
  PutRefused options length answers ∨
    ¬backend.data.Fits (makeKey session.bucket session.objectKey)
      (targetSize (totalSize session) objectOffset
        (chunkBytes length answers))

/-- The capacity covers the growth of a part. -/
def PartFits
    (store : MemoryDataStore)
    (uploadId : String)
    (partNumber offset : Nat)
    (source : Bytes) : Prop :=
  let size := ((store.staging uploadId).part partNumber).length
  addWord offset source.length ≤ size ∨
    addWord store.usedBytes (addWord offset source.length - size) ≤
      store.capacityBytes

/-- A chunk of a part that fails: there is no such upload, it is refused, or the
part does not fit. -/
def PartFails
    (config : Config)
    (media : Media)
    (request : GdsChunkRequest)
    (answers : CuObjAnswers) : Prop :=
  config.multipartHandler = false ∨
    match media.uploads.store.find request.uploadId with
    | none => True
    | some upload =>
        PutRefused config.options request.chunkSize answers ∨
          ¬PartFits media.uploads.backend.data
            (media.uploads.store.objects upload).backendUploadId
            request.partNumber request.chunkOffset
            (chunkBytes request.chunkSize answers)

/-- A chunk that fails. -/
def Fails
    (config : Config)
    (plane : ControlPlane)
    (op : ChunkOp)
    (ptr : SessionPtr)
    (request : GdsChunkRequest)
    (answers : CuObjAnswers) : Prop :=
  match op with
  | .get =>
      GetFails config.options plane.backend (plane.sessions.objects ptr)
        request.chunkOffset request.chunkSize answers
  | .put =>
      if request.uploadId ≠ "" then
        PartFails config plane.media request answers
      else
        ObjectFails config.options plane.backend
          (plane.sessions.objects ptr) request.chunkOffset request.chunkSize
          answers

/-- A chunk is transferred for a request that is bound to its session, or
fails. -/
def BoundOrFails
    (config : Config)
    (pool : Pool ControlPlane ChunkFrame)
    (label : Nat × ChunkInput) : Prop :=
  ∀ op request ptr transfer,
    (pool.threads label.1).transferring = some (op, request, ptr) →
      label.2 = .call (.transfer transfer) →
        BoundTo (pool.shared.sessions.objects ptr) op request ∨
          Fails config pool.shared op ptr request transfer.answers

/-- A step does not change the metadata of an object that a read has looked up
and not read yet. -/
def Steady
    (config : Config)
    (pool : Pool ControlPlane ChunkFrame)
    (label : Nat × ChunkInput) : Prop :=
  ∀ next thread request ptr head,
    (chunkMachine config).step pool label = some next →
      thread ≠ label.1 →
        pool.threads thread = .headed request ptr head →
          next.shared.backend.head request.bucket request.objectKey =
            pool.shared.backend.head request.bucket request.objectKey

/-! ## Which chunks succeed -/

theorem getChunk_ok_iff
    (options : GdsOptions)
    (backend : CompositeBackend)
    (session : Session)
    (objectOffset length : Nat)
    (answers : CuObjAnswers) :
    (∃ chunk call, getChunk options backend session objectOffset length
        answers = (.ok chunk, call)) ↔
      ¬GetFails options backend session objectOffset length answers := by
  rw [GetFails]
  fun_cases getChunk options backend session objectOffset length answers
  case case1 large => simp [large]
  case case2 _ empty => simp [empty]
  case case3 nonempty offline => simp [nonempty, offline]
  case case4 nonempty online unleased => simp [nonempty, unleased]
  case case5 nonempty online leased call error unread =>
    simp [Unpushed, nonempty, unread]
  case case6 small nonempty online leased call bytes read blank =>
    simp [Unpushed, small, online, leased, read, blank]
  case case7 nonempty online leased call bytes read blank closed =>
    simp [Unpushed, nonempty, read, blank, closed]
  case case8 nonempty online leased call bytes read blank opened failed =>
    simp [Unpushed, nonempty, read, blank, failed]
  case case9 nonempty _ _ call bytes read blank opened sent short =>
    simp [Unpushed, nonempty, read, blank, short]
  case case10 small nonempty online leased call bytes read blank opened sent
      complete =>
    simp [Unpushed, small, online, leased, read, opened, sent, complete]

theorem writeObject_ok_iff
    (backend : CompositeBackend)
    (session : Session)
    (objectOffset : Nat)
    (source : Bytes)
    (now : Nat) :
    (∃ metadata next call, writeObject backend session objectOffset source
        now = (.ok metadata, next, call)) ↔
      backend.data.Fits (makeKey session.bucket session.objectKey)
        (targetSize (totalSize session) objectOffset source) := by
  rw [writeObject, CompositeBackend.writeRange]
  rcases backend.data.writeRange_cases session.bucket session.objectKey
      objectOffset source (totalSize session) rfl with
    ⟨written, bytes, answer, fits, _⟩ | ⟨refused, answer, unfit, _⟩
  · rw [answer]
    simpa [targetSize] using fits
  · rw [answer]
    simpa [targetSize] using unfit

theorem putChunk_ok_iff
    (options : GdsOptions)
    (backend : CompositeBackend)
    (session : Session)
    (objectOffset length : Nat)
    (answers : CuObjAnswers)
    (now : Nat) :
    (∃ metadata next call, putChunk options backend session objectOffset
        length answers now = (.ok metadata, next, call)) ↔
      ¬ObjectFails options backend session objectOffset length answers := by
  have unpulled := pullChunk_eq_error_iff answers
  rw [putChunk, ObjectFails, PutRefused, chunkBytes]
  split
  · next large => simp [large]
  next small =>
    split
    · next empty =>
        rw [writeObject_ok_iff]
        simp [empty]
    · next nonempty =>
        split
        · next error failed => simp [nonempty, unpulled.mp ⟨error, failed⟩]
        · next bytes pulled =>
            have received : ¬Unpulled answers := by
              rw [← unpulled, pulled]
              simp
            rw [writeObject_ok_iff, pullChunk_eq_ok pulled]
            simp [nonempty, small, received]

theorem writePart_ok_iff
    (store : MemoryDataStore)
    (uploadId : String)
    (partNumber offset : Nat)
    (source : Bytes) :
    (∃ reply next, store.writePart uploadId partNumber offset source =
        (.ok reply, next)) ↔
      PartFits store uploadId partNumber offset source := by
  rw [MemoryDataStore.writePart, PartFits]
  split
  · next grows =>
      rw [MemoryDataStore.reserveBytes, if_neg (by omega)]
      dsimp only
      split_ifs with exceeds
      · simp [Nat.not_le.mpr grows, Nat.not_le.mpr exceeds]
      · simp [Nat.le_of_not_gt exceeds]
  · next within => simp [Nat.le_of_not_gt within]

theorem stagePart_ok_iff
    (media : Media)
    (uploadId : String)
    (partNumber objectOffset : Nat)
    (source : Bytes)
    (now : Nat) :
    (∃ etag next call, stagePart media uploadId partNumber objectOffset source
        now = (.ok etag, next, call)) ↔
      PartFits media.uploads.backend.data uploadId partNumber objectOffset
        source := by
  rw [← writePart_ok_iff, stagePart, CompositeBackend.writePart]
  rcases media.uploads.backend.data.writePart uploadId partNumber
      objectOffset source with ⟨error | reply, data⟩ <;> simp

theorem putPart_ok_iff
    (md5 : Bytes → Bytes)
    (options : GdsOptions)
    (media : Media)
    (upload : UploadPtr)
    (uploadId : String)
    (partNumber objectOffset length : Nat)
    (checksumPolicy : String)
    (answers : CuObjAnswers)
    (now : Nat) :
    (∃ etag next call, putPart md5 options media upload uploadId partNumber
        objectOffset length checksumPolicy answers now =
          (.ok etag, next, call)) ↔
      ¬(PutRefused options length answers ∨
        ¬PartFits media.uploads.backend.data uploadId partNumber objectOffset
          (chunkBytes length answers)) := by
  have unpulled := pullChunk_eq_error_iff answers
  rw [putPart, PutRefused, chunkBytes]
  split
  · next large => simp [large]
  next small =>
    split
    · next empty =>
        rw [stagePart_ok_iff]
        simp [empty]
    · next nonempty =>
        split
        · next error failed => simp [nonempty, unpulled.mp ⟨error, failed⟩]
        · next bytes pulled =>
            have received : ¬Unpulled answers := by
              rw [← unpulled, pulled]
              simp
            have staged := stagePart_ok_iff media uploadId partNumber
              objectOffset bytes now
            rw [pullChunk_eq_ok pulled] at staged
            rw [pullChunk_eq_ok pulled]
            simp only [small, received]
            split
            · next error after call refused =>
                rw [refused] at staged
                simpa using staged
            · next etag after call stages =>
                rw [stages] at staged
                split <;> simpa using staged

theorem uploadPart_ok_iff
    (config : Config)
    (media : Media)
    (request : GdsChunkRequest)
    (answers : CuObjAnswers)
    (backendNow now : Nat)
    (handled : config.multipartHandler = true) :
    (∃ part next call, uploadPart config.md5 config.options media
        request.uploadId request.partNumber request.chunkOffset
        request.chunkSize request.checksumPolicy answers backendNow now =
          (.ok part, next, call)) ↔
      ¬PartFails config media request answers := by
  rw [uploadPart, State.lookup, PartFails]
  simp only [handled, Bool.true_eq_false, false_or]
  cases media.uploads.store.find request.uploadId with
  | none => simp
  | some upload =>
      have put := putPart_ok_iff config.md5 config.options media upload
        (media.uploads.store.objects upload).backendUploadId
        request.partNumber request.chunkOffset request.chunkSize
        request.checksumPolicy answers backendNow
      dsimp only
      rw [← put]
      rcases putPart config.md5 config.options media upload
        (media.uploads.store.objects upload).backendUploadId
        request.partNumber request.chunkOffset request.chunkSize
        request.checksumPolicy answers backendNow with
          ⟨error | etag, after, call⟩ <;> simp

theorem pushChunk_ok_iff
    (config : Config)
    (plane : ControlPlane)
    (ptr : SessionPtr)
    (request : GdsChunkRequest)
    (head : ObjectMetadata)
    (transfer : Transfer) :
    (∃ response next call, pushChunk config plane ptr request head transfer =
        (.ok response, next, call)) ↔
      ¬Fails config plane .get ptr request transfer.answers := by
  rw [Fails, ← getChunk_ok_iff, pushChunk]
  rcases getChunk config.options plane.backend (plane.sessions.objects ptr)
    request.chunkOffset request.chunkSize transfer.answers with
      ⟨error | chunk, call⟩ <;> simp

theorem transferPut_ok_iff
    (config : Config)
    (plane : ControlPlane)
    (ptr : SessionPtr)
    (request : GdsChunkRequest)
    (transfer : Transfer) :
    (∃ response next call, transferChunk config plane .put ptr request
        transfer = (.ok response, next, call)) ↔
      ¬Fails config plane .put ptr request transfer.answers := by
  rw [Fails, transferChunk]
  split
  · rw [transferPart]
    split
    · next unhandled => simp [PartFails, unhandled]
    · next handled =>
        rw [← uploadPart_ok_iff config plane.media request transfer.answers
          transfer.backendNow transfer.partNow (by simpa using handled)]
        rcases uploadPart config.md5 config.options plane.media
          request.uploadId request.partNumber request.chunkOffset
          request.chunkSize request.checksumPolicy transfer.answers
          transfer.backendNow transfer.partNow with
            ⟨error | part, media, call⟩ <;> simp
  · rw [← putChunk_ok_iff config.options plane.backend
      (plane.sessions.objects ptr) request.chunkOffset request.chunkSize
      transfer.answers transfer.backendNow, transferObject]
    rcases putChunk config.options plane.backend (plane.sessions.objects ptr)
      request.chunkOffset request.chunkSize transfer.answers
      transfer.backendNow with ⟨error | metadata, backend, call⟩ <;> simp

/-- A call that is about to transfer a chunk makes the transfer, and answers with
success exactly when the chunk does not fail. -/
theorem steps_of_transferring
    (config : Config)
    {pool : Pool ControlPlane ChunkFrame}
    {thread : Nat}
    {op : ChunkOp}
    {request : GdsChunkRequest}
    {ptr : SessionPtr}
    (transferring :
      (pool.threads thread).transferring = some (op, request, ptr)) :
    ∃ transferred : Transfer → Transferred,
      (∀ transfer, (∃ response next call,
          transferred transfer = (.ok response, next, call)) ↔
        ¬Fails config pool.shared op ptr request transfer.answers) ∧
      ∀ input, (chunkMachine config).step pool (thread, input) =
        match input with
        | .call (.transfer transfer) =>
            some ⟨(transferred transfer).2.1, Function.update pool.threads
              thread (.call (.answered (transferred transfer).1))⟩
        | _ => none := by
  revert transferring
  generalize frameEq : pool.threads thread = frame
  fun_cases ChunkFrame.transferring frame <;> intro transferring <;>
    cases transferring
  case case1 head =>
    refine ⟨pushChunk config pool.shared ptr request head,
      pushChunk_ok_iff config pool.shared ptr request head, ?_⟩
    intro input
    simp only [chunkMachine, Pool.step, frameEq]
    cases input with
    | head => rfl
    | call input => cases input <;> rfl
  case case2 =>
    refine ⟨transferChunk config pool.shared .put ptr request,
      transferPut_ok_iff config pool.shared ptr request, ?_⟩
    intro input
    simp only [chunkMachine, Pool.step, frameEq]
    cases input with
    | head => rfl
    | call input => cases input <;> rfl

/-- A transfer that answers with success is bound to its session, exactly when
its request is bound to the session or its chunk fails. -/
theorem boundWhenAnswered_iff
    (config : Config)
    (pool : Pool ControlPlane ChunkFrame)
    (label : Nat × ChunkInput) :
    BoundWhenAnswered config pool label ↔ BoundOrFails config pool label := by
  obtain ⟨thread, input⟩ := label
  constructor
  · intro bound op request ptr transfer transferring transfers
    obtain ⟨transferred, succeeds, steps⟩ :=
      steps_of_transferring config transferring
    by_cases fails : Fails config pool.shared op ptr request transfer.answers
    · exact .inr fails
    · obtain ⟨response, plane, call, answered⟩ := (succeeds transfer).mpr fails
      dsimp only at transfers
      subst transfers
      refine .inl (bound op request ptr _ response transferring (steps _) ?_)
      dsimp only
      rw [answered, Function.update_self]
  · intro bound op request ptr next response transferring stepped answered
    obtain ⟨transferred, succeeds, steps⟩ :=
      steps_of_transferring config transferring
    rw [steps] at stepped
    split at stepped
    · next transfer =>
        cases stepped
        dsimp only at answered
        rw [Function.update_self] at answered
        apply (bound op request ptr transfer transferring rfl).resolve_right
        refine (succeeds transfer).mp
          ⟨response, (transferred transfer).2.1, (transferred transfer).2.2, ?_⟩
        injection answered with answer
        injection answer with equal
        rw [← equal]
    · cases stepped

/-! ## The metadata of a read -/

/-- A read that has looked its metadata up finds them unchanged. -/
def LookedUp (pool : Pool ControlPlane ChunkFrame) : Prop :=
  ∀ thread request ptr head, pool.threads thread = .headed request ptr head →
    pool.shared.backend.head request.bucket request.objectKey = .ok head

/-- A read has the metadata that it has just looked up. -/
theorem head_of_advanceChunk
    {config : Config}
    {plane next : ControlPlane}
    {before : ChunkFrame}
    {input : ChunkInput}
    {request : GdsChunkRequest}
    {ptr : SessionPtr}
    {head : ObjectMetadata}
    (moved : advanceChunk config plane before input =
      some (next, .headed request ptr head)) :
    next.backend.head request.bucket request.objectKey = .ok head := by
  revert moved
  fun_cases advanceChunk config plane before input <;> intro moved
  case case1 request' ptr' =>
    rw [Option.some.injEq, headChunk] at moved
    split at moved
    · simp at moved
    · next metadata found =>
        simp only [Prod.mk.injEq, ChunkFrame.headed.injEq] at moved
        obtain ⟨rfl, rfl, rfl, rfl⟩ := moved
        exact found
  all_goals simp at moved

theorem LookedUp.step
    {config : Config}
    {pool next : Pool ControlPlane ChunkFrame}
    {label : Nat × ChunkInput}
    (lookedUp : LookedUp pool)
    (steady : Steady config pool label)
    (stepped : (chunkMachine config).step pool label = some next) :
    LookedUp next := by
  intro thread request ptr head headed
  by_cases moving : thread = label.1
  · obtain ⟨shared, frame, moved, rfl⟩ := Pool.step_eq_some stepped
    subst moving
    dsimp only at headed
    rw [Function.update_self] at headed
    rw [headed] at moved
    exact head_of_advanceChunk moved
  · have before : pool.threads thread = .headed request ptr head := by
      obtain ⟨shared, frame, moved, rfl⟩ := Pool.step_eq_some stepped
      dsimp only at headed
      rwa [Function.update_of_ne moving] at headed
    rw [steady next thread request ptr head stepped moving before]
    exact lookedUp thread request ptr head before

theorem LookedUp.of_reachable
    {config : Config}
    {guard : Pool ControlPlane ChunkFrame → Nat × ChunkInput → Prop}
    {pool : Pool ControlPlane ChunkFrame}
    (steady : ∀ pool label, guard pool label → Steady config pool label)
    (reachable : (chunkMachine config).Reachable guard pool) :
    LookedUp pool := by
  refine reachable.invariant ?_ ?_
  · rintro start ⟨gatewayId, sessionTtl, media, rfl⟩
    nofun
  · intro before label next lookedUp allowed stepped
    exact lookedUp.step (steady before label allowed) stepped

/-- A chunk reads the object of its session. -/
theorem call_getChunk
    (options : GdsOptions)
    (backend : CompositeBackend)
    (session : Session)
    (objectOffset length : Nat)
    (answers : CuObjAnswers)
    {call : BackendCall}
    (called : (getChunk options backend session objectOffset length
      answers).2 = some call) :
    call = .read session.bucket session.objectKey objectOffset length := by
  revert called
  fun_cases getChunk options backend session objectOffset length answers <;>
    intro called
  case case1 | case2 | case3 | case4 => cases called
  all_goals exact (Option.some.inj called).symm

/-- A read that succeeds answers with the metadata that were looked up, for the
object of its session. -/
theorem pushChunk_eq_ok
    {config : Config}
    {plane next : ControlPlane}
    {ptr : SessionPtr}
    {request : GdsChunkRequest}
    {head : ObjectMetadata}
    {transfer : Transfer}
    {response : GdsChunkResponse}
    {bucket key : String}
    {offset size : Nat}
    (pushed : pushChunk config plane ptr request head transfer =
      (.ok response, next, some (.read bucket key offset size))) :
    response.etag = head.etag ∧ response.version = head.version ∧
      bucket = (plane.sessions.objects ptr).bucket ∧
      key = (plane.sessions.objects ptr).objectKey := by
  have called := @call_getChunk config.options plane.backend
    (plane.sessions.objects ptr) request.chunkOffset request.chunkSize
    transfer.answers
  rw [pushChunk] at pushed
  split at pushed
  · simp at pushed
  · next chunk call got =>
      simp only [Prod.mk.injEq, Except.ok.injEq] at pushed
      obtain ⟨rfl, _, rfl⟩ := pushed
      rw [got] at called
      have same := called rfl
      injection same with bucketEq keyEq
      exact ⟨rfl, rfl, bucketEq, keyEq⟩

/-! ## The theorem -/

/-- Chunks are transferred for requests that are bound to their sessions, or
fail, and no step comes between the two sections of a read. -/
structure Careful
    (config : Config)
    (pool : Pool ControlPlane ChunkFrame)
    (label : Nat × ChunkInput) : Prop where
  bound : BoundOrFails config pool label
  steady : Steady config pool label

/-- Where reads are bound and not disturbed, their answers carry the metadata of
the objects they have read. -/
theorem metadataOfRead_of_careful
    {config : Config}
    {pool : Pool ControlPlane ChunkFrame}
    {label : Nat × ChunkInput}
    (reachable : (chunkMachine config).Reachable (Careful config) pool)
    (careful : Careful config pool label) :
    MetadataOfRead config pool label := by
  intro request ptr head transfer response next bucket key offset size headed
    transfers pushed
  have lookedUp := LookedUp.of_reachable (fun _ _ careful => careful.steady)
    reachable label.1 request ptr head headed
  obtain ⟨etag, version, rfl, rfl⟩ := pushChunk_eq_ok pushed
  have transferring : (pool.threads label.1).transferring =
      some (.get, request, ptr) := by
    rw [headed]
    rfl
  have succeeds := (pushChunk_ok_iff config pool.shared ptr request head
    transfer).mp ⟨response, next, _, pushed⟩
  have bound := (careful.bound .get request ptr transfer transferring
    transfers).resolve_right succeeds
  rw [bound.bucket, bound.objectKey] at lookedUp
  exact ⟨head, lookedUp, etag, version⟩

/-- A chunk that is answered with success is bound to its session, exactly when
its request names the object of the session and the session was opened for the
operation, or the chunk fails; and in the runs in which this is so, and no step
changes the metadata of an object between the two sections of a read, the answer
to a read carries the metadata of the object it has read. -/
theorem boundWhenAnswered_iff_and_metadataOfRead (config : Config) :
    (∀ pool, (chunkMachine config).Reachable Machine.always pool → ∀ label,
        (BoundWhenAnswered config pool label ↔
          BoundOrFails config pool label)) ∧
      ∀ pool, (chunkMachine config).Reachable (Careful config) pool →
        ∀ label, Careful config pool label →
          MetadataOfRead config pool label :=
  ⟨fun pool _ label => boundWhenAnswered_iff config pool label,
    fun _ reachable _ careful => metadataOfRead_of_careful reachable careful⟩

/-! ## Runs of one chunk -/

private def chunkConfig : Config := ⟨id, .default, true⟩

/-- A gateway with an object of one byte, written at a time. -/
private def storedMedia (now : Nat) : Media where
  uploads := ⟨((CompositeBackend.init 16).write "bucket" "object" [7] now).2,
    .init 10⟩
  md5Ctxs := fun _ => ∅

private def storedPool : Pool ControlPlane ChunkFrame :=
  ⟨⟨.init "gateway" 10, storedMedia 0⟩, fun _ => .call (.call .idle)⟩

/-- A session for the object is opened. -/
private def openLabels (op : OperationType) : List (Nat × ChunkInput) :=
  [(0, .call (.session (.create
      ⟨"ses", "", "bucket", "object", op, .gpuDirect, "", 0, 0, "", false⟩
      ⟨(0, 0), (0, 0), (0, 0), "", 0⟩))),
    (0, .call (.session .proceed)), (0, .call (.session .proceed)),
    (0, .call (.session .proceed)), (0, .call (.hook ⟨false, some true⟩ 0))]

/-- A chunk of one byte of an object, under the session. -/
private def chunkOf (objectKey : String) : GdsChunkRequest :=
  ⟨"ses", "", "bucket", objectKey, "", 0, 1, "token", "", 0⟩

/-- The byte is transferred. -/
private def transferByte : Nat × ChunkInput :=
  (2, .call (.transfer ⟨⟨true, true, true, 1, "", fun _ => 8⟩, 0, 1, 1⟩))

/-- A read of the object has looked its metadata up. -/
private def headLabels : List (Nat × ChunkInput) :=
  openLabels .get ++
    [(2, .call (.chunk .get (chunkOf "object") true)), (2, .head)]

/-- The condition, computed for three threads of which at most the moving one
has looked metadata up. -/
private def carefulNow
    (pool : Pool ControlPlane ChunkFrame)
    (label : Nat × ChunkInput) : Bool :=
  (List.range 3).all (fun thread =>
    thread = label.1 ||
      (match pool.threads thread with
      | .headed _ _ _ => false
      | .call _ => true)) &&
  match (pool.threads label.1).transferring with
  | none => true
  | some (op, request, ptr) =>
      decide (request.bucket = (pool.shared.sessions.objects ptr).bucket ∧
        request.objectKey = (pool.shared.sessions.objects ptr).objectKey ∧
        (pool.shared.sessions.objects ptr).op = op.sessionOp)

private theorem careful_of_now
    (pool : Pool ControlPlane ChunkFrame)
    (label : Nat × ChunkInput)
    (rest : pool.RestAt 3 (.call (.call .idle)))
    (holds : carefulNow pool label = true) :
    Careful chunkConfig pool label := by
  rw [carefulNow, Bool.and_eq_true, List.all_eq_true] at holds
  obtain ⟨alone, named⟩ := holds
  constructor
  · intro op request ptr transfer transferring _
    rw [transferring] at named
    obtain ⟨bucket, objectKey, opened⟩ := of_decide_eq_true named
    exact .inl ⟨bucket, objectKey, opened⟩
  · intro next thread request ptr head _ other headed
    exfalso
    by_cases small : thread < 3
    · have unheaded := alone thread (List.mem_range.mpr small)
      rw [headed] at unheaded
      simp [other] at unheaded
    · rw [rest thread (by omega)] at headed
      cases headed

private def headedPool : Option (Pool ControlPlane ChunkFrame) :=
  (chunkMachine chunkConfig).run
    (fun pool label => carefulNow pool label = true) storedPool headLabels

private theorem headedPool_isSome : headedPool.isSome = true := by decide

/-- The read has looked its metadata up, and is not disturbed when it goes on. -/
private theorem headedPool_careful :
    (chunkMachine chunkConfig).Reachable (Careful chunkConfig)
        (headedPool.get headedPool_isSome) ∧
      Careful chunkConfig (headedPool.get headedPool_isSome) transferByte := by
  obtain ⟨path, rest⟩ := Pool.path_of_run_below 3 (.call (.call .idle)) rfl
    careful_of_now (fun _ _ => rfl) (by decide)
    (Option.some_get headedPool_isSome).symm
  exact ⟨⟨storedPool, _, ⟨"gateway", 10, _, rfl⟩, path⟩,
    careful_of_now _ _ rest (by decide)⟩

private theorem headedPool_headed :
    (headedPool.get headedPool_isSome).threads 2 =
      .headed (chunkOf "object") 0 (makeMeta 1 0) := by
  decide

/-- A read of the object of its session. -/
theorem boundWhenAnswered_iff_and_metadataOfRead_one_byte :
    ∃ pool response next, pool.threads 2 =
        .headed (chunkOf "object") 0 (makeMeta 1 0) ∧
      pushChunk chunkConfig pool.shared 0 (chunkOf "object") (makeMeta 1 0)
          ⟨⟨true, true, true, 1, "", fun _ => 8⟩, 0, 1, 1⟩ =
        (.ok response, next, some (.read "bucket" "object" 0 1)) ∧
      BoundWhenAnswered chunkConfig pool transferByte ∧
      ∃ metadata, pool.shared.backend.head "bucket" "object" = .ok metadata ∧
        response.etag = metadata.etag ∧
        response.version = metadata.version := by
  obtain ⟨exact_, metadata⟩ :=
    boundWhenAnswered_iff_and_metadataOfRead chunkConfig
  obtain ⟨reachable, careful⟩ := headedPool_careful
  exact ⟨headedPool.get headedPool_isSome, _, _, headedPool_headed, rfl,
    (exact_ _ (reachable.mono fun _ _ _ => trivial) _).mpr careful.bound,
    metadata _ reachable _ careful _ 0 _ _ _ _ _ _ _ _ headedPool_headed rfl
      rfl⟩

/-- A write for a session of one object, whose request names another. -/
private def strayLabels : List (Nat × ChunkInput) :=
  openLabels .put ++ [(2, .call (.chunk .put (chunkOf "other") true))]

private def strayPool : Option (Pool ControlPlane ChunkFrame) :=
  (chunkMachine chunkConfig).run Machine.always storedPool strayLabels

private theorem strayPool_isSome : strayPool.isSome = true := by decide

/-- The object is written again after the read has looked its metadata up. -/
private def rewrittenPool : Option (Pool ControlPlane ChunkFrame) :=
  (chunkMachine chunkConfig).run Machine.always storedPool
    (headLabels ++ [(1, .call (.others (storedMedia 1)))])

private theorem rewrittenPool_isSome : rewrittenPool.isSome = true := by
  decide

private theorem storedPool_initial :
    (chunkMachine chunkConfig).initial storedPool := ⟨"gateway", 10, _, rfl⟩

/-- A write whose request names another object than its session is answered with
success; and a read whose object is written between its two sections answers
with metadata that are not those of the object it has read. -/
theorem stray_write_succeeds_and_read_overtaken :
    (¬∀ pool, (chunkMachine chunkConfig).Reachable Machine.always pool →
        ∀ label, BoundWhenAnswered chunkConfig pool label) ∧
      ¬∀ pool, (chunkMachine chunkConfig).Reachable Machine.always pool →
        ∀ label, MetadataOfRead chunkConfig pool label := by
  constructor
  · intro always
    have reachable := Machine.Reachable.of_run storedPool_initial
      (Option.some_get strayPool_isSome).symm
    have bound := always _ reachable transferByte .put (chunkOf "other") 0 _ _
      (by decide) rfl rfl
    have named := bound.objectKey
    revert named
    decide
  · intro always
    have reachable := Machine.Reachable.of_run storedPool_initial
      (Option.some_get rewrittenPool_isSome).symm
    obtain ⟨metadata, found, etag, _⟩ := always _ reachable transferByte
      (chunkOf "object") 0 (makeMeta 1 0) _ _ _ "bucket" "object" 0 1
      (by decide) rfl rfl
    have current :
        (rewrittenPool.get rewrittenPool_isSome).shared.backend.head "bucket"
          "object" = .ok (makeMeta 1 1) := by
      decide
    rw [current] at found
    cases found
    have same : (makeMeta 1 0).etag = (makeMeta 1 1).etag := etag
    revert same
    decide

end Gds
end Gateway
end TurboAccess

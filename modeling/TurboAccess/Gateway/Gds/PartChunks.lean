import TurboAccess.Gateway.Backend.StagedParts
import TurboAccess.Gateway.Gds.UnsizedChunks

/-!
# A part in several chunks

A part of an upload arrives in chunk requests.  Each that is accepted is placed
into the staged part, is fed into the digest of the part under the policy `md5`,
and records the part anew, with its own size.

So the recorded size is that of the last chunk, and the tag is the digest of the
chunks in the order of their arrival, while the staged bytes are where their
offsets say.
-/

namespace TurboAccess
namespace Gateway

open Tiling

namespace Gds

/-- The bytes staged of a part of an upload. -/
def Media.staged
    (media : Media)
    (upload : UploadPtr)
    (partNumber : Nat) : Bytes :=
  (media.uploads.backend.data.staging
    (media.uploads.store.objects upload).backendUploadId).part partNumber

/-- What is recorded of a part of an upload. -/
def Media.recorded
    (media : Media)
    (upload : UploadPtr)
    (partNumber : Nat) : Option PartProgress :=
  (media.uploads.store.objects upload).parts.lookup partNumber

/-- The bytes fed into the digest of a part. -/
def Media.fed
    (media : Media)
    (upload : UploadPtr)
    (partNumber : Nat) : Bytes :=
  ((media.md5Ctxs upload).lookup partNumber).getD []

/-! ## One request -/

/-- A request for a chunk of a part: its range of the part, what the cuObject
server answers, and the times at the backend and at the registry. -/
structure PartRequest where
  range : Range
  answers : CuObjAnswers
  backendNow : Nat
  now : Nat

/-- The piece that a request brings. -/
def PartRequest.piece (request : PartRequest) : Chunk :=
  ⟨request.range.offset, chunkBytes request.range.length request.answers⟩

/-- The tag that a request is answered with when `fed` was fed into the digest
of its part, its own bytes included. -/
def tagOf
    (md5 : Bytes → Bytes)
    (partNumber : Nat)
    (checksumPolicy : String)
    (request : PartRequest)
    (fed : Bytes) : String :=
  if checksumPolicy = "md5" ∧ request.range.length ≠ 0 then md5Hex (md5 fed)
  else
    makePartEtag partNumber request.piece.content.length request.backendNow

/-- A tag is never empty. -/
theorem tagOf_ne_empty
    (md5 : Bytes → Bytes)
    (partNumber : Nat)
    (checksumPolicy : String)
    (request : PartRequest)
    (fed : Bytes) :
    tagOf md5 partNumber checksumPolicy request fed ≠ "" := by
  unfold tagOf
  split
  · exact md5Hex_ne_empty _
  · exact makePartEtag_ne_empty _ _ _

section Requests

variable (md5 : Bytes → Bytes) (options : GdsOptions) (uploadId : String)
  (partNumber : Nat) (checksumPolicy : String)

/-- Execute a request. -/
def issue
    (media : Media)
    (request : PartRequest) :
    Result GdsMultipartPartResult × Media × Option BackendCall :=
  uploadPart md5 options media uploadId partNumber request.range.offset
    request.range.length checksumPolicy request.answers request.backendNow
    request.now

/-- What a request does to the part it is for: a refused one leaves it, and an
accepted one places its piece, and records the part with its own range. -/
inductive Issued
    (media : Media)
    (upload : UploadPtr)
    (request : PartRequest)
    (result : Result GdsMultipartPartResult)
    (next : Media) : Prop
  | refused
      (failed : result.success = false)
      (staged : next.staged upload partNumber = media.staged upload partNumber)
      (recorded : next.recorded upload partNumber =
        media.recorded upload partNumber)
      (fed : next.fed upload partNumber = media.fed upload partNumber)
  | accepted
      (succeeded : result.success = true)
      (staged : next.staged upload partNumber =
        placeGrow 0 (media.staged upload partNumber) request.piece)
      (recorded : next.recorded upload partNumber =
        some ⟨partNumber, request.range.offset, request.range.length,
          tagOf md5 partNumber checksumPolicy request
            (next.fed upload partNumber)⟩)
      (fed : next.fed upload partNumber =
        if checksumPolicy = "md5" then
          media.fed upload partNumber ++ request.piece.content
        else media.fed upload partNumber)

/-- Staging bytes of a part places them into the part, or leaves it. -/
theorem stagePart_cases
    (media : Media)
    (upload : UploadPtr)
    (piece : Chunk)
    (now : Nat) :
    (∃ error data call,
      stagePart media (media.uploads.store.objects upload).backendUploadId
          partNumber piece.offset piece.content now =
        (.error error, { media with uploads := { media.uploads with
          backend := { media.uploads.backend with data } } }, call) ∧
      (data.staging (media.uploads.store.objects upload).backendUploadId).part
        partNumber = media.staged upload partNumber) ∨
    ∃ data call,
      stagePart media (media.uploads.store.objects upload).backendUploadId
          partNumber piece.offset piece.content now =
        (.ok (makePartEtag partNumber piece.content.length now),
          { media with uploads := { media.uploads with
            backend := { media.uploads.backend with data } } }, call) ∧
      (piece.finish < wordModulus →
        (data.staging
          (media.uploads.store.objects upload).backendUploadId).part
            partNumber =
          placeGrow 0 (media.staged upload partNumber) piece) := by
  unfold stagePart CompositeBackend.writePart
  cases written : media.uploads.backend.data.writePart
      (media.uploads.store.objects upload).backendUploadId partNumber
      piece.offset piece.content with
  | mk result data =>
      cases result with
      | error error =>
          exact .inl ⟨error, data, _, rfl,
            MemoryDataStore.part_writePart_refused written⟩
      | ok reply =>
          exact .inr ⟨data, _, rfl,
            MemoryDataStore.part_writePart written⟩

/-- Writing a chunk to a part leaves the part, or places the piece into it and
feeds it into the digest under the policy `md5`. -/
theorem putPart_cases
    (media : Media)
    (upload : UploadPtr)
    (request : PartRequest) :
    (∃ error data call,
      putPart md5 options media upload
          (media.uploads.store.objects upload).backendUploadId partNumber
          request.range.offset request.range.length checksumPolicy
          request.answers request.backendNow =
        (.error error, { media with uploads := { media.uploads with
          backend := { media.uploads.backend with data } } }, call) ∧
      (data.staging (media.uploads.store.objects upload).backendUploadId).part
        partNumber = media.staged upload partNumber) ∨
    ∃ data ctxs call,
      putPart md5 options media upload
          (media.uploads.store.objects upload).backendUploadId partNumber
          request.range.offset request.range.length checksumPolicy
          request.answers request.backendNow =
        (.ok (tagOf md5 partNumber checksumPolicy request
            (((ctxs upload).lookup partNumber).getD [])),
          { uploads := { media.uploads with
              backend := { media.uploads.backend with data } }
            md5Ctxs := ctxs }, call) ∧
      (request.piece.finish < wordModulus →
        (data.staging
          (media.uploads.store.objects upload).backendUploadId).part
            partNumber =
          placeGrow 0 (media.staged upload partNumber) request.piece) ∧
      ((ctxs upload).lookup partNumber).getD [] =
        if checksumPolicy = "md5" then
          media.fed upload partNumber ++ request.piece.content
        else media.fed upload partNumber := by
  have stages := stagePart_cases partNumber media upload request.piece
    request.backendNow
  unfold putPart tagOf
  by_cases large : options.maxChunkBytes < request.range.length
  · rw [if_pos large]
    exact .inl ⟨_, media.uploads.backend.data, _, rfl, rfl⟩
  rw [if_neg large]
  by_cases empty : request.range.length = 0
  · -- an empty chunk is not transferred, and is not fed into the digest
    have content : request.piece.content = [] := by
      rw [PartRequest.piece, chunkBytes, if_pos empty]
    rw [content] at stages ⊢
    rw [if_pos empty]
    rcases stages with
      ⟨error, data, call, failed, kept⟩ | ⟨data, call, staged, placed⟩
    · exact .inl ⟨error, data, call, failed, kept⟩
    · refine .inr ⟨data, media.md5Ctxs, call, ?_, placed, ?_⟩
      · rw [if_neg (fun both => both.2 empty)]
        exact staged
      · rw [List.append_nil, ite_self]
        rfl
  rw [if_neg empty]
  cases pulled : pullChunk request.answers with
  | error error => exact .inl ⟨error, media.uploads.backend.data, _, rfl, rfl⟩
  | ok bytes =>
      have content : request.piece.content = bytes := by
        rw [PartRequest.piece, chunkBytes, if_neg empty, pullChunk_eq_ok pulled]
      rw [content] at stages ⊢
      dsimp only
      rcases stages with
        ⟨error, data, call, failed, kept⟩ | ⟨data, call, staged, placed⟩
      · left
        refine ⟨error, data, call, ?_, kept⟩
        rw [show request.range.offset = request.piece.offset from rfl, failed]
      · right
        rw [show request.range.offset = request.piece.offset from rfl, staged]
        by_cases policy : checksumPolicy = "md5"
        · refine ⟨data, Function.update media.md5Ctxs upload
            ((media.md5Ctxs upload).insert partNumber
              (media.fed upload partNumber ++ bytes)), call, ?_, placed, ?_⟩
          · dsimp only
            rw [if_pos policy, if_pos ⟨policy, empty⟩, Function.update_self,
              Finmap.lookup_insert]
            rfl
          · rw [Function.update_self, Finmap.lookup_insert, if_pos policy]
            rfl
        · refine ⟨data, media.md5Ctxs, call, ?_, placed, ?_⟩
          · dsimp only
            rw [if_neg policy, if_neg (fun both => policy both.1)]
          · rw [if_neg policy]
            rfl

/-- What a request does to a part of an upload that the registry knows. -/
theorem issued
    {media : Media}
    {upload : UploadPtr}
    (known : media.uploads.store.find uploadId = some upload)
    (request : PartRequest)
    (bounded : (issue md5 options uploadId partNumber checksumPolicy media
      request).1.success = true → request.piece.finish < wordModulus) :
    Issued md5 partNumber checksumPolicy media upload request
        (issue md5 options uploadId partNumber checksumPolicy media request).1
        (issue md5 options uploadId partNumber checksumPolicy media
          request).2.1 ∧
      (issue md5 options uploadId partNumber checksumPolicy media
        request).2.1.uploads.store.find uploadId = some upload := by
  unfold issue uploadPart State.lookup at bounded ⊢
  rw [known] at bounded ⊢
  dsimp only at bounded ⊢
  rcases putPart_cases md5 options partNumber checksumPolicy media upload
      request with
    ⟨error, data, call, failed, kept⟩ |
      ⟨data, ctxs, call, staged, placed, fed⟩
  · rw [failed]
    exact ⟨.refused rfl kept rfl rfl, known⟩
  · rw [staged] at bounded ⊢
    refine ⟨.accepted rfl ?_ ?_ fed, known⟩
    · rw [← placed (bounded rfl)]
      simp [Media.staged, State.registerPart, MultipartStore.modify]
    · simp only [Media.recorded, State.registerPart, MultipartStore.modify,
        Function.update_self, Finmap.lookup_insert]
      rfl

/-! ## Many requests -/

/-- Execute requests for chunks of a part one after the other: those that were
accepted, and what they leave. -/
def uploadChunks :
    (media : Media) → (requests : List PartRequest) →
      List PartRequest × Media
  | media, [] => ([], media)
  | media, request :: rest =>
      let (result, next, _) := issue md5 options uploadId partNumber
        checksumPolicy media request
      let (accepted, finish) := uploadChunks next rest
      (if result.success then request :: accepted else accepted, finish)

/-- What some accepted requests have made of a part. -/
structure Uploaded
    (media : Media)
    (upload : UploadPtr)
    (accepted : List PartRequest)
    (finish : Media) : Prop where
  staged : finish.staged upload partNumber =
    placeGrowAll 0 (media.staged upload partNumber)
      (accepted.map PartRequest.piece)
  fed : finish.fed upload partNumber =
    if checksumPolicy = "md5" then
      media.fed upload partNumber ++
        accepted.flatMap fun request => request.piece.content
    else media.fed upload partNumber
  recorded : ∀ last, accepted.getLast? = some last →
    finish.recorded upload partNumber =
      some ⟨partNumber, last.range.offset, last.range.length,
        tagOf md5 partNumber checksumPolicy last
          (finish.fed upload partNumber)⟩
  unrecorded : accepted = [] →
    finish.recorded upload partNumber = media.recorded upload partNumber

/-- One more request at the front. -/
theorem Uploaded.cons
    {media next finish : Media}
    {upload : UploadPtr}
    {request : PartRequest}
    {result : Result GdsMultipartPartResult}
    {accepted : List PartRequest}
    (step : Issued md5 partNumber checksumPolicy media upload request result
      next)
    (rest : Uploaded md5 partNumber checksumPolicy next upload accepted
      finish) :
    Uploaded md5 partNumber checksumPolicy media upload
      (if result.success then request :: accepted else accepted) finish := by
  cases step with
  | refused failed staged recorded fed =>
      rw [failed, if_neg (by simp)]
      exact
        { staged := by rw [rest.staged, staged]
          fed := by rw [rest.fed, fed]
          recorded := rest.recorded
          unrecorded := fun none => (rest.unrecorded none).trans recorded }
  | accepted succeeded staged recorded fed =>
      rw [succeeded, if_pos rfl]
      refine
        { staged := by
            rw [rest.staged, staged]
            rfl
          fed := ?_
          recorded := ?_
          unrecorded := fun none => absurd none (by simp) }
      · rw [rest.fed, fed]
        split
        · rw [List.flatMap_cons, List.append_assoc]
        · rfl
      · intro last ends
        by_cases none : accepted = []
        · -- nothing was accepted afterwards, so the digest is as it was
          subst none
          rw [List.getLast?_singleton, Option.some.injEq] at ends
          subst ends
          have kept : finish.fed upload partNumber =
              next.fed upload partNumber := by
            rw [rest.fed]
            split
            · rw [List.flatMap_nil, List.append_nil]
            · rfl
          rw [rest.unrecorded rfl, recorded, kept]
        · rw [List.getLast?_cons_of_ne_nil none] at ends
          exact rest.recorded last ends

theorem uploadChunks_uploaded
    {media : Media}
    {upload : UploadPtr}
    {requests : List PartRequest}
    (known : media.uploads.store.find uploadId = some upload)
    (bounded : ∀ request ∈ (uploadChunks md5 options uploadId partNumber
      checksumPolicy media requests).1, request.piece.finish < wordModulus) :
    Uploaded md5 partNumber checksumPolicy media upload
      (uploadChunks md5 options uploadId partNumber checksumPolicy media
        requests).1
      (uploadChunks md5 options uploadId partNumber checksumPolicy media
        requests).2 := by
  induction requests generalizing media with
  | nil =>
      exact
        { staged := rfl
          fed := by simp [uploadChunks]
          recorded := by simp [uploadChunks]
          unrecorded := fun _ => rfl }
  | cons request rest inductionHypothesis =>
      unfold uploadChunks at bounded ⊢
      dsimp only at bounded ⊢
      obtain ⟨step, stillKnown⟩ := issued md5 options uploadId partNumber
        checksumPolicy known request fun succeeded =>
          bounded request (by
            rw [if_pos succeeded]
            exact List.mem_cons_self)
      refine Uploaded.cons md5 partNumber checksumPolicy step
        (inductionHypothesis stillKnown fun other later => bounded other ?_)
      split
      · exact List.mem_cons_of_mem _ later
      · exact later

end Requests

/-! ## Runs in which every request is accepted -/

section Accepting

variable (md5 : Bytes → Bytes) {options : GdsOptions} {uploadId : String}
  {partNumber : Nat} (checksumPolicy : String)

/-- A request within the limit of the server whose bytes are transferred. -/
def PartRequest.Brought (options : GdsOptions) (request : PartRequest) : Prop :=
  request.range.length ≤ options.maxChunkBytes ∧
    (request.range.length ≠ 0 →
      pullChunk request.answers = .ok request.answers.view)

/-- The part is all that the store holds, and the capacity is the largest. -/
structure Roomy
    (media : Media)
    (upload : UploadPtr)
    (partNumber : Nat) : Prop where
  used : media.uploads.backend.data.usedBytes =
    (media.staged upload partNumber).length
  capacity : media.uploads.backend.data.capacityBytes = wordModulus - 1
  word : (media.staged upload partNumber).length < wordModulus

/-- A piece finds room in a part that is all the store holds. -/
theorem stagePart_of_roomy
    {media : Media}
    {upload : UploadPtr}
    {piece : Chunk}
    (now : Nat)
    (roomy : Roomy media upload partNumber)
    (bounded : piece.finish < wordModulus) :
    ∃ data call,
      stagePart media (media.uploads.store.objects upload).backendUploadId
          partNumber piece.offset piece.content now =
        (.ok (makePartEtag partNumber piece.content.length now),
          { media with uploads := { media.uploads with
            backend := { media.uploads.backend with data } } }, call) ∧
      Roomy { media with uploads := { media.uploads with
        backend := { media.uploads.backend with data } } } upload
          partNumber := by
  obtain ⟨used, capacity, word⟩ := roomy
  have ends : piece.offset + piece.content.length < wordModulus := bounded
  have within : media.uploads.backend.data.usedBytes +
      (piece.offset + piece.content.length -
        (media.staged upload partNumber).length) < wordModulus := by
    omega
  obtain ⟨written, grown⟩ := MemoryDataStore.writePart_of_capacity ends
    (show _ ≤ media.uploads.backend.data.capacityBytes by
      rw [capacity]
      exact Nat.le_pred_of_lt within) within
  have kept := media.uploads.backend.data.writePart_capacityBytes
    (media.uploads.store.objects upload).backendUploadId partNumber
    piece.offset piece.content
  unfold stagePart CompositeBackend.writePart
  cases write : media.uploads.backend.data.writePart
      (media.uploads.store.objects upload).backendUploadId partNumber
      piece.offset piece.content with
  | mk result data =>
      rw [write] at written grown kept
      dsimp only at written grown kept
      subst written
      have placed := MemoryDataStore.part_writePart write ends
      have length := congrArg List.length placed
      rw [length_placeGrow] at length
      refine ⟨data, _, rfl, ⟨?_, kept.trans capacity, ?_⟩⟩
      · show data.usedBytes = ((data.staging
          (media.uploads.store.objects upload).backendUploadId).part
            partNumber).length
        rw [length, grown, used]
        unfold Piece.finish Media.staged
        dsimp only
        omega
      · show ((data.staging
          (media.uploads.store.objects upload).backendUploadId).part
            partNumber).length < wordModulus
        rw [length]
        exact max_lt word bounded

/-- A request that finds room is accepted. -/
theorem issue_of_roomy
    {media : Media}
    {upload : UploadPtr}
    {request : PartRequest}
    (known : media.uploads.store.find uploadId = some upload)
    (roomy : Roomy media upload partNumber)
    (brought : request.Brought options)
    (bounded : request.piece.finish < wordModulus) :
    (issue md5 options uploadId partNumber checksumPolicy media
        request).1.success = true ∧
      Roomy (issue md5 options uploadId partNumber checksumPolicy media
        request).2.1 upload partNumber := by
  obtain ⟨small, pulled⟩ := brought
  obtain ⟨data, call, staged, stillRoomy⟩ :=
    stagePart_of_roomy request.backendNow roomy bounded
  -- recording the part changes neither the store nor the staging of the upload
  have recorded : ∀ (ctxs : UploadPtr → Table Nat Bytes) (etag : String),
      Roomy ⟨({ media.uploads with
          backend := { media.uploads.backend with data } }).registerPart upload
            partNumber request.range.offset request.range.length etag
            request.now, ctxs⟩ upload partNumber := by
    intro ctxs etag
    obtain ⟨used, capacity, word⟩ := stillRoomy
    refine ⟨?_, capacity, ?_⟩
    · simpa [Media.staged, State.registerPart, MultipartStore.modify] using used
    · simpa [Media.staged, State.registerPart, MultipartStore.modify] using word
  unfold issue uploadPart State.lookup putPart
  rw [known]
  dsimp only
  rw [if_neg (Nat.not_lt.mpr small)]
  by_cases empty : request.range.length = 0
  · have content : request.piece.content = [] := by
      rw [PartRequest.piece, chunkBytes, if_pos empty]
    rw [content] at staged
    rw [if_pos empty, show request.range.offset = request.piece.offset from rfl,
      staged]
    exact ⟨rfl, recorded _ _⟩
  · have content : request.piece.content = request.answers.view := by
      rw [PartRequest.piece, chunkBytes, if_neg empty]
    rw [content] at staged
    rw [if_neg empty, pulled empty]
    dsimp only
    rw [show request.range.offset = request.piece.offset from rfl, staged]
    dsimp only
    by_cases policy : checksumPolicy = "md5"
    · rw [if_pos policy]
      exact ⟨rfl, recorded _ _⟩
    · rw [if_neg policy]
      exact ⟨rfl, recorded _ _⟩

theorem uploadChunks_of_roomy
    {media : Media}
    {upload : UploadPtr}
    {requests : List PartRequest}
    (known : media.uploads.store.find uploadId = some upload)
    (roomy : Roomy media upload partNumber)
    (brought : ∀ request ∈ requests, request.Brought options)
    (bounded : ∀ request ∈ requests, request.piece.finish < wordModulus) :
    (uploadChunks md5 options uploadId partNumber checksumPolicy media
      requests).1 = requests := by
  induction requests generalizing media with
  | nil => rfl
  | cons request rest inductionHypothesis =>
      obtain ⟨succeeded, stillRoomy⟩ := issue_of_roomy md5 checksumPolicy known
        roomy (brought request List.mem_cons_self)
        (bounded request List.mem_cons_self)
      obtain ⟨_, stillKnown⟩ := issued md5 options uploadId partNumber
        checksumPolicy known request fun _ =>
          bounded request List.mem_cons_self
      have later := inductionHypothesis stillKnown stillRoomy
        (fun other listed => brought other (List.mem_cons_of_mem _ listed))
        (fun other listed => bounded other (List.mem_cons_of_mem _ listed))
      unfold uploadChunks
      dsimp only
      rw [if_pos succeeded, later]

/-- A request that brings a slice of the buffer of a client. -/
def sliceRequest (buffer : Bytes) (range : Range) : PartRequest :=
  ⟨range, .bringing (range.slice buffer).content, 0, 0⟩

theorem piece_sliceRequest (buffer : Bytes) (range : Range) :
    (sliceRequest buffer range).piece = range.slice buffer := by
  unfold PartRequest.piece sliceRequest chunkBytes
  dsimp only
  rw [view_bringing]
  split
  · next empty => simp [Range.slice, empty]
  · rfl

theorem brought_sliceRequest
    {buffer : Bytes}
    {range : Range}
    (small : range.length ≤ options.maxChunkBytes) :
    (sliceRequest buffer range).Brought options := by
  refine ⟨small, ?_⟩
  intro _
  unfold sliceRequest
  rw [view_bringing, pullChunk_bringing]

/-- A gateway of the largest capacity that has just started an upload. -/
def freshMedia : Media :=
  ⟨((State.init (wordModulus - 1) 0).createUpload ⟨0, 0⟩
    ⟨"bucket", "key", none, "gds-cuobject", ""⟩ 0 0).2, fun _ => ∅⟩

theorem known_freshMedia :
    freshMedia.uploads.store.find (mpuId 1 0) = some 0 :=
  Table.lookup_emplace_empty (mpuId 1 0) 0

theorem staged_freshMedia (partNumber : Nat) :
    freshMedia.staged 0 partNumber = [] := rfl

theorem roomy_freshMedia (partNumber : Nat) :
    Roomy freshMedia 0 partNumber where
  used := rfl
  capacity := rfl
  word := Nat.zero_lt_succ _

end Accepting

/-- A new upload accepts every slice of a buffer. -/
theorem uploadChunks_slices
    (md5 : Bytes → Bytes)
    (options : GdsOptions)
    (partNumber : Nat)
    (checksumPolicy : String)
    (buffer : Bytes)
    (layout : List Range)
    (word : buffer.length < wordModulus)
    (within : ∀ range ∈ layout, range.finish ≤ buffer.length)
    (small : ∀ range ∈ layout, range.length ≤ options.maxChunkBytes) :
    (uploadChunks md5 options (mpuId 1 0) partNumber checksumPolicy freshMedia
        (layout.map (sliceRequest buffer))).1 =
      layout.map (sliceRequest buffer) := by
  apply uploadChunks_of_roomy md5 checksumPolicy known_freshMedia
    (roomy_freshMedia partNumber)
  · intro request listed
    obtain ⟨range, member, rfl⟩ := List.mem_map.mp listed
    exact brought_sliceRequest (small range member)
  · intro request listed
    obtain ⟨range, member, rfl⟩ := List.mem_map.mp listed
    have ends := within range member
    rw [piece_sliceRequest, Range.finish_slice ends]
    omega

/-! ## The recorded size -/

/-- A part that is not the last one, listed with its recorded tag, fails its
check exactly when its recorded size is below the smallest. -/
theorem checkPart_small_iff
    {options : CoordinatorOptions}
    {recorded : Table Nat PartProgress}
    {count index partNumber : Nat}
    {progress : PartProgress}
    (found : recorded.lookup partNumber = some progress)
    (named : progress.etag ≠ "")
    (position : partNumber = (index + 1) % 2 ^ 32)
    (notLast : index + 1 ≠ count) :
    checkPart options recorded count index ⟨partNumber, progress.etag⟩ ≠
        .ok () ↔
      progress.size < options.minPartSize := by
  unfold checkPart
  dsimp only
  rw [if_neg (not_not.mpr position), if_neg named, found]
  dsimp only
  rw [if_neg (not_not.mpr rfl)]
  split
  · next small => simp [small.2.2]
  · next large =>
      refine iff_of_false (not_not.mpr rfl) ?_
      intro small
      exact large ⟨notLast, by omega, small⟩

/-- A chunk that was received whole ends where its range does. -/
theorem PartRequest.finish_piece
    {request : PartRequest}
    (whole : request.piece.content.length = request.range.length) :
    request.piece.finish = request.range.finish := by
  rw [Piece.finish, whole]
  rfl

/-- Consecutive chunks make a part as long as they are together, unless it was
longer. -/
theorem length_staged_of_consecutive
    {prior : Bytes}
    {accepted : List PartRequest}
    (consecutive : Consecutive 0 (accepted.map PartRequest.range))
    (whole : ∀ request ∈ accepted,
      request.piece.content.length = request.range.length)
    (nonempty : accepted ≠ []) :
    (placeGrowAll 0 prior (accepted.map PartRequest.piece)).length =
      max prior.length (extent (accepted.map PartRequest.range)) := by
  apply Nat.le_antisymm
  · rw [length_placeGrowAll_le_iff]
    refine ⟨le_max_left _ _, ?_⟩
    intro piece listed
    obtain ⟨request, member, rfl⟩ := List.mem_map.mp listed
    have ends := finish_of_consecutive consecutive
      (List.mem_map_of_mem member)
    rw [Nat.zero_add, ← request.finish_piece (whole request member)] at ends
    exact ends.trans (le_max_right _ _)
  · obtain ⟨kept, ends⟩ := (length_placeGrowAll_le_iff 0 prior
      (accepted.map PartRequest.piece) _).mp (Nat.le_refl _)
    refine max_le kept ?_
    obtain ⟨before, last, rfl⟩ : ∃ before last, accepted = before ++ [last] :=
      ⟨_, _, (List.dropLast_append_getLast nonempty).symm⟩
    rw [List.map_append] at consecutive ⊢
    have reach := finish_last_of_consecutive consecutive
    rw [Nat.zero_add] at reach
    refine (Nat.le_of_eq reach.symm).trans ?_
    rw [← last.finish_piece (whole last (by simp))]
    refine ends _ ?_
    simp

/-- After consecutive chunks the recorded size of a part is their length
together, and the smallest size is compared with the staged length, exactly when
all chunks but the last are empty and nothing longer was staged before. -/
theorem recorded_size_iff
    {md5 : Bytes → Bytes}
    {options : GdsOptions}
    {uploadId checksumPolicy : String}
    {partNumber : Nat}
    {media finish : Media}
    {upload : UploadPtr}
    {requests accepted : List PartRequest}
    (known : media.uploads.store.find uploadId = some upload)
    (numbered : partNumber < 2 ^ 32)
    (executed : uploadChunks md5 options uploadId partNumber checksumPolicy
      media requests = (accepted, finish))
    (nonempty : accepted ≠ [])
    (consecutive : Consecutive 0 (accepted.map PartRequest.range))
    (word : extent (accepted.map PartRequest.range) < wordModulus)
    (whole : ∀ request ∈ accepted,
      request.piece.content.length = request.range.length) :
    (∃ progress,
      finish.recorded upload partNumber = some progress ∧
      progress.size = extent (accepted.map PartRequest.range) ∧
      ∀ coordinatorOptions count index,
        partNumber = (index + 1) % 2 ^ 32 → index + 1 ≠ count →
          (checkPart coordinatorOptions
              (finish.uploads.store.objects upload).parts count index
              ⟨partNumber, progress.etag⟩ ≠ .ok () ↔
            (finish.staged upload partNumber).length <
              coordinatorOptions.minPartSize)) ↔
    (∀ request ∈ accepted.dropLast, request.range.length = 0) ∧
      (media.staged upload partNumber).length ≤
        extent (accepted.map PartRequest.range) := by
  obtain ⟨last, ends⟩ := Option.ne_none_iff_exists'.mp
    (mt List.getLast?_eq_none_iff.mp nonempty)
  have bounded : ∀ request ∈ accepted, request.piece.finish < wordModulus := by
    intro request listed
    rw [request.finish_piece (whole request listed)]
    have inside := finish_of_consecutive consecutive
      (List.mem_map_of_mem listed)
    omega
  have uploaded := uploadChunks_uploaded md5 options uploadId partNumber
    checksumPolicy known (by rw [executed]; exact bounded)
  rw [executed] at uploaded
  have staged := congrArg List.length uploaded.staged
  rw [length_staged_of_consecutive consecutive whole nonempty] at staged
  have recorded := uploaded.recorded last ends
  have lastRange : (accepted.map PartRequest.range).getLast? =
      some last.range := by
    rw [List.getLast?_map, ends, Option.map_some]
  have lastLength := length_last_iff lastRange
  rw [← List.map_dropLast, List.forall_mem_map] at lastLength
  rw [← lastLength, recorded]
  constructor
  · rintro ⟨progress, same, sized, check⟩
    cases same
    refine ⟨sized, ?_⟩
    -- a smallest size just above the recorded one is not met by the part
    have compared := check ⟨0, last.range.length + 1⟩ 0
      (partNumber + (2 ^ 32 - 1)) (by omega) (by omega)
    rw [checkPart_small_iff recorded (tagOf_ne_empty _ _ _ _ _) (by omega)
      (by omega), staged] at compared
    have short := compared.mp (Nat.lt_succ_self _)
    dsimp only at short sized
    omega
  · rintro ⟨sized, small⟩
    refine ⟨_, rfl, sized, ?_⟩
    intro coordinatorOptions count index position notLast
    rw [checkPart_small_iff recorded (tagOf_ne_empty _ _ _ _ _) position
      notLast, staged, max_eq_right small]
    dsimp only
    rw [sized]

/-- A part of two bytes in one chunk. -/
def oneChunk : List PartRequest := [⟨0, 2⟩].map (sliceRequest [1, 2])

/-- A part of two bytes in two chunks. -/
def twoChunks : List PartRequest :=
  [⟨0, 1⟩, ⟨1, 1⟩].map (sliceRequest [1, 2])

theorem recorded_size_iff_one_chunk :
    ∃ progress,
      (uploadChunks (fun _ => []) .default (mpuId 1 0) 1 "" freshMedia
        oneChunk).2.recorded 0 1 = some progress ∧ progress.size = 2 := by
  have executed := uploadChunks_slices (fun _ => []) .default 1 "" [1, 2]
    [⟨0, 2⟩] (by decide) (by decide) (by decide)
  obtain ⟨progress, recorded, sized, _⟩ :=
    (recorded_size_iff known_freshMedia (by decide)
      (Prod.ext executed rfl) (by simp) ⟨rfl, trivial⟩ (by decide)
      (by
        intro request listed
        rw [List.mem_singleton.mp listed, piece_sliceRequest]
        rfl)).mpr
      ⟨by simp, Nat.zero_le _⟩
  exact ⟨progress, recorded, sized⟩

/-- A part of two bytes in two chunks is recorded with the size of the last
one. -/
theorem two_chunks_recorded_as_one :
    (∃ progress,
      (uploadChunks (fun _ => []) .default (mpuId 1 0) 1 "" freshMedia
        twoChunks).2.recorded 0 1 = some progress ∧ progress.size = 1) ∧
      (uploadChunks (fun _ => []) .default (mpuId 1 0) 1 "" freshMedia
        twoChunks).2.staged 0 1 = [1, 2] := by
  have executed := uploadChunks_slices (fun _ => []) .default 1 "" [1, 2]
    [⟨0, 1⟩, ⟨1, 1⟩] (by decide) (by decide) (by decide)
  have uploaded := uploadChunks_uploaded (fun _ => []) .default (mpuId 1 0) 1 ""
    known_freshMedia (by
      rw [executed]
      intro request listed
      obtain ⟨range, member, rfl⟩ := List.mem_map.mp listed
      rw [piece_sliceRequest]
      clear listed
      revert range
      decide)
  rw [executed] at uploaded
  refine ⟨⟨_, uploaded.recorded _ rfl, rfl⟩, ?_⟩
  refine uploaded.staged.trans ?_
  simp only [List.map_cons, List.map_nil, piece_sliceRequest]
  decide

end Gds

end Gateway
end TurboAccess

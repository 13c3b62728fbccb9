import TurboAccess.Gateway.Backend.CompositeBackend

/-!
# Multipart uploads

The registry of multipart uploads and the coordinator that bridges the control
plane to the backend.  An upload is an object on the heap of the store: a call
that has found it keeps its pointer after the registry has dropped it.

The sections a call executes under one lock are definitions of their own; the
operations of the coordinator run them in a row.  The interleaved model runs
the same sections one at a time.
-/

namespace TurboAccess
namespace Gateway

/-- Lifecycle of a multipart upload. -/
inductive UploadState
  | active
  | completing
  | completed
  | aborted
  deriving DecidableEq, Repr

/-- The final states. -/
def UploadState.Terminal (state : UploadState) : Prop :=
  state = .completed ∨ state = .aborted

/-- What the gateway recorded about an uploaded part. -/
structure PartProgress where
  partNumber : Nat
  offset : Nat
  size : Nat
  etag : String
  deriving DecidableEq

/-- Runtime state of one multipart upload. -/
structure MultipartUpload where
  uploadId : String
  bucket : String
  objectKey : String
  dataFlow : String
  expectedTotalSize : Option Nat
  backendUploadId : String
  parts : Table Nat PartProgress
  state : UploadState
  createdAt : Nat
  lastActivityAt : Nat
  deriving DecidableEq

instance : Inhabited MultipartUpload :=
  ⟨⟨"", "", "", "", none, "", ∅, .active, 0, 0⟩⟩

/-- Pointer to an upload on the heap. -/
abbrev UploadPtr := Nat

/-- Parameters of a new upload. -/
structure StartUploadParams where
  bucket : String
  objectKey : String
  expectedTotalSize : Option Nat
  dataFlow : String
  idempotencyKey : String
  deriving DecidableEq

/-! ## The store -/

/-- Registry of uploads in flight, and the heap of all uploads. -/
structure MultipartStore where
  ttl : Nat
  seq : Nat
  byId : Table String UploadPtr
  objects : UploadPtr → MultipartUpload
  allocated : Nat

namespace MultipartStore

/-- An empty registry. -/
def init (ttl : Nat) : MultipartStore := ⟨ttl, 0, ∅, fun _ => default, 0⟩

/-- Allocate an upload and register it under a fresh identifier. -/
def create
    (store : MultipartStore)
    (params : StartUploadParams)
    (backendUploadId : String)
    (now : Nat) : UploadPtr × MultipartStore :=
  let seq := store.seq + 1
  let uploadId := mpuId seq now
  let upload : MultipartUpload :=
    { uploadId
      bucket := params.bucket
      objectKey := params.objectKey
      dataFlow := params.dataFlow
      expectedTotalSize := params.expectedTotalSize
      backendUploadId
      parts := ∅
      state := .active
      createdAt := now
      lastActivityAt := now }
  (store.allocated,
    { store with
      seq
      byId := store.byId.emplace uploadId store.allocated
      objects := Function.update store.objects store.allocated upload
      allocated := store.allocated + 1 })

def find (store : MultipartStore) (uploadId : String) : Option UploadPtr :=
  store.byId.lookup uploadId

def erase (store : MultipartStore) (uploadId : String) : MultipartStore :=
  { store with byId := store.byId.erase uploadId }

/-- Change an upload under its own lock. -/
def modify
    (store : MultipartStore)
    (upload : UploadPtr)
    (change : MultipartUpload → MultipartUpload) : MultipartStore :=
  { store with
    objects := Function.update store.objects upload
      (change (store.objects upload)) }

/-- Set the lifecycle state of an upload. -/
def setState
    (store : MultipartStore)
    (upload : UploadPtr)
    (state : UploadState) : MultipartStore :=
  store.modify upload fun object => { object with state }

/-- Examine one registered upload and remove it when it has expired. -/
def sweepOne
    (store : MultipartStore)
    (now : Nat)
    (uploadId : String) : Option UploadPtr × MultipartStore :=
  match store.byId.lookup uploadId with
  | none => (none, store)
  | some upload =>
      if store.ttl < now - (store.objects upload).lastActivityAt then
        (some upload, store.erase uploadId)
      else (none, store)

/-- Remove the expired uploads, visiting the registry in the given order. -/
def sweepExpired
    (store : MultipartStore)
    (now : Nat) : List String → List UploadPtr × MultipartStore
  | [] => ([], store)
  | uploadId :: rest =>
      if store.ttl = 0 then ([], store)
      else
        let (found, swept) := store.sweepOne now uploadId
        let (expired, final) := swept.sweepExpired now rest
        (found.toList ++ expired, final)

end MultipartStore

/-! ## Validation of a completion -/

/-- Limits of the coordinator. -/
structure CoordinatorOptions where
  maxPartSize : Nat
  minPartSize : Nat
  deriving DecidableEq

/-- A completion request. -/
structure CompleteRequest where
  uploadId : String
  parts : List PartRecord
  dataPath : String
  deriving DecidableEq

/-- Error of a call that names an upload the registry does not know. -/
def uploadIdNotFound : Error :=
  makeError .notFound "multipart upload_id not found"

/-- Check one listed part at position `index` of `count` against the recorded
parts. -/
def checkPart
    (options : CoordinatorOptions)
    (recorded : Table Nat PartProgress)
    (count index : Nat)
    (part : PartRecord) : Result Unit :=
  if part.partNumber ≠ (index + 1) % 2 ^ 32 then
    .error (makeError .badRequest
      ("part_number sequence must be 1..N contiguous; got " ++
        toString part.partNumber ++ " at index " ++ toString index))
  else if part.etag = "" then
    .error (makeError .badRequest
      ("etag must be supplied for part " ++ toString part.partNumber))
  else
    match recorded.lookup part.partNumber with
    | none =>
        .error (makeError .badRequest
          ("part " ++ toString part.partNumber ++
            " has no recorded data on gateway"))
    | some progress =>
        if progress.etag ≠ part.etag then
          .error (makeError .badRequest
            ("etag mismatch for part " ++ toString part.partNumber))
        else if index + 1 ≠ count ∧ options.minPartSize ≠ 0 ∧
            progress.size < options.minPartSize then
          .error (makeError .badRequest
            ("part " ++ toString part.partNumber ++
              " smaller than min_part_size (" ++ toString progress.size ++
              " < " ++ toString options.minPartSize ++ ")"))
        else .ok ()

/-- Check the listed parts from position `index` on, stopping at the first
error. -/
def checkParts
    (options : CoordinatorOptions)
    (recorded : Table Nat PartProgress)
    (count : Nat) : Nat → List PartRecord → Result Unit
  | _, [] => .ok ()
  | index, part :: rest =>
      match checkPart options recorded count index part with
      | .error error => .error error
      | .ok () => checkParts options recorded count (index + 1) rest

/-- Listed parts in ascending order of part number. -/
def sortedParts (parts : List PartRecord) : List PartRecord :=
  parts.insertionSort fun left right => left.partNumber ≤ right.partNumber

/-- Validate a completion request against a snapshot of the recorded parts. -/
def validateParts
    (options : CoordinatorOptions)
    (recorded : Table Nat PartProgress)
    (parts : List PartRecord) : Result Unit :=
  checkParts options recorded (sortedParts parts).length 0 (sortedParts parts)

/-- A part that passes its check is recorded under the tag it is listed
with. -/
theorem recorded_of_checkPart
    {options : CoordinatorOptions}
    {recorded : Table Nat PartProgress}
    {count index : Nat}
    {part : PartRecord}
    (passed : checkPart options recorded count index part = .ok ()) :
    ∃ progress, recorded.lookup part.partNumber = some progress ∧
      progress.etag = part.etag := by
  unfold checkPart at passed
  split at passed
  · cases passed
  · split at passed
    · cases passed
    · split at passed
      · cases passed
      · next progress found =>
          split at passed
          · cases passed
          · next matching => exact ⟨progress, found, not_not.mp matching⟩

/-- Every part of a list that passes the check passes its own. -/
theorem recorded_of_checkParts
    {options : CoordinatorOptions}
    {recorded : Table Nat PartProgress}
    {count index : Nat}
    {parts : List PartRecord}
    (passed : checkParts options recorded count index parts = .ok ())
    {part : PartRecord}
    (listed : part ∈ parts) :
    ∃ progress, recorded.lookup part.partNumber = some progress ∧
      progress.etag = part.etag := by
  induction parts generalizing index with
  | nil => simp at listed
  | cons head tail inductionHypothesis =>
      simp only [checkParts] at passed
      split at passed
      · cases passed
      · next headPassed =>
          rcases List.mem_cons.mp listed with rfl | later
          · exact recorded_of_checkPart headPassed
          · exact inductionHypothesis passed later

/-- In a valid request every part is recorded under the tag it is listed
with. -/
theorem recorded_of_validateParts
    {options : CoordinatorOptions}
    {recorded : Table Nat PartProgress}
    {parts : List PartRecord}
    (valid : validateParts options recorded parts = .ok ())
    {part : PartRecord}
    (listed : part ∈ parts) :
    ∃ progress, recorded.lookup part.partNumber = some progress ∧
      progress.etag = part.etag :=
  recorded_of_checkParts valid
    ((List.perm_insertionSort _ parts).mem_iff.mpr listed)

/-- A list of the numbered parts, sorted. -/
theorem sortedParts_of_perm
    {parts : List PartRecord}
    {etag : Nat → String}
    {count : Nat}
    (listed : parts.Perm ((List.range' 1 count).map fun number =>
      ⟨number, etag number⟩)) :
    sortedParts parts = (List.range' 1 count).map fun number =>
      ⟨number, etag number⟩ := by
  have same := (List.perm_insertionSort
    (fun left right : PartRecord => left.partNumber ≤ right.partNumber)
    parts).trans listed
  refine same.eq_of_pairwise ?_ (List.pairwise_insertionSort _ _) ?_
  · intro left right leftMember rightMember below above
    have leftListed := same.mem_iff.mp leftMember
    simp only [List.mem_map] at leftListed rightMember
    obtain ⟨first, _, rfl⟩ := leftListed
    obtain ⟨second, _, rfl⟩ := rightMember
    dsimp only at below above
    rw [Nat.le_antisymm below above]
  · rw [List.pairwise_map]
    exact (List.pairwise_lt_range' ).imp Nat.le_of_lt

/-- Parts that are recorded under their tags, and large enough, pass the
check. -/
theorem checkParts_eq_ok
    {options : CoordinatorOptions}
    {recorded : Table Nat PartProgress}
    {etag : Nat → String}
    {count : Nat}
    (numbered : count < 2 ^ 32)
    (known : ∀ number ∈ List.range' 1 count, etag number ≠ "" ∧
      ∃ progress, recorded.lookup number = some progress ∧
        progress.etag = etag number ∧
        (number < count → options.minPartSize = 0 ∨
          options.minPartSize ≤ progress.size))
    {index rest : Nat}
    (position : index + rest = count) :
    checkParts options recorded count index
        ((List.range' (index + 1) rest).map fun number =>
          ⟨number, etag number⟩) = .ok () := by
  induction rest generalizing index with
  | zero => rfl
  | succ rest inductionHypothesis =>
      have member : index + 1 ∈ List.range' 1 count :=
        List.mem_range'.mpr ⟨index, by omega, by omega⟩
      obtain ⟨named, progress, found, matching, large⟩ :=
        known (index + 1) member
      have word : index + 1 = (index + 1) % 2 ^ 32 :=
        (Nat.mod_eq_of_lt (by omega)).symm
      have passed : checkPart options recorded count index
          ⟨index + 1, etag (index + 1)⟩ = .ok () := by
        rw [checkPart]
        dsimp only
        rw [if_neg (not_not.mpr word), if_neg named, found]
        dsimp only
        rw [if_neg (not_not.mpr matching), if_neg]
        rintro ⟨notLast, limited, small⟩
        have enough := large (by omega)
        omega
      rw [List.range'_succ, List.map_cons, checkParts, passed]
      exact inductionHypothesis (by omega)

/-- A request for parts that are recorded under their tags, and large enough, is
valid. -/
theorem validateParts_eq_ok
    {options : CoordinatorOptions}
    {recorded : Table Nat PartProgress}
    {parts : List PartRecord}
    {etag : Nat → String}
    {count : Nat}
    (numbered : count < 2 ^ 32)
    (known : ∀ number ∈ List.range' 1 count, etag number ≠ "" ∧
      ∃ progress, recorded.lookup number = some progress ∧
        progress.etag = etag number ∧
        (number < count → options.minPartSize = 0 ∨
          options.minPartSize ≤ progress.size))
    (listed : parts.Perm ((List.range' 1 count).map fun number =>
      ⟨number, etag number⟩)) :
    validateParts options recorded parts = .ok () := by
  rw [validateParts, sortedParts_of_perm listed, List.length_map,
    List.length_range']
  exact checkParts_eq_ok numbered known (Nat.zero_add _)

/-- The numbers of a list that passes the check count up from its position. -/
private theorem numbers_of_checkParts
    {options : CoordinatorOptions}
    {recorded : Table Nat PartProgress}
    {count index : Nat}
    {parts : List PartRecord}
    (passed : checkParts options recorded count index parts = .ok ()) :
    parts.map PartRecord.partNumber =
      (List.range' (index + 1) parts.length).map (· % 2 ^ 32) := by
  induction parts generalizing index with
  | nil => rfl
  | cons head tail inductionHypothesis =>
      simp only [checkParts] at passed
      split at passed
      · cases passed
      · next headPassed =>
          have number : head.partNumber = (index + 1) % 2 ^ 32 := by
            unfold checkPart at headPassed
            split at headPassed
            · cases headPassed
            · next equal => exact not_not.mp equal
          rw [List.map_cons, inductionHypothesis passed, number,
            List.length_cons, List.range'_succ, List.map_cons]

/-- The sorted parts have the ordered numbers. -/
theorem map_sortedParts (parts : List PartRecord) :
    (sortedParts parts).map PartRecord.partNumber =
      CompositeBackend.orderedNumbers parts := by
  have ascending : ((sortedParts parts).map
      PartRecord.partNumber).Pairwise (· ≤ ·) := by
    rw [List.pairwise_map]
    exact List.pairwise_insertionSort _ parts
  have same : ((sortedParts parts).map PartRecord.partNumber).Perm
      (CompositeBackend.orderedNumbers parts) :=
    ((List.perm_insertionSort _ parts).map _).trans
      (List.perm_insertionSort _ _).symm
  exact same.eq_of_pairwise (fun _ _ _ _ => Nat.le_antisymm) ascending
    (List.pairwise_insertionSort _ _)

/-- The parts of a valid request are numbered from one without gaps. -/
theorem orderedNumbers_of_validateParts
    {options : CoordinatorOptions}
    {recorded : Table Nat PartProgress}
    {parts : List PartRecord}
    (valid : validateParts options recorded parts = .ok ()) :
    CompositeBackend.orderedNumbers parts = List.range' 1 parts.length := by
  have numbers := numbers_of_checkParts valid
  have length : (sortedParts parts).length = parts.length :=
    (List.perm_insertionSort _ parts).length_eq
  rw [map_sortedParts, length] at numbers
  have ascending : (CompositeBackend.orderedNumbers parts).Pairwise (· ≤ ·) :=
    List.pairwise_insertionSort _ _
  rw [numbers] at ascending ⊢
  -- the number after 2 ^ 32 - 1 would be 0, out of order
  have short : parts.length < 2 ^ 32 := by
    by_contra long
    have pair := List.pairwise_iff_getElem.mp ascending (2 ^ 32 - 2)
      (2 ^ 32 - 1) (by simp; omega) (by simp; omega) (by omega)
    simp at pair
  nth_rewrite 2 [← List.map_id (List.range' 1 parts.length)]
  apply List.map_congr_left
  intro number member
  obtain ⟨_, position, rfl⟩ := List.mem_range'.mp member
  exact Nat.mod_eq_of_lt (by omega)

/-! ## The coordinator -/

/-- Registry and backend of a gateway. -/
structure State where
  backend : CompositeBackend
  store : MultipartStore

namespace State

/-- A gateway that has just started. -/
def init (capacityBytes ttl : Nat) : State := ⟨.init capacityBytes, .init ttl⟩

/-- Start an upload in the backend and register it. -/
def createUpload
    (options : CoordinatorOptions)
    (state : State)
    (params : StartUploadParams)
    (backendNow now : Nat) : (String × Nat) × State :=
  let (backendId, backend) := state.backend.startMultipart
    params.bucket params.objectKey params.expectedTotalSize backendNow
  let (upload, store) := state.store.create params backendId now
  (((store.objects upload).uploadId, options.maxPartSize),
    { backend, store })

/-- Resolve an upload identifier. -/
def lookup (state : State) (uploadId : String) : Result UploadPtr :=
  match state.store.find uploadId with
  | none => .error uploadIdNotFound
  | some upload => .ok upload

/-- Record a written part. -/
def registerPart
    (state : State)
    (upload : UploadPtr)
    (partNumber offset size : Nat)
    (etag : String)
    (now : Nat) : State :=
  { state with
    store := state.store.modify upload fun object =>
      { object with
        parts := object.parts.insert partNumber
          ⟨partNumber, offset, size, etag⟩
        lastActivityAt := now } }

/-- The section in which a completion claims its upload. -/
def claim
    (state : State)
    (upload : UploadPtr)
    (request : CompleteRequest) : Result State :=
  let object := state.store.objects upload
  if object.dataFlow ≠ request.dataPath then
    .error (makeError .badRequest
      ("upload was started on data_flow '" ++ object.dataFlow ++
        "', cannot complete via '" ++ request.dataPath ++ "'"))
  else if object.state ≠ .active then
    .error (makeError .badRequest "multipart upload not active")
  else .ok { state with store := state.store.setState upload .completing }

/-- Error of a completion without parts. -/
def noParts : Error :=
  makeError .badRequest "CompleteUpload requires at least one part"

/-- Complete an upload. -/
def completeUpload
    (options : CoordinatorOptions)
    (state : State)
    (request : CompleteRequest)
    (now : Nat) : Result ObjectMetadata × State :=
  if request.parts.isEmpty then (.error noParts, state)
  else
    match state.store.find request.uploadId with
    | none => (.error uploadIdNotFound, state)
    | some upload =>
        match state.claim upload request with
        | .error error => (.error error, state)
        | .ok claimed =>
            let object := state.store.objects upload
            match validateParts options object.parts request.parts with
            | .error error =>
                (.error error,
                  { claimed with
                    store := claimed.store.setState upload .active })
            | .ok () =>
                match claimed.backend.completeMultipart
                    object.backendUploadId request.parts now with
                | (.error error, backend) =>
                    (.error error,
                      { backend
                        store := claimed.store.setState upload .active })
                | (.ok metadata, backend) =>
                    (.ok metadata,
                      { backend
                        store := (claimed.store.setState upload
                          .completed).erase object.uploadId })

/-- The section in which an abort marks its upload. -/
def markAborted
    (state : State)
    (upload : UploadPtr)
    (dataPath : String) : Result State :=
  let object := state.store.objects upload
  if object.dataFlow ≠ dataPath then
    .error (makeError .badRequest
      ("upload was started on data_flow '" ++ object.dataFlow ++
        "', cannot abort via '" ++ dataPath ++ "'"))
  else .ok { state with store := state.store.setState upload .aborted }

/-- Abort an upload. -/
def abortUpload
    (state : State)
    (uploadId dataPath : String) : Result Bool × State :=
  match state.store.find uploadId with
  | none => (.ok false, state)
  | some upload =>
      match state.markAborted upload dataPath with
      | .error error => (.error error, state)
      | .ok marked =>
          let object := state.store.objects upload
          (.ok true,
            { backend :=
                (marked.backend.abortMultipart object.backendUploadId).2
              store := marked.store.erase object.uploadId })

/-- Abort the backend side of an upload the sweeper has removed. -/
def abortBackend (state : State) (backendUploadId : String) : State :=
  if backendUploadId = "" then state
  else
    { state with
      backend := (state.backend.abortMultipart backendUploadId).2 }

/-- The sweeper's treatment of one expired upload. -/
def abortExpired (state : State) (upload : UploadPtr) : State :=
  ({ state with store := state.store.setState upload .aborted }).abortBackend
    (state.store.objects upload).backendUploadId

/-- One multipart pass of the sweeper, visiting the registry in the given
order. -/
def sweepMultipart
    (state : State)
    (now : Nat)
    (order : List String) : State :=
  let (expired, store) := state.store.sweepExpired now order
  expired.foldl abortExpired { state with store }

/-- Upload one part: look the upload up, write the part at the offset, and
record it. -/
def uploadPart
    (state : State)
    (uploadId : String)
    (partNumber offset : Nat)
    (source : Bytes)
    (backendNow now : Nat) : Result String × State :=
  match state.lookup uploadId with
  | .error error => (.error error, state)
  | .ok upload =>
      match state.backend.writePart
          (state.store.objects upload).backendUploadId partNumber offset
          source backendNow with
      | (.error error, backend) => (.error error, { state with backend })
      | (.ok etag, backend) =>
          (.ok etag, ({ state with backend }).registerPart upload partNumber
            offset source.length etag now)

end State

end Gateway
end TurboAccess

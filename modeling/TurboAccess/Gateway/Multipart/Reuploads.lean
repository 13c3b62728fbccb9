import Mathlib.Algebra.Order.BigOperators.Group.List
import TurboAccess.Gateway.Backend.ChunkOrder
import TurboAccess.Gateway.Backend.StagedParts
import TurboAccess.Gateway.Multipart.Sequential

/-!
# Uploading a part again

A part that is uploaded whole several times is recorded with the size and the
tag of its last upload.  The staged part only grows, so what is past the end of
the last upload stays from an earlier, longer one, and the completion puts it
into the object.
-/

namespace TurboAccess
namespace Gateway

open Tiling

/-! ## Uploads of whole parts -/

/-- An upload of a whole part: its bytes, the tag of the data path when that
makes one, and the times at the backend and at the registry. -/
structure WholeUpload where
  partNumber : Nat
  bytes : Bytes
  tag : Option String
  backendNow : Nat
  now : Nat

namespace WholeUpload

/-- What is recorded of a part after the upload. -/
def progress (whole : WholeUpload) : PartProgress :=
  ⟨whole.partNumber, 0, whole.bytes.length,
    whole.tag.getD (makePartEtag whole.partNumber whole.bytes.length
      whole.backendNow)⟩

/-- The uploads of one part. -/
def ofPart (part : Nat) (wholes : List WholeUpload) : List WholeUpload :=
  wholes.filter fun whole => whole.partNumber = part

/-- What has been uploaded as a part, in order. -/
def contents (part : Nat) (wholes : List WholeUpload) : List Bytes :=
  (ofPart part wholes).map bytes

/-- The bytes of the last upload of a part. -/
def lastBytes (part : Nat) (wholes : List WholeUpload) : Bytes :=
  (contents part wholes).getLast?.getD []

theorem ofPart_self
    {whole : WholeUpload}
    {part : Nat}
    (own : whole.partNumber = part) :
    ofPart part [whole] = [whole] := by
  simp [ofPart, own]

theorem ofPart_of_ne
    {whole : WholeUpload}
    {part : Nat}
    (other : whole.partNumber ≠ part) :
    ofPart part [whole] = [] := by
  simp [ofPart, other]

theorem ofPart_append
    (part : Nat)
    (first second : List WholeUpload) :
    ofPart part (first ++ second) =
      ofPart part first ++ ofPart part second :=
  List.filter_append _ _

/-- All uploads of a part are at most as long as the last one. -/
def NoneLonger (part : Nat) (wholes : List WholeUpload) : Prop :=
  ∀ whole ∈ wholes, whole.partNumber = part →
    whole.bytes.length ≤ (lastBytes part wholes).length

instance (part : Nat) (wholes : List WholeUpload) :
    Decidable (NoneLonger part wholes) :=
  inferInstanceAs (Decidable (∀ whole ∈ wholes, _ → _))

theorem noneLonger_iff_contents
    (part : Nat)
    (wholes : List WholeUpload) :
    NoneLonger part wholes ↔
      ∀ content ∈ contents part wholes,
        content.length ≤ (lastBytes part wholes).length := by
  unfold NoneLonger contents ofPart
  simp only [List.mem_map, List.mem_filter, decide_eq_true_eq,
    forall_exists_index, and_imp]
  constructor
  · rintro short content whole listed own rfl
    exact short whole listed own
  · intro short whole listed own
    exact short whole.bytes whole listed own rfl

end WholeUpload

open WholeUpload

namespace State

/-- Upload a whole part. -/
def uploadWhole
    (state : State)
    (uploadId : String)
    (whole : WholeUpload) : Result String × State :=
  state.uploadPartAs uploadId whole.partNumber 0 whole.bytes
    whole.bytes.length whole.tag whole.backendNow whole.now

/-- Upload whole parts one after the other: the uploads that were accepted, and
what they leave. -/
def uploadWholes
    (uploadId : String) :
    (state : State) → (wholes : List WholeUpload) → List WholeUpload × State
  | state, [] => ([], state)
  | state, whole :: rest =>
      let (result, next) := state.uploadWhole uploadId whole
      let (accepted, finish) := uploadWholes uploadId next rest
      (if result.success then whole :: accepted else accepted, finish)

/-- The staged bytes of a part of an upload, none when it is not staged. -/
def stagedBytes (state : State) (upload : UploadPtr) (part : Nat) : Bytes :=
  (state.backend.data.staging (state.backendId upload)).part part

/-- What is recorded of a part of an upload. -/
def recordedPart
    (state : State)
    (upload : UploadPtr)
    (part : Nat) : Option PartProgress :=
  (state.store.objects upload).parts.lookup part

/-- The recorded size of a part of an upload. -/
def recordedSize (state : State) (upload : UploadPtr) (part : Nat) : Nat :=
  ((state.recordedPart upload part).map PartProgress.size).getD 0

theorem recordedPart_registerPart
    (state : State)
    (upload : UploadPtr)
    (partNumber part size : Nat)
    (etag : String)
    (now : Nat) :
    (state.registerPart upload partNumber 0 size etag now).recordedPart upload
        part =
      if part = partNumber then some ⟨partNumber, 0, size, etag⟩
      else state.recordedPart upload part := by
  unfold recordedPart registerPart MultipartStore.modify
  dsimp only
  rw [Function.update_self]
  exact Table.lookup_insert_eq _ _ _ _

/-! ## What the uploads leave -/

/-- What the uploads of a run have made of an upload: every part holds what was
placed into it, and is recorded as its last upload says. -/
structure Reuploaded
    (uploadId : String)
    (upload : UploadPtr)
    (state : State)
    (accepted : List WholeUpload)
    (finish : State) : Prop where
  known : finish.store.find uploadId = some upload
  backendId : finish.backendId upload = state.backendId upload
  targets : finish.backend.mpuTargets = state.backend.mpuTargets
  staged : ∀ part, finish.stagedBytes upload part =
    placeGrowAll 0 (state.stagedBytes upload part)
      ((contents part accepted).map fun content => ⟨0, content⟩)
  recorded : ∀ part, finish.recordedPart upload part =
    ((ofPart part accepted).getLast?.map progress).or
      (state.recordedPart upload part)

namespace Reuploaded

variable
  {uploadId : String}
  {upload : UploadPtr}
  {state middle finish : State}
  {first second : List WholeUpload}

theorem refl
    (known : state.store.find uploadId = some upload) :
    Reuploaded uploadId upload state [] state where
  known := known
  backendId := rfl
  targets := rfl
  staged := fun _ => rfl
  recorded := fun _ => rfl

/-- Uploads that go on where others ended. -/
theorem append
    (earlier : Reuploaded uploadId upload state first middle)
    (later : Reuploaded uploadId upload middle second finish) :
    Reuploaded uploadId upload state (first ++ second) finish where
  known := later.known
  backendId := later.backendId.trans earlier.backendId
  targets := later.targets.trans earlier.targets
  staged := by
    intro part
    rw [later.staged, earlier.staged]
    simp only [contents, ofPart_append, List.map_append, placeGrowAll,
      List.foldl_append]
  recorded := by
    intro part
    rw [later.recorded, earlier.recorded, ofPart_append, List.getLast?_append,
      Option.map_or, Option.or_assoc]

end Reuploaded

/-- An upload of a whole part is refused, or writes the part and records it. -/
theorem uploadWhole_cases
    {state : State}
    {uploadId : String}
    {upload : UploadPtr}
    (known : state.store.find uploadId = some upload)
    (whole : WholeUpload) :
    (∃ error data,
      state.backend.data.writePart (state.backendId upload) whole.partNumber 0
          whole.bytes = (.error error, data) ∧
        state.uploadWhole uploadId whole = (.error error, state.withData data)) ∨
    ∃ reply data,
      state.backend.data.writePart (state.backendId upload) whole.partNumber 0
          whole.bytes = (.ok reply, data) ∧
        state.uploadWhole uploadId whole =
          (.ok whole.progress.etag,
            (state.withData data).registerPart upload whole.partNumber 0
              whole.bytes.length whole.progress.etag whole.now) := by
  unfold uploadWhole uploadPartAs lookup CompositeBackend.writePart backendId
  rw [known]
  dsimp only
  rcases state.backend.data.writePart
      (state.store.objects upload).backendUploadId whole.partNumber 0
      whole.bytes with ⟨error | reply, data⟩
  · exact .inl ⟨error, data, rfl, rfl⟩
  · exact .inr ⟨reply, data, rfl, rfl⟩

/-- One upload of an upload that the registry knows, accepted or refused. -/
theorem reuploaded_uploadWhole
    {state : State}
    {uploadId : String}
    {upload : UploadPtr}
    {whole : WholeUpload}
    (known : state.store.find uploadId = some upload)
    (word : whole.bytes.length < wordModulus) :
    Reuploaded uploadId upload state
      (if (state.uploadWhole uploadId whole).1.success then [whole] else [])
      (state.uploadWhole uploadId whole).2 := by
  have others := fun part (other : part ≠ whole.partNumber) =>
    state.backend.data.part_writePart_of_ne (state.backendId upload) 0
      whole.bytes other
  rcases uploadWhole_cases known whole with
    ⟨error, data, written, refused⟩ | ⟨reply, data, written, accepted⟩
  · rw [refused]
    rw [written] at others
    refine ⟨known, rfl, rfl, ?_, fun _ => rfl⟩
    intro part
    by_cases own : part = whole.partNumber
    · rw [own]
      exact MemoryDataStore.part_writePart_refused written
    · exact others part own
  · rw [accepted]
    rw [written] at others
    have backendId : ((state.withData data).registerPart upload
        whole.partNumber 0 whole.bytes.length whole.progress.etag
          whole.now).backendId upload = state.backendId upload := by
      simp [State.backendId, registerPart, MultipartStore.modify, withData]
    refine ⟨known, backendId, rfl, ?_, ?_⟩
    · intro part
      unfold stagedBytes
      rw [backendId]
      by_cases own : whole.partNumber = part
      · rw [if_pos (show Result.success (.ok _) = true from rfl), contents,
          ofPart_self own]
        rw [← own]
        exact MemoryDataStore.part_writePart written
          (show 0 + whole.bytes.length < wordModulus by omega)
      · rw [if_pos (show Result.success (.ok _) = true from rfl), contents,
          ofPart_of_ne own]
        exact others part (Ne.symm own)
    · intro part
      rw [if_pos (show Result.success (.ok _) = true from rfl)]
      refine (recordedPart_registerPart (state.withData data) upload
        whole.partNumber part whole.bytes.length whole.progress.etag
        whole.now).trans ?_
      by_cases own : whole.partNumber = part
      · rw [ofPart_self own, if_pos own.symm]
        rfl
      · rw [ofPart_of_ne own, if_neg (Ne.symm own)]
        rfl

/-- What a run of uploads leaves. -/
theorem reuploaded_uploadWholes
    {uploadId : String}
    {upload : UploadPtr}
    {state : State}
    {wholes : List WholeUpload}
    (known : state.store.find uploadId = some upload)
    (words : ∀ whole ∈ wholes, whole.bytes.length < wordModulus) :
    Reuploaded uploadId upload state (uploadWholes uploadId state wholes).1
      (uploadWholes uploadId state wholes).2 := by
  induction wholes generalizing state with
  | nil => exact .refl known
  | cons whole rest inductionHypothesis =>
      obtain ⟨word, others⟩ := List.forall_mem_cons.mp words
      have step := reuploaded_uploadWhole known word
      have run := step.append (inductionHypothesis step.known others)
      unfold uploadWholes
      dsimp only
      revert run
      split
      · exact id
      · exact id

/-! ## The completion -/

/-- A completion that succeeds installs the staged parts in the order of their
numbers, and registers their length. -/
theorem installed_of_completeUpload
    {options : CoordinatorOptions}
    {state after : State}
    {request : CompleteRequest}
    {upload : UploadPtr}
    {bucket key : String}
    {now : Nat}
    {metadata : ObjectMetadata}
    (known : state.store.find request.uploadId = some upload)
    (target : state.backend.mpuTargets.lookup (state.backendId upload) =
      some (bucket, key))
    (completed : state.completeUpload options request now =
      (.ok metadata, after)) :
    after.backend.data.body (makeKey bucket key) =
        (List.range' 1 request.parts.length).flatMap
          (state.stagedBytes upload) ∧
      after.backend.headLength bucket key =
        .ok (((List.range' 1 request.parts.length).flatMap
          (state.stagedBytes upload)).length % wordModulus) := by
  cases admitted : state.admission options request with
  | error error =>
      rw [completeUpload_of_refused admitted now] at completed
      cases completed
  | ok outcome =>
      obtain ⟨other, claimed⟩ := outcome
      obtain ⟨-, found, -, valid⟩ := admission_eq_ok_iff.mp admitted
      obtain rfl := Option.some.inj (found.symm.trans known)
      obtain ⟨answer, backend⟩ := completeUpload_of_admitted admitted now
      rw [completed] at answer backend
      have inBackend : state.backend.completeMultipart (state.backendId other)
          request.parts now = (.ok metadata, after.backend) :=
        Prod.ext answer.symm backend.symm
      obtain ⟨staging, staged, sized, bodies, head⟩ :=
        CompositeBackend.installed_of_completeMultipart target inBackend
      have pieces : (List.range' 1 request.parts.length).flatMap
          (state.stagedBytes other) =
            MemoryDataStore.assembledBytes staging
              (CompositeBackend.orderedNumbers request.parts) := by
        rw [orderedNumbers_of_validateParts valid]
        unfold MemoryDataStore.assembledBytes stagedBytes
          MemoryDataStore.staging
        rw [staged, Option.getD_some]
      rw [pieces]
      constructor
      · rw [MemoryDataStore.body, bodies, Finmap.lookup_insert,
          Option.getD_some]
      · rw [CompositeBackend.headLength, head,
          ← (MemoryDataStore.assembledSize_eq_some_iff.mp sized).2]
        rfl

/-- An object of some parts holds the bytes of the last upload of each part, and
is registered with the sum of their recorded sizes. -/
structure HoldsLastUploads
    (bucket key : String)
    (upload : UploadPtr)
    (count : Nat)
    (accepted : List WholeUpload)
    (finish after : State) : Prop where
  body : after.backend.data.body (makeKey bucket key) =
    (List.range' 1 count).flatMap fun part => lastBytes part accepted
  length : after.backend.headLength bucket key =
    .ok ((List.range' 1 count).map (finish.recordedSize upload)).sum

/-- An upload that has a destination, and of which nothing is staged or
recorded. -/
structure Untouched
    (state : State)
    (uploadId : String)
    (upload : UploadPtr)
    (bucket key : String) : Prop where
  known : state.store.find uploadId = some upload
  target : state.backend.mpuTargets.lookup (state.backendId upload) =
    some (bucket, key)
  unstaged : state.backend.data.mpu.lookup (state.backendId upload) = none
  unrecorded : (state.store.objects upload).parts = ∅

section Completion

variable
  {uploadId bucket key : String}
  {upload : UploadPtr}
  {state finish : State}
  {accepted : List WholeUpload}

theorem stagedBytes_of_untouched
    (untouched : Untouched state uploadId upload bucket key)
    (uploaded : Reuploaded uploadId upload state accepted finish)
    (part : Nat) :
    finish.stagedBytes upload part =
      placeGrowAll 0 []
        ((contents part accepted).map fun content => ⟨0, content⟩) := by
  rw [uploaded.staged, stagedBytes, MemoryDataStore.staging,
    untouched.unstaged]
  rfl

theorem recordedSize_of_untouched
    (untouched : Untouched state uploadId upload bucket key)
    (uploaded : Reuploaded uploadId upload state accepted finish)
    (part : Nat) :
    finish.recordedSize upload part = (lastBytes part accepted).length := by
  have none : state.recordedPart upload part = none := by
    rw [recordedPart, untouched.unrecorded, Finmap.lookup_empty]
  rw [recordedSize, uploaded.recorded, none, Option.or_none, lastBytes,
    contents, List.getLast?_map]
  cases (ofPart part accepted).getLast? <;> rfl

/-- A part whose last upload is as long as any is staged as that was sent. -/
theorem stagedBytes_eq_lastBytes
    {part : Nat}
    (untouched : Untouched state uploadId upload bucket key)
    (uploaded : Reuploaded uploadId upload state accepted finish)
    (short : NoneLonger part accepted) :
    finish.stagedBytes upload part = lastBytes part accepted := by
  rw [stagedBytes_of_untouched untouched uploaded]
  exact placeGrowAll_start 0 ((noneLonger_iff_contents part accepted).mp short)

/-- When the parts in order are the last uploads in order, no upload was longer
than the last one of its part, for no staged part is shorter than that. -/
theorem noneLonger_of_flatMap_eq
    {parts : List Nat}
    (untouched : Untouched state uploadId upload bucket key)
    (uploaded : Reuploaded uploadId upload state accepted finish)
    (same : parts.flatMap (finish.stagedBytes upload) =
      parts.flatMap fun part => lastBytes part accepted) :
    ∀ part ∈ parts, NoneLonger part accepted := by
  have shorter : ∀ part ∈ parts, (lastBytes part accepted).length ≤
      (finish.stagedBytes upload part).length := by
    intro part _
    rw [stagedBytes_of_untouched untouched uploaded]
    exact length_getLast_le_placeGrowAll 0 (contents part accepted)
  intro part listed
  have within : (finish.stagedBytes upload part).length ≤
      (lastBytes part accepted).length := by
    by_contra longer
    have less := List.sum_lt_sum _ _ shorter
      ⟨part, listed, not_le.mp longer⟩
    have lengths := congrArg List.length same
    rw [List.length_flatMap, List.length_flatMap] at lengths
    omega
  rw [stagedBytes_of_untouched untouched uploaded,
    length_placeGrowAll_start_le_iff] at within
  exact (noneLonger_iff_contents part accepted).mpr within

end Completion

/-- Once parts have been uploaded whole, and some of them again, and the
completion has succeeded, the object holds the last upload of every part and has
the length of the recorded sizes together, exactly when no upload of a part was
longer than its last one. -/
theorem holdsLastUploads_iff
    {options : CoordinatorOptions}
    {bucket key : String}
    {upload : UploadPtr}
    {request : CompleteRequest}
    {state finish after : State}
    {wholes accepted : List WholeUpload}
    {now : Nat}
    {metadata : ObjectMetadata}
    (untouched : Untouched state request.uploadId upload bucket key)
    (words : ∀ whole ∈ wholes, whole.bytes.length < wordModulus)
    (executed : uploadWholes request.uploadId state wholes =
      (accepted, finish))
    (resident : (finish.backend.data.staging
      (finish.backendId upload)).size < wordModulus)
    (completed : finish.completeUpload options request now =
      (.ok metadata, after)) :
    HoldsLastUploads bucket key upload request.parts.length accepted finish
        after ↔
      ∀ part ∈ List.range' 1 request.parts.length,
        NoneLonger part accepted := by
  have uploaded : Reuploaded request.uploadId upload state accepted finish := by
    have run := reuploaded_uploadWholes untouched.known words
    rwa [executed] at run
  have target : finish.backend.mpuTargets.lookup (finish.backendId upload) =
      some (bucket, key) := by
    rw [uploaded.targets, uploaded.backendId]
    exact untouched.target
  obtain ⟨body, length⟩ :=
    installed_of_completeUpload uploaded.known target completed
  have sizes : (List.range' 1 request.parts.length).map
      (finish.recordedSize upload) =
        (List.range' 1 request.parts.length).map fun part =>
          (lastBytes part accepted).length := by
    apply List.map_congr_left
    intro part _
    exact recordedSize_of_untouched untouched uploaded part
  constructor
  · intro holds
    exact noneLonger_of_flatMap_eq untouched uploaded
      (body.symm.trans holds.body)
  · intro short
    have same : (List.range' 1 request.parts.length).flatMap
        (finish.stagedBytes upload) =
          (List.range' 1 request.parts.length).flatMap fun part =>
            lastBytes part accepted := by
      apply List.flatMap_congr
      intro part listed
      exact stagedBytes_eq_lastBytes untouched uploaded (short part listed)
    have fits : ((List.range' 1 request.parts.length).flatMap
        (finish.stagedBytes upload)).length < wordModulus :=
      (MemoryDataStore.length_assembledBytes_le _
        List.nodup_range').trans_lt resident
    refine ⟨body.trans same, ?_⟩
    rw [length, Nat.mod_eq_of_lt fits, same, sizes, List.length_flatMap]

/-- A gateway that has just started an upload. -/
def justCreated : State :=
  ((State.init 8 0).createUpload ⟨8, 4⟩
    ⟨"bucket", "key", none, "gpu-direct", ""⟩ 0 0).2

theorem untouched_justCreated :
    Untouched justCreated completeOnePart.uploadId 0 "bucket" "key" where
  known := Table.lookup_emplace_empty (mpuId 1 0) 0
  target := Table.lookup_emplace_empty (mpuId 1 0) ("bucket", "key")
  unstaged := rfl
  unrecorded := rfl

/-- A part that is uploaded, and uploaded again. -/
def uploadedTwice (first second : Bytes) : List WholeUpload :=
  [⟨1, first, none, 0, 0⟩, ⟨1, second, none, 0, 0⟩]

/-- What the two uploads leave. -/
def afterTwo (first second : Bytes) : List WholeUpload × State :=
  justCreated.uploadWholes completeOnePart.uploadId
    (uploadedTwice first second)

/-- What the completion with the tag of the second upload leaves. -/
def afterCompletion (first second : Bytes) : Result ObjectMetadata × State :=
  (afterTwo first second).2.completeUpload ⟨8, 4⟩ completeOnePart 0

theorem holdsLastUploads_iff_same_length :
    HoldsLastUploads "bucket" "key" 0 1 (afterTwo [8] [7]).1
      (afterTwo [8] [7]).2 (afterCompletion [8] [7]).2 := by
  have words : ∀ whole ∈ uploadedTwice [8] [7],
      whole.bytes.length < wordModulus := by decide
  have completed : (afterTwo [8] [7]).2.completeUpload ⟨8, 4⟩ completeOnePart
      0 = (.ok (makeMeta 1 0), (afterCompletion [8] [7]).2) :=
    Prod.ext (by decide) rfl
  exact (holdsLastUploads_iff untouched_justCreated words rfl (by decide)
    completed).mpr (by decide)

/-- A part of two bytes that is uploaded again with one byte keeps its second
byte, and the object is longer than the size recorded of the part. -/
theorem longer_upload_stays :
    (afterCompletion [8, 9] [7]).1 = .ok (makeMeta 2 0) ∧
      (afterTwo [8, 9] [7]).2.recordedSize 0 1 = 1 ∧
      (afterCompletion [8, 9] [7]).2.backend.data.body
        (makeKey "bucket" "key") = [7, 9] ∧
      ¬HoldsLastUploads "bucket" "key" 0 1 (afterTwo [8, 9] [7]).1
        (afterTwo [8, 9] [7]).2 (afterCompletion [8, 9] [7]).2 := by
  refine ⟨by decide, by decide, by decide, ?_⟩
  intro holds
  exact absurd holds.length (by decide)

end State

end Gateway
end TurboAccess

import TurboAccess.Gateway.Multipart.PartEtag
import TurboAccess.Gateway.Multipart.Reuploads

/-!
# The limit of a part

The answer to a new upload carries the largest size of a part.  No operation of
the gateway compares anything with it, so the parts stay within it in exactly
the runs in which every part write that is accepted ends within it.

Parts are staged and recorded by part uploads only.  Every other operation
leaves what is staged of an upload, and what is recorded of it, or drops it.
-/

namespace TurboAccess
namespace Gateway

open Tiling

/-! ## Staged parts -/

namespace MemoryDataStore

/-- Every staged part is within a limit. -/
def PartsWithin (limit : Nat) (store : MemoryDataStore) : Prop :=
  ∀ uploadId partNumber,
    ((store.staging uploadId).part partNumber).length ≤ limit

theorem PartsWithin.of_lookup
    {limit : Nat}
    {store next : MemoryDataStore}
    (within : store.PartsWithin limit)
    (same : ∀ uploadId,
      next.mpu.lookup uploadId = store.mpu.lookup uploadId ∨
        next.mpu.lookup uploadId = none) :
    next.PartsWithin limit := by
  intro uploadId partNumber
  rcases same uploadId with kept | dropped
  · rw [staging, kept]
    exact within uploadId partNumber
  · rw [staging, dropped]
    exact Nat.zero_le limit

/-- A part write that ends within the limit if it is accepted keeps all parts
within it. -/
theorem PartsWithin.writePart
    {limit : Nat}
    {store : MemoryDataStore}
    {uploadId : String}
    {partNumber offset : Nat}
    {source : Bytes}
    (within : store.PartsWithin limit)
    (word : limit < wordModulus)
    (ends : Gds.PartFits store uploadId partNumber offset source →
      offset + source.length ≤ limit) :
    (store.writePart uploadId partNumber offset source).2.PartsWithin
      limit := by
  intro key number
  by_cases otherKey : key ≠ uploadId
  · rw [staging, lookup_writePart_of_ne _ _ _ _ otherKey]
    exact within key number
  obtain rfl := not_not.mp otherKey
  by_cases otherPart : number ≠ partNumber
  · rw [part_writePart_of_ne _ _ _ _ otherPart]
    exact within key number
  obtain rfl := not_not.mp otherPart
  have before := within key number
  rcases written : store.writePart key number offset source with
    ⟨error | reply, next⟩
  · rw [part_writePart_refused written]
    exact before
  · have bounded := ends
      ((Gds.writePart_ok_iff _ _ _ _ _).mp ⟨reply, next, written⟩)
    rw [part_writePart written (bounded.trans_lt word), length_placeGrow]
    exact max_le before bounded

end MemoryDataStore

/-! ## Recorded parts -/

namespace MultipartStore

/-- Every recorded part is within a limit. -/
def PartsWithin (limit : Nat) (store : MultipartStore) : Prop :=
  ∀ upload partNumber progress,
    (store.objects upload).parts.lookup partNumber = some progress →
      progress.size ≤ limit

theorem PartsWithin.of_parts
    {limit : Nat}
    {store next : MultipartStore}
    (within : store.PartsWithin limit)
    (same : ∀ upload,
      (next.objects upload).parts = (store.objects upload).parts ∨
        (next.objects upload).parts = ∅) :
    next.PartsWithin limit := by
  intro upload partNumber progress recorded
  rcases same upload with kept | dropped
  · rw [kept] at recorded
    exact within upload partNumber progress recorded
  · rw [dropped] at recorded
    cases recorded

/-- Setting the lifecycle state of an upload leaves the recorded parts. -/
theorem parts_setState
    (store : MultipartStore)
    (upload other : UploadPtr)
    (lifecycle : UploadState) :
    ((store.setState upload lifecycle).objects other).parts =
      (store.objects other).parts := by
  rw [Multipart.objects_setState]
  split
  · next same => rw [same]
  · rfl

/-- A new upload has no recorded parts, and the others keep theirs. -/
theorem parts_create
    (store : MultipartStore)
    (params : StartUploadParams)
    (backendUploadId : String)
    (now : Nat)
    (upload : UploadPtr) :
    ((store.create params backendUploadId now).2.objects upload).parts =
        (store.objects upload).parts ∨
      ((store.create params backendUploadId now).2.objects upload).parts =
        ∅ := by
  unfold create
  dsimp only
  by_cases created : upload = store.allocated
  · rw [created, Function.update_self]
    exact .inr rfl
  · rw [Function.update_of_ne created]
    exact .inl rfl

/-- A pass of the sweeper leaves the recorded parts. -/
theorem objects_sweepExpired
    (store : MultipartStore)
    (now : Nat)
    (order : List String) :
    (store.sweepExpired now order).2.objects = store.objects := by
  induction order generalizing store with
  | nil => rfl
  | cons uploadId rest inductionHypothesis =>
      rw [sweepExpired]
      by_cases disabled : store.ttl = 0
      · rw [if_pos disabled]
      · rw [if_neg disabled]
        exact (inductionHypothesis _).trans
          (Multipart.sweepOne_objects store now uploadId)

end MultipartStore

/-! ## Operations that stage and record nothing -/

namespace State

/-- Every staged part and every recorded part is within a limit. -/
structure PartsWithin (limit : Nat) (state : State) : Prop where
  staged : state.backend.data.PartsWithin limit
  recorded : state.store.PartsWithin limit

/-- What is staged and recorded of each upload stays as it is, or is dropped. -/
structure Drops (before after : State) : Prop where
  stagings : ∀ uploadId,
    after.backend.data.mpu.lookup uploadId =
        before.backend.data.mpu.lookup uploadId ∨
      after.backend.data.mpu.lookup uploadId = none
  parts : ∀ upload,
    (after.store.objects upload).parts = (before.store.objects upload).parts ∨
      (after.store.objects upload).parts = ∅

theorem PartsWithin.of_drops
    {limit : Nat}
    {before after : State}
    (within : before.PartsWithin limit)
    (drops : Drops before after) :
    after.PartsWithin limit where
  staged := within.staged.of_lookup drops.stagings
  recorded := within.recorded.of_parts drops.parts

/-- A gateway that has just started is within every limit. -/
theorem PartsWithin.init (limit capacityBytes ttl : Nat) :
    (State.init capacityBytes ttl).PartsWithin limit where
  staged := by
    intro uploadId partNumber
    exact Nat.zero_le limit
  recorded := by
    intro upload partNumber progress recorded
    cases recorded

/-- Recording a part within the limit. -/
theorem PartsWithin.registerPart
    {limit size : Nat}
    {state : State}
    (within : state.PartsWithin limit)
    (small : size ≤ limit)
    (upload : UploadPtr)
    (partNumber offset : Nat)
    (etag : String)
    (now : Nat) :
    (state.registerPart upload partNumber offset size etag now).PartsWithin
      limit where
  staged := within.staged
  recorded := by
    intro other number progress recorded
    unfold State.registerPart MultipartStore.modify at recorded
    dsimp only at recorded
    by_cases same : other = upload
    · rw [same, Function.update_self, Table.lookup_insert_eq] at recorded
      split at recorded
      · cases recorded
        exact small
      · exact within.recorded upload number progress recorded
    · rw [Function.update_of_ne same] at recorded
      exact within.recorded other number progress recorded

namespace Drops

variable {before middle after : State}

theorem refl (state : State) : Drops state state :=
  ⟨fun _ => .inl rfl, fun _ => .inl rfl⟩

theorem trans
    (first : Drops before middle)
    (second : Drops middle after) :
    Drops before after where
  stagings := by
    intro uploadId
    rcases second.stagings uploadId with kept | dropped
    · rw [kept]
      exact first.stagings uploadId
    · exact .inr dropped
  parts := by
    intro upload
    rcases second.parts upload with kept | dropped
    · rw [kept]
      exact first.parts upload
    · exact .inr dropped

/-- A change of the stagings of one upload at most. -/
theorem of_erase
    {uploadId : String}
    (stagings : after.backend.data.mpu = before.backend.data.mpu ∨
      after.backend.data.mpu = before.backend.data.mpu.erase uploadId)
    (parts : ∀ upload, (after.store.objects upload).parts =
      (before.store.objects upload).parts) :
    Drops before after where
  stagings := by
    intro other
    rcases stagings with same | erased
    · exact .inl (by rw [same])
    · rw [erased, Table.lookup_erase_eq]
      split
      · exact .inr rfl
      · exact .inl rfl
  parts := fun upload => .inl (parts upload)

end Drops

/-- A completion in the backend removes the staging of its upload at most. -/
theorem mpu_completeMultipart
    (backend : CompositeBackend)
    (uploadId : String)
    (parts : List PartRecord)
    (now : Nat) :
    (backend.completeMultipart uploadId parts now).2.data.mpu =
        backend.data.mpu ∨
      (backend.completeMultipart uploadId parts now).2.data.mpu =
        backend.data.mpu.erase uploadId := by
  unfold CompositeBackend.completeMultipart
  rcases backend.mpuTargets.lookup uploadId with _ | ⟨bucket, key⟩
  · exact .inl rfl
  · have removed := backend.data.assembleObject_mpu uploadId bucket key
      (CompositeBackend.orderedNumbers parts)
    right
    dsimp only
    rcases assembled : backend.data.assembleObject uploadId bucket key
        (CompositeBackend.orderedNumbers parts) with ⟨error | size, data⟩
    · rw [assembled] at removed
      exact removed
    · rw [assembled] at removed
      dsimp only
      rcases backend.index.commitMultipart uploadId bucket key
          (makeMeta size now) with ⟨error | reply, index⟩
      · exact removed
      · exact removed

theorem drops_completeUpload
    (options : CoordinatorOptions)
    (state : State)
    (request : CompleteRequest)
    (now : Nat) :
    Drops state (state.completeUpload options request now).2 := by
  cases admitted : state.admission options request with
  | error error =>
      rw [completeUpload_of_refused admitted now]
      exact .refl state
  | ok outcome =>
      obtain ⟨upload, claimed⟩ := outcome
      obtain ⟨nonempty, found, owned, valid⟩ := admission_eq_ok_iff.mp admitted
      obtain ⟨-, -, rfl⟩ := claim_eq_ok_iff.mp owned
      have stagings := mpu_completeMultipart state.backend
        (state.store.objects upload).backendUploadId request.parts now
      unfold completeUpload
      rw [nonempty, found]
      dsimp only
      rw [owned]
      dsimp only
      rw [valid, if_neg Bool.false_ne_true]
      dsimp only
      rcases completed : state.backend.completeMultipart
          (state.store.objects upload).backendUploadId request.parts now with
        ⟨error | metadata, backend⟩
      · rw [completed] at stagings
        refine .of_erase stagings ?_
        intro other
        dsimp only
        rw [MultipartStore.parts_setState, MultipartStore.parts_setState]
      · rw [completed] at stagings
        refine .of_erase stagings ?_
        intro other
        dsimp only [MultipartStore.erase]
        rw [MultipartStore.parts_setState, MultipartStore.parts_setState]

theorem drops_abortUpload
    (state : State)
    (uploadId dataPath : String) :
    Drops state (state.abortUpload uploadId dataPath).2 := by
  unfold abortUpload
  cases found : state.store.find uploadId with
  | none => exact .refl state
  | some upload =>
      dsimp only
      cases marked : state.markAborted upload dataPath with
      | error error => exact .refl state
      | ok next =>
          obtain ⟨-, rfl⟩ := Multipart.markAborted_eq_ok marked
          refine .of_erase (.inr (MemoryDataStore.abortMultipartData_mpu _ _))
            ?_
          intro other
          exact MultipartStore.parts_setState state.store upload other _

theorem drops_abortExpired
    (state : State)
    (upload : UploadPtr) :
    Drops state (state.abortExpired upload) := by
  have parts := fun other =>
    MultipartStore.parts_setState state.store upload other .aborted
  unfold abortExpired abortBackend
  by_cases unnamed : (state.store.objects upload).backendUploadId = ""
  · rw [if_pos unnamed]
    exact ⟨fun _ => .inl rfl, fun other => .inl (parts other)⟩
  · rw [if_neg unnamed]
    exact .of_erase (.inr (MemoryDataStore.abortMultipartData_mpu _ _)) parts

theorem drops_sweepMultipart
    (state : State)
    (now : Nat)
    (order : List String) :
    Drops state (state.sweepMultipart now order) := by
  have swept : Drops state
      { state with store := (state.store.sweepExpired now order).2 } := by
    refine ⟨fun _ => .inl rfl, ?_⟩
    intro upload
    dsimp only
    rw [MultipartStore.objects_sweepExpired]
    exact .inl rfl
  unfold sweepMultipart
  dsimp only
  generalize { state with
    store := (state.store.sweepExpired now order).2 } = start at swept ⊢
  induction (state.store.sweepExpired now order).1 generalizing start with
  | nil => exact swept
  | cons upload rest inductionHypothesis =>
      rw [List.foldl_cons]
      exact inductionHypothesis _ (swept.trans (drops_abortExpired start upload))

/-! ## Part uploads -/

/-- An upload of a part that ends within the limit, if the backend accepts it,
keeps a gateway within the limit. -/
theorem PartsWithin.uploadPartAs
    {limit : Nat}
    {state : State}
    {uploadId : String}
    {partNumber offset size : Nat}
    {source : Bytes}
    (within : state.PartsWithin limit)
    (word : limit < wordModulus)
    (ends : ∀ upload, state.store.find uploadId = some upload →
      Gds.PartFits state.backend.data (state.backendId upload) partNumber
          offset source →
        offset + source.length ≤ limit ∧ size ≤ limit)
    (tag : Option String)
    (backendNow now : Nat) :
    (state.uploadPartAs uploadId partNumber offset source size tag backendNow
      now).2.PartsWithin limit := by
  unfold State.uploadPartAs lookup
  cases found : state.store.find uploadId with
  | none => exact within
  | some upload =>
      have staged := within.staged.writePart word
        (fun fits => (ends upload found fits).1)
      unfold CompositeBackend.writePart
      dsimp only
      rcases written : state.backend.data.writePart
          (state.store.objects upload).backendUploadId partNumber offset
          source with ⟨error | reply, data⟩
      · unfold backendId at staged
        rw [written] at staged
        exact ⟨staged, within.recorded⟩
      · have fits :=
          (Gds.writePart_ok_iff _ _ _ _ _).mp ⟨reply, data, written⟩
        have small := (ends upload found fits).2
        unfold backendId at staged
        rw [written] at staged
        have next : (state.withData data).PartsWithin limit :=
          ⟨staged, within.recorded⟩
        exact next.registerPart small upload partNumber offset _ now

end State

/-! ## Runs of operations -/

namespace Sequential

/-- A part upload that the backend accepts ends within a limit, and is recorded
with a size within it. -/
def EndsWithin (limit : Nat) (state : State) (label : Label) : Prop :=
  match label.operation with
  | .uploadPart uploadId partNumber offset source size _ =>
      ∀ upload, state.store.find uploadId = some upload →
        Gds.PartFits state.backend.data (state.backendId upload) partNumber
            offset source →
          offset + source.length ≤ limit ∧ size ≤ limit
  | _ => True

theorem partsWithin_apply
    {options : CoordinatorOptions}
    {limit : Nat}
    {state : State}
    {label : Label}
    (within : state.PartsWithin limit)
    (word : limit < wordModulus)
    (ends : EndsWithin limit state label) :
    (apply options state label).PartsWithin limit := by
  obtain ⟨operation, backendNow, now⟩ := label
  cases operation with
  | createUpload params =>
      refine within.of_drops ⟨fun _ => .inl rfl, ?_⟩
      intro upload
      exact MultipartStore.parts_create state.store params _ now upload
  | uploadPart uploadId partNumber offset source size tag =>
      exact within.uploadPartAs word ends tag backendNow now
  | completeUpload request =>
      exact within.of_drops
        (State.drops_completeUpload options state request backendNow)
  | abortUpload uploadId dataPath =>
      exact within.of_drops (state.drops_abortUpload uploadId dataPath)
  | sweep order => exact within.of_drops (state.drops_sweepMultipart now order)
  | writeRange bucket key offset source totalSize =>
      obtain ⟨spares, -⟩ := spares_writeRange state.backend bucket key offset
        source totalSize backendNow
      exact within.of_drops
        ⟨fun uploadId => .inl (spares.stagings uploadId (Set.notMem_empty _)),
          fun _ => .inl rfl⟩
  | reserve bucket key totalSize =>
      obtain ⟨spares, -⟩ := spares_reserve state.backend bucket key totalSize
        backendNow
      exact within.of_drops
        ⟨fun uploadId => .inl (spares.stagings uploadId (Set.notMem_empty _)),
          fun _ => .inl rfl⟩

theorem partsWithin_of_path
    {options : CoordinatorOptions}
    {limit : Nat}
    {start finish : State}
    {labels : List Label}
    (within : start.PartsWithin limit)
    (word : limit < wordModulus)
    (path : (machine options).Path (EndsWithin limit) start labels finish) :
    finish.PartsWithin limit := by
  refine path.preserves ?_ within
  intro state label next within ends stepped
  obtain rfl := Option.some.inj stepped
  exact partsWithin_apply within word ends

end Sequential

/-! ## Interleaved runs -/

namespace Multipart

variable
  {options : CoordinatorOptions}
  {limit : Nat}
  {state next : State}
  {before after : Frame}

/-- A part write that the backend accepts ends within a limit. -/
def EndsWithin
    (limit : Nat)
    (pool : Pool State Frame)
    (label : Nat × Input) : Prop :=
  ∀ upload part, pool.threads label.1 = .partFound upload part →
    Gds.PartFits pool.shared.backend.data (pool.shared.backendId upload)
        part.partNumber part.offset part.source →
      part.offset + part.source.length ≤ limit

/-- The parts that a frame has written are within a limit. -/
def WroteWithin (limit : Nat) (frame : Frame) : Prop :=
  ∀ upload part etag, frame.wrote = some (upload, part, etag) →
    part.source.length ≤ limit

/-- A section that neither writes a part nor records one stages and records
nothing. -/
theorem Moves.drops
    (moves : Moves options state before next after)
    (unwritten : ∀ upload part, before ≠ .partFound upload part)
    (unrecorded : ∀ upload part etag, before ≠ .partWritten upload part etag) :
    State.Drops state next where
  stagings := by
    intro uploadId
    have change := moves.stagingChange uploadId
    generalize next.backend.data.mpu.lookup uploadId = entry at change
    cases change with
    | unchanged => exact .inl rfl
    | written upload part => exact absurd rfl (unwritten upload part)
    | refused upload part => exact absurd rfl (unwritten upload part)
    | detached | aborted => exact .inr rfl
  parts := by
    intro upload
    cases moves with
    | accept call =>
        rw [accept_store]
        exact .inl rfl
    | addTarget | refuseClaim | refuseAbort | unregister | endScan | endSweep
    | putIndex => exact .inl rfl
    | create params backendId now =>
        exact state.store.parts_create params backendId now upload
    | refusePart mover part => exact absurd rfl (unwritten mover part)
    | writePart mover part => exact absurd rfl (unwritten mover part)
    | registerPart mover part etag =>
        exact absurd rfl (unrecorded mover part etag)
    | claim mover => exact .inl (state.store.parts_setState mover upload _)
    | complete mover request stage now =>
        rw [advanceCompletion_store]
        cases stage with
        | committed | failing =>
            exact .inl (state.store.parts_setState mover upload _)
        | claimed | targeted | detached | released | installed | taken
        | indexed | marked => exact .inl rfl
    | markAborted mover =>
        exact .inl (state.store.parts_setState mover upload _)
    | abort mover origin stage =>
        rw [advanceAbort_store]
        exact .inl rfl
    | visit now expired uploadId =>
        rw [State.withStore_store, sweepOne_objects]
        exact .inl rfl
    | sweepNext swept mover =>
        exact .inl (state.store.parts_setState mover upload _)

/-- One section keeps a gateway within the limit. -/
theorem Moves.partsWithin
    (moves : Moves options state before next after)
    (within : state.PartsWithin limit)
    (word : limit < wordModulus)
    (wrote : WroteWithin limit before)
    (ends : ∀ upload part, before = .partFound upload part →
      Gds.PartFits state.backend.data (state.backendId upload)
          part.partNumber part.offset part.source →
        part.offset + part.source.length ≤ limit) :
    next.PartsWithin limit := by
  cases before with
  | partFound upload part =>
      have staged := within.staged.writePart word (ends upload part rfl)
      cases moves with
      | refusePart => exact ⟨staged, within.recorded⟩
      | writePart => exact ⟨staged, within.recorded⟩
  | partWritten upload part etag =>
      cases moves with
      | registerPart _ _ _ now =>
          exact within.registerPart (wrote upload part etag rfl) upload
            part.partNumber part.offset etag now
  | idle | started | targeted | completeFound | completing | abortFound
  | aborting | unregistering | scanning | sweeping | storing | finished =>
      exact within.of_drops (moves.drops (by simp) (by simp))

/-- A frame has written no part past the limit after one section. -/
theorem Moves.wroteWithin
    (moves : Moves options state before next after)
    (wrote : WroteWithin limit before)
    (ends : ∀ upload part, before = .partFound upload part →
      Gds.PartFits state.backend.data (state.backendId upload)
          part.partNumber part.offset part.source →
        part.offset + part.source.length ≤ limit) :
    WroteWithin limit after := by
  intro upload part etag written
  rcases moves.wrote_of_after written with earlier | ⟨found, writes⟩
  · exact wrote upload part etag earlier
  · subst found
    cases moves with
    | refusePart => cases writes
    | writePart _ _ now reply succeeded =>
        have fits : Gds.PartFits state.backend.data (state.backendId upload)
            part.partNumber part.offset part.source :=
          (Gds.writePart_ok_iff _ _ _ _ _).mp
            ⟨reply, _, Prod.ext succeeded rfl⟩
        have bounded := ends upload part rfl fits
        omega

/-- The gateway is within the limit, and so is what its frames have written. -/
structure PoolWithin (limit : Nat) (pool : Pool State Frame) : Prop where
  parts : pool.shared.PartsWithin limit
  wrote : ∀ thread, WroteWithin limit (pool.threads thread)

theorem PoolWithin.of_reachable
    {pool : Pool State Frame}
    (word : limit < wordModulus)
    (reachable : (machine options).Reachable (EndsWithin limit) pool) :
    PoolWithin limit pool := by
  refine reachable.invariant ?_ ?_
  · rintro start ⟨capacityBytes, ttl, rfl⟩
    refine ⟨.init limit capacityBytes ttl, ?_⟩
    intro thread upload part etag written
    cases written
  · rintro earlier ⟨mover, input⟩ later within ends stepped
    obtain ⟨shared, frame, moves, rfl⟩ := moves_of_step stepped
    refine ⟨moves.partsWithin within.parts word (within.wrote mover) ends, ?_⟩
    apply (Function.forall_update_iff _ fun _ => WroteWithin limit).mpr
    constructor
    · exact moves.wroteWithin (within.wrote mover) ends
    · exact fun thread _ => within.wrote thread

end Multipart

/-! ## The limit that an upload is told -/

namespace State

/-- A new upload is told the largest size of a part.  No part gets larger in a
run, of operations one after the other or interleaved, in which every part write
that the backend accepts ends within that size. -/
theorem partsWithin_of_endsWithin
    {options : CoordinatorOptions}
    (word : options.maxPartSize < wordModulus) :
    (∀ (state : State) params backendNow now,
      (state.createUpload options params backendNow now).1.2 =
        options.maxPartSize) ∧
    (∀ capacityBytes ttl labels state,
      (Sequential.machine options).Path
          (Sequential.EndsWithin options.maxPartSize)
          (State.init capacityBytes ttl) labels state →
        state.PartsWithin options.maxPartSize) ∧
    ∀ pool,
      (Multipart.machine options).Reachable
          (Multipart.EndsWithin options.maxPartSize) pool →
        pool.shared.PartsWithin options.maxPartSize := by
  refine ⟨fun _ _ _ _ => rfl, ?_, ?_⟩
  · intro capacityBytes ttl labels state path
    exact Sequential.partsWithin_of_path
      (.init options.maxPartSize capacityBytes ttl) word path
  · intro pool reachable
    exact (Multipart.PoolWithin.of_reachable word reachable).parts

/-- An upload that is told a limit of one byte, and a part of it. -/
def uploadedUnderLimit (source : Bytes) : List Sequential.Label :=
  [⟨.createUpload ⟨"bucket", "key", none, "gpu-direct", ""⟩, 0, 0⟩,
    ⟨.uploadPart (mpuId 1 0) 1 0 source source.length none, 0, 0⟩]

/-- The gateway after it. -/
def underLimit (source : Bytes) : State :=
  (uploadedUnderLimit source).foldl (Sequential.apply ⟨1, 0⟩) (State.init 8 0)

/-- The calls for them. -/
private def callsUnderLimit : List (Nat × Multipart.Input) :=
  (0, .call (.createUpload ⟨"bucket", "key", none, "gpu-direct", ""⟩ 0)) ::
    Multipart.clockSteps 0 2 ++
  (1, .call (.uploadPart (mpuId 1 0) ⟨1, 0, [7]⟩)) :: Multipart.clockSteps 1 2

/-- The condition on part writes, whether they are accepted or not. -/
private def endsBelow
    (pool : Pool State Multipart.Frame)
    (label : Nat × Multipart.Input) : Bool :=
  match pool.threads label.1 with
  | .partFound _ part => decide (part.offset + part.source.length ≤ 1)
  | _ => true

private theorem endsWithin_of_below
    (pool : Pool State Multipart.Frame)
    (label : Nat × Multipart.Input)
    (_ : pool.RestAt 2 .idle)
    (holds : endsBelow pool label = true) :
    Multipart.EndsWithin 1 pool label := by
  intro upload part found _
  simpa [endsBelow, found] using holds

private def calledUnderLimit : Option (Pool State Multipart.Frame) :=
  (Multipart.machine ⟨1, 0⟩).run (fun pool label => endsBelow pool label)
    ⟨State.init 8 0, fun _ => .idle⟩ callsUnderLimit

private theorem calledUnderLimit_isSome :
    calledUnderLimit.isSome = true := by decide

theorem partsWithin_of_endsWithin_one_byte :
    (underLimit [7]).PartsWithin 1 ∧
      ∃ pool, (Multipart.machine ⟨1, 0⟩).Reachable (Multipart.EndsWithin 1)
          pool ∧
        pool.shared.stagedBytes 0 1 = [7] ∧
        pool.shared.PartsWithin 1 := by
  obtain ⟨-, sequential, interleaved⟩ :=
    @partsWithin_of_endsWithin ⟨1, 0⟩ (by decide)
  have path : (Sequential.machine ⟨1, 0⟩).Path (Sequential.EndsWithin 1)
      (State.init 8 0) (uploadedUnderLimit [7]) (underLimit [7]) :=
    .cons trivial rfl
      (.cons (fun _ _ _ => ⟨by decide, by decide⟩) rfl .nil)
  obtain ⟨calls, -⟩ := Pool.path_of_run_below 2 .idle rfl endsWithin_of_below
    (fun _ _ => rfl) (by decide) (Option.some_get calledUnderLimit_isSome).symm
  have reachable : (Multipart.machine ⟨1, 0⟩).Reachable
      (Multipart.EndsWithin 1) (calledUnderLimit.get calledUnderLimit_isSome) :=
    ⟨_, _, ⟨8, 0, rfl⟩, calls⟩
  exact ⟨sequential 8 0 _ _ path, _, reachable, by decide,
    interleaved _ reachable⟩

/-- An upload is told a limit of one byte, and a part of two bytes is accepted,
staged and recorded. -/
theorem part_larger_than_limit :
    ((State.init 8 0).createUpload ⟨1, 0⟩
      ⟨"bucket", "key", none, "gpu-direct", ""⟩ 0 0).1 = (mpuId 1 0, 1) ∧
    (Sequential.machine ⟨1, 0⟩).Path Machine.always (State.init 8 0)
      (uploadedUnderLimit [7, 8]) (underLimit [7, 8]) ∧
    (underLimit [7, 8]).stagedBytes 0 1 = [7, 8] ∧
    (underLimit [7, 8]).recordedSize 0 1 = 2 ∧
    ¬(underLimit [7, 8]).PartsWithin 1 := by
  refine ⟨by decide, .cons trivial rfl (.cons trivial rfl .nil), by decide,
    by decide, ?_⟩
  intro within
  exact absurd (within.staged (mpuId 1 0) 1) (by decide)

end State

end Gateway
end TurboAccess

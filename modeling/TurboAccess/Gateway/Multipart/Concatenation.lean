import TurboAccess.Gateway.Multipart.UploadPlan

/-!
# Multipart uploads concatenate their parts

When all parts of an upload have been uploaded, its completion succeeds, and the
object is the concatenation of the parts.  Everything else in the gateway is as
the other calls would have left it without the parts, provided that the capacity
the parts take while they are staged makes none of them refuse.
-/

namespace TurboAccess
namespace Gateway
namespace Multipart

/-! ## The property -/

namespace Plan

/-- A run from the creation of the upload in which every part is uploaded once,
and the list of parts that completes it, in any order. -/
structure Uploaded
    (options : CoordinatorOptions)
    (plan : Plan)
    (start : Pool State Frame)
    (labels : List (Nat × Input))
    (finish : Pool State Frame)
    (parts : List PartRecord) : Prop where
  created : plan.Created options start
  positive : 1 ≤ plan.count
  /-- Part numbers are words of 32 bits. -/
  numbered : plan.count < 2 ^ 32
  idle : ∀ number ∈ List.range' 1 plan.count,
    start.threads (plan.writer number) = .idle
  path : (machine options).Path plan.Follows start labels finish
  uploaded : ∃ etag : Nat → String,
    (∀ number ∈ List.range' 1 plan.count,
      finish.threads (plan.writer number) = .finished
        (.partUploaded plan.upload (plan.part number) (etag number))) ∧
      parts.Perm ((List.range' 1 plan.count).map fun number =>
        ⟨number, etag number⟩)
  large : ∀ number ∈ List.range' 1 plan.count, number < plan.count →
    options.minPartSize ≤ (plan.piece number).length

/-! ## The property -/

/-- The object is the concatenation of the parts, and the upload is gone. -/
structure Assembled
    (plan : Plan)
    (clock : Nat)
    (result : Result ObjectMetadata × State) : Prop where
  succeeds : result.1 = .ok (makeMeta plan.content.length clock)
  head : ∃ metadata,
    result.2.backend.head plan.fresh.bucket plan.fresh.objectKey =
        .ok metadata ∧
      metadata.contentLength =
        ((List.range' 1 plan.count).map fun number =>
          (plan.piece number).length).sum
  read : ∀ size, plan.content.length ≤ size →
    result.2.backend.read plan.fresh.bucket plan.fresh.objectKey 0 size =
      .ok plan.content
  unknown : result.2.store.find plan.fresh.uploadId = none
  unstaged : result.2.backend.data.mpu.lookup plan.fresh.backendUploadId = none

/-- Two gateways agree on everything but the upload and its destination. -/
structure AgreesElsewhere
    (plan : Plan)
    (state alone : State) : Prop where
  bodies : ∀ id, id ≠ plan.destination →
    state.backend.data.bodies.lookup id = alone.backend.data.bodies.lookup id
  metadata : ∀ id, id ≠ plan.destination →
    state.backend.index.entries.lookup id =
      alone.backend.index.entries.lookup id
  stagings : ∀ key, key ≠ plan.fresh.backendUploadId →
    state.backend.data.mpu.lookup key = alone.backend.data.mpu.lookup key

end Plan

/-- The completion of an upload whose parts have been uploaded concatenates
them; and when the steps of the run satisfy a guard, everything else is as the
other calls leave it when they run alone. -/
def RefinesConcatenation
    (options : CoordinatorOptions)
    (guard : Plan → Pool State Frame → Nat × Input → Prop) : Prop :=
  ∀ (plan : Plan) (start : Pool State Frame) (labels : List (Nat × Input))
    (finish : Pool State Frame) (parts : List PartRecord) (clock : Nat),
    plan.Uploaded options start labels finish parts →
      plan.Assembled clock
          (finish.shared.completeUpload options (plan.request parts) clock) ∧
        ((machine options).Path (guard plan) start labels finish →
          ∃ alone,
            (machine options).Path Machine.always start
                (labels.filter plan.elsewhere) alone ∧
              plan.AgreesElsewhere
                (finish.shared.completeUpload options (plan.request parts)
                  clock).2
                alone.shared)

/-! ## Validation -/

variable
  {options : CoordinatorOptions}
  {state : State}
  {plan : Plan}

/-- The numbers of the listed parts, in order. -/
theorem orderedNumbers_of_perm
    {parts : List PartRecord}
    {etag : Nat → String}
    {count : Nat}
    (listed : parts.Perm ((List.range' 1 count).map fun number =>
      ⟨number, etag number⟩)) :
    CompositeBackend.orderedNumbers parts = List.range' 1 count := by
  rw [← map_sortedParts, sortedParts_of_perm listed, List.map_map]
  exact List.map_id _

/-! ## Completion -/

/-- The staging of the upload holds the parts. -/
private theorem staging_of_staged
    (isOpen : plan.Open state)
    (positive : 1 ≤ plan.count)
    (staged : ∀ number ∈ List.range' 1 plan.count,
      stagedPart state plan.upload number = some (plan.piece number)) :
    ∃ staging,
      state.backend.data.mpu.lookup plan.fresh.backendUploadId =
          some staging ∧
        ∀ number ∈ List.range' 1 plan.count,
          staging.parts.lookup number = some (plan.piece number) := by
  unfold stagedPart at staged
  rw [isOpen.known.backendId] at staged
  cases found : state.backend.data.mpu.lookup
      plan.fresh.backendUploadId with
  | none =>
      have first := staged 1 (List.mem_range'.mpr ⟨0, by omega, rfl⟩)
      rw [found] at first
      cases first
  | some staging =>
      refine ⟨staging, rfl, ?_⟩
      intro number member
      have part := staged number member
      rw [found] at part
      exact part

/-- Completing the upload in the backend. -/
private theorem completeMultipart_eq_ok
    {held : Nat}
    {parts : List PartRecord}
    {etag : Nat → String}
    (isOpen : plan.Open state)
    (accounts : state.backend.data.Accounts held)
    (positive : 1 ≤ plan.count)
    (staged : ∀ number ∈ List.range' 1 plan.count,
      stagedPart state plan.upload number = some (plan.piece number))
    (listed : parts.Perm ((List.range' 1 plan.count).map fun number =>
      ⟨number, etag number⟩))
    (clock : Nat) :
    ∃ backend,
      state.backend.completeMultipart plan.fresh.backendUploadId parts clock =
          (.ok (makeMeta plan.content.length clock), backend) ∧
        backend.data.bodies = state.backend.data.bodies.insert
          plan.destination plan.content ∧
        backend.data.mpu =
          state.backend.data.mpu.erase plan.fresh.backendUploadId ∧
        backend.index.entries = state.backend.index.entries.insert
          plan.destination (makeMeta plan.content.length clock) := by
  obtain ⟨staging, found, pieces⟩ := staging_of_staged isOpen positive staged
  obtain ⟨installed, assembled, bodies, tables⟩ :=
    MemoryDataStore.assembleObject_eq_ok plan.fresh.bucket
      plan.fresh.objectKey accounts found List.nodup_range' pieces
  have ordered : state.backend.data.assembleObject plan.fresh.backendUploadId
      plan.fresh.bucket plan.fresh.objectKey
        (CompositeBackend.orderedNumbers parts) =
          (.ok plan.content.length, installed) := by
    rw [orderedNumbers_of_perm listed]
    exact assembled
  exact ⟨_, CompositeBackend.completeMultipart_of_assembled isOpen.target
    isOpen.record ordered clock, bodies, tables, rfl⟩

/-- Completing the upload. -/
theorem completeUpload_eq_ok
    {held : Nat}
    {parts : List PartRecord}
    {etag : Nat → String}
    (isOpen : plan.Open state)
    (accounts : state.backend.data.Accounts held)
    (positive : 1 ≤ plan.count)
    (numbered : plan.count < 2 ^ 32)
    (staged : ∀ number ∈ List.range' 1 plan.count,
      stagedPart state plan.upload number = some (plan.piece number))
    (known : ∀ number ∈ List.range' 1 plan.count,
      etag number ≠ "" ∧
        (state.store.objects plan.upload).parts.lookup number =
          some ⟨number, 0, (plan.piece number).length, etag number⟩)
    (large : ∀ number ∈ List.range' 1 plan.count, number < plan.count →
      options.minPartSize ≤ (plan.piece number).length)
    (listed : parts.Perm ((List.range' 1 plan.count).map fun number =>
      ⟨number, etag number⟩))
    (clock : Nat) :
    ∃ backend store,
      state.completeUpload options (plan.request parts) clock =
          (.ok (makeMeta plan.content.length clock), ⟨backend, store⟩) ∧
        backend.data.bodies = state.backend.data.bodies.insert
          plan.destination plan.content ∧
        backend.data.mpu =
          state.backend.data.mpu.erase plan.fresh.backendUploadId ∧
        backend.index.entries = state.backend.index.entries.insert
          plan.destination (makeMeta plan.content.length clock) ∧
        store.byId = state.store.byId.erase plan.fresh.uploadId := by
  obtain ⟨backend, completed, bodies, tables, entries⟩ :=
    completeMultipart_eq_ok isOpen accounts positive staged listed clock
  have nonempty : parts.isEmpty = false := by
    have length := listed.length_eq
    rw [List.length_map, List.length_range'] at length
    cases parts with
    | nil =>
        rw [List.length_nil] at length
        omega
    | cons => rfl
  have found : state.store.find plan.fresh.uploadId = some plan.upload :=
    isOpen.registered
  have claimed : state.claim plan.upload (plan.request parts) =
      .ok (state.withStore
        (state.store.setState plan.upload .completing)) := by
    have flow : (state.store.objects plan.upload).dataFlow =
        (plan.request parts).dataPath := isOpen.dataFlow
    unfold State.claim
    dsimp only
    rw [if_neg (not_not.mpr flow), if_neg (not_not.mpr isOpen.active)]
    rfl
  have valid : validateParts options
      (state.store.objects plan.upload).parts parts = .ok () := by
    refine validateParts_eq_ok numbered ?_ listed
    intro number member
    exact ⟨(known number member).1, _, (known number member).2, rfl,
      fun notLast => Or.inr (large number member notLast)⟩
  have backendId : (state.store.objects plan.upload).backendUploadId =
      plan.fresh.backendUploadId := isOpen.known.backendId
  have uploadId : (plan.request parts).uploadId = plan.fresh.uploadId := rfl
  have requested : (plan.request parts).parts = parts := rfl
  refine ⟨backend, ((state.store.setState plan.upload .completing).setState
    plan.upload .completed).erase (state.store.objects plan.upload).uploadId,
    ?_, bodies, tables, entries, ?_⟩
  · unfold State.completeUpload
    simp only [uploadId, requested, nonempty, Bool.false_eq_true, if_false,
      found, claimed, valid, backendId, State.withStore_backend, completed]
    rfl
  · rw [← isOpen.known.uploadId]
    rfl

/-- The completion concatenates the parts, and leaves everything else as the
other calls do alone, when none of them is refused for want of capacity. -/
theorem refinesConcatenation_of_granted (options : CoordinatorOptions) :
    RefinesConcatenation options (Granted options) := by
  intro plan start labels finish parts clock uploaded
  obtain ⟨etag, frames, listed⟩ := uploaded.uploaded
  obtain ⟨begins, reachable, unstarted⟩ :=
    uploaded.created.going uploaded.idle
  obtain ⟨going, reached, others⟩ :=
    Plan.Going.path uploaded.path begins reachable
  obtain ⟨⟨held, _, accounts⟩, _⟩ :=
    Balanced.of_reachable (fun _ _ moderate => moderate) reached
  have written : ∀ number ∈ List.range' 1 plan.count,
      stagedPart finish.shared plan.upload number =
          some (plan.piece number) ∧
        etag number ≠ "" ∧
        (finish.shared.store.objects plan.upload).parts.lookup number =
          some ⟨number, 0, (plan.piece number).length, etag number⟩ := by
    intro number member
    have progress := going.parts number member
    rw [frames number member] at progress
    obtain ⟨_, _, named, staged, recorded⟩ := progress
    exact ⟨staged, named, recorded⟩
  obtain ⟨backend, store, completed, bodies, tables, entries, registry⟩ :=
    completeUpload_eq_ok going.isOpen accounts uploaded.positive
      uploaded.numbered (fun number member => (written number member).1)
      (fun number member => (written number member).2) uploaded.large listed
      clock
  rw [completed]
  refine ⟨⟨rfl, ?_, ?_, ?_, ?_⟩, ?_⟩
  · refine ⟨makeMeta plan.content.length clock, ?_, ?_⟩
    · simp [CompositeBackend.head, MemoryIndexStore.head, entries,
        Plan.destination]
    · exact List.length_flatMap
  · intro size covers
    have found : backend.data.bodies.lookup plan.destination =
        some plan.content := by
      rw [bodies]
      exact Finmap.lookup_insert _
    unfold CompositeBackend.read MemoryDataStore.read
    unfold Plan.destination at found
    rw [found]
    simp [covers]
  · simp [MultipartStore.find, registry]
  · simp [tables]
  · intro granted
    have path := others granted
    rw [unstarted] at path
    refine ⟨plan.alone finish, path, ?_, ?_, ?_⟩
    · intro id different
      dsimp only
      rw [bodies, Finmap.lookup_insert_of_ne _ different]
      rfl
    · intro id different
      dsimp only
      rw [entries, Finmap.lookup_insert_of_ne _ different]
      rfl
    · intro key _
      dsimp only
      rw [tables]
      rfl

/-! ## Runs -/

/-- The steps of a run that uploads parts, when no sweeper looks at the
upload. -/
private def follows
    (plan : Plan)
    (pool : Pool State Frame)
    (label : Nat × Input) : Bool :=
  decide (pool.shared.backend.data.capacityBytes < sizeLimit) &&
    match label.2 with
    | .call call =>
        decide call.Moderate &&
          ((List.range' 1 plan.count).all fun number =>
            decide (plan.writer number = label.1 →
              call = .uploadPart plan.fresh.uploadId (plan.part number))) &&
          (plan.owns label.1 || !(Input.call call).mentions
            plan.fresh.uploadId)
    | .clock _ => true
    | .visit uploadId => decide (uploadId ≠ plan.fresh.uploadId)

private theorem follows_of_follows
    (plan : Plan)
    (pool : Pool State Frame)
    (label : Nat × Input)
    (holds : follows plan pool label = true) :
    plan.Follows pool label := by
  obtain ⟨thread, input⟩ := label
  simp only [follows, Bool.and_eq_true, decide_eq_true_eq] at holds
  obtain ⟨capacity, fits⟩ := holds
  refine ⟨⟨capacity, ?_⟩, ?_, ?_, ?_⟩
  · rintro call rfl
    simp only [Bool.and_eq_true, decide_eq_true_eq] at fits
    exact fits.1.1
  · rintro number member writes call rfl
    simp only [Bool.and_eq_true, List.all_eq_true, decide_eq_true_eq] at fits
    exact fits.1.2 number member writes
  · rintro other call rfl
    simp only [Bool.and_eq_true] at fits
    simpa [other] using fits.2
  · rintro rfl
    simp at fits

/-- An upload to `b/k` on a gateway without uploads. -/
private def firstUpload : MultipartUpload :=
  ⟨mpuId 1 0, "b", "k", "http", none, mpuId 1 0, ∅, .active, 0, 0⟩

/-- The creation of the upload, up to its last section. -/
private def creation : List (Nat × Input) :=
  [(0, .call (.createUpload ⟨"b", "k", none, "http", ""⟩ 0)), (0, .clock 0)]

/-- Create the upload and go on with the given labels, as long as a further
condition holds. -/
private def uploadRun
    (options : CoordinatorOptions)
    (plan : Plan)
    (capacityBytes : Nat)
    (allows : Pool State Frame → Nat × Input → Bool)
    (labels : List (Nat × Input)) :
    Option (Pool State Frame × Pool State Frame × Pool State Frame) :=
  (machine options).runAround
    (fun pool label => follows plan pool label && allows pool label)
    ⟨State.init capacityBytes 0, fun _ => .idle⟩ creation (0, .clock 0) labels

/-- Such a run creates the upload and follows the plan. -/
private theorem paths_of_uploadRun
    {options : CoordinatorOptions}
    {plan : Plan}
    {capacityBytes : Nat}
    {allows : Pool State Frame → Nat × Input → Bool}
    {labels : List (Nat × Input)}
    {result : Pool State Frame × Pool State Frame × Pool State Frame}
    (executed : uploadRun options plan capacityBytes allows labels =
      some result)
    (threads : ∀ label ∈ creation ++ (0, .clock 0) :: labels, label.1 < 4)
    (capacity : result.1.shared.backend.data.capacityBytes < sizeLimit)
    (creating : result.1.threads 0 =
      .targeted ⟨"b", "k", none, "http", ""⟩ (mpuId 1 0))
    (upload : plan.upload = result.1.shared.store.allocated)
    (fresh : plan.fresh = result.2.1.shared.store.objects plan.upload) :
    plan.Created options result.2.1 ∧
      (machine options).Path (fun pool label =>
          plan.Follows pool label ∧ allows pool label = true)
        result.2.1 labels result.2.2 := by
  have stronger : ∀ (pool : Pool State Frame) (label : Nat × Input),
      pool.RestAt 4 .idle →
      (follows plan pool label && allows pool label) = true →
        plan.Follows pool label ∧ allows pool label = true := by
    intro pool label _ holds
    rw [Bool.and_eq_true] at holds
    exact ⟨follows_of_follows plan pool label holds.1, holds.2⟩
  obtain ⟨before, _, stepped, path, _⟩ :=
    Pool.path_of_runAround_below 4 .idle rfl stronger (fun _ _ => rfl)
      threads executed
  exact ⟨⟨result.1, 0, _, _, 0, ⟨_, _, ⟨capacityBytes, 0, rfl⟩,
    before.mono fun _ _ holds => holds.1.moderate⟩, capacity, creating,
    stepped, upload, fresh⟩, path⟩

/-- No other call is refused in a step. -/
private def granted
    (options : CoordinatorOptions)
    (plan : Plan)
    (pool : Pool State Frame)
    (label : Nat × Input) : Bool :=
  match (machine options).step pool label with
  | some later => plan.owns label.1 || !(later.threads label.1).refused
  | none => true

private theorem granted_of_granted
    {options : CoordinatorOptions}
    {plan : Plan}
    {pool : Pool State Frame}
    {label : Nat × Input}
    (holds : granted options plan pool label = true) :
    Granted options plan pool label := by
  intro other later stepped
  simpa [granted, stepped, other] using holds

/-- Two parts, uploaded by two threads. -/
private def twoParts : Plan :=
  ⟨0, firstUpload, 2, fun number => if number = 1 then [7] else [8, 9],
    fun number => if number = 1 then 1 else 3⟩

/-- The parts are uploaded in the wrong order, with a write in between. -/
private def twoPartsLabels : List (Nat × Input) :=
  (3, .call (.uploadPart (mpuId 1 0) ⟨2, 0, [8, 9]⟩)) ::
  (1, .call (.uploadPart (mpuId 1 0) ⟨1, 0, [7]⟩)) :: clockSteps 3 2 ++
  (2, .call (.writeRange "b" "other" 0 [5] none)) :: clockSteps 1 2 ++
  clockSteps 2 1

private def twoPartsRun :
    Option (Pool State Frame × Pool State Frame × Pool State Frame) :=
  uploadRun ⟨0, 1⟩ twoParts 10 (granted ⟨0, 1⟩ twoParts) twoPartsLabels

private theorem twoPartsRun_isSome : twoPartsRun.isSome = true := by decide

theorem refinesConcatenation_two_parts :
    ∃ (finish : Pool State Frame) (result : Result ObjectMetadata × State),
      result = finish.shared.completeUpload ⟨0, 1⟩
        ⟨mpuId 1 0, [⟨2, makePartEtag 2 2 0⟩, ⟨1, makePartEtag 1 1 0⟩],
          "http"⟩ 0 ∧
      result.1 = .ok (makeMeta 3 0) ∧
      result.2.backend.read "b" "k" 0 3 = .ok [7, 8, 9] ∧
      result.2.backend.data.mpu.lookup (mpuId 1 0) = none ∧
      ∃ alone : Pool State Frame,
        result.2.backend.data.bodies.lookup (makeKey "b" "other") =
          alone.shared.backend.data.bodies.lookup (makeKey "b" "other") := by
  obtain ⟨created, path⟩ := paths_of_uploadRun
    (Option.some_get twoPartsRun_isSome).symm (by decide) (by decide)
    (by decide) (by decide) (by decide)
  have uploaded : twoParts.Uploaded ⟨0, 1⟩ _ twoPartsLabels
      (twoPartsRun.get twoPartsRun_isSome).2.2
      [⟨2, makePartEtag 2 2 0⟩, ⟨1, makePartEtag 1 1 0⟩] :=
    { created
      positive := by decide
      numbered := by decide
      idle := by decide
      path := path.mono fun _ _ holds => holds.1
      uploaded := ⟨fun number =>
          if number = 1 then makePartEtag 1 1 0 else makePartEtag 2 2 0,
        by decide, by decide⟩
      large := by decide }
  obtain ⟨assembled, others⟩ :=
    refinesConcatenation_of_granted ⟨0, 1⟩ twoParts _ _ _ _ 0 uploaded
  obtain ⟨alone, _, agrees⟩ :=
    others (path.mono fun _ _ holds => granted_of_granted holds.2)
  exact ⟨_, _, rfl, assembled.succeeds, assembled.read 3 (by decide),
    assembled.unstaged, alone, agrees.bodies _ (by decide)⟩

/-- One part of one byte. -/
private def onePart : Plan :=
  ⟨0, firstUpload, 1, fun _ => [7], fun _ => 1⟩

/-- The part takes the byte that another object asks for. -/
private def outgrownLabels : List (Nat × Input) :=
  (1, .call (.uploadPart (mpuId 1 0) ⟨1, 0, [7]⟩)) :: clockSteps 1 2 ++
  [(2, .call (.writeRange "b" "other" 0 [9] none))]

private def outgrown :
    Option (Pool State Frame × Pool State Frame × Pool State Frame) :=
  uploadRun ⟨0, 0⟩ onePart 1 (fun _ _ => true) outgrownLabels

private theorem outgrown_isSome : outgrown.isSome = true := by decide

/-- Alone, the write would have succeeded. -/
theorem write_refused_while_staged :
    ¬RefinesConcatenation ⟨0, 0⟩ (fun _ => Machine.always) := by
  intro claimed
  obtain ⟨created, path⟩ := paths_of_uploadRun
    (Option.some_get outgrown_isSome).symm (by decide) (by decide)
    (by decide) (by decide) (by decide)
  have uploaded : onePart.Uploaded ⟨0, 0⟩ _ outgrownLabels
      (outgrown.get outgrown_isSome).2.2 [⟨1, makePartEtag 1 1 0⟩] :=
    { created
      positive := by decide
      numbered := by decide
      idle := by decide
      path := path.mono fun _ _ holds => holds.1
      uploaded := ⟨fun _ => makePartEtag 1 1 0, by decide, by decide⟩
      large := by decide }
  obtain ⟨_, others⟩ := claimed onePart _ _ _ _ 0 uploaded
  obtain ⟨alone, alonePath, agrees⟩ :=
    others (path.mono fun _ _ _ => trivial)
  have written : ((machine ⟨0, 0⟩).run Machine.always
      (outgrown.get outgrown_isSome).2.1
      (outgrownLabels.filter onePart.elsewhere)).map (fun pool =>
        pool.shared.backend.data.body (makeKey "b" "other")) =
      some [9] := by decide
  rw [Machine.run_of_path alonePath] at written
  have refused : (((outgrown.get outgrown_isSome).2.2.shared.completeUpload
      ⟨0, 0⟩ (onePart.request [⟨1, makePartEtag 1 1 0⟩])
      0).2.backend.data.body (makeKey "b" "other")) = [] := by decide
  unfold MemoryDataStore.body at written refused
  rw [agrees.bodies _ (by decide)] at refused
  rw [Option.map_some, refused] at written
  cases written

end Multipart
end Gateway
end TurboAccess

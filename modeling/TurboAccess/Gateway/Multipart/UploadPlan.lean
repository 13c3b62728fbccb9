import TurboAccess.Gateway.Multipart.Opened
import TurboAccess.Gateway.Multipart.Staged
import TurboAccess.Gateway.Multipart.WithoutUpload

/-!
# Uploading the parts of an upload

An upload is created and its parts are uploaded, in any order and at the same
time as each other and as calls that have nothing to do with the upload.  As
long as they go on, the upload stays open, what its threads have written is
staged and recorded, and the other calls do what they would do without it.
-/

namespace TurboAccess
namespace Gateway
namespace Multipart

/-! ## The run -/

/-- An upload, what it was when it was created, its parts, and the thread that
uploads each part. -/
structure Plan where
  upload : UploadPtr
  fresh : MultipartUpload
  count : Nat
  piece : Nat → Bytes
  writer : Nat → Nat

namespace Plan

/-- The threads that upload parts. -/
def owns (plan : Plan) (thread : Nat) : Bool :=
  (List.range' 1 plan.count).any fun number =>
    decide (plan.writer number = thread)

/-- A part written whole. -/
def part (plan : Plan) (number : Nat) : PartWrite :=
  ⟨number, 0, plan.piece number⟩

/-- The concatenation of the parts. -/
def content (plan : Plan) : Bytes :=
  (List.range' 1 plan.count).flatMap plan.piece

/-- The completion of the upload with a list of parts. -/
def request (plan : Plan) (parts : List PartRecord) : CompleteRequest :=
  ⟨plan.fresh.uploadId, parts, plan.fresh.dataFlow⟩

/-- The destination of the upload. -/
def destination (plan : Plan) : String :=
  makeKey plan.fresh.bucket plan.fresh.objectKey

/-- Inputs of calls that have nothing to do with the upload. -/
def elsewhere (plan : Plan) (label : Nat × Input) : Bool :=
  !plan.owns label.1 && !label.2.mentions plan.fresh.uploadId

/-- A step of a part upload, or of a call on other uploads and objects.  The
sweeper may look at the upload as long as it has not expired. -/
structure Follows
    (plan : Plan)
    (pool : Pool State Frame)
    (label : Nat × Input) : Prop where
  moderate : Moderate pool label
  own : ∀ number ∈ List.range' 1 plan.count, plan.writer number = label.1 →
    ∀ call, label.2 = .call call →
      call = .uploadPart plan.fresh.uploadId (plan.part number)
  others : plan.owns label.1 = false → ∀ call, label.2 = .call call →
    label.2.mentions plan.fresh.uploadId = false
  live : label.2 = .visit plan.fresh.uploadId → ∀ now expired,
    pool.threads label.1 = .scanning now expired →
      ¬pool.shared.store.ttl <
        now - (pool.shared.store.objects plan.upload).lastActivityAt

/-- A gateway in which the upload has just been created. -/
def Created
    (options : CoordinatorOptions)
    (plan : Plan)
    (start : Pool State Frame) : Prop :=
  ∃ before creator params backendId now,
    (machine options).Reachable Moderate before ∧
      before.shared.backend.data.capacityBytes < sizeLimit ∧
      before.threads creator = .targeted params backendId ∧
      (machine options).step before (creator, .clock now) = some start ∧
      plan.upload = before.shared.store.allocated ∧
      plan.fresh = start.shared.store.objects plan.upload

end Plan

/-- No other call is refused for want of capacity. -/
def Granted
    (options : CoordinatorOptions)
    (plan : Plan)
    (pool : Pool State Frame)
    (label : Nat × Input) : Prop :=
  plan.owns label.1 = false → ∀ later,
    (machine options).step pool label = some later →
      (later.threads label.1).refused = false

/-! ## The invariant -/

namespace Plan

/-- How far the upload of one part has got. -/
def PartGoing (plan : Plan) (state : State) (number : Nat) : Frame → Prop
  | .idle => stagedPart state plan.upload number = none
  | .partFound upload part =>
      upload = plan.upload ∧ part = plan.part number ∧
        stagedPart state plan.upload number = none
  | .partWritten upload part etag =>
      upload = plan.upload ∧ part = plan.part number ∧ etag ≠ "" ∧
        stagedPart state plan.upload number = some (plan.piece number)
  | .finished (.partUploaded upload part etag) =>
      upload = plan.upload ∧ part = plan.part number ∧ etag ≠ "" ∧
        stagedPart state plan.upload number = some (plan.piece number) ∧
        (state.store.objects plan.upload).parts.lookup number =
          some ⟨number, 0, (plan.piece number).length, etag⟩
  | .finished (.failed _) => True
  | _ => False

/-- What the gateway knows about the upload. -/
structure Open (plan : Plan) (state : State) : Prop where
  known : Known state plan.upload plan.fresh
  dataFlow : (state.store.objects plan.upload).dataFlow = plan.fresh.dataFlow
  active : (state.store.objects plan.upload).state = .active
  registered : state.store.byId.lookup plan.fresh.uploadId = some plan.upload
  record : state.backend.index.mpu.lookup plan.fresh.backendUploadId ≠ none
  target : state.backend.mpuTargets.lookup plan.fresh.backendUploadId =
    some (plan.fresh.bucket, plan.fresh.objectKey)

/-- The upload is open, other calls do not know it, and the part uploads are on
their way. -/
structure Going (plan : Plan) (pool : Pool State Frame) : Prop where
  isOpen : plan.Open pool.shared
  absent : ∀ thread, plan.owns thread = false →
    plan.upload ∉ (pool.threads thread).uploads
  parts : ∀ number ∈ List.range' 1 plan.count,
    plan.PartGoing pool.shared number (pool.threads (plan.writer number))

theorem owns_writer
    (plan : Plan)
    {number : Nat}
    (member : number ∈ List.range' 1 plan.count) :
    plan.owns (plan.writer number) = true := by
  unfold owns
  rw [List.any_eq_true]
  exact ⟨number, member, by simp⟩

theorem writer_of_owns
    {plan : Plan}
    {thread : Nat}
    (own : plan.owns thread = true) :
    ∃ number ∈ List.range' 1 plan.count, plan.writer number = thread := by
  unfold owns at own
  rw [List.any_eq_true] at own
  obtain ⟨number, member, writes⟩ := own
  exact ⟨number, member, by simpa using writes⟩

end Plan

variable
  {options : CoordinatorOptions}
  {state next : State}
  {before after : Frame}
  {plan : Plan}

/-! ## Steps of other calls -/

/-- A frame gets to know an upload under an identifier that the input names. -/
private theorem mem_uploads_of_advance
    {input : Input}
    {upload : UploadPtr}
    (moved : advance options state before input = some (next, after))
    (mentions : upload ∈ after.uploads) :
    upload ∈ before.uploads ∨
      ∃ uploadId, input.mentions uploadId = true ∧
        state.store.byId.lookup uploadId = some upload := by
  revert moved
  fun_cases advance options state before input
  all_goals
    intro moved
    simp only [Option.some.injEq, Prod.mk.injEq, reduceCtorEq] at moved
  case case1 call =>
    right
    have frame : after = (accept state call).2 := by rw [moved]
    subst frame
    exact uploads_accept mentions
  case case9 =>
    left
    have frame := congrArg Prod.snd moved
    dsimp only at frame
    subst frame
    rw [uploads_advanceCompletion mentions]
    simp [Frame.uploads]
  case case12 mover origin stage now =>
    left
    have frame := congrArg Prod.snd moved
    dsimp only at frame
    subst frame
    revert mentions
    fun_cases advanceAbort state mover origin stage <;>
      cases origin <;>
      simp only [Frame.uploads, List.mem_cons, List.mem_append,
        List.not_mem_nil, or_false] <;> tauto
  all_goals obtain ⟨rfl, rfl⟩ := moved
  case case14 now expired uploadId found store examined =>
    rcases sweepOne_cases state.store now uploadId with
      kept | ⟨swept, registered, dropped⟩
    · rw [kept] at examined
      cases examined
      exact .inl (by simpa [Frame.uploads] using mentions)
    · rw [dropped] at examined
      cases examined
      simp only [Frame.uploads, Option.toList_some, List.mem_append,
        List.mem_singleton] at mentions
      rcases mentions with known | rfl
      · exact .inl known
      · exact .inr ⟨uploadId, by simp [Input.mentions], registered⟩
  all_goals
    left
    simp only [Frame.uploads, List.mem_append, List.mem_cons,
      List.not_mem_nil, or_false] at mentions ⊢
  all_goals tauto

/-- Nothing that belongs to the upload has changed. -/
structure Plan.Untouched (plan : Plan) (state next : State) : Prop where
  object : next.store.objects plan.upload = state.store.objects plan.upload
  entry : next.store.byId.lookup plan.fresh.uploadId =
    state.store.byId.lookup plan.fresh.uploadId
  record : state.backend.index.mpu.lookup plan.fresh.backendUploadId ≠ none →
    next.backend.index.mpu.lookup plan.fresh.backendUploadId ≠ none
  target : next.backend.mpuTargets.lookup plan.fresh.backendUploadId =
    state.backend.mpuTargets.lookup plan.fresh.backendUploadId
  staging : next.backend.data.mpu.lookup plan.fresh.backendUploadId =
    state.backend.data.mpu.lookup plan.fresh.backendUploadId

/-- A frame that knows the upload neither before nor after a section leaves it
alone. -/
private theorem untouched_of_moves
    (isOpen : plan.Open state)
    (identified : Identified state)
    (frame : FrameIdentified state before)
    (absent : plan.upload ∉ before.uploads)
    (absentAfter : plan.upload ∉ after.uploads)
    (moves : Moves options state before next after) :
    plan.Untouched state next := by
  obtain ⟨allocated, uploadId, backendId⟩ := isOpen.known
  -- whoever owns an entry of the upload is the upload, which the frame does
  -- not know
  have stranger : ∀ mover ∈ before.uploads,
      state.backendId mover ≠ plan.fresh.backendUploadId := by
    intro mover member same
    rw [← backendId] at same
    exact absent (identified.backendInjective mover plan.upload
      (frame.bound mover member) allocated same ▸ member)
  have unregistered : ∀ mover ∈ before.uploads,
      (state.store.objects mover).uploadId ≠ plan.fresh.uploadId := by
    intro mover member same
    rw [← uploadId] at same
    exact absent (identified.uploadInjective mover plan.upload
      (frame.bound mover member) allocated same ▸ member)
  refine ⟨?_, ?_, ?_, ?_, ?_⟩
  · have change := moves.uploadChange allocated
    generalize next.store.objects plan.upload = changed at change
    cases change with
    | unchanged => rfl
    | registered | claimed | rolledBack | completed =>
        simp [Frame.uploads] at absent
    | aborted origin marks =>
        cases origin <;> simp [Frame.uploads] at absentAfter
  · have change := moves.registryChange plan.fresh.uploadId
    generalize next.store.byId.lookup plan.fresh.uploadId = entry at change
    cases change with
    | unchanged => rfl
    | created params backendId now fresh =>
        rw [← uploadId] at fresh
        exact absurd fresh
          (identified.uploadIssued plan.upload allocated).ne_next
    | completed mover request metadata owns =>
        exact absurd owns (unregistered mover (by simp [Frame.uploads]))
    | aborted mover owns =>
        exact absurd owns (unregistered mover (by simp [Frame.uploads]))
    | expired now expired swept found =>
        rw [isOpen.registered] at found
        cases found
        simp [Frame.uploads] at absentAfter
  · intro present
    have change := moves.recordChange plan.fresh.backendUploadId
    generalize next.backend.index.mpu.lookup plan.fresh.backendUploadId =
      record at change
    cases change with
    | unchanged => exact present
    | opened => simp
    | taken mover request bucket object size now owns =>
        exact absurd owns (stranger mover (by simp [Frame.uploads]))
    | aborted mover origin owns =>
        exact absurd owns
          (stranger mover (by cases origin <;> simp [Frame.uploads]))
  · have change := moves.targetChange plan.fresh.backendUploadId
    generalize next.backend.mpuTargets.lookup plan.fresh.backendUploadId =
      target at change
    cases change with
    | unchanged => rfl
    | added params =>
        exact absurd backendId
          (frame.openingFresh _ rfl plan.upload allocated)
    | completed mover request metadata owns =>
        exact absurd owns (stranger mover (by simp [Frame.uploads]))
    | aborted mover origin owns =>
        exact absurd owns
          (stranger mover (by cases origin <;> simp [Frame.uploads]))
  · have change := moves.stagingChange plan.fresh.backendUploadId
    generalize next.backend.data.mpu.lookup plan.fresh.backendUploadId =
      staging at change
    cases change with
    | unchanged => rfl
    | written mover part now reply owns succeeded =>
        exact absurd owns (stranger mover (by simp [Frame.uploads]))
    | refused mover part error owns failed =>
        exact absurd owns (stranger mover (by simp [Frame.uploads]))
    | detached mover request bucket object staging owns found =>
        exact absurd owns (stranger mover (by simp [Frame.uploads]))
    | aborted mover origin owns =>
        exact absurd owns
          (stranger mover (by cases origin <;> simp [Frame.uploads]))

namespace Plan

/-- An upload that nobody has touched is still open. -/
theorem Open.of_untouched
    (isOpen : plan.Open state)
    (untouched : plan.Untouched state next)
    (allocated : state.store.allocated ≤ next.store.allocated) :
    plan.Open next where
  known :=
    { allocated := Nat.lt_of_lt_of_le isOpen.known.allocated allocated
      uploadId := by rw [untouched.object]; exact isOpen.known.uploadId
      backendId := by
        rw [State.backendId, untouched.object]
        exact isOpen.known.backendId }
  dataFlow := by rw [untouched.object]; exact isOpen.dataFlow
  active := by rw [untouched.object]; exact isOpen.active
  registered := by rw [untouched.entry]; exact isOpen.registered
  record := untouched.record isOpen.record
  target := by rw [untouched.target]; exact isOpen.target

/-- The parts of an upload that nobody has touched are where they were. -/
theorem Untouched.stagedPart_eq
    (untouched : plan.Untouched state next)
    (isOpen : plan.Open state)
    (number : Nat) :
    stagedPart next plan.upload number =
      stagedPart state plan.upload number := by
  have key : next.backendId plan.upload = state.backendId plan.upload := by
    rw [State.backendId, untouched.object]
    rfl
  rw [stagedPart, stagedPart, key, isOpen.known.backendId, untouched.staging]

/-- A part upload is where it was when its part is staged and recorded as it
was. -/
theorem PartGoing.congr
    {number : Nat}
    {frame : Frame}
    (going : plan.PartGoing state number frame)
    (staged : stagedPart next plan.upload number =
      stagedPart state plan.upload number)
    (recorded : (next.store.objects plan.upload).parts.lookup number =
      (state.store.objects plan.upload).parts.lookup number) :
    plan.PartGoing next number frame := by
  revert going
  fun_cases PartGoing plan state number frame <;>
    simp_all [PartGoing]

end Plan

/-! ## Steps of the part uploads -/

/-- The sections of the upload of one part. -/
inductive Plan.OwnStep (plan : Plan) (state : State) (number : Nat) :
    Frame → State → Frame → Prop
  | found :
      plan.OwnStep state number .idle state
        (.partFound plan.upload (plan.part number))
  | refused (error : Error)
      (failed : (writePart state plan.upload (plan.part number)).1 =
        .error error) :
      plan.OwnStep state number (.partFound plan.upload (plan.part number))
        (state.withData (writePart state plan.upload (plan.part number)).2)
        (.finished (.failed error))
  | written (etag : String) (named : etag ≠ "") (reply : Bool)
      (succeeded : (writePart state plan.upload (plan.part number)).1 =
        .ok reply) :
      plan.OwnStep state number (.partFound plan.upload (plan.part number))
        (state.withData (writePart state plan.upload (plan.part number)).2)
        (.partWritten plan.upload (plan.part number) etag)
  | registered (etag : String) (now : Nat) :
      plan.OwnStep state number
        (.partWritten plan.upload (plan.part number) etag)
        (state.registerPart plan.upload number 0 (plan.piece number).length
          etag now)
        (.finished (.partUploaded plan.upload (plan.part number) etag))

/-- The part that a frame uploads. -/
def Frame.handles : Frame → Option PartWrite
  | .partFound _ part => some part
  | .partWritten _ part _ => some part
  | _ => none

/-- A part upload knows its part from its first section on. -/
theorem Plan.OwnStep.handles
    {number : Nat}
    (step : plan.OwnStep state number before next after) :
    before.handles = some (plan.part number) ∨
      before = .idle ∧ after.handles = some (plan.part number) := by
  cases step with
  | found => exact .inr ⟨rfl, rfl⟩
  | refused | written | registered => exact .inl rfl

/-- A step of the thread that uploads a part is one of its sections. -/
private theorem ownStep_of_advance
    {input : Input}
    {number : Nat}
    (isOpen : plan.Open state)
    (going : plan.PartGoing state number before)
    (calls : ∀ call, input = .call call →
      call = .uploadPart plan.fresh.uploadId (plan.part number))
    (moved : advance options state before input = some (next, after)) :
    plan.OwnStep state number before next after := by
  have moves := moves_of_advance moved
  revert going
  fun_cases Plan.PartGoing plan state number before
  case case1 =>
    intro _
    obtain ⟨call, input, accepted⟩ := advance_idle moved
    rw [calls call input] at accepted
    rw [accept, State.lookup, MultipartStore.find] at accepted
    rw [isOpen.registered] at accepted
    cases accepted
    exact .found
  case case2 upload part =>
    rintro ⟨rfl, rfl, _⟩
    cases moves with
    | refusePart _ _ error failed => exact .refused error failed
    | writePart _ _ now reply succeeded =>
        exact .written _ (makePartEtag_ne_empty _ _ _) reply succeeded
  case case3 upload part etag =>
    rintro ⟨rfl, rfl, _⟩
    cases moves with
    | registerPart _ _ _ now => exact .registered etag now
  case case4 =>
    intro _
    cases moves
  case case5 =>
    intro _
    cases moves
  case case6 => exact False.elim

namespace Plan

/-- The part upload moves on, and leaves the other parts and the upload itself
alone. -/
structure OwnMoved
    (plan : Plan)
    (number : Nat)
    (state next : State)
    (after : Frame) : Prop where
  isOpen : plan.Open next
  going : plan.PartGoing next number after
  staged : ∀ other, other ≠ number →
    stagedPart next plan.upload other = stagedPart state plan.upload other
  recorded : ∀ other, other ≠ number →
    (next.store.objects plan.upload).parts.lookup other =
      (state.store.objects plan.upload).parts.lookup other
  alone : next.withoutUpload plan.upload plan.fresh =
    state.withoutUpload plan.upload plan.fresh

/-- The data store does not know whether an upload is open. -/
theorem Open.withData
    (isOpen : plan.Open state)
    (data : MemoryDataStore) :
    plan.Open (state.withData data) :=
  ⟨⟨isOpen.known.allocated, isOpen.known.uploadId, isOpen.known.backendId⟩,
    isOpen.dataFlow, isOpen.active, isOpen.registered, isOpen.record,
    isOpen.target⟩

/-- Recording a part leaves the upload open. -/
theorem Open.registerPart
    (isOpen : plan.Open state)
    (number offset size now : Nat)
    (etag : String) :
    plan.Open
      (state.registerPart plan.upload number offset size etag now) where
  known :=
    { allocated := isOpen.known.allocated
      uploadId := by
        rw [objects_registerPart]
        exact isOpen.known.uploadId
      backendId := by
        rw [State.backendId, objects_registerPart]
        exact isOpen.known.backendId }
  dataFlow := by
    rw [objects_registerPart]
    exact isOpen.dataFlow
  active := by
    rw [objects_registerPart]
    exact isOpen.active
  registered := isOpen.registered
  record := isOpen.record
  target := isOpen.target

/-- A write of the part, accepted or refused, cannot be seen without the
upload. -/
private theorem withoutUpload_writePart
    {held number : Nat}
    (isOpen : plan.Open state)
    (accounts : state.backend.data.Accounts held)
    (capacity : state.backend.data.capacityBytes < sizeLimit)
    (short : (plan.piece number).length < sizeLimit) :
    (state.withData (writePart state plan.upload
        (plan.part number)).2).withoutUpload plan.upload plan.fresh =
      state.withoutUpload plan.upload plan.fresh := by
  have within := accounts.within
  have limit : sizeLimit + sizeLimit + sizeLimit < wordModulus := by decide
  have hidden : (state.backend.data.writePart plan.fresh.backendUploadId
      number 0 (plan.piece number)).2.withoutStaging
        plan.fresh.backendUploadId =
      state.backend.data.withoutStaging plan.fresh.backendUploadId :=
    MemoryDataStore.withoutStaging_writePart accounts (by omega) (by omega)
  unfold writePart State.withoutUpload State.withData
  rw [isOpen.known.backendId]
  dsimp only [part]
  rw [hidden]

/-- What the sections of a part upload do. -/
theorem OwnStep.moved
    {held number : Nat}
    (step : plan.OwnStep state number before next after)
    (isOpen : plan.Open state)
    (going : plan.PartGoing state number before)
    (accounts : state.backend.data.Accounts held)
    (capacity : state.backend.data.capacityBytes < sizeLimit)
    (sized : FrameSized before) :
    plan.OwnMoved number state next after := by
  cases step with
  | found =>
      exact ⟨isOpen, ⟨rfl, rfl, going⟩, fun _ _ => rfl, fun _ _ => rfl, rfl⟩
  | refused error failed =>
      refine ⟨isOpen.withData _, trivial, ?_, fun _ _ => rfl,
        withoutUpload_writePart isOpen accounts capacity sized.2⟩
      intro other different
      rw [stagedPart_refused failed]
      exact if_neg different
  | written etag named reply succeeded =>
      obtain ⟨_, _, unstaged⟩ := going
      have limit : sizeLimit < wordModulus := by decide
      have short : (plan.piece number).length < sizeLimit := sized.2
      have covers : Covers state
          (.partFound plan.upload (plan.part number)) := by
        intro upload part found
        cases found
        refine ⟨rfl, Nat.lt_trans short limit, ?_⟩
        dsimp only [part]
        rw [unstaged]
        exact Nat.zero_le _
      refine ⟨isOpen.withData _, ⟨rfl, rfl, named, ?_⟩, ?_, fun _ _ => rfl,
        withoutUpload_writePart isOpen accounts capacity short⟩
      · rw [stagedPart_written covers succeeded]
        exact if_pos rfl
      · intro other different
        rw [stagedPart_written covers succeeded]
        exact if_neg different
  | registered etag now =>
      obtain ⟨_, _, named, staged⟩ := going
      refine ⟨isOpen.registerPart _ _ _ _ _, ⟨rfl, rfl, named, ?_, ?_⟩, ?_, ?_,
        ?_⟩
      · rw [stagedPart_registerPart]
        exact staged
      · rw [objects_registerPart]
        simp
      · intro other _
        rw [stagedPart_registerPart]
      · intro other different
        rw [objects_registerPart]
        simp [different]
      · unfold State.registerPart State.withoutUpload MultipartStore.modify
        dsimp only
        rw [Function.update_idem]

end Plan

/-! ## Steps of the gateway -/

namespace Plan

/-- The gateway in which the parts were never uploaded. -/
def alone (plan : Plan) (pool : Pool State Frame) : Pool State Frame where
  shared := pool.shared.withoutUpload plan.upload plan.fresh
  threads := fun thread =>
    if plan.owns thread then .idle else pool.threads thread

section Steps

variable
  {pool : Pool State Frame}
  {label : Nat × Input}

/-- A step of a part upload. -/
private theorem Going.own
    (going : plan.Going pool)
    (balanced : Balanced pool)
    (follows : plan.Follows pool label)
    (own : plan.owns label.1 = true)
    (moved : advance options pool.shared (pool.threads label.1) label.2 =
      some (next, after)) :
    plan.Going ⟨next, Function.update pool.threads label.1 after⟩ ∧
      plan.alone ⟨next, Function.update pool.threads label.1 after⟩ =
        plan.alone pool := by
  obtain ⟨number, member, writes⟩ := writer_of_owns own
  obtain ⟨⟨total, _, accounts⟩, sized⟩ := balanced
  have progress := going.parts number member
  rw [writes] at progress
  have step := ownStep_of_advance going.isOpen progress
    (follows.own number member writes) moved
  have ownMoved := step.moved going.isOpen progress accounts
    follows.moderate.capacity (sized label.1)
  -- the thread uploads one part only
  have single : ∀ other ∈ List.range' 1 plan.count,
      plan.writer other = label.1 → other = number := by
    intro other otherMember otherWrites
    have otherProgress := going.parts other otherMember
    rw [otherWrites] at otherProgress
    have otherStep := ownStep_of_advance going.isOpen otherProgress
      (follows.own other otherMember otherWrites) moved
    have same : plan.part other = plan.part number := by
      rcases step.handles with found | ⟨idle, accepted⟩ <;>
        rcases otherStep.handles with otherFound | ⟨otherIdle, otherAccepted⟩
      · exact Option.some.inj (otherFound.symm.trans found)
      · rw [otherIdle] at found
        cases found
      · rw [idle] at otherFound
        cases otherFound
      · exact Option.some.inj (otherAccepted.symm.trans accepted)
    exact congrArg PartWrite.partNumber same
  refine ⟨⟨ownMoved.isOpen, ?_, ?_⟩, ?_⟩
  · intro thread other
    have different : thread ≠ label.1 := by
      rintro rfl
      rw [own] at other
      cases other
    dsimp only
    rw [Function.update_of_ne different]
    exact going.absent thread other
  · intro other otherMember
    dsimp only
    by_cases same : other = number
    · subst same
      rw [writes, Function.update_self]
      exact ownMoved.going
    · have different : plan.writer other ≠ label.1 := fun otherWrites =>
        same (single other otherMember otherWrites)
      rw [Function.update_of_ne different]
      exact (going.parts other otherMember).congr (ownMoved.staged other same)
        (ownMoved.recorded other same)
  · unfold alone
    dsimp only
    rw [ownMoved.alone]
    congr 1
    funext thread
    by_cases moving : thread = label.1
    · subst moving
      simp [own]
    · rw [Function.update_of_ne moving]

/-- A sweeper's look at the upload, which has not expired. -/
private theorem Going.visit
    (going : plan.Going pool)
    (follows : plan.Follows pool label)
    (visits : label.2 = .visit plan.fresh.uploadId)
    (moved : advance options pool.shared (pool.threads label.1) label.2 =
      some (next, after)) :
    next = pool.shared ∧ after = pool.threads label.1 := by
  have live := follows.live visits
  rw [visits] at moved
  cases frame : pool.threads label.1 with
  | scanning now expired =>
      rw [frame] at moved
      have kept : pool.shared.store.sweepOne now plan.fresh.uploadId =
          (none, pool.shared.store) := by
        unfold MultipartStore.sweepOne
        rw [going.isOpen.registered]
        exact if_neg (live now expired frame)
      simp only [advance, kept, Option.toList_none, List.append_nil,
        Option.some.injEq, Prod.mk.injEq] at moved
      exact ⟨moved.1.symm, moved.2.symm⟩
  | idle | started | targeted | partFound | partWritten | completeFound
  | completing | abortFound | aborting | unregistering | sweeping | storing
  | finished =>
      rw [frame] at moved
      simp [advance] at moved

/-- A step of a call that has nothing to do with the upload. -/
private theorem Going.elsewhere
    (going : plan.Going pool)
    (identified : PoolIdentified pool)
    (balanced : Balanced pool)
    (follows : plan.Follows pool label)
    (other : plan.owns label.1 = false)
    (unnamed : label.2.mentions plan.fresh.uploadId = false)
    (moved : advance options pool.shared (pool.threads label.1) label.2 =
      some (next, after)) :
    plan.Going ⟨next, Function.update pool.threads label.1 after⟩ ∧
      (after.refused = false →
        (machine options).step (plan.alone pool) label =
          some (plan.alone
            ⟨next, Function.update pool.threads label.1 after⟩)) := by
  obtain ⟨⟨total, holding, accounts⟩, sized⟩ := balanced
  obtain ⟨rest, rfl, _⟩ := holding.split label.1
  have absent := going.absent label.1 other
  have moves := moves_of_advance moved
  have absentAfter : plan.upload ∉ after.uploads := by
    intro mentions
    rcases mem_uploads_of_advance moved mentions with
      known | ⟨uploadId, named, found⟩
    · exact absent known
    · have same := (identified.shared.registered uploadId plan.upload found).2
      rw [going.isOpen.known.uploadId] at same
      rw [← same, unnamed] at named
      cases named
  have untouched := untouched_of_moves going.isOpen identified.shared
    (identified.thread label.1) absent absentAfter moves
  have mine : ∀ number ∈ List.range' 1 plan.count,
      plan.writer number ≠ label.1 := by
    intro number member writes
    rw [← writes, plan.owns_writer member] at other
    cases other
  refine ⟨⟨going.isOpen.of_untouched untouched moves.allocated_le, ?_, ?_⟩,
    ?_⟩
  · apply (Function.forall_update_iff _ fun thread (frame : Frame) =>
      plan.owns thread = false → plan.upload ∉ frame.uploads).mpr
    exact ⟨fun _ => absentAfter, fun thread _ => going.absent thread⟩
  · intro number member
    dsimp only
    rw [Function.update_of_ne (mine number member)]
    exact (going.parts number member).congr
      (untouched.stagedPart_eq going.isOpen number)
      (by rw [untouched.object])
  · intro granted
    have step := advance_withoutUpload going.isOpen.known identified.shared
      (identified.thread label.1) absent accounts follows.moderate.capacity
      (sized label.1) follows.moderate.call unnamed moved granted
    have frame : (plan.alone pool).threads label.1 = pool.threads label.1 := by
      simp [alone, other]
    change ((advance options (plan.alone pool).shared
      ((plan.alone pool).threads label.1) label.2).map _) = _
    rw [frame]
    unfold alone at *
    dsimp only at *
    rw [step]
    simp only [Option.map_some, Option.some.injEq, Pool.mk.injEq, true_and]
    funext thread
    by_cases moving : thread = label.1
    · subst moving
      simp [other]
    · simp [Function.update_of_ne moving]

/-- Any step of the run, and the step of the other calls alone. -/
private theorem Going.step
    {later : Pool State Frame}
    (going : plan.Going pool)
    (reachable : (machine options).Reachable Moderate pool)
    (follows : plan.Follows pool label)
    (stepped : (machine options).step pool label = some later) :
    plan.Going later ∧
      (Granted options plan pool label →
        if plan.elsewhere label = true then
          (machine options).step (plan.alone pool) label =
            some (plan.alone later)
        else plan.alone later = plan.alone pool) := by
  have identified := PoolIdentified.of_reachable reachable
  have balanced := Balanced.of_reachable (fun _ _ moderate => moderate)
    reachable
  obtain ⟨next, after, moved, rfl⟩ := Pool.step_eq_some stepped
  cases own : plan.owns label.1 with
  | true =>
      obtain ⟨still, unseen⟩ := going.own balanced follows own moved
      refine ⟨still, fun _ => ?_⟩
      rw [if_neg (by simp [Plan.elsewhere, own])]
      exact unseen
  | false =>
      cases named : label.2.mentions plan.fresh.uploadId with
      | false =>
          obtain ⟨still, alone⟩ := going.elsewhere identified balanced follows
            own named moved
          refine ⟨still, fun granted => ?_⟩
          rw [if_pos (by simp [Plan.elsewhere, own, named])]
          apply alone
          simpa using granted own _ stepped
      | true =>
          have visits : label.2 = .visit plan.fresh.uploadId := by
            cases input : label.2 with
            | call call =>
                rw [follows.others own call input] at named
                cases named
            | clock now => simp [input, Input.mentions] at named
            | visit uploadId =>
                simpa [input, Input.mentions] using named
          obtain ⟨rfl, rfl⟩ := going.visit follows visits moved
          rw [Function.update_eq_self]
          refine ⟨going, fun _ => ?_⟩
          rw [if_neg (by simp [Plan.elsewhere, named])]

/-- The upload is on its way in the whole run, and the other calls run
alone. -/
theorem Going.path
    {finish : Pool State Frame}
    {labels : List (Nat × Input)}
    (path : (machine options).Path plan.Follows pool labels finish)
    (going : plan.Going pool)
    (reachable : (machine options).Reachable Moderate pool) :
    plan.Going finish ∧ (machine options).Reachable Moderate finish ∧
      ((machine options).Path (Granted options plan) pool labels finish →
        (machine options).Path Machine.always (plan.alone pool)
          (labels.filter plan.elsewhere) (plan.alone finish)) := by
  induction path with
  | nil => exact ⟨going, reachable, fun _ => .nil⟩
  | @cons start _ _ label labels follows stepped _ inductionHypothesis =>
      obtain ⟨still, alone⟩ := going.step reachable follows stepped
      obtain ⟨goes, reached, rest⟩ := inductionHypothesis still
        (reachable.step follows.moderate stepped)
      refine ⟨goes, reached, ?_⟩
      intro granted
      cases granted with
      | cons allowed again others =>
          rw [stepped] at again
          cases again
          have first := alone allowed
          rw [List.filter_cons]
          split at first
          · next counts =>
              rw [if_pos counts]
              exact .cons trivial first (rest others)
          · next silent =>
              rw [if_neg silent, ← first]
              exact rest others

end Steps

/-- Before any part is uploaded the other calls are alone. -/
private theorem alone_eq_self
    {pool : Pool State Frame}
    (object : pool.shared.store.objects plan.upload = plan.fresh)
    (unstaged : pool.shared.backend.data.mpu.lookup
      plan.fresh.backendUploadId = none)
    (idle : ∀ number ∈ List.range' 1 plan.count,
      pool.threads (plan.writer number) = .idle) :
    plan.alone pool = pool := by
  have shared : pool.shared.withoutUpload plan.upload plan.fresh =
      pool.shared := by
    unfold State.withoutUpload
    rw [MemoryDataStore.withoutStaging_of_lookup_none unstaged, ← object,
      Function.update_eq_self]
  unfold alone
  rw [shared]
  congr 1
  funext thread
  split
  · next own =>
      obtain ⟨number, member, rfl⟩ := writer_of_owns own
      exact (idle number member).symm
  · rfl

/-- The upload is on its way when it has just been created. -/
theorem Created.going
    {start : Pool State Frame}
    (created : plan.Created options start)
    (idle : ∀ number ∈ List.range' 1 plan.count,
      start.threads (plan.writer number) = .idle) :
    plan.Going start ∧ (machine options).Reachable Moderate start ∧
      plan.alone start = start := by
  obtain ⟨before, creator, params, backendId, now, reachable, capacity, frame,
    stepped, upload, fresh⟩ := created
  have identified := PoolIdentified.of_reachable reachable
  have opened := (Opened.of_reachable reachable).frames creator
  have unregistered := identified.shared.lookup_next now
  have unstaged : before.shared.backend.data.mpu.lookup backendId = none :=
    identified.shared.lookup_opening (identified.thread creator)
      (by rw [frame]; rfl)
  have moderate : Moderate before (creator, .clock now) :=
    ⟨capacity, fun call isCall => by cases isCall⟩
  have reached := reachable.step moderate stepped
  obtain ⟨shared, after, moved, rfl⟩ := Pool.step_eq_some stepped
  dsimp only at moved fresh idle
  rw [frame] at moved opened
  simp only [advance, Option.some.injEq, Prod.mk.injEq] at moved
  obtain ⟨rfl, rfl⟩ := moved
  have object : plan.fresh = ⟨mpuId (before.shared.store.seq + 1) now,
      params.bucket, params.objectKey, params.dataFlow,
      params.expectedTotalSize, backendId, ∅, .active, now, now⟩ := by
    rw [fresh, upload]
    simp [MultipartStore.create]
  have owner : plan.fresh.backendUploadId = backendId := by rw [object]
  refine ⟨⟨⟨⟨?_, ?_, ?_⟩, ?_, ?_, ?_, ?_, ?_⟩, ?_, ?_⟩, reached, ?_⟩
  · rw [upload]
    exact Nat.lt_succ_self _
  · rw [← fresh]
  · rw [State.backendId, ← fresh]
  · rw [← fresh]
  · rw [← fresh, object]
  · rw [object, upload]
    simp [MultipartStore.create, Table.lookup_emplace_eq, unregistered]
  · rw [owner]
    exact opened.1
  · rw [owner, object]
    exact opened.2
  · intro thread _
    dsimp only
    by_cases moving : thread = creator
    · subst moving
      simp [Frame.uploads]
    · rw [Function.update_of_ne moving, upload]
      intro known
      exact Nat.lt_irrefl _ ((identified.thread thread).bound _ known)
  · intro number member
    dsimp only
    rw [idle number member]
    unfold PartGoing stagedPart State.backendId
    rw [← fresh, owner]
    exact congrArg (Option.bind · _) unstaged
  · refine alone_eq_self ?_ ?_ idle
    · exact fresh.symm
    · rw [owner]
      exact unstaged

end Plan

end Multipart
end Gateway
end TurboAccess

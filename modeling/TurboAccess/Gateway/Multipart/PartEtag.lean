import TurboAccess.Gateway.Multipart.Staged

/-!
# Entity tags of parts

A part upload writes its bytes in one section and records its tag in another,
and neither looks at the state of the upload.  Two uploads of one part can
write in one order and record in the other, and a write can come between the
snapshot of the recorded parts and the assembly; the completed object then
holds bytes that its tag does not name.

In the runs in which no two uploads of a part overlap between their write and
their record, no part is written while a completion is between its snapshot
and the assembly, and no completion takes its snapshot while a write is not yet
recorded, the bytes of every part are those of the write that returned its tag.
-/

namespace TurboAccess
namespace Gateway
namespace Multipart

namespace Frame

/-- A part write that has returned a tag. -/
def wrote : Frame → Option (UploadPtr × PartWrite × String)
  | .partWritten upload part etag => some (upload, part, etag)
  | .finished (.partUploaded upload part etag) => some (upload, part, etag)
  | _ => none

/-- The upload of a completion between its snapshot of the recorded parts and
the section that detaches the staging. -/
def assembling : Frame → Option UploadPtr
  | .completing upload _ (.claimed _) => some upload
  | .completing upload _ (.targeted _ _) => some upload
  | _ => none

end Frame

/-- A write of a part that returned a tag had these bytes. -/
def Returned
    (pool : Pool State Frame)
    (upload : UploadPtr)
    (partNumber : Nat)
    (etag : String)
    (bytes : Bytes) : Prop :=
  ∃ writer part, (pool.threads writer).wrote = some (upload, part, etag) ∧
    part.partNumber = partNumber ∧ part.source = bytes

/-! ## The property and its condition -/

/-- In the runs whose steps satisfy a guard, the body that a successful
completion installs is the concatenation of pieces, in the order of the part
numbers, and the piece of a part is what the write that returned its listed
tag wrote. -/
def TagsNameBytes
    (options : CoordinatorOptions)
    (guard : Pool State Frame → Nat × Input → Prop) : Prop :=
  ∀ pool installed finish completer now labels upload request bucket object
    total assembled metadata,
    (machine options).Reachable guard pool →
    pool.threads completer =
      .completing upload request (.released bucket object total assembled) →
    guard pool (completer, .clock now) →
    (machine options).step pool (completer, .clock now) = some installed →
    (machine options).Path guard installed labels finish →
    finish.threads completer = .finished (.completed upload metadata) →
    ∃ piece : Nat → Bytes,
      installed.shared.backend.data.bodies.lookup (makeKey bucket object) =
        some ((CompositeBackend.orderedNumbers request.parts).flatMap
          piece) ∧
      ∀ part ∈ request.parts,
        Returned finish upload part.partNumber part.etag
          (piece part.partNumber) ∧
        ∀ bytes, Returned finish upload part.partNumber part.etag bytes →
          bytes = piece part.partNumber

/-- Parts are written whole, and all writes of one part have one length. -/
def WholeParts
    (size : UploadPtr → Nat → Nat)
    (pool : Pool State Frame)
    (label : Nat × Input) : Prop :=
  ∀ upload part, pool.threads label.1 = .partFound upload part →
    part.offset = 0 ∧ part.source.length = size upload part.partNumber ∧
      part.source.length < wordModulus

/-- A part is written when no other upload of it is between its write and its
record, when no completion of the upload is between its snapshot and the
assembly, and when the clock gives a tag that no write of the part has had; a
write that is refused does not bring a recorded part back into being.  A
completion takes its snapshot when no part of the upload is between its write
and its record. -/
structure Undisturbed
    (pool : Pool State Frame)
    (label : Nat × Input) : Prop where
  alone : ∀ upload part, pool.threads label.1 = .partFound upload part →
    ∀ thread, (pool.threads thread).recording ≠
      some (upload, part.partNumber)
  unread : ∀ upload part, pool.threads label.1 = .partFound upload part →
    ∀ thread, (pool.threads thread).assembling ≠ some upload
  freshTag : ∀ upload part now,
    pool.threads label.1 = .partFound upload part → label.2 = .clock now →
    ∀ bytes, ¬Returned pool upload part.partNumber
      (makePartEtag part.partNumber part.source.length now) bytes
  refused : ∀ upload part error,
    pool.threads label.1 = .partFound upload part →
    (writePart pool.shared upload part).1 = .error error →
    stagedPart pool.shared upload part.partNumber = none →
    (pool.shared.store.objects upload).parts.lookup part.partNumber = none
  snapshot : ∀ upload request,
    pool.threads label.1 = .completeFound upload request →
    ∀ thread partNumber, (pool.threads thread).recording ≠
      some (upload, partNumber)

/-! ## The invariant -/

/-- What a completion knows about the parts it is going to install. -/
def FrameTagged (pool : Pool State Frame) : Frame → Prop
  | .completing upload _ (.claimed recorded) =>
      ∀ partNumber progress bytes,
        recorded.lookup partNumber = some progress →
        stagedPart pool.shared upload partNumber = some bytes →
        Returned pool upload partNumber progress.etag bytes
  | .completing upload request (.targeted _ _) =>
      ∀ part ∈ request.parts, ∀ bytes,
        stagedPart pool.shared upload part.partNumber = some bytes →
        Returned pool upload part.partNumber part.etag bytes
  | .completing upload request (.detached _ _ staging) =>
      ∀ part ∈ request.parts, ∀ bytes,
        staging.parts.lookup part.partNumber = some bytes →
        Returned pool upload part.partNumber part.etag bytes
  | .completing upload request (.released _ _ _ assembled) =>
      ∃ piece : Nat → Bytes,
        assembled =
          (CompositeBackend.orderedNumbers request.parts).flatMap piece ∧
        ∀ part ∈ request.parts,
          Returned pool upload part.partNumber part.etag
            (piece part.partNumber)
  | _ => True

/-- The invariant of tags: what is staged for a recorded part is what the
write that returned the recorded tag wrote, unless a write of the part is not
yet recorded, and then it is what that write wrote. -/
structure Tagged
    (size : UploadPtr → Nat → Nat)
    (pool : Pool State Frame) : Prop where
  recorded : ∀ upload partNumber progress bytes,
    upload < pool.shared.store.allocated →
    (pool.shared.store.objects upload).parts.lookup partNumber =
      some progress →
    (∀ thread, (pool.threads thread).recording ≠
      some (upload, partNumber)) →
    stagedPart pool.shared upload partNumber = some bytes →
    Returned pool upload partNumber progress.etag bytes
  written : ∀ thread upload part etag bytes,
    pool.threads thread = .partWritten upload part etag →
    stagedPart pool.shared upload part.partNumber = some bytes →
    bytes = part.source
  alone : ∀ first second upload partNumber, first ≠ second →
    (pool.threads first).recording = some (upload, partNumber) →
    (pool.threads second).recording ≠ some (upload, partNumber)
  unique : ∀ upload partNumber etag first second,
    Returned pool upload partNumber etag first →
    Returned pool upload partNumber etag second → first = second
  sized : ∀ upload partNumber bytes,
    upload < pool.shared.store.allocated →
    stagedPart pool.shared upload partNumber = some bytes →
    bytes.length ≤ size upload partNumber
  frames : ∀ thread, FrameTagged pool (pool.threads thread)

variable
  {options : CoordinatorOptions}
  {size : UploadPtr → Nat → Nat}
  {state next : State}
  {before after : Frame}

/-! ## Views of a section -/

/-- A write that has returned is never forgotten. -/
theorem Moves.wrote_of_before
    (moves : Moves options state before next after)
    {entry : UploadPtr × PartWrite × String}
    (written : before.wrote = some entry) :
    after.wrote = some entry := by
  cases moves with
  | registerPart => exact written
  | accept | addTarget | create | refusePart | writePart | refuseClaim
  | claim | complete | refuseAbort | markAborted | abort | unregister
  | visit | endScan | endSweep | sweepNext | putIndex =>
      simp [Frame.wrote] at written

/-- A frame that has written had written before, or has just done so. -/
theorem Moves.wrote_of_after
    (moves : Moves options state before next after)
    {upload : UploadPtr}
    {part : PartWrite}
    {etag : String}
    (written : after.wrote = some (upload, part, etag)) :
    before.wrote = some (upload, part, etag) ∨
      before = .partFound upload part ∧
        after = .partWritten upload part etag := by
  cases moves with
  | accept call =>
      revert written
      fun_cases Multipart.accept state call <;> simp [Frame.wrote]
  | complete mover request stage now =>
      revert written
      fun_cases advanceCompletion options state mover request now stage <;>
        simp [Frame.wrote]
  | abort mover origin stage =>
      revert written
      fun_cases advanceAbort state mover origin stage <;>
        cases origin <;> simp [Frame.wrote]
  | writePart upload part now =>
      simp only [Frame.wrote, Option.some.injEq, Prod.mk.injEq] at written
      obtain ⟨rfl, rfl, rfl⟩ := written
      exact .inr ⟨rfl, rfl⟩
  | registerPart => exact .inl written
  | create params backendId now outcome outcomeEq =>
      subst outcomeEq
      simp [Frame.wrote] at written
  | putIndex bucket key size now outcome outcomeEq =>
      subst outcomeEq
      simp [Frame.wrote] at written
  | addTarget | refusePart | refuseClaim | claim | refuseAbort | markAborted
  | unregister | visit | endScan | endSweep | sweepNext =>
      simp [Frame.wrote] at written

/-! ## Preservation -/

variable {pool : Pool State Frame} {mover : Nat}

/-- A write that has returned is never forgotten by the pool. -/
private theorem Returned.step
    {upload : UploadPtr}
    {partNumber : Nat}
    {etag : String}
    {bytes : Bytes}
    (returned : Returned pool upload partNumber etag bytes)
    (moves : Moves options pool.shared (pool.threads mover) next after) :
    Returned ⟨next, Function.update pool.threads mover after⟩ upload
      partNumber etag bytes := by
  obtain ⟨writer, part, written, number, source⟩ := returned
  refine ⟨writer, part, ?_, number, source⟩
  by_cases moving : writer = mover
  · subst moving
    simpa using moves.wrote_of_before written
  · simpa [Function.update_of_ne moving] using written

/-- A step of a part upload that writes, with its tag. -/
theorem advance_partFound
    {upload : UploadPtr}
    {part : PartWrite}
    {etag : String}
    {input : Input}
    (moved : advance options state (.partFound upload part) input =
      some (next, .partWritten upload part etag)) :
    ∃ now, input = .clock now ∧
      etag = makePartEtag part.partNumber part.source.length now := by
  cases input with
  | call call => cases moved
  | visit uploadId => cases moved
  | clock now =>
      refine ⟨now, rfl, ?_⟩
      simp only [advance] at moved
      split at moved
      · cases moved
      · next written =>
          cases moved
          exact (CompositeBackend.writePart_eq_ok written).2.1

/-- A write of the pool after a step is one before it, or has just been made
with a tag that no write of the part has had. -/
private theorem Returned.of_step
    {input : Input}
    {upload : UploadPtr}
    {partNumber : Nat}
    {etag : String}
    {bytes : Bytes}
    (undisturbed : Undisturbed pool (mover, input))
    (moved : advance options pool.shared (pool.threads mover) input =
      some (next, after))
    (returned : Returned ⟨next, Function.update pool.threads mover after⟩
      upload partNumber etag bytes) :
    Returned pool upload partNumber etag bytes ∨
      (∀ other, ¬Returned pool upload partNumber etag other) ∧
        ∃ part, after.wrote = some (upload, part, etag) ∧
          part.source = bytes := by
  obtain ⟨writer, part, written, rfl, rfl⟩ := returned
  by_cases moving : writer = mover
  · subst moving
    simp only [Function.update_self] at written
    rcases (moves_of_advance moved).wrote_of_after written with
      earlier | ⟨found, writes⟩
    · exact .inl ⟨writer, part, earlier, rfl, rfl⟩
    · right
      subst writes
      rw [found] at moved
      obtain ⟨now, rfl, rfl⟩ := advance_partFound moved
      exact ⟨undisturbed.freshTag upload part now found rfl, part, rfl, rfl⟩
  · simp only [Function.update_of_ne moving] at written
    exact .inl ⟨writer, part, written, rfl, rfl⟩

/-- Writes that satisfy the conditions cover what is staged. -/
private theorem covers_of_tagged
    {input : Input}
    (tagged : Tagged size pool)
    (identified : PoolIdentified pool)
    (whole : WholeParts size pool (mover, input)) :
    Covers pool.shared (pool.threads mover) := by
  intro upload part found
  obtain ⟨offset, length, bounded⟩ := whole upload part found
  refine ⟨offset, bounded, ?_⟩
  cases staged : stagedPart pool.shared upload part.partNumber with
  | none => simp
  | some bytes =>
      have allocated := (identified.thread mover).bound upload
        (by rw [found]; simp [Frame.uploads])
      rw [length]
      exact tagged.sized upload part.partNumber bytes allocated staged

/-- A part is not being recorded after a step, and was not before it, when
the step has not recorded it. -/
private theorem not_recording_before
    {upload : UploadPtr}
    {partNumber : Nat}
    (idle : ∀ thread, ((Function.update pool.threads mover after)
      thread).recording ≠ some (upload, partNumber))
    (other : (pool.threads mover).recording ≠ some (upload, partNumber))
    (thread : Nat) :
    (pool.threads thread).recording ≠ some (upload, partNumber) := by
  by_cases moving : thread = mover
  · rw [moving]
    exact other
  · have unmoved := idle thread
    rwa [Function.update_of_ne moving] at unmoved

/-- What is staged for a recorded part is named by its tag after a step. -/
private theorem Tagged.recorded_step
    {input : Input}
    (tagged : Tagged size pool)
    (identified : PoolIdentified pool)
    (whole : WholeParts size pool (mover, input))
    (undisturbed : Undisturbed pool (mover, input))
    (moves : Moves options pool.shared (pool.threads mover) next after)
    {upload : UploadPtr}
    {partNumber : Nat}
    {progress : PartProgress}
    {bytes : Bytes}
    (allocated : upload < pool.shared.store.allocated)
    (found : (next.store.objects upload).parts.lookup partNumber =
      some progress)
    (idle : ∀ thread, ((Function.update pool.threads mover after)
      thread).recording ≠ some (upload, partNumber))
    (staged : stagedPart next upload partNumber = some bytes) :
    Returned ⟨next, Function.update pool.threads mover after⟩ upload
      partNumber progress.etag bytes := by
  by_cases records : ∃ part etag,
      pool.threads mover = .partWritten upload part etag
  · obtain ⟨part, etag, frame⟩ := records
    have written := tagged.written mover upload part etag
    have registers := moves
    rw [frame] at registers
    cases registers with
    | registerPart _ _ _ now =>
        have unstaged : stagedPart pool.shared upload partNumber =
            some bytes := by
          rw [← staged, stagedPart_registerPart]
        simp only [objects_registerPart, Table.lookup_insert_eq] at found
        split at found
        · next same =>
            subst same
            cases found
            exact ⟨mover, part, by simp [Frame.wrote], rfl,
              (written bytes frame unstaged).symm⟩
        · next different =>
            have before := tagged.recorded upload partNumber progress bytes
              allocated found
              (not_recording_before idle (by
                rw [frame]
                simpa [Frame.recording] using Ne.symm different)) unstaged
            exact before.step moves
  · have other : ∀ part etag,
        pool.threads mover ≠ .partWritten upload part etag := by
      intro part etag frame
      exact records ⟨part, etag, frame⟩
    rw [moves.parts_eq allocated other] at found
    have covers := covers_of_tagged tagged identified whole
    rcases moves.stagedPart_cases identified.shared
      (identified.thread mover) covers allocated staged with
      unstaged | ⟨part, frame, rfl, writes | refuses⟩
    · refine (tagged.recorded upload partNumber progress bytes allocated found
        (not_recording_before idle ?_) unstaged).step moves
      intro recording
      cases frame : pool.threads mover <;>
        simp_all [Frame.recording]
    · obtain ⟨⟨etag, rfl⟩, _⟩ := writes
      exact absurd (by simp [Frame.recording]) (idle mover)
    · obtain ⟨⟨error, failed⟩, unstaged, _⟩ := refuses
      rw [undisturbed.refused upload part error frame failed unstaged] at found
      cases found

/-- What is staged for a part that is being recorded is what its upload
wrote, after a step. -/
private theorem Tagged.written_step
    {input : Input}
    (tagged : Tagged size pool)
    (identified : PoolIdentified pool)
    (whole : WholeParts size pool (mover, input))
    (undisturbed : Undisturbed pool (mover, input))
    (moves : Moves options pool.shared (pool.threads mover) next after)
    {thread : Nat}
    {upload : UploadPtr}
    {part : PartWrite}
    {etag : String}
    {bytes : Bytes}
    (frame : (Function.update pool.threads mover after) thread =
      .partWritten upload part etag)
    (staged : stagedPart next upload part.partNumber = some bytes) :
    bytes = part.source := by
  have covers := covers_of_tagged tagged identified whole
  by_cases moving : thread = mover
  · rw [moving, Function.update_self] at frame
    obtain ⟨_, found, _⟩ := moves.recording_of_after
      (congrArg Frame.recording frame)
    rw [found] at moves covers
    cases moves with
    | refusePart => cases frame
    | writePart _ _ now reply succeeded =>
        cases frame
        rw [stagedPart_written covers succeeded, if_pos rfl] at staged
        exact (Option.some.inj staged).symm
  · rw [Function.update_of_ne moving] at frame
    have allocated := (identified.thread thread).bound upload
      (by rw [frame]; simp [Frame.uploads])
    rcases moves.stagedPart_cases identified.shared
      (identified.thread mover) covers allocated staged with
      unstaged | ⟨other, found, number, _⟩
    · exact tagged.written thread upload part etag bytes frame unstaged
    · have alone := undisturbed.alone upload other found thread
      rw [frame] at alone
      exact absurd (by simp [Frame.recording, number]) alone

/-- What another completion knows about its parts stays true. -/
private theorem FrameTagged.other
    {input : Input}
    {thread : Nat}
    (tagged : Tagged size pool)
    (identified : PoolIdentified pool)
    (whole : WholeParts size pool (mover, input))
    (undisturbed : Undisturbed pool (mover, input))
    (moves : Moves options pool.shared (pool.threads mover) next after) :
    FrameTagged ⟨next, Function.update pool.threads mover after⟩
      (pool.threads thread) := by
  have covers := covers_of_tagged tagged identified whole
  have bound := (identified.thread thread).bound
  have holds := tagged.frames thread
  have unread : ∀ upload,
      (pool.threads thread).assembling = some upload →
      upload ∈ (pool.threads thread).uploads →
      ∀ partNumber bytes, stagedPart next upload partNumber = some bytes →
        stagedPart pool.shared upload partNumber = some bytes := by
    intro upload assembles mentions partNumber bytes staged
    rcases moves.stagedPart_cases identified.shared
      (identified.thread mover) covers (bound upload mentions) staged with
      unstaged | ⟨part, found, _⟩
    · exact unstaged
    · exact absurd assembles
        (undisturbed.unread upload part found thread)
  generalize pool.threads thread = frame at holds bound unread
  match frame with
  | .completing upload request (.claimed recorded) =>
      intro partNumber progress bytes found staged
      exact (holds partNumber progress bytes found
        (unread upload rfl (by simp [Frame.uploads]) partNumber bytes
          staged)).step moves
  | .completing upload request (.targeted bucket object) =>
      intro part listed bytes staged
      exact (holds part listed bytes
        (unread upload rfl (by simp [Frame.uploads]) part.partNumber bytes
          staged)).step moves
  | .completing upload request (.detached bucket object staging) =>
      intro part listed bytes found
      exact (holds part listed bytes found).step moves
  | .completing upload request (.released bucket object total assembled) =>
      obtain ⟨piece, concatenated, named⟩ := holds
      exact ⟨piece, concatenated,
        fun part listed => (named part listed).step moves⟩
  | .idle | .started .. | .targeted .. | .partFound .. | .partWritten ..
  | .completeFound .. | .abortFound .. | .aborting .. | .unregistering ..
  | .scanning .. | .sweeping .. | .storing .. | .finished ..
  | .completing _ _ (.installed ..) | .completing _ _ (.taken ..)
  | .completing _ _ (.indexed ..) | .completing _ _ (.committed ..)
  | .completing _ _ (.marked ..) | .completing _ _ (.failing ..) => trivial

/-- A completion learns about its parts what the next section needs. -/
private theorem FrameTagged.complete
    {later : Pool State Frame}
    {upload : UploadPtr}
    {request : CompleteRequest}
    {stage : CompleteStage}
    {now : Nat}
    (holds : FrameTagged pool (.completing upload request stage))
    (step : ∀ partNumber etag bytes,
      Returned pool upload partNumber etag bytes →
        Returned later upload partNumber etag bytes)
    (unstaged : ∀ partNumber bytes,
      stagedPart later.shared upload partNumber = some bytes →
        stagedPart pool.shared upload partNumber = some bytes) :
    FrameTagged later
      (advanceCompletion options pool.shared upload request now stage).2 := by
  obtain ⟨next, after, result, completes⟩ :=
    exists_completes options pool.shared upload request now stage
  rw [result]
  cases completes with
  | target recorded bucket key valid found =>
      intro part listed bytes staged
      obtain ⟨progress, found, tag⟩ := recorded_of_validateParts valid listed
      rw [← tag]
      exact step _ _ _ (holds part.partNumber progress bytes found
        (unstaged _ _ staged))
  | detach bucket object staging present =>
      intro part listed bytes found
      refine step _ _ _ (holds part listed bytes ?_)
      rw [stagedPart, present]
      exact found
  | release bucket object staging total sized =>
      refine ⟨staging.part, rfl, ?_⟩
      intro part listed
      exact step _ _ _ (holds part listed _
        (MemoryDataStore.lookup_of_assembledSize sized
          (CompositeBackend.mem_orderedNumbers.mpr ⟨part, listed, rfl⟩)))
  | invalid | untargeted | unstaged | missing | refuse | install | unrecorded
  | take | putIndex | eraseTarget | setCompleted | unregister | rollBack =>
      trivial

/-- A new call knows nothing about parts. -/
private theorem FrameTagged.accept
    (later : Pool State Frame)
    (state : State)
    (call : Call) :
    FrameTagged later (accept state call).2 := by
  fun_cases Multipart.accept state call <;> trivial

/-- The mover knows about its parts what the invariant asks for. -/
private theorem FrameTagged.own
    {input : Input}
    (tagged : Tagged size pool)
    (identified : PoolIdentified pool)
    (whole : WholeParts size pool (mover, input))
    (undisturbed : Undisturbed pool (mover, input))
    (moves : Moves options pool.shared (pool.threads mover) next after) :
    FrameTagged ⟨next, Function.update pool.threads mover after⟩ after := by
  have covers := covers_of_tagged tagged identified whole
  have bound := (identified.thread mover).bound
  have holds := tagged.frames mover
  have keep : ∀ upload partNumber etag bytes,
      Returned pool upload partNumber etag bytes →
        Returned ⟨next, Function.update pool.threads mover after⟩ upload
          partNumber etag bytes := by
    intro upload partNumber etag bytes returned
    exact returned.step moves
  have unstaged : ∀ upload, upload ∈ (pool.threads mover).uploads →
      (∀ part, pool.threads mover ≠ .partFound upload part) →
      ∀ partNumber bytes, stagedPart next upload partNumber = some bytes →
        stagedPart pool.shared upload partNumber = some bytes := by
    intro upload mentions silent partNumber bytes staged
    rcases moves.stagedPart_cases identified.shared
      (identified.thread mover) covers (bound upload mentions) staged with
      kept | ⟨part, found, _⟩
    · exact kept
    · exact absurd found (silent part)
  generalize frameEq : pool.threads mover = before
    at moves bound holds unstaged
  cases moves with
  | accept call => exact FrameTagged.accept _ _ _
  | claim upload request active =>
      intro partNumber progress bytes found staged
      exact keep _ _ _ _ (tagged.recorded upload partNumber progress bytes
        (bound upload (by simp [Frame.uploads])) found
        (fun thread => undisturbed.snapshot upload request frameEq thread
          partNumber)
        (unstaged upload (by simp [Frame.uploads]) (by simp) partNumber bytes
          staged))
  | complete upload request stage now =>
      exact FrameTagged.complete holds (keep upload)
        (unstaged upload (by simp [Frame.uploads]) (by simp))
  | abort upload origin stage =>
      cases stage <;> cases origin <;> trivial
  | addTarget | create | refusePart | writePart | registerPart | refuseClaim
  | refuseAbort | markAborted | unregister | visit | endScan | endSweep
  | sweepNext | putIndex => trivial

/-- A step keeps the invariant of tags. -/
private theorem Tagged.step
    {input : Input}
    (tagged : Tagged size pool)
    (identified : PoolIdentified pool)
    (whole : WholeParts size pool (mover, input))
    (undisturbed : Undisturbed pool (mover, input))
    (moved : advance options pool.shared (pool.threads mover) input =
      some (next, after)) :
    Tagged size ⟨next, Function.update pool.threads mover after⟩ where
  recorded := by
    intro upload partNumber progress bytes exists_ found idle staged
    have moves := moves_of_advance moved
    rcases moves.upload_cases exists_ with older | ⟨rfl, _, opens, _⟩
    · exact tagged.recorded_step identified whole undisturbed moves older
        found idle staged
    · rw [moves.stagedPart_opening identified.shared
        (identified.thread mover) opens] at staged
      cases staged
  written := by
    intro thread upload part etag bytes frame staged
    exact tagged.written_step identified whole undisturbed
      (moves_of_advance moved) frame staged
  alone := by
    intro first second upload partNumber distinct firstRecords
    have moves := moves_of_advance moved
    dsimp only at firstRecords ⊢
    by_cases firstMoves : first = mover
    · subst firstMoves
      rw [Function.update_self] at firstRecords
      obtain ⟨part, found, rfl⟩ := moves.recording_of_after firstRecords
      rw [Function.update_of_ne distinct.symm]
      exact undisturbed.alone upload part found second
    · rw [Function.update_of_ne firstMoves] at firstRecords
      by_cases secondMoves : second = mover
      · subst secondMoves
        rw [Function.update_self]
        intro secondRecords
        obtain ⟨part, found, rfl⟩ := moves.recording_of_after secondRecords
        exact undisturbed.alone upload part found first firstRecords
      · rw [Function.update_of_ne secondMoves]
        exact tagged.alone first second upload partNumber distinct firstRecords
  unique := by
    intro upload partNumber etag first second firstReturned secondReturned
    rcases firstReturned.of_step undisturbed moved with
      firstBefore | ⟨noFirst, firstPart, firstWrote, firstSource⟩
    · rcases secondReturned.of_step undisturbed moved with
        secondBefore | ⟨noSecond, _⟩
      · exact tagged.unique upload partNumber etag first second firstBefore
          secondBefore
      · exact absurd firstBefore (noSecond first)
    · rcases secondReturned.of_step undisturbed moved with
        secondBefore | ⟨_, secondPart, secondWrote, secondSource⟩
      · exact absurd secondBefore (noFirst second)
      · rw [firstWrote, Option.some.injEq, Prod.mk.injEq,
          Prod.mk.injEq] at secondWrote
        rw [← firstSource, ← secondSource, secondWrote.2.1]
  sized := by
    intro upload partNumber bytes exists_ staged
    have moves := moves_of_advance moved
    rcases moves.upload_cases exists_ with older | ⟨rfl, _, opens, _⟩
    · have covers := covers_of_tagged tagged identified whole
      rcases moves.stagedPart_cases identified.shared
        (identified.thread mover) covers older staged with
        unstaged | ⟨part, found, rfl, ⟨_, rfl⟩ | ⟨_, _, rfl⟩⟩
      · exact tagged.sized upload partNumber bytes older unstaged
      · exact (whole upload part found).2.1.le
      · exact Nat.zero_le _
    · rw [moves.stagedPart_opening identified.shared
        (identified.thread mover) opens] at staged
      cases staged
  frames := by
    have moves := moves_of_advance moved
    apply (Function.forall_update_iff _ fun _ => FrameTagged
      ⟨next, Function.update pool.threads mover after⟩).mpr
    constructor
    · exact FrameTagged.own tagged identified whole undisturbed moves
    · intro thread moving
      exact FrameTagged.other tagged identified whole undisturbed moves

/-- The condition of the property: whole parts, and no disturbance. -/
def WholeUndisturbed
    (size : UploadPtr → Nat → Nat)
    (pool : Pool State Frame)
    (label : Nat × Input) : Prop :=
  WholeParts size pool label ∧ Undisturbed pool label

/-- The invariant of tags holds in every state reached by undisturbed
steps. -/
theorem Tagged.of_reachable
    (reachable : (machine options).Reachable (WholeUndisturbed size) pool) :
    Tagged size pool := by
  refine reachable.induction ?_ ?_
  · rintro start ⟨capacityBytes, ttl, rfl⟩
    have unstaged : ∀ upload partNumber,
        stagedPart (State.init capacityBytes ttl) upload partNumber =
          none := by
      intro upload partNumber
      simp [stagedPart, State.init, CompositeBackend.init,
        MemoryDataStore.init]
    refine ⟨?_, ?_, ?_, ?_, ?_, ?_⟩
    · intro upload partNumber progress bytes exists_
      exact absurd exists_ (Nat.not_lt_zero upload)
    · intro thread upload part etag bytes frame
      cases frame
    · intro first second upload partNumber _ records
      cases records
    · rintro upload partNumber etag first second ⟨writer, part, wrote, _⟩
      cases wrote
    · intro upload partNumber bytes exists_
      exact absurd exists_ (Nat.not_lt_zero upload)
    · intro thread
      trivial
  · rintro pool ⟨mover, input⟩ later reached tagged ⟨whole, undisturbed⟩
      stepped
    have identified := PoolIdentified.of_reachable reached
    obtain ⟨shared, frame, moved, rfl⟩ := Pool.step_eq_some stepped
    exact tagged.step identified whole undisturbed moved

/-- Writes that have returned are never forgotten in a run. -/
private theorem Returned.path
    {guard : Pool State Frame → Nat × Input → Prop}
    {start finish : Pool State Frame}
    {labels : List (Nat × Input)}
    {upload : UploadPtr}
    {partNumber : Nat}
    {etag : String}
    {bytes : Bytes}
    (path : (machine options).Path guard start labels finish)
    (returned : Returned start upload partNumber etag bytes) :
    Returned finish upload partNumber etag bytes := by
  induction path with
  | nil => exact returned
  | cons _ stepped _ inductionHypothesis =>
      obtain ⟨shared, frame, moves, rfl⟩ := moves_of_step stepped
      exact inductionHypothesis (returned.step moves)

/-- In the runs whose part writes are whole and undisturbed, the tags of a
completed upload name its bytes. -/
theorem tagsNameBytes_of_wholeUndisturbed
    (options : CoordinatorOptions)
    (size : UploadPtr → Nat → Nat) :
    TagsNameBytes options (WholeUndisturbed size) := by
  intro pool installed finish completer now labels upload request bucket
    object total assembled metadata reachable releases guarded stepped path
    completes
  have tagged := Tagged.of_reachable reachable
  have holds := tagged.frames completer
  rw [releases] at holds
  obtain ⟨piece, concatenated, named⟩ := holds
  have finishTagged := Tagged.of_reachable
    ((reachable.step guarded stepped).path path)
  obtain ⟨shared, frame, moved, rfl⟩ := Pool.step_eq_some stepped
  have moves := moves_of_advance moved
  rw [releases] at moved
  simp only [advance, advanceCompletion, Option.some.injEq] at moved
  split at moved
  · next refused =>
      obtain ⟨rfl, rfl⟩ := Prod.mk.inj moved
      have failed := fails_of_path path completer (by simp [Frame.fails])
      rw [completes] at failed
      cases failed
  · next data succeeded =>
      obtain ⟨rfl, rfl⟩ := Prod.mk.inj moved
      refine ⟨piece, ?_, ?_⟩
      · simp only [State.withData_data]
        rw [MemoryDataStore.bodies_of_installBody succeeded,
          Finmap.lookup_insert, concatenated]
      · intro part listed
        have returned := ((named part listed).step moves).path path
        refine ⟨returned, ?_⟩
        intro bytes other
        exact finishTagged.unique _ _ _ _ _ other returned

/-! ## Runs -/

/-- Whole parts of one byte. -/
private def oneByte
    (pool : Pool State Frame)
    (label : Nat × Input) : Bool :=
  match pool.threads label.1 with
  | .partFound _ part => part.offset == 0 && part.source.length == 1
  | _ => true

private theorem wholeParts_of_oneByte
    (pool : Pool State Frame)
    (label : Nat × Input)
    (holds : oneByte pool label = true) :
    WholeParts (fun _ _ => 1) pool label := by
  intro upload part found
  simp only [oneByte, found, Bool.and_eq_true, beq_iff_eq] at holds
  obtain ⟨offset, length⟩ := holds
  exact ⟨offset, length, by rw [length]; decide⟩

/-- Part writes and snapshots when no part has been written and no completion
has begun, looking at four threads only. -/
private def undisturbedBelow
    (pool : Pool State Frame)
    (label : Nat × Input) : Bool :=
  match pool.threads label.1 with
  | .partFound upload part =>
      ((writePart pool.shared upload part).1 matches .ok _) &&
        (List.range 4).all fun thread =>
          (pool.threads thread).wrote.isNone &&
            (pool.threads thread).recording.isNone &&
            (pool.threads thread).assembling.isNone
  | .completeFound _ _ =>
      (List.range 4).all fun thread =>
        (pool.threads thread).recording.isNone
  | _ => true

private theorem undisturbed_of_below
    (pool : Pool State Frame)
    (label : Nat × Input)
    (rest : pool.RestAt 4 .idle)
    (holds : undisturbedBelow pool label = true) :
    Undisturbed pool label := by
  have writes : ∀ upload part,
      pool.threads label.1 = .partFound upload part →
      (∀ error, (writePart pool.shared upload part).1 ≠ .error error) ∧
        ∀ thread, (pool.threads thread).wrote = none ∧
          (pool.threads thread).recording = none ∧
          (pool.threads thread).assembling = none := by
    intro upload part found
    simp only [undisturbedBelow, found, Bool.and_eq_true, List.all_eq_true,
      List.mem_range, Option.isNone_iff_eq_none] at holds
    obtain ⟨succeeded, below⟩ := holds
    refine ⟨?_, ?_⟩
    · intro error failed
      rw [failed] at succeeded
      cases succeeded
    · intro thread
      refine rest.forall (fun frame => frame.wrote = none ∧
        frame.recording = none ∧ frame.assembling = none)
        ⟨rfl, rfl, rfl⟩ ?_ thread
      intro other small
      exact ⟨(below other small).1.1, (below other small).1.2,
        (below other small).2⟩
  refine ⟨?_, ?_, ?_, ?_, ?_⟩
  · intro upload part found thread
    simp [((writes upload part found).2 thread).2.1]
  · intro upload part found thread
    simp [((writes upload part found).2 thread).2.2]
  · rintro upload part now found _ bytes ⟨writer, other, wrote, _⟩
    rw [((writes upload part found).2 writer).1] at wrote
    cases wrote
  · intro upload part error found failed
    exact absurd failed ((writes upload part found).1 error)
  · intro upload request found thread partNumber
    simp only [undisturbedBelow, found, List.all_eq_true, List.mem_range,
      Option.isNone_iff_eq_none] at holds
    rw [rest.forall (fun frame => frame.recording = none) rfl holds thread]
    simp

private theorem wholeUndisturbed_of_below
    (pool : Pool State Frame)
    (label : Nat × Input)
    (rest : pool.RestAt 4 .idle)
    (holds : oneByte pool label = true ∧ undisturbedBelow pool label = true) :
    WholeUndisturbed (fun _ _ => 1) pool label :=
  ⟨wholeParts_of_oneByte pool label holds.1,
    undisturbed_of_below pool label rest holds.2⟩

/-- One part, uploaded and completed. -/
private def singleLabels : List (Nat × Input) :=
  (0, .call (.createUpload ⟨"b", "k", none, "http", ""⟩ 0)) ::
    clockSteps 0 2 ++
  (1, .call (.uploadPart (mpuId 1 0) ⟨1, 0, [7]⟩)) :: clockSteps 1 2 ++
  (2, .call (.completeUpload
    ⟨mpuId 1 0, [⟨1, makePartEtag 1 1 0⟩], "http"⟩)) :: clockSteps 2 4

private def single :
    Option (Pool State Frame × Pool State Frame × Pool State Frame) :=
  (machine ⟨0, 0⟩).runAround (fun pool label => oneByte pool label = true ∧
      undisturbedBelow pool label = true)
    ⟨State.init 10 0, fun _ => .idle⟩ singleLabels (2, .clock 0)
    (clockSteps 2 5)

private theorem single_isSome : single.isSome = true := by decide

theorem tagsNameBytes_single_part :
    ∃ installed finish : Pool State Frame, ∃ piece : Nat → Bytes,
      finish.threads 2 = .finished (.completed 0 (makeMeta 1 0)) ∧
      installed.shared.backend.data.bodies.lookup (makeKey "b" "k") =
        some (piece 1) ∧
      Returned finish 0 1 (makePartEtag 1 1 0) (piece 1) := by
  obtain ⟨before, allowed, stepped, path, _⟩ :=
    Pool.path_of_runAround_below 4 .idle rfl wholeUndisturbed_of_below
      (fun _ _ => rfl) (by decide) (Option.some_get single_isSome).symm
  have completes : ((single.get single_isSome).2.2).threads 2 =
      .finished (.completed 0 (makeMeta 1 0)) := by decide
  obtain ⟨piece, body, named⟩ :=
    tagsNameBytes_of_wholeUndisturbed ⟨0, 0⟩ (fun _ _ => 1)
      _ _ _ 2 0 _ 0
      ⟨mpuId 1 0, [⟨1, makePartEtag 1 1 0⟩], "http"⟩ "b" "k" 1 [7]
      (makeMeta 1 0) ⟨_, _, ⟨10, 0, rfl⟩, before⟩ (by decide) allowed stepped
      path completes
  refine ⟨(single.get single_isSome).2.1, _, piece, completes, ?_,
    (named _ List.mem_cons_self).1⟩
  rw [body]
  simp [CompositeBackend.orderedNumbers]

/-- Two uploads of one part that write in one order and record in the
other. -/
private def retryLabels : List (Nat × Input) :=
  (0, .call (.createUpload ⟨"b", "k", none, "http", ""⟩ 0)) ::
    clockSteps 0 2 ++
  [(1, .call (.uploadPart (mpuId 1 0) ⟨1, 0, [7]⟩)),
    (3, .call (.uploadPart (mpuId 1 0) ⟨1, 0, [9]⟩)),
    (1, .clock 1), (3, .clock 2), (3, .clock 3), (1, .clock 4),
    (2, .call (.completeUpload
      ⟨mpuId 1 0, [⟨1, makePartEtag 1 1 1⟩], "http"⟩))] ++
  clockSteps 2 4

private def retry :
    Option (Pool State Frame × Pool State Frame × Pool State Frame) :=
  (machine ⟨0, 0⟩).runAround (fun pool label => oneByte pool label = true)
    ⟨State.init 10 0, fun _ => .idle⟩ retryLabels (2, .clock 0)
    (clockSteps 2 5)

private theorem retry_isSome : retry.isSome = true := by decide

/-- The tag of the first write names the bytes of the second. -/
theorem tag_names_other_bytes :
    ¬TagsNameBytes ⟨0, 0⟩ (WholeParts fun _ _ => 1) := by
  intro claimed
  obtain ⟨before, allowed, stepped, path, _⟩ :=
    Pool.path_of_runAround_below 4 .idle rfl
      (fun pool label _ => wholeParts_of_oneByte pool label) (fun _ _ => rfl)
      (by decide) (Option.some_get retry_isSome).symm
  obtain ⟨piece, body, named⟩ := claimed _ _ _ 2 0 _ 0
    ⟨mpuId 1 0, [⟨1, makePartEtag 1 1 1⟩], "http"⟩ "b" "k" 1 [9]
    (makeMeta 1 0) ⟨_, _, ⟨10, 0, rfl⟩, before⟩ (by decide) allowed stepped
    path (by decide)
  have installed : (retry.get retry_isSome).2.1.shared.backend.data.body
      (makeKey "b" "k") = [9] := by decide
  have first : Returned (retry.get retry_isSome).2.2 0 1
      (makePartEtag 1 1 1) [7] := ⟨1, ⟨1, 0, [7]⟩, by decide, rfl, rfl⟩
  have same := (named _ List.mem_cons_self).2 [7] first
  rw [MemoryDataStore.body, body] at installed
  simp only [CompositeBackend.orderedNumbers, List.map_cons, List.map_nil,
    List.insertionSort_cons, List.insertionSort_nil, List.orderedInsert_nil,
    List.flatMap_cons, List.flatMap_nil, List.append_nil,
    Option.getD_some, ← same] at installed
  cases installed

end Multipart
end Gateway
end TurboAccess

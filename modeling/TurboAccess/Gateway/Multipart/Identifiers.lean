import TurboAccess.Gateway.Multipart.Effects

/-!
# Identifiers of uploads

Every identifier the gateway hands out is fresh: two uploads never share one,
neither in the registry nor in the backend, and every upload a frame or the
registry refers to exists.
-/

namespace TurboAccess
namespace Gateway
namespace Multipart

namespace Frame

/-- Backend identifier of an upload that is not yet in the registry. -/
def opening : Frame → Option String
  | .started _ backendId => some backendId
  | .targeted _ backendId => some backendId
  | _ => none

/-- Uploads a frame refers to. -/
def uploads : Frame → List UploadPtr
  | .partFound upload _ => [upload]
  | .partWritten upload _ _ => [upload]
  | .completeFound upload _ => [upload]
  | .completing upload _ _ => [upload]
  | .abortFound upload _ => [upload]
  | .aborting upload .call _ => [upload]
  | .aborting upload (.sweeper swept pending) _ => upload :: (swept ++ pending)
  | .unregistering upload => [upload]
  | .scanning _ expired => expired
  | .sweeping swept pending => swept ++ pending
  | .finished (.partUploaded upload _ _) => [upload]
  | .finished (.completed upload _) => [upload]
  | .finished (.aborted upload) => [upload]
  | .finished (.swept swept) => swept
  | _ => []

end Frame

/-- An identifier made from a counter that has reached `seq`. -/
def IssuedBy (seq : Nat) (id : String) : Prop :=
  ∃ number now, id = mpuId number now ∧ number ≤ seq

theorem IssuedBy.mono
    {seq later : Nat}
    {id : String}
    (issued : IssuedBy seq id)
    (le : seq ≤ later) :
    IssuedBy later id := by
  obtain ⟨number, now, rfl, bound⟩ := issued
  exact ⟨number, now, rfl, Nat.le_trans bound le⟩

/-- The next identifier was never issued. -/
theorem IssuedBy.ne_next
    {seq now : Nat}
    {id : String}
    (issued : IssuedBy seq id) :
    id ≠ mpuId (seq + 1) now := by
  obtain ⟨number, then_, rfl, bound⟩ := issued
  intro same
  have numbers := mpuId_seq_inj same
  omega

/-- Uploads that exist have identifiers of their own. -/
structure Identified (state : State) : Prop where
  registered : ∀ uploadId upload,
    state.store.byId.lookup uploadId = some upload →
      upload < state.store.allocated ∧
        (state.store.objects upload).uploadId = uploadId
  uploadIssued : ∀ upload, upload < state.store.allocated →
    IssuedBy state.store.seq (state.store.objects upload).uploadId
  uploadInjective : ∀ first second,
    first < state.store.allocated → second < state.store.allocated →
      (state.store.objects first).uploadId =
        (state.store.objects second).uploadId → first = second
  backendIssued : ∀ upload, upload < state.store.allocated →
    IssuedBy state.backend.index.mpuSeq (state.backendId upload)
  backendInjective : ∀ first second,
    first < state.store.allocated → second < state.store.allocated →
      state.backendId first = state.backendId second → first = second
  stagingOwned : ∀ key, state.backend.data.mpu.lookup key ≠ none →
    ∃ upload, upload < state.store.allocated ∧ state.backendId upload = key

/-- A frame refers to uploads that exist, and opens an upload under an
identifier that no upload has. -/
structure FrameIdentified (state : State) (frame : Frame) : Prop where
  bound : ∀ upload ∈ frame.uploads, upload < state.store.allocated
  openingIssued : ∀ id, frame.opening = some id →
    IssuedBy state.backend.index.mpuSeq id
  openingFresh : ∀ id, frame.opening = some id →
    ∀ upload, upload < state.store.allocated → state.backendId upload ≠ id

/-- Two frames never open uploads under one identifier. -/
def FramesDistinct (first second : Frame) : Prop :=
  ∀ id, first.opening = some id → second.opening ≠ some id

/-- The invariant of identifiers. -/
abbrev PoolIdentified : Pool State Frame → Prop :=
  Pool.Holds Identified FrameIdentified FramesDistinct

variable
  {options : CoordinatorOptions}
  {state next : State}
  {before after : Frame}

/-! ## Views of a section -/

/-- A call gets to know the upload that it names. -/
theorem uploads_accept
    {call : Call}
    {upload : UploadPtr}
    (mentions : upload ∈ (accept state call).2.uploads) :
    ∃ uploadId, (Input.call call).mentions uploadId = true ∧
      state.store.byId.lookup uploadId = some upload := by
  cases call with
  | uploadPart uploadId part =>
      rw [accept, State.lookup, MultipartStore.find] at mentions
      cases found : state.store.byId.lookup uploadId with
      | none => simp [found, Frame.uploads] at mentions
      | some known =>
          simp only [found, Frame.uploads, List.mem_singleton] at mentions
          exact ⟨uploadId, by simp [Input.mentions], mentions ▸ found⟩
  | completeUpload request =>
      rw [accept, MultipartStore.find] at mentions
      split at mentions
      · simp [Frame.uploads] at mentions
      · cases found : state.store.byId.lookup request.uploadId with
        | none => simp [found, Frame.uploads] at mentions
        | some known =>
            simp only [found, Frame.uploads, List.mem_singleton] at mentions
            exact ⟨request.uploadId, by simp [Input.mentions],
              mentions ▸ found⟩
  | abortUpload uploadId dataPath =>
      rw [accept, MultipartStore.find] at mentions
      cases found : state.store.byId.lookup uploadId with
      | none => simp [found, Frame.uploads] at mentions
      | some known =>
          simp only [found, Frame.uploads, List.mem_singleton] at mentions
          exact ⟨uploadId, by simp [Input.mentions], mentions ▸ found⟩
  | createUpload | sweep | writeRange | reserve =>
      rw [accept] at mentions
      repeat' split at mentions
      all_goals simp [Frame.uploads] at mentions

theorem uploads_advanceCompletion
    {mover upload : UploadPtr}
    {request : CompleteRequest}
    {stage : CompleteStage}
    {now : Nat}
    (mentions : upload ∈
      (advanceCompletion options state mover request now stage).2.uploads) :
    upload = mover := by
  revert mentions
  fun_cases advanceCompletion options state mover request now stage <;>
    simp [Frame.uploads]

/-- A frame gets to know an upload from the registry only. -/
theorem Moves.uploads
    (moves : Moves options state before next after)
    {upload : UploadPtr}
    (mentions : upload ∈ after.uploads) :
    upload ∈ before.uploads ∨
      ∃ uploadId, state.store.byId.lookup uploadId = some upload := by
  cases moves with
  | accept call =>
      obtain ⟨uploadId, _, found⟩ := uploads_accept mentions
      exact .inr ⟨uploadId, found⟩
  | complete mover request stage now =>
      rw [uploads_advanceCompletion mentions]
      exact .inl (by simp [Frame.uploads])
  | abort mover origin stage =>
      left
      revert mentions
      fun_cases advanceAbort state mover origin stage <;>
        cases origin <;>
        simp only [Frame.uploads, List.mem_cons, List.mem_append,
          List.not_mem_nil, or_false] <;> tauto
  | visit now expired uploadId =>
      rcases sweepOne_cases state.store now uploadId with
        kept | ⟨swept, found, dropped⟩
      · left
        simpa [Frame.uploads, kept] using mentions
      · simp only [Frame.uploads, dropped, Option.toList_some,
          List.mem_append, List.mem_singleton] at mentions
        rcases mentions with known | rfl
        · exact .inl known
        · exact .inr ⟨uploadId, found⟩
  | create params backendId now outcome outcomeEq =>
      subst outcomeEq
      simp [Frame.uploads] at mentions
  | putIndex bucket key size now outcome outcomeEq =>
      subst outcomeEq
      simp [Frame.uploads] at mentions
  | addTarget | refusePart | refuseClaim | refuseAbort =>
      simp [Frame.uploads] at mentions
  | writePart | registerPart | claim | markAborted | unregister | endScan
  | endSweep =>
      left
      simpa [Frame.uploads] using mentions
  | sweepNext swept mover pending =>
      left
      simp only [Frame.uploads, List.mem_append, List.mem_cons] at mentions ⊢
      tauto

/-- A frame opens an upload under an identifier it had, or under a new one. -/
theorem Moves.opening_eq_some
    (moves : Moves options state before next after)
    {id : String}
    (opens : after.opening = some id) :
    before.opening = some id ∨
      (∃ now, id = mpuId (state.backend.index.mpuSeq + 1) now) ∧
        next.backend.index.mpuSeq = state.backend.index.mpuSeq + 1 := by
  cases moves with
  | accept call =>
      cases call with
      | createUpload params now =>
          right
          simp only [Multipart.accept, MemoryIndexStore.startMultipart,
            Frame.opening, Option.some.injEq] at opens
          exact ⟨⟨now, opens.symm⟩, rfl⟩
      | uploadPart | completeUpload | abortUpload | sweep | writeRange
      | reserve =>
          rw [Multipart.accept] at opens
          repeat' split at opens
          all_goals simp [Frame.opening] at opens
  | complete mover request stage now =>
      revert opens
      fun_cases advanceCompletion options state mover request now stage <;>
        simp [Frame.opening]
  | abort mover origin stage =>
      revert opens
      fun_cases advanceAbort state mover origin stage <;>
        cases origin <;> simp [Frame.opening]
  | addTarget => exact .inl opens
  | create | refusePart | writePart | registerPart | refuseClaim | claim
  | refuseAbort | markAborted | unregister | visit | endScan | endSweep
  | sweepNext | putIndex => simp [Frame.opening] at opens

/-! ## Preservation -/

/-- An upload that exists keeps its identifiers. -/
theorem Moves.identity
    (moves : Moves options state before next after)
    {upload : UploadPtr}
    (allocated : upload < state.store.allocated) :
    (next.store.objects upload).uploadId =
        (state.store.objects upload).uploadId ∧
      next.backendId upload = state.backendId upload ∧
      (next.store.objects upload).dataFlow =
        (state.store.objects upload).dataFlow :=
  (moves.uploadChange allocated).identity

/-- No section takes back an identifier of the index. -/
theorem Moves.mpuSeq_le (moves : Moves options state before next after) :
    state.backend.index.mpuSeq ≤ next.backend.index.mpuSeq := by
  cases moves.opening with
  | unchanged mpuSeq => exact mpuSeq.ge
  | opened _ _ mpuSeq => exact mpuSeq ▸ Nat.le_succ _

/-- The uploads after a section: those before it, and possibly one whose
identifiers are new. -/
theorem Moves.upload_cases
    (moves : Moves options state before next after)
    {upload : UploadPtr}
    (exists_ : upload < next.store.allocated) :
    upload < state.store.allocated ∨
      upload = state.store.allocated ∧ after.opening = none ∧
        before.opening = some (next.backendId upload) ∧
        next.store.seq = state.store.seq + 1 ∧
        (∃ now, (next.store.objects upload).uploadId =
          mpuId (state.store.seq + 1) now) ∧
        (next.store.objects upload).parts = ∅ := by
  cases moves.allocation with
  | unchanged allocated =>
      rw [allocated] at exists_
      exact .inl exists_
  | created params backendId now outcome =>
      have cases_ : upload < state.store.allocated ∨
          upload = state.store.allocated := Nat.lt_succ_iff_lt_or_eq.mp exists_
      rcases cases_ with older | rfl
      · exact .inl older
      · right
        refine ⟨rfl, rfl, ?_, rfl, ⟨now, ?_⟩, ?_⟩ <;>
          simp [Frame.opening, State.backendId, MultipartStore.create]

theorem Moves.seq_le (moves : Moves options state before next after) :
    state.store.seq ≤ next.store.seq := by
  cases moves.allocation with
  | unchanged _ seq => exact seq.ge
  | created => exact Nat.le_succ _

/-- A new identifier is not in the registry. -/
theorem Identified.lookup_next
    (identified : Identified state)
    (now : Nat) :
    state.store.byId.lookup (mpuId (state.store.seq + 1) now) = none := by
  cases found : state.store.byId.lookup (mpuId (state.store.seq + 1) now) with
  | none => rfl
  | some upload =>
      obtain ⟨allocated, owns⟩ := identified.registered _ _ found
      exact absurd owns (identified.uploadIssued upload allocated).ne_next

/-- A section keeps the registry in step with the uploads. -/
theorem Identified.registered_step
    (identified : Identified state)
    (moves : Moves options state before next after)
    {uploadId : String}
    {upload : UploadPtr}
    (found : next.store.byId.lookup uploadId = some upload) :
    upload < next.store.allocated ∧
      (next.store.objects upload).uploadId = uploadId := by
  have known : ∀ _ : state.store.byId.lookup uploadId = some upload,
      upload < next.store.allocated ∧
        (next.store.objects upload).uploadId = uploadId := by
    intro foundBefore
    obtain ⟨allocated, owns⟩ := identified.registered _ _ foundBefore
    exact ⟨Nat.lt_of_lt_of_le allocated moves.allocated_le,
      (moves.identity allocated).1.trans owns⟩
  have change := moves.registryChange uploadId
  generalize entryEq : next.store.byId.lookup uploadId = entry at change found
  cases change with
  | unchanged => exact known found
  | created params backendId now fresh =>
      cases moves with
      | create _ _ created =>
          simp only [State.withStore_store, MultipartStore.create,
            Table.lookup_emplace_eq, identified.lookup_next,
            Option.getD_none] at entryEq
          split at entryEq
          · next owns =>
              rw [found, Option.some.injEq] at entryEq
              subst entryEq owns
              simp [MultipartStore.create]
          · rw [found] at entryEq
            exact known entryEq
  | completed | aborted | expired => cases found

/-- A section keeps the identifiers of uploads apart. -/
theorem Identified.step
    (identified : Identified state)
    (frame : FrameIdentified state before)
    (moves : Moves options state before next after) :
    Identified next where
  registered := by
    intro uploadId upload found
    exact identified.registered_step moves found
  uploadIssued := by
    intro upload exists_
    rcases moves.upload_cases exists_ with
      older | ⟨rfl, _, _, seqEq, ⟨now, fresh⟩, _⟩
    · rw [(moves.identity older).1]
      exact (identified.uploadIssued upload older).mono moves.seq_le
    · exact ⟨_, now, fresh, seqEq.ge⟩
  uploadInjective := by
    intro first second firstExists secondExists same
    rcases moves.upload_cases firstExists with
      firstOlder | ⟨rfl, _, _, _, ⟨firstNow, firstFresh⟩, _⟩
    · rcases moves.upload_cases secondExists with
        secondOlder | ⟨rfl, _, _, _, ⟨secondNow, secondFresh⟩, _⟩
      · rw [(moves.identity firstOlder).1,
          (moves.identity secondOlder).1] at same
        exact identified.uploadInjective first second firstOlder secondOlder
          same
      · rw [(moves.identity firstOlder).1, secondFresh] at same
        exact absurd same
          (identified.uploadIssued first firstOlder).ne_next
    · rcases moves.upload_cases secondExists with
        secondOlder | ⟨rfl, _, _, _, ⟨secondNow, secondFresh⟩, _⟩
      · rw [(moves.identity secondOlder).1, firstFresh] at same
        exact absurd same.symm
          (identified.uploadIssued second secondOlder).ne_next
      · rfl
  backendIssued := by
    intro upload exists_
    rcases moves.upload_cases exists_ with older | ⟨rfl, _, opens, _⟩
    · rw [(moves.identity older).2.1]
      exact (identified.backendIssued upload older).mono moves.mpuSeq_le
    · exact (frame.openingIssued _ opens).mono moves.mpuSeq_le
  backendInjective := by
    intro first second firstExists secondExists same
    rcases moves.upload_cases firstExists with
      firstOlder | ⟨rfl, _, firstOpens, _⟩
    · rcases moves.upload_cases secondExists with
        secondOlder | ⟨rfl, _, secondOpens, _⟩
      · rw [(moves.identity firstOlder).2.1,
          (moves.identity secondOlder).2.1] at same
        exact identified.backendInjective first second firstOlder secondOlder
          same
      · rw [(moves.identity firstOlder).2.1] at same
        exact absurd same
          (frame.openingFresh _ secondOpens first firstOlder)
    · rcases moves.upload_cases secondExists with
        secondOlder | ⟨rfl, _, secondOpens, _⟩
      · rw [(moves.identity secondOlder).2.1] at same
        exact absurd same.symm
          (frame.openingFresh _ firstOpens second secondOlder)
      · rfl
  stagingOwned := by
    intro key staged
    have owned : ∃ upload, upload < state.store.allocated ∧
        state.backendId upload = key := by
      have change := moves.stagingChange key
      generalize next.backend.data.mpu.lookup key = entry at change staged
      cases change with
      | unchanged => exact identified.stagingOwned key staged
      | written upload part now reply owns succeeded =>
          exact ⟨upload, frame.bound upload (by simp [Frame.uploads]), owns⟩
      | refused upload part error owns failed =>
          exact ⟨upload, frame.bound upload (by simp [Frame.uploads]), owns⟩
      | detached | aborted => exact absurd rfl staged
    obtain ⟨upload, allocated, rfl⟩ := owned
    exact ⟨upload, Nat.lt_of_lt_of_le allocated moves.allocated_le,
      (moves.identity allocated).2.1⟩

/-- An upload that is not yet in the registry has no staging. -/
theorem Identified.lookup_opening
    (identified : Identified state)
    (frame : FrameIdentified state before)
    {id : String}
    (opens : before.opening = some id) :
    state.backend.data.mpu.lookup id = none := by
  by_contra staged
  obtain ⟨upload, allocated, owns⟩ := identified.stagingOwned id staged
  exact frame.openingFresh id opens upload allocated owns

/-- A section keeps the references of its own frame. -/
theorem FrameIdentified.own
    (identified : Identified state)
    (frame : FrameIdentified state before)
    (moves : Moves options state before next after) :
    FrameIdentified next after where
  bound := by
    intro upload mentions
    refine Nat.lt_of_lt_of_le ?_ moves.allocated_le
    rcases moves.uploads mentions with known | ⟨uploadId, found⟩
    · exact frame.bound upload known
    · exact (identified.registered uploadId upload found).1
  openingIssued := by
    intro id opens
    rcases moves.opening_eq_some opens with opened | ⟨⟨now, rfl⟩, mpuSeq⟩
    · exact (frame.openingIssued id opened).mono moves.mpuSeq_le
    · exact ⟨_, now, rfl, mpuSeq.ge⟩
  openingFresh := by
    intro id opens upload exists_
    rcases moves.upload_cases exists_ with older | ⟨_, closes, _⟩
    · rw [(moves.identity older).2.1]
      rcases moves.opening_eq_some opens with opened | ⟨⟨now, rfl⟩, _⟩
      · exact frame.openingFresh id opened upload older
      · exact (identified.backendIssued upload older).ne_next
    · rw [closes] at opens
      cases opens

/-- A section keeps the references of all other frames. -/
theorem FrameIdentified.other
    {frame : Frame}
    (identified : FrameIdentified state frame)
    (distinct : FramesDistinct before frame)
    (moves : Moves options state before next after) :
    FrameIdentified next frame where
  bound := by
    intro upload mentions
    exact Nat.lt_of_lt_of_le (identified.bound upload mentions)
      moves.allocated_le
  openingIssued := by
    intro id opens
    exact (identified.openingIssued id opens).mono moves.mpuSeq_le
  openingFresh := by
    intro id opens upload exists_
    rcases moves.upload_cases exists_ with older | ⟨rfl, _, opened, _⟩
    · rw [(moves.identity older).2.1]
      exact identified.openingFresh id opens upload older
    · rintro rfl
      exact distinct _ opened opens

/-- A section opens no upload that another frame opens. -/
theorem FramesDistinct.step
    {frame : Frame}
    (distinct : FramesDistinct before frame)
    (identified : FrameIdentified state frame)
    (moves : Moves options state before next after) :
    FramesDistinct after frame := by
  intro id opens
  rcases moves.opening_eq_some opens with opened | ⟨⟨now, rfl⟩, _⟩
  · exact distinct id opened
  · intro otherOpens
    exact (identified.openingIssued _ otherOpens).ne_next rfl

/-- Identifiers are unique in every reachable state. -/
theorem PoolIdentified.of_reachable
    {guard : Pool State Frame → Nat × Input → Prop}
    {pool : Pool State Frame}
    (reachable : (machine options).Reachable guard pool) :
    PoolIdentified pool := by
  refine reachable.invariant ?_ ?_
  · rintro start ⟨capacityBytes, ttl, rfl⟩
    refine ⟨⟨?_, ?_, ?_, ?_, ?_, ?_⟩, ?_, ?_⟩
    · intro uploadId upload found
      simp [State.init, MultipartStore.init] at found
    · intro upload exists_
      exact absurd exists_ (Nat.not_lt_zero upload)
    · intro first second exists_
      exact absurd exists_ (Nat.not_lt_zero first)
    · intro upload exists_
      exact absurd exists_ (Nat.not_lt_zero upload)
    · intro first second exists_
      exact absurd exists_ (Nat.not_lt_zero first)
    · intro key staged
      simp [State.init, CompositeBackend.init, MemoryDataStore.init] at staged
    · intro thread
      refine ⟨?_, ?_, ?_⟩ <;> simp [Frame.uploads, Frame.opening]
    · intro first second _ id opens
      simp [Frame.opening] at opens
  · intro pool label later identified _ stepped
    obtain ⟨shared, frame, moves, rfl⟩ := moves_of_step stepped
    have own := identified.thread label.1
    refine identified.update ?_ (identified.shared.step own moves)
      (own.own identified.shared moves) ?_ ?_
    · intro first second distinct id opens otherOpens
      exact distinct id otherOpens opens
    · intro other different
      exact (identified.thread other).other
        (identified.pair label.1 other different.symm) moves
    · intro other different
      exact (identified.pair label.1 other different.symm).step
        (identified.thread other) moves

end Multipart
end Gateway
end TurboAccess

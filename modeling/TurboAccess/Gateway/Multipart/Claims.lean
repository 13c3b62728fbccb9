import TurboAccess.Gateway.Multipart.Identifiers

/-!
# Claims and aborts

A completion owns its upload from the section that claims it.  Claiming needs
an active upload, and only the rollback of the owner makes an upload active
again, so that two completions never own one upload, whatever aborts and
sweepers do in between.
-/

namespace TurboAccess
namespace Gateway
namespace Multipart

namespace Frame

/-- The upload a completion owns, with the state the completion keeps it in. -/
def claims : Frame → Option (UploadPtr × UploadState)
  | .completing upload _ (.marked _) => some (upload, .completed)
  | .completing upload _ _ => some (upload, .completing)
  | .finished (.completed upload _) => some (upload, .completed)
  | _ => none

/-- The uploads a frame has marked aborted. -/
def aborted : Frame → List UploadPtr
  | .aborting upload .call _ => [upload]
  | .aborting upload (.sweeper swept _) _ => swept ++ [upload]
  | .unregistering upload => [upload]
  | .sweeping swept _ => swept
  | .finished (.aborted upload) => [upload]
  | .finished (.swept swept) => swept
  | _ => []

/-- A completion keeps its upload completing or completed. -/
theorem claims_state
    {frame : Frame}
    {upload : UploadPtr}
    {value : UploadState}
    (owns : frame.claims = some (upload, value)) :
    value = .completing ∨ value = .completed := by
  revert owns
  fun_cases claims frame <;> simp +contextual [eq_comm]

theorem mem_uploads_of_claims
    {frame : Frame}
    {upload : UploadPtr}
    {value : UploadState}
    (owns : frame.claims = some (upload, value)) :
    upload ∈ frame.uploads := by
  revert owns
  fun_cases claims frame <;> simp +contextual [uploads, eq_comm]

theorem mem_uploads_of_aborted
    {frame : Frame}
    {upload : UploadPtr}
    (marked : upload ∈ frame.aborted) :
    upload ∈ frame.uploads := by
  revert marked
  fun_cases aborted frame <;> simp only [uploads, List.mem_append,
    List.mem_cons, List.not_mem_nil, or_false] <;> tauto

end Frame

variable
  {options : CoordinatorOptions}
  {state next : State}
  {before after : Frame}

/-! ## Views of a section -/

/-- A completion owns the upload it owned, or has just claimed an active one,
or has just marked its own completed. -/
theorem Moves.claims_eq_some
    (moves : Moves options state before next after)
    {upload : UploadPtr}
    {value : UploadState}
    (owns : after.claims = some (upload, value)) :
    before.claims = some (upload, value) ∨
      ((state.store.objects upload).state = .active ∧
        (next.store.objects upload).state = value) ∨
      (before.claims = some (upload, .completing) ∧
        (next.store.objects upload).state = value) := by
  cases moves with
  | accept call =>
      revert owns
      fun_cases Multipart.accept state call <;> simp [Frame.claims]
  | claim mover request active =>
      simp only [Frame.claims, Option.some.injEq, Prod.mk.injEq] at owns
      obtain ⟨rfl, rfl⟩ := owns
      exact .inr (.inl ⟨active, by simp [objects_setState]⟩)
  | complete mover request stage now =>
      obtain ⟨next, after, result, completes⟩ :=
        exists_completes options state mover request now stage
      rw [result] at owns ⊢
      cases completes with
      | setCompleted metadata =>
          cases owns
          exact .inr (.inr ⟨rfl, by simp [objects_setState]⟩)
      | rollBack error => simp [Frame.claims] at owns
      | invalid | untargeted | target | unstaged | detach | missing | release
      | refuse | install | unrecorded | take | putIndex | eraseTarget
      | unregister => exact .inl owns
  | abort mover origin stage =>
      revert owns
      fun_cases advanceAbort state mover origin stage <;>
        cases origin <;> simp [Frame.claims]
  | create params backendId now outcome outcomeEq =>
      subst outcomeEq
      simp [Frame.claims] at owns
  | putIndex bucket key size now outcome outcomeEq =>
      subst outcomeEq
      simp [Frame.claims] at owns
  | addTarget | refusePart | writePart | registerPart | refuseClaim
  | refuseAbort | markAborted | unregister | visit | endScan | endSweep
  | sweepNext => simp [Frame.claims] at owns

/-- A frame has marked the uploads it had marked, and possibly one more. -/
theorem Moves.mem_aborted
    (moves : Moves options state before next after)
    {upload : UploadPtr}
    (marked : upload ∈ after.aborted) :
    upload ∈ before.aborted ∨
      (next.store.objects upload).state = .aborted := by
  cases moves with
  | accept call =>
      revert marked
      fun_cases Multipart.accept state call <;> simp [Frame.aborted]
  | complete mover request stage now =>
      revert marked
      fun_cases advanceCompletion options state mover request now stage <;>
        simp [Frame.aborted]
  | abort mover origin stage =>
      left
      revert marked
      fun_cases advanceAbort state mover origin stage <;>
        cases origin <;>
        simp only [Frame.aborted, List.mem_append, List.mem_singleton] <;>
        tauto
  | markAborted mover dataPath sameFlow =>
      simp only [Frame.aborted, List.mem_singleton] at marked
      subst marked
      exact .inr (by simp [objects_setState])
  | sweepNext swept mover pending =>
      simp only [Frame.aborted, List.mem_append, List.mem_singleton] at marked
      rcases marked with known | rfl
      · exact .inl known
      · exact .inr (by simp [objects_setState])
  | create params backendId now outcome outcomeEq =>
      subst outcomeEq
      simp [Frame.aborted] at marked
  | putIndex bucket key size now outcome outcomeEq =>
      subst outcomeEq
      simp [Frame.aborted] at marked
  | unregister | endSweep => exact .inl marked
  | addTarget | refusePart | writePart | registerPart | refuseClaim | claim
  | refuseAbort | visit | endScan => simp [Frame.aborted] at marked

/-- A frame never takes back an abort. -/
theorem Moves.aborted_of_before
    (moves : Moves options state before next after)
    {upload : UploadPtr}
    (marked : upload ∈ before.aborted) :
    upload ∈ after.aborted := by
  cases moves with
  | abort mover origin stage =>
      cases origin <;> cases stage <;>
        simp_all [Frame.aborted, advanceAbort]
  | unregister | endSweep => exact marked
  | sweepNext swept mover pending =>
      simp only [Frame.aborted, List.mem_append] at marked ⊢
      exact .inl marked
  | accept | addTarget | create | refusePart | writePart | registerPart
  | refuseClaim | claim | complete | refuseAbort | markAborted | visit
  | endScan | putIndex => simp [Frame.aborted] at marked

/-! ## Ownership -/

/-- An upload that is owned is not active. -/
def FrameOwns (state : State) (frame : Frame) : Prop :=
  ∀ upload value, frame.claims = some (upload, value) →
    (state.store.objects upload).state ≠ .active

/-- Two completions never own one upload. -/
def FramesExclusive (first second : Frame) : Prop :=
  ∀ upload firstValue secondValue,
    first.claims = some (upload, firstValue) →
      second.claims ≠ some (upload, secondValue)

/-- The invariant of ownership. -/
abbrev PoolOwned : Pool State Frame → Prop :=
  Pool.Holds (fun _ => True) FrameOwns FramesExclusive

/-- An owned upload becomes active through its owner only. -/
private theorem ne_active_of_moves
    {upload : UploadPtr}
    (moves : Moves options state before next after)
    (allocated : upload < state.store.allocated)
    (owned : (state.store.objects upload).state ≠ .active)
    (keeps : ∀ request error,
      before ≠ .completing upload request (.failing error)) :
    (next.store.objects upload).state ≠ .active := by
  have change := moves.uploadChange allocated
  generalize next.store.objects upload = changed at change
  cases change with
  | unchanged | registered => exact owned
  | rolledBack request error => exact absurd rfl (keeps request error)
  | claimed | completed | aborted => simp

/-- Completions own their uploads alone in every reachable state. -/
theorem PoolOwned.of_reachable
    {guard : Pool State Frame → Nat × Input → Prop}
    {pool : Pool State Frame}
    (reachable : (machine options).Reachable guard pool) :
    PoolOwned pool := by
  refine reachable.induction ?_ ?_
  · rintro start ⟨capacityBytes, ttl, rfl⟩
    refine ⟨trivial, ?_, ?_⟩
    · intro thread upload value owns
      simp [Frame.claims] at owns
    · intro first second _ upload firstValue secondValue owns
      simp [Frame.claims] at owns
  · intro pool label later reached owned _ stepped
    have identified := PoolIdentified.of_reachable reached
    obtain ⟨shared, frame, moves, rfl⟩ := moves_of_step stepped
    have symmetric : ∀ first second,
        FramesExclusive first second → FramesExclusive second first := by
      intro first second exclusive upload value otherValue owns otherOwns
      exact exclusive upload otherValue value otherOwns owns
    refine owned.update symmetric trivial ?_ ?_ ?_
    · intro upload value owns
      rcases moves.claims_eq_some owns with claimed | ⟨_, marked⟩ | ⟨_, marked⟩
      · refine ne_active_of_moves moves
          ((identified.thread label.1).bound upload
            (Frame.mem_uploads_of_claims claimed))
          (owned.thread label.1 upload value claimed) ?_
        intro request error failing
        rw [failing] at moves
        cases moves
        simp [advanceCompletion, Frame.claims] at owns
      · rw [marked]
        rcases Frame.claims_state owns with rfl | rfl <;> simp
      · rw [marked]
        rcases Frame.claims_state owns with rfl | rfl <;> simp
    · intro other different upload value owns
      refine ne_active_of_moves moves
        ((identified.thread other).bound upload
          (Frame.mem_uploads_of_claims owns))
        (owned.thread other upload value owns) ?_
      intro request error failing
      exact owned.pair other label.1 different upload value .completing owns
        (by rw [failing]; rfl)
    · intro other different upload value otherValue owns otherOwns
      have exclusive := owned.pair label.1 other different.symm
      rcases moves.claims_eq_some owns with claimed | ⟨active, _⟩ | ⟨claimed, _⟩
      · exact exclusive upload _ _ claimed otherOwns
      · exact owned.thread other upload otherValue otherOwns active
      · exact exclusive upload _ _ claimed otherOwns

end Multipart
end Gateway
end TurboAccess

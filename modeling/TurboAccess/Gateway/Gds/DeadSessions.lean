import TurboAccess.Gateway.Gds.ControlPlane

/-!
# Chunks of dead sessions

The handlers of a chunk look at neither the state nor the deadline of the
session they resolve.  A chunk that is not turned away before the backend reads
or writes it, also when its session was aborted, has failed, or has run out of
time.  In the runs in which this does not happen, nothing brings a session back
to life, so that an aborted session changes no object any more.
-/

namespace TurboAccess
namespace Gateway
namespace Gds

/-! ## The property and its condition -/

/-- A session that a chunk may use. -/
def Usable (sessions : SessionStore) (ptr : SessionPtr) (now : Nat) : Prop :=
  (sessions.objects ptr).Live ∧ now < (sessions.objects ptr).expireDeadline

instance (sessions : SessionStore) (ptr : SessionPtr) (now : Nat) :
    Decidable (Usable sessions ptr now) :=
  inferInstanceAs (Decidable (_ ∧ _))

/-- A transfer from the client that comes to nothing. -/
def Unpulled (answers : CuObjAnswers) : Prop :=
  answers.connected = false ∨ answers.leaseOk = false ∨
    answers.channelOk = false ∨ answers.transferred < 0

instance (answers : CuObjAnswers) : Decidable (Unpulled answers) :=
  inferInstanceAs (Decidable (_ ∨ _ ∨ _ ∨ _))

/-- A chunk to be pushed that does not get to the backend. -/
def GetRefused
    (options : GdsOptions)
    (length : Nat)
    (answers : CuObjAnswers) : Prop :=
  options.maxChunkBytes < length ∨ length = 0 ∨ answers.connected = false ∨
    answers.leaseOk = false

instance (options : GdsOptions) (length : Nat) (answers : CuObjAnswers) :
    Decidable (GetRefused options length answers) :=
  inferInstanceAs (Decidable (_ ∨ _ ∨ _ ∨ _))

/-- A chunk to be pulled that does not get to the backend. -/
def PutRefused
    (options : GdsOptions)
    (length : Nat)
    (answers : CuObjAnswers) : Prop :=
  options.maxChunkBytes < length ∨ length ≠ 0 ∧ Unpulled answers

instance (options : GdsOptions) (length : Nat) (answers : CuObjAnswers) :
    Decidable (PutRefused options length answers) :=
  inferInstanceAs (Decidable (_ ∨ _ ∧ _))

/-- A request for a part that is turned away before its chunk is looked at. -/
def PartRefused
    (config : Config)
    (plane : ControlPlane)
    (request : GdsChunkRequest) : Prop :=
  request.uploadId ≠ "" ∧
    (config.multipartHandler = false ∨
      plane.media.uploads.store.find request.uploadId = none)

instance (config : Config) (plane : ControlPlane) (request : GdsChunkRequest) :
    Decidable (PartRefused config plane request) :=
  inferInstanceAs (Decidable (_ ∧ (_ ∨ _)))

/-- A prepared chunk that is turned away before the backend. -/
def TurnedAway
    (config : Config)
    (plane : ControlPlane)
    (op : ChunkOp)
    (request : GdsChunkRequest)
    (answers : CuObjAnswers) : Prop :=
  match op with
  | .get =>
      (plane.backend.head request.bucket request.objectKey).success = false ∨
        GetRefused config.options request.chunkSize answers
  | .put =>
      PartRefused config plane request ∨
        PutRefused config.options request.chunkSize answers

instance
    (config : Config)
    (plane : ControlPlane)
    (op : ChunkOp)
    (request : GdsChunkRequest)
    (answers : CuObjAnswers) :
    Decidable (TurnedAway config plane op request answers) :=
  match op with
  | .get => inferInstanceAs (Decidable (_ ∨ _))
  | .put => inferInstanceAs (Decidable (_ ∨ _))

/-- The transfer of a prepared chunk calls the backend for a usable session
only. -/
def OnlyUsable
    (config : Config)
    (pool : Pool ControlPlane Frame)
    (label : Nat × Input) : Prop :=
  ∀ op request ptr transfer call,
    pool.threads label.1 = .prepared op request ptr →
      label.2 = .transfer transfer →
        (transferChunk config pool.shared op ptr request transfer).2.2 =
            some call →
          Usable pool.shared.sessions ptr transfer.now

/-- The session of a prepared chunk is usable when the chunk is transferred, or
the chunk is turned away. -/
def Sendable
    (config : Config)
    (pool : Pool ControlPlane Frame)
    (label : Nat × Input) : Prop :=
  ∀ op request ptr transfer,
    pool.threads label.1 = .prepared op request ptr →
      label.2 = .transfer transfer →
        Usable pool.shared.sessions ptr transfer.now ∨
          TurnedAway config pool.shared op request transfer.answers

/-- After a session is aborted, in the runs whose steps satisfy a guard, no
chunk of it changes an object. -/
def SilentAfterAbort
    (config : Config)
    (guard : Pool ControlPlane Frame → Nat × Input → Prop) : Prop :=
  ∀ pool thread sessionId aborted ptr labels finish label later,
    (machine config).Reachable guard pool →
      (machine config).step pool (thread, .abortSession sessionId) =
          some aborted →
        aborted.threads thread = .aborted true →
          pool.shared.sessions.find sessionId = .ok ptr →
            (machine config).Path guard aborted labels finish →
              guard finish label →
                (machine config).step finish label = some later →
                  (∃ op request,
                    finish.threads label.1 = .prepared op request ptr) →
                      later.shared.backend = finish.shared.backend

/-! ## What gets to the backend -/

theorem pullChunk_eq_error_iff (answers : CuObjAnswers) :
    (∃ error, pullChunk answers = .error error) ↔ Unpulled answers := by
  rw [pullChunk, Unpulled]
  split
  · simp [*]
  split
  · simp [*]
  split
  · simp [*]
  split
  · simp [*]
  · simp [*]

theorem call_getChunk_eq_none_iff
    (options : GdsOptions)
    (backend : CompositeBackend)
    (session : Session)
    (objectOffset length : Nat)
    (answers : CuObjAnswers) :
    (getChunk options backend session objectOffset length answers).2 = none ↔
      GetRefused options length answers := by
  rw [getChunk, GetRefused]
  split
  · simp [*]
  split
  · simp [*]
  split
  · simp [*]
  split
  · simp [*]
  dsimp only
  split
  · simp [*]
  · split_ifs <;> simp [*]

/-- A chunk of an object makes no call exactly when it is refused, and then
leaves the backend alone. -/
theorem call_putChunk
    (options : GdsOptions)
    (backend : CompositeBackend)
    (session : Session)
    (objectOffset length : Nat)
    (answers : CuObjAnswers)
    (now : Nat) :
    ((putChunk options backend session objectOffset length answers now).2.2 =
        none ↔ PutRefused options length answers) ∧
      ((putChunk options backend session objectOffset length answers now).2.2 =
          none →
        (putChunk options backend session objectOffset length answers
          now).2.1 = backend) := by
  have pulled := pullChunk_eq_error_iff answers
  rw [putChunk, PutRefused]
  split
  · simp [*]
  split
  · simp [*, writeObject]
  split
  · next error failed =>
      have unpulled := pulled.mp ⟨error, failed⟩
      simp [*]
  · next bytes succeeded =>
      have unrefused : ¬Unpulled answers := by
        rw [← pulled, succeeded]
        simp
      simp [*, writeObject]

/-- So does a chunk of a part. -/
theorem call_putPart
    (md5 : Bytes → Bytes)
    (options : GdsOptions)
    (media : Media)
    (upload : UploadPtr)
    (uploadId : String)
    (partNumber objectOffset length : Nat)
    (checksumPolicy : String)
    (answers : CuObjAnswers)
    (now : Nat) :
    let put := putPart md5 options media upload uploadId partNumber
      objectOffset length checksumPolicy answers now
    (put.2.2 = none ↔ PutRefused options length answers) ∧
      (put.2.2 = none → put.2.1 = media ∧ ∃ error, put.1 = .error error) := by
  have pulled := pullChunk_eq_error_iff answers
  rw [putPart, PutRefused]
  dsimp only
  split
  · simp [*]
  · next small =>
      split
      · simp [*, stagePart]
      · next nonempty =>
          split
          · next error failed =>
              have unpulled := pulled.mp ⟨error, failed⟩
              simp [nonempty, unpulled]
          · next bytes succeeded =>
              have unrefused : ¬Unpulled answers := by
                rw [← pulled, succeeded]
                simp
              split
              · next error media' call staged =>
                  simp only [stagePart, Prod.mk.injEq] at staged
                  obtain ⟨_, _, rfl⟩ := staged
                  simp [small, unrefused]
              · next etag media' call staged =>
                  simp only [stagePart, Prod.mk.injEq] at staged
                  obtain ⟨_, _, rfl⟩ := staged
                  split <;> simp [small, unrefused]

/-- So does a chunk of a part of an upload that is found by its identifier. -/
theorem call_uploadPart
    (md5 : Bytes → Bytes)
    (options : GdsOptions)
    (media : Media)
    (uploadId : String)
    (partNumber chunkOffset chunkSize : Nat)
    (checksumPolicy : String)
    (answers : CuObjAnswers)
    (backendNow now : Nat) :
    let uploaded := uploadPart md5 options media uploadId partNumber
      chunkOffset chunkSize checksumPolicy answers backendNow now
    (uploaded.2.2 = none ↔
        media.uploads.store.find uploadId = none ∨
          PutRefused options chunkSize answers) ∧
      (uploaded.2.2 = none → uploaded.2.1 = media) := by
  rw [uploadPart, State.lookup]
  dsimp only
  cases found : media.uploads.store.find uploadId with
  | none => simp
  | some upload =>
      obtain ⟨refused, same⟩ := call_putPart md5 options media upload
        (media.uploads.store.objects upload).backendUploadId partNumber
        chunkOffset chunkSize checksumPolicy answers backendNow
      dsimp only
      split
      · next error media' call put =>
          rw [put] at refused same
          simpa [refused] using fun unmade => (same unmade).1
      · next etag media' call put =>
          rw [put] at refused same
          have made : call ≠ none := by
            intro unmade
            obtain ⟨_, error, failed⟩ := same unmade
            cases failed
          simpa [made] using refused

/-- A transfer makes no backend call exactly when its chunk is turned away, and
then leaves the backend alone. -/
theorem call_transferChunk
    (config : Config)
    (plane : ControlPlane)
    (op : ChunkOp)
    (ptr : SessionPtr)
    (request : GdsChunkRequest)
    (transfer : Transfer) :
    let transferred := transferChunk config plane op ptr request transfer
    (transferred.2.2 = none ↔
        TurnedAway config plane op request transfer.answers) ∧
      (transferred.2.2 = none → transferred.2.1.backend = plane.backend) := by
  cases op with
  | get =>
      have read := call_getChunk_eq_none_iff config.options plane.backend
        (plane.sessions.objects ptr) request.chunkOffset request.chunkSize
        transfer.answers
      simp only [transferChunk, transferGet, TurnedAway]
      split
      · next error missing =>
          rw [missing]
          simp [Result.success, ControlPlane.markFailed]
      · next head present =>
          rw [present]
          split
          · next error call got =>
              rw [got] at read
              simpa [Result.success, ControlPlane.markFailed] using read
          · next chunk call got =>
              rw [got] at read
              simpa [Result.success] using read
  | put =>
      simp only [transferChunk, TurnedAway, PartRefused]
      split
      · next part =>
          obtain ⟨refused, same⟩ := call_uploadPart config.md5 config.options
            plane.media request.uploadId request.partNumber
            request.chunkOffset request.chunkSize request.checksumPolicy
            transfer.answers transfer.backendNow transfer.partNow
          rw [transferPart]
          split
          · simp [*]
          · next handled =>
              dsimp only
              split
              · next error media call uploaded =>
                  rw [uploaded] at refused same
                  refine ⟨by simpa [part, handled] using refused, ?_⟩
                  intro unmade
                  exact congrArg (fun media : Media => media.uploads.backend)
                    (same unmade)
              · next result media call uploaded =>
                  rw [uploaded] at refused same
                  refine ⟨by simpa [part, handled] using refused, ?_⟩
                  intro unmade
                  exact congrArg (fun media : Media => media.uploads.backend)
                    (same unmade)
      · next whole =>
          obtain ⟨refused, same⟩ := call_putChunk config.options plane.backend
            (plane.sessions.objects ptr) request.chunkOffset request.chunkSize
            transfer.answers transfer.backendNow
          rw [transferObject]
          split
          · next error backend call put =>
              rw [put] at refused same
              exact ⟨by simpa [whole] using refused, same⟩
          · next metadata backend call put =>
              rw [put] at refused same
              exact ⟨by simpa [whole] using refused, same⟩

/-! ## Dead sessions stay dead -/

/-- A store that is left alone, or in which one state is changed. -/
def Touched (store next : SessionStore) : Prop :=
  next = store ∨
    ∃ change ptr, next = SessionPool.StateChange.apply change store ptr

namespace Touched

variable {store next : SessionStore}

theorem markFailed (store : SessionStore) (sessionId : String) :
    Touched store (store.markFailed sessionId).2 := by
  rw [SessionStore.markFailed, SessionStore.mark]
  split
  · exact .inl rfl
  · next ptr found => exact .inr ⟨.markFailed, ptr, rfl⟩

theorem bumpActive (store : SessionStore) (sessionId : String) :
    Touched store (store.bumpActive sessionId).2 := by
  rw [SessionStore.bumpActive]
  split
  · exact .inl rfl
  · next ptr found => exact .inr ⟨.bumpActive, ptr, rfl⟩

theorem finishOpen
    (store : SessionStore)
    (ptr : SessionPtr)
    (hook : Option (Result Bool)) :
    Touched store (store.finishOpen ptr hook).2 := by
  match hook with
  | none => exact .inl rfl
  | some (.error _) => exact .markFailed store _
  | some (.ok _) => exact .inl rfl

theorem prepareGdsChunk
    (store : SessionStore)
    (request : GdsChunkRequest)
    (available : Bool) :
    Touched store (prepareGdsChunk store request available).2 := by
  rw [Gds.prepareGdsChunk]
  split
  · exact .inl rfl
  split
  · exact .inl rfl
  split
  · exact .inl rfl
  · exact .bumpActive store _

/-- A transfer fails its session, or leaves the sessions alone. -/
theorem transferChunk
    (config : Config)
    (plane : ControlPlane)
    (op : ChunkOp)
    (ptr : SessionPtr)
    (request : GdsChunkRequest)
    (transfer : Transfer) :
    Touched plane.sessions
      (transferChunk config plane op ptr request transfer).2.1.sessions := by
  have failed : Touched plane.sessions
      (plane.sessions.markFailed (plane.sessions.objects ptr).sessionId).2 :=
    .markFailed plane.sessions _
  cases op with
  | get =>
      simp only [Gds.transferChunk, transferGet]
      split
      · exact failed
      split
      · exact failed
      · exact .inl rfl
  | put =>
      simp only [Gds.transferChunk]
      split
      · rw [transferPart]
        split
        · exact .inl rfl
        split
        · exact failed
        · exact .inl rfl
      · rw [transferObject]
        split
        · exact failed
        · exact .inl rfl

theorem onlyStates (touched : Touched store next) : store.OnlyStates next := by
  rcases touched with rfl | ⟨change, ptr, rfl⟩
  · exact .refl _
  · exact SessionPool.onlyStates_change change store ptr

theorem live
    (touched : Touched store next)
    {ptr : SessionPtr}
    (live : (next.objects ptr).Live) :
    (store.objects ptr).Live := by
  rcases touched with rfl | ⟨change, changed, rfl⟩
  · exact live
  · exact SessionPool.live_of_change live

end Touched

/-- A step is a section of the session store, or changes at most one state. -/
theorem Steps.sessions_cases
    {config : Config}
    {plane next : ControlPlane}
    {before after : Frame}
    {input : Input}
    (steps : Steps config plane before input next after) :
    (∃ frame frame', before = .call frame ∧ after = .call frame' ∧
        SessionPool.Moves plane.sessions frame next.sessions frame') ∨
      after.inStore = .idle ∧ Touched plane.sessions next.sessions := by
  cases steps with
  | session frame frame' input sessions moved =>
      exact .inl ⟨frame, frame', rfl, rfl, SessionPool.moves_of_advance moved⟩
  | hook req ptr executors now =>
      refine .inr ⟨rfl, ?_⟩
      simp only [openHook]
      exact .finishOpen plane.sessions ptr _
  | refused op request available message failed =>
      exact .inr ⟨rfl, .prepareGdsChunk plane.sessions request available⟩
  | prepared op request available ptr resolved =>
      exact .inr ⟨rfl, .prepareGdsChunk plane.sessions request available⟩
  | transferred op request ptr transfer =>
      exact .inr ⟨rfl, .transferChunk config plane op ptr request transfer⟩
  | aborted sessionId => exact .inr ⟨rfl, .markFailed plane.sessions sessionId⟩
  | others media => exact .inr ⟨rfl, .inl rfl⟩

/-- The sessions that calls have in hand exist. -/
def Grounded (pool : Pool ControlPlane Frame) : Prop :=
  SessionPool.Grounded pool.shared.sessions (Frame.inStore ∘ pool.threads)

theorem Grounded.steps
    {config : Config}
    {pool : Pool ControlPlane Frame}
    {mover : Nat}
    {input : Input}
    {next : ControlPlane}
    {after : Frame}
    (grounded : Grounded pool)
    (steps : Steps config pool.shared (pool.threads mover) input next after) :
    Grounded ⟨next, Function.update pool.threads mover after⟩ := by
  rw [Grounded, Function.comp_update]
  rcases steps.sessions_cases with
    ⟨frame, frame', calls, rfl, moves⟩ | ⟨outside, touched⟩
  · have inStore : (Frame.inStore ∘ pool.threads) mover = frame := by
      rw [Function.comp_apply, calls]
      rfl
    rw [← inStore] at moves
    exact SessionPool.Grounded.moves grounded moves
  · rw [outside]
    exact SessionPool.Grounded.onlyStates grounded touched.onlyStates

theorem Grounded.of_reachable
    {config : Config}
    {guard : Pool ControlPlane Frame → Nat × Input → Prop}
    {pool : Pool ControlPlane Frame}
    (reachable : (machine config).Reachable guard pool) :
    Grounded pool := by
  refine reachable.invariant ?_ ?_
  · rintro start ⟨gatewayId, sessionTtl, media, rfl⟩
    exact SessionPool.Grounded.init gatewayId sessionTtl
  · intro state label next grounded _ stepped
    obtain ⟨shared, frame, moved, rfl⟩ := Pool.step_eq_some stepped
    exact grounded.steps (steps_of_advance moved)

/-- A session that exists and is not live. -/
def Dead (sessions : SessionStore) (ptr : SessionPtr) : Prop :=
  ptr < sessions.allocated ∧ ¬(sessions.objects ptr).Live

/-- No step brings a session back to life. -/
theorem Dead.steps
    {config : Config}
    {plane next : ControlPlane}
    {before after : Frame}
    {input : Input}
    {ptr : SessionPtr}
    (dead : Dead plane.sessions ptr)
    (steps : Steps config plane before input next after) :
    Dead next.sessions ptr := by
  obtain ⟨exists_, lifeless⟩ := dead
  rcases steps.sessions_cases with
    ⟨frame, frame', _, _, moves⟩ | ⟨_, touched⟩
  · exact ⟨Nat.lt_of_lt_of_le exists_ moves.allocated_le,
      fun live => lifeless (moves.live exists_ live)⟩
  · exact ⟨touched.onlyStates.allocated ▸ exists_,
      fun live => lifeless (touched.live live)⟩

/-- No run brings a session back to life. -/
theorem Dead.path
    {config : Config}
    {guard : Pool ControlPlane Frame → Nat × Input → Prop}
    {start finish : Pool ControlPlane Frame}
    {labels : List (Nat × Input)}
    {ptr : SessionPtr}
    (dead : Dead start.shared.sessions ptr)
    (path : (machine config).Path guard start labels finish) :
    Dead finish.shared.sessions ptr := by
  let property : Pool ControlPlane Frame → Prop := fun pool =>
    Dead pool.shared.sessions ptr
  have kept : property finish := by
    refine path.preserves ?_ dead
    intro state label next dead _ stepped
    obtain ⟨shared, frame, moved, rfl⟩ := Pool.step_eq_some stepped
    exact Dead.steps dead (steps_of_advance moved)
  exact kept

/-- An aborted session that was found is dead. -/
theorem dead_of_abort
    {plane : ControlPlane}
    {sessionId : String}
    {ptr : SessionPtr}
    (named : plane.sessions.Named)
    (found : plane.sessions.find sessionId = .ok ptr) :
    Dead (abortSession plane sessionId).2.sessions ptr := by
  have exists_ := (named.byId sessionId ptr
    (SessionStore.find_eq_ok.mp found)).1
  simp only [abortSession, SessionStore.markFailed, SessionStore.mark, found]
  refine ⟨exists_, ?_⟩
  simp [SessionStore.setState, Session.Live]

/-! ## The theorem -/

/-- A transfer calls the backend for a usable session only, exactly when it
meets the condition. -/
theorem onlyUsable_iff_sendable
    (config : Config)
    (pool : Pool ControlPlane Frame)
    (label : Nat × Input) :
    OnlyUsable config pool label ↔ Sendable config pool label := by
  constructor
  · intro only op request ptr transfer prepared transfers
    have called := (call_transferChunk config pool.shared op ptr request
      transfer).1
    cases callEq : (transferChunk config pool.shared op ptr request
        transfer).2.2 with
    | none => exact .inr (called.mp callEq)
    | some call =>
        exact .inl (only op request ptr transfer call prepared transfers callEq)
  · intro sendable op request ptr transfer call prepared transfers callEq
    refine (sendable op request ptr transfer prepared
      transfers).resolve_right ?_
    intro turnedAway
    have called := (call_transferChunk config pool.shared op ptr request
      transfer).1.mpr turnedAway
    rw [callEq] at called
    cases called

/-- Where chunks meet the condition, aborted sessions change no object. -/
theorem silentAfterAbort_of_sendable (config : Config) :
    SilentAfterAbort config (Sendable config) := by
  rintro pool thread sessionId aborted ptr labels finish ⟨mover, input⟩ later
    reachable aborts erased found path sendable stepped ⟨op, request, prepared⟩
  have dead : Dead finish.shared.sessions ptr := by
    refine Dead.path ?_ path
    obtain ⟨shared, frame, moved, rfl⟩ := Pool.step_eq_some aborts
    have steps := steps_of_advance moved
    dsimp only at steps
    generalize pool.threads thread = before at steps
    cases steps with
    | aborted =>
        exact dead_of_abort (Grounded.of_reachable reachable).named found
  obtain ⟨shared, frame, moved, rfl⟩ := Pool.step_eq_some stepped
  have steps := steps_of_advance moved
  dsimp only at prepared steps ⊢
  rw [prepared] at steps
  cases steps with
  | transferred _ _ _ transfer =>
      rcases sendable op request ptr transfer prepared rfl with
        ⟨live, _⟩ | turnedAway
      · exact absurd live dead.2
      · have transferred := call_transferChunk config finish.shared op ptr
          request transfer
        exact transferred.2 (transferred.1.mpr turnedAway)

/-- A transfer calls the backend for a usable session only, exactly when its
session is usable or its chunk is turned away; and in the runs in which every
transfer does so, no chunk of an aborted session changes an object. -/
theorem onlyUsable_iff_and_silentAfterAbort (config : Config) :
    (∀ pool, (machine config).Reachable Machine.always pool → ∀ label,
        (OnlyUsable config pool label ↔ Sendable config pool label)) ∧
      SilentAfterAbort config (Sendable config) :=
  ⟨fun pool _ label => onlyUsable_iff_sendable config pool label,
    silentAfterAbort_of_sendable config⟩

private def sampleConfig : Config := ⟨id, .default, true⟩

/-- A session on the GPU path, for a write of unknown size. -/
private def gpuRequest : OpenSessionParams :=
  ⟨"ses", "", "bucket", "object", .put, .gpuDirect, "", 0, 0, "", false⟩

private def gpuDraw : Draw := ⟨(0, 0), (0, 0), (0, 0), "", 0⟩

private def emptyPlane : Pool ControlPlane Frame :=
  ⟨⟨.init "gateway" 10, ⟨.init 16 10, fun _ => ∅⟩⟩, fun _ => .call .idle⟩

/-- A chunk of one byte. -/
private def oneByte : GdsChunkRequest :=
  ⟨"ses", "", "bucket", "object", "", 0, 1, "token", "", 0⟩

/-- The session is opened. -/
private def openedLabels : List (Nat × Input) :=
  [(0, .session (.create gpuRequest gpuDraw)), (0, .session .proceed),
    (0, .session .proceed), (0, .session .proceed),
    (0, .hook ⟨false, some true⟩ 0)]

/-- The transfer of the byte over a server that is connected, or not. -/
private def byteTransfer (connected : Bool) : Nat × Input :=
  (2, .transfer ⟨⟨connected, true, true, 1, "", fun _ => 7⟩, 5, 0, 0⟩)

/-- The condition, computed. -/
private def sendableNow
    (config : Config)
    (pool : Pool ControlPlane Frame)
    (label : Nat × Input) : Bool :=
  match pool.threads label.1, label.2 with
  | .prepared op request ptr, .transfer transfer =>
      decide (Usable pool.shared.sessions ptr transfer.now ∨
        TurnedAway config pool.shared op request transfer.answers)
  | _, _ => true

private theorem sendable_of_now
    (pool : Pool ControlPlane Frame)
    (label : Nat × Input)
    (holds : sendableNow sampleConfig pool label = true) :
    Sendable sampleConfig pool label := by
  intro op request ptr transfer prepared transfers
  simpa [sendableNow, prepared, transfers] using holds

/-- The states before the abort of the session, after it, and when a chunk of
the session is prepared. -/
private def abortRun : Option (Pool ControlPlane Frame ×
    Pool ControlPlane Frame × Pool ControlPlane Frame) :=
  (machine sampleConfig).runAround
    (fun pool label => sendableNow sampleConfig pool label = true) emptyPlane
    openedLabels (1, .abortSession "ses") [(2, .chunk .put oneByte true)]

private theorem abortRun_isSome : abortRun.isSome = true := by decide

/-- The run around the abort, under a guard that its steps satisfy. -/
private theorem abortRun_path
    {guard : Pool ControlPlane Frame → Nat × Input → Prop}
    (stronger : ∀ pool label, sendableNow sampleConfig pool label = true →
      guard pool label) :
    (machine sampleConfig).Reachable guard (abortRun.get abortRun_isSome).1 ∧
      (machine sampleConfig).step (abortRun.get abortRun_isSome).1
          (1, .abortSession "ses") =
        some (abortRun.get abortRun_isSome).2.1 ∧
      (machine sampleConfig).Path guard (abortRun.get abortRun_isSome).2.1
        [(2, .chunk .put oneByte true)]
        (abortRun.get abortRun_isSome).2.2 := by
  obtain ⟨first, _, aborts, second, _⟩ := Pool.path_of_runAround_below 3
    (.call .idle) rfl (fun pool label _ => stronger pool label)
    (fun _ _ => rfl) (by decide) (Option.some_get abortRun_isSome).symm
  exact ⟨⟨emptyPlane, _, ⟨"gateway", 10, _, rfl⟩, first⟩, aborts, second⟩

/-- A chunk of an aborted session over a server that is gone. -/
theorem onlyUsable_iff_and_silentAfterAbort_refusedChunk :
    ∃ finish later, finish.threads 2 = .prepared .put oneByte 0 ∧
      (machine sampleConfig).step finish (byteTransfer false) = some later ∧
      OnlyUsable sampleConfig finish (byteTransfer false) ∧
      later.shared.backend = finish.shared.backend := by
  obtain ⟨exact_, silent⟩ := onlyUsable_iff_and_silentAfterAbort sampleConfig
  obtain ⟨reachable, aborts, path⟩ := abortRun_path sendable_of_now
  obtain ⟨unguarded, aborts', path'⟩ :=
    @abortRun_path Machine.always fun _ _ _ => trivial
  have reached := (unguarded.step trivial aborts').path path'
  have sendable : Sendable sampleConfig (abortRun.get abortRun_isSome).2.2
      (byteTransfer false) := sendable_of_now _ _ (by decide)
  exact ⟨(abortRun.get abortRun_isSome).2.2, _, by decide, rfl,
    (exact_ _ reached _).mpr sendable,
    silent _ 1 "ses" _ 0 _ _ _ _ reachable aborts (by decide) (by decide) path
      sendable rfl ⟨.put, oneByte, by decide⟩⟩

/-- A chunk of an aborted session over a server that is there: it is written,
although its session has failed. -/
theorem aborted_session_writes :
    (¬∀ pool, (machine sampleConfig).Reachable Machine.always pool →
        ∀ label, OnlyUsable sampleConfig pool label) ∧
      ¬SilentAfterAbort sampleConfig Machine.always := by
  obtain ⟨reachable, aborts, path⟩ :=
    @abortRun_path Machine.always fun _ _ _ => trivial
  have reached := (reachable.step trivial aborts).path path
  constructor
  · intro always
    have usable := always _ reached (byteTransfer true) .put oneByte 0 _ _
      (by decide) rfl rfl
    revert usable
    decide
  · intro silent
    have same := silent _ 1 "ses" _ 0 _ _ (byteTransfer true) _ reachable aborts
      (by decide) (by decide) path trivial rfl ⟨.put, oneByte, by decide⟩
    revert same
    decide

end Gds
end Gateway
end TurboAccess

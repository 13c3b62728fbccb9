import TurboAccess.Client.Upload.PartAttempts

/-!
# Tags of parts on both sides

Every attempt of a part records a tag of its own on the gateway, made from the
clock or from a digest that has grown since the attempt before; the client keeps
the tag of the attempt whose answer arrived.  An attempt that the client has
given up on may record the part after that one, and the completion is then
refused, although every part was uploaded.

In the runs in which no attempt records a part after the attempt that the client
waits for, or has taken the answer of, both sides have the same tags.
-/

namespace TurboAccess
namespace Client

open Gateway (UploadPtr PartRecord validateParts)
open Gateway.Gds (Media)

/-- The tag under which an attempt is going to record its part. -/
def Attempt.pending : Attempt → Option String
  | .tagged _ etag => some etag
  | _ => none

/-- The tag under which an attempt has recorded its part. -/
def Attempt.recorded : Attempt → Option String
  | .finished (.ok etag) => some etag
  | _ => none

/-- An attempt that the client has not come to. -/
def UploadCall.Before (attempt : Nat) : UploadCall → Prop
  | .waiting => True
  | .trying current => current < attempt
  | .succeeded current _ => current < attempt
  | .failed _ => False

namespace PartUploads

variable
  {md5 : Bytes → Bytes}
  {policy : RetryPolicy}
  {plan : PartsPlan}
  {state next : PartUploads}
  {action : Action}

/-! ## The property and its condition -/

/-- Every call of the application has returned success. -/
def AllSucceeded (plan : PartsPlan) (state : PartUploads) : Prop :=
  ∀ part, 1 ≤ part → part ≤ plan.count →
    ∃ attempt etag, state.calls part = .succeeded attempt etag

/-- No attempt is in the hands of the gateway. -/
def AllFinished (state : PartUploads) : Prop :=
  ∀ name, state.attempts name = .unsent ∨
    ∃ answer, state.attempts name = .finished answer

/-- The parts of a completion, as the gateway reads them. -/
def partRecords (parts : List PartRef) : List PartRecord :=
  parts.map fun part => ⟨part.partNumber, part.etag⟩

/-- Once all calls have succeeded and all attempts are finished, the list that
the handle sends passes the check of its tags against the recorded parts.  No
size is too small here. -/
def EtagsAgree (plan : PartsPlan) (state : PartUploads) : Prop :=
  AllSucceeded plan state → AllFinished state →
    ∀ upload parts maxPartSize,
      state.media.uploads.store.find plan.uploadId = some upload →
        state.handle.snapshotPartsForComplete = .ok parts →
          validateParts ⟨maxPartSize, 0⟩
            (state.media.uploads.store.objects upload).parts
            (partRecords parts) = .ok ()

/-- An attempt records a part before the attempt that the client waits for, or
has taken the answer of, has recorded it under another tag. -/
def RecordsInTime (state : PartUploads) : Action → Prop
  | .register name _ =>
      ∀ etag ∈ (state.attempts name).pending,
        ∀ current ∈ (state.calls name.1).current,
          ∀ recorded ∈ (state.attempts (name.1, current)).recorded,
            recorded = etag
  | _ => True

instance (state : PartUploads) (action : Action) :
    Decidable (RecordsInTime state action) :=
  match action with
  | .register name _ =>
      inferInstanceAs (Decidable (∀ etag ∈ (state.attempts name).pending,
        ∀ current ∈ (state.calls name.1).current,
          ∀ recorded ∈ (state.attempts (name.1, current)).recorded,
            recorded = etag))
  | .uploadPart _ | .send _ | .accept _ | .giveUp _ _ | .refuse _ _
  | .receive _ | .write _ _ _ | .digest _ => inferInstanceAs (Decidable True)

/-! ## The invariant -/

/-- What holds in every run: attempts are on the upload of the plan, and there
are none that the client has not come to; the handle has the tags of the answers
that were taken. -/
structure Sound
    (plan : PartsPlan)
    (upload : UploadPtr)
    (state : PartUploads) : Prop where
  located : state.media.uploads.store.find plan.uploadId = some upload
  proper : ∀ name, (state.attempts name).Proper upload
  unmade : ∀ part attempt, (state.calls part).Before attempt →
    state.attempts (part, attempt) = .unsent
  answered : ∀ part attempt etag,
    state.calls part = .succeeded attempt etag →
      state.attempts (part, attempt) = .finished (.ok etag)
  ranged : ∀ part, state.calls part ≠ .waiting →
    1 ≤ part ∧ part ≤ plan.count
  unfinished : state.handle.finished = false
  listed : ∀ ref, ref ∈ state.handle.parts ↔
    ∃ attempt, state.calls ref.partNumber = .succeeded attempt ref.etag
  distinct : (state.handle.parts.map PartRef.partNumber).Nodup

/-- A part is recorded under the tag of the attempt that the client waits for, or
has taken the answer of, if that attempt has answered. -/
def Current (upload : UploadPtr) (state : PartUploads) : Prop :=
  ∀ part current etag, (state.calls part).current = some current →
    state.attempts (part, current) = .finished (.ok etag) →
      ∃ progress, (state.media.uploads.store.objects upload).parts.lookup
        part = some progress ∧ progress.etag = etag

theorem sound_init
    {media : Media}
    {maxPartSize : Nat}
    {upload : UploadPtr}
    (located : media.uploads.store.find plan.uploadId = some upload) :
    Sound plan upload (init media maxPartSize) where
  located := located
  proper := fun _ => trivial
  unmade := fun _ _ _ => rfl
  answered := nofun
  ranged := fun _ called => absurd rfl called
  unfinished := rfl
  listed := by simp [init]
  distinct := List.nodup_nil

variable {upload : UploadPtr}

/-- A call that starts, retries or ends without an answer. -/
theorem Sound.setCall
    (sound : Sound plan upload state)
    {part : Nat}
    {call : UploadCall}
    (first : 1 ≤ part)
    (last : part ≤ plan.count)
    (untaken : ∀ attempt etag, state.calls part ≠ .succeeded attempt etag)
    (nothing : ∀ attempt etag, call ≠ .succeeded attempt etag)
    (later : ∀ attempt, call.Before attempt →
      (state.calls part).Before attempt) :
    Sound plan upload (state.setCall part call) where
  located := sound.located
  proper := sound.proper
  unmade := by
    intro other attempt before
    by_cases same : other = part
    · subst same
      rw [setCall_calls, Function.update_self] at before
      exact sound.unmade other attempt (later attempt before)
    · rw [setCall_calls, Function.update_of_ne same] at before
      exact sound.unmade other attempt before
  answered := by
    intro other attempt etag
    by_cases same : other = part
    · subst same
      rw [setCall_calls, Function.update_self]
      exact fun succeeded => absurd succeeded (nothing attempt etag)
    · rw [setCall_calls, Function.update_of_ne same]
      exact sound.answered other attempt etag
  ranged := by
    intro other called
    by_cases same : other = part
    · subst same
      exact ⟨first, last⟩
    · rw [setCall_calls, Function.update_of_ne same] at called
      exact sound.ranged other called
  unfinished := sound.unfinished
  listed := by
    intro ref
    rw [setCall_handle, sound.listed ref]
    by_cases same : ref.partNumber = part
    · rw [setCall_calls, same, Function.update_self]
      constructor
      · rintro ⟨attempt, succeeded⟩
        exact absurd succeeded (untaken attempt _)
      · rintro ⟨attempt, succeeded⟩
        exact absurd succeeded (nothing attempt _)
    · rw [setCall_calls, Function.update_of_ne same]
  distinct := sound.distinct

/-- The client takes the answer of an attempt. -/
theorem Sound.accept
    (sound : Sound plan upload state)
    {part attempt bytes : Nat}
    {etag : String}
    (trying : state.calls part = .trying attempt)
    (taken : state.attempts (part, attempt) = .finished (.ok etag)) :
    Sound plan upload ({ state with
      handle := state.handle.recordUploadedPart part etag bytes }.setCall part
        (.succeeded attempt etag)) where
  located := sound.located
  proper := sound.proper
  unmade := by
    intro other number before
    by_cases same : other = part
    · subst same
      rw [setCall_calls, Function.update_self] at before
      apply sound.unmade other number
      rw [trying]
      exact before
    · rw [setCall_calls, Function.update_of_ne same] at before
      exact sound.unmade other number before
  answered := by
    intro other number tag
    by_cases same : other = part
    · subst same
      rw [setCall_calls, Function.update_self]
      rintro ⟨⟩
      exact taken
    · rw [setCall_calls, Function.update_of_ne same]
      exact sound.answered other number tag
  ranged := by
    intro other called
    by_cases same : other = part
    · subst same
      exact sound.ranged other (by rw [trying]; nofun)
    · rw [setCall_calls, Function.update_of_ne same] at called
      exact sound.ranged other called
  unfinished := sound.unfinished
  listed := by
    intro ref
    rw [setCall_handle, setCall_calls, MultipartUpload.recordUploadedPart,
      List.mem_append, List.mem_singleton, sound.listed ref]
    by_cases same : ref.partNumber = part
    · rw [same, Function.update_self, trying]
      constructor
      · rintro (⟨_, ⟨⟩⟩ | rfl)
        exact ⟨attempt, rfl⟩
      · rintro ⟨_, equal⟩
        injection equal with _ tags
        exact .inr (by rw [← same, tags])
    · rw [Function.update_of_ne same]
      apply or_iff_left
      rintro rfl
      exact same rfl
  distinct := by
    rw [setCall_handle, MultipartUpload.recordUploadedPart, List.map_append]
    refine List.nodup_append.mpr ⟨sound.distinct, List.nodup_singleton _, ?_⟩
    intro number member other single same
    rw [List.map_singleton, List.mem_singleton] at single
    obtain ⟨ref, present, rfl⟩ := List.mem_map.mp member
    obtain ⟨_, succeeded⟩ := (sound.listed ref).mp present
    rw [same, single, trying] at succeeded
    cases succeeded

/-- An attempt goes on without a record. -/
theorem Sound.advance
    (sound : Sound plan upload state)
    {name : Nat × Nat}
    {attempt : Attempt}
    {media : Media}
    (kept : media.uploads.store = state.media.uploads.store)
    (opened : state.attempts name = .unsent →
      state.calls name.1 = .trying name.2)
    (running : ∀ answer, state.attempts name ≠ .finished answer)
    (proper : attempt.Proper upload) :
    Sound plan upload ({ state with media }.setAttempt name attempt) where
  located := by
    rw [setAttempt_media, kept]
    exact sound.located
  proper := by
    intro other
    by_cases same : other = name
    · subst same
      simpa using proper
    · rw [setAttempt_attempts, Function.update_of_ne same]
      exact sound.proper other
  unmade := by
    intro part number before
    by_cases same : (part, number) = name
    · subst same
      have ahead := sound.unmade part number before
      rw [setAttempt_calls, opened ahead] at before
      exact absurd before (lt_irrefl number)
    · rw [setAttempt_attempts, Function.update_of_ne same]
      exact sound.unmade part number before
  answered := by
    intro part number etag succeeded
    have finished := sound.answered part number etag succeeded
    by_cases same : (part, number) = name
    · subst same
      exact absurd finished (running _)
    · rw [setAttempt_attempts, Function.update_of_ne same]
      exact finished
  ranged := sound.ranged
  unfinished := sound.unfinished
  listed := sound.listed
  distinct := sound.distinct

/-- An attempt records its part. -/
theorem Sound.register
    (sound : Sound plan upload state)
    {name : Nat × Nat}
    {etag : String}
    {size now : Nat}
    (tagged : state.attempts name = .tagged upload etag) :
    Sound plan upload ({ state with
      media := { state.media with
        uploads := state.media.uploads.registerPart upload name.1 0 size etag
          now } }.setAttempt name (.finished (.ok etag))) where
  located := sound.located
  proper := by
    intro other
    by_cases same : other = name
    · subst same
      have holds := sound.proper other
      rw [tagged] at holds
      rw [setAttempt_attempts, Function.update_self]
      exact holds.2
    · rw [setAttempt_attempts, Function.update_of_ne same]
      exact sound.proper other
  unmade := by
    intro part number before
    have ahead := sound.unmade part number before
    by_cases same : (part, number) = name
    · subst same
      rw [tagged] at ahead
      cases ahead
    · rw [setAttempt_attempts, Function.update_of_ne same]
      exact ahead
  answered := by
    intro part number tag succeeded
    have finished := sound.answered part number tag succeeded
    by_cases same : (part, number) = name
    · subst same
      rw [tagged] at finished
      cases finished
    · rw [setAttempt_attempts, Function.update_of_ne same]
      exact finished
  ranged := sound.ranged
  unfinished := sound.unfinished
  listed := sound.listed
  distinct := sound.distinct

/-- The upload of an attempt that is going to record is that of the plan. -/
theorem Sound.upload_eq
    (sound : Sound plan upload state)
    {name : Nat × Nat}
    {other : UploadPtr}
    {etag : String}
    (tagged : state.attempts name = .tagged other etag) :
    other = upload := by
  have holds := sound.proper name
  rw [tagged] at holds
  exact holds.1

theorem Sound.step
    (sound : Sound plan upload state)
    (moves : Moves plan state action next) :
    Sound plan upload next := by
  cases moves with
  | starts _ part first last waiting =>
      refine sound.setCall first last ?_ nofun ?_
      all_goals rw [waiting]
      · nofun
      · exact fun _ _ => trivial
  | fails _ part error first last waiting =>
      refine sound.setCall first last ?_ nofun nofun
      rw [waiting]
      nofun
  | retries _ part attempt trying =>
      obtain ⟨first, last⟩ := sound.ranged part (by rw [trying]; nofun)
      refine sound.setCall first last ?_ nofun ?_
      all_goals rw [trying]
      · nofun
      · exact fun other before => Nat.lt_of_succ_lt before
  | givesUp _ part attempt error trying =>
      obtain ⟨first, last⟩ := sound.ranged part (by rw [trying]; nofun)
      refine sound.setCall first last ?_ nofun nofun
      rw [trying]
      nofun
  | accepts _ part attempt etag trying answered =>
      exact sound.accept trying answered
  | advances _ name attempt media kept opened running unanswered proper =>
      exact sound.advance kept opened running
        (proper upload sound.located (sound.proper name))
  | registers name other etag now tagged =>
      obtain rfl := sound.upload_eq tagged
      exact sound.register tagged

/-! ## Records -/

/-- A call that starts or ends waits for no attempt that has answered. -/
theorem Current.setCall
    (current : Current upload state)
    {part : Nat}
    {call : UploadCall}
    (silent : ∀ attempt etag, call.current = some attempt →
      state.attempts (part, attempt) ≠ .finished (.ok etag)) :
    Current upload (state.setCall part call) := by
  intro other attempt etag
  by_cases same : other = part
  · subst same
    rw [setCall_calls, Function.update_self]
    exact fun waits answered => absurd answered (silent attempt etag waits)
  · rw [setCall_calls, Function.update_of_ne same]
    exact current other attempt etag

/-- The attempt whose answer is taken is the one the client waited for. -/
theorem Current.accept
    (current : Current upload state)
    {part attempt bytes : Nat}
    {etag : String}
    (trying : state.calls part = .trying attempt) :
    Current upload ({ state with
      handle := state.handle.recordUploadedPart part etag bytes }.setCall part
        (.succeeded attempt etag)) := by
  intro other number tag
  by_cases same : other = part
  · subst same
    rw [setCall_calls, Function.update_self]
    intro waits
    apply current other number tag
    rw [trying]
    exact waits
  · rw [setCall_calls, Function.update_of_ne same]
    exact current other number tag

/-- An attempt that goes on without a record. -/
theorem Current.advance
    (current : Current upload state)
    {name : Nat × Nat}
    {attempt : Attempt}
    {media : Media}
    (kept : media.uploads.store = state.media.uploads.store)
    (unanswered : ∀ etag, attempt ≠ .finished (.ok etag)) :
    Current upload ({ state with media }.setAttempt name attempt) := by
  intro part number etag waits
  by_cases same : (part, number) = name
  · subst same
    rw [setAttempt_attempts, Function.update_self]
    exact fun finished => absurd finished (unanswered etag)
  · rw [setAttempt_attempts, Function.update_of_ne same, setAttempt_media,
      kept]
    exact current part number etag waits

/-- A record in time is that of the attempt the client waits for, or comes before
it. -/
theorem Current.register
    (current : Current upload state)
    {name : Nat × Nat}
    {etag : String}
    {size now : Nat}
    (tagged : state.attempts name = .tagged upload etag)
    (inTime : RecordsInTime state (.register name now)) :
    Current upload ({ state with
      media := { state.media with
        uploads := state.media.uploads.registerPart upload name.1 0 size etag
          now } }.setAttempt name (.finished (.ok etag))) := by
  intro part number tag waits finished
  rw [setAttempt_media, Gateway.State.registerPart,
    Gateway.MultipartStore.modify]
  dsimp only
  rw [Function.update_self, Table.lookup_insert_eq]
  split
  · next same =>
      subst same
      refine ⟨_, rfl, ?_⟩
      by_cases own : (name.1, number) = name
      · rw [setAttempt_attempts, own, Function.update_self] at finished
        cases finished
        rfl
      · rw [setAttempt_attempts, Function.update_of_ne own] at finished
        have equal := inTime etag (by rw [tagged]; rfl) number waits tag
          (by rw [finished]; rfl)
        exact equal.symm
  · next other =>
      have apart : (part, number) ≠ name := by
        rintro rfl
        exact other rfl
      rw [setAttempt_attempts, Function.update_of_ne apart] at finished
      exact current part number tag waits finished

/-- A step that records in time leaves the parts recorded under the tags of the
attempts that the client waits for. -/
theorem Current.step
    (current : Current upload state)
    (sound : Sound plan upload state)
    (inTime : RecordsInTime state action)
    (moves : Moves plan state action next) :
    Current upload next := by
  cases moves with
  | starts _ part first last waiting =>
      apply current.setCall
      rintro attempt etag ⟨⟩
      rw [sound.unmade part 0 (by rw [waiting]; trivial)]
      nofun
  | retries _ part attempt trying =>
      apply current.setCall
      rintro _ etag ⟨⟩
      rw [sound.unmade part (attempt + 1)
        (by rw [trying]; exact Nat.lt_succ_self attempt)]
      nofun
  | fails | givesUp => exact current.setCall nofun
  | accepts _ part attempt etag trying answered =>
      exact current.accept trying
  | advances _ name attempt media kept opened running unanswered proper =>
      exact current.advance kept unanswered
  | registers name other etag now tagged =>
      obtain rfl := sound.upload_eq tagged
      exact current.register tagged inTime

/-! ## The list of a completion -/

/-- The tag of a call that has succeeded. -/
def takenEtag (state : PartUploads) (part : Nat) : String :=
  match state.calls part with
  | .succeeded _ etag => etag
  | _ => ""

/-- The handle lists every part once, under the tag of its answer. -/
theorem Sound.partRecords_perm
    (sound : Sound plan upload state)
    (succeeded : AllSucceeded plan state) :
    (partRecords state.handle.parts).Perm
      ((List.range' 1 plan.count).map fun part =>
        ⟨part, state.takenEtag part⟩) := by
  refine (List.perm_ext_iff_of_nodup ?_ ?_).mpr ?_
  · apply List.Nodup.of_map PartRecord.partNumber
    rw [partRecords, List.map_map]
    exact sound.distinct
  · refine List.Nodup.map ?_ List.nodup_range'
    intro left right same
    exact congrArg PartRecord.partNumber same
  · rintro ⟨part, etag⟩
    simp only [partRecords, List.mem_map, List.mem_range'_1]
    constructor
    · rintro ⟨ref, present, rfl, rfl⟩
      obtain ⟨attempt, taken⟩ := (sound.listed ref).mp present
      have ranged := sound.ranged ref.partNumber (by rw [taken]; nofun)
      refine ⟨ref.partNumber, by omega, ?_⟩
      rw [takenEtag, taken]
    · rintro ⟨number, within, equal⟩
      cases equal
      obtain ⟨attempt, etag, taken⟩ := succeeded part (by omega) (by omega)
      refine ⟨⟨part, etag⟩, (sound.listed _).mpr ⟨attempt, taken⟩, ?_⟩
      rw [takenEtag, taken]

/-- Where the invariants hold, both sides agree. -/
theorem Sound.etagsAgree
    (sound : Sound plan upload state)
    (current : Current upload state) :
    EtagsAgree plan state := by
  intro succeeded _ other parts maxPartSize located snapshot
  rw [sound.located] at located
  cases located
  rw [MultipartUpload.snapshotPartsForComplete, sound.unfinished] at snapshot
  cases snapshot
  refine Gateway.validateParts_eq_ok plan.numbered ?_
    (sound.partRecords_perm succeeded)
  intro part member
  rw [List.mem_range'_1] at member
  obtain ⟨attempt, etag, taken⟩ := succeeded part (by omega) (by omega)
  have answered := sound.answered part attempt etag taken
  have named := sound.proper (part, attempt)
  rw [answered] at named
  obtain ⟨progress, present, matching⟩ := current part attempt etag
    (by rw [taken, UploadCall.current]) answered
  rw [takenEtag, taken]
  exact ⟨named, progress, present, matching, fun _ => .inl rfl⟩

/-! ## The theorem -/

variable {guard : PartUploads → Action → Prop}

/-- Attempts and handle are as they should be in every run. -/
theorem sound_of_reachable
    (reachable : (machine md5 policy plan).Reachable guard state) :
    ∃ upload, Sound plan upload state := by
  let property : PartUploads → Prop := fun state =>
    ∃ upload, Sound plan upload state
  have holds : property state := by
    refine reachable.invariant ?_ ?_
    · rintro start ⟨media, maxPartSize, upload, located, rfl⟩
      exact ⟨upload, sound_init located⟩
    · rintro before action after ⟨upload, sound⟩ _ stepped
      exact ⟨upload, sound.step (moves_of_step stepped)⟩
  exact holds

/-- In the runs in which every attempt records its part in time, the list that
the handle sends passes the check of its tags. -/
theorem etagsAgree_of_recordsInTime
    (reachable : (machine md5 policy plan).Reachable RecordsInTime state) :
    EtagsAgree plan state := by
  let property : PartUploads → Prop := fun state =>
    ∃ upload, Sound plan upload state ∧ Current upload state
  have invariant : property state := by
    refine reachable.invariant ?_ ?_
    · rintro start ⟨media, maxPartSize, upload, located, rfl⟩
      exact ⟨upload, sound_init located, nofun⟩
    · rintro before action after ⟨upload, sound, current⟩ inTime stepped
      have moves := moves_of_step stepped
      exact ⟨upload, sound.step moves, current.step sound inTime moves⟩
  obtain ⟨upload, sound, current⟩ := invariant
  exact sound.etagsAgree current

/-! ## A late record -/

/-- A gateway with an upload that has just been opened. -/
private def openedMedia : Media where
  uploads := ((Gateway.State.init 10 0).createUpload ⟨0, 0⟩
    ⟨"b", "k", none, "cpu-direct", ""⟩ 0 0).2
  md5Ctxs := fun _ => ∅

/-- One part on the CPU path. -/
private def onePart : PartsPlan where
  uploadId := Gateway.mpuId 1 0
  flow := .cpuDirect
  count := 1
  size := fun _ => 1
  checksumPolicy := fun _ => "none"
  numbered := by decide

private def timedOut : Error where
  code := .timeout
  message := ""
  retryable := true
  failedPath := ""
  requestId := ""

/-- The first attempt has staged its bytes when it times out, and the second one
has staged them too. -/
private def retried : List Action :=
  [.uploadPart 1, .send 1, .receive (1, 0), .write (1, 0) (.ok [7]) 0,
    .giveUp 1 timedOut, .send 1, .receive (1, 1), .write (1, 1) (.ok [7]) 1]

private theorem initial_onePart :
    (machine id defaultRetryPolicy onePart).initial (init openedMedia 0) :=
  ⟨openedMedia, 0, 0, by decide, rfl⟩

/-- What is seen of the part, and of the check of a completion. -/
private structure Sight where
  call : UploadCall
  first : Option String
  second : Option String
  upload : Option UploadPtr
  check : Gateway.Result Unit
  deriving DecidableEq

private def sight (state : PartUploads) : Sight where
  call := state.calls 1
  first := (state.attempts (1, 0)).recorded
  second := (state.attempts (1, 1)).recorded
  upload := state.media.uploads.store.find onePart.uploadId
  check := validateParts ⟨0, 0⟩ (state.media.uploads.store.objects 0).parts
    (partRecords state.handle.parts)

/-- The first attempt records the part, then the second one, which is
answered. -/
private def inOrder : List Action :=
  retried ++ [.register (1, 0) 2, .register (1, 1) 3, .accept 1]

/-- The second attempt records the part and is answered, then the first one
records it. -/
private def tooLate : List Action :=
  retried ++ [.register (1, 1) 2, .accept 1, .register (1, 0) 3]

private theorem sight_inOrder :
    ((machine id defaultRetryPolicy onePart).run RecordsInTime
      (init openedMedia 0) inOrder).map sight =
      some ⟨.succeeded 1 (Gateway.makePartEtag 1 1 1),
        some (Gateway.makePartEtag 1 1 0), some (Gateway.makePartEtag 1 1 1),
        some 0, .ok ()⟩ := by
  decide

private theorem sight_tooLate :
    ((machine id defaultRetryPolicy onePart).run Machine.always
      (init openedMedia 0) tooLate).map sight =
      some ⟨.succeeded 1 (Gateway.makePartEtag 1 1 1),
        some (Gateway.makePartEtag 1 1 0), some (Gateway.makePartEtag 1 1 1),
        some 0,
        .error (Gateway.makeError .badRequest "etag mismatch for part 1")⟩ := by
  decide

/-- An attempt that has recorded its part is finished. -/
private theorem finished_of_recorded
    {attempt : Attempt}
    {etag : String}
    (recorded : attempt.recorded = some etag) :
    ∃ answer, attempt = .finished answer := by
  revert recorded
  fun_cases Attempt.recorded attempt <;> intro recorded <;> cases recorded
  exact ⟨_, rfl⟩

/-- Once the second attempt of the only part is answered and the first one has
recorded it, all calls have succeeded and all attempts are finished. -/
private theorem settled_onePart
    (reachable :
      (machine id defaultRetryPolicy onePart).Reachable guard state)
    {etag first second : String}
    (taken : state.calls 1 = .succeeded 1 etag)
    (firstRecorded : (state.attempts (1, 0)).recorded = some first)
    (secondRecorded : (state.attempts (1, 1)).recorded = some second) :
    AllSucceeded onePart state ∧ AllFinished state := by
  obtain ⟨upload, sound⟩ := sound_of_reachable reachable
  constructor
  · intro part above below
    obtain rfl : part = 1 := le_antisymm below above
    exact ⟨1, etag, taken⟩
  · rintro ⟨part, attempt⟩
    by_cases only : part = 1
    · subst only
      by_cases made : 1 < attempt
      · exact .inl (sound.unmade 1 attempt (by rw [taken]; exact made))
      · obtain rfl | rfl : attempt = 0 ∨ attempt = 1 := by omega
        · exact .inr (finished_of_recorded firstRecorded)
        · exact .inr (finished_of_recorded secondRecorded)
    · have waiting : state.calls part = .waiting := by
        by_contra called
        have ranged := sound.ranged part called
        exact only (le_antisymm ranged.2 ranged.1)
      exact .inl (sound.unmade part attempt (by rw [waiting]; trivial))

theorem etagsAgree_in_order :
    ∃ state,
      (machine id defaultRetryPolicy onePart).Reachable RecordsInTime state ∧
        AllSucceeded onePart state ∧ AllFinished state ∧
          EtagsAgree onePart state := by
  obtain ⟨state, reachable, observed⟩ :=
    Machine.Reachable.of_run_map initial_onePart sight_inOrder
  simp only [sight, Sight.mk.injEq] at observed
  obtain ⟨taken, first, second, _⟩ := observed
  obtain ⟨succeeded, finished⟩ :=
    settled_onePart reachable taken first second
  exact ⟨state, reachable, succeeded, finished,
    etagsAgree_of_recordsInTime reachable⟩

/-- A first attempt that records the part after the answered retry makes the
completion fail. -/
theorem etags_disagree_after_late_record :
    ¬∀ (md5 : Bytes → Bytes) (policy : RetryPolicy) (plan : PartsPlan)
      (state : PartUploads),
      (machine md5 policy plan).Reachable Machine.always state →
        EtagsAgree plan state := by
  intro agree
  obtain ⟨state, reachable, observed⟩ :=
    Machine.Reachable.of_run_map initial_onePart sight_tooLate
  simp only [sight, Sight.mk.injEq] at observed
  obtain ⟨taken, first, second, located, refused⟩ := observed
  obtain ⟨succeeded, finished⟩ :=
    settled_onePart reachable taken first second
  obtain ⟨upload, sound⟩ := sound_of_reachable reachable
  have snapshot : state.handle.snapshotPartsForComplete =
      .ok state.handle.parts := by
    rw [MultipartUpload.snapshotPartsForComplete, sound.unfinished]
    rfl
  have valid := agree id defaultRetryPolicy onePart state reachable succeeded
    finished 0 state.handle.parts 0 located snapshot
  rw [refused] at valid
  cases valid

end PartUploads
end Client
end TurboAccess

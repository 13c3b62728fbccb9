import TurboAccess.Client.Upload.Handles

/-!
# Uploads that are lost by their handle

Every operation on a handle either passes uploads on, or sends requests for the
upload that the handle owns.  A request other than an abort is only sent while
the upload is not over, so that nothing follows its end.  An upload is sent a
completion or an abort by the time no handle owns it any more, in the runs in
which no upload is moved into a handle whose own upload is not over.
-/

namespace TurboAccess
namespace Client

theorem MultipartUpload.unfinished_of_checkPart
    {upload : MultipartUpload}
    {bufferSize : Nat}
    (passed : upload.checkPart bufferSize = none) :
    upload.finished = false := by
  revert passed
  fun_cases checkPart upload bufferSize <;> simp_all

/-! ## What `UploadParts` sends -/

namespace UploadPartsCall

/-- Parts are only sent while the upload is not over, and before the abort; the
upload is over if it was before or is aborted. -/
structure Announced (start : MultipartUpload) (call : UploadPartsCall) :
    Prop where
  unsent : start.finished = true → ∀ index, .sent index ∉ call.events
  unaborted : .abortSent ∈ call.events →
    start.finished = false ∧ call.stage ≠ .joining ∧
      ∀ error, call.stage ≠ .aborting error
  isOver : ∀ result, call.stage = .returned result →
    .abortSent ∈ call.events → call.upload.finished = true
  aborted : call.upload.finished = true →
    start.finished = true ∨ .abortSent ∈ call.events
  kept : start.finished = true → call.upload.finished = true
  last : call.events.Pairwise fun first second =>
    first = .abortSent → ∀ index, second ≠ .sent index

section Announced

variable
  {start : MultipartUpload}
  {specs : List PartSpec}
  {call next : UploadPartsCall}
  {mover : Nat}

/-- What a step of a worker notes. -/
theorem Works.news (works : Works call mover next) :
    ∃ news, next.events = call.events ++ news ∧ .abortSent ∉ news ∧
      ((∃ index, .sent index ∈ news) → call.upload.finished = false) := by
  cases works with
  | bound | exhausted | claimed | answered | stored =>
      exact ⟨[], (List.append_nil _).symm, by simp, by simp⟩
  | accepted index checks passed =>
      exact ⟨_, rfl, by simp, fun _ =>
        MultipartUpload.unfinished_of_checkPart passed⟩
  | unbound | reported | observed | started | failed | recorded | blamed =>
      exact ⟨_, rfl, by simp, by simp⟩

theorem Announced.works
    (announced : call.Announced start)
    (sound : call.Sound start specs)
    (inside : mover < call.workerCount)
    (works : Works call mover next) :
    next.Announced start := by
  have waits := sound.waits inside works.present
  have same : call.upload.finished = start.finished := by
    have concluded := sound.concluded
    rwa [Concluded, waits] at concluded
  obtain ⟨_, _, stage, finished⟩ := works.frame
  obtain ⟨news, appended, silent, open_⟩ := works.news
  have old : .abortSent ∉ call.events := fun member =>
    (announced.unaborted member).2.1 waits
  have never : .abortSent ∉ next.events := by
    rw [appended, List.mem_append]
    exact fun either => either.elim old silent
  refine ⟨?_, fun member => absurd member never, ?_, ?_, ?_, ?_⟩
  · intro isOver index member
    rw [appended, List.mem_append] at member
    rcases member with member | member
    · exact announced.unsent isOver index member
    · rw [← same, open_ ⟨index, member⟩] at isOver
      cases isOver
  · exact fun _ _ member => absurd member never
  · intro isOver
    rw [finished, same] at isOver
    exact .inl isOver
  · intro isOver
    rw [finished, same, isOver]
  · apply List.pairwise_iff_forall_sublist.mpr
    intro first second sub is
    subst is
    exact absurd (sub.subset (by simp)) never

theorem Announced.caller
    (announced : call.Announced start)
    (sound : call.Sound start specs)
    (stepped : call.stepCaller = some next) :
    next.Announced start := by
  obtain ⟨unsent, unaborted, isOver, aborted, kept, last⟩ := announced
  have concluded := sound.concluded
  revert stepped
  fun_cases stepCaller call <;> intro stepped <;> cases stepped
  case case1 joining joined error failed =>
    refine ⟨unsent, fun member => absurd joining (unaborted member).2.1, ?_,
      aborted, kept, last⟩
    intro _ returned
    cases returned
  case case2 joining joined unfailed =>
    have never : .abortSent ∉ call.events := fun member =>
      (unaborted member).2.1 joining
    exact ⟨unsent, fun member => absurd member never,
      fun _ _ member => absurd member never, aborted, kept, last⟩
  case case4 error aborting finished =>
    have never : .abortSent ∉ call.events := fun member =>
      (unaborted member).2.2 error aborting
    exact ⟨unsent, fun member => absurd member never, fun _ _ _ => finished,
      aborted, kept, last⟩
  case case5 error aborting unfinished =>
    rw [Concluded, aborting] at concluded
    have unfinished : start.finished = false := by
      rw [← concluded.2.2]
      simpa using unfinished
    refine ⟨?_, fun _ => ⟨unfinished, ?_, ?_⟩, ?_, ?_, ?_, ?_⟩
    · intro isOver
      rw [unfinished] at isOver
      cases isOver
    · intro joining
      cases joining
    · intro _ stillAborting
      cases stillAborting
    · intro _ returned
      cases returned
    · exact fun _ => .inr (by simp [note])
    · intro isOver
      rw [unfinished] at isOver
      cases isOver
    · refine List.pairwise_append.mpr ⟨last, List.pairwise_singleton _ _, ?_⟩
      intro _ _ second new _ index
      rw [List.mem_singleton.mp new]
      intro impossible
      cases impossible
  case case6 error marking =>
    rw [Concluded, marking] at concluded
    have sent := concluded.2.2
    refine ⟨unsent, fun _ => ⟨(unaborted sent).1, ?_, ?_⟩,
      fun _ _ _ => rfl, fun _ => .inr sent, fun _ => rfl, last⟩
    · intro joining
      cases joining
    · intro _ aborting
      cases aborting

/-- Every reachable call has sent its requests in order. -/
theorem announced_of_reachable
    {upload : MultipartUpload}
    {concurrency : Nat}
    (reachable :
      (machine upload specs concurrency).Reachable Machine.always call) :
    call.Announced upload := by
  refine reachable.induction ?_ ?_
  · rintro _ rfl
    refine ⟨?_, ?_, ?_, .inl, id, .nil⟩ <;> simp [init]
  · intro before action after reached announced _ stepped
    have sound := sound_of_reachable reached
    cases action with
    | worker worker binds answer =>
        simp only [machine, step, Option.ite_none_right_eq_some] at stepped
        exact announced.works sound stepped.1 (works_of_stepWorker stepped.2)
    | caller => exact announced.caller sound stepped

end Announced

end UploadPartsCall

namespace UploadRpc

/-- Only the abort of `UploadParts` ends the upload. -/
theorem abortSent_of_ends
    {id : Nat}
    {event : UploadEvent}
    {rpc : UploadRpc}
    (sends : ofEvent id event = some rpc)
    (ends : rpc.Ends) :
    event = .abortSent := by
  revert sends
  fun_cases ofEvent id event <;> intro sends <;> cases sends
  case case1 => exact ends.elim
  case case2 => rfl

/-- What `UploadParts` sends besides the parts is an abort. -/
theorem aborts_of_unsent
    {id : Nat}
    {event : UploadEvent}
    {rpc : UploadRpc}
    (sends : ofEvent id event = some rpc)
    (unsent : ∀ index, event ≠ .sent index) :
    rpc.Aborts := by
  revert sends
  fun_cases ofEvent id event <;> intro sends <;> cases sends
  case case1 index => exact absurd rfl (unsent index)
  case case2 => exact trivial

end UploadRpc

/-! ## What an operation can do -/

namespace Handles

/-- The requests that an operation sends for an upload: none once the upload is
over, only aborts after one that ends it, and one that ends it if the upload is
over afterwards. -/
structure Serves
    (id : Nat)
    (before : Bool)
    (rpcs : List UploadRpc)
    (after : Bool) : Prop where
  own : ∀ rpc ∈ rpcs, rpc.id = id
  silent : before = true → rpcs = [] ∧ after = true
  ordered : rpcs.Pairwise fun first second => first.Ends → second.Aborts
  ended : after = true → before = true ∨ ∃ rpc ∈ rpcs, rpc.Ends
  unended : after = false → ∀ rpc ∈ rpcs, ¬rpc.Ends

/-- An operation sends requests for the upload that a handle owns, and lets the
handle go on owning it, or destroys the handle; or it gives a handle a new
upload; or it passes what one handle owns to another; or no upload is
concerned. -/
inductive Changes (state : Handles) : Action → Handles → Prop
  | served (action : Action) (handle : Nat) (owned : OwnedUpload)
      (upload : MultipartUpload) (rpcs : List UploadRpc)
      (owns : state.handles handle = .owning owned)
      (serves : Serves owned.uploadId owned.upload.finished rpcs
        upload.finished) :
      Changes state action ((state.send rpcs).setHandle handle
        (.owning ⟨owned.uploadId, upload⟩))
  | destroyed (action : Action) (handle : Nat) (owned : OwnedUpload)
      (rpcs : List UploadRpc)
      (owns : state.handles handle = .owning owned)
      (serves : Serves owned.uploadId owned.upload.finished rpcs true) :
      Changes state action ((state.send rpcs).setHandle handle .absent)
  | opened (out maxPartSize : Nat) (upload : MultipartUpload)
      (fresh : upload.finished = false) :
      Changes state (.startUpload out (some maxPartSize))
        ({ state with issued := state.issued + 1 }.setHandle out
          (.owning ⟨state.issued, upload⟩))
  | passed (action : Action) (target source : Nat)
      (different : target ≠ source)
      (overwrites : action = .moveAssign target source ∨
        state.handles target = .absent) :
      Changes state action
        ((state.setHandle target (state.handles source)).setHandle source
          .empty)
  | unowned (action : Action) (handle : Nat) (value : Handle)
      (before : ∀ owned, state.handles handle ≠ .owning owned)
      (after : ∀ owned, value ≠ .owning owned) :
      Changes state action (state.setHandle handle value)
  | unchanged (action : Action) :
      Changes state action state

theorem serves_nil (id : Nat) (finished : Bool) :
    Serves id finished [] finished where
  own := by simp
  silent := fun isOver => ⟨rfl, isOver⟩
  ordered := .nil
  ended := .inl
  unended := by simp

/-- Sending a part does not end the upload. -/
theorem serves_uploadPart (id : Nat) :
    Serves id false [.uploadPart id] false where
  own := by simp [UploadRpc.id]
  silent := nofun
  ordered := List.pairwise_singleton _ _
  ended := nofun
  unended := by simp [UploadRpc.Ends]

/-- Requests that end an upload that was not over. -/
theorem serves_end
    {id : Nat}
    {rpcs : List UploadRpc}
    (own : ∀ rpc ∈ rpcs, rpc.id = id)
    (ordered : rpcs.Pairwise fun first second => first.Ends → second.Aborts)
    (ended : ∃ rpc ∈ rpcs, rpc.Ends) :
    Serves id false rpcs true where
  own := own
  silent := nofun
  ordered := ordered
  ended := fun _ => .inr ended
  unended := nofun

/-- What `UploadParts` sends. -/
theorem serves_uploadParts
    {start : MultipartUpload}
    {call : UploadPartsCall}
    {result : Result (List TransferOutcome)}
    (id : Nat)
    (announced : call.Announced start)
    (returned : call.stage = .returned result) :
    Serves id start.finished (call.events.filterMap (UploadRpc.ofEvent id))
      call.upload.finished where
  own := by
    intro rpc member
    obtain ⟨event, _, sends⟩ := List.mem_filterMap.mp member
    revert sends
    fun_cases UploadRpc.ofEvent id event <;> intro sends <;> cases sends <;> rfl
  silent := by
    intro isOver
    refine ⟨List.filterMap_eq_nil_iff.mpr ?_, announced.kept isOver⟩
    intro event member
    fun_cases UploadRpc.ofEvent id event
    case case1 index => exact absurd member (announced.unsent isOver index)
    case case2 =>
      rw [(announced.unaborted member).1] at isOver
      cases isOver
    case case3 => rfl
  ordered := by
    refine List.Pairwise.filterMap _ ?_ announced.last
    intro first second follows firstRpc firstSends secondRpc secondSends ends
    have aborts := UploadRpc.abortSent_of_ends firstSends ends
    exact UploadRpc.aborts_of_unsent secondSends (follows aborts)
  ended := by
    intro isOver
    rcases announced.aborted isOver with already | sent
    · exact .inl already
    · exact .inr ⟨_, List.mem_filterMap.mpr ⟨_, sent, rfl⟩, trivial⟩
  unended := by
    intro going rpc member ends
    obtain ⟨event, occurred, sends⟩ := List.mem_filterMap.mp member
    revert sends
    fun_cases UploadRpc.ofEvent id event <;> intro sends <;> cases sends
    case case1 => exact ends
    case case2 =>
      rw [announced.isOver result returned occurred] at going
      cases going

section Operations

variable {state next : Handles} {handle : Nat}

/-- A handle that is given what it has is not changed. -/
theorem setHandle_self
    {value : Handle}
    (has : state.handles handle = value) :
    state.setHandle handle value = state := by
  simp [setHandle, ← has]

theorem changes_of_startUpload
    {out : Nat}
    {answer : Option Nat}
    (stepped : state.startUpload out answer = some next) :
    Changes state (.startUpload out answer) next := by
  revert stepped
  fun_cases startUpload state out answer <;> intro stepped <;> cases stepped
  case case2 => exact .unchanged _
  case case3 maxPartSize upload _ => exact .opened out maxPartSize upload rfl

theorem changes_of_construct
    (stepped : state.construct handle = some next) :
    Changes state (.construct handle) next := by
  revert stepped
  fun_cases construct state handle <;> intro stepped <;> cases stepped
  case case1 absent =>
    exact .unowned _ handle .empty (by simp [absent]) nofun

theorem changes_of_moveConstruct
    {target source : Nat}
    (stepped : state.moveConstruct target source = some next) :
    Changes state (.moveConstruct target source) next := by
  revert stepped
  fun_cases moveConstruct state target source <;> intro stepped <;>
    cases stepped
  case case2 absent present =>
    refine .passed _ target source ?_ (.inr absent)
    rintro rfl
    exact present absent

theorem changes_of_moveAssign
    {target source : Nat}
    (stepped : state.moveAssign target source = some next) :
    Changes state (.moveAssign target source) next := by
  revert stepped
  fun_cases moveAssign state target source <;> intro stepped <;> cases stepped
  case case3 => exact .unchanged _
  case case4 different _ _ =>
    exact .passed _ target source different (.inl rfl)

theorem changes_of_uploadPart
    {spec : PartSpec}
    {answer : Result TransferOutcome}
    (stepped : state.uploadPart handle spec answer = some next) :
    Changes state (.uploadPart handle spec answer) next := by
  revert stepped
  fun_cases uploadPart state handle spec answer <;> intro stepped
  case case1 =>
    cases stepped
    exact .unchanged _
  case case2 owned owns passed sent error =>
    have unfinished := MultipartUpload.unfinished_of_checkPart passed
    have same := @setHandle_self
      (state.send [.uploadPart owned.uploadId]) handle _ owns
    rw [← Option.some.inj stepped]
    change Changes state _ (state.send _)
    rw [← same]
    refine .served _ handle owned _ _ owns ?_
    rw [unfinished]
    exact serves_uploadPart owned.uploadId
  case case3 owned owns passed sent outcome =>
    cases stepped
    have unfinished := MultipartUpload.unfinished_of_checkPart passed
    refine .served _ handle owned _ _ owns ?_
    rw [MultipartUpload.recordUploadedPart, unfinished]
    exact serves_uploadPart owned.uploadId
  case case4 => cases stepped

theorem changes_of_uploadParts
    {specs : List PartSpec}
    {concurrency : Nat}
    {schedule : List UploadPartsCall.Action}
    (stepped : state.uploadParts handle specs concurrency schedule =
      some next) :
    Changes state (.uploadParts handle specs concurrency schedule) next := by
  revert stepped
  fun_cases uploadParts state handle specs concurrency schedule <;>
    intro stepped <;> cases stepped
  case case1 owned owns call executed result returned sent =>
    have announced := UploadPartsCall.announced_of_reachable
      (Machine.Reachable.of_run rfl executed)
    exact .served _ handle owned call.upload _ owns
      (serves_uploadParts owned.uploadId announced returned)

theorem changes_of_complete
    {succeeds : Bool}
    (stepped : state.complete handle succeeds = some next) :
    Changes state (.complete handle succeeds) next := by
  revert stepped
  fun_cases complete state handle succeeds <;> intro stepped <;> cases stepped
  case case1 => exact .unchanged _
  case case2 owned owns parts snapshot completed sent =>
    have unfinished : owned.upload.finished = false := by
      revert snapshot
      fun_cases MultipartUpload.snapshotPartsForComplete owned.upload <;>
        simp_all
    have ends : ∀ rpcs, Serves owned.uploadId false rpcs true →
        Changes state (.complete handle succeeds)
          ((state.send rpcs).setHandle handle
            (.owning ⟨owned.uploadId, owned.upload.markUploadFinished⟩)) := by
      intro rpcs serves
      rw [← unfinished] at serves
      exact .served _ handle owned _ rpcs owns serves
    cases succeeds with
    | true =>
        exact ends _ (serves_end (by simp [UploadRpc.id])
          (List.pairwise_singleton _ _) ⟨_, List.mem_singleton_self _, trivial⟩)
    | false =>
        have both : sent = state.send [.completeUpload owned.uploadId,
            .abortUpload owned.uploadId] := by
          simp [sent, completed, send]
        rw [both]
        exact ends _ (serves_end (by simp [UploadRpc.id])
          (by simp [UploadRpc.Aborts]) ⟨_, List.mem_cons_self, trivial⟩)

theorem changes_of_abort
    (stepped : state.abort handle = some next) :
    Changes state (.abort handle) next := by
  revert stepped
  fun_cases abort state handle <;> intro stepped <;> cases stepped
  case case1 => exact .unchanged _
  case case2 owned owns unfinished =>
    refine .served _ handle owned _ _ owns ?_
    rw [Bool.not_eq_true] at unfinished
    rw [unfinished]
    exact serves_end (by simp [UploadRpc.id]) (List.pairwise_singleton _ _)
      ⟨_, List.mem_singleton_self _, trivial⟩

theorem changes_of_destroy
    (stepped : state.destroy handle = some next) :
    Changes state (.destroy handle) next := by
  revert stepped
  fun_cases destroy state handle <;> intro stepped <;> cases stepped
  case case2 empty => exact .unowned _ handle .absent (by simp [empty]) nofun
  case case3 owned owns finished =>
    have nothing : state.send [] = state := by simp [send]
    have serves : Serves owned.uploadId owned.upload.finished [] true := by
      rw [finished]
      exact serves_nil owned.uploadId true
    have changes := Changes.destroyed (.destroy handle) handle owned [] owns
      serves
    rwa [nothing] at changes
  case case4 owned owns unfinished =>
    refine .destroyed _ handle owned _ owns ?_
    rw [Bool.not_eq_true] at unfinished
    rw [unfinished]
    exact serves_end (by simp [UploadRpc.id]) (List.pairwise_singleton _ _)
      ⟨_, List.mem_singleton_self _, trivial⟩

/-- Every operation is one of the listed changes. -/
theorem changes_of_step
    {action : Action}
    (stepped : machine.step state action = some next) :
    Changes state action next := by
  cases action with
  | startUpload => exact changes_of_startUpload stepped
  | construct => exact changes_of_construct stepped
  | moveConstruct => exact changes_of_moveConstruct stepped
  | moveAssign => exact changes_of_moveAssign stepped
  | uploadPart => exact changes_of_uploadPart stepped
  | uploadParts => exact changes_of_uploadParts stepped
  | complete => exact changes_of_complete stepped
  | abort => exact changes_of_abort stepped
  | destroy => exact changes_of_destroy stepped

end Operations

/-! ## Uploads and their handles -/

/-- A handle owns an upload. -/
def Owns (state : Handles) (handle id : Nat) : Prop :=
  ∃ upload, state.handles handle = .owning ⟨id, upload⟩

/-- An upload has been sent a completion or an abort. -/
def Ended (state : Handles) (id : Nat) : Prop :=
  ∃ rpc ∈ state.rpcs, rpc.id = id ∧ rpc.Ends

/-- Nothing but aborts follows the end of an upload. -/
def SilentAfterEnd (state : Handles) : Prop :=
  state.rpcs.Pairwise fun first second =>
    first.Ends → first.id = second.id → second.Aborts

/-- Every upload that the gateway has opened is owned by a handle, or has been
sent a completion or an abort. -/
def NoneLost (state : Handles) : Prop :=
  ∀ id < state.issued, (∃ handle, state.Owns handle id) ∨ state.Ended id

/-- Handles own different uploads that were opened; requests are about such
uploads; an upload of a handle is over when it was sent a request that ends
it. -/
structure Tracked (state : Handles) : Prop where
  unique : ∀ first second id, state.Owns first id → state.Owns second id →
    first = second
  opened : ∀ handle id, state.Owns handle id → id < state.issued
  about : ∀ rpc ∈ state.rpcs, rpc.id < state.issued
  finished : ∀ handle id upload,
    state.handles handle = .owning ⟨id, upload⟩ →
      (upload.finished = true ↔ state.Ended id)
  silent : state.SilentAfterEnd

theorem tracked_init : init.Tracked := by
  refine ⟨?_, ?_, ?_, ?_, .nil⟩ <;> simp [init, Owns]

section Tracked

variable
  {state : Handles}
  {handle : Nat}
  {owned : OwnedUpload}
  {rpcs : List UploadRpc}

@[simp] theorem setHandle_handles_self
    (state : Handles)
    (handle : Nat)
    (value : Handle) :
    (state.setHandle handle value).handles handle = value :=
  Function.update_self ..

theorem setHandle_handles_of_ne
    (state : Handles)
    {handle other : Nat}
    (different : other ≠ handle)
    (value : Handle) :
    (state.setHandle handle value).handles other = state.handles other :=
  Function.update_of_ne different ..

/-- Requests for another upload do not end an upload. -/
theorem ended_send
    {after : Bool}
    {id : Nat}
    (serves : Serves owned.uploadId owned.upload.finished rpcs after) :
    (state.send rpcs).Ended id ↔
      state.Ended id ∨ (id = owned.uploadId ∧ ∃ rpc ∈ rpcs, rpc.Ends) := by
  constructor
  · rintro ⟨rpc, member, about, ends⟩
    rcases List.mem_append.mp member with old | new
    · exact .inl ⟨rpc, old, about, ends⟩
    · exact .inr ⟨about.symm.trans (serves.own rpc new), rpc, new, ends⟩
  · rintro (⟨rpc, old, about, ends⟩ | ⟨rfl, rpc, new, ends⟩)
    · exact ⟨rpc, List.mem_append_left _ old, about, ends⟩
    · exact ⟨rpc, List.mem_append_right _ new, serves.own rpc new, ends⟩

/-- Requests for an upload that is not over keep the order of all requests. -/
theorem Tracked.silent_send
    {after : Bool}
    (tracked : state.Tracked)
    (owns : state.handles handle = .owning owned)
    (serves : Serves owned.uploadId owned.upload.finished rpcs after) :
    (state.send rpcs).SilentAfterEnd := by
  refine List.pairwise_append.mpr ⟨tracked.silent, ?_, ?_⟩
  · exact serves.ordered.imp fun follows ends _ => follows ends
  · intro first old second new ends same
    have isOver := (tracked.finished handle _ _ owns).mpr
      ⟨first, old, same.trans (serves.own second new), ends⟩
    rw [(serves.silent isOver).1] at new
    cases new

/-- A served upload is over when it has been sent a request that ends it. -/
theorem Tracked.finished_send
    {after : Bool}
    (tracked : state.Tracked)
    (owns : state.handles handle = .owning owned)
    (serves : Serves owned.uploadId owned.upload.finished rpcs after) :
    after = true ↔ (state.send rpcs).Ended owned.uploadId := by
  rw [ended_send serves, ← tracked.finished handle _ _ owns]
  constructor
  · intro isOver
    rcases serves.ended isOver with already | ends
    · exact .inl already
    · exact .inr ⟨rfl, ends⟩
  · rintro (already | ⟨_, rpc, member, ends⟩)
    · exact (serves.silent already).2
    · cases after with
      | true => rfl
      | false => exact absurd ends (serves.unended rfl rpc member)

/-- Serving an upload keeps uploads tracked, whether the handle goes on owning
it or not. -/
theorem Tracked.served
    {after : Bool}
    {value : Handle}
    (tracked : state.Tracked)
    (owns : state.handles handle = .owning owned)
    (serves : Serves owned.uploadId owned.upload.finished rpcs after)
    (keeps : ∀ id upload, value = .owning ⟨id, upload⟩ →
      id = owned.uploadId ∧ upload.finished = after) :
    ((state.send rpcs).setHandle handle value).Tracked := by
  have before : ∀ other id,
      ((state.send rpcs).setHandle handle value).Owns other id →
        state.Owns other id := by
    rintro other id ⟨upload, has⟩
    by_cases same : other = handle
    · subst same
      rw [setHandle_handles_self] at has
      rw [(keeps id upload has).1]
      exact ⟨_, owns⟩
    · rw [setHandle_handles_of_ne _ same] at has
      exact ⟨upload, has⟩
  refine ⟨?_, ?_, ?_, ?_, tracked.silent_send owns serves⟩
  · intro first second id firstOwns secondOwns
    exact tracked.unique first second id (before _ _ firstOwns)
      (before _ _ secondOwns)
  · intro other id has
    exact tracked.opened other id (before other id has)
  · intro rpc member
    rcases List.mem_append.mp member with old | new
    · exact tracked.about rpc old
    · rw [serves.own rpc new]
      exact tracked.opened handle _ ⟨_, owns⟩
  · intro other id upload has
    by_cases same : other = handle
    · subst same
      rw [setHandle_handles_self] at has
      obtain ⟨rfl, rfl⟩ := keeps id upload has
      exact tracked.finished_send owns serves
    · rw [setHandle_handles_of_ne _ same] at has
      have elsewhere : id ≠ owned.uploadId := by
        rintro rfl
        exact same (tracked.unique other handle _ ⟨_, has⟩ ⟨_, owns⟩)
      rw [tracked.finished other id upload has]
      exact ⟨fun ended => (ended_send serves).mpr (.inl ended),
        fun ended => ((ended_send serves).mp ended).resolve_right
          fun own => elsewhere own.1⟩

/-- A new upload is owned by its handle only, and nothing was sent for it. -/
theorem Tracked.opens
    {upload : MultipartUpload}
    (tracked : state.Tracked)
    (fresh : upload.finished = false) :
    ({ state with issued := state.issued + 1 }.setHandle handle
      (.owning ⟨state.issued, upload⟩)).Tracked := by
  have origin : ∀ other id, ({ state with
      issued := state.issued + 1 }.setHandle handle
        (.owning ⟨state.issued, upload⟩)).Owns other id →
          (other = handle ∧ id = state.issued) ∨
            (state.Owns other id ∧ id < state.issued) := by
    rintro other id ⟨value, has⟩
    by_cases same : other = handle
    · subst same
      rw [setHandle_handles_self] at has
      cases has
      exact .inl ⟨rfl, rfl⟩
    · rw [setHandle_handles_of_ne _ same] at has
      exact .inr ⟨⟨value, has⟩, tracked.opened other id ⟨value, has⟩⟩
  refine ⟨?_, ?_, ?_, ?_, tracked.silent⟩
  · intro first second id firstOwns secondOwns
    rcases origin _ _ firstOwns with ⟨rfl, rfl⟩ | ⟨firstOwned, below⟩
    · rcases origin _ _ secondOwns with ⟨rfl, _⟩ | ⟨_, below⟩
      · rfl
      · omega
    · rcases origin _ _ secondOwns with ⟨_, rfl⟩ | ⟨secondOwned, _⟩
      · omega
      · exact tracked.unique first second id firstOwned secondOwned
  · intro other id has
    change id < state.issued + 1
    rcases origin other id has with ⟨_, rfl⟩ | ⟨_, below⟩ <;> omega
  · intro rpc member
    change rpc.id < state.issued + 1
    have below := tracked.about rpc member
    omega
  · intro other id value has
    by_cases same : other = handle
    · subst same
      rw [setHandle_handles_self] at has
      cases has
      rw [fresh]
      refine ⟨nofun, ?_⟩
      rintro ⟨rpc, member, about, _⟩
      have below := tracked.about rpc member
      omega
    · rw [setHandle_handles_of_ne _ same] at has
      exact tracked.finished other id value has

/-- What a handle owns after a move. -/
theorem owning_of_passed
    {target source other : Nat}
    {value : OwnedUpload}
    (has : ((state.setHandle target (state.handles source)).setHandle source
      .empty).handles other = .owning value) :
    (other = target ∧ state.handles source = .owning value) ∨
      (other ≠ target ∧ other ≠ source ∧
        state.handles other = .owning value) := by
  by_cases isSource : other = source
  · subst isSource
    rw [setHandle_handles_self] at has
    cases has
  · rw [setHandle_handles_of_ne _ isSource] at has
    by_cases isTarget : other = target
    · subst isTarget
      rw [setHandle_handles_self] at has
      exact .inl ⟨rfl, has⟩
    · rw [setHandle_handles_of_ne _ isTarget] at has
      exact .inr ⟨isTarget, isSource, has⟩

/-- A move keeps uploads tracked. -/
theorem Tracked.passed
    {target source : Nat}
    (tracked : state.Tracked) :
    ((state.setHandle target (state.handles source)).setHandle source
      .empty).Tracked := by
  have origin : ∀ other id value,
      ((state.setHandle target (state.handles source)).setHandle source
        .empty).handles other = .owning ⟨id, value⟩ →
          ∃ before, state.handles before = .owning ⟨id, value⟩ := by
    intro other id value has
    rcases owning_of_passed has with ⟨_, has⟩ | ⟨_, _, has⟩
    · exact ⟨source, has⟩
    · exact ⟨other, has⟩
  refine ⟨?_, ?_, tracked.about, ?_, tracked.silent⟩
  · rintro first second id ⟨_, firstHas⟩ ⟨_, secondHas⟩
    rcases owning_of_passed firstHas with
      ⟨rfl, firstOwned⟩ | ⟨_, firstElsewhere, firstOwned⟩
    · rcases owning_of_passed secondHas with
        ⟨rfl, _⟩ | ⟨_, elsewhere, secondOwned⟩
      · rfl
      · exact absurd (tracked.unique second source id ⟨_, secondOwned⟩
          ⟨_, firstOwned⟩) elsewhere
    · rcases owning_of_passed secondHas with ⟨_, owned⟩ | ⟨_, _, secondOwned⟩
      · exact absurd (tracked.unique first source id ⟨_, firstOwned⟩
          ⟨_, owned⟩) firstElsewhere
      · exact tracked.unique first second id ⟨_, firstOwned⟩ ⟨_, secondOwned⟩
  · rintro other id ⟨value, has⟩
    obtain ⟨before, owned⟩ := origin other id value has
    exact tracked.opened before id ⟨value, owned⟩
  · intro other id value has
    obtain ⟨before, owned⟩ := origin other id value has
    exact tracked.finished before id value owned

/-- A handle that owns nothing before and after is of no account. -/
theorem owning_of_unowned
    {value : Handle}
    (after : ∀ owned, value ≠ .owning owned)
    {other : Nat}
    {owned : OwnedUpload}
    (has : (state.setHandle handle value).handles other = .owning owned) :
    state.handles other = .owning owned := by
  by_cases same : other = handle
  · subst same
    rw [setHandle_handles_self] at has
    exact absurd has (after owned)
  · rwa [setHandle_handles_of_ne _ same] at has

/-- Every operation keeps uploads tracked. -/
theorem Tracked.changes
    {next : Handles}
    {action : Action}
    (tracked : state.Tracked)
    (changes : Changes state action next) :
    next.Tracked := by
  cases changes with
  | served _ handle owned upload rpcs owns serves =>
      apply tracked.served owns serves
      rintro id value ⟨⟩
      exact ⟨rfl, rfl⟩
  | destroyed _ handle owned rpcs owns serves =>
      exact tracked.served owns serves nofun
  | opened out maxPartSize upload fresh => exact tracked.opens fresh
  | passed _ target source different overwrites => exact tracked.passed
  | unowned _ handle value before after =>
      refine ⟨?_, ?_, tracked.about, ?_, tracked.silent⟩
      · rintro first second id ⟨_, firstHas⟩ ⟨_, secondHas⟩
        exact tracked.unique first second id
          ⟨_, owning_of_unowned after firstHas⟩
          ⟨_, owning_of_unowned after secondHas⟩
      · rintro other id ⟨_, has⟩
        exact tracked.opened other id ⟨_, owning_of_unowned after has⟩
      · intro other id value has
        exact tracked.finished other id value (owning_of_unowned after has)
  | unchanged => exact tracked

/-! ## No upload is lost -/

/-- A handle owns an upload that is not over. -/
def Holds (state : Handles) (handle : Nat) : Prop :=
  ∃ owned, state.handles handle = .owning owned ∧
    owned.upload.finished = false

/-- No upload is moved or opened into a handle whose own upload is not over. -/
def SparesUploads (state : Handles) : Action → Prop
  | .startUpload out answer => answer ≠ none → ¬state.Holds out
  | .moveAssign target source => target ≠ source → ¬state.Holds target
  | _ => True

/-- An upload that is owned by a handle without an open upload has ended. -/
theorem Tracked.ended_of_not_holds
    {id : Nat}
    (tracked : state.Tracked)
    (owns : state.Owns handle id)
    (idle : ¬state.Holds handle) :
    state.Ended id := by
  obtain ⟨upload, has⟩ := owns
  apply (tracked.finished handle id upload has).mp
  by_contra unfinished
  exact idle ⟨_, has, by simpa using unfinished⟩

/-- When one handle changes, an upload is lost only if that handle owned it. -/
theorem NoneLost.setHandle
    {id : Nat}
    {sent : Handles}
    {value : Handle}
    (noneLost : state.NoneLost)
    (below : id < state.issued)
    (handles : sent.handles = state.handles)
    (ended : state.Ended id → sent.Ended id)
    (owned : state.Owns handle id →
      (∃ upload, value = .owning ⟨id, upload⟩) ∨ sent.Ended id) :
    (∃ other, (sent.setHandle handle value).Owns other id) ∨
      (sent.setHandle handle value).Ended id := by
  rcases noneLost id below with ⟨other, owns⟩ | gone
  · by_cases same : other = handle
    · subst same
      rcases owned owns with ⟨upload, rfl⟩ | gone
      · exact .inl ⟨other, upload, setHandle_handles_self ..⟩
      · exact .inr gone
    · obtain ⟨upload, has⟩ := owns
      refine .inl ⟨other, upload, ?_⟩
      rw [setHandle_handles_of_ne _ same, handles]
      exact has
  · exact .inr (ended gone)

/-- Every operation loses no upload, if it spares the open ones. -/
theorem NoneLost.changes
    {next : Handles}
    {action : Action}
    (noneLost : state.NoneLost)
    (tracked : state.Tracked)
    (spares : state.SparesUploads action)
    (changes : Changes state action next) :
    next.NoneLost := by
  cases changes with
  | served _ handle owned upload rpcs owns serves =>
      intro id below
      refine noneLost.setHandle below rfl
        (fun ended => (ended_send serves).mpr (.inl ended)) ?_
      rintro ⟨_, has⟩
      rw [owns] at has
      cases has
      exact .inl ⟨upload, rfl⟩
  | destroyed _ handle owned rpcs owns serves =>
      intro id below
      refine noneLost.setHandle below rfl
        (fun ended => (ended_send serves).mpr (.inl ended)) ?_
      rintro ⟨_, has⟩
      rw [owns] at has
      cases has
      exact .inr ((tracked.finished_send owns serves).mp rfl)
  | opened out maxPartSize upload fresh =>
      intro id below
      by_cases newest : id = state.issued
      · subst newest
        exact .inl ⟨out, upload, setHandle_handles_self ..⟩
      · change id < state.issued + 1 at below
        refine noneLost.setHandle (by omega) rfl (fun ended => ended) ?_
        intro owns
        exact .inr (tracked.ended_of_not_holds owns (spares (by simp)))
  | passed _ target source different overwrites =>
      intro id below
      rcases noneLost id below with ⟨other, value, has⟩ | ended
      · by_cases isSource : other = source
        · subst isSource
          refine .inl ⟨target, value, ?_⟩
          rw [setHandle_handles_of_ne _ different, setHandle_handles_self]
          exact has
        · by_cases isTarget : other = target
          · subst isTarget
            rcases overwrites with rfl | absent
            · exact .inr (tracked.ended_of_not_holds ⟨value, has⟩
                (spares different))
            · rw [absent] at has
              cases has
          · refine .inl ⟨other, value, ?_⟩
            rw [setHandle_handles_of_ne _ isSource,
              setHandle_handles_of_ne _ isTarget]
            exact has
      · exact .inr ended
  | unowned _ handle value before after =>
      intro id below
      apply noneLost.setHandle below rfl (fun ended => ended)
      rintro ⟨_, has⟩
      exact absurd has (before _)
  | unchanged => exact noneLost

end Tracked

/-- In every run uploads are tracked. -/
theorem tracked_of_reachable
    {guard : Handles → Action → Prop}
    {state : Handles}
    (reachable : machine.Reachable guard state) :
    state.Tracked := by
  refine reachable.invariant ?_ ?_
  · rintro _ rfl
    exact tracked_init
  · intro before action after tracked _ stepped
    exact tracked.changes (changes_of_step stepped)

/-- In the runs that open or move no upload into a handle whose own upload is
not over, every upload without a handle has been sent a completion or an abort,
and nothing but aborts follows the end of an upload. -/
theorem noneLost_of_sparesUploads
    {state : Handles}
    (reachable : machine.Reachable SparesUploads state) :
    state.NoneLost ∧ state.SilentAfterEnd := by
  refine ⟨?_, (tracked_of_reachable reachable).silent⟩
  refine reachable.induction ?_ ?_
  · rintro _ rfl
    exact fun _ below => absurd below (Nat.not_lt_zero _)
  · intro before action after reached noneLost spares stepped
    exact noneLost.changes (tracked_of_reachable reached) spares
      (changes_of_step stepped)

/-- The condition, computed. -/
private def sparesNow (state : Handles) : Action → Bool
  | .startUpload out _ =>
      match state.handles out with
      | .owning owned => owned.upload.finished
      | _ => true
  | .moveAssign target _ =>
      match state.handles target with
      | .owning owned => owned.upload.finished
      | _ => true
  | _ => true

private theorem sparesUploads_of_now
    (state : Handles)
    (action : Action)
    (spares : state.sparesNow action = true) :
    state.SparesUploads action := by
  cases action with
  | startUpload out answer =>
      rintro _ ⟨owned, has, unfinished⟩
      simp [sparesNow, has, unfinished] at spares
  | moveAssign target source =>
      rintro _ ⟨owned, has, unfinished⟩
      simp [sparesNow, has, unfinished] at spares
  | construct | moveConstruct | uploadPart | uploadParts | complete | abort
  | destroy => exact trivial

private theorem initial_init : machine.initial init := rfl

/-- A part is uploaded, and the handle is moved and destroyed. -/
private def droppedHandle : List Action :=
  [.construct 0, .startUpload 0 (some 0), .uploadPart 0 ⟨1, 0, 1⟩ (.ok {}),
    .moveConstruct 1 0, .destroy 0, .destroy 1]

theorem noneLost_dropped_handle :
    ∃ state, machine.Reachable SparesUploads state ∧ state.issued = 1 ∧
      state.rpcs = [.uploadPart 0, .abortUpload 0] ∧ state.NoneLost ∧
      state.SilentAfterEnd := by
  have executed : (machine.run
      (fun state action => state.sparesNow action = true) init
      droppedHandle).map (fun state => (state.issued, state.rpcs)) =
        some (1, [.uploadPart 0, .abortUpload 0]) := by
    decide
  obtain ⟨state, reachable, observed⟩ :=
    Machine.Reachable.of_run_map initial_init executed
  obtain ⟨issued, rpcs⟩ := Prod.mk.inj observed
  have spares := reachable.mono sparesUploads_of_now
  exact ⟨state, spares, issued, rpcs, noneLost_of_sparesUploads spares⟩

/-- The first upload is lost: its handle is used for a second one. -/
private def reusedHandle : Handles where
  handles := Function.update
    (Function.update (Function.update (fun _ => .absent) 0 .empty) 0
      (.owning ⟨0, ⟨0, [], 0, false⟩⟩)) 0 (.owning ⟨1, ⟨0, [], 0, false⟩⟩)
  issued := 2
  rpcs := []

theorem upload_lost_by_reuse :
    ¬∀ state, machine.Reachable Machine.always state →
      state.NoneLost ∧ state.SilentAfterEnd := by
  intro always
  have executed : machine.run Machine.always init
      [.construct 0, .startUpload 0 (some 0), .startUpload 0 (some 0)] =
        some reusedHandle := rfl
  have noneLost := (always reusedHandle
    (Machine.Reachable.of_run initial_init executed)).1
  rcases noneLost 0 (by decide) with ⟨handle, upload, has⟩ | ⟨rpc, member, _⟩
  · by_cases first : handle = 0
    · subst first
      simp [reusedHandle] at has
    · simp [reusedHandle, first] at has
  · cases member

end Handles

end Client
end TurboAccess

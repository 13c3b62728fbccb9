import TurboAccess.Client.Upload.UploadedOnce

/-!
# The result of a parallel upload

Errors are recorded before their worker goes on, so that a call whose workers
have left without an error has started and recorded every part.  From the counts
of the claims and of the records follow the statements about the result: no
index is uploaded twice; a success has uploaded every index once; a failure
returns the first error and aborts; and a worker that has seen an error starts no
further upload.  Every run ends with a result.
-/

namespace TurboAccess
namespace Client
namespace UploadPartsCall

/-! ## Errors -/

/-- The first recorded error is kept; a worker leaves because of an error or
because the indexes are exhausted; a failure is recorded, or about to be; and a
worker that has seen an error is gone, and has started nothing since. -/
structure Blamed (call : UploadPartsCall) : Prop where
  first : call.firstError = (errors call.events).head?
  left : ∀ worker < call.workerCount, call.workers worker = .exited →
    call.firstError ≠ none ∨ call.specs.length ≤ call.nextIndex
  failures : ∀ event ∈ call.events, event.Failure →
    call.firstError ≠ none ∨
      ∃ worker < call.workerCount, (call.workers worker).Blaming
  quits : ∀ worker, .observedError worker ∈ call.events →
    call.workers worker = .exited
  ordered : call.events.Pairwise fun first second => ∀ worker index,
    first = .observedError worker → second ≠ .started worker index

section Blamed

variable
  {call : UploadPartsCall}
  {mover : Nat}

/-- A step of a worker keeps the blame, when it records the error it is about to
record, and notes only what it does itself. -/
theorem Blamed.worker
    {upload : MultipartUpload}
    {nextIndex : Nat}
    {firstError : Option Error}
    {outcomes : List TransferOutcome}
    {events news : List UploadEvent}
    {state : UploadPartsWorker}
    (blamed : call.Blamed)
    (inside : mover < call.workerCount)
    (present : call.workers mover ≠ .exited)
    (appended : events = call.events ++ news)
    (single : news.length ≤ 1)
    (first : firstError = (errors events).head?)
    (sticky : firstError = none → call.firstError = none)
    (grows : call.nextIndex ≤ nextIndex)
    (left : state = .exited →
      firstError ≠ none ∨ call.specs.length ≤ nextIndex)
    (records : (call.workers mover).Blaming → firstError ≠ none)
    (failure : ∀ event ∈ news, event.Failure → state.Blaming)
    (observes : ∀ worker, .observedError worker ∈ news →
      worker = mover ∧ state = .exited)
    (starts : ∀ worker index, .started worker index ∈ news → worker = mover) :
    ({ call with upload, nextIndex, firstError, outcomes, events }.setWorker
      mover state).Blamed where
  first := first
  left := by
    intro worker below
    by_cases moves : worker = mover
    · rw [moves, setWorker_workers_self]
      exact left
    · rw [setWorker_workers_of_ne _ moves]
      intro exited
      rcases blamed.left worker below exited with failed | all
      · exact .inl fun none => failed (sticky none)
      · exact .inr (all.trans grows)
  failures := by
    intro event member failed
    subst appended
    rcases List.mem_append.mp member with old | new
    · rcases blamed.failures event old failed with known | ⟨worker, below, blames⟩
      · exact .inl fun none => known (sticky none)
      · by_cases moves : worker = mover
        · subst moves
          exact .inl (records blames)
        · exact .inr ⟨worker, below,
            by rwa [setWorker_workers_of_ne _ moves]⟩
    · refine .inr ⟨mover, inside, ?_⟩
      rw [setWorker_workers_self]
      exact failure event new failed
  quits := by
    intro worker member
    subst appended
    rcases List.mem_append.mp member with old | new
    · have exited := blamed.quits worker old
      have different : worker ≠ mover := by
        rintro rfl
        exact present exited
      rw [setWorker_workers_of_ne _ different]
      exact exited
    · obtain ⟨rfl, exited⟩ := observes worker new
      rw [setWorker_workers_self]
      exact exited
  ordered := by
    subst appended
    refine List.pairwise_append.mpr ⟨blamed.ordered, ?_, ?_⟩
    · rcases news with _ | ⟨event, _ | ⟨other, rest⟩⟩
      · exact .nil
      · exact List.pairwise_singleton _ _
      · simp at single
    · rintro first old second new worker index rfl rfl
      have exited := blamed.quits worker old
      rw [starts worker index new] at exited
      exact present exited

/-- A step of a worker that notes nothing. -/
theorem Blamed.silent
    {upload : MultipartUpload}
    {nextIndex : Nat}
    {outcomes : List TransferOutcome}
    {state : UploadPartsWorker}
    (blamed : call.Blamed)
    (inside : mover < call.workerCount)
    (present : call.workers mover ≠ .exited)
    (grows : call.nextIndex ≤ nextIndex)
    (left : state = .exited → call.specs.length ≤ nextIndex)
    (innocent : ¬(call.workers mover).Blaming) :
    ({ call with upload, nextIndex, outcomes }.setWorker mover
      state).Blamed := by
  refine blamed.worker inside present (List.append_nil _).symm (Nat.zero_le 1)
    blamed.first id grows ?_ ?_ (by simp) (by simp) (by simp)
  · exact fun exited => .inr (left exited)
  · exact fun blaming => absurd blaming innocent

/-- A step of a worker that notes one event and records no error. -/
theorem Blamed.noted
    {upload : MultipartUpload}
    {event : UploadEvent}
    {state : UploadPartsWorker}
    (blamed : call.Blamed)
    (inside : mover < call.workerCount)
    (present : call.workers mover ≠ .exited)
    (innocent : ¬(call.workers mover).Blaming)
    (unrecorded : event.error? = none)
    (left : state = .exited → call.firstError ≠ none)
    (failure : event.Failure → state.Blaming)
    (observes : ∀ worker, event = .observedError worker →
      worker = mover ∧ state = .exited)
    (starts : ∀ worker index, event = .started worker index →
      worker = mover) :
    (({ call with upload }.note event).setWorker mover state).Blamed := by
  refine blamed.worker inside present rfl le_rfl ?_ id le_rfl ?_ ?_ ?_ ?_ ?_
  · rw [errors_append, unrecorded, Option.toList_none, List.append_nil]
    exact blamed.first
  · exact fun exited => .inl (left exited)
  · exact fun blaming => absurd blaming innocent
  · simpa using failure
  · simpa [eq_comm] using observes
  · simpa [eq_comm] using starts

/-- A step of a worker that records an error. -/
theorem Blamed.recorded
    {error : Error}
    {state : UploadPartsWorker}
    (blamed : call.Blamed)
    (inside : mover < call.workerCount)
    (present : call.workers mover ≠ .exited) :
    ((call.recordError error).setWorker mover state).Blamed := by
  refine blamed.worker inside present rfl le_rfl ?_ nofun le_rfl ?_ ?_ ?_ ?_ ?_
  · rw [errors_append, blamed.first]
    cases errors call.events <;> simp
  · exact fun _ => .inl nofun
  · exact fun _ => nofun
  · simp [UploadEvent.Failure]
  · simp
  · simp

/-- Every step of a worker keeps the blame. -/
theorem Blamed.works
    {next : UploadPartsCall}
    (blamed : call.Blamed)
    (inside : mover < call.workerCount)
    (works : Works call mover next) :
    next.Blamed := by
  cases works with
  | bound enters =>
      exact blamed.silent inside (by simp [enters]) le_rfl nofun
        (by simp [enters, UploadPartsWorker.Blaming])
  | unbound enters =>
      exact blamed.noted inside (by simp [enters])
        (by simp [enters, UploadPartsWorker.Blaming]) rfl nofun
        (fun _ => trivial) nofun nofun
  | reported unbound => exact blamed.recorded inside (by simp [unbound])
  | exhausted claims all =>
      exact blamed.silent inside (by simp [claims]) (Nat.le_succ _)
        (fun _ => all.trans (Nat.le_succ _))
        (by simp [claims, UploadPartsWorker.Blaming])
  | claimed claims more =>
      exact blamed.silent inside (by simp [claims]) (Nat.le_succ _) nofun
        (by simp [claims, UploadPartsWorker.Blaming])
  | observed index claimed failed =>
      refine blamed.noted inside (by simp [claimed])
        (by simp [claimed, UploadPartsWorker.Blaming]) rfl (fun _ => failed)
        nofun ?_ nofun
      rintro worker ⟨⟩
      exact ⟨rfl, rfl⟩
  | started index claimed unfailed =>
      refine blamed.noted inside (by simp [claimed])
        (by simp [claimed, UploadPartsWorker.Blaming]) rfl nofun nofun nofun ?_
      rintro worker other ⟨⟩
      rfl
  | accepted index checks passed =>
      exact blamed.noted inside (by simp [checks])
        (by simp [checks, UploadPartsWorker.Blaming]) rfl nofun nofun nofun
        nofun
  | failed index error uploads =>
      refine blamed.noted inside ?_ ?_ rfl nofun (fun _ => trivial) nofun nofun
        <;> rcases uploads with uploads | uploads <;>
          simp [uploads, UploadPartsWorker.Blaming]
  | answered index outcome sends =>
      exact blamed.silent inside (by simp [sends]) le_rfl nofun
        (by simp [sends, UploadPartsWorker.Blaming])
  | recorded index outcome records =>
      exact blamed.noted inside (by simp [records])
        (by simp [records, UploadPartsWorker.Blaming]) rfl nofun nofun nofun
        nofun
  | stored index outcome stores =>
      exact blamed.silent inside (by simp [stores]) le_rfl nofun
        (by simp [stores, UploadPartsWorker.Blaming])
  | blamed index error fails => exact blamed.recorded inside (by simp [fails])

end Blamed

/-! ## The caller -/

/-- All workers have left. -/
def Joined (call : UploadPartsCall) : Prop :=
  ∀ worker < call.workerCount, call.workers worker = .exited

/-- What holds at each stage of the caller: it goes on when all workers have
left, with the first error if there is one, and has aborted the upload when it
returns an error. -/
def Concluded (start : MultipartUpload) (call : UploadPartsCall) : Prop :=
  match call.stage with
  | .joining => call.upload.finished = start.finished
  | .aborting error =>
      call.Joined ∧ call.firstError = some error ∧
        call.upload.finished = start.finished
  | .marking error =>
      call.Joined ∧ call.firstError = some error ∧ .abortSent ∈ call.events
  | .returned (.ok outcomes) =>
      call.Joined ∧ call.firstError = none ∧ outcomes = call.outcomes
  | .returned (.error error) =>
      call.Joined ∧ call.firstError = some error ∧
        call.upload.finished = true ∧
        (start.finished = false → .abortSent ∈ call.events)

/-- The invariant of a call. -/
structure Sound
    (start : MultipartUpload)
    (specs : List PartSpec)
    (call : UploadPartsCall) : Prop where
  list : call.specs = specs
  staffed : specs ≠ [] → 0 < call.workerCount
  counted : ∀ index, call.Counted index
  recorded : call.Recorded start
  blamed : call.Blamed
  concluded : call.Concluded start

section Sound

variable
  {start : MultipartUpload}
  {specs : List PartSpec}
  {call next : UploadPartsCall}
  {mover : Nat}

theorem Works.present (works : Works call mover next) :
    call.workers mover ≠ .exited := by
  cases works with
  | failed index error uploads =>
      rcases uploads with uploads | uploads <;> simp [uploads]
  | _ => simp [*]

/-- What a step of a worker leaves alone. -/
theorem Works.frame (works : Works call mover next) :
    next.specs = call.specs ∧ next.workerCount = call.workerCount ∧
      next.stage = call.stage ∧
      next.upload.finished = call.upload.finished := by
  cases works <;> exact ⟨rfl, rfl, rfl, rfl⟩

/-- The caller waits as long as a worker has not left. -/
theorem Sound.waits
    (sound : call.Sound start specs)
    (inside : mover < call.workerCount)
    (present : call.workers mover ≠ .exited) :
    call.stage = .joining := by
  have concluded := sound.concluded
  unfold Concluded at concluded
  split at concluded
  case h_1 waits => exact waits
  all_goals exact absurd (concluded.1 mover inside) present

/-- Every step of a worker keeps the invariant. -/
theorem Sound.works
    (sound : call.Sound start specs)
    (inside : mover < call.workerCount)
    (works : Works call mover next) :
    next.Sound start specs := by
  obtain ⟨list, count, stage, finished⟩ := works.frame
  have waits := sound.waits inside works.present
  refine ⟨list.trans sound.list, fun some => count ▸ sound.staffed some,
    fun index => (sound.counted index).works inside works,
    sound.recorded.works sound.counted inside works,
    sound.blamed.works inside works, ?_⟩
  have concluded := sound.concluded
  rw [Concluded, waits] at concluded
  rw [Concluded, stage, waits]
  exact finished.trans concluded

/-- The caller touches neither the claims, the records nor the errors. -/
theorem Sound.conclude
    {upload : MultipartUpload}
    {stage : UploadPartsStage}
    (sound : call.Sound start specs)
    (parts : upload.parts = call.upload.parts)
    (concluded : { call with upload, stage }.Concluded start) :
    { call with upload, stage }.Sound start specs where
  list := sound.list
  staffed := sound.staffed
  counted := by
    intro index
    obtain ⟨claims_le, claims_eq, records_le, records_eq⟩ := sound.counted index
    exact ⟨claims_le, claims_eq, records_le, records_eq⟩
  recorded := by
    obtain ⟨length, inside, storing, stored, recordedParts⟩ := sound.recorded
    exact ⟨length, inside, storing, stored, parts.trans recordedParts⟩
  blamed := by
    obtain ⟨first, left, failures, quits, ordered⟩ := sound.blamed
    exact ⟨first, left, failures, quits, ordered⟩
  concluded := concluded

/-- The abort is noted. -/
theorem Sound.aborted
    {stage : UploadPartsStage}
    (sound : call.Sound start specs)
    (concluded :
      ({ call.note .abortSent with stage } : UploadPartsCall).Concluded start) :
    ({ call.note .abortSent with stage } : UploadPartsCall).Sound start
      specs where
  list := sound.list
  staffed := sound.staffed
  counted := by
    intro index
    obtain ⟨claims_le, claims_eq, records_le, records_eq⟩ := sound.counted index
    constructor <;> simpa [note]
  recorded := by
    obtain ⟨length, inside, storing, stored, recordedParts⟩ := sound.recorded
    refine ⟨length, inside, ?_, ?_, ?_⟩
    · simpa [note] using storing
    · simpa [note] using stored
    · have same : accepts (call.events ++ [.abortSent]) =
          accepts call.events := by
        simp
      change call.upload.parts =
        start.parts ++ (accepts (call.events ++ [.abortSent])).map call.ref
      rw [same]
      exact recordedParts
  blamed := by
    obtain ⟨first, left, failures, quits, ordered⟩ := sound.blamed
    refine ⟨?_, left, ?_, ?_, ?_⟩
    · simpa [note] using first
    · intro event member failed
      rcases List.mem_append.mp member with old | new
      · exact failures event old failed
      · cases List.mem_singleton.mp new
        exact failed.elim
    · intro worker member
      rcases List.mem_append.mp member with old | new
      · exact quits worker old
      · cases List.mem_singleton.mp new
    · refine List.pairwise_append.mpr
        ⟨ordered, List.pairwise_singleton _ _, ?_⟩
      intro _ _ second new worker index _
      rw [List.mem_singleton.mp new]
      intro impossible
      cases impossible
  concluded := concluded

/-- Every step of the caller keeps the invariant. -/
theorem Sound.caller
    (sound : call.Sound start specs)
    (stepped : call.stepCaller = some next) :
    next.Sound start specs := by
  have concluded := sound.concluded
  revert stepped
  fun_cases stepCaller call <;> intro stepped <;> cases stepped
  case case1 joining joined error failed =>
    rw [Concluded, joining] at concluded
    exact sound.conclude rfl ⟨joined, failed, concluded⟩
  case case2 joining joined unfailed =>
    exact sound.conclude rfl ⟨joined, unfailed, rfl⟩
  case case4 error aborting finished =>
    rw [Concluded, aborting] at concluded
    obtain ⟨joined, failed, same⟩ := concluded
    refine sound.conclude rfl ⟨joined, failed, finished, ?_⟩
    intro open_
    rw [finished, open_] at same
    cases same
  case case5 error aborting unfinished =>
    rw [Concluded, aborting] at concluded
    exact sound.aborted ⟨concluded.1, concluded.2.1, by simp [note]⟩
  case case6 error marking =>
    rw [Concluded, marking] at concluded
    obtain ⟨joined, failed, sent⟩ := concluded
    exact sound.conclude rfl ⟨joined, failed, rfl, fun _ => sent⟩

theorem sound_init
    (upload : MultipartUpload)
    (specs : List PartSpec)
    (concurrency : Nat) :
    (init upload specs concurrency).Sound upload specs where
  list := rfl
  staffed := by
    intro some
    simp only [init, if_neg some, normalizeUploadPartsConcurrency]
    have positive := List.length_pos_iff.mpr some
    split_ifs <;> omega
  counted := by
    intro index
    have pending : tally (init upload specs concurrency).workerCount
        (UploadPartsWorker.pending index) (fun _ => .entering) = 0 :=
      tally_eq_zero_iff.mpr fun _ _ => rfl
    have unrecorded : tally (init upload specs concurrency).workerCount
        (UploadPartsWorker.unrecorded index) (fun _ => .entering) = 0 :=
      tally_eq_zero_iff.mpr fun _ _ => rfl
    constructor <;> simp_all [init, starts, accepts, handedOut]
  recorded := by
    refine ⟨by simp [init], ?_, ?_, ?_, ?_⟩
    · intro worker index inside
      cases inside
    all_goals simp [init, accepts]
  blamed := by
    refine ⟨rfl, ?_, ?_, ?_, .nil⟩ <;> simp [init]
  concluded := by
    by_cases empty : specs = []
    · simp [Concluded, init, empty, Joined]
    · simp [Concluded, init, empty]

/-- Every reachable call is sound. -/
theorem sound_of_reachable
    {upload : MultipartUpload}
    {concurrency : Nat}
    (reachable :
      (machine upload specs concurrency).Reachable Machine.always call) :
    call.Sound upload specs := by
  refine reachable.invariant ?_ ?_
  · rintro _ rfl
    exact sound_init upload specs concurrency
  · intro before action after sound _ stepped
    cases action with
    | worker worker binds answer =>
        simp only [machine, step, Option.ite_none_right_eq_some] at stepped
        exact sound.works stepped.1 (works_of_stepWorker stepped.2)
    | caller => exact sound.caller stepped

end Sound

/-! ## The result -/

section Result

variable
  {start : MultipartUpload}
  {specs : List PartSpec}
  {call : UploadPartsCall}

/-- When all workers have left without an error, every index was handed out. -/
theorem Sound.exhausted
    (sound : call.Sound start specs)
    (joined : call.Joined)
    (unfailed : call.firstError = none) :
    specs.length ≤ call.nextIndex := by
  by_cases empty : specs = []
  · simp [empty]
  · have staffed := sound.staffed empty
    rcases sound.blamed.left 0 staffed (joined 0 staffed) with failed | all
    · exact absurd unfailed failed
    · rwa [sound.list] at all

/-- No worker contributes to a count when all have left. -/
theorem Joined.tally_eq_zero
    {measure : UploadPartsWorker → Nat}
    (joined : call.Joined)
    (exited : measure .exited = 0) :
    tally call.workerCount measure call.workers = 0 := by
  apply tally_eq_zero_iff.mpr
  intro worker inside
  rw [joined worker inside, exited]

/-- When all workers have left without an error, every index was started
once. -/
theorem Sound.started_once
    (sound : call.Sound start specs)
    (joined : call.Joined)
    (unfailed : call.firstError = none)
    {index : Nat}
    (inside : index < specs.length) :
    (starts call.events).count index = 1 := by
  have all := sound.exhausted joined unfailed
  have claims := (sound.counted index).claims_eq unfailed
    (by rwa [sound.list])
  rw [joined.tally_eq_zero rfl, handedOut, if_pos (by omega)] at claims
  omega

/-- When all workers have left, the accepted outcomes are stored. -/
theorem Sound.stored
    (sound : call.Sound start specs)
    (joined : call.Joined)
    {index : Nat}
    {outcome : TransferOutcome}
    (accepted : (index, outcome) ∈ accepts call.events) :
    call.outcomes[index]? = some outcome := by
  rcases sound.recorded.stored index outcome accepted with
    ⟨worker, inside, stores⟩ | stored
  · rw [joined worker inside] at stores
    cases stores
  · exact stored

/-- When all workers have left without an error, every index was accepted
once. -/
theorem Sound.accepted_perm
    (sound : call.Sound start specs)
    (joined : call.Joined)
    (unfailed : call.firstError = none) :
    ((accepts call.events).map Prod.fst).Perm (List.range specs.length) := by
  have once : ∀ index < specs.length,
      ((accepts call.events).map Prod.fst).count index = 1 := by
    intro index inside
    have records := (sound.counted index).records_eq unfailed
    rw [joined.tally_eq_zero rfl,
      sound.started_once joined unfailed inside] at records
    omega
  have below : ∀ index ∈ (accepts call.events).map Prod.fst,
      index < specs.length := by
    intro index member
    obtain ⟨⟨_, outcome⟩, accepted, rfl⟩ := List.mem_map.mp member
    have stored := sound.stored joined accepted
    have inside := (List.getElem?_eq_some_iff.mp stored).1
    rwa [sound.recorded.length, sound.list] at inside
  apply List.perm_iff_count.mpr
  intro index
  by_cases inside : index < specs.length
  · rw [once index inside]
    exact (List.count_eq_one_of_mem List.nodup_range
      (List.mem_range.mpr inside)).symm
  · rw [List.count_eq_zero.mpr (fun member => inside (below index member)),
      List.count_eq_zero.mpr (fun member => inside (List.mem_range.mp member))]

/-- The parts and the outcomes, as the handle remembers them. -/
def partRefs
    (specs : List PartSpec)
    (outcomes : List TransferOutcome) : List PartRef :=
  List.zipWith (fun spec outcome => ⟨spec.partNumber, outcome.etag⟩) specs
    outcomes

theorem map_range_eq_partRefs
    {outcomes : List TransferOutcome}
    (length : outcomes.length = specs.length) :
    (List.range specs.length).map (fun index =>
        (⟨(specs.getD index {}).partNumber, (outcomes.getD index {}).etag⟩ :
          PartRef)) =
      partRefs specs outcomes := by
  apply List.ext_getElem
  · simp [partRefs, length]
  · intro index first second
    simp only [List.length_map, List.length_range] at first
    simp [partRefs, first, length]

/-- When all workers have left without an error, the handle has recorded every
part once. -/
theorem Sound.parts_perm
    (sound : call.Sound start specs)
    (joined : call.Joined)
    (unfailed : call.firstError = none) :
    ∃ added, call.upload.parts = start.parts ++ added ∧
      added.Perm (partRefs specs call.outcomes) := by
  refine ⟨_, sound.recorded.parts, ?_⟩
  have refs : (accepts call.events).map call.ref =
      ((accepts call.events).map Prod.fst).map fun index =>
        ⟨(specs.getD index {}).partNumber,
          (call.outcomes.getD index {}).etag⟩ := by
    rw [List.map_map]
    apply List.map_congr_left
    rintro ⟨index, outcome⟩ accepted
    have stored := sound.stored joined accepted
    simp [ref, spec, sound.list, stored]
  rw [refs, ← map_range_eq_partRefs
    (sound.recorded.length.trans (by rw [sound.list]))]
  exact (sound.accepted_perm joined unfailed).map _

/-- When all workers have left without an error, the outcome of an index is the
one its upload returned. -/
theorem Sound.returned_outcome
    (sound : call.Sound start specs)
    (joined : call.Joined)
    (unfailed : call.firstError = none)
    {index : Nat}
    {outcome : TransferOutcome}
    (found : call.outcomes[index]? = some outcome) :
    .returned index (.ok outcome) ∈ call.events := by
  have inside := (List.getElem?_eq_some_iff.mp found).1
  rw [sound.recorded.length, sound.list] at inside
  have key : index ∈ (accepts call.events).map Prod.fst :=
    (sound.accepted_perm joined unfailed).mem_iff.mpr (List.mem_range.mpr inside)
  obtain ⟨⟨_, accepted⟩, member, rfl⟩ := List.mem_map.mp key
  have stored := sound.stored joined member
  rw [found, Option.some.injEq] at stored
  subst stored
  obtain ⟨event, occurred, accepts⟩ := List.mem_filterMap.mp member
  revert accepts
  fun_cases UploadEvent.accept? event <;> intro accepts <;> cases accepts
  exact occurred

end Result

/-- No index is uploaded twice; when the call returns the outcomes, every index
was uploaded once, the outcome of an index is what its upload returned, and the
handle has recorded every part once; when an upload or a device binding failed,
the call returns the first recorded error and has aborted the upload; and a
worker that has seen an error starts no upload. -/
structure UploadsOnce
    (start : MultipartUpload)
    (specs : List PartSpec)
    (call : UploadPartsCall) : Prop where
  once : ∀ index, (starts call.events).count index ≤ 1
  success : ∀ outcomes, call.stage = .returned (.ok outcomes) →
    (∀ index < specs.length, (starts call.events).count index = 1) ∧
      outcomes.length = specs.length ∧
      (∀ index outcome, outcomes[index]? = some outcome →
        .returned index (.ok outcome) ∈ call.events) ∧
      ∃ added, call.upload.parts = start.parts ++ added ∧
        added.Perm (partRefs specs outcomes)
  failure : ∀ result, call.stage = .returned result →
    (∃ event ∈ call.events, event.Failure) →
      ∃ error, result = .error error ∧
        (errors call.events).head? = some error ∧
        call.upload.finished = true ∧
        (start.finished = false → .abortSent ∈ call.events)
  quits : call.events.Pairwise fun first second => ∀ worker index,
    first = .observedError worker → second ≠ .started worker index

theorem Sound.uploadsOnce
    {start : MultipartUpload}
    {specs : List PartSpec}
    {call : UploadPartsCall}
    (sound : call.Sound start specs) :
    call.UploadsOnce start specs where
  once := fun index => (sound.counted index).started_le_one
  success := by
    intro outcomes returned
    have concluded := sound.concluded
    rw [Concluded, returned] at concluded
    obtain ⟨joined, unfailed, rfl⟩ := concluded
    exact ⟨fun index inside => sound.started_once joined unfailed inside,
      sound.recorded.length.trans (by rw [sound.list]),
      fun index outcome found => sound.returned_outcome joined unfailed found,
      sound.parts_perm joined unfailed⟩
  failure := by
    rintro result returned ⟨event, occurred, failed⟩
    have concluded := sound.concluded
    rw [Concluded, returned] at concluded
    cases result with
    | ok outcomes =>
        -- the failure is recorded, since no worker is left to record it
        obtain ⟨joined, unfailed, _⟩ := concluded
        rcases sound.blamed.failures event occurred failed with
          known | ⟨worker, inside, blames⟩
        · exact absurd unfailed known
        · rw [joined worker inside] at blames
          exact blames.elim
    | error error =>
        obtain ⟨_, first, finished, aborted⟩ := concluded
        exact ⟨error, rfl, sound.blamed.first.symm.trans first, finished,
          aborted⟩
  quits := sound.blamed.ordered

/-! ## Every run returns -/

/-- How many steps a worker has at most until it claims the next index. -/
def weight : UploadPartsWorker → Nat
  | .exited => 0
  | .unbound => 1
  | .claiming => 2
  | .entering => 3
  | .failing _ _ => 3
  | .storing _ _ => 4
  | .recording _ _ => 5
  | .sending _ => 6
  | .checking _ => 7
  | .claimed _ => 8

def stageWeight : UploadPartsStage → Nat
  | .joining => 3
  | .aborting _ => 2
  | .marking _ => 1
  | .returned _ => 0

/-- A bound on the steps that a call can still make. -/
def remaining (call : UploadPartsCall) : Nat :=
  7 * (call.specs.length - call.nextIndex) +
    tally call.workerCount weight call.workers + stageWeight call.stage

/-- A step that makes its worker lighter uses up the bound. -/
theorem remaining_setWorker_lt
    {call : UploadPartsCall}
    {mover : Nat}
    {upload : MultipartUpload}
    {firstError : Option Error}
    {outcomes : List TransferOutcome}
    {events : List UploadEvent}
    {state : UploadPartsWorker}
    (inside : mover < call.workerCount)
    (lighter : weight state < weight (call.workers mover)) :
    ({ call with upload, firstError, outcomes, events }.setWorker mover
      state).remaining < call.remaining := by
  have moved := @tally_update _ _ weight call.workers mover inside state
  simp only [remaining, setWorker] at moved ⊢
  omega

theorem Works.remaining_lt
    {call next : UploadPartsCall}
    {mover : Nat}
    (inside : mover < call.workerCount)
    (works : Works call mover next) :
    next.remaining < call.remaining := by
  have moved := @tally_update _ _ weight call.workers mover inside
  cases works with
  | claimed claims more =>
      -- the claimed index pays for the steps until the next claim
      have change := moved (.claimed call.nextIndex)
      simp only [remaining, setWorker, claims, weight] at change ⊢
      omega
  | exhausted claims all =>
      have change := moved .exited
      simp only [remaining, setWorker, claims, weight] at change ⊢
      omega
  | failed index error uploads =>
      apply remaining_setWorker_lt inside
      rcases uploads with uploads | uploads <;> simp [uploads, weight]
  | bound here | unbound here | reported here | observed _ here _
  | started _ here _ | accepted _ here _ | answered _ _ here
  | recorded _ _ here | stored _ _ here | blamed _ _ here =>
      exact remaining_setWorker_lt inside (by simp [here, weight])

theorem remaining_stepCaller_lt
    {call next : UploadPartsCall}
    (stepped : call.stepCaller = some next) :
    next.remaining < call.remaining := by
  revert stepped
  fun_cases stepCaller call <;> intro stepped <;> cases stepped <;>
    simp [remaining, note, stageWeight, *]

/-- Every step uses up the bound. -/
theorem remaining_step_lt
    {call next : UploadPartsCall}
    {action : Action}
    (stepped : call.step action = some next) :
    next.remaining < call.remaining := by
  cases action with
  | worker worker binds answer =>
      simp only [step, Option.ite_none_right_eq_some] at stepped
      exact (works_of_stepWorker stepped.2).remaining_lt stepped.1
  | caller => exact remaining_stepCaller_lt stepped

/-- A worker that has not left can make a step, whatever it is answered. -/
theorem stepWorker_isSome
    {call : UploadPartsCall}
    {worker : Nat}
    (present : call.workers worker ≠ .exited)
    (binds : Bool)
    (answer : Result TransferOutcome) :
    ∃ next, call.stepWorker worker binds answer = some next := by
  fun_cases stepWorker call worker binds answer
  case case15 exited => exact absurd exited present
  all_goals exact ⟨_, rfl⟩

/-- A call that has not returned can make a step. -/
theorem step_isSome
    (call : UploadPartsCall)
    (waiting : ∀ result, call.stage ≠ .returned result) :
    ∃ action next, call.step action = some next := by
  by_cases joined : call.Joined
  · refine ⟨.caller, ?_⟩
    simp only [step]
    fun_cases stepCaller call
    case case3 unjoined => exact absurd joined unjoined
    case case7 result returned => exact absurd returned (waiting result)
    all_goals exact ⟨_, rfl⟩
  · simp only [Joined, not_forall] at joined
    obtain ⟨worker, inside, present⟩ := joined
    obtain ⟨next, stepped⟩ := stepWorker_isSome present true (.ok {})
    exact ⟨.worker worker true (.ok {}), next, by simp [step, inside, stepped]⟩

/-- A run is no longer than the bound of the state it starts in. -/
theorem length_le_remaining
    {upload : MultipartUpload}
    {specs : List PartSpec}
    {concurrency : Nat}
    {start finish : UploadPartsCall}
    {actions : List Action}
    (path : (machine upload specs concurrency).Path Machine.always start actions
      finish) :
    actions.length + finish.remaining ≤ start.remaining := by
  induction path with
  | nil => simp
  | cons _ stepped _ inductionHypothesis =>
      have smaller := remaining_step_lt stepped
      simp only [List.length_cons]
      omega

/-- Every reachable state of a call of `UploadParts` uploads every part at most
once, and as its result says; every run is bounded, and one that cannot go on
has returned. -/
theorem uploadsOnce_and_returns
    (upload : MultipartUpload)
    (specs : List PartSpec)
    (concurrency : Nat) :
    (∀ call, (machine upload specs concurrency).Reachable Machine.always call →
      call.UploadsOnce upload specs ∧
        ((∃ result, call.stage = .returned result) ∨
          ∃ action next, call.step action = some next)) ∧
      ∃ bound, ∀ actions call,
        (machine upload specs concurrency).Path Machine.always
            (init upload specs concurrency) actions call →
          actions.length ≤ bound := by
  refine ⟨?_, (init upload specs concurrency).remaining, ?_⟩
  · intro call reachable
    refine ⟨(sound_of_reachable reachable).uploadsOnce, ?_⟩
    by_cases returned : ∃ result, call.stage = .returned result
    · exact .inl returned
    · exact .inr (step_isSome call (not_exists.mp returned))
  · intro actions call path
    have bounded := length_le_remaining path
    omega

private def openUpload : MultipartUpload where
  maxPartSize := 0
  parts := []
  bytesCommitted := 0
  finished := false

private def twoParts : List PartSpec := [⟨1, 0, 1⟩, ⟨2, 1, 1⟩]

private theorem initial_twoParts :
    (machine openUpload twoParts 2).initial (init openUpload twoParts 2) := rfl

private def go (worker : Nat) : Action := .worker worker true (.ok {})

/-- Two workers upload a part each, and leave. -/
private def parallelUpload : List Action :=
  [go 0, go 1, go 1, go 0, go 0, go 1, go 1, go 0, go 0, go 1, go 1, go 0, go 0,
    go 1, go 0, go 1, .caller]

/-- Both parts were uploaded once. -/
theorem uploadsOnce_two_parts :
    ∃ call, (machine openUpload twoParts 2).Reachable Machine.always call ∧
      call.stage = .returned (.ok [{}, {}]) ∧
      ∀ index < 2, (starts call.events).count index = 1 := by
  have executed : ((machine openUpload twoParts 2).run Machine.always
      (init openUpload twoParts 2) parallelUpload).map
        (fun call => call.stage) = some (.returned (.ok [{}, {}])) := by
    decide
  obtain ⟨call, reachable, returned⟩ :=
    Machine.Reachable.of_run_map initial_twoParts executed
  have once := ((uploadsOnce_and_returns openUpload twoParts 2).1 call
    reachable).1
  exact ⟨call, reachable, returned, (once.success _ returned).1⟩

end UploadPartsCall
end Client
end TurboAccess

import Mathlib.Data.List.Perm.Basic
import Mathlib.Data.List.Range
import TurboAccess.Client.Upload.UploadParts

/-!
# Every part is uploaded once

The workers of `UploadParts` race on a counter.  An index that was handed out is
claimed by one worker, or its upload has been started, or it was given up because
an error was seen; while no error is recorded none is given up.  In the same way
an upload that was started is under way, or was accepted, or its error is about
to be recorded.  Both are counted over the workers, and give at the end that
every index was uploaded once.
-/

namespace TurboAccess
namespace Client

/-- An index whose upload is started. -/
def UploadEvent.start? : UploadEvent → Option Nat
  | .started _ index => some index
  | _ => none

/-- An index whose upload is accepted, with the outcome. -/
def UploadEvent.accept? : UploadEvent → Option (Nat × TransferOutcome)
  | .returned index (.ok outcome) => some (index, outcome)
  | _ => none

/-- An error that is recorded. -/
def UploadEvent.error? : UploadEvent → Option Error
  | .recordedError error => some error
  | _ => none

/-- An upload or a device binding that failed. -/
def UploadEvent.Failure : UploadEvent → Prop
  | .bindingFailed _ => True
  | .returned _ (.error _) => True
  | _ => False

namespace UploadPartsWorker

/-- The worker has claimed an index and not started its upload. -/
def pending (index : Nat) : UploadPartsWorker → Nat
  | .claimed other => if other = index then 1 else 0
  | _ => 0

/-- The worker has started the upload of an index, and recorded neither its
outcome nor its error. -/
def unrecorded (index : Nat) : UploadPartsWorker → Nat
  | .checking other => if other = index then 1 else 0
  | .sending other => if other = index then 1 else 0
  | .recording other _ => if other = index then 1 else 0
  | .failing other _ => if other = index then 1 else 0
  | _ => 0

/-- The index that the worker works on. -/
def index? : UploadPartsWorker → Option Nat
  | .claimed index => some index
  | .checking index => some index
  | .sending index => some index
  | .recording index _ => some index
  | .storing index _ => some index
  | .failing index _ => some index
  | _ => none

/-- The worker is about to record an error. -/
def Blaming : UploadPartsWorker → Prop
  | .unbound => True
  | .failing _ _ => True
  | _ => False

end UploadPartsWorker

namespace UploadPartsCall

/-- The indexes whose upload was started, in order. -/
def starts (events : List UploadEvent) : List Nat :=
  events.filterMap UploadEvent.start?

/-- The indexes whose upload was accepted, with the outcomes, in order. -/
def accepts (events : List UploadEvent) : List (Nat × TransferOutcome) :=
  events.filterMap UploadEvent.accept?

/-- The recorded errors, in order. -/
def errors (events : List UploadEvent) : List Error :=
  events.filterMap UploadEvent.error?

@[simp] theorem starts_append (events : List UploadEvent) (event : UploadEvent) :
    starts (events ++ [event]) = starts events ++ event.start?.toList := by
  cases started : event.start? <;> simp [starts, started]

@[simp] theorem accepts_append
    (events : List UploadEvent)
    (event : UploadEvent) :
    accepts (events ++ [event]) = accepts events ++ event.accept?.toList := by
  cases accepted : event.accept? <;> simp [accepts, accepted]

@[simp] theorem errors_append (events : List UploadEvent) (event : UploadEvent) :
    errors (events ++ [event]) = errors events ++ event.error?.toList := by
  cases error : event.error? <;> simp [errors, error]

attribute [simp] UploadEvent.start? UploadEvent.accept? UploadEvent.error?

/-! ## Claims and records are counted -/

/-- How often an index has been handed out by a counter. -/
def handedOut (nextIndex index : Nat) : Nat :=
  if index < nextIndex then 1 else 0

/-- An index is claimed or started at most once, and not before it is handed
out; its upload is under way or accepted at most as often as it was started.
While no error is recorded, none of them is given up. -/
structure Counted (call : UploadPartsCall) (index : Nat) : Prop where
  claims_le :
    tally call.workerCount (UploadPartsWorker.pending index) call.workers +
        (starts call.events).count index ≤
      handedOut call.nextIndex index
  claims_eq : call.firstError = none → index < call.specs.length →
    tally call.workerCount (UploadPartsWorker.pending index) call.workers +
        (starts call.events).count index =
      handedOut call.nextIndex index
  records_le :
    tally call.workerCount (UploadPartsWorker.unrecorded index) call.workers +
        ((accepts call.events).map Prod.fst).count index ≤
      (starts call.events).count index
  records_eq : call.firstError = none →
    tally call.workerCount (UploadPartsWorker.unrecorded index) call.workers +
        ((accepts call.events).map Prod.fst).count index =
      (starts call.events).count index

section Counted

variable
  {call : UploadPartsCall}
  {mover index : Nat}

/-- A step of a worker keeps the counts when it changes both sides alike. -/
theorem Counted.worker
    {upload : MultipartUpload}
    {nextIndex : Nat}
    {firstError : Option Error}
    {outcomes : List TransferOutcome}
    {events : List UploadEvent}
    {state : UploadPartsWorker}
    (counted : call.Counted index)
    (inside : mover < call.workerCount)
    (sticky : firstError = none → call.firstError = none)
    (claims_le :
      state.pending index + (starts events).count index +
          handedOut call.nextIndex index ≤
        (call.workers mover).pending index + (starts call.events).count index +
          handedOut nextIndex index)
    (claims_eq : firstError = none → index < call.specs.length →
      state.pending index + (starts events).count index +
          handedOut call.nextIndex index =
        (call.workers mover).pending index + (starts call.events).count index +
          handedOut nextIndex index)
    (records_le :
      state.unrecorded index + ((accepts events).map Prod.fst).count index +
          (starts call.events).count index ≤
        (call.workers mover).unrecorded index +
          ((accepts call.events).map Prod.fst).count index +
          (starts events).count index)
    (records_eq : firstError = none →
      state.unrecorded index + ((accepts events).map Prod.fst).count index +
          (starts call.events).count index =
        (call.workers mover).unrecorded index +
          ((accepts call.events).map Prod.fst).count index +
          (starts events).count index) :
    ({ call with upload, nextIndex, firstError, outcomes, events }.setWorker
      mover state).Counted index := by
  have pending := @tally_update _ _ (UploadPartsWorker.pending index)
    call.workers mover inside state
  have unrecorded := @tally_update _ _ (UploadPartsWorker.unrecorded index)
    call.workers mover inside state
  refine ⟨?_, ?_, ?_, ?_⟩
  · have before := counted.claims_le
    simp only [setWorker] at before claims_le ⊢
    omega
  · intro unfailed below
    have before := counted.claims_eq (sticky unfailed) below
    have change := claims_eq unfailed below
    simp only [setWorker] at before change ⊢
    omega
  · have before := counted.records_le
    simp only [setWorker] at before records_le ⊢
    omega
  · intro unfailed
    have before := counted.records_eq (sticky unfailed)
    have change := records_eq unfailed
    simp only [setWorker] at before change ⊢
    omega

/-- A step that neither claims, starts, records nor gives up an index. -/
theorem Counted.idle
    {upload : MultipartUpload}
    {firstError : Option Error}
    {outcomes : List TransferOutcome}
    {events : List UploadEvent}
    {state : UploadPartsWorker}
    (counted : call.Counted index)
    (inside : mover < call.workerCount)
    (sticky : firstError = none → call.firstError = none)
    (unstarted : starts events = (starts call.events))
    (unaccepted : accepts events = (accepts call.events))
    (pending : state.pending index = (call.workers mover).pending index)
    (unrecorded :
      state.unrecorded index = (call.workers mover).unrecorded index) :
    ({ call with upload, firstError, outcomes, events }.setWorker mover
      state).Counted index := by
  refine counted.worker inside sticky ?_ ?_ ?_ ?_ <;>
    simp [unstarted, unaccepted, pending, unrecorded]

attribute [simp] UploadPartsWorker.pending UploadPartsWorker.unrecorded

/-- Every step of a worker keeps the counts. -/
theorem Counted.works
    {next : UploadPartsCall}
    (counted : call.Counted index)
    (inside : mover < call.workerCount)
    (works : Works call mover next) :
    next.Counted index := by
  cases works with
  | bound enters =>
      exact counted.idle inside id rfl rfl (by simp [enters]) (by simp [enters])
  | unbound enters =>
      exact counted.idle inside id (by simp) (by simp) (by simp [enters])
        (by simp [enters])
  | reported unbound =>
      exact counted.idle inside nofun (by simp) (by simp) (by simp [unbound])
        (by simp [unbound])
  | exhausted claims all =>
      refine counted.worker inside id ?_ ?_ ?_ ?_ <;>
        simp only [claims, handedOut, UploadPartsWorker.pending]
      · split_ifs <;> omega
      · intro _ below
        split_ifs <;> omega
      · exact le_rfl
      · exact fun _ => rfl
  | claimed claims more =>
      refine counted.worker inside id ?_ ?_ ?_ ?_ <;>
        simp only [claims, handedOut, UploadPartsWorker.pending]
      · split_ifs <;> omega
      · intro _ _
        split_ifs <;> omega
      · exact le_rfl
      · exact fun _ => rfl
  | observed other claimed failed =>
      refine counted.worker inside id ?_ (absurd · failed) ?_
        (absurd · failed) <;> simp [claimed]
  | started other claimed unfailed =>
      refine counted.worker inside id ?_ ?_ ?_ ?_ <;>
        simp [claimed, List.count_singleton] <;> omega
  | accepted other checks passed =>
      exact counted.idle inside id (by simp) (by simp) (by simp [checks])
        (by simp [checks])
  | failed other error uploads =>
      refine counted.idle inside id (by simp) (by simp) ?_ ?_ <;>
        rcases uploads with uploads | uploads <;> simp [uploads]
  | answered other outcome sends =>
      exact counted.idle inside id rfl rfl (by simp [sends]) (by simp [sends])
  | recorded other outcome records =>
      refine counted.worker inside id ?_ ?_ ?_ ?_ <;>
        simp [records, List.count_singleton] <;> omega
  | stored other outcome stores =>
      exact counted.idle inside id rfl rfl (by simp [stores]) (by simp [stores])
  | blamed other error fails =>
      refine counted.worker inside nofun ?_ nofun ?_ nofun <;> simp [fails]

/-- An upload is started at most once. -/
theorem Counted.started_le_one (counted : call.Counted index) :
    (starts call.events).count index ≤ 1 := by
  have claims := counted.claims_le
  have once : handedOut call.nextIndex index ≤ 1 := by
    rw [handedOut]
    split <;> omega
  omega

/-- Accepted uploads of one index are one. -/
theorem accepts_unique
    (counted : ∀ index, call.Counted index)
    {first second : Nat × TransferOutcome}
    (firstMember : first ∈ accepts call.events)
    (secondMember : second ∈ accepts call.events)
    (same : first.1 = second.1) :
    first = second := by
  have nodup : ((accepts call.events).map Prod.fst).Nodup := by
    apply List.nodup_iff_count_le_one.mpr
    intro index
    have records := (counted index).records_le
    have started := (counted index).started_le_one
    omega
  exact List.inj_on_of_nodup_map nodup firstMember secondMember same

end Counted

/-! ## Outcomes and recorded parts -/

/-- What the handle remembers of an accepted upload. -/
def ref (call : UploadPartsCall) (accepted : Nat × TransferOutcome) : PartRef where
  partNumber := (call.spec accepted.1).partNumber
  etag := accepted.2.etag

/-- Workers work on indexes of the list; the outcome of an accepted upload is
stored, or is about to be; and the handle has recorded the accepted uploads. -/
structure Recorded (start : MultipartUpload) (call : UploadPartsCall) :
    Prop where
  length : call.outcomes.length = call.specs.length
  inside : ∀ worker index, (call.workers worker).index? = some index →
    index < call.specs.length
  storing : ∀ worker index outcome,
    call.workers worker = .storing index outcome →
      (index, outcome) ∈ accepts call.events
  stored : ∀ index outcome, (index, outcome) ∈ accepts call.events →
    (∃ worker < call.workerCount,
        call.workers worker = .storing index outcome) ∨
      call.outcomes[index]? = some outcome
  parts : call.upload.parts =
    start.parts ++ (accepts call.events).map call.ref

section Recorded

variable
  {start : MultipartUpload}
  {call : UploadPartsCall}
  {mover : Nat}

/-- A step of a worker that stores nothing and has nothing accepted. -/
theorem Recorded.idle
    {nextIndex : Nat}
    {firstError : Option Error}
    {events : List UploadEvent}
    {state : UploadPartsWorker}
    (recorded : call.Recorded start)
    (below : ∀ index, state.index? = some index → index < call.specs.length)
    (unstoring : ∀ index outcome, state ≠ .storing index outcome)
    (unstored : ∀ index outcome, call.workers mover ≠ .storing index outcome)
    (unaccepted : accepts events = accepts call.events) :
    ({ call with nextIndex, firstError, events }.setWorker mover
      state).Recorded start where
  length := recorded.length
  inside := by
    intro worker index
    by_cases moves : worker = mover
    · rw [moves, setWorker_workers_self]
      exact below index
    · rw [setWorker_workers_of_ne _ moves]
      exact recorded.inside worker index
  storing := by
    intro worker index outcome
    simp only [setWorker, unaccepted]
    by_cases moves : worker = mover
    · rw [moves, Function.update_self]
      exact fun stores => absurd stores (unstoring index outcome)
    · rw [Function.update_of_ne moves]
      exact recorded.storing worker index outcome
  stored := by
    intro index outcome
    simp only [setWorker, unaccepted]
    intro member
    rcases recorded.stored index outcome member with
      ⟨worker, inside, stores⟩ | stored
    · have other : worker ≠ mover := by
        rintro rfl
        exact unstored index outcome stores
      exact .inl ⟨worker, inside, by rwa [Function.update_of_ne other]⟩
    · exact .inr stored
  parts := by
    simp only [setWorker, unaccepted]
    exact recorded.parts

/-- The handle records an accepted upload, and its outcome is about to be
stored. -/
theorem Recorded.accept
    {index : Nat}
    {outcome : TransferOutcome}
    (recorded : call.Recorded start)
    (inside : mover < call.workerCount)
    (records : call.workers mover = .recording index outcome) :
    (({ call with
      upload := call.upload.recordUploadedPart (call.spec index).partNumber
        outcome.etag (call.spec index).bufferSize }.note
          (.returned index (.ok outcome))).setWorker mover
        (.storing index outcome)).Recorded start where
  length := recorded.length
  inside := by
    intro worker other
    by_cases moves : worker = mover
    · rw [moves, setWorker_workers_self]
      rintro ⟨⟩
      exact recorded.inside mover index (by rw [records]; rfl)
    · rw [setWorker_workers_of_ne _ moves]
      exact recorded.inside worker other
  storing := by
    intro worker other result
    simp only [setWorker, note, accepts_append]
    by_cases moves : worker = mover
    · rw [moves, Function.update_self]
      rintro ⟨⟩
      simp
    · rw [Function.update_of_ne moves]
      intro stores
      exact List.mem_append_left _ (recorded.storing worker other result stores)
  stored := by
    intro other result
    simp only [setWorker, note, accepts_append, List.mem_append]
    rintro (member | newest)
    · rcases recorded.stored other result member with
        ⟨worker, inside, stores⟩ | stored
      · have different : worker ≠ mover := by
          rintro rfl
          rw [records] at stores
          cases stores
        exact .inl ⟨worker, inside, by rwa [Function.update_of_ne different]⟩
      · exact .inr stored
    · simp only [UploadEvent.accept?, Option.toList_some, List.mem_singleton,
        Prod.mk.injEq] at newest
      obtain ⟨rfl, rfl⟩ := newest
      exact .inl ⟨mover, inside, Function.update_self ..⟩
  parts := by
    simp [setWorker, note, MultipartUpload.recordUploadedPart, recorded.parts,
      ref, spec]

/-- The outcome of an accepted upload is stored at its index. -/
theorem Recorded.store
    {index : Nat}
    {outcome : TransferOutcome}
    (recorded : call.Recorded start)
    (counted : ∀ index, call.Counted index)
    (stores : call.workers mover = .storing index outcome) :
    ((call.recordSuccess index outcome).setWorker mover
      .claiming).Recorded start where
  length := by simpa [setWorker, recordSuccess] using recorded.length
  inside := by
    intro worker other
    by_cases moves : worker = mover
    · rw [moves, setWorker_workers_self]
      exact nofun
    · rw [setWorker_workers_of_ne _ moves]
      exact recorded.inside worker other
  storing := by
    intro worker other result
    by_cases moves : worker = mover
    · rw [moves, setWorker_workers_self]
      exact nofun
    · rw [setWorker_workers_of_ne _ moves]
      exact recorded.storing worker other result
  stored := by
    intro other result member
    simp only [setWorker, recordSuccess]
    have below := recorded.inside mover index (by rw [stores]; rfl)
    rw [← recorded.length] at below
    by_cases same : other = index
    · -- the only accepted upload of the index is the one that is stored
      have mine := recorded.storing mover index outcome stores
      have unique := accepts_unique counted member mine same
      simp only [Prod.mk.injEq] at unique
      rw [unique.1, unique.2]
      exact .inr (by simp [below])
    · rcases recorded.stored other result member with
        ⟨worker, inside, storing⟩ | stored
      · have different : worker ≠ mover := by
          rintro rfl
          rw [stores] at storing
          cases storing
          exact same rfl
        exact .inl ⟨worker, inside, by rwa [Function.update_of_ne different]⟩
      · exact .inr (by rwa [List.getElem?_set_ne (Ne.symm same)])
  parts := recorded.parts

/-- Every step of a worker keeps the records. -/
theorem Recorded.works
    {next : UploadPartsCall}
    (recorded : call.Recorded start)
    (counted : ∀ index, call.Counted index)
    (inside : mover < call.workerCount)
    (works : Works call mover next) :
    next.Recorded start := by
  cases works with
  | bound enters | unbound enters =>
      exact recorded.idle nofun nofun (by simp [enters]) (by simp)
  | reported unbound =>
      exact recorded.idle nofun nofun (by simp [unbound]) (by simp)
  | exhausted claims all =>
      exact recorded.idle nofun nofun (by simp [claims]) rfl
  | claimed claims more =>
      refine recorded.idle ?_ nofun (by simp [claims]) rfl
      rintro index ⟨⟩
      exact more
  | observed index claimed failed =>
      exact recorded.idle nofun nofun (by simp [claimed]) (by simp)
  | started index claimed unfailed =>
      have below := recorded.inside mover index (by rw [claimed]; rfl)
      refine recorded.idle ?_ nofun (by simp [claimed]) (by simp)
      rintro _ ⟨⟩
      exact below
  | accepted index checks passed =>
      have below := recorded.inside mover index (by rw [checks]; rfl)
      refine recorded.idle ?_ nofun (by simp [checks]) (by simp)
      rintro _ ⟨⟩
      exact below
  | failed index error uploads =>
      have below := recorded.inside mover index
        (by rcases uploads with uploads | uploads <;> rw [uploads] <;> rfl)
      refine recorded.idle ?_ nofun ?_ (by simp)
      · rintro _ ⟨⟩
        exact below
      · rcases uploads with uploads | uploads <;> simp [uploads]
  | answered index outcome sends =>
      have below := recorded.inside mover index (by rw [sends]; rfl)
      refine recorded.idle ?_ nofun (by simp [sends]) rfl
      rintro _ ⟨⟩
      exact below
  | recorded index outcome records => exact recorded.accept inside records
  | stored index outcome stores => exact recorded.store counted stores
  | blamed index error fails =>
      exact recorded.idle nofun nofun (by simp [fails]) (by simp)

end Recorded

end UploadPartsCall

end Client
end TurboAccess

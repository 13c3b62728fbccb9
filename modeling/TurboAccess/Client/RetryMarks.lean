import TurboAccess.Client.Gds.PutAttempts
import TurboAccess.Client.Rdma.TransferPath

/-!
# Marks of refusals

The gateway marks every error as retryable or not.  The mark does not reach the
client, which takes every failed call as retryable; so a write is attempted
again after a refusal that the gateway has not marked.
-/

namespace TurboAccess
namespace Client

/-! ## What a write must do -/

section

variable {κ : Type} {answer : κ → Type} {α β : Type}

/-- The gateway has refused a call, and has not marked its error as
retryable. -/
def RefusedForGood
    (refusal : Request κ answer → Option Gateway.Error)
    (request : Request κ answer) : Prop :=
  ∃ error, refusal request = some error ∧ error.retryable = false

/-- A write makes its attempts, each further one after a retryable error, and
none after an attempt in which a call was refused for good; then it returns an
error that is not retryable. -/
def RetriesAsMarked
    (refusal : Request κ answer → Option Gateway.Error)
    (clock : Program κ answer Int)
    (attempt : Int → Program κ answer (Result α))
    (trace : List (Request κ answer))
    (result : Result α) : Prop :=
  ∃ attempts, InAttempts clock attempt trace attempts result ∧
    ∀ earlier current later, attempts = earlier ++ current :: later →
      (∃ request ∈ current.trace, RefusedForGood refusal request) →
        later = [] ∧ ∃ error, result = .error error ∧ error.retryable = false

/-! ## What it does -/

/-- Whatever is refused makes the result a retryable error. -/
def FailsRetryably
    (refusal : Request κ answer → Option Gateway.Error)
    (trace : List (Request κ answer))
    (result : Result α) : Prop :=
  ∀ request ∈ trace, refusal request ≠ none →
    ∃ error, result = .error error ∧ error.retryable = true

/-- A program without calls that can be refused. -/
def Harmless
    (refusal : Request κ answer → Option Gateway.Error)
    (program : Program κ answer α) : Prop :=
  program.Always fun request => refusal request = none

/-- A program without such calls that fails with an error. -/
def FailsWith
    (refusal : Request κ answer → Option Gateway.Error)
    (error : Error)
    (program : Program κ answer (Result α)) : Prop :=
  program.Ensures fun trace result =>
    (∀ request ∈ trace, refusal request = none) ∧ result = .error error

variable {refusal : Request κ answer → Option Gateway.Error}

theorem failsWith_pure (error : Error) :
    FailsWith refusal error
      (pure (.error error) : Program κ answer (Result α)) :=
  ⟨by simp, rfl⟩

theorem Harmless.fails
    {program : Program κ answer (Result α)}
    (harmless : Harmless refusal program) :
    program.Ensures (FailsRetryably refusal) := by
  apply (Program.Always.ensures harmless).mono
  intro trace result none request member refused
  exact absurd (none request member) refused

/-- Nothing is refused before a program starts that cannot be refused. -/
theorem Harmless.fails_bind
    {program : Program κ answer α}
    {next : α → Program κ answer (Result β)}
    (harmless : Harmless refusal program)
    (rest : ∀ value, (next value).Ensures (FailsRetryably refusal)) :
    (program >>= next).Ensures (FailsRetryably refusal) := by
  apply Program.Ensures.bind
  apply (Program.Always.ensures harmless).mono
  intro first value none
  apply (rest value).mono
  intro second result fails request member refused
  rcases List.mem_append.mp member with member | member
  · exact absurd (none request member) refused
  · exact fails request member refused

theorem FailsWith.fails
    {error : Error}
    {program : Program κ answer (Result α)}
    (failsWith : FailsWith refusal error program) :
    program.Ensures (FailsRetryably refusal) := by
  apply Program.Ensures.mono failsWith
  rintro trace result ⟨none, -⟩ request member refused
  exact absurd (none request member) refused

theorem FailsWith.bind
    {error : Error}
    {program : Program κ answer α}
    {next : α → Program κ answer (Result β)}
    (harmless : Harmless refusal program)
    (rest : ∀ value, FailsWith refusal error (next value)) :
    FailsWith refusal error (program >>= next) := by
  apply Program.Ensures.bind
  apply (Program.Always.ensures harmless).mono
  intro first value none
  apply Program.Ensures.mono (rest value)
  rintro second result ⟨later, rfl⟩
  exact ⟨List.forall_mem_append.mpr ⟨none, later⟩, rfl⟩

/-- An error is passed on, and without one nothing was refused. -/
theorem fails_bind
    {program : Program κ answer (Result α)}
    {next : Result α → Program κ answer (Result β)}
    (first : program.Ensures (FailsRetryably refusal))
    (passed : ∀ error, FailsWith refusal error (next (.error error)))
    (rest : ∀ value, (next (.ok value)).Ensures (FailsRetryably refusal)) :
    (program >>= next).Ensures (FailsRetryably refusal) := by
  apply Program.Ensures.bind
  apply first.mono
  intro before between fails
  cases between with
  | error error =>
      apply (passed error).mono
      rintro after result ⟨none, rfl⟩ request member refused
      rcases List.mem_append.mp member with member | member
      · obtain ⟨failure, same, retryable⟩ := fails request member refused
        cases same
        exact ⟨error, rfl, retryable⟩
      · exact absurd (none request member) refused
  | ok value =>
      apply (rest value).mono
      intro after result later request member refused
      rcases List.mem_append.mp member with member | member
      · obtain ⟨failure, same, -⟩ := fails request member refused
        cases same
      · exact later request member refused

/-- A call fails retryably when its stub takes every outcome as it is. -/
theorem fails_call
    {request : κ}
    {γ : Type}
    {outcome : answer request → RpcOutcome γ}
    {component message requestId : String}
    {path : DataFlow}
    (counted : ∀ reply, refusal ⟨request, reply⟩ = (outcome reply).refusal) :
    (Program.perform request >>= fun reply =>
        (pure ((outcome reply).result component message path requestId) :
          Program κ answer (Result γ))).Ensures (FailsRetryably refusal) := by
  intro reply other member refused
  obtain rfl := List.mem_singleton.mp member
  rw [counted reply] at refused
  obtain ⟨error, refused⟩ := Option.ne_none_iff_exists'.mp refused
  exact RpcOutcome.retryable_of_refusal refused component message path
    requestId

variable
  {clock : Program κ answer Int}
  {fn : Int → Program κ answer (Result α)}
  {operation : String}
  {trace : List (Request κ answer)}
  {result : Result α}

/-- When refusals make an attempt fail retryably, a write retries as it is
marked exactly when nothing is refused for good. -/
theorem retriesAsMarked_iff_of_fails
    (harmless : Harmless refusal clock)
    (fails : ∀ deadline, (fn deadline).Ensures (FailsRetryably refusal))
    (made : ∃ attempts, InAttempts clock (attemptBefore clock operation fn)
      trace attempts result) :
    RetriesAsMarked refusal clock (attemptBefore clock operation fn) trace
        result ↔
      ∀ request ∈ trace, ¬ RefusedForGood refusal request := by
  constructor
  · rintro ⟨attempts, made, stops⟩ request member forGood
    cases made with
    | rejected error => cases member
    | @attempted look start deadline attempts result looked made =>
        have unrefused := (Program.Always.ensures harmless).of_run looked
        obtain ⟨refused, isRefused, unmarked⟩ := forGood
        rcases List.mem_append.mp member with member | member
        · rw [unrefused request member] at isRefused
          cases isRefused
        · obtain ⟨current, inside, asked⟩ := List.mem_flatMap.mp member
          obtain ⟨earlier, later, rfl⟩ := List.append_of_mem inside
          obtain ⟨rfl, error, rfl, final⟩ := stops earlier current later rfl
            ⟨request, asked, refused, isRefused, unmarked⟩
          have attempted : (attemptBefore clock operation fn deadline).Ensures
              (FailsRetryably refusal) := by
            apply harmless.fails_bind
            intro time
            split
            · exact Harmless.fails trivial
            · exact fails deadline
          have failure := attempted.of_run (made.run inside) request asked
          rw [made.result_eq rfl, isRefused] at failure
          obtain ⟨failed, same, retryable⟩ := failure (by simp)
          cases same
          rw [final] at retryable
          cases retryable
  · intro unrefused
    obtain ⟨attempts, made⟩ := made
    refine ⟨attempts, made, ?_⟩
    rintro earlier current later split ⟨request, asked, forGood⟩
    have inside : current ∈ attempts := by simp [split]
    cases made with
    | rejected error => cases inside
    | attempted looked made =>
        refine absurd forGood (unrefused request (List.mem_append_right _ ?_))
        exact List.mem_flatMap.mpr ⟨current, inside, asked⟩

end

/-! ## The CPU path -/

namespace RdmaTransferPath

open Gateway.Ucx (UcxCommitInfo UcxDiscoverInfo)
open Gds (BufferView ClientOptions PutObjectRequest)

/-- The error with which the gateway has refused to open a session, to prepare a
buffer, or to commit. -/
def refusal : Request PutCall PutCall.Answer → Option Gateway.Error
  | ⟨.openSession _, outcome⟩ => outcome.refusal
  | ⟨.prepareTransfer _ _, outcome⟩ => outcome.refusal
  | ⟨.commitObject _, outcome⟩ => outcome.refusal
  | ⟨.commitPart _, outcome⟩ => outcome.refusal
  | _ => none

theorem harmless_now : Harmless refusal now :=
  fun _ => ⟨rfl, trivial⟩

theorem harmless_checkDeadline (deadline : Int) :
    Harmless refusal (checkDeadline deadline) :=
  fun _ => ⟨rfl, trivial⟩

theorem harmless_giveUp (slot : EpSlot) (sessionId : String) (error : Error) :
    Harmless refusal (giveUp slot sessionId error) :=
  fun _ => ⟨rfl, fun _ => ⟨rfl, trivial⟩⟩

theorem harmless_unpackRkey (slot : EpSlot) (packedRkey : Bytes) :
    Harmless refusal (unpackRkey slot packedRkey) := by
  rw [unpackRkey]
  split
  · exact fun _ => ⟨rfl, trivial⟩
  · trivial

theorem harmless_returnEp (prepared : WritePrepared) (success : Bool) :
    Harmless refusal (prepared.returnEp success) := by
  rw [WritePrepared.returnEp]
  split
  · trivial
  · split
    · exact fun _ => ⟨rfl, trivial⟩
    · exact fun _ => ⟨rfl, trivial⟩

theorem harmless_release (prepared : WritePrepared) (success : Bool) :
    Harmless refusal (prepared.release success) := by
  rw [WritePrepared.release]
  split
  · apply Program.Always.bind (harmless_returnEp prepared success)
    exact fun _ => trivial
  · trivial

theorem harmless_destroy (prepared : WritePrepared) :
    Harmless refusal prepared.destroy := by
  rw [WritePrepared.destroy]
  split
  · apply Program.Always.bind (harmless_returnEp prepared false)
    exact fun _ => trivial
  · trivial

theorem harmless_success (prepared : WritePrepared) :
    Harmless refusal prepared.success := by
  rw [WritePrepared.success]
  apply Program.Always.bind (harmless_destroy _)
  intro
  apply Program.Always.bind (harmless_destroy _)
  intro
  apply Program.Always.bind (harmless_destroy _)
  exact fun _ => trivial

/-- From the slot on, nothing of an attempt can be refused before the commit. -/
theorem harmless_writeThrough
    (buffer : BufferView)
    (deadline : Int)
    (opened : OpenSessionResponse)
    (info : UcxDiscoverInfo)
    (slot : EpSlot) :
    Harmless refusal (writeThrough buffer deadline opened info slot) := by
  rw [writeThrough]
  apply Program.Always.bind (harmless_unpackRkey slot info.gwPackedRkey)
  intro unpacked
  cases unpacked with
  | error status => exact harmless_giveUp _ _ _
  | ok slot =>
      dsimp only
      split
      · exact harmless_giveUp _ _ _
      · apply Program.Always.bind (harmless_checkDeadline deadline)
        intro inTime
        split
        · exact harmless_giveUp _ _ _
        · intro written
          refine ⟨rfl, ?_⟩
          match written with
          | none => exact harmless_giveUp _ _ _
          | some (.error status) => exact harmless_giveUp _ _ _
          | some (.ok ()) => exact harmless_success _

theorem harmless_abortSession (sessionId : String) :
    Harmless refusal (abortSession sessionId) :=
  fun _ => ⟨rfl, trivial⟩

/-- An attempt that aborts its session passes its error on. -/
theorem failsWith_abortSession
    {α : Type}
    (sessionId : String)
    (error : Error) :
    FailsWith refusal error
      (abortSession sessionId >>= fun _ =>
        (pure (.error error) : Put (Result α))) :=
  FailsWith.bind (harmless_abortSession sessionId)
    fun _ => failsWith_pure error

theorem fails_prepareTransfer
    (buffer : BufferView)
    (deadline : Int)
    (opened : OpenSessionResponse) :
    (prepareTransfer buffer deadline opened).Ensures
      (FailsRetryably refusal) := by
  rw [prepareTransfer]
  apply (harmless_checkDeadline deadline).fails_bind
  intro inTime
  split
  · exact (failsWith_abortSession _ _).fails
  · apply fails_bind
    · exact fails_call fun _ => rfl
    · exact failsWith_abortSession opened.sessionId
    · intro info
      dsimp only
      split
      · exact (failsWith_abortSession _ _).fails
      · apply (harmless_checkDeadline deadline).fails_bind
        intro inTime
        split
        · exact (failsWith_abortSession _ _).fails
        · have harmless : Harmless refusal (acquire info.host
              (UInt16.ofNat info.ucxPort) info.gwPackedRkey) :=
            fun _ => ⟨rfl, trivial⟩
          apply harmless.fails_bind
          intro acquired
          cases acquired with
          | error error => exact (failsWith_abortSession _ _).fails
          | ok slot => exact (harmless_writeThrough _ _ _ _ _).fails

theorem fails_prepareAndWrite
    (options : ClientOptions)
    (request : PutObjectRequest)
    (buffer : BufferView)
    (isMultipartPart : Bool)
    (deadline : Int) :
    (prepareAndWrite options request buffer isMultipartPart deadline).Ensures
      (FailsRetryably refusal) := by
  have harmless : Harmless refusal randomWord := fun _ => ⟨rfl, trivial⟩
  rw [prepareAndWrite]
  apply (harmless_checkDeadline deadline).fails_bind
  intro inTime
  split
  · exact (failsWith_pure _).fails
  · apply harmless.fails_bind
    intro requestWord
    apply harmless.fails_bind
    intro sessionWord
    apply fails_bind
    · exact fails_call fun _ => rfl
    · exact failsWith_pure
    · intro opened
      exact fails_prepareTransfer buffer deadline opened

/-- The error of a commit is passed on. -/
theorem failsWith_finish
    (prepared : WritePrepared)
    (bytesTransferred : Nat)
    (error : Error) :
    FailsWith refusal error
      (finish prepared bytesTransferred (.error error)) := by
  apply FailsWith.bind (harmless_release prepared false)
  intro released
  apply FailsWith.bind (harmless_abortSession _)
  intro
  apply FailsWith.bind (harmless_destroy _)
  exact fun _ => failsWith_pure error

theorem harmless_finish
    (prepared : WritePrepared)
    (bytesTransferred : Nat)
    (info : UcxCommitInfo) :
    Harmless refusal (finish prepared bytesTransferred (.ok info)) := by
  apply Program.Always.bind (harmless_release prepared true)
  intro released
  apply Program.Always.bind (harmless_destroy _)
  exact fun _ => trivial

/-- A refusal in an attempt makes it fail retryably. -/
theorem fails_attempt
    {commit : String → Put (Result UcxCommitInfo)}
    (fails : ∀ sessionId, (commit sessionId).Ensures (FailsRetryably refusal))
    (options : ClientOptions)
    (request : PutObjectRequest)
    (buffer : BufferView)
    (isMultipartPart : Bool)
    (deadline : Int) :
    (attempt options request buffer isMultipartPart commit deadline).Ensures
      (FailsRetryably refusal) := by
  apply fails_bind
  · exact fails_prepareAndWrite options request buffer isMultipartPart deadline
  · exact failsWith_pure
  · intro prepared
    apply fails_bind (fails prepared.sessionId)
    · exact failsWith_finish prepared buffer.size
    · intro info
      exact (harmless_finish prepared buffer.size info).fails

theorem fails_commitPart
    (buffer : BufferView)
    (clientChecksum uploadId : String)
    (partNumber : Nat)
    (sessionId : String) :
    (commitPart buffer clientChecksum uploadId partNumber sessionId).Ensures
      (FailsRetryably refusal) := by
  apply fails_bind
  · exact fails_call fun _ => rfl
  · exact failsWith_pure
  · exact fun _ => Harmless.fails trivial

end RdmaTransferPath

/-! ## The GPU path -/

namespace GdsTransferPath

open Gds (BufferView ClientOptions executeTransferPut)

/-- The error with which the gateway has refused to open a session, or the
chunk. -/
def refusal : Request PutCall PutCall.Answer → Option Gateway.Error
  | ⟨.openSession _, outcome⟩ => outcome.refusal
  | ⟨.gdsPut _, outcome⟩ => outcome.refusal
  | _ => none

theorem harmless_now : Harmless refusal now :=
  fun _ => ⟨rfl, trivial⟩

theorem fails_openSessionForPut
    (options : ClientOptions)
    (request : PutPartRequest)
    (buffer : BufferView) :
    (openSessionForPut options request buffer).Ensures
      (FailsRetryably refusal) := by
  have harmless : Harmless refusal randomWord := fun _ => ⟨rfl, trivial⟩
  rw [openSessionForPut]
  split
  · exact (failsWith_pure _).fails
  · apply harmless.fails_bind
    intro requestWord
    apply harmless.fails_bind
    intro sessionWord
    exact fails_call fun _ => rfl

/-- The error of the chunk is that of the transfer. -/
theorem fails_executePut
    (response : OpenSessionResponse)
    (request : PutPartRequest)
    (buffer : BufferView)
    (uploadId : String)
    (partNumber : Nat) :
    (executePut response request buffer uploadId partNumber).Ensures
      (FailsRetryably refusal) := by
  have harmless : Harmless refusal (acquireToken buffer) :=
    fun _ => ⟨rfl, trivial⟩
  rw [executePut]
  split
  · exact (failsWith_pure _).fails
  · apply harmless.fails_bind
    intro token
    split
    · exact (failsWith_pure _).fails
    · next chunk made =>
        intro outcome asked member refused
        obtain rfl := List.mem_singleton.mp member
        obtain ⟨error, refused⟩ := Option.ne_none_iff_exists'.mp refused
        obtain ⟨failure, failed, retryable⟩ :=
          RpcOutcome.retryable_of_refusal refused "GDS data client"
            "Failed to execute GDS chunk RPC" .gpuDirect
            (importSession response).requestId
        refine ⟨failure, ?_, retryable⟩
        rw [executeTransferPut, made]
        dsimp only
        rw [gdsChunk, failed]

/-- A refusal in an attempt makes it fail retryably. -/
theorem fails_attempt
    (options : ClientOptions)
    (request : PutPartRequest)
    (buffer : BufferView)
    (uploadId : String)
    (partNumber : Nat)
    (deadline : Int) :
    (attempt options request buffer uploadId partNumber deadline).Ensures
      (FailsRetryably refusal) := by
  apply fails_bind
  · exact fails_openSessionForPut options request buffer
  · exact failsWith_pure
  · intro response
    apply fails_bind
    · exact fails_executePut response request buffer uploadId partNumber
    · intro error
      exact FailsWith.bind (fun _ => ⟨rfl, trivial⟩)
        fun _ => failsWith_pure error
    · exact fun _ => Harmless.fails trivial

end GdsTransferPath

/-! ## Runs of writes -/

/-- Every write of either path retries as the gateway has marked its errors
exactly when the gateway refuses none of its calls for good. -/
theorem retriesAsMarked_iff
    (available : Bool)
    (options : Gds.ClientOptions)
    (rdma : RdmaTransferPath.RdmaClientOptions)
    (request : PutPartRequest)
    (buffer : Gds.BufferView)
    (crcOfBytes uploadId : String)
    (partNumber : Nat) :
    (∀ trace result,
      (RdmaTransferPath.putObject available options rdma
          request.toPutObjectRequest buffer crcOfBytes).Run trace result →
        (RetriesAsMarked RdmaTransferPath.refusal RdmaTransferPath.now
            (attemptBefore RdmaTransferPath.now "PutObject"
              (RdmaTransferPath.putObjectAttempt options rdma
                request.toPutObjectRequest buffer crcOfBytes))
            trace result ↔
          ∀ call ∈ trace, ¬ RefusedForGood RdmaTransferPath.refusal call)) ∧
    (∀ trace result,
      (RdmaTransferPath.putObjectPart available options rdma
          request.toPutObjectRequest buffer crcOfBytes uploadId
          partNumber).Run trace result →
        (RetriesAsMarked RdmaTransferPath.refusal RdmaTransferPath.now
            (attemptBefore RdmaTransferPath.now "PutObjectPart"
              (RdmaTransferPath.putObjectPartAttempt options rdma
                request.toPutObjectRequest buffer crcOfBytes uploadId
                partNumber))
            trace result ↔
          ∀ call ∈ trace, ¬ RefusedForGood RdmaTransferPath.refusal call)) ∧
    (∀ trace result,
      (GdsTransferPath.putObject available options request buffer).Run trace
          result →
        (RetriesAsMarked GdsTransferPath.refusal GdsTransferPath.now
            (attemptBefore GdsTransferPath.now "PutObject"
              (GdsTransferPath.attempt options request buffer "" 0))
            trace result ↔
          ∀ call ∈ trace, ¬ RefusedForGood GdsTransferPath.refusal call)) ∧
    ∀ trace result,
      (GdsTransferPath.putObjectPart available options request buffer uploadId
          partNumber).Run trace result →
        (RetriesAsMarked GdsTransferPath.refusal GdsTransferPath.now
            (attemptBefore GdsTransferPath.now "PutObjectPart"
              (GdsTransferPath.attempt options request buffer uploadId
                partNumber))
            trace result ↔
          ∀ call ∈ trace, ¬ RefusedForGood GdsTransferPath.refusal call) := by
  refine ⟨?_, ?_, ?_, ?_⟩
  · intro trace result run
    apply retriesAsMarked_iff_of_fails RdmaTransferPath.harmless_now
    · apply RdmaTransferPath.fails_attempt
      exact fun _ => fails_call fun _ => rfl
    · exact RdmaTransferPath.inAttempts_of_putObject run
  · intro trace result run
    apply retriesAsMarked_iff_of_fails RdmaTransferPath.harmless_now
    · apply RdmaTransferPath.fails_attempt
      exact RdmaTransferPath.fails_commitPart buffer _ uploadId partNumber
    · exact RdmaTransferPath.inAttempts_of_putObjectPart run
  · intro trace result run
    apply retriesAsMarked_iff_of_fails GdsTransferPath.harmless_now
    · exact GdsTransferPath.fails_attempt options request buffer "" 0
    · exact GdsTransferPath.inAttempts_of_putObject run
  · intro trace result run
    apply retriesAsMarked_iff_of_fails GdsTransferPath.harmless_now
    · exact GdsTransferPath.fails_attempt options request buffer uploadId
        partNumber
    · exact GdsTransferPath.inAttempts_of_putObjectPart run

/-- What the gateway answers to a write of no bytes: it opens the session, and
refuses to prepare a buffer. -/
def emptyWriteAnswers :
    (call : RdmaTransferPath.PutCall) → call.Answer
  | .now => 0
  | .randomWord => 7
  | .openSession _ => .answered ⟨"req-1", "ses-1", "ticket-1", "gateway-1"⟩
  | .prepareTransfer _ _ =>
      .failed
        { timedOut := false
          errorText := "PrepareTransfer: transfer_bytes must be > 0"
          refusal := some (Gateway.makeError .badRequest
            "PrepareTransfer: transfer_bytes must be > 0") }
  | .acquire _ _ _ => .ok {}
  | .unpackRkey _ _ => .error ""
  | .putAndNotify _ _ _ _ _ _ _ => none
  | .commitObject _ => .notInitialized
  | .commitPart _ => .notInitialized
  | .giveBack _ _ _ => ()
  | .discard _ => ()
  | .abortSession _ => .answered true

/-- For a write of no bytes neither side holds. -/
theorem retriesAsMarked_iff_empty_write :
    let run := (RdmaTransferPath.putObject true {} {} ⟨"bucket", "key", 0, ""⟩
      ⟨1, 0, .hostRegular⟩ "").runWith emptyWriteAnswers
    RetriesAsMarked RdmaTransferPath.refusal RdmaTransferPath.now
        (attemptBefore RdmaTransferPath.now "PutObject"
          (RdmaTransferPath.putObjectAttempt {} {} ⟨"bucket", "key", 0, ""⟩
            ⟨1, 0, .hostRegular⟩ ""))
        run.1 run.2 ↔
      ∀ call ∈ run.1, ¬ RefusedForGood RdmaTransferPath.refusal call :=
  (retriesAsMarked_iff true {} {} ⟨⟨"bucket", "key", 0, ""⟩, ""⟩
    ⟨1, 0, .hostRegular⟩ "" "" 0).1 _ _
      (Program.run_runWith emptyWriteAnswers _)

/-- A write of no bytes is refused as a bad request three times, and returns a
retryable error. -/
theorem empty_write_retried :
    let run := (RdmaTransferPath.putObject true {} {} ⟨"bucket", "key", 0, ""⟩
      ⟨1, 0, .hostRegular⟩ "").runWith emptyWriteAnswers
    ¬ RetriesAsMarked RdmaTransferPath.refusal RdmaTransferPath.now
        (attemptBefore RdmaTransferPath.now "PutObject"
          (RdmaTransferPath.putObjectAttempt {} {} ⟨"bucket", "key", 0, ""⟩
            ⟨1, 0, .hostRegular⟩ ""))
        run.1 run.2 ∧
      run.1.filterMap RdmaTransferPath.refusal =
        List.replicate 3 (Gateway.makeError .badRequest
          "PrepareTransfer: transfer_bytes must be > 0") ∧
      ∃ error, run.2 = .error error ∧ error.retryable = true := by
  intro run
  have refused : run.1.filterMap RdmaTransferPath.refusal =
      List.replicate 3 (Gateway.makeError .badRequest
        "PrepareTransfer: transfer_bytes must be > 0") := rfl
  refine ⟨?_, refused, _, rfl, rfl⟩
  have marked := retriesAsMarked_iff_of_fails RdmaTransferPath.harmless_now
    (RdmaTransferPath.fails_attempt (fun _ => fails_call fun _ => rfl) {}
      ⟨"bucket", "key", 0, ""⟩ ⟨1, 0, .hostRegular⟩ false)
    (RdmaTransferPath.inAttempts_of_putObject
      (Program.run_runWith emptyWriteAnswers (RdmaTransferPath.putObject true {}
        {} ⟨"bucket", "key", 0, ""⟩ ⟨1, 0, .hostRegular⟩ "")))
  intro retries
  have member : Gateway.makeError .badRequest
      "PrepareTransfer: transfer_bytes must be > 0" ∈
        run.1.filterMap RdmaTransferPath.refusal := by
    rw [refused]
    exact List.mem_cons_self
  obtain ⟨call, asked, isRefused⟩ := List.mem_filterMap.mp member
  exact marked.mp retries call asked ⟨_, isRefused, rfl⟩

end Client
end TurboAccess

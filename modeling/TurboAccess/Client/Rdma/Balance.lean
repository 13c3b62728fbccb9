import TurboAccess.Client.Rdma.TransferPath

/-!
# Sessions and slots of a write

A ledger lists the sessions that requests have opened, committed and aborted,
and the endpoints that they have taken from the pool and given back to it.  The
ledger of every attempt balances.
-/

namespace TurboAccess
namespace Client
namespace RdmaTransferPath

open Gateway.Ucx (UcxCommitInfo UcxDiscoverInfo)
open Gds (BufferView ClientOptions PutObjectRequest)

/-! ## Ledgers -/

/-- Sessions, and endpoints of slots. -/
@[ext] structure Ledger where
  opened : List String := []
  committed : List String := []
  aborted : List String := []
  acquired : List Nat := []
  returned : List Nat := []
  discarded : List Nat := []
  deriving DecidableEq

namespace Ledger

instance : Append Ledger where
  append first second :=
    { opened := first.opened ++ second.opened
      committed := first.committed ++ second.committed
      aborted := first.aborted ++ second.aborted
      acquired := first.acquired ++ second.acquired
      returned := first.returned ++ second.returned
      discarded := first.discarded ++ second.discarded }

@[simp] theorem empty_append (ledger : Ledger) : {} ++ ledger = ledger := rfl

@[simp] theorem append_empty (ledger : Ledger) : ledger ++ {} = ledger := by
  apply Ledger.ext <;> exact List.append_nil _

theorem append_assoc (first second third : Ledger) :
    first ++ second ++ third = first ++ (second ++ third) := by
  apply Ledger.ext <;> exact List.append_assoc _ _ _

/-- An attempt has opened at most one session and taken at most one endpoint.
With a commit that has succeeded the session is not aborted and the endpoint is
returned; without one the session is aborted and the endpoint discarded. -/
structure Balanced (ledger : Ledger) : Prop where
  sessions : ledger.opened.length ≤ 1
  slots : ledger.acquired.length ≤ 1
  settled :
    (ledger.opened ≠ [] ∧ ledger.committed = ledger.opened ∧
      ledger.aborted = [] ∧ ledger.returned = ledger.acquired ∧
        ledger.discarded = []) ∨
    (ledger.committed = [] ∧ ledger.aborted = ledger.opened ∧
      ledger.returned = [] ∧ ledger.discarded = ledger.acquired)

theorem length_toList_le_one (ep : Option Nat) : ep.toList.length ≤ 1 := by
  cases ep with
  | none => exact Nat.zero_le 1
  | some ep => exact Nat.le_refl 1

/-- An attempt with a commit. -/
theorem balanced_committed (sessionId : String) (ep : Option Nat) :
    Balanced
      { opened := [sessionId]
        committed := [sessionId]
        acquired := ep.toList
        returned := ep.toList } where
  sessions := Nat.le_refl 1
  slots := length_toList_le_one ep
  settled := .inl ⟨List.cons_ne_nil _ _, rfl, rfl, rfl, rfl⟩

/-- An attempt without a commit. -/
theorem balanced_aborted (sessionId : String) (ep : Option Nat) :
    Balanced
      { opened := [sessionId]
        aborted := [sessionId]
        acquired := ep.toList
        discarded := ep.toList } where
  sessions := Nat.le_refl 1
  slots := length_toList_le_one ep
  settled := .inr ⟨rfl, rfl, rfl, rfl⟩

end Ledger

/-- What a request adds to a ledger.  A commit counts when it succeeds. -/
def entry : Request PutCall PutCall.Answer → Ledger
  | ⟨.openSession _, .answered response⟩ => { opened := [response.sessionId] }
  | ⟨.commitObject request, .answered _⟩ => { committed := [request.sessionId] }
  | ⟨.commitPart request, .answered _⟩ => { committed := [request.sessionId] }
  | ⟨.abortSession sessionId, _⟩ => { aborted := [sessionId] }
  | ⟨.acquire _ _ _, .ok slot⟩ => { acquired := slot.ep.toList }
  | ⟨.giveBack _ _ slot, _⟩ => { returned := slot.ep.toList }
  | ⟨.discard slot, _⟩ => { discarded := slot.ep.toList }
  | _ => {}

def ledger : List (Request PutCall PutCall.Answer) → Ledger
  | [] => {}
  | request :: trace => entry request ++ ledger trace

@[simp] theorem ledger_cons
    (request : Request PutCall PutCall.Answer)
    (trace : List (Request PutCall PutCall.Answer)) :
    ledger (request :: trace) = entry request ++ ledger trace := rfl

theorem ledger_append (first second : List (Request PutCall PutCall.Answer)) :
    ledger (first ++ second) = ledger first ++ ledger second := by
  induction first with
  | nil => rfl
  | cons request first inductionHypothesis =>
      rw [List.cons_append, ledger_cons, inductionHypothesis, ledger_cons,
        Ledger.append_assoc]

/-! ## What the requests of a program add up to -/

section

variable {α β : Type}

/-- The ledger and the value of every run have a property. -/
def Settles (program : Put α) (property : Ledger → α → Prop) : Prop :=
  program.Ensures fun trace value => property (ledger trace) value

theorem settles_pure {value : α} {property : Ledger → α → Prop} :
    Settles (pure value) property ↔ property {} value :=
  Iff.rfl

theorem Settles.mono
    {program : Put α}
    {property weaker : Ledger → α → Prop}
    (settles : Settles program property)
    (weaken : ∀ ledger value, property ledger value → weaker ledger value) :
    Settles program weaker :=
  Program.Ensures.mono settles fun trace => weaken (ledger trace)

/-- The ledgers of two programs, one after the other, add up. -/
theorem Settles.bind
    {program : Put α}
    {next : α → Put β}
    {property : Ledger → β → Prop}
    (settles : Settles program fun first between =>
      Settles (next between) fun second value =>
        property (first ++ second) value) :
    Settles (program >>= next) property := by
  apply Program.Ensures.bind
  apply Program.Ensures.mono settles
  intro first between rest
  apply Program.Ensures.mono rest
  intro second value holds
  rwa [ledger_append]

theorem settles_randomWord
    {next : UInt64 → Put α}
    {property : Ledger → α → Prop}
    (settles : ∀ word, Settles (next word) property) :
    Settles (randomWord >>= next) property :=
  settles

/-- What the clock answers is not in the ledger. -/
theorem settles_now
    {next : Int → Put α}
    {property : Ledger → α → Prop}
    (settles : ∀ time, Settles (next time) property) :
    Settles (now >>= next) property :=
  settles

theorem settles_checkDeadline
    {deadline : Int}
    {next : Bool → Put α}
    {property : Ledger → α → Prop}
    (settles : ∀ inTime, Settles (next inTime) property) :
    Settles (checkDeadline deadline >>= next) property :=
  fun time => settles (decide (time < deadline))

/-- Only a session that was opened is in the ledger. -/
theorem settles_rpcOpenTransferSession
    {opening : Gds.SessionOpening}
    {next : Result OpenSessionResponse → Put α}
    {property : Ledger → α → Prop}
    (failed : ∀ error, Settles (next (.error error)) property)
    (succeeded : ∀ opened, Settles (next (.ok opened)) fun rest value =>
      property ({ opened := [opened.sessionId] } ++ rest) value) :
    Settles (rpcOpenTransferSession opening >>= next) property := by
  intro outcome
  cases outcome with
  | notInitialized => exact failed _
  | failed controller => exact failed _
  | answered opened => exact succeeded opened

theorem settles_rpcPrepareTransfer
    {sessionId : String}
    {transferBytes : Nat}
    {next : Result UcxDiscoverInfo → Put α}
    {property : Ledger → α → Prop}
    (settles : ∀ result, Settles (next result) property) :
    Settles (rpcPrepareTransfer sessionId transferBytes >>= next) property :=
  fun outcome =>
    settles (dataPlaneResult outcome "PrepareTransfer RPC failed")

/-- Only an endpoint that was acquired is in the ledger. -/
theorem settles_acquire
    {host : String}
    {port : UInt16}
    {packedRkey : Bytes}
    {next : Result EpSlot → Put α}
    {property : Ledger → α → Prop}
    (failed : ∀ error, Settles (next (.error error)) property)
    (succeeded : ∀ slot, Settles (next (.ok slot)) fun rest value =>
      property ({ acquired := slot.ep.toList } ++ rest) value) :
    Settles (acquire host port packedRkey >>= next) property := by
  intro outcome
  cases outcome with
  | error error => exact failed error
  | ok slot => exact succeeded slot

theorem settles_abortSession
    {sessionId : String}
    {value : α}
    {property : Ledger → α → Prop}
    (holds : property { aborted := [sessionId] } value) :
    Settles (abortSession sessionId >>= fun _ => pure value) property :=
  fun _ => holds

end

/-! ## Stages of an attempt -/

/-- The keeper of a slot, which has not given it back. -/
structure WritePrepared.Keeps
    (prepared : WritePrepared)
    (sessionId : String)
    (ep : Option Nat) : Prop where
  session : prepared.sessionId = sessionId
  slot : prepared.slot.ep = ep
  owner : prepared.owner = true
  unreleased : prepared.released = false

namespace WritePrepared

/-- Objects that were moved from do nothing when they are destroyed. -/
theorem success_eq (prepared : WritePrepared) :
    prepared.success = pure (.ok prepared) := by
  have moved : ∀ other : WritePrepared, other.released = true →
      other.destroy = pure () := by
    intro other released
    rw [destroy, if_neg]
    rintro ⟨unreleased, -⟩
    rw [released] at unreleased
    cases unreleased
  simp only [success, move]
  rw [moved { prepared with released := true } rfl]
  rfl

/-- A slot that was given back is not given back by the destructor. -/
theorem destroy_of_empty
    {prepared : WritePrepared}
    (empty : prepared.slot.ep = none) :
    prepared.destroy = pure () := by
  rw [destroy, if_neg]
  rintro ⟨-, -, full⟩
  exact full empty

end WritePrepared

theorem settles_giveUp
    (slot : EpSlot)
    (sessionId : String)
    (error : Error) :
    Settles (giveUp slot sessionId error) fun ledger result =>
      ledger = { discarded := slot.ep.toList, aborted := [sessionId] } ∧
        result = .error error :=
  fun _ _ => ⟨Ledger.ext rfl rfl rfl rfl rfl (List.append_nil _), rfl⟩

/-- Unpacking a key leaves the endpoint of the slot alone. -/
theorem settles_unpackRkey (slot : EpSlot) (packedRkey : Bytes) :
    Settles (unpackRkey slot packedRkey) fun ledger result =>
      ledger = {} ∧ ∀ unpacked, result = .ok unpacked →
        unpacked.ep = slot.ep := by
  rw [unpackRkey]
  split
  · intro outcome
    refine ⟨rfl, ?_⟩
    cases outcome with
    | error status =>
        intro unpacked same
        cases same
    | ok rkey =>
        intro unpacked same
        cases same
        rfl
  · refine ⟨rfl, ?_⟩
    intro unpacked same
    cases same
    rfl

/-- Writing through a slot keeps it, or gives it up with its session. -/
theorem settles_writeThrough
    (buffer : BufferView)
    (deadline : Int)
    (opened : OpenSessionResponse)
    (info : UcxDiscoverInfo)
    (slot : EpSlot) :
    Settles (writeThrough buffer deadline opened info slot)
      fun ledger result =>
        match result with
        | .ok prepared =>
            ledger = {} ∧ prepared.Keeps opened.sessionId slot.ep
        | .error _ => ledger =
            { discarded := slot.ep.toList, aborted := [opened.sessionId] } := by
  have gaveUp : ∀ {other : EpSlot} (error : Error), other.ep = slot.ep →
      Settles (giveUp other opened.sessionId error) fun ledger result =>
        match result with
        | .ok prepared =>
            ledger = {} ∧ prepared.Keeps opened.sessionId slot.ep
        | .error _ => ledger =
            { discarded := slot.ep.toList,
              aborted := [opened.sessionId] } := by
    intro other error same
    apply (settles_giveUp other opened.sessionId error).mono
    rintro ledger result ⟨rfl, rfl⟩
    rw [same]
  rw [writeThrough]
  apply Settles.bind
  apply (settles_unpackRkey slot info.gwPackedRkey).mono
  rintro ledger result ⟨rfl, same⟩
  simp only [Ledger.empty_append]
  cases result with
  | error status => exact gaveUp _ rfl
  | ok unpacked =>
      have same := same unpacked rfl
      dsimp only
      split
      · exact gaveUp _ same
      · next rkey _ =>
          apply settles_checkDeadline
          intro inTime
          split
          · exact gaveUp _ same
          · intro written
            match written with
            | none => exact gaveUp _ same
            | some (.error status) => exact gaveUp _ same
            | some (.ok ()) =>
                dsimp only
                rw [WritePrepared.success_eq]
                exact ⟨rfl, rfl, same, rfl, rfl⟩

/-- An attempt that fails after its session was opened has aborted it. -/
theorem settles_prepareTransfer
    (buffer : BufferView)
    (deadline : Int)
    (opened : OpenSessionResponse) :
    Settles (prepareTransfer buffer deadline opened) fun ledger result =>
      match result with
      | .ok prepared => ∃ ep : Option Nat,
          ledger = { acquired := ep.toList } ∧
            prepared.Keeps opened.sessionId ep
      | .error _ => ∃ ep : Option Nat, ledger =
          { aborted := [opened.sessionId]
            acquired := ep.toList
            discarded := ep.toList } := by
  rw [prepareTransfer]
  apply settles_checkDeadline
  intro inTime
  split
  · exact settles_abortSession ⟨none, rfl⟩
  · apply settles_rpcPrepareTransfer
    intro prepared
    cases prepared with
    | error error => exact settles_abortSession ⟨none, rfl⟩
    | ok info =>
        dsimp only
        split
        · exact settles_abortSession ⟨none, rfl⟩
        · apply settles_checkDeadline
          intro inTime
          split
          · exact settles_abortSession ⟨none, rfl⟩
          · apply settles_acquire
            · intro error
              exact settles_abortSession ⟨none, rfl⟩
            · intro slot
              apply (settles_writeThrough buffer deadline opened info slot).mono
              intro ledger result holds
              cases result with
              | error error =>
                  obtain rfl := holds
                  refine ⟨slot.ep, ?_⟩
                  exact Ledger.ext rfl rfl rfl (List.append_nil _) rfl rfl
              | ok prepared =>
                  obtain ⟨rfl, keeps⟩ := holds
                  refine ⟨slot.ep, ?_, keeps⟩
                  exact Ledger.append_empty _

/-- An attempt that fails before its commit balances. -/
theorem settles_prepareAndWrite
    (options : ClientOptions)
    (request : PutObjectRequest)
    (buffer : BufferView)
    (isMultipartPart : Bool)
    (deadline : Int) :
    Settles (prepareAndWrite options request buffer isMultipartPart deadline)
      fun ledger result =>
        match result with
        | .ok prepared => ∃ (sessionId : String) (ep : Option Nat),
            ledger = { opened := [sessionId], acquired := ep.toList } ∧
              prepared.Keeps sessionId ep
        | .error _ => ledger.Balanced := by
  have nothing : ({} : Ledger).Balanced :=
    ⟨by simp, by simp, .inr ⟨rfl, rfl, rfl, rfl⟩⟩
  rw [prepareAndWrite]
  apply settles_checkDeadline
  intro inTime
  split
  · exact nothing
  · apply settles_randomWord
    intro requestWord
    apply settles_randomWord
    intro sessionWord
    apply settles_rpcOpenTransferSession
    · intro error
      exact nothing
    · intro opened
      apply (settles_prepareTransfer buffer deadline opened).mono
      intro ledger result holds
      cases result with
      | error error =>
          obtain ⟨ep, rfl⟩ := holds
          exact Ledger.balanced_aborted opened.sessionId ep
      | ok prepared =>
          obtain ⟨ep, rfl, keeps⟩ := holds
          exact ⟨opened.sessionId, ep, rfl, keeps⟩

/-- What an endpoint that is given back adds to a ledger. -/
def settlement (success : Bool) (ep : Option Nat) : Ledger :=
  if success then { returned := ep.toList } else { discarded := ep.toList }

/-- A release gives the endpoint back, if there is one. -/
theorem settles_release
    {prepared : WritePrepared}
    {sessionId : String}
    {ep : Option Nat}
    (keeps : prepared.Keeps sessionId ep)
    (success : Bool) :
    Settles (prepared.release success) fun ledger released =>
      ledger = settlement success ep ∧ released.sessionId = sessionId ∧
        released.slot.ep = none := by
  obtain ⟨rfl, rfl, owned, -⟩ := keeps
  rw [WritePrepared.release]
  split
  · next full =>
      rw [WritePrepared.returnEp, if_neg full.2]
      cases success with
      | false =>
          intro reply
          exact ⟨Ledger.ext rfl rfl rfl rfl rfl (List.append_nil _), rfl, rfl⟩
      | true =>
          intro reply
          exact ⟨Ledger.ext rfl rfl rfl rfl (List.append_nil _) rfl, rfl, rfl⟩
  · next kept =>
      have empty : prepared.slot.ep = none := by
        by_contra full
        exact kept ⟨owned, full⟩
      refine ⟨?_, rfl, empty⟩
      rw [settlement, empty]
      cases success <;> rfl

/-- The end of an attempt gives the endpoint back, as the commit went, and
aborts the session if it has failed. -/
theorem settles_finish
    {prepared : WritePrepared}
    {sessionId : String}
    {ep : Option Nat}
    (keeps : prepared.Keeps sessionId ep)
    (bytesTransferred : Nat)
    (commit : Result UcxCommitInfo) :
    Settles (finish prepared bytesTransferred commit) fun ledger _ =>
      match commit with
      | .ok _ => ledger = { returned := ep.toList }
      | .error _ =>
          ledger = { aborted := [sessionId], discarded := ep.toList } := by
  cases commit with
  | error error =>
      apply Settles.bind
      apply (settles_release keeps false).mono
      rintro ledger released ⟨rfl, rfl, empty⟩
      dsimp only
      rw [WritePrepared.destroy_of_empty empty]
      intro aborted
      exact Ledger.ext rfl rfl rfl rfl rfl (List.append_nil _)
  | ok info =>
      apply Settles.bind
      apply (settles_release keeps true).mono
      rintro ledger released ⟨rfl, rfl, empty⟩
      dsimp only
      rw [WritePrepared.destroy_of_empty empty]
      exact Ledger.ext rfl rfl rfl rfl (List.append_nil _) rfl

/-- A commit is in the ledger when it has succeeded. -/
def CommitsOnce (commit : String → Put (Result UcxCommitInfo)) : Prop :=
  ∀ sessionId, Settles (commit sessionId) fun ledger result =>
    match result with
    | .ok _ => ledger = { committed := [sessionId] }
    | .error _ => ledger = {}

theorem commitsOnce_commitObject
    (buffer : BufferView)
    (clientChecksum : String) :
    CommitsOnce (commitObject buffer clientChecksum) := by
  intro sessionId outcome
  cases outcome <;> rfl

theorem commitsOnce_commitPart
    (buffer : BufferView)
    (clientChecksum uploadId : String)
    (partNumber : Nat) :
    CommitsOnce (commitPart buffer clientChecksum uploadId partNumber) := by
  intro sessionId outcome
  cases outcome <;> rfl

/-- Every attempt balances, however it ends. -/
theorem settles_attempt
    {commit : String → Put (Result UcxCommitInfo)}
    (commits : CommitsOnce commit)
    (options : ClientOptions)
    (request : PutObjectRequest)
    (buffer : BufferView)
    (isMultipartPart : Bool)
    (deadline : Int) :
    Settles (attempt options request buffer isMultipartPart commit deadline)
      fun ledger _ => ledger.Balanced := by
  apply Settles.bind
  apply (settles_prepareAndWrite options request buffer isMultipartPart
    deadline).mono
  intro ledger result holds
  cases result with
  | error error =>
      dsimp only
      rw [settles_pure, Ledger.append_empty]
      exact holds
  | ok prepared =>
      obtain ⟨sessionId, ep, rfl, keeps⟩ := holds
      apply Settles.bind
      rw [keeps.session]
      apply (commits sessionId).mono
      intro ledger committed holds
      apply (settles_finish keeps buffer.size committed).mono
      intro finished result settled
      cases committed with
      | error error =>
          obtain rfl := holds
          obtain rfl := settled
          refine (congrArg Ledger.Balanced ?_).mpr
            (Ledger.balanced_aborted sessionId ep)
          exact Ledger.ext rfl rfl rfl (List.append_nil _) rfl rfl
      | ok info =>
          obtain rfl := holds
          obtain rfl := settled
          refine (congrArg Ledger.Balanced ?_).mpr
            (Ledger.balanced_committed sessionId ep)
          exact Ledger.ext rfl rfl rfl (List.append_nil _) rfl rfl

/-- An attempt that is not made because of the deadline balances, too. -/
theorem balanced_of_inAttempts
    {fn : Int → Put (Result Gds.TransferOutcome)}
    {operation : String}
    {trace : List (Request PutCall PutCall.Answer)}
    {attempts : List (CallAttempt PutCall PutCall.Answer Gds.TransferOutcome)}
    {result : Result Gds.TransferOutcome}
    (balanced : ∀ deadline, Settles (fn deadline) fun ledger _ =>
      ledger.Balanced)
    (made : InAttempts now (attemptBefore now operation fn) trace attempts
      result) :
    ∀ attempt ∈ attempts, (ledger attempt.trace).Balanced := by
  intro attempt member
  cases made with
  | rejected error => cases member
  | @attempted look start deadline attempts result looked made =>
      have settles : Settles (attemptBefore now operation fn deadline)
          fun ledger _ => ledger.Balanced := by
        apply settles_now
        intro time
        split
        · exact ⟨Nat.zero_le 1, Nat.zero_le 1, .inr ⟨rfl, rfl, rfl, rfl⟩⟩
        · exact balanced deadline
      exact settles.of_run (made.run member)

/-! ## Runs of writes -/

section

variable
  (available : Bool)
  (options : ClientOptions)
  (rdma : RdmaClientOptions)
  (request : PutObjectRequest)
  (buffer : BufferView)
  (crcOfBytes : String)

/-- However the calls of a write end, whenever its deadline passes and however
often it is attempted, every attempt gives its endpoint back exactly once, to
the pool if its commit has succeeded, and else aborts its session exactly
once. -/
theorem puts_balanced :
    (∀ trace result,
      (putObject available options rdma request buffer crcOfBytes).Run trace
          result →
        ∃ attempts,
          InAttempts now
              (attemptBefore now "PutObject"
                (putObjectAttempt options rdma request buffer crcOfBytes))
              trace attempts result ∧
            ∀ attempt ∈ attempts, (ledger attempt.trace).Balanced) ∧
      ∀ uploadId partNumber trace result,
        (putObjectPart available options rdma request buffer crcOfBytes uploadId
            partNumber).Run trace result →
          ∃ attempts,
            InAttempts now
                (attemptBefore now "PutObjectPart"
                  (putObjectPartAttempt options rdma request buffer crcOfBytes
                    uploadId partNumber))
                trace attempts result ∧
              ∀ attempt ∈ attempts, (ledger attempt.trace).Balanced := by
  refine ⟨?_, ?_⟩
  · intro trace result run
    obtain ⟨attempts, made⟩ := inAttempts_of_putObject run
    refine ⟨attempts, made, balanced_of_inAttempts ?_ made⟩
    exact settles_attempt (commitsOnce_commitObject buffer _) options request
      buffer false
  · intro uploadId partNumber trace result run
    obtain ⟨attempts, made⟩ := inAttempts_of_putObjectPart run
    refine ⟨attempts, made, balanced_of_inAttempts ?_ made⟩
    exact settles_attempt (commitsOnce_commitPart buffer _ uploadId partNumber)
      options request buffer true

end

/-- Answers of calls that all succeed. -/
def smoothAnswers : (call : PutCall) → call.Answer
  | .now => 0
  | .randomWord => 7
  | .openSession _ => .answered ⟨"req-1", "ses-1", "ticket-1", "gateway-1"⟩
  | .prepareTransfer _ _ => .answered ⟨"10.0.0.1", 5000, 4096, 1, [1]⟩
  | .acquire _ _ _ => .ok ⟨some 0, none⟩
  | .unpackRkey _ _ => .ok 1
  | .putAndNotify _ _ _ _ _ _ _ => some (.ok ())
  | .commitObject _ => .answered ⟨"etag-1", "version-1"⟩
  | .commitPart _ => .answered "etag-1"
  | .giveBack _ _ _ => ()
  | .discard _ => ()
  | .abortSession _ => .answered true

/-- A write that commits at its first attempt, and returns its endpoint. -/
theorem puts_balanced_smooth :
    let run := (putObject true {} {} ⟨"bucket", "key", 0, ""⟩
      ⟨1, 4, .hostRegular⟩ "").runWith smoothAnswers
    ledger run.1 =
        { opened := ["ses-1"]
          committed := ["ses-1"]
          acquired := [0]
          returned := [0] } ∧
      ∃ attempts,
        InAttempts now
            (attemptBefore now "PutObject"
              (putObjectAttempt {} {} ⟨"bucket", "key", 0, ""⟩
                ⟨1, 4, .hostRegular⟩ ""))
            run.1 attempts run.2 ∧
          ∀ attempt ∈ attempts, (ledger attempt.trace).Balanced :=
  ⟨rfl, (puts_balanced true {} {} ⟨"bucket", "key", 0, ""⟩
    ⟨1, 4, .hostRegular⟩ "").1 _ _ (Program.run_runWith smoothAnswers _)⟩

end RdmaTransferPath
end Client
end TurboAccess

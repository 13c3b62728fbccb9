import TurboAccess.Client.Rdma.Balance
import TurboAccess.Client.Rdma.EndpointPool

/-!
# What a write holds

A write holds at most one endpoint, and at most one key, unpacked on it.  Two
protocols say which requests respect this: one for the requests of a write, for
which the operations of the pool are single requests, and one for the requests
of these operations.  The operations of the pool do what the first one says in
terms of the second one, and every write follows the first one.
-/

namespace TurboAccess
namespace Client
namespace UcxEndpointPool

open Gateway.Ucx (UcxCommitInfo UcxDiscoverInfo)
open Gds (BufferView ClientOptions PutObjectRequest)
open RdmaTransferPath (EpSlot Put PutCall WritePrepared)

/-- The packed key that the gateway has answered in this attempt, the endpoint
with the text that the pool knows it by, and the key. -/
structure Holding where
  packed : Option Bytes := none
  ep : Option (Nat × String) := none
  rkey : Option Nat := none

namespace Holding

/-- Neither an endpoint nor a key is held. -/
structure Empty (holding : Holding) : Prop where
  ep : holding.ep = none
  rkey : holding.rkey = none

/-- An endpoint is held. -/
def HoldsEp (holding : Holding) (ep : Option Nat) : Prop :=
  ∃ held key, ep = some held ∧ holding.ep = some (held, key)

/-- A slot is what is held, from the queue of a text. -/
structure HoldsSlot (holding : Holding) (key : String) (slot : EpSlot) :
    Prop where
  ep : ∃ held, slot.ep = some held ∧ holding.ep = some (held, key)
  rkey : slot.rkey = holding.rkey

/-- A key may be unpacked: on the endpoint, from the bytes that the gateway has
answered, and only if there is none. -/
structure MayUnpack (holding : Holding) (ep : Option Nat) (packed : Bytes) :
    Prop where
  ep : holding.HoldsEp ep
  rkey : holding.rkey = none
  packed : holding.packed = some packed

end Holding

/-! ## Protocols -/

/-- Which requests of a write respect what it holds, and how they change it.
With a new session the answer of the gateway for the one before is forgotten. -/
def writes : Protocol PutCall PutCall.Answer Holding where
  allows holding
    | .openSession _ => holding.Empty
    | .prepareTransfer _ _ => holding.Empty
    | .acquire _ _ packedRkey =>
        holding.Empty ∧ holding.packed = some packedRkey
    | .unpackRkey ep packedRkey => holding.MayUnpack ep packedRkey
    | .putAndNotify ep _ _ _ gwRkey _ _ =>
        holding.HoldsEp ep ∧ holding.rkey = some gwRkey
    | .giveBack host port slot => holding.HoldsSlot (key host port) slot
    | .discard slot => ∃ key, holding.HoldsSlot key slot
    | _ => True
  expects _
    | ⟨.acquire _ _ _, .ok slot⟩ => slot.ep ≠ none
    | _ => True
  next holding
    | ⟨.openSession _, _⟩ => { holding with packed := none }
    | ⟨.prepareTransfer _ _, .answered info⟩ =>
        { holding with packed := some info.gwPackedRkey }
    | ⟨.acquire host port _, .ok slot⟩ =>
        { holding with
          ep := slot.ep.map (·, key host port)
          rkey := slot.rkey }
    | ⟨.unpackRkey _ _, .ok rkey⟩ => { holding with rkey := some rkey }
    | ⟨.giveBack _ _ _, _⟩ => { holding with ep := none, rkey := none }
    | ⟨.discard _, _⟩ => { holding with ep := none, rkey := none }
    | _ => holding

/-- Which requests of the pool respect what a write holds, and how they change
it.  What is taken from a queue has no key. -/
def calls : Protocol PoolCall PoolCall.Answer Holding where
  allows holding
    | .takeIdle _ => holding.Empty
    | .inetPton _ => True
    | .createEp _ _ => holding.Empty
    | .unpackRkey ep packedRkey => holding.MayUnpack ep packedRkey
    | .destroyRkey rkey => holding.rkey = some rkey
    | .giveIdle key slot => slot.rkey = none ∧ holding.HoldsSlot key slot
    | .closeEp ep => holding.HoldsEp ep ∧ holding.rkey = none
    | .transfer (.acquire _ _ _) => False
    | .transfer (.unpackRkey _ _) => False
    | .transfer (.giveBack _ _ _) => False
    | .transfer (.discard _) => False
    | .transfer call => writes.allows holding call
  expects _
    | ⟨.takeIdle _, some slot⟩ => slot.ep ≠ none ∧ slot.rkey = none
    | _ => True
  next holding
    | ⟨.takeIdle key, some slot⟩ =>
        { holding with ep := slot.ep.map (·, key), rkey := slot.rkey }
    | ⟨.createEp host port, .ok ep⟩ =>
        { holding with ep := some (ep, key host port) }
    | ⟨.unpackRkey _ _, .ok rkey⟩ => { holding with rkey := some rkey }
    | ⟨.destroyRkey _, _⟩ => { holding with rkey := none }
    | ⟨.giveIdle _ _, _⟩ => { holding with ep := none }
    | ⟨.closeEp _, _⟩ => { holding with ep := none }
    | ⟨.transfer call, reply⟩ => writes.next holding ⟨call, reply⟩
    | _ => holding

/-! ## The operations of the pool -/

/-- An operation of the pool does what a request for it says. -/
def Handles
    (holding : Holding)
    (call : PutCall)
    (program : PoolProgram call.Answer) : Prop :=
  program.Follows calls
    (fun after reply =>
      writes.expects holding ⟨call, reply⟩ ∧
        after = writes.next holding ⟨call, reply⟩)
    holding

/-- A slot of the pool has no key, and one that was created has one if there are
bytes and they can be unpacked. -/
theorem handles_acquire
    {holding : Holding}
    {host : String}
    {port : UInt16}
    {packedRkey : Bytes}
    (allowed : writes.allows holding (.acquire host port packedRkey)) :
    Handles holding (.acquire host port packedRkey)
      (acquire host port packedRkey) := by
  obtain ⟨empty, packed⟩ := allowed
  unfold Handles acquire
  apply Program.Follows.perform empty
  intro taken expected
  cases taken with
  | some slot => exact ⟨expected.1, rfl⟩
  | none =>
      apply Program.Follows.perform trivial
      intro valid _
      by_cases invalid : valid = false
      · rw [if_pos invalid]
        exact ⟨trivial, rfl⟩
      · rw [if_neg invalid]
        apply Program.Follows.perform empty
        intro created _
        cases created with
        | error status => exact ⟨trivial, rfl⟩
        | ok ep =>
            dsimp only
            by_cases none : packedRkey = []
            · rw [if_pos none]
              refine ⟨Option.some_ne_none ep, ?_⟩
              simp [calls, writes, empty.rkey]
            · rw [if_neg none]
              apply Program.Follows.perform
              · exact ⟨⟨ep, key host port, rfl, rfl⟩, empty.rkey, packed⟩
              intro unpacked _
              cases unpacked with
              | error status =>
                  refine ⟨Option.some_ne_none ep, ?_⟩
                  simp [calls, writes, empty.rkey]
              | ok rkey => exact ⟨Option.some_ne_none ep, rfl⟩

/-- What is held after the key was destroyed. -/
theorem follows_rkeyDestroy
    {α : Type}
    {holding : Holding}
    {rkey : Option Nat}
    {next : Unit → PoolProgram α}
    {post : Holding → α → Prop}
    (held : rkey = holding.rkey)
    (rest : (next ()).Follows calls post { holding with rkey := none }) :
    (rkeyDestroy rkey >>= next).Follows calls post holding := by
  cases rkey with
  | none =>
      have same : holding = { holding with rkey := none } := by
        cases holding
        cases held
        rfl
      rw [same]
      exact rest
  | some rkey => exact Program.Follows.perform held.symm fun _ _ => rest

theorem handles_giveBack
    {holding : Holding}
    {host : String}
    {port : UInt16}
    {slot : EpSlot}
    (allowed : writes.allows holding (.giveBack host port slot)) :
    Handles holding (.giveBack host port slot) (giveBack host port slot) := by
  obtain ⟨⟨held, isHeld, holds⟩, sameKey⟩ := allowed
  unfold Handles giveBack
  rw [if_neg (by rw [isHeld]; exact Option.some_ne_none held)]
  apply follows_rkeyDestroy sameKey
  exact ⟨⟨rfl, ⟨held, isHeld, holds⟩, rfl⟩, fun _ _ => ⟨trivial, rfl⟩⟩

theorem handles_discard
    {holding : Holding}
    {slot : EpSlot}
    (allowed : writes.allows holding (.discard slot)) :
    Handles holding (.discard slot) (discard slot) := by
  obtain ⟨text, ⟨held, isHeld, holds⟩, sameKey⟩ := allowed
  unfold Handles discard
  rw [if_neg (by rw [isHeld]; exact Option.some_ne_none held)]
  apply follows_rkeyDestroy sameKey
  exact ⟨⟨⟨held, text, isHeld, holds⟩, rfl⟩, fun _ _ => ⟨trivial, rfl⟩⟩

/-- The client does what the requests of a write say. -/
theorem handles
    (holding : Holding)
    (call : PutCall)
    (allowed : writes.allows holding call) :
    Handles holding call (handler call) := by
  cases call with
  | acquire host port packedRkey => exact handles_acquire allowed
  | giveBack host port slot => exact handles_giveBack allowed
  | discard slot => exact handles_discard allowed
  | unpackRkey ep packedRkey =>
      refine ⟨allowed, ?_⟩
      intro reply _
      cases reply <;> exact ⟨trivial, rfl⟩
  | now => exact ⟨allowed, fun _ _ => ⟨trivial, rfl⟩⟩
  | randomWord => exact ⟨allowed, fun _ _ => ⟨trivial, rfl⟩⟩
  | openSession opening => exact ⟨allowed, fun _ _ => ⟨trivial, rfl⟩⟩
  | prepareTransfer sessionId transferBytes =>
      exact ⟨allowed, fun _ _ => ⟨trivial, rfl⟩⟩
  | putAndNotify ep data size gwRaddr gwRkey sessionId deadline =>
      exact ⟨allowed, fun _ _ => ⟨trivial, rfl⟩⟩
  | commitObject request => exact ⟨allowed, fun _ _ => ⟨trivial, rfl⟩⟩
  | commitPart request => exact ⟨allowed, fun _ _ => ⟨trivial, rfl⟩⟩
  | abortSession sessionId => exact ⟨allowed, fun _ _ => ⟨trivial, rfl⟩⟩

/-! ## Stages of an attempt -/

section

variable {α : Type} {holding : Holding} {post : Holding → α → Prop}

theorem follows_checkDeadline
    {deadline : Int}
    {next : Bool → Put α}
    (rest : ∀ inTime, (next inTime).Follows writes post holding) :
    (RdmaTransferPath.checkDeadline deadline >>= next).Follows writes post
      holding :=
  ⟨trivial, fun time _ => rest (decide (time < deadline))⟩

theorem follows_now
    {next : Int → Put α}
    (rest : ∀ time, (next time).Follows writes post holding) :
    (RdmaTransferPath.now >>= next).Follows writes post holding :=
  ⟨trivial, fun time _ => rest time⟩

/-- What the gateway has answered is remembered. -/
theorem follows_rpcPrepareTransfer
    {sessionId : String}
    {transferBytes : Nat}
    {next : Result UcxDiscoverInfo → Put α}
    (empty : holding.Empty)
    (failed : ∀ error, (next (.error error)).Follows writes post holding)
    (answered : ∀ info : UcxDiscoverInfo,
      (next (.ok info)).Follows writes post
        { holding with packed := some info.gwPackedRkey }) :
    (RdmaTransferPath.rpcPrepareTransfer sessionId transferBytes >>=
      next).Follows writes post holding := by
  refine ⟨empty, fun outcome _ => ?_⟩
  cases outcome with
  | notInitialized => exact failed _
  | failed controller => exact failed _
  | answered info => exact answered info

/-- What the gateway has answered before is forgotten. -/
theorem follows_rpcOpenTransferSession
    {opening : Gds.SessionOpening}
    {next : Result OpenSessionResponse → Put α}
    (empty : holding.Empty)
    (rest : ∀ result, (next result).Follows writes post
      { holding with packed := none }) :
    (RdmaTransferPath.rpcOpenTransferSession opening >>= next).Follows writes
      post holding :=
  ⟨empty, fun outcome _ => rest (openSessionResult opening outcome)⟩

/-- The slot that the pool answers is held. -/
theorem follows_acquire
    {host : String}
    {port : UInt16}
    {packedRkey : Bytes}
    {next : Result EpSlot → Put α}
    (allowed : writes.allows holding (.acquire host port packedRkey))
    (failed : ∀ error, (next (.error error)).Follows writes post holding)
    (succeeded : ∀ slot,
      ({ holding with
          ep := slot.ep.map (·, key host port)
          rkey := slot.rkey } : Holding).HoldsSlot (key host port) slot →
        (next (.ok slot)).Follows writes post
          { holding with
            ep := slot.ep.map (·, key host port)
            rkey := slot.rkey }) :
    (RdmaTransferPath.acquire host port packedRkey >>= next).Follows writes
      post holding := by
  refine ⟨allowed, fun outcome expected => ?_⟩
  cases outcome with
  | error error => exact failed error
  | ok slot =>
      obtain ⟨held, isHeld⟩ := Option.ne_none_iff_exists'.mp expected
      exact succeeded slot ⟨⟨held, isHeld, by rw [isHeld]; rfl⟩, rfl⟩

theorem follows_abortSession
    {sessionId : String}
    {next : Unit → Put α}
    (rest : (next ()).Follows writes post holding) :
    (RdmaTransferPath.abortSession sessionId >>= next).Follows writes post
      holding :=
  ⟨trivial, fun _ _ => rest⟩

end

/-- What is prepared keeps what is held; without it nothing is held. -/
inductive Settled : Holding → Result WritePrepared → Prop
  | prepared {holding : Holding} {prepared : WritePrepared}
      (slot : holding.HoldsSlot (key prepared.epHost prepared.epPort)
        prepared.slot)
      (owner : prepared.owner = true) :
      Settled holding (.ok prepared)
  | failed {holding : Holding} {error : Error}
      (empty : holding.Empty) :
      Settled holding (.error error)

theorem follows_giveUp
    {holding : Holding}
    {text : String}
    {slot : EpSlot}
    (holds : holding.HoldsSlot text slot)
    (sessionId : String)
    (error : Error) :
    (RdmaTransferPath.giveUp slot sessionId error).Follows writes Settled
      holding :=
  ⟨⟨text, holds⟩, fun _ _ => ⟨trivial, fun _ _ => .failed ⟨rfl, rfl⟩⟩⟩

/-- A key is unpacked only if there is none, and then it is held. -/
theorem follows_unpackRkey
    {holding : Holding}
    {text : String}
    {slot : EpSlot}
    {packedRkey : Bytes}
    (holds : holding.HoldsSlot text slot)
    (packed : holding.packed = some packedRkey) :
    (RdmaTransferPath.unpackRkey slot packedRkey).Follows writes
      (fun after result =>
        match result with
        | .error _ => after.HoldsSlot text slot
        | .ok unpacked => after.HoldsSlot text unpacked)
      holding := by
  obtain ⟨⟨held, isHeld, has⟩, sameKey⟩ := holds
  rw [RdmaTransferPath.unpackRkey]
  split
  · next bare =>
      refine ⟨⟨⟨held, text, isHeld, has⟩, ?_, packed⟩, ?_⟩
      · rw [← sameKey, bare.1]
      · intro outcome _
        cases outcome with
        | error status => exact ⟨⟨held, isHeld, has⟩, sameKey⟩
        | ok rkey => exact ⟨⟨held, isHeld, has⟩, rfl⟩
  · exact ⟨⟨held, isHeld, has⟩, sameKey⟩

/-- A write goes through the endpoint with the key that is held. -/
theorem follows_writeThrough
    {holding : Holding}
    {info : UcxDiscoverInfo}
    {slot : EpSlot}
    (holds : holding.HoldsSlot (key info.host (UInt16.ofNat info.ucxPort)) slot)
    (packed : holding.packed = some info.gwPackedRkey)
    (buffer : BufferView)
    (deadline : Int)
    (opened : OpenSessionResponse) :
    (RdmaTransferPath.writeThrough buffer deadline opened info slot).Follows
      writes Settled holding := by
  rw [RdmaTransferPath.writeThrough]
  apply Program.Follows.bind
  apply (follows_unpackRkey holds packed).mono
  intro after result holds
  cases result with
  | error status => exact follows_giveUp holds _ _
  | ok unpacked =>
      dsimp only at holds ⊢
      split
      · exact follows_giveUp holds _ _
      · next rkey isKey =>
          apply follows_checkDeadline
          intro inTime
          split
          · exact follows_giveUp holds _ _
          · obtain ⟨⟨held, isHeld, has⟩, sameKey⟩ := holds
            apply Program.Follows.perform
            · exact ⟨⟨held, _, isHeld, has⟩, by rw [← sameKey, isKey]⟩
            · intro written _
              have holds : after.HoldsSlot _ unpacked :=
                ⟨⟨held, isHeld, has⟩, sameKey⟩
              cases written with
              | none => exact follows_giveUp holds _ _
              | some status =>
                  cases status with
                  | error status => exact follows_giveUp holds _ _
                  | ok done =>
                      dsimp only
                      rw [WritePrepared.success_eq]
                      exact .prepared holds rfl

theorem follows_prepareTransfer
    {holding : Holding}
    (empty : holding.Empty)
    (buffer : BufferView)
    (deadline : Int)
    (opened : OpenSessionResponse) :
    (RdmaTransferPath.prepareTransfer buffer deadline opened).Follows writes
      Settled holding := by
  rw [RdmaTransferPath.prepareTransfer]
  apply follows_checkDeadline
  intro inTime
  split
  · exact follows_abortSession (.failed empty)
  · apply follows_rpcPrepareTransfer empty
    · intro error
      exact follows_abortSession (.failed empty)
    · intro info
      dsimp only
      split
      · exact follows_abortSession (.failed ⟨empty.ep, empty.rkey⟩)
      · apply follows_checkDeadline
        intro inTime
        split
        · exact follows_abortSession (.failed ⟨empty.ep, empty.rkey⟩)
        · apply follows_acquire
          · exact ⟨⟨empty.ep, empty.rkey⟩, rfl⟩
          · intro error
            exact follows_abortSession (.failed ⟨empty.ep, empty.rkey⟩)
          · intro slot holds
            exact follows_writeThrough holds rfl buffer deadline opened

theorem follows_prepareAndWrite
    {holding : Holding}
    (empty : holding.Empty)
    (options : ClientOptions)
    (request : PutObjectRequest)
    (buffer : BufferView)
    (isMultipartPart : Bool)
    (deadline : Int) :
    (RdmaTransferPath.prepareAndWrite options request buffer isMultipartPart
      deadline).Follows writes Settled holding := by
  rw [RdmaTransferPath.prepareAndWrite]
  apply follows_checkDeadline
  intro inTime
  split
  · exact .failed empty
  · refine ⟨trivial, fun requestWord _ => ⟨trivial, fun sessionWord _ => ?_⟩⟩
    apply follows_rpcOpenTransferSession empty
    intro result
    cases result with
    | error error => exact .failed ⟨empty.ep, empty.rkey⟩
    | ok opened =>
        apply follows_prepareTransfer
        exact ⟨empty.ep, empty.rkey⟩

/-- A release gives back what is held. -/
theorem follows_release
    {holding : Holding}
    {prepared : WritePrepared}
    (slot : holding.HoldsSlot (key prepared.epHost prepared.epPort)
      prepared.slot)
    (owner : prepared.owner = true)
    (success : Bool) :
    (prepared.release success).Follows writes
      (fun after released => after.Empty ∧ released.slot.ep = none)
      holding := by
  have full : prepared.slot.ep ≠ none := by
    obtain ⟨⟨held, isHeld, -⟩, -⟩ := slot
    rw [isHeld]
    exact Option.some_ne_none held
  rw [WritePrepared.release, if_pos ⟨owner, full⟩, WritePrepared.returnEp,
    if_neg full]
  cases success with
  | false => exact ⟨⟨_, slot⟩, fun _ _ => ⟨⟨rfl, rfl⟩, rfl⟩⟩
  | true => exact ⟨slot, fun _ _ => ⟨⟨rfl, rfl⟩, rfl⟩⟩

/-- At the end of an attempt nothing is held. -/
theorem follows_finish
    {holding : Holding}
    {prepared : WritePrepared}
    (slot : holding.HoldsSlot (key prepared.epHost prepared.epPort)
      prepared.slot)
    (owner : prepared.owner = true)
    (bytesTransferred : Nat)
    (commit : Result UcxCommitInfo) :
    (RdmaTransferPath.finish prepared bytesTransferred commit).Follows writes
      (fun after _ => after.Empty) holding := by
  cases commit with
  | error error =>
      apply Program.Follows.bind
      apply (follows_release slot owner false).mono
      rintro after released ⟨empty, gone⟩
      apply follows_abortSession
      rw [WritePrepared.destroy_of_empty gone]
      exact empty
  | ok info =>
      apply Program.Follows.bind
      apply (follows_release slot owner true).mono
      rintro after released ⟨empty, gone⟩
      rw [WritePrepared.destroy_of_empty gone]
      exact empty

/-! ## Writes -/

/-- A program that starts and ends with nothing held. -/
def Neutral {α : Type} (program : Put α) : Prop :=
  ∀ holding : Holding, holding.Empty →
    program.Follows writes (fun after _ => after.Empty) holding

theorem neutral_attempt
    {commit : String → Put (Result UcxCommitInfo)}
    (commits : ∀ sessionId holding, (commit sessionId).Follows writes
      (fun after _ => after = holding) holding)
    (options : ClientOptions)
    (request : PutObjectRequest)
    (buffer : BufferView)
    (isMultipartPart : Bool)
    (deadline : Int) :
    Neutral (RdmaTransferPath.attempt options request buffer isMultipartPart
      commit deadline) := by
  intro holding empty
  apply Program.Follows.bind
  apply (follows_prepareAndWrite empty options request buffer isMultipartPart
    deadline).mono
  intro after result settled
  cases settled with
  | failed empty => exact empty
  | @prepared prepared slot owner =>
      apply Program.Follows.bind
      apply (commits prepared.sessionId after).mono
      rintro _ committed rfl
      exact follows_finish slot owner buffer.size committed

theorem neutral_retryLoop
    {fn : Put (Result Gds.TransferOutcome)}
    (neutral : Neutral fn)
    (more : Nat)
    (last : Result Gds.TransferOutcome) :
    Neutral (retryLoop fn more last) := by
  induction more generalizing last with
  | zero => exact fun _ empty => empty
  | succ more inductionHypothesis =>
      intro holding empty
      cases last with
      | ok value => exact empty
      | error error =>
          rw [retryLoop]
          split
          · exact empty
          · apply Program.Follows.bind
            apply (neutral holding empty).mono
            intro after result empty
            exact inductionHypothesis result after empty

/-- So are attempts within a deadline. -/
theorem neutral_attemptsWithin
    {fn : Int → Put (Result Gds.TransferOutcome)}
    (neutral : ∀ deadline, Neutral (fn deadline))
    (requestTimeout : Int)
    (operation : String) :
    Neutral (attemptsWithin RdmaTransferPath.now requestTimeout operation
      fn) := by
  have attempts : ∀ deadline, Neutral
      (attemptBefore RdmaTransferPath.now operation fn deadline) := by
    intro deadline holding empty
    apply follows_now
    intro time
    split
    · exact empty
    · exact neutral deadline holding empty
  intro holding empty
  apply follows_now
  intro start
  apply Program.Follows.bind
  apply (attempts _ holding empty).mono
  intro after result empty
  exact neutral_retryLoop (attempts _) _ result after empty

section

variable
  (available : Bool)
  (options : ClientOptions)
  (rdma : RdmaTransferPath.RdmaClientOptions)
  (request : PutObjectRequest)
  (buffer : BufferView)
  (crcOfBytes : String)

theorem neutral_putObject :
    Neutral (RdmaTransferPath.putObject available options rdma request buffer
      crcOfBytes) := by
  intro holding empty
  rw [RdmaTransferPath.putObject]
  split
  · exact empty
  · split
    · exact empty
    · apply neutral_attemptsWithin _ _ _ holding empty
      apply neutral_attempt
      exact fun sessionId holding => ⟨trivial, fun _ _ => rfl⟩

theorem neutral_putObjectPart (uploadId : String) (partNumber : Nat) :
    Neutral (RdmaTransferPath.putObjectPart available options rdma request
      buffer crcOfBytes uploadId partNumber) := by
  intro holding empty
  rw [RdmaTransferPath.putObjectPart]
  split
  · exact empty
  · split
    · exact empty
    · split
      · exact empty
      · apply neutral_attemptsWithin _ _ _ holding empty
        apply neutral_attempt
        exact fun sessionId holding => ⟨trivial, fun _ _ => rfl⟩

end

end UcxEndpointPool
end Client
end TurboAccess

import TurboAccess.Client.Rdma.PutAndNotify

/-!
# Writes that are left unfinished

A write whose deadline has passed may leave operations on its endpoint.  Such an
endpoint is discarded: it goes back to the pool only when no write was left
unfinished on it, and no other write begins on it.
-/

namespace TurboAccess
namespace Client
namespace UcxEndpointPool

open Gateway.Ucx (UcxCommitInfo UcxDiscoverInfo)
open Gds (BufferView ClientOptions PutObjectRequest)
open RdmaTransferPath (EpSlot Put PutCall WritePrepared)

/-! ## Protocols -/

/-- Which requests of a write respect that a write was left unfinished. -/
def leaves : Protocol PutCall PutCall.Answer Bool where
  allows left
    | .giveBack _ _ _ => left = false
    | .putAndNotify _ _ _ _ _ _ _ => left = false
    | _ => True
  expects _ _ := True
  next left
    | ⟨.putAndNotify _ _ _ _ _ _ _, none⟩ => true
    | ⟨.discard _, _⟩ => false
    | _ => left

/-- Which requests of the pool respect it. -/
def leavesCalls : Protocol PoolCall PoolCall.Answer Bool where
  allows left
    | .giveIdle _ _ => left = false
    | .transfer call => leaves.allows left call
    | _ => True
  expects _ _ := True
  next left
    | ⟨.closeEp _, _⟩ => false
    | ⟨.transfer call, reply⟩ => leaves.next left ⟨call, reply⟩
    | _ => left

/-! ## The operations of the pool -/

/-- An operation of the pool does what a request for it says of unfinished
writes. -/
def HandlesLeft
    (left : Bool)
    (call : PutCall)
    (program : PoolProgram call.Answer) : Prop :=
  program.Follows leavesCalls
    (fun after reply => after = leaves.next left ⟨call, reply⟩) left

theorem followsLeft_rkeyDestroy
    {α : Type}
    {left : Bool}
    {next : Unit → PoolProgram α}
    {post : Bool → α → Prop}
    (rkey : Option Nat)
    (rest : (next ()).Follows leavesCalls post left) :
    (rkeyDestroy rkey >>= next).Follows leavesCalls post left := by
  cases rkey with
  | none => exact rest
  | some rkey => exact Program.Follows.perform trivial fun _ _ => rest

/-- Acquiring a slot does not change what is left. -/
theorem handlesLeft_acquire
    (left : Bool)
    (host : String)
    (port : UInt16)
    (packedRkey : Bytes) :
    HandlesLeft left (.acquire host port packedRkey)
      (acquire host port packedRkey) := by
  unfold HandlesLeft acquire
  apply Program.Follows.perform trivial
  intro taken _
  cases taken with
  | some slot => rfl
  | none =>
      apply Program.Follows.perform trivial
      intro valid _
      split
      · rfl
      · apply Program.Follows.perform trivial
        intro created _
        cases created with
        | error status => rfl
        | ok ep =>
            dsimp only
            split
            · rfl
            · apply Program.Follows.perform trivial
              intro unpacked _
              cases unpacked <;> rfl

theorem handlesLeft_giveBack
    {left : Bool}
    {holding : Holding}
    {host : String}
    {port : UInt16}
    {slot : EpSlot}
    (allowed : left = false)
    (held : writes.allows holding (.giveBack host port slot)) :
    HandlesLeft left (.giveBack host port slot) (giveBack host port slot) := by
  obtain ⟨⟨ep, isEp, -⟩, -⟩ := held
  unfold HandlesLeft giveBack
  rw [if_neg (by rw [isEp]; exact Option.some_ne_none ep)]
  apply followsLeft_rkeyDestroy
  exact ⟨allowed, fun _ _ => rfl⟩

theorem handlesLeft_discard
    {left : Bool}
    {holding : Holding}
    {slot : EpSlot}
    (held : writes.allows holding (.discard slot)) :
    HandlesLeft left (.discard slot) (discard slot) := by
  obtain ⟨text, ⟨ep, isEp, -⟩, -⟩ := held
  unfold HandlesLeft discard
  rw [if_neg (by rw [isEp]; exact Option.some_ne_none ep)]
  apply followsLeft_rkeyDestroy
  exact ⟨trivial, fun _ _ => rfl⟩

/-- The client does what the requests of a write say; a slot that is given back
or discarded has an endpoint. -/
theorem handlesLeft
    {left : Bool}
    {holding : Holding}
    {call : PutCall}
    (allowed : leaves.allows left call)
    (held : writes.allows holding call) :
    HandlesLeft left call (handler call) := by
  cases call with
  | acquire host port packedRkey =>
      exact handlesLeft_acquire left host port packedRkey
  | giveBack host port slot => exact handlesLeft_giveBack allowed held
  | discard slot => exact handlesLeft_discard held
  | putAndNotify ep data size gwRaddr gwRkey sessionId deadline =>
      refine ⟨allowed, fun reply _ => ?_⟩
      cases reply <;> rfl
  | unpackRkey ep packedRkey => exact ⟨trivial, fun _ _ => rfl⟩
  | now => exact ⟨trivial, fun _ _ => rfl⟩
  | randomWord => exact ⟨trivial, fun _ _ => rfl⟩
  | openSession opening => exact ⟨trivial, fun _ _ => rfl⟩
  | prepareTransfer sessionId transferBytes =>
      exact ⟨trivial, fun _ _ => rfl⟩
  | commitObject request => exact ⟨trivial, fun _ _ => rfl⟩
  | commitPart request => exact ⟨trivial, fun _ _ => rfl⟩
  | abortSession sessionId => exact ⟨trivial, fun _ _ => rfl⟩

/-! ## Writes -/

/-- A program that starts and ends with no write left unfinished. -/
def Finishes {α : Type} (program : Put α) : Prop :=
  program.Follows leaves (fun left _ => left = false) false

section

variable {α β : Type}

theorem Finishes.pure (value : α) : Finishes (pure value : Put α) := rfl

theorem Finishes.bind
    {program : Put α}
    {next : α → Put β}
    (finishes : Finishes program)
    (rest : ∀ value, Finishes (next value)) :
    Finishes (program >>= next) := by
  apply Program.Follows.bind
  apply Program.Follows.mono finishes
  rintro _ value rfl
  exact rest value

/-- A request that leaves nothing. -/
theorem Finishes.perform
    {call : PutCall}
    (allowed : leaves.allows false call)
    (kept : ∀ reply, leaves.next false ⟨call, reply⟩ = false) :
    Finishes (Program.perform call) :=
  ⟨allowed, fun reply _ => kept reply⟩

end

theorem finishes_checkDeadline (deadline : Int) :
    Finishes (RdmaTransferPath.checkDeadline deadline) :=
  .bind (.perform trivial fun _ => rfl) fun _ => .pure _

theorem finishes_abortSession (sessionId : String) :
    Finishes (RdmaTransferPath.abortSession sessionId) :=
  .bind (.perform trivial fun _ => rfl) fun _ => .pure _

theorem finishes_discard (slot : EpSlot) :
    Finishes (RdmaTransferPath.discard slot) :=
  .perform trivial fun _ => rfl

/-- A session is given up with its slot, whatever is left on its endpoint. -/
theorem follows_giveUp_leaves
    (left : Bool)
    (slot : EpSlot)
    (sessionId : String)
    (error : Error) :
    (RdmaTransferPath.giveUp slot sessionId error).Follows leaves
      (fun after _ => after = false) left :=
  ⟨trivial, fun _ _ => ⟨trivial, fun _ _ => rfl⟩⟩

theorem finishes_unpackRkey (slot : EpSlot) (packedRkey : Bytes) :
    Finishes (RdmaTransferPath.unpackRkey slot packedRkey) := by
  rw [RdmaTransferPath.unpackRkey]
  split
  · exact .bind (.perform trivial fun _ => rfl) fun _ => .pure _
  · exact .pure _

/-- What was prepared was written, and the endpoint of any other write is
discarded. -/
theorem finishes_writeThrough
    (buffer : BufferView)
    (deadline : Int)
    (opened : OpenSessionResponse)
    (info : UcxDiscoverInfo)
    (slot : EpSlot) :
    Finishes (RdmaTransferPath.writeThrough buffer deadline opened info
      slot) := by
  apply Finishes.bind (finishes_unpackRkey slot info.gwPackedRkey)
  intro result
  cases result with
  | error status => exact follows_giveUp_leaves false _ _ _
  | ok unpacked =>
      dsimp only
      split
      · exact follows_giveUp_leaves false _ _ _
      · next rkey isKey =>
          apply Finishes.bind (finishes_checkDeadline deadline)
          intro inTime
          split
          · exact follows_giveUp_leaves false _ _ _
          · refine ⟨rfl, fun written _ => ?_⟩
            cases written with
            | none => exact follows_giveUp_leaves true _ _ _
            | some status =>
                cases status with
                | error status => exact follows_giveUp_leaves false _ _ _
                | ok done =>
                    dsimp only
                    rw [WritePrepared.success_eq]
                    exact rfl

theorem finishes_prepareTransfer
    (buffer : BufferView)
    (deadline : Int)
    (opened : OpenSessionResponse) :
    Finishes (RdmaTransferPath.prepareTransfer buffer deadline opened) := by
  have gives_up : ∀ error : Error, Finishes
      (RdmaTransferPath.abortSession opened.sessionId >>= fun _ =>
        (pure (.error error) : Put (Result WritePrepared))) :=
    fun error => .bind (finishes_abortSession _) fun _ => .pure _
  apply Finishes.bind (finishes_checkDeadline deadline)
  intro inTime
  split
  · exact gives_up _
  · refine .bind (.bind ?_ fun _ => .pure _) fun discovered => ?_
    · exact .perform trivial fun _ => rfl
    cases discovered with
    | error error => exact gives_up _
    | ok info =>
        dsimp only
        split
        · exact gives_up _
        · apply Finishes.bind (finishes_checkDeadline deadline)
          intro inTime
          split
          · exact gives_up _
          · refine .bind ?_ fun acquired => ?_
            · exact .perform trivial fun _ => rfl
            cases acquired with
            | error error => exact gives_up _
            | ok slot => exact finishes_writeThrough _ _ _ _ _

theorem finishes_prepareAndWrite
    (options : ClientOptions)
    (request : PutObjectRequest)
    (buffer : BufferView)
    (isMultipartPart : Bool)
    (deadline : Int) :
    Finishes (RdmaTransferPath.prepareAndWrite options request buffer
      isMultipartPart deadline) := by
  apply Finishes.bind (finishes_checkDeadline deadline)
  intro inTime
  split
  · exact .pure _
  · refine .bind ?_ fun requestWord => .bind ?_ fun sessionWord => ?_
    · exact .perform trivial fun _ => rfl
    · exact .perform trivial fun _ => rfl
    refine .bind (.bind ?_ fun _ => .pure _) fun result => ?_
    · exact .perform trivial fun _ => rfl
    cases result with
    | error error => exact .pure _
    | ok opened => exact finishes_prepareTransfer _ _ _

/-- A slot is given back after its write has ended. -/
theorem finishes_returnEp (prepared : WritePrepared) (success : Bool) :
    Finishes (prepared.returnEp success) := by
  rw [WritePrepared.returnEp]
  split
  · exact .pure _
  · split
    · exact .bind (.perform rfl fun _ => rfl) fun _ => .pure _
    · exact .bind (finishes_discard _) fun _ => .pure _

theorem finishes_finish
    (prepared : WritePrepared)
    (bytesTransferred : Nat)
    (commit : Result UcxCommitInfo) :
    Finishes (RdmaTransferPath.finish prepared bytesTransferred commit) := by
  have releases : ∀ success, Finishes (prepared.release success) := by
    intro success
    rw [WritePrepared.release]
    split
    · exact .bind (finishes_returnEp _ _) fun _ => .pure _
    · exact .pure _
  have destroys : ∀ prepared : WritePrepared, Finishes prepared.destroy := by
    intro prepared
    rw [WritePrepared.destroy]
    split
    · exact .bind (finishes_returnEp _ _) fun _ => .pure _
    · exact .pure _
  cases commit with
  | error error =>
      apply Finishes.bind (releases false)
      intro released
      apply Finishes.bind (finishes_abortSession _)
      exact fun _ => .bind (destroys _) fun _ => .pure _
  | ok info =>
      apply Finishes.bind (releases true)
      exact fun released => .bind (destroys _) fun _ => .pure _

theorem finishes_attempt
    {commit : String → Put (Result UcxCommitInfo)}
    (commits : ∀ sessionId, Finishes (commit sessionId))
    (options : ClientOptions)
    (request : PutObjectRequest)
    (buffer : BufferView)
    (isMultipartPart : Bool)
    (deadline : Int) :
    Finishes (RdmaTransferPath.attempt options request buffer isMultipartPart
      commit deadline) := by
  apply Finishes.bind (finishes_prepareAndWrite _ _ _ _ _)
  intro result
  cases result with
  | error error => exact .pure _
  | ok prepared =>
      exact .bind (commits _) fun committed => finishes_finish _ _ _

/-- Attempts within a deadline leave nothing when none of them does. -/
theorem finishes_attemptsWithin
    {fn : Int → Put (Result Gds.TransferOutcome)}
    (finishes : ∀ deadline, Finishes (fn deadline))
    (requestTimeout : Int)
    (operation : String) :
    Finishes (attemptsWithin RdmaTransferPath.now requestTimeout operation
      fn) := by
  have attempts : ∀ deadline, Finishes
      (attemptBefore RdmaTransferPath.now operation fn deadline) := by
    intro deadline
    refine .bind ?_ fun time => ?_
    · exact .perform trivial fun _ => rfl
    split
    · exact .pure _
    · exact finishes deadline
  have loops : ∀ deadline more last, Finishes
      (retryLoop (attemptBefore RdmaTransferPath.now operation fn deadline)
        more last) := by
    intro deadline more
    induction more with
    | zero => exact fun last => .pure last
    | succ more inductionHypothesis =>
        intro last
        cases last with
        | ok value => exact .pure _
        | error error =>
            rw [retryLoop]
            split
            · exact .pure _
            · exact .bind (attempts _) inductionHypothesis
  refine .bind ?_ fun start => ?_
  · exact .perform trivial fun _ => rfl
  · exact .bind (attempts _) (loops _ _)

/-- Every write of a client ends with nothing left unfinished on an endpoint
that it still has. -/
theorem finishes_putObject
    (available : Bool)
    (options : ClientOptions)
    (rdma : RdmaTransferPath.RdmaClientOptions)
    (request : PutObjectRequest)
    (buffer : BufferView)
    (crcOfBytes : String) :
    Finishes (RdmaTransferPath.putObject available options rdma request buffer
      crcOfBytes) := by
  rw [RdmaTransferPath.putObject]
  split
  · exact .pure _
  · split
    · exact .pure _
    · apply finishes_attemptsWithin
      apply finishes_attempt
      intro sessionId
      refine .bind ?_ fun _ => .pure _
      exact .perform trivial fun _ => rfl

theorem finishes_putObjectPart
    (available : Bool)
    (options : ClientOptions)
    (rdma : RdmaTransferPath.RdmaClientOptions)
    (request : PutObjectRequest)
    (buffer : BufferView)
    (crcOfBytes uploadId : String)
    (partNumber : Nat) :
    Finishes (RdmaTransferPath.putObjectPart available options rdma request
      buffer crcOfBytes uploadId partNumber) := by
  rw [RdmaTransferPath.putObjectPart]
  split
  · exact .pure _
  · split
    · exact .pure _
    · split
      · exact .pure _
      · apply finishes_attemptsWithin
        apply finishes_attempt
        intro sessionId
        refine .bind (.bind ?_ fun _ => .pure _) fun _ => .pure _
        exact .perform trivial fun _ => rfl

/-! ## Both protocols -/

/-- What a write holds and what it has left, in terms of the requests of the
pool. -/
theorem ClientPut.follows_both (put : ClientPut) :
    put.program.Follows (calls.both leavesCalls)
      (fun states _ => states.1.Empty ∧ states.2 = false) ({}, false) := by
  have handles_both : ∀ states call,
      (writes.both leaves).allows states call →
        (handler call).Follows (calls.both leavesCalls)
          (fun after reply =>
            (writes.both leaves).expects states ⟨call, reply⟩ ∧
              after = (writes.both leaves).next states ⟨call, reply⟩)
          states := by
    rintro ⟨holding, left⟩ call ⟨held, allowed⟩
    apply ((handles holding call held).both (handlesLeft allowed held)).mono
    rintro ⟨after, afterLeft⟩ reply ⟨⟨expected, rfl⟩, rfl⟩
    exact ⟨⟨expected, trivial⟩, rfl⟩
  cases put with
  | object available options rdma request buffer crcOfBytes =>
      apply Program.Follows.interpret handles_both
      exact (neutral_putObject available options rdma request buffer crcOfBytes
        {} ⟨rfl, rfl⟩).both
          (finishes_putObject available options rdma request buffer crcOfBytes)
  | part available options rdma request buffer crcOfBytes uploadId
      partNumber =>
      apply Program.Follows.interpret handles_both
      exact (neutral_putObjectPart available options rdma request buffer
        crcOfBytes uploadId partNumber {} ⟨rfl, rfl⟩).both
          (finishes_putObjectPart available options rdma request buffer
            crcOfBytes uploadId partNumber)

end UcxEndpointPool
end Client
end TurboAccess

import TurboAccess.EndToEnd.RdmaNetwork

/-!
# What a writer on the CPU path does

Whatever it is answered, a client that writes an object opens sessions for this
object only, and prepares, writes, commits and aborts only sessions it was
given, with the bytes of its buffer and all of them.  When it reports success,
one of its commits was answered.
-/

namespace TurboAccess
namespace EndToEnd
namespace Rdma

open Client (OpenSessionResponse)
open Client.Gds (SessionOpening TransferOutcome)
open Client.RdmaTransferPath (EpSlot Put PutCall RdmaClientOptions
  WritePrepared)
open Gateway.Ucx (UcxCommitInfo UcxDiscoverInfo)

/-! ## The protocol -/

/-- What a client was given so far: sessions, and whether one of its commits was
answered. -/
structure Position where
  sessions : List String
  stored : Bool

/-- A client that was given nothing. -/
def Position.start : Position := ⟨[], false⟩

/-- What a client with a job asks for. -/
def putProtocol (job : Option PutJob) :
    Protocol PutCall PutCall.Answer Position where
  allows position
    | .openSession opening => ∃ own, job = some own ∧ Opens own opening
    | .prepareTransfer sessionId _ => sessionId ∈ position.sessions
    | .putAndNotify _ data size _ _ sessionId _ =>
        sessionId ∈ position.sessions ∧
          ∃ own, job = some own ∧ data = own.buffer.data ∧
            size = own.buffer.size
    | .commitObject request =>
        request.sessionId ∈ position.sessions ∧
          ∃ own, job = some own ∧ request.bytesTransferred = own.buffer.size
    | .commitPart _ => False
    | .abortSession sessionId => sessionId ∈ position.sessions
    | _ => True
  expects _ _ := True
  next position
    | ⟨.openSession _, .answered response⟩ =>
        { position with sessions := response.sessionId :: position.sessions }
    | ⟨.commitObject _, .answered _⟩ => { position with stored := true }
    | _ => position

/-- A success is reported after a commit was answered, with the size of the
buffer. -/
def Reports
    (job : PutJob)
    (position : Position)
    (result : Client.Result TransferOutcome) : Prop :=
  ∀ outcome, result = .ok outcome →
    position.stored = true ∧ outcome.bytesTransferred = job.buffer.size

theorem Reports.error
    (job : PutJob)
    (position : Position)
    (error : Client.Error) :
    Reports job position (.error error) := by
  rintro outcome ⟨⟩

/-! ## The stages of an attempt -/

section

variable (job : PutJob)

/-- What is prepared has a session the client was given. -/
def Prepared
    (position : Position)
    (result : Client.Result WritePrepared) : Prop :=
  ∀ prepared, result = .ok prepared →
    prepared.sessionId ∈ position.sessions

theorem Prepared.error (position : Position) (error : Client.Error) :
    Prepared position (.error error) := by
  rintro prepared ⟨⟩

variable {position : Position}

/-- The clock may be looked at. -/
theorem follows_checkDeadline
    {α : Type}
    {post : Position → α → Prop}
    {next : Bool → Put α}
    (deadline : Int)
    (rest : ∀ inTime, (next inTime).Follows (putProtocol (some job)) post
      position) :
    (Client.RdmaTransferPath.checkDeadline deadline >>= next).Follows
      (putProtocol (some job)) post position :=
  ⟨trivial, fun time _ => rest (decide (time < deadline))⟩

/-- A session that the client has may be given up. -/
theorem follows_abortSession
    {α : Type}
    {post : Position → α → Prop}
    {next : Unit → Put α}
    {sessionId : String}
    (known : sessionId ∈ position.sessions)
    (rest : (next ()).Follows (putProtocol (some job)) post position) :
    (Client.RdmaTransferPath.abortSession sessionId >>= next).Follows
      (putProtocol (some job)) post position :=
  ⟨known, fun _ _ => rest⟩

theorem follows_giveUp
    {sessionId : String}
    (known : sessionId ∈ position.sessions)
    (slot : EpSlot)
    (error : Client.Error) :
    (Client.RdmaTransferPath.giveUp slot sessionId error).Follows
      (putProtocol (some job)) Prepared position :=
  ⟨trivial, fun _ _ => follows_abortSession job known (.error _ error)⟩

/-- Moving what is prepared, and destroying what it was moved from, asks for
nothing. -/
theorem follows_success
    {prepared : WritePrepared}
    (known : prepared.sessionId ∈ position.sessions) :
    prepared.success.Follows (putProtocol (some job)) Prepared position := by
  have moved : prepared.success = pure (.ok prepared) := by
    simp only [WritePrepared.success, WritePrepared.move,
      WritePrepared.destroy]
    rfl
  rw [moved]
  rintro other same
  cases same
  exact known

/-- A client writes the bytes of its buffer, in the session it has. -/
theorem follows_writeThrough
    {opened : OpenSessionResponse}
    (known : opened.sessionId ∈ position.sessions)
    (deadline : Int)
    (info : UcxDiscoverInfo)
    (slot : EpSlot) :
    (Client.RdmaTransferPath.writeThrough job.buffer deadline opened info
      slot).Follows (putProtocol (some job)) Prepared position := by
  have unpacks : (Client.RdmaTransferPath.unpackRkey slot
      info.gwPackedRkey).Follows (putProtocol (some job))
        (fun after _ => after = position) position := by
    unfold Client.RdmaTransferPath.unpackRkey
    split
    · exact ⟨trivial, fun _ _ => rfl⟩
    · rfl
  refine .bind (unpacks.mono ?_)
  rintro _ unpacked rfl
  cases unpacked with
  | error status => exact follows_giveUp job known _ _
  | ok slot =>
      dsimp only
      split
      · exact follows_giveUp job known _ _
      · refine follows_checkDeadline job deadline fun inTime => ?_
        split
        · exact follows_giveUp job known _ _
        · refine .perform ⟨known, job, rfl, rfl, rfl⟩ fun written _ => ?_
          rcases written with _ | status | done
          · exact follows_giveUp job known _ _
          · exact follows_giveUp job known _ _
          · exact follows_success job known

theorem follows_prepareTransfer
    {opened : OpenSessionResponse}
    (known : opened.sessionId ∈ position.sessions)
    (deadline : Int) :
    (Client.RdmaTransferPath.prepareTransfer job.buffer deadline opened).Follows
      (putProtocol (some job)) Prepared position := by
  have givesUp : ∀ error : Client.Error,
      (Client.RdmaTransferPath.abortSession opened.sessionId >>= fun _ =>
        pure (.error error)).Follows (putProtocol (some job)) Prepared
          position :=
    fun error => follows_abortSession job known (.error _ error)
  refine follows_checkDeadline job deadline fun inTime => ?_
  split
  · exact givesUp _
  · refine .bind (.perform known fun outcome _ => ?_)
    cases outcome with
    | notInitialized => exact givesUp _
    | failed controller => exact givesUp _
    | answered info =>
        change Program.Follows _ _ (if _ then _ else _) _
        split
        · exact givesUp _
        · refine follows_checkDeadline job deadline fun inTime => ?_
          split
          · exact givesUp _
          · refine .perform trivial fun acquired _ => ?_
            cases acquired with
            | error error => exact givesUp _
            | ok slot => exact follows_writeThrough job known deadline info slot

/-- A client opens a session for its object, and gets the one it is
answered. -/
theorem follows_prepareAndWrite (position : Position) (deadline : Int) :
    (Client.RdmaTransferPath.prepareAndWrite job.options
      job.request.toPutObjectRequest job.buffer false deadline).Follows
        (putProtocol (some job)) Prepared position := by
  refine follows_checkDeadline job deadline fun inTime => ?_
  split
  · exact .error _ _
  · refine .perform trivial fun requestWord _ => ?_
    refine .perform trivial fun sessionWord _ => ?_
    refine .bind (.perform ⟨job, rfl, rfl, rfl, rfl⟩ fun outcome _ => ?_)
    cases outcome with
    | notInitialized => exact .error _ _
    | failed controller => exact .error _ _
    | answered opened =>
        exact follows_prepareTransfer job List.mem_cons_self deadline

/-- Giving an endpoint back asks nothing of the gateway. -/
theorem follows_release
    (prepared : WritePrepared)
    (success : Bool) :
    (prepared.release success).Follows (putProtocol (some job))
      (fun after released => after = position ∧
        released.sessionId = prepared.sessionId) position := by
  unfold WritePrepared.release WritePrepared.returnEp
  split
  · split
    · exact ⟨rfl, rfl⟩
    · split <;> exact ⟨trivial, fun _ _ => ⟨rfl, rfl⟩⟩
  · exact ⟨rfl, rfl⟩

theorem follows_destroy
    {post : Position → Client.Result TransferOutcome → Prop}
    {result : Client.Result TransferOutcome}
    (prepared : WritePrepared)
    (holds : post position result) :
    (prepared.destroy >>= fun _ => pure result).Follows
      (putProtocol (some job)) post position := by
  unfold WritePrepared.destroy WritePrepared.returnEp
  split
  · split
    · exact holds
    · exact ⟨trivial, fun _ _ => holds⟩
  · exact holds

/-- The end of an attempt reports success only if the commit was answered. -/
theorem follows_finish
    {prepared : WritePrepared}
    (known : prepared.sessionId ∈ position.sessions)
    (commit : Client.Result UcxCommitInfo)
    (stored : ∀ info, commit = .ok info → position.stored = true) :
    (Client.RdmaTransferPath.finish prepared job.buffer.size commit).Follows
      (putProtocol (some job)) (Reports job) position := by
  cases commit with
  | error error =>
      refine .bind ((follows_release job prepared false).mono ?_)
      rintro _ released ⟨rfl, same⟩
      refine follows_abortSession job (by rwa [same]) ?_
      exact follows_destroy job released (.error job _ error)
  | ok info =>
      refine .bind ((follows_release job prepared true).mono ?_)
      rintro _ released ⟨rfl, -⟩
      refine follows_destroy job released ?_
      intro outcome same
      cases same
      exact ⟨stored info rfl, rfl⟩

/-- An attempt reports success after its commit was answered. -/
theorem follows_attempt
    (rdma : RdmaClientOptions)
    (crcOfBytes : String)
    (deadline : Int)
    (position : Position) :
    (Client.RdmaTransferPath.putObjectAttempt job.options rdma
      job.request.toPutObjectRequest job.buffer crcOfBytes deadline).Follows
        (putProtocol (some job)) (Reports job) position := by
  refine .bind ((follows_prepareAndWrite job position deadline).mono ?_)
  intro position result known
  cases result with
  | error error => exact .error job _ _
  | ok prepared =>
      have known := known prepared rfl
      refine .bind (.bind (.perform ⟨known, job, rfl, rfl⟩ fun outcome _ => ?_))
      cases outcome with
      | notInitialized =>
          exact follows_finish job known _ (by rintro info ⟨⟩)
      | failed controller =>
          exact follows_finish job known _ (by rintro info ⟨⟩)
      | answered info =>
          refine follows_finish job ?_ _ fun _ _ => rfl
          exact known

/-- So does a write with all its attempts. -/
theorem follows_program
    (rdma : RdmaClientOptions)
    (crcOfBytes : Bytes → String)
    (position : Position) :
    (program rdma crcOfBytes job).Follows (putProtocol (some job)) (Reports job)
      position := by
  unfold program Client.RdmaTransferPath.putObject
  split
  · exact .error job _ _
  · split
    · exact .error job _ _
    · refine Client.follows_attemptsWithin ?_ (Reports.error job)
        (follows_attempt job rdma _) _ _ position
      exact fun position => .perform trivial fun _ _ => trivial

end

end Rdma
end EndToEnd
end TurboAccess

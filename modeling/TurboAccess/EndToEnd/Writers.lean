import TurboAccess.EndToEnd.PutNetwork

/-!
# What a writer does

Whatever it is answered, a client that writes an object opens sessions for this
object only, announces no size, asks for tokens of its buffer only, and sends
chunks that hold a session and a token it was given and cover the buffer.  When
it reports success, one of its chunks was answered.
-/

namespace TurboAccess
namespace Client

variable {κ : Type} {answer : κ → Type} {α γ : Type}

/-- Attempts that follow a protocol from every state on do so one after the
other. -/
theorem follows_retryLoop
    {protocol : Protocol κ answer γ}
    {post : γ → Result α → Prop}
    {fn : Program κ answer (Result α)}
    (follows : ∀ state, fn.Follows protocol post state)
    (more : Nat)
    {state : γ}
    {last : Result α}
    (holds : post state last) :
    (retryLoop fn more last).Follows protocol post state := by
  induction more generalizing state last with
  | zero => exact holds
  | succ more inductionHypothesis =>
      cases last with
      | ok value => exact holds
      | error error =>
          rw [retryLoop]
          split
          · exact holds
          · exact .bind ((follows state).mono fun _ _ => inductionHypothesis)

/-- So do attempts within a deadline. -/
theorem follows_attemptsWithin
    {protocol : Protocol κ answer γ}
    {post : γ → Result α → Prop}
    {clock : Program κ answer Int}
    {fn : Int → Program κ answer (Result α)}
    (looks : ∀ state, clock.Follows protocol (fun _ _ => True) state)
    (fails : ∀ state error, post state (.error error))
    (follows : ∀ deadline state, (fn deadline).Follows protocol post state)
    (requestTimeout : Int)
    (operation : String)
    (state : γ) :
    (attemptsWithin clock requestTimeout operation fn).Follows protocol post
      state := by
  have attempts : ∀ deadline state,
      (attemptBefore clock operation fn deadline).Follows protocol post
        state := by
    intro deadline state
    refine .bind ((looks state).mono ?_)
    intro state now _
    split
    · exact fails state _
    · exact follows deadline state
  refine .bind ((looks state).mono ?_)
  intro state start _
  refine .bind ((attempts _ state).mono ?_)
  intro state result holds
  exact follows_retryLoop (attempts _) _ holds

end Client

namespace EndToEnd

open Client (OpenSessionResponse PutPartRequest RpcOutcome)
open Client.Gds (BufferView SessionOpening TransferOutcome)
open Client.GdsTransferPath (PutCall)
open Gateway.Gds (GdsChunkRequest GdsChunkResponse)

/-! ## The protocol -/

/-- What a client was given so far: sessions with their tickets, and tokens; and
whether one of its chunks was answered. -/
structure Position where
  sessions : List (String × String)
  tokens : List String
  stored : Bool

/-- A client that was given nothing. -/
def Position.start : Position := ⟨[], [], false⟩

/-- A session that is opened for the object of a job, without a size. -/
structure Opens (job : PutJob) (opening : SessionOpening) : Prop where
  bucket : opening.bucket = job.request.bucket
  key : opening.key = job.request.key
  length : opening.length = none

/-- A chunk that covers the buffer of a job, of a session and with a token that
the client was given. -/
structure Covers
    (job : PutJob)
    (position : Position)
    (chunk : GdsChunkRequest) : Prop where
  session : (chunk.sessionId, chunk.transferTicket) ∈ position.sessions
  token : chunk.rdmaToken ∈ position.tokens
  offset : chunk.chunkOffset = 0
  size : chunk.chunkSize = job.buffer.size
  object : chunk.uploadId = ""

/-- What a client with a job asks for. -/
def putProtocol (job : Option PutJob) :
    Protocol PutCall PutCall.Answer Position where
  allows position
    | .openSession opening => ∃ job', job = some job' ∧ Opens job' opening
    | .acquireToken ptr size =>
        ∃ job', job = some job' ∧ ptr = job'.buffer.data ∧
          size = job'.buffer.size
    | .gdsPut chunk =>
        ∃ job', job = some job' ∧ Covers job' position chunk
    | _ => True
  expects _ _ := True
  next position
    | ⟨.openSession _, .answered response⟩ =>
        { position with
          sessions :=
            (response.sessionId, response.ticket) :: position.sessions }
    | ⟨.acquireToken _ _, .ok token⟩ =>
        { position with tokens := token :: position.tokens }
    | ⟨.gdsPut _, .answered _⟩ => { position with stored := true }
    | _ => position

/-- A success is reported after a chunk was answered, with the size of the
buffer, which is not empty. -/
def Reports
    (job : PutJob)
    (position : Position)
    (result : Client.Result TransferOutcome) : Prop :=
  ∀ outcome, result = .ok outcome →
    position.stored = true ∧ outcome.bytesTransferred = job.buffer.size ∧
      job.buffer.size ≠ 0

theorem Reports.error
    (job : PutJob)
    (position : Position)
    (error : Client.Error) :
    Reports job position (.error error) := nofun

/-! ## The programs -/

section

variable (job : PutJob)

/-- A client gets the session it is answered. -/
theorem follows_openSessionForPut (position : Position) :
    (Client.GdsTransferPath.openSessionForPut job.options job.request
      job.buffer).Follows (putProtocol (some job))
        (fun position result => ∀ response, result = .ok response →
          (response.sessionId, response.ticket) ∈ position.sessions)
        position := by
  unfold Client.GdsTransferPath.openSessionForPut
  split
  · exact nofun
  · refine .perform trivial fun requestWord _ => ?_
    refine .perform trivial fun sessionWord _ => ?_
    refine .perform ⟨job, rfl, rfl, rfl, rfl⟩ fun outcome _ => ?_
    cases outcome with
    | notInitialized => exact nofun
    | failed controller => exact nofun
    | answered response =>
        intro other same
        cases same
        exact List.mem_cons_self

/-- The only chunk of a write covers the buffer, in the session and with the
token that it is made with. -/
theorem covers_of_executePutPart
    {response : OpenSessionResponse}
    {token : String}
    {chunk : GdsChunkRequest}
    {position : Position}
    (session : (response.sessionId, response.ticket) ∈ position.sessions)
    (given : token ∈ position.tokens)
    (made : Client.executePutPart
      (Client.GdsTransferPath.importSession response) job.request job.buffer
      (.ok token) "" 0 = .ok chunk) :
    Covers job position chunk := by
  unfold Client.executePutPart at made
  split at made
  · cases made
  · dsimp only at made
    rw [if_pos rfl, Client.ChunkDispatcher.dispatch] at made
    split at made
    · cases made
    · cases made
      exact ⟨session, given, rfl, rfl, rfl⟩

/-- A client that has a session sends its chunk, and reports the answer. -/
theorem follows_executePut
    (response : OpenSessionResponse)
    (position : Position)
    (known : (response.sessionId, response.ticket) ∈ position.sessions) :
    (Client.GdsTransferPath.executePut response job.request job.buffer "" 0
      ).Follows (putProtocol (some job)) (Reports job) position := by
  unfold Client.GdsTransferPath.executePut
  split
  · exact .error job _ _
  next filled =>
    refine .perform ⟨job, rfl, rfl, rfl⟩ fun token _ => ?_
    split
    · exact .error job _ _
    · next chunk made =>
        cases token with
        | error error =>
            unfold Client.executePutPart at made
            split at made <;> cases made
        | ok token =>
            have covers : Covers job
                { position with tokens := token :: position.tokens } chunk :=
              covers_of_executePutPart job known List.mem_cons_self made
            refine .perform ⟨job, rfl, covers⟩ fun outcome _ => ?_
            intro transferred returned
            rw [Client.Gds.executeTransferPut, made] at returned
            cases outcome with
            | notInitialized => cases returned
            | failed controller => cases returned
            | answered response =>
                cases returned
                exact ⟨rfl, rfl, fun empty => filled (.inr empty)⟩

/-- An attempt reports success after its chunk was answered. -/
theorem follows_attempt (deadline : Int) (position : Position) :
    (Client.GdsTransferPath.attempt job.options job.request job.buffer "" 0
      deadline).Follows (putProtocol (some job)) (Reports job) position := by
  refine .bind ((follows_openSessionForPut job position).mono ?_)
  intro position opened known
  cases opened with
  | error error => exact .error job _ _
  | ok response =>
      refine .bind ((follows_executePut job response position
        (known response rfl)).mono ?_)
      intro position result reports
      cases result with
      | ok outcome => exact reports
      | error error =>
          exact .perform trivial fun _ _ => .error job _ _

/-- So does a write with all its attempts. -/
theorem follows_program (position : Position) :
    job.program.Follows (putProtocol (some job)) (Reports job) position := by
  unfold PutJob.program Client.GdsTransferPath.putObject
  split
  · exact .error job _ _
  · refine Client.follows_attemptsWithin ?_ (Reports.error job)
      (follows_attempt job) _ _ position
    exact fun position => .perform trivial fun _ _ => trivial

end

end EndToEnd
end TurboAccess

import TurboAccess.Client.Upload.MultipartUpload
import TurboAccess.Gateway.Backend.Footprint
import TurboAccess.Gateway.Gds.Executor
import TurboAccess.Lib.Machine

/-!
# Attempts of part uploads

The application uploads the parts of one multipart upload, each of them once, on
the GPU path or on the CPU path.  The client makes an attempt, gives up on it
when it times out or fails, and makes the next one; the gateway goes on with an
attempt that the client has given up on.

An attempt on the gateway looks the upload up, pulls and stages the bytes, feeds
them into the digest of the part when the GPU path is asked for one, and records
the part under the tag it answers with.  Each of these is a section under one
lock, and a step here; what the transfer of the bytes gives, and what the client
is told when an attempt ends without an answer, are arguments.
-/

namespace TurboAccess
namespace Client

open Gateway (UploadPtr)
open Gateway.Gds (Media stagePart md5Hex md5Hex_ne_empty)

/-- How often a call is attempted. -/
structure RetryPolicy where
  maxAttempts : Nat
  deriving DecidableEq, Repr

/-- The policy of part uploads. -/
def defaultRetryPolicy : RetryPolicy := ⟨3⟩

/-- What the application uploads: the parts from one to a count, each with the
size of its buffer and the checksum policy of the handle when it is passed. -/
structure PartsPlan where
  uploadId : String
  flow : DataFlow
  count : Nat
  size : Nat → Nat
  checksumPolicy : Nat → String
  numbered : count < 2 ^ 32

/-- The tag of a part is its digest.  The CPU path does not pass the policy
on. -/
def PartsPlan.Digests (plan : PartsPlan) (part : Nat) : Prop :=
  plan.flow = .gpuDirect ∧ plan.checksumPolicy part = "md5"

instance (plan : PartsPlan) (part : Nat) : Decidable (plan.Digests part) :=
  inferInstanceAs (Decidable (_ ∧ _))

/-- How far an attempt has come. -/
inductive Attempt
  | unsent
  | sent
  | found (upload : UploadPtr)
  | written (upload : UploadPtr) (bytes : Bytes)
  | tagged (upload : UploadPtr) (etag : String)
  | finished (answer : Gateway.Result String)

/-- What an attempt on the gateway holds: the upload of the plan, and a tag that
is not empty. -/
def Attempt.Proper (upload : UploadPtr) : Attempt → Prop
  | .found other => other = upload
  | .written other _ => other = upload
  | .tagged other etag => other = upload ∧ etag ≠ ""
  | .finished (.ok etag) => etag ≠ ""
  | .unsent => True
  | .sent => True
  | .finished (.error _) => True

/-- An `UploadPart` of the application: not called yet, in an attempt, or
returned. -/
inductive UploadCall
  | waiting
  | trying (attempt : Nat)
  | succeeded (attempt : Nat) (etag : String)
  | failed (error : Error)
  deriving DecidableEq

/-- The attempt that the client waits for, or has taken the answer of. -/
def UploadCall.current : UploadCall → Option Nat
  | .trying attempt => some attempt
  | .succeeded attempt _ => some attempt
  | .waiting => none
  | .failed _ => none

/-- The gateway, the handle, the calls of the parts, and the attempts of each. -/
structure PartUploads where
  media : Media
  handle : MultipartUpload
  calls : Nat → UploadCall
  attempts : Nat × Nat → Attempt

namespace PartUploads

/-- Nothing is uploaded yet. -/
def init (media : Media) (maxPartSize : Nat) : PartUploads where
  media := media
  handle := { maxPartSize, parts := [], bytesCommitted := 0, finished := false }
  calls := fun _ => .waiting
  attempts := fun _ => .unsent

def setCall (state : PartUploads) (part : Nat) (call : UploadCall) :
    PartUploads :=
  { state with calls := Function.update state.calls part call }

def setAttempt (state : PartUploads) (name : Nat × Nat) (attempt : Attempt) :
    PartUploads :=
  { state with attempts := Function.update state.attempts name attempt }

section Setters

variable (state : PartUploads)

@[simp] theorem setCall_media (part : Nat) (call : UploadCall) :
    (state.setCall part call).media = state.media := rfl

@[simp] theorem setCall_handle (part : Nat) (call : UploadCall) :
    (state.setCall part call).handle = state.handle := rfl

@[simp] theorem setCall_attempts (part : Nat) (call : UploadCall) :
    (state.setCall part call).attempts = state.attempts := rfl

@[simp] theorem setCall_calls (part : Nat) (call : UploadCall) :
    (state.setCall part call).calls =
      Function.update state.calls part call := rfl

@[simp] theorem setAttempt_media (name : Nat × Nat) (attempt : Attempt) :
    (state.setAttempt name attempt).media = state.media := rfl

@[simp] theorem setAttempt_handle (name : Nat × Nat) (attempt : Attempt) :
    (state.setAttempt name attempt).handle = state.handle := rfl

@[simp] theorem setAttempt_calls (name : Nat × Nat) (attempt : Attempt) :
    (state.setAttempt name attempt).calls = state.calls := rfl

@[simp] theorem setAttempt_attempts (name : Nat × Nat) (attempt : Attempt) :
    (state.setAttempt name attempt).attempts =
      Function.update state.attempts name attempt := rfl

end Setters

/-! ## The client -/

/-- The application calls `UploadPart`. -/
def uploadPart (plan : PartsPlan) (state : PartUploads) (part : Nat) :
    Option PartUploads :=
  if 1 ≤ part ∧ part ≤ plan.count then
    match state.calls part with
    | .waiting =>
        match state.handle.checkPart (plan.size part) with
        | some error => some (state.setCall part (.failed error))
        | none => some (state.setCall part (.trying 0))
    | _ => none
  else none

/-- The attempt opens its session and sends its request. -/
def send (state : PartUploads) (part : Nat) : Option PartUploads :=
  match state.calls part with
  | .trying attempt =>
      match state.attempts (part, attempt) with
      | .unsent => some (state.setAttempt (part, attempt) .sent)
      | _ => none
  | _ => none

/-- The answer of the attempt arrives, and the part is recorded. -/
def accept (plan : PartsPlan) (state : PartUploads) (part : Nat) :
    Option PartUploads :=
  match state.calls part with
  | .trying attempt =>
      match state.attempts (part, attempt) with
      | .finished (.ok etag) =>
          some ({ state with
            handle := state.handle.recordUploadedPart part etag
              (plan.size part) }.setCall part (.succeeded attempt etag))
      | _ => none
  | _ => none

/-- The attempt ends with an error at the client.  The next one is made after an
error that may be retried. -/
def giveUp
    (policy : RetryPolicy)
    (state : PartUploads)
    (part : Nat)
    (error : Error) : Option PartUploads :=
  match state.calls part with
  | .trying attempt =>
      if error.retryable = true ∧ attempt + 1 < policy.maxAttempts then
        some (state.setCall part (.trying (attempt + 1)))
      else some (state.setCall part (.failed error))
  | _ => none

/-! ## The gateway -/

/-- A request is lost, or its session is not found. -/
def refuse
    (state : PartUploads)
    (name : Nat × Nat)
    (error : Gateway.Error) : Option PartUploads :=
  match state.attempts name with
  | .sent => some (state.setAttempt name (.finished (.error error)))
  | _ => none

/-- A request arrives, and its upload is looked up. -/
def receive (plan : PartsPlan) (state : PartUploads) (name : Nat × Nat) :
    Option PartUploads :=
  match state.attempts name with
  | .sent =>
      match state.media.uploads.lookup plan.uploadId with
      | .error error =>
          some (state.setAttempt name (.finished (.error error)))
      | .ok upload => some (state.setAttempt name (.found upload))
  | _ => none

/-- The bytes of an attempt are pulled and staged. -/
def write
    (plan : PartsPlan)
    (state : PartUploads)
    (name : Nat × Nat)
    (pulled : Gateway.Result Bytes)
    (now : Nat) : Option PartUploads :=
  match state.attempts name with
  | .found upload =>
      match pulled with
      | .error error =>
          some (state.setAttempt name (.finished (.error error)))
      | .ok bytes =>
          match stagePart state.media
              (state.media.uploads.store.objects upload).backendUploadId
              name.1 0 bytes now with
          | (.error error, media, _) =>
              some ({ state with media }.setAttempt name
                (.finished (.error error)))
          | (.ok etag, media, _) =>
              some ({ state with media }.setAttempt name
                (if plan.Digests name.1 then .written upload bytes
                else .tagged upload etag))
  | _ => none

/-- The bytes of an attempt are fed into the digest of its part, which all
attempts of the part share. -/
def digest
    (md5 : Bytes → Bytes)
    (state : PartUploads)
    (name : Nat × Nat) : Option PartUploads :=
  match state.attempts name with
  | .written upload bytes =>
      let fed :=
        ((state.media.md5Ctxs upload).lookup name.1).getD [] ++ bytes
      let media : Media :=
        { state.media with
          md5Ctxs := Function.update state.media.md5Ctxs upload
            ((state.media.md5Ctxs upload).insert name.1 fed) }
      some ({ state with media }.setAttempt name
        (.tagged upload (md5Hex (md5 fed))))
  | _ => none

/-- The part is recorded under the tag of an attempt. -/
def register
    (plan : PartsPlan)
    (state : PartUploads)
    (name : Nat × Nat)
    (now : Nat) : Option PartUploads :=
  match state.attempts name with
  | .tagged upload etag =>
      let media : Media :=
        { state.media with
          uploads := state.media.uploads.registerPart upload name.1 0
            (plan.size name.1) etag now }
      some ({ state with media }.setAttempt name (.finished (.ok etag)))
  | _ => none

/-! ## Runs -/

/-- A step of the client for a part, or of the gateway for an attempt of a
part. -/
inductive Action
  | uploadPart (part : Nat)
  | send (part : Nat)
  | accept (part : Nat)
  | giveUp (part : Nat) (error : Error)
  | refuse (name : Nat × Nat) (error : Gateway.Error)
  | receive (name : Nat × Nat)
  | write (name : Nat × Nat) (pulled : Gateway.Result Bytes) (now : Nat)
  | digest (name : Nat × Nat)
  | register (name : Nat × Nat) (now : Nat)

def step
    (md5 : Bytes → Bytes)
    (policy : RetryPolicy)
    (plan : PartsPlan)
    (state : PartUploads) : Action → Option PartUploads
  | .uploadPart part => uploadPart plan state part
  | .send part => send state part
  | .accept part => accept plan state part
  | .giveUp part error => giveUp policy state part error
  | .refuse name error => refuse state name error
  | .receive name => receive plan state name
  | .write name pulled now => write plan state name pulled now
  | .digest name => digest md5 state name
  | .register name now => register plan state name now

/-- The uploads of the parts of a plan, over any gateway that has the upload. -/
def machine
    (md5 : Bytes → Bytes)
    (policy : RetryPolicy)
    (plan : PartsPlan) : Machine PartUploads Action where
  initial state := ∃ media maxPartSize upload,
    media.uploads.store.find plan.uploadId = some upload ∧
      state = init media maxPartSize
  step := step md5 policy plan

variable
  {md5 : Bytes → Bytes}
  {policy : RetryPolicy}
  {plan : PartsPlan}
  {state next : PartUploads}
  {action : Action}

/-! ## What a step does -/

/-- What a step can do: start or end a call, take the answer of an attempt, let
an attempt go on without a record, or record its part. -/
inductive Moves (plan : PartsPlan) (state : PartUploads) :
    Action → PartUploads → Prop
  | starts (action : Action) (part : Nat)
      (first : 1 ≤ part)
      (last : part ≤ plan.count)
      (waiting : state.calls part = .waiting) :
      Moves plan state action (state.setCall part (.trying 0))
  | fails (action : Action) (part : Nat) (error : Error)
      (first : 1 ≤ part)
      (last : part ≤ plan.count)
      (waiting : state.calls part = .waiting) :
      Moves plan state action (state.setCall part (.failed error))
  | retries (action : Action) (part attempt : Nat)
      (trying : state.calls part = .trying attempt) :
      Moves plan state action
        (state.setCall part (.trying (attempt + 1)))
  | givesUp (action : Action) (part attempt : Nat) (error : Error)
      (trying : state.calls part = .trying attempt) :
      Moves plan state action (state.setCall part (.failed error))
  | accepts (action : Action) (part attempt : Nat) (etag : String)
      (trying : state.calls part = .trying attempt)
      (answered : state.attempts (part, attempt) = .finished (.ok etag)) :
      Moves plan state action ({ state with
        handle := state.handle.recordUploadedPart part etag
          (plan.size part) }.setCall part (.succeeded attempt etag))
  | advances (action : Action) (name : Nat × Nat) (attempt : Attempt)
      (media : Media)
      (kept : media.uploads.store = state.media.uploads.store)
      (opened : state.attempts name = .unsent →
        state.calls name.1 = .trying name.2)
      (running : ∀ answer, state.attempts name ≠ .finished answer)
      (unanswered : ∀ etag, attempt ≠ .finished (.ok etag))
      (proper : ∀ upload,
        state.media.uploads.store.find plan.uploadId = some upload →
          (state.attempts name).Proper upload → attempt.Proper upload) :
      Moves plan state action
        ({ state with media }.setAttempt name attempt)
  | registers (name : Nat × Nat) (upload : UploadPtr) (etag : String)
      (now : Nat)
      (tagged : state.attempts name = .tagged upload etag) :
      Moves plan state (.register name now) ({ state with
        media := { state.media with
          uploads := state.media.uploads.registerPart upload name.1 0
            (plan.size name.1) etag now } }.setAttempt name
          (.finished (.ok etag)))

/-- Staging bytes leaves the registry alone. -/
theorem stagePart_store
    {media after : Media}
    {uploadId : String}
    {partNumber offset now : Nat}
    {source : Bytes}
    {result : Gateway.Result String}
    {call : Option Gateway.Gds.BackendCall}
    (staged : stagePart media uploadId partNumber offset source now =
      (result, after, call)) :
    after.uploads.store = media.uploads.store := by
  rw [stagePart, Prod.mk.injEq, Prod.mk.injEq] at staged
  rw [← staged.2.1]

/-- A part that is staged has a tag that is not empty. -/
theorem stagePart_etag_ne_empty
    {media after : Media}
    {uploadId etag : String}
    {partNumber offset now : Nat}
    {source : Bytes}
    {call : Option Gateway.Gds.BackendCall}
    (staged : stagePart media uploadId partNumber offset source now =
      (.ok etag, after, call)) :
    etag ≠ "" := by
  have answered : (media.uploads.backend.writePart uploadId partNumber offset
      source now).1 = .ok etag := congrArg Prod.fst staged
  obtain ⟨_, named, _⟩ :=
    Gateway.CompositeBackend.writePart_eq_ok (Prod.ext answered rfl)
  rw [named]
  exact Gateway.makePartEtag_ne_empty _ _ _

/-- The application calls, or is refused. -/
theorem moves_of_uploadPart
    {part : Nat}
    (stepped : uploadPart plan state part = some next) :
    Moves plan state action next := by
  revert stepped
  fun_cases uploadPart plan state part <;> intro stepped <;> cases stepped
  case case1 ranged waiting error refused =>
    exact .fails _ _ _ ranged.1 ranged.2 waiting
  case case2 ranged waiting passed =>
    exact .starts _ _ ranged.1 ranged.2 waiting

theorem moves_of_send
    {part : Nat}
    (stepped : send state part = some next) :
    Moves plan state action next := by
  revert stepped
  fun_cases send state part <;> intro stepped <;> cases stepped
  case case1 attempt trying unsent =>
    refine .advances _ _ _ _ rfl (fun _ => trying) ?_ nofun
      (fun _ _ _ => trivial)
    rw [unsent]
    nofun

theorem moves_of_accept
    {part : Nat}
    (stepped : accept plan state part = some next) :
    Moves plan state action next := by
  revert stepped
  fun_cases accept plan state part <;> intro stepped <;> cases stepped
  case case1 attempt trying etag answered =>
    exact .accepts _ _ _ _ trying answered

theorem moves_of_giveUp
    {part : Nat}
    {error : Error}
    (stepped : giveUp policy state part error = some next) :
    Moves plan state action next := by
  revert stepped
  fun_cases giveUp policy state part error <;> intro stepped <;> cases stepped
  case case1 attempt trying retryable => exact .retries _ _ _ trying
  case case2 attempt trying final => exact .givesUp _ _ _ _ trying

/-- An attempt that was sent goes on. -/
theorem moves_of_sent
    {name : Nat × Nat}
    {attempt : Attempt}
    (sent : state.attempts name = .sent)
    (unanswered : ∀ etag, attempt ≠ .finished (.ok etag))
    (proper : ∀ upload,
      state.media.uploads.store.find plan.uploadId = some upload →
        attempt.Proper upload) :
    Moves plan state action (state.setAttempt name attempt) := by
  refine .advances _ _ _ _ rfl ?_ ?_ unanswered
    (fun upload found _ => proper upload found)
  · rw [sent]
    nofun
  · rw [sent]
    nofun

theorem moves_of_refuse
    {name : Nat × Nat}
    {error : Gateway.Error}
    (stepped : refuse state name error = some next) :
    Moves plan state action next := by
  revert stepped
  fun_cases refuse state name error <;> intro stepped <;> cases stepped
  case case1 sent => exact moves_of_sent sent nofun (fun _ _ => trivial)

theorem moves_of_receive
    {name : Nat × Nat}
    (stepped : receive plan state name = some next) :
    Moves plan state action next := by
  revert stepped
  fun_cases receive plan state name <;> intro stepped <;> cases stepped
  case case1 sent error missing =>
    exact moves_of_sent sent nofun (fun _ _ => trivial)
  case case2 sent upload located =>
    refine moves_of_sent sent nofun ?_
    intro other found
    rw [Gateway.State.lookup, found] at located
    cases located
    rfl

theorem moves_of_write
    {name : Nat × Nat}
    {pulled : Gateway.Result Bytes}
    {now : Nat}
    (stepped : write plan state name pulled now = some next) :
    Moves plan state action next := by
  revert stepped
  fun_cases write plan state name pulled now <;> intro stepped <;>
    cases stepped
  case case1 upload found error =>
    refine .advances _ _ _ _ rfl ?_ ?_ nofun (fun _ _ _ => trivial)
    · rw [found]
      nofun
    · rw [found]
      nofun
  case case2 upload found bytes error media call refused =>
    refine .advances _ _ _ _ ?_ ?_ ?_ nofun (fun _ _ _ => trivial)
    · exact stagePart_store refused
    · rw [found]
      nofun
    · rw [found]
      nofun
  case case3 upload found bytes etag media call staged =>
    refine .advances _ _ _ _ ?_ ?_ ?_ ?_ ?_
    · exact stagePart_store staged
    · rw [found]
      nofun
    · rw [found]
      nofun
    · intro answer
      split <;> simp
    · intro other _ proper
      rw [found] at proper
      split
      · exact proper
      · exact ⟨proper, stagePart_etag_ne_empty staged⟩

theorem moves_of_digest
    {name : Nat × Nat}
    (stepped : digest md5 state name = some next) :
    Moves plan state action next := by
  revert stepped
  fun_cases digest md5 state name <;> intro stepped <;> cases stepped
  case case1 upload bytes written fed media =>
    refine .advances _ _ _ _ rfl ?_ ?_ nofun ?_
    · rw [written]
      nofun
    · rw [written]
      nofun
    · intro other _ proper
      rw [written] at proper
      exact ⟨proper, md5Hex_ne_empty _⟩

theorem moves_of_register
    {name : Nat × Nat}
    {now : Nat}
    (stepped : register plan state name now = some next) :
    Moves plan state (.register name now) next := by
  revert stepped
  fun_cases register plan state name now <;> intro stepped <;> cases stepped
  case case1 upload etag tagged media => exact .registers _ _ _ _ tagged

/-- A step of the machine is one of these. -/
theorem moves_of_step
    (stepped : step md5 policy plan state action = some next) :
    Moves plan state action next := by
  cases action with
  | uploadPart part => exact moves_of_uploadPart stepped
  | send part => exact moves_of_send stepped
  | accept part => exact moves_of_accept stepped
  | giveUp part error => exact moves_of_giveUp stepped
  | refuse name error => exact moves_of_refuse stepped
  | receive name => exact moves_of_receive stepped
  | write name pulled now => exact moves_of_write stepped
  | digest name => exact moves_of_digest stepped
  | register name now => exact moves_of_register stepped

/-! ## One attempt alone -/

/-- A call that is allowed starts its first attempt. -/
theorem step_uploadPart
    {part : Nat}
    (first : 1 ≤ part)
    (last : part ≤ plan.count)
    (waiting : state.calls part = .waiting)
    (passed : state.handle.checkPart (plan.size part) = none) :
    (machine md5 policy plan).step state (.uploadPart part) =
      some (state.setCall part (.trying 0)) := by
  simp only [machine, step, uploadPart, waiting, passed]
  rw [if_pos ⟨first, last⟩]

theorem step_send
    {part attempt : Nat}
    (trying : state.calls part = .trying attempt)
    (unsent : state.attempts (part, attempt) = .unsent) :
    (machine md5 policy plan).step state (.send part) =
      some (state.setAttempt (part, attempt) .sent) := by
  simp only [machine, step, send, trying, unsent]

theorem step_receive
    {name : Nat × Nat}
    {upload : UploadPtr}
    (sent : state.attempts name = .sent)
    (located : state.media.uploads.lookup plan.uploadId = .ok upload) :
    (machine md5 policy plan).step state (.receive name) =
      some (state.setAttempt name (.found upload)) := by
  simp only [machine, step, receive, sent, located]

theorem step_receive_refused
    {name : Nat × Nat}
    {error : Gateway.Error}
    (sent : state.attempts name = .sent)
    (unknown : state.media.uploads.lookup plan.uploadId = .error error) :
    (machine md5 policy plan).step state (.receive name) =
      some (state.setAttempt name (.finished (.error error))) := by
  simp only [machine, step, receive, sent, unknown]

theorem step_accept
    {part attempt : Nat}
    {etag : String}
    (trying : state.calls part = .trying attempt)
    (answered : state.attempts (part, attempt) = .finished (.ok etag)) :
    (machine md5 policy plan).step state (.accept part) =
      some ({ state with
        handle := state.handle.recordUploadedPart part etag
          (plan.size part) }.setCall part (.succeeded attempt etag)) := by
  simp only [machine, step, accept, trying, answered]

/-- How far an attempt has come once its bytes are staged, or do not fit. -/
def afterStaging
    (plan : PartsPlan)
    (part : Nat)
    (upload : UploadPtr)
    (bytes : Bytes) : Gateway.Result String → Attempt
  | .error error => .finished (.error error)
  | .ok etag =>
      if plan.Digests part then .written upload bytes else .tagged upload etag

theorem step_write
    {name : Nat × Nat}
    {upload : UploadPtr}
    {bytes : Bytes}
    {now : Nat}
    {outcome : Gateway.Result String}
    {media : Media}
    {call : Option Gateway.Gds.BackendCall}
    (found : state.attempts name = .found upload)
    (staged : stagePart state.media
      (state.media.uploads.store.objects upload).backendUploadId name.1 0 bytes
      now = (outcome, media, call)) :
    (machine md5 policy plan).step state (.write name (.ok bytes) now) =
      some ({ state with media }.setAttempt name
        (afterStaging plan name.1 upload bytes outcome)) := by
  simp only [machine, step, write, found, staged]
  cases outcome <;> rfl

theorem step_digest
    {name : Nat × Nat}
    {upload : UploadPtr}
    {bytes : Bytes}
    (written : state.attempts name = .written upload bytes) :
    (machine md5 policy plan).step state (.digest name) =
      some ({ state with
        media := { state.media with
          md5Ctxs := Function.update state.media.md5Ctxs upload
            ((state.media.md5Ctxs upload).insert name.1
              (((state.media.md5Ctxs upload).lookup name.1).getD [] ++
                bytes)) } }.setAttempt name (.tagged upload (md5Hex (md5
          (((state.media.md5Ctxs upload).lookup name.1).getD [] ++
            bytes))))) := by
  simp only [machine, step, digest, written]

/-- The last step of an attempt. -/
theorem step_register
    {name : Nat × Nat}
    {upload : UploadPtr}
    {etag : String}
    (now : Nat)
    (tagged : state.attempts name = .tagged upload etag) :
    (machine md5 policy plan).step state (.register name now) =
      some ({ state with
        media := { state.media with
          uploads := state.media.uploads.registerPart upload name.1 0
            (plan.size name.1) etag now } }.setAttempt name
          (.finished (.ok etag))) := by
  simp only [machine, step, register, tagged]

/-- The steps of an attempt on the GPU path, one after the other, do what the
executor does: the answer is that of the chunk of the part, and the gateway is
left as the executor leaves it. -/
theorem attempt_alone
    (options : Gateway.Gds.GdsOptions)
    (answers : Gateway.Gds.CuObjAnswers)
    (backendNow now : Nat)
    {name : Nat × Nat}
    (flow : plan.flow = .gpuDirect)
    (nonempty : plan.size name.1 ≠ 0)
    (fits : plan.size name.1 ≤ options.maxChunkBytes)
    (sent : state.attempts name = .sent) :
    ∃ labels final,
      (machine md5 policy plan).Path Machine.always state labels final ∧
        (final.attempts name, final.media) =
          let (result, media, _) := Gateway.Gds.uploadPart md5 options
            state.media plan.uploadId name.1 0 (plan.size name.1)
            (plan.checksumPolicy name.1) answers backendNow now
          (.finished (result.map (·.partEtag)), media) := by
  rw [Gateway.Gds.uploadPart]
  cases located : state.media.uploads.lookup plan.uploadId with
  | error error =>
      have received : (machine md5 policy plan).step _ _ = _ :=
        step_receive_refused sent located
      refine ⟨_, _, .cons trivial received .nil, ?_⟩
      rw [setAttempt_attempts, Function.update_self]
      rfl
  | ok upload =>
      have received : (machine md5 policy plan).step _ _ = _ :=
        step_receive sent located
      dsimp only
      rw [Gateway.Gds.putPart, if_neg (Nat.not_lt.mpr fits), if_neg nonempty]
      cases Gateway.Gds.pullChunk answers with
      | error error =>
          have written : (machine md5 policy plan).step
              (state.setAttempt name (.found upload))
                (.write name (.error error) backendNow) =
              some ((state.setAttempt name (.found upload)).setAttempt name
                (.finished (.error error))) := by
            simp [machine, step, write]
          refine ⟨_, _, .cons trivial received (.cons trivial written .nil), ?_⟩
          rw [setAttempt_attempts, Function.update_self]
          rfl
      | ok bytes =>
          dsimp only
          rcases staged : stagePart state.media
              (state.media.uploads.store.objects upload).backendUploadId
              name.1 0 bytes backendNow with ⟨outcome, media, call⟩
          have found : (state.setAttempt name (.found upload)).attempts name =
              .found upload := Function.update_self name _ _
          have written : (machine md5 policy plan).step _ _ = _ :=
            step_write found staged
          cases outcome with
          | error error =>
              refine ⟨_, _, .cons trivial received
                (.cons trivial written .nil), ?_⟩
              rw [setAttempt_attempts, Function.update_self]
              rfl
          | ok etag =>
              dsimp only
              by_cases digests : plan.checksumPolicy name.1 = "md5"
              · rw [afterStaging, if_pos ⟨flow, digests⟩] at written
                rw [if_pos digests]
                refine ⟨_, _, .cons trivial received (.cons trivial written
                  (.cons trivial (step_digest (Function.update_self _ _ _))
                    (.cons trivial (step_register now
                      (Function.update_self _ _ _)) .nil))), ?_⟩
                rw [setAttempt_attempts, Function.update_self]
                rfl
              · rw [afterStaging, if_neg fun both => digests both.2] at written
                rw [if_neg digests]
                refine ⟨_, _, .cons trivial received (.cons trivial written
                  (.cons trivial (step_register now
                    (Function.update_self _ _ _)) .nil)), ?_⟩
                rw [setAttempt_attempts, Function.update_self]
                rfl

end PartUploads

end Client
end TurboAccess

import TurboAccess.EndToEnd.Writers
import TurboAccess.Gateway.Session.KeyedCreation

/-!
# Objects are written whole

However the requests of the writers are delayed, repeated and lost, and however
the handlers of the gateway interleave, an object that clients write has the
bytes that it had at first, or exactly those of one of the writes; and from the
moment a client reports success on, it has those of a write, and is registered
with the length of one.

The invariant ties what is on its way to the jobs of the clients: sessions of
one name are of one object, so that a chunk leads to the object of the client
that has sent it, and brings all its bytes.
-/

namespace TurboAccess
namespace EndToEnd

open Client.Gds (TransferOutcome)
open Client.GdsTransferPath (PutCall)
open Gateway (CompositeBackend MemoryDataStore OpenSessionParams Session
  SessionPool.Moves SessionPtr SessionStore makeKey)
open Gateway.Gds (Config ControlPlane CuObjAnswers Extends Frame GdsChunkRequest
  Input PutFrame PutGrounded PutInput PutSteps SameObject Touched Transfer
  advancePut media_transferGet named_of_resolve openHook openHook_eq_ok
  prepareGdsChunk pullChunk_eq_ok putSteps_of_advancePut receiveChunk
  registerChunk resolveForGdsChunk resolve_of_prepareGdsChunk storeBytes
  storeBytes_cases storeChunk totalSize transferChunk transferGet transferPart)

/-! ## The property -/

/-- An object has the bytes of one of its writes. -/
def Written
    (jobs : Nat → Option PutJob)
    (backend : CompositeBackend)
    (id : String) : Prop :=
  ∃ client job, jobs client = some job ∧ job.object = id ∧
    backend.data.body id = job.payload

/-- An object is registered with the length of one of its writes. -/
def Registered
    (jobs : Nat → Option PutJob)
    (backend : CompositeBackend)
    (id : String) : Prop :=
  ∃ client job metadata, jobs client = some job ∧ job.object = id ∧
    backend.index.entries.lookup id = some metadata ∧
      metadata.contentLength = job.payload.length

/-- The writers and their gateway. -/
abbrev PutNetwork : Type :=
  Network Host PutCall PutCall.Answer (Client.Result TransferOutcome)

/-- The backend of the gateway. -/
abbrev backendOf (network : PutNetwork) : CompositeBackend :=
  network.service.pool.shared.backend

section Invariant

variable (jobs : Nat → Option PutJob) (memory : String → Bytes)

/-- Objects are left alone or written. -/
structure Progress (backend next : CompositeBackend) : Prop where
  body : ∀ id, Target jobs id →
    next.data.body id = backend.data.body id ∨ Written jobs next id
  entry : ∀ id, Target jobs id →
    next.index.entries.lookup id = backend.index.entries.lookup id ∨
      Registered jobs next id

/-- Sessions keep what they are for, and objects are left alone or written. -/
structure Grows (plane next : ControlPlane) : Prop where
  sessions : Extends plane.sessions next.sessions
  body : ∀ id, Target jobs id →
    next.backend.data.body id = plane.backend.data.body id ∨
      Written jobs next.backend id
  entry : ∀ id, Target jobs id →
    next.backend.index.entries.lookup id =
        plane.backend.index.entries.lookup id ∨
      Registered jobs next.backend id

/-- Sessions of the objects announce no size, and sessions with a name in common
are of one object. -/
structure SessionsSound (sessions : SessionStore) : Prop where
  unsized : ∀ ptr < sessions.allocated,
    Target jobs (objectOf (sessions.objects ptr)) →
      (sessions.objects ptr).expectedSize = 0
  alike : ∀ first < sessions.allocated, ∀ second < sessions.allocated,
    ((sessions.objects first).sessionId = (sessions.objects second).sessionId ∨
      (sessions.objects first).ticket = (sessions.objects second).ticket) →
      objectOf (sessions.objects first) = objectOf (sessions.objects second)

/-- There is a session of an object with an identifier and a ticket. -/
def Told
    (sessions : SessionStore)
    (id : String)
    (names : String × String) : Prop :=
  ∃ ptr < sessions.allocated, (sessions.objects ptr).sessionId = names.1 ∧
    (sessions.objects ptr).ticket = names.2 ∧
      objectOf (sessions.objects ptr) = id

/-- A chunk that brings all bytes of a job. -/
structure Fills (job : PutJob) (chunk : GdsChunkRequest) : Prop where
  offset : chunk.chunkOffset = 0
  size : chunk.chunkSize = job.payload.length
  token : memory chunk.rdmaToken = job.payload

/-- What is on its way from a client. -/
def CallSound (sessions : SessionStore) (client : Nat) : PutCall → Prop
  | .openSession opening => ∃ job, jobs client = some job ∧ Opens job opening
  | .gdsPut chunk =>
      ∃ job, jobs client = some job ∧ Fills memory job chunk ∧
        chunk.uploadId = "" ∧
          Told sessions job.object (chunk.sessionId, chunk.transferTicket)
  | _ => True

/-- The request of a handler that opens a session is that of its client. -/
def Asked
    (serving : Option (Nat × PutCall))
    (req : OpenSessionParams) : Prop :=
  ∀ client opening, serving = some (client, .openSession opening) →
    ∃ job, jobs client = some job ∧
      job.object = makeKey req.bucket req.objectKey

/-- A session that a handler has made or found is of the object of its request,
and that is the object of the client it works for. -/
structure OfRequest
    (plane : ControlPlane)
    (serving : Option (Nat × PutCall))
    (req : OpenSessionParams)
    (ptr : SessionPtr) : Prop where
  exists_ : ptr < plane.sessions.allocated
  object : objectOf (plane.sessions.objects ptr) =
    makeKey req.bucket req.objectKey
  served : Asked jobs serving req

/-- A handler with a session works for the client whose object it is. -/
structure OfClient
    (plane : ControlPlane)
    (serving : Option (Nat × PutCall))
    (ptr : SessionPtr) : Prop where
  exists_ : ptr < plane.sessions.allocated
  served : ∀ client chunk, serving = some (client, .gdsPut chunk) →
    ∃ job, jobs client = some job ∧
      job.object = objectOf (plane.sessions.objects ptr)

/-- What a handler has in hand. -/
def FrameSound
    (plane : ControlPlane)
    (serving : Option (Nat × PutCall)) : PutFrame → Prop
  | .call (.call (.creating req ptr _)) => OfRequest jobs plane serving req ptr
  | .call (.call (.created req (.ok ptr))) =>
      OfRequest jobs plane serving req ptr
  | .call (.opened (.ok ptr)) => ∃ req, OfRequest jobs plane serving req ptr
  | .call (.prepared .put request ptr) =>
      OfClient jobs plane serving ptr ∧
        ((∃ client chunk, serving = some (client, .gdsPut chunk)) →
          request.uploadId = "") ∧
        (request.uploadId = "" →
          Target jobs (objectOf (plane.sessions.objects ptr)) →
            ∃ client job, jobs client = some job ∧
              job.object = objectOf (plane.sessions.objects ptr) ∧
                Fills memory job request)
  | .call (.prepared .get _ _) =>
      ¬∃ client chunk, serving = some (client, .gdsPut chunk)
  | .registering _ ptr metadata =>
      OfClient jobs plane serving ptr ∧
        (Target jobs (objectOf (plane.sessions.objects ptr)) →
          Written jobs plane.backend
              (objectOf (plane.sessions.objects ptr)) ∧
            ∃ client job, jobs client = some job ∧
              job.object = objectOf (plane.sessions.objects ptr) ∧
                metadata.contentLength = job.payload.length)
  | .call (.answered (.ok _)) =>
      ∀ client chunk, serving = some (client, .gdsPut chunk) →
        ∃ job, jobs client = some job ∧
          Written jobs plane.backend job.object ∧
            Registered jobs plane.backend job.object
  | _ => True

/-- What a client was given. -/
structure PositionSound
    (plane : ControlPlane)
    (job : PutJob)
    (position : Position) : Prop where
  sessions : ∀ names ∈ position.sessions,
    Told plane.sessions job.object names
  tokens : ∀ token ∈ position.tokens, memory token = job.payload
  stored : position.stored = true →
    Written jobs plane.backend job.object ∧
      Registered jobs plane.backend job.object

/-- The invariant of the network. -/
structure Sound
    (first : CompositeBackend)
    (host : Host)
    (sent : List (Nat × PutCall))
    (positions : Nat → Position) : Prop where
  grounded : PutGrounded host.pool
  sessions : SessionsSound jobs host.pool.shared.sessions
  sent : ∀ client call, (client, call) ∈ sent →
    CallSound jobs memory host.pool.shared.sessions client call
  frames : ∀ thread, FrameSound jobs memory host.pool.shared
    (host.serving thread) (host.pool.threads thread)
  positions : ∀ client job, jobs client = some job →
    PositionSound jobs memory host.pool.shared job (positions client)
  whole : ∀ id, Target jobs id →
    host.pool.shared.backend.data.body id = first.data.body id ∨
      Written jobs host.pool.shared.backend id

end Invariant

section Preservation

variable
  {jobs : Nat → Option PutJob}
  {memory : String → Bytes}
  {plane next : ControlPlane}
  {first : CompositeBackend}

/-! ### What grows keeps what is known -/

/-- The object of a session does not change. -/
theorem objectOf_of_sameButState
    {session other : Session}
    (same : session.SameButState other) :
    objectOf other = objectOf session := by
  obtain ⟨state, rfl⟩ := same
  rfl

theorem Told.of_extends
    {sessions later : SessionStore}
    {id : String}
    {names : String × String}
    (told : Told sessions id names)
    (extends_ : Extends sessions later) :
    Told later id names := by
  obtain ⟨ptr, exists_, identified, ticketed, object⟩ := told
  have same := extends_.objects ptr exists_
  exact ⟨ptr, exists_.trans_le extends_.allocated,
    same.sessionId.trans identified, same.ticket.trans ticketed,
    (objectOf_of_sameButState same).trans object⟩

namespace Progress

variable {backend later : CompositeBackend}

/-- What is written stays written. -/
theorem written
    (progress : Progress jobs backend later)
    {id : String}
    (written : Written jobs backend id) :
    Written jobs later id := by
  obtain ⟨client, job, known, object, body⟩ := written
  rcases progress.body id ⟨client, job, known, object⟩ with same | written
  · exact ⟨client, job, known, object, same.trans body⟩
  · exact written

/-- What is registered stays registered. -/
theorem registered
    (progress : Progress jobs backend later)
    {id : String}
    (registered : Registered jobs backend id) :
    Registered jobs later id := by
  obtain ⟨client, job, metadata, known, object, found, length⟩ := registered
  rcases progress.entry id ⟨client, job, known, object⟩ with same | registered
  · exact ⟨client, job, metadata, known, object, same.trans found, length⟩
  · exact registered

theorem of_sameObject
    (same : ∀ id, Target jobs id → SameObject id backend later) :
    Progress jobs backend later where
  body := fun id target => .inl (same id target).body
  entry := fun id target => .inl (same id target).entry

/-- An object that was left alone or written still is so. -/
theorem whole
    {first : CompositeBackend}
    (progress : Progress jobs backend later)
    (whole : ∀ id, Target jobs id →
      backend.data.body id = first.data.body id ∨ Written jobs backend id)
    (id : String)
    (target : Target jobs id) :
    later.data.body id = first.data.body id ∨ Written jobs later id := by
  rcases progress.body id target with same | written
  · rcases whole id target with initially | written
    · exact .inl (same.trans initially)
    · exact .inr (progress.written written)
  · exact .inr written

end Progress

namespace Grows

theorem progress (grows : Grows jobs plane next) :
    Progress jobs plane.backend next.backend :=
  ⟨grows.body, grows.entry⟩

theorem written
    (grows : Grows jobs plane next)
    {id : String}
    (written : Written jobs plane.backend id) :
    Written jobs next.backend id :=
  grows.progress.written written

theorem registered
    (grows : Grows jobs plane next)
    {id : String}
    (registered : Registered jobs plane.backend id) :
    Registered jobs next.backend id :=
  grows.progress.registered registered

theorem of_sameObject
    (extends_ : Extends plane.sessions next.sessions)
    (same : ∀ id, Target jobs id →
      SameObject id plane.backend next.backend) :
    Grows jobs plane next where
  sessions := extends_
  body := fun id target => .inl (same id target).body
  entry := fun id target => .inl (same id target).entry

theorem objectOf
    (grows : Grows jobs plane next)
    {ptr : SessionPtr}
    (exists_ : ptr < plane.sessions.allocated) :
    EndToEnd.objectOf (next.sessions.objects ptr) =
      EndToEnd.objectOf (plane.sessions.objects ptr) :=
  objectOf_of_sameButState (grows.sessions.objects ptr exists_)

end Grows

theorem CallSound.of_extends
    {sessions later : SessionStore}
    {client : Nat}
    {call : PutCall}
    (sound : CallSound jobs memory sessions client call)
    (extends_ : Extends sessions later) :
    CallSound jobs memory later client call := by
  cases call with
  | gdsPut chunk =>
      obtain ⟨job, known, fills, object, told⟩ := sound
      exact ⟨job, known, fills, object, told.of_extends extends_⟩
  | openSession | now | randomWord | acquireToken | abortSession => exact sound

theorem OfRequest.grows
    {serving : Option (Nat × PutCall)}
    {req : OpenSessionParams}
    {ptr : SessionPtr}
    (sound : OfRequest jobs plane serving req ptr)
    (grows : Grows jobs plane next) :
    OfRequest jobs next serving req ptr where
  exists_ := sound.exists_.trans_le grows.sessions.allocated
  object := (grows.objectOf sound.exists_).trans sound.object
  served := sound.served

theorem OfClient.grows
    {serving : Option (Nat × PutCall)}
    {ptr : SessionPtr}
    (sound : OfClient jobs plane serving ptr)
    (grows : Grows jobs plane next) :
    OfClient jobs next serving ptr where
  exists_ := sound.exists_.trans_le grows.sessions.allocated
  served := by
    rw [grows.objectOf sound.exists_]
    exact sound.served

theorem FrameSound.grows
    {serving : Option (Nat × PutCall)}
    {frame : PutFrame}
    (sound : FrameSound jobs memory plane serving frame)
    (grows : Grows jobs plane next) :
    FrameSound jobs memory next serving frame := by
  revert sound
  fun_cases FrameSound jobs memory plane serving frame <;> intro sound
  case case1 | case2 => exact OfRequest.grows sound grows
  case case3 =>
    obtain ⟨req, sound⟩ := sound
    exact ⟨req, sound.grows grows⟩
  case case4 request ptr =>
    obtain ⟨client, object, fills⟩ := sound
    refine ⟨client.grows grows, object, ?_⟩
    rw [grows.objectOf client.exists_]
    exact fills
  case case5 => exact sound
  case case6 request ptr metadata =>
    obtain ⟨client, stored⟩ := sound
    refine ⟨client.grows grows, ?_⟩
    rw [grows.objectOf client.exists_]
    intro target
    exact ⟨grows.written (stored target).1, (stored target).2⟩
  case case7 =>
    intro client chunk served
    obtain ⟨job, known, written, registered⟩ := sound client chunk served
    exact ⟨job, known, grows.written written, grows.registered registered⟩
  case case8 =>
    unfold FrameSound
    split <;> first | trivial | simp_all

theorem PositionSound.grows
    {job : PutJob}
    {position : Position}
    (sound : PositionSound jobs memory plane job position)
    (grows : Grows jobs plane next) :
    PositionSound jobs memory next job position where
  sessions := fun names member =>
    (sound.sessions names member).of_extends grows.sessions
  tokens := sound.tokens
  stored := fun stored =>
    ⟨grows.written (sound.stored stored).1,
      grows.registered (sound.stored stored).2⟩

/-- A step of a handler that lets things grow keeps the invariant, when the
sessions stay sound and the handler knows what it has in hand. -/
theorem Sound.advance
    {host : Host}
    {sent : List (Nat × PutCall)}
    {positions : Nat → Position}
    {thread : Nat}
    {frame : PutFrame}
    {serving : Option (Nat × PutCall)}
    (sound : Sound jobs memory first host sent positions)
    (grows : Grows jobs host.pool.shared next)
    (grounded : PutGrounded
      ⟨next, Function.update host.pool.threads thread frame⟩)
    (sessions : SessionsSound jobs next.sessions)
    (hand : FrameSound jobs memory next serving frame) :
    Sound jobs memory first
      ⟨⟨next, Function.update host.pool.threads thread frame⟩,
        Function.update host.serving thread serving⟩ sent positions where
  grounded := grounded
  sessions := sessions
  sent := fun client call member =>
    (sound.sent client call member).of_extends grows.sessions
  frames := by
    intro other
    by_cases same : other = thread
    · subst same
      simpa using hand
    · simpa [Function.update_of_ne same] using
        (sound.frames other).grows grows
  positions := fun client job known =>
    (sound.positions client job known).grows grows
  whole := grows.progress.whole sound.whole

/-! ### The sessions -/

theorem SessionsSound.of_extends
    {sessions later : SessionStore}
    (sound : SessionsSound jobs sessions)
    (extends_ : Extends sessions later)
    (allocated : later.allocated = sessions.allocated) :
    SessionsSound jobs later where
  unsized := by
    intro ptr exists_ target
    rw [allocated] at exists_
    obtain ⟨state, same⟩ := extends_.objects ptr exists_
    rw [same] at target ⊢
    exact sound.unsized ptr exists_ target
  alike := by
    intro first firstExists second secondExists named
    rw [allocated] at firstExists secondExists
    obtain ⟨_, sameFirst⟩ := extends_.objects first firstExists
    obtain ⟨_, sameSecond⟩ := extends_.objects second secondExists
    rw [sameFirst, sameSecond] at named ⊢
    exact sound.alike first firstExists second secondExists named

/-- A new session is told apart from those of other objects. -/
theorem SessionsSound.allocate
    {sessions : SessionStore}
    {req : OpenSessionParams}
    {draw : Gateway.Draw}
    (sound : SessionsSound jobs sessions)
    (missed : sessions.lookupKey req = none)
    (distinguished : Distinguished sessions req draw)
    (unsized : Target jobs (makeKey req.bucket req.objectKey) →
      req.expectedSize = 0) :
    SessionsSound jobs (sessions.allocate req draw).2 := by
  have own : (sessions.allocate req draw).2.objects sessions.allocated =
      sessions.newSession req draw := Function.update_self _ _ _
  have older : ∀ ptr < sessions.allocated,
      (sessions.allocate req draw).2.objects ptr = sessions.objects ptr :=
    fun ptr exists_ => Function.update_of_ne exists_.ne _ _
  have cases_ : ∀ ptr < (sessions.allocate req draw).2.allocated,
      ptr < sessions.allocated ∨ ptr = sessions.allocated :=
    fun ptr exists_ => Nat.lt_or_eq_of_le (Nat.le_of_lt_succ exists_)
  constructor
  · intro ptr exists_ target
    rcases cases_ ptr exists_ with exists_ | rfl
    · rw [older ptr exists_] at target ⊢
      exact sound.unsized ptr exists_ target
    · rw [own] at target ⊢
      exact unsized target
  · intro first firstExists second secondExists named
    rcases cases_ first firstExists with firstExists | rfl <;>
      rcases cases_ second secondExists with secondExists | rfl
    · rw [older first firstExists, older second secondExists] at named ⊢
      exact sound.alike first firstExists second secondExists named
    · rw [older first firstExists, own] at named ⊢
      exact distinguished missed first firstExists named
    · rw [older second secondExists, own] at named ⊢
      exact (distinguished missed second secondExists
        (named.imp Eq.symm Eq.symm)).symm
    · rfl

/-- A section of the session store keeps the sessions sound. -/
theorem SessionsSound.moves
    {sessions later : SessionStore}
    {before after : Gateway.SessionPool.Frame}
    {input : Gateway.SessionPool.Input}
    (sound : SessionsSound jobs sessions)
    (moved : Gateway.SessionPool.advance sessions before input =
      some (later, after))
    (creates : ∀ req draw, input = .create req draw → before = .idle →
      Distinguished sessions req draw ∧
        (Target jobs (makeKey req.bucket req.objectKey) →
          req.expectedSize = 0)) :
    SessionsSound jobs later := by
  have moves := Gateway.SessionPool.moves_of_advance moved
  rcases moves.allocated_cases with same | ⟨req, _, _, rfl, -, rfl⟩
  · exact sound.of_extends (.of_moves moves) same
  · obtain ⟨draw, rfl, missed⟩ := Gateway.SessionPool.advance_eq_made moved
    have allocates : (sessions.allocate req draw).2 = later := by
      rw [Gateway.SessionPool.advance, missed] at moved
      cases moved
      rfl
    obtain ⟨distinguished, unsized⟩ := creates req draw rfl rfl
    exact allocates ▸ sound.allocate missed distinguished unsized

/-! ### What a handler takes up -/

/-- What is known of a request that a handler begins to work on. -/
def Begins
    (jobs : Nat → Option PutJob)
    (memory : String → Bytes)
    (plane : ControlPlane)
    (serving : Option (Nat × PutCall)) : PutInput → Prop
  | .call (.session (.create req _)) =>
      Asked jobs serving req ∧
        (Target jobs (makeKey req.bucket req.objectKey) →
          req.expectedSize = 0)
  | .call (.chunk .put request _) =>
      ∀ ptr, resolveForGdsChunk plane.sessions request.sessionId
          request.transferTicket = some ptr →
        FrameSound jobs memory plane serving
          (.call (.prepared .put request ptr))
  | .call (.chunk .get _ _) =>
      ¬∃ client chunk, serving = some (client, .gdsPut chunk)
  | .call (.others media) =>
      ∀ id, Target jobs id →
        SameObject id plane.backend media.uploads.backend
  | _ => True

/-- The request of a client leads to the object of the client. -/
theorem begins_of_takesUp
    {client : Nat}
    {call : PutCall}
    {input : PutInput}
    (named : plane.sessions.Named)
    (sessions : SessionsSound jobs plane.sessions)
    (sound : CallSound jobs memory plane.sessions client call)
    (takesUp : TakesUp call input) :
    Begins jobs memory plane (some (client, call)) input := by
  revert takesUp
  fun_cases TakesUp call input
  all_goals intro takesUp
  case case1 opening req draw =>
    subst takesUp
    obtain ⟨job, known, opens⟩ := sound
    have object : job.object =
        makeKey (arrives opening).bucket (arrives opening).objectKey := by
      rw [PutJob.object, ← opens.bucket, ← opens.key]
      rfl
    refine ⟨?_, ?_⟩
    · intro other request same
      cases same
      exact ⟨job, known, object⟩
    · intro _
      change opening.length.getD 0 = 0
      rw [opens.length]
      rfl
  case case2 chunk request available =>
    subst takesUp
    obtain ⟨job, known, fills, whole, told⟩ := sound
    intro ptr resolved
    obtain ⟨exists_, sharesName⟩ := named_of_resolve named resolved
    obtain ⟨holder, holderExists, identified, ticketed, object⟩ := told
    -- the session has a name in common with the one the client was told of
    have own : objectOf (plane.sessions.objects ptr) = job.object := by
      rw [← object]
      exact sessions.alike ptr exists_ holder holderExists
        (sharesName.imp (·.trans identified.symm) (·.trans ticketed.symm))
    refine ⟨⟨exists_, ?_⟩, fun _ => whole, ?_⟩
    · intro other request' same
      cases same
      exact ⟨job, known, own.symm⟩
    · intro _ _
      exact ⟨client, job, known, own.symm, fills⟩
  case case3 => trivial
  case case4 => exact takesUp.elim

/-- Requests of others lead to other objects. -/
theorem begins_of_foreign
    {input : PutInput}
    (named : plane.sessions.Named)
    (foreign : Foreign jobs plane input) :
    Begins jobs memory plane none input := by
  revert foreign
  fun_cases Foreign jobs plane input
  all_goals intro foreign
  case case1 req draw =>
    exact ⟨nofun, fun target => absurd target foreign⟩
  case case2 request available =>
    intro ptr resolved
    have exists_ := (named_of_resolve named resolved).1
    refine ⟨⟨exists_, nofun⟩, by simp, ?_⟩
    intro whole target
    exact absurd target (foreign whole ptr resolved)
  case case3 media => exact foreign
  case case4 =>
    unfold Begins
    split <;> first | trivial | simp_all

/-! ### The sections of a handler -/

/-- What a section of a handler does: things grow, the sessions stay sound, and
the handler knows what it has in hand. -/
structure Does
    (jobs : Nat → Option PutJob)
    (memory : String → Bytes)
    (plane next : ControlPlane)
    (serving : Option (Nat × PutCall))
    (after : PutFrame) : Prop where
  grows : Grows jobs plane next
  sessions : SessionsSound jobs next.sessions
  hand : FrameSound jobs memory next serving after

section Does

variable
  {serving : Option (Nat × PutCall)}
  {after : PutFrame}

/-- A section that changes at most one state. -/
theorem Does.of_touched
    (sessions : SessionsSound jobs plane.sessions)
    (touched : Touched plane.sessions next.sessions)
    (same : ∀ id, Target jobs id → SameObject id plane.backend next.backend)
    (hand : Grows jobs plane next →
      FrameSound jobs memory next serving after) :
    Does jobs memory plane next serving after where
  grows := .of_sameObject (.of_touched touched) same
  sessions := sessions.of_extends (.of_touched touched)
    touched.onlyStates.allocated
  hand := hand (.of_sameObject (.of_touched touched) same)

/-- A handler that opens a session has one of the object of its request. -/
theorem hand_session
    {before after : Gateway.SessionPool.Frame}
    {input : Gateway.SessionPool.Input}
    {store : SessionStore}
    (named : plane.sessions.Named)
    (moved : Gateway.SessionPool.advance plane.sessions before input =
      some (store, after))
    (begins : before = .idle →
      Begins jobs memory plane serving (.call (.session input)))
    (grows : Grows jobs plane { plane with sessions := store })
    (hand : FrameSound jobs memory plane serving (.call (.call before))) :
    FrameSound jobs memory { plane with sessions := store } serving
      (.call (.call after)) := by
  revert moved
  fun_cases Gateway.SessionPool.advance plane.sessions before input
  all_goals
    intro moved
    simp only [Option.some.injEq, Prod.mk.injEq, reduceCtorEq] at moved
  all_goals obtain ⟨rfl, rfl⟩ := moved
  case case1 req draw answer known =>
    cases answer with
    | error error => trivial
    | ok ptr =>
        have answers := SessionStore.answers_of_lookupKey named known
        refine ⟨?_, ?_, (begins rfl).1⟩
        · exact (named.byIdempotency _ ptr
            (SessionStore.lookupKey_eq_ok known)).1
        · rw [objectOf, answers.bucket, answers.objectKey]
  case case2 req draw missed ptr made allocated =>
    cases allocated
    refine ⟨Nat.lt_succ_self _, ?_, (begins rfl).1⟩
    change objectOf (Function.update plane.sessions.objects _ _ _) = _
    rw [Function.update_self]
    rfl
  case case6 | case7 | case8 => exact OfRequest.grows hand grows
  all_goals trivial

/-- A section of the session store. -/
theorem does_session
    {before after : Gateway.SessionPool.Frame}
    {input : Gateway.SessionPool.Input}
    {store : SessionStore}
    (named : plane.sessions.Named)
    (sessions : SessionsSound jobs plane.sessions)
    (moved : Gateway.SessionPool.advance plane.sessions before input =
      some (store, after))
    (faithful : Faithful memory plane (.call (.call before))
      (.call (.session input)))
    (begins : before = .idle →
      Begins jobs memory plane serving (.call (.session input)))
    (hand : FrameSound jobs memory plane serving (.call (.call before))) :
    Does jobs memory plane { plane with sessions := store } serving
      (.call (.call after)) := by
  have moves := Gateway.SessionPool.moves_of_advance moved
  have grows : Grows jobs plane { plane with sessions := store } :=
    .of_sameObject (.of_moves moves) fun id _ => .refl id _
  refine ⟨grows, ?_, hand_session named moved begins grows hand⟩
  refine sessions.moves moved ?_
  rintro req draw rfl rfl
  exact ⟨faithful, (begins rfl).2⟩

/-- The hook of a session of an object has nothing to size. -/
theorem does_hook
    {req : OpenSessionParams}
    {ptr : SessionPtr}
    (executors : Gateway.Gds.Executors)
    (now : Nat)
    (sessions : SessionsSound jobs plane.sessions)
    (hand : OfRequest jobs plane serving req ptr) :
    Does jobs memory plane (openHook plane ptr executors now).2 serving
      (.call (.opened (openHook plane ptr executors now).1)) := by
  refine .of_touched sessions ?_ ?_ ?_
  · simp only [openHook]
    exact .finishOpen plane.sessions ptr _
  · intro id target
    refine .openHook id plane ptr executors now ?_
    rintro sized rfl
    exact sized (sessions.unsized ptr hand.exists_ target)
  · intro grows
    cases answer : (openHook plane ptr executors now).1 with
    | error error => trivial
    | ok result =>
        rw [openHook_eq_ok answer]
        exact ⟨req, hand.grows grows⟩

/-- The bytes of a chunk of a job are all bytes of the job. -/
theorem payload_of_receiveChunk
    {config : Config}
    {job : PutJob}
    {request : GdsChunkRequest}
    {ptr : SessionPtr}
    {transfer : Transfer}
    {source : Bytes}
    (fills : Fills memory job request)
    (faithful : Faithful memory plane (.call (.prepared .put request ptr))
      (.call (.transfer transfer)))
    (received : receiveChunk config.options request.chunkSize
      transfer.answers = .ok source) :
    source = job.payload := by
  unfold receiveChunk at received
  split at received
  · cases received
  split at received
  · next empty =>
      cases received
      rw [fills.size] at empty
      exact (List.length_eq_zero_iff.mp empty).symm
  · rw [← fills.token]
    exact faithful request ptr source rfl received

/-- Storing the bytes of a chunk. -/
theorem does_store
    {config : Config}
    {request : GdsChunkRequest}
    {ptr : SessionPtr}
    {transfer : Transfer}
    (object : request.uploadId = "")
    (sessions : SessionsSound jobs plane.sessions)
    (faithful : Faithful memory plane (.call (.prepared .put request ptr))
      (.call (.transfer transfer)))
    (hand : FrameSound jobs memory plane serving
      (.call (.prepared .put request ptr))) :
    Does jobs memory plane (storeChunk config plane ptr request transfer).1
      serving (storeChunk config plane ptr request transfer).2 := by
  obtain ⟨client, -, fills⟩ := hand
  unfold storeChunk
  split
  · exact .of_touched sessions (.markFailed _ _) (fun id _ => .refl id _)
      fun _ => trivial
  next source received =>
    rcases storeBytes_cases plane ptr request source transfer.backendNow with
      ⟨failed, message, answer, touched, same⟩ |
        ⟨data, bytes, answer, length, stored⟩
    · rw [answer]
      exact .of_touched sessions touched (fun id _ => same id) fun _ => trivial
    rw [answer]
    -- what the bytes are, when the object is one that a client writes
    have written : Target jobs (objectOf (plane.sessions.objects ptr)) →
        ∃ other job, jobs other = some job ∧
          job.object = objectOf (plane.sessions.objects ptr) ∧
            bytes.overwrite request.chunkOffset source = job.payload ∧
              CompositeBackend.writtenSize request.chunkOffset source
                (totalSize (plane.sessions.objects ptr)) =
                  job.payload.length := by
      intro target
      obtain ⟨other, job, known, own, fills⟩ := fills object target
      have payload := payload_of_receiveChunk fills faithful received
      have unsized : totalSize (plane.sessions.objects ptr) = none := by
        rw [totalSize, sessions.unsized ptr client.exists_ target]
        rfl
      have word : addWord 0 job.payload.length = job.payload.length := by
        rw [addWord_of_lt, Nat.zero_add]
        rw [Nat.zero_add, job.size]
        exact job.word
      rw [unsized, fills.offset, payload, Option.getD_none, word,
        Nat.max_self] at length
      refine ⟨other, job, known, own, ?_, ?_⟩
      · rw [fills.offset, payload,
          Bytes.overwrite_zero_of_length_le length.le]
      · rw [CompositeBackend.writtenSize, unsized, fills.offset, payload,
          Option.getD_none, word]
    have body : ∀ id, data.body id =
        if id = objectOf (plane.sessions.objects ptr) then
          bytes.overwrite request.chunkOffset source
        else plane.backend.data.body id := by
      intro id
      change data.bodies = Finmap.insert (objectOf _) _ _ at stored
      rw [MemoryDataStore.body, stored]
      split
      · next own => rw [own, Finmap.lookup_insert, Option.getD_some]
      · next other =>
          rw [Finmap.lookup_insert_of_ne _ other]
          rfl
    have grows : Grows jobs plane
        (plane.withBackend { plane.backend with data }) := by
      refine ⟨.of_touched (.inl rfl), ?_, fun id _ => .inl rfl⟩
      intro id target
      by_cases own : id = objectOf (plane.sessions.objects ptr)
      · subst own
        obtain ⟨other, job, known, object, bytes, -⟩ := written target
        exact .inr ⟨other, job, known, object,
          (body _).trans ((if_pos rfl).trans bytes)⟩
      · exact .inl ((body id).trans (if_neg own))
    refine ⟨grows, sessions, client.grows grows, ?_⟩
    intro target
    obtain ⟨other, job, known, object, bytes, size⟩ := written target
    exact ⟨⟨other, job, known, object,
      (body _).trans ((if_pos rfl).trans bytes)⟩, other, job, known, object,
        size⟩

/-- Registering an object. -/
theorem does_register
    {request : GdsChunkRequest}
    {ptr : SessionPtr}
    {metadata : Gateway.ObjectMetadata}
    (sessions : SessionsSound jobs plane.sessions)
    (hand : FrameSound jobs memory plane serving
      (.registering request ptr metadata)) :
    Does jobs memory plane (registerChunk plane ptr metadata).1 serving
      (registerChunk plane ptr metadata).2 := by
  obtain ⟨client, stored⟩ := hand
  have registered : Target jobs (objectOf (plane.sessions.objects ptr)) →
      Registered jobs (registerChunk plane ptr metadata).1.backend
        (objectOf (plane.sessions.objects ptr)) := by
    intro target
    obtain ⟨-, other, job, known, object, length⟩ := stored target
    exact ⟨other, job, metadata, known, object, Finmap.lookup_insert _, length⟩
  have grows : Grows jobs plane (registerChunk plane ptr metadata).1 := by
    refine ⟨.of_touched (.inl rfl), fun id _ => .inl rfl, ?_⟩
    intro id target
    by_cases own : id = objectOf (plane.sessions.objects ptr)
    · subst own
      exact .inr (registered target)
    · exact .inl (Finmap.lookup_insert_of_ne _ own)
  refine ⟨grows, sessions, ?_⟩
  intro other chunk serves
  obtain ⟨job, known, object⟩ := client.served other chunk serves
  have target : Target jobs (objectOf (plane.sessions.objects ptr)) :=
    ⟨other, job, known, object⟩
  rw [← object] at target stored registered
  exact ⟨job, known, grows.written (stored target).1, registered target⟩

/-- A handler that does not work on a write of an object may answer anything. -/
theorem hand_answered
    (unserved : ¬∃ client chunk, serving = some (client, .gdsPut chunk))
    (answer : Gateway.Gds.ChunkAnswer) :
    FrameSound jobs memory plane serving (.call (.answered answer)) := by
  cases answer with
  | error message => trivial
  | ok response =>
      intro client chunk serves
      exact absurd ⟨client, chunk, serves⟩ unserved

/-- Every section of a handler. -/
theorem does_of_putSteps
    {config : Config}
    {before : PutFrame}
    {input : PutInput}
    (named : plane.sessions.Named)
    (sessions : SessionsSound jobs plane.sessions)
    (steps : PutSteps config plane before input next after)
    (faithful : Faithful memory plane before input)
    (begins : before = .call (.call .idle) →
      Begins jobs memory plane serving input)
    (hand : FrameSound jobs memory plane serving before) :
    Does jobs memory plane next serving after := by
  cases steps with
  | call before after input next steps apart =>
      cases steps with
      | session before after input store moved =>
          refine does_session named sessions moved faithful ?_ hand
          rintro rfl
          exact begins rfl
      | hook req ptr executors now =>
          exact does_hook executors now sessions hand
      | refused op request available message failed =>
          exact .of_touched sessions (.prepareGdsChunk _ request available)
            (fun id _ => .refl id _) fun _ => trivial
      | prepared op request available ptr resolved =>
          have begun := begins rfl
          refine .of_touched sessions (.prepareGdsChunk _ request available)
            (fun id _ => .refl id _) fun grows => ?_
          cases op with
          | get => exact begun
          | put =>
              exact (begun ptr (resolve_of_prepareGdsChunk resolved)).grows
                grows
      | transferred op request ptr transfer =>
          have touched := Touched.transferChunk config plane op ptr request
            transfer
          cases op with
          | get =>
              have media := media_transferGet config plane ptr request transfer
              refine .of_touched sessions touched ?_ fun _ =>
                hand_answered hand _
              intro id _
              change SameObject id plane.backend
                (transferGet config plane ptr request
                  transfer).2.1.media.uploads.backend
              rw [media]
              exact .refl id _
          | put =>
              have part := apart request ptr rfl
              have unserved : ¬∃ client chunk,
                  serving = some (client, .gdsPut chunk) :=
                fun serves => part (hand.2.1 serves)
              refine .of_touched sessions touched ?_ fun _ =>
                hand_answered unserved _
              intro id _
              rw [transferChunk, if_pos part]
              exact .transferPart id config plane ptr request transfer
      | aborted sessionId =>
          exact .of_touched sessions (.markFailed _ _)
            (fun id _ => .refl id _) fun _ => trivial
      | others media =>
          exact .of_touched sessions (.inl rfl) (begins rfl) fun _ => trivial
  | stored request ptr transfer object =>
      exact does_store object sessions faithful hand
  | registered request ptr metadata => exact does_register sessions hand

end Does

/-! ### The network -/

/-- A section of a handler, for a client or not, keeps the invariant. -/
theorem Sound.section_
    {config : Config}
    {host : Host}
    {sent : List (Nat × PutCall)}
    {positions : Nat → Position}
    {thread : Nat}
    {input : PutInput}
    {pool : Pool ControlPlane PutFrame}
    {serving : Option (Nat × PutCall)}
    (sound : Sound jobs memory first host sent positions)
    (stepped : host.pool.step (advancePut config) (thread, input) = some pool)
    (faithful : Faithful memory host.pool.shared (host.pool.threads thread)
      input)
    (begins : host.pool.threads thread = .call (.call .idle) →
      Begins jobs memory host.pool.shared serving input)
    (kept : host.pool.threads thread ≠ .call (.call .idle) →
      serving = host.serving thread) :
    Sound jobs memory first
      ⟨pool, Function.update host.serving thread serving⟩ sent positions := by
  obtain ⟨next, frame, moved, rfl⟩ := Pool.step_eq_some stepped
  have steps := putSteps_of_advancePut moved
  have hand : FrameSound jobs memory host.pool.shared serving
      (host.pool.threads thread) := by
    by_cases idle : host.pool.threads thread = .call (.call .idle)
    · rw [idle]
      trivial
    · rw [kept idle]
      exact sound.frames thread
  have does := does_of_putSteps sound.grounded.named sound.sessions steps
    faithful begins hand
  exact sound.advance does.grows (sound.grounded.steps steps) does.sessions
    does.hand

/-- A step of the gateway keeps the invariant. -/
theorem Sound.serve
    {config : Config}
    {host later : Host}
    {sent : List (Nat × PutCall)}
    {positions : Nat → Position}
    {clients : Nat → Program PutCall PutCall.Answer
      (Client.Result TransferOutcome)}
    {input : HostInput}
    (sound : Sound jobs memory first host sent positions)
    (allowed : Environment jobs memory ⟨host, sent, clients⟩ (.serve input))
    (served : serve config sent host input = some later) :
    Sound jobs memory first later sent positions := by
  cases input with
  | take thread client call input =>
      rw [EndToEnd.serve] at served
      split at served
      · next arrived =>
          obtain ⟨pool, stepped, rfl⟩ := Option.map_eq_some_iff.mp served
          exact sound.section_ stepped allowed
            (fun _ => begins_of_takesUp sound.grounded.named sound.sessions
              (sound.sent client call arrived.1) arrived.2.1)
            fun busy => absurd arrived.2.2 busy
      · cases served
  | go thread input =>
      obtain ⟨pool, stepped, rfl⟩ := Option.map_eq_some_iff.mp served
      by_cases idle : host.pool.threads thread = .call (.call .idle)
      · rw [if_pos idle]
        exact sound.section_ stepped allowed.1
          (fun _ => begins_of_foreign sound.grounded.named allowed.2)
          fun busy => absurd idle busy
      · rw [if_neg idle]
        have kept : Sound jobs memory first
            ⟨pool, Function.update host.serving thread (host.serving thread)⟩
            sent positions :=
          sound.section_ stepped allowed.1 (fun begun => absurd begun idle)
            fun _ => rfl
        rwa [Function.update_eq_self] at kept

/-- What is sent is of the job of the client. -/
theorem Sound.send
    {host : Host}
    {sent : List (Nat × PutCall)}
    {positions : Nat → Position}
    {client : Nat}
    {call : PutCall}
    (sound : Sound jobs memory first host sent positions)
    (allowed : (putProtocol (jobs client)).allows (positions client) call) :
    Sound jobs memory first host ((client, call) :: sent) positions := by
  refine { sound with sent := ?_ }
  intro other request member
  rcases List.mem_cons.mp member with same | member
  · cases same
    cases call with
    | openSession opening => exact allowed
    | gdsPut chunk =>
        obtain ⟨job, known, covers⟩ := allowed
        have position := sound.positions client job known
        refine ⟨job, known, ⟨covers.offset, ?_, ?_⟩, covers.object, ?_⟩
        · rw [covers.size, job.size]
        · exact position.tokens _ covers.token
        · exact position.sessions _ covers.session
    | now | randomWord | acquireToken | abortSession => trivial
  · exact sound.sent other request member

/-- A session that a handler has opened for a client is of the object of its
job. -/
theorem Sound.told
    {host : Host}
    {sent : List (Nat × PutCall)}
    {positions : Nat → Position}
    {client thread : Nat}
    {job : PutJob}
    {opening : Client.Gds.SessionOpening}
    {response : Client.OpenSessionResponse}
    (sound : Sound jobs memory first host sent positions)
    (known : jobs client = some job)
    (answered : possible host client thread
      ⟨.openSession opening, .answered response⟩ = true) :
    Told host.pool.shared.sessions job.object
      (response.sessionId, response.ticket) := by
  obtain ⟨serves, answer⟩ := of_decide_eq_true answered
  obtain ⟨ptr, opens, rfl⟩ := Option.map_eq_some_iff.mp answer
  have frame : host.pool.threads thread = .call (.opened (.ok ptr)) := by
    revert opens
    fun_cases opened (host.pool.threads thread) <;> intro opens <;> cases opens
    rfl
  have hand := sound.frames thread
  rw [frame, serves] at hand
  obtain ⟨req, request⟩ := hand
  obtain ⟨own, ownJob, object⟩ := request.served client opening rfl
  cases known.symm.trans ownJob
  exact ⟨ptr, request.exists_, rfl, rfl, request.object.trans object.symm⟩

/-- The object of a client whose chunk was answered is written and
registered. -/
theorem Sound.stored
    {host : Host}
    {sent : List (Nat × PutCall)}
    {positions : Nat → Position}
    {client thread : Nat}
    {job : PutJob}
    {chunk : GdsChunkRequest}
    {response : Gateway.Gds.GdsChunkResponse}
    (sound : Sound jobs memory first host sent positions)
    (known : jobs client = some job)
    (answered : possible host client thread
      ⟨.gdsPut chunk, .answered response⟩ = true) :
    Written jobs host.pool.shared.backend job.object ∧
      Registered jobs host.pool.shared.backend job.object := by
  obtain ⟨serves, frame⟩ := of_decide_eq_true answered
  have hand := sound.frames thread
  rw [frame] at hand
  obtain ⟨own, ownJob, written, registered⟩ := hand client chunk serves
  cases known.symm.trans ownJob
  exact ⟨written, registered⟩

/-- What a client is answered is of its job. -/
theorem Sound.receive
    {host : Host}
    {sent : List (Nat × PutCall)}
    {positions : Nat → Position}
    {clients : Nat → Program PutCall PutCall.Answer
      (Client.Result TransferOutcome)}
    {client thread : Nat}
    {oracle : ∀ call, PutCall.Answer call}
    {call : PutCall}
    {rest : PutCall.Answer call →
      Program PutCall PutCall.Answer (Client.Result TransferOutcome)}
    (sound : Sound jobs memory first host sent positions)
    (allowed : Environment jobs memory ⟨host, sent, clients⟩
      (.receive client thread oracle))
    (calls : clients client = .call call rest)
    (asks : (putProtocol (jobs client)).allows (positions client) call)
    (answered : possible host client thread ⟨call, oracle call⟩ = true) :
    Sound jobs memory first host sent
      (Function.update positions client
        ((putProtocol (jobs client)).next (positions client)
          ⟨call, oracle call⟩)) := by
  refine { sound with positions := ?_ }
  intro other job known
  by_cases same : other = client
  · subst same
    rw [Function.update_self]
    have position := sound.positions other job known
    cases call with
    | openSession opening =>
        cases reply : oracle (.openSession opening) with
        | answered response =>
            rw [reply] at answered
            have told := sound.told known answered
            exact ⟨List.forall_mem_cons.mpr ⟨told, position.sessions⟩,
              position.tokens, position.stored⟩
        | notInitialized | failed => exact position
    | acquireToken ptr size =>
        cases reply : oracle (.acquireToken ptr size) with
        | ok token =>
            obtain ⟨own, ownJob, samePtr, sameSize⟩ := asks
            cases known.symm.trans ownJob
            have payload := allowed job ptr size rest token known calls samePtr
              sameSize reply
            exact ⟨position.sessions,
              List.forall_mem_cons.mpr ⟨payload, position.tokens⟩,
              position.stored⟩
        | error => exact position
    | gdsPut chunk =>
        cases reply : oracle (.gdsPut chunk) with
        | answered response =>
            rw [reply] at answered
            exact ⟨position.sessions, position.tokens,
              fun _ => sound.stored known answered⟩
        | notInitialized | failed => exact position
    | now | randomWord | abortSession => exact position
  · rw [Function.update_of_ne same]
    exact sound.positions other job known

end Preservation

/-! ## The theorem -/

/-- The invariant is one of the network. -/
theorem keeps_sound
    (config : Config)
    (jobs : Nat → Option PutJob)
    (memory : String → Bytes)
    (first : CompositeBackend) :
    Network.Keeps possible (serve config) (Environment jobs memory)
      (fun client => putProtocol (jobs client)) (Sound jobs memory first) where
  send := fun _ _ _ _ sound allowed => sound.send allowed
  receive := fun _ _ _ _ _ _ _ sound allowed calls asks answered =>
    ⟨trivial, sound.receive allowed calls asks answered⟩
  serve := fun _ _ _ _ sound allowed served => sound.serve allowed served

/-- What is known of the end of a client. -/
def Ends
    (jobs : Nat → Option PutJob)
    (client : Nat)
    (position : Position)
    (result : Client.Result TransferOutcome) : Prop :=
  ∀ job, jobs client = some job → Reports job position result

theorem follow_programs
    (jobs : Nat → Option PutJob)
    (network : PutNetwork)
    (clients : network.clients = programs jobs) :
    Network.Follow (fun client => putProtocol (jobs client)) (Ends jobs) network
      fun _ => .start := by
  intro client
  rw [clients, programs]
  cases known : jobs client with
  | none =>
      intro job same
      rw [known] at same
      cases same
  | some job =>
      change job.program.Follows (putProtocol (jobs client))
        (Ends jobs client) .start
      rw [known]
      refine (follows_program job .start).mono ?_
      intro position result reports other same
      rw [known] at same
      cases same
      exact reports

/-- At first nothing is on its way, and nobody has a session. -/
theorem sound_initial
    {jobs : Nat → Option PutJob}
    (memory : String → Bytes)
    {host : Host}
    (initial : host.Initial) :
    Sound jobs memory host.pool.shared.backend host [] fun _ => .start := by
  obtain ⟨gatewayId, sessionTtl, media, rfl⟩ := initial
  exact
    { grounded := Gateway.SessionPool.Grounded.init gatewayId sessionTtl
      sessions := ⟨nofun, nofun⟩
      sent := nofun
      frames := fun _ => trivial
      positions := fun _ _ _ => ⟨nofun, nofun, nofun⟩
      whole := fun _ _ => .inl rfl }

section Reported

variable
  {jobs : Nat → Option PutJob}
  {memory : String → Bytes}
  {first : CompositeBackend}
  {network : PutNetwork}
  {positions : Nat → Position}
  {client : Nat}
  {job : PutJob}
  {outcome : TransferOutcome}

/-- An object with one writer that is written has its bytes. -/
theorem Written.body_of_alone
    {backend : CompositeBackend}
    (written : Written jobs backend job.object)
    (known : jobs client = some job)
    (only : ∀ other rival, jobs other = some rival →
      rival.object = job.object → other = client) :
    backend.data.body job.object = job.payload := by
  obtain ⟨writer, writes, writesJob, object, body⟩ := written
  obtain rfl := only writer writes writesJob object
  cases known.symm.trans writesJob
  exact body

/-- An object with one writer that is registered has its length. -/
theorem Registered.head_of_alone
    {backend : CompositeBackend}
    (registered : Registered jobs backend job.object)
    (known : jobs client = some job)
    (only : ∀ other rival, jobs other = some rival →
      rival.object = job.object → other = client) :
    ∃ metadata, backend.head job.request.bucket job.request.key =
        .ok metadata ∧ metadata.contentLength = job.payload.length := by
  obtain ⟨writer, writes, metadata, writesJob, object, found, length⟩ :=
    registered
  obtain rfl := only writer writes writesJob object
  cases known.symm.trans writesJob
  refine ⟨metadata, ?_, length⟩
  rw [PutJob.object] at found
  rw [CompositeBackend.head, Gateway.MemoryIndexStore.head, found]

end Reported

/-- A write of two bytes. -/
def twoBytes : PutJob :=
  ⟨true, {}, ⟨⟨"bucket", "key", 30000, ""⟩, ""⟩, ⟨4096, 2, .cudaDevice⟩, [7, 8],
    rfl, by decide⟩

/-- The only client writes the two bytes. -/
def oneWriter (client : Nat) : Option PutJob :=
  if client = 0 then some twoBytes else none

def writerConfig : Config := ⟨id, .default, true⟩

def writerStart : PutNetwork :=
  ⟨⟨⟨⟨.init "gateway" 10, ⟨.init 16 10, fun _ => ∅⟩⟩,
      fun _ => .call (.call .idle)⟩, fun _ => none⟩, [], programs oneWriter⟩

/-- What the client opens its session with. -/
def writerOpening : Client.Gds.SessionOpening :=
  Client.Gds.makeSessionHandshake {}
    { operation := .put
      bucket := "bucket"
      key := "key"
      timeout := 30000
      bufferType := .cudaDevice
      path := .gpuDirect } 1 2

/-- The session that the gateway answers. -/
def writerSession : Client.OpenSessionResponse :=
  ⟨"req-0000000000000001", "ses-0000000000000002",
    Gateway.makeRandomId "ticket-" (3, 4), "gateway"⟩

def writerChunk : GdsChunkRequest :=
  ⟨"ses-0000000000000002", Gateway.makeRandomId "ticket-" (3, 4), "bucket",
    "key", "", 0, 2, "token", "", 0⟩

def writerAnswer : Gateway.Gds.GdsChunkResponse :=
  Gateway.Gds.fillGdsResponse "gateway" "gds-cuobject-rdma-read"
    (Gateway.makeMeta 2 6).etag (Gateway.makeMeta 2 6).version 0

/-- What the client is answered. -/
def writerOracle : ∀ call, PutCall.Answer call
  | .now => (0 : Int)
  | .randomWord => (1 : UInt64)
  | .openSession _ => .answered writerSession
  | .acquireToken _ _ => .ok "token"
  | .gdsPut _ => .answered writerAnswer
  | .abortSession _ => .notInitialized

def secondWord : ∀ call, PutCall.Answer call
  | .randomWord => (2 : UInt64)
  | call => writerOracle call

def writerTransfer : Transfer :=
  ⟨⟨true, true, true, 2, "", fun index => if index = 0 then 7 else 8⟩, 5, 6, 0⟩

def writerEvents :
    List (Network.Event HostInput Nat PutCall PutCall.Answer) :=
  [.receive 0 0 writerOracle, .receive 0 0 writerOracle,
    .receive 0 0 writerOracle, .receive 0 0 secondWord, .send 0,
    .serve (.take 0 0 (.openSession writerOpening)
      (.call (.session (.create (arrives writerOpening)
        ⟨(0, 0), (0, 0), (3, 4), "", 0⟩)))),
    .serve (.go 0 (.call (.session .proceed))),
    .serve (.go 0 (.call (.session .proceed))),
    .serve (.go 0 (.call (.session .proceed))),
    .serve (.go 0 (.call (.hook ⟨false, some true⟩ 0))),
    .receive 0 0 writerOracle, .receive 0 0 writerOracle, .send 0,
    .serve (.take 1 0 (.gdsPut writerChunk)
      (.call (.chunk .put writerChunk true))),
    .serve (.go 1 (.call (.transfer writerTransfer))),
    .serve (.go 1 .register), .receive 0 1 writerOracle]

/-- What is assumed of the events of this run, computed. -/
def writerAllowed (network : PutNetwork) :
    Network.Event HostInput Nat PutCall PutCall.Answer → Bool
  | .serve (.take _ _ _ (.call (.session (.create _ _)))) =>
      network.service.pool.shared.sessions.allocated = 0
  | .serve (.take _ _ _ (.call (.chunk _ _ _))) => true
  | .serve (.go _ (.call (.session .proceed))) => true
  | .serve (.go _ (.call (.hook _ _))) => true
  | .serve (.go _ .register) => true
  | .serve (.go _ (.call (.transfer transfer))) =>
      match Gateway.Gds.pullChunk transfer.answers with
      | .ok bytes => bytes = [7, 8]
      | .error _ => true
  | .serve _ => false
  | .send _ => true
  | .receive _ _ _ => true

def writerRun : Option PutNetwork :=
  (machine writerConfig oneWriter).run
    (fun network event => writerAllowed network event = true) writerStart
    writerEvents

theorem writerRun_isSome : writerRun.isSome = true := by
  decide +kernel

theorem environment_of_writerAllowed
    (network : PutNetwork)
    (event : Network.Event HostInput Nat PutCall PutCall.Answer)
    (allowed : writerAllowed network event = true) :
    Environment oneWriter (fun _ => [7, 8]) network event := by
  revert allowed
  fun_cases writerAllowed network event
  all_goals intro allowed
  case case1 =>
    intro _ ptr exists_
    rw [of_decide_eq_true allowed] at exists_
    cases exists_
  case case2 | case9 => trivial
  case case3 | case4 | case5 => exact ⟨trivial, trivial⟩
  case case6 thread transfer bytes pulled =>
    refine ⟨?_, trivial⟩
    intro request ptr other _ received
    rw [received] at pulled
    cases pulled
    exact of_decide_eq_true allowed
  case case7 thread transfer error failed =>
    refine ⟨?_, trivial⟩
    intro request ptr other _ received
    rw [received] at failed
    cases failed
  case case8 => cases allowed
  case case10 client thread oracle =>
    intro job ptr size rest token known _ _ _ _
    unfold oneWriter at known
    split at known <;> cases known
    rfl

theorem path_writerRun :
    (machine writerConfig oneWriter).Path
      (Environment oneWriter fun _ => [7, 8]) writerStart writerEvents
      (writerRun.get writerRun_isSome) :=
  (Machine.path_of_run (Option.some_get writerRun_isSome).symm).mono
    environment_of_writerAllowed

end EndToEnd
end TurboAccess
